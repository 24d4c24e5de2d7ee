import ScriptedConsumer.Json.Number
import ScriptedConsumer.Json.Quoted

set_option autoImplicit false

/-! # Tokens

The parts of a document: words, numerals, quoted texts and punctuation, with blanks between them. A
quoted text is `none` where it is well formed and yet stands for no text. -/

namespace ScriptedConsumer.Json

/-- A part of a document. -/
inductive Token
  | null
  | bool (b : Bool)
  | number (n : Numeral)
  | text (s : Option String)
  | openArray
  | closeArray
  | openObject
  | closeObject
  | comma
  | colon
deriving DecidableEq, Repr

namespace Token

/-- The token that a punctuation character is. -/
def ofPunctuation? : Char → Option Token
  | '[' => some openArray
  | ']' => some closeArray
  | '{' => some openObject
  | '\x7d' => some closeObject
  | ',' => some comma
  | ':' => some colon
  | _ => none

/-- The word that a source begins with, and what follows it. -/
def ofWord? : Source → Option (Token × Source)
  | some 'n' :: some 'u' :: some 'l' :: some 'l' :: rest => some (null, rest)
  | some 't' :: some 'r' :: some 'u' :: some 'e' :: rest => some (bool true, rest)
  | some 'f' :: some 'a' :: some 'l' :: some 's' :: some 'e' :: rest => some (bool false, rest)
  | _ => none

/-- The token that a source begins with, and what follows it. -/
def read? (s : Source) : Option (Token × Source) :=
  match s with
  | some c :: rest =>
      match ofPunctuation? c with
      | some t => some (t, rest)
      | none =>
          if c = '"' then (pieces rest).map fun (ps, rest) => (text (joinString ps), rest)
          else if c = '-' ∨ Text.isDigit c then
            (Numeral.read? s).map fun (n, rest) => (number n, rest)
          else ofWord? s
  | _ => none

theorem length_of_ofWord? {s rest : Source} {t : Token} (h : ofWord? s = some (t, rest)) :
    rest.length < s.length := by
  unfold ofWord? at h
  split at h <;> simp_all <;> omega

/-- Every token is made of one character at least. -/
theorem length_of_read? {s rest : Source} {t : Token} (h : read? s = some (t, rest)) :
    rest.length < s.length := by
  unfold read? at h
  split at h
  · split at h
    · simp_all
    · split at h
      · simp only [Option.map_eq_some_iff, Prod.exists] at h
        obtain ⟨_, _, hp, h⟩ := h
        have := length_of_pieces hp
        simp_all; omega
      · split at h
        · simp only [Option.map_eq_some_iff, Prod.exists] at h
          obtain ⟨_, _, hn, h⟩ := h
          have := Numeral.length_of_read? hn
          simp_all
        · exact length_of_ofWord? h
  · simp at h

/-- The tokens of a whole source, if it is made of tokens and blanks. -/
def readAll? (s : Source) : Option (List Token) :=
  match _hs : s.skipBlanks with
  | [] => some []
  | c :: cs =>
      match _h : read? (c :: cs) with
      | none => none
      | some (t, rest) => (readAll? rest).map (t :: ·)
termination_by s.length
decreasing_by
  have := length_of_read? _h
  have := Source.length_skipBlanks_le s
  rw [_hs] at this
  omega

end Token

end ScriptedConsumer.Json
