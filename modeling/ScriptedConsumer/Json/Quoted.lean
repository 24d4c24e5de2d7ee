import ScriptedConsumer.Json.Source

set_option autoImplicit false

/-! # Quoted texts

How a text stands in a document. The writer escapes quotation marks, backslashes and control
characters and nothing else. The reader goes in two steps: `pieces` finds the end of the quoted
text and checks the form of its escapes, and `join` makes the text of the pieces. So a quoted text
that stands for none, as it has half a surrogate pair or a gap, can still be passed over. -/

namespace ScriptedConsumer.Json

open Text (hexValue?)

/-! ## Writing -/

/-- The characters that are escaped by a backslash and one letter, each with its letter. -/
def shortEscapes : List (Char × Char) :=
  [('"', '"'), ('\\', '\\'), ('\x08', 'b'), ('\t', 't'), ('\n', 'n'), ('\x0c', 'f'), ('\r', 'r')]

/-- A character as it stands in a quoted text. -/
def escape (c : Char) : List Char :=
  match shortEscapes.lookup c with
  | some letter => ['\\', letter]
  | none =>
      if c.toNat < 32 then
        ['\\', 'u', '0', '0', (c.toNat / 16).digitChar, (c.toNat % 16).digitChar]
      else [c]

/-- A text in quotation marks. -/
def quote (cs : List Char) : List Char := '"' :: (cs.flatMap escape ++ ['"'])

/-! ## Pieces of a quoted text -/

/-- A piece of a quoted text. -/
inductive Piece
  | char (c : Char)
  | gap
  /-- A UTF-16 code unit, escaped by its number. -/
  | unit (n : Nat)
deriving DecidableEq, Repr

/-- The character of an escape of one letter. A slash may be escaped too, and never is. -/
def unescape? (letter : Char) : Option Char :=
  if letter = '/' then some '/' else (shortEscapes.find? (·.2 == letter)).map (·.1)

/-- The code unit of four hexadecimal digits. -/
def unit? (a b c d : Char) : Option Nat := do
  return 4096 * (← hexValue? a) + 256 * (← hexValue? b) + 16 * (← hexValue? c) + (← hexValue? d)

/-- The pieces up to the closing quotation mark, and what follows it. A control character must be
    escaped. -/
def pieces : Source → Option (List Piece × Source)
  | some '\\' :: some 'u' :: some a :: some b :: some c :: some d :: rest => do
      let n ← unit? a b c d
      let (ps, rest) ← pieces rest
      return (.unit n :: ps, rest)
  | some '\\' :: some c :: rest => do
      let c ← unescape? c
      let (ps, rest) ← pieces rest
      return (.char c :: ps, rest)
  | some c :: rest =>
      if c = '"' then some ([], rest)
      else if c = '\\' ∨ c.toNat < 32 then none
      else do
        let (ps, rest) ← pieces rest
        return (.char c :: ps, rest)
  | none :: rest => do
      let (ps, rest) ← pieces rest
      return (.gap :: ps, rest)
  | [] => none

/-! ## The text of the pieces -/

/-- Whether a code unit is the first half of a surrogate pair. -/
def isHighSurrogate (n : Nat) : Bool := 0xD800 ≤ n && n ≤ 0xDBFF

/-- Whether a code unit is the second half of a surrogate pair. -/
def isLowSurrogate (n : Nat) : Bool := 0xDC00 ≤ n && n ≤ 0xDFFF

/-- The text that pieces make. The two halves of a surrogate pair must stand side by side, both
    escaped, and make one character; a gap makes none. -/
def join : List Piece → Option (List Char)
  | [] => some []
  | .char c :: rest => (join rest).map (c :: ·)
  | .gap :: _ => none
  | .unit high :: rest =>
      if isHighSurrogate high then
        match rest with
        | .unit low :: rest =>
            if isLowSurrogate low then
              let c := Char.ofNat (0x10000 + 0x400 * (high - 0xD800) + (low - 0xDC00))
              (join rest).map (c :: ·)
            else none
        | _ => none
      else if isLowSurrogate high then none
      else (join rest).map (Char.ofNat high :: ·)

/-- The text that pieces make, as a string. -/
def joinString (ps : List Piece) : Option String := (join ps).map String.ofList

/-! ## Reading what was written -/

theorem unescape?_of_lookup {c letter : Char} (h : shortEscapes.lookup c = some letter) :
    unescape? letter = some c ∧ letter ≠ 'u' := by
  have mem : (c, letter) ∈ shortEscapes := by
    obtain ⟨before, after, hsplit, _⟩ := List.lookup_eq_some_iff.1 h
    simp [hsplit]
  have all : ∀ e ∈ shortEscapes, unescape? e.2 = some e.1 ∧ e.2 ≠ 'u' := by decide
  exact all _ mem

theorem ne_of_lookup_eq_none {c : Char} (h : shortEscapes.lookup c = none) :
    c ≠ '"' ∧ c ≠ '\\' := by
  constructor <;> rintro rfl <;> exact absurd h (by decide)

theorem unit?_digitChar {n : Nat} (h : n < 32) :
    unit? '0' '0' (n / 16).digitChar (n % 16).digitChar = some n := by
  have zero : hexValue? '0' = some 0 := rfl
  have high := Text.hexValue?_digitChar (show n / 16 < 16 by omega)
  have low := Text.hexValue?_digitChar (show n % 16 < 16 by omega)
  simp only [unit?, zero, high, low, Option.bind_eq_bind, Option.bind_some]
  congr 1
  omega

theorem pieces_letter {c letter : Char} (hc : unescape? letter = some c) (hu : letter ≠ 'u')
    {s rest : Source} {ps : List Piece} (h : pieces s = some (ps, rest)) :
    pieces (some '\\' :: some letter :: s) = some (.char c :: ps, rest) := by
  rw [pieces]
  · simp [hc, h]
  · simp [hu]

theorem pieces_unit {a b c d : Char} {n : Nat} (hn : unit? a b c d = some n)
    {s rest : Source} {ps : List Piece} (h : pieces s = some (ps, rest)) :
    pieces (some '\\' :: some 'u' :: some a :: some b :: some c :: some d :: s) =
      some (.unit n :: ps, rest) := by
  simp [pieces, hn, h]

theorem pieces_char {c : Char} (hquote : c ≠ '"') (hslash : c ≠ '\\') (h32 : ¬ c.toNat < 32)
    {s rest : Source} {ps : List Piece} (h : pieces s = some (ps, rest)) :
    pieces (some c :: s) = some (.char c :: ps, rest) := by
  rw [pieces]
  · simp only [hquote, hslash, h32, h, or_self, if_false]
    rfl
  · simp [hslash]
  · simp [hslash]

theorem join_unit {n : Nat} (h : n < 0xD800) {ps : List Piece} :
    join (.unit n :: ps) = (join ps).map (Char.ofNat n :: ·) := by
  have high : isHighSurrogate n = false := by simp [isHighSurrogate]; omega
  have low : isLowSurrogate n = false := by simp [isLowSurrogate]; omega
  rw [join.eq_def]
  simp only [high, low, Bool.false_eq_true, if_false]

/-- Reading a text that was written in quotation marks, from behind the first of them, gives the
    text back, and leaves what follows the last of them. -/
theorem pieces_quote (cs : List Char) (rest : Source) :
    ∃ ps, pieces ((cs.flatMap escape).map some ++ some '"' :: rest) = some (ps, rest)
      ∧ join ps = some cs := by
  induction cs with
  | nil => exact ⟨[], by simp [pieces], rfl⟩
  | cons c cs ih =>
      obtain ⟨ps, hps, hcs⟩ := ih
      simp only [List.flatMap_cons, List.append_assoc, List.map_append]
      rw [escape]
      split
      · next letter hletter =>
        obtain ⟨hc, hu⟩ := unescape?_of_lookup hletter
        exact ⟨.char c :: ps, pieces_letter hc hu hps, by rw [join, hcs]; rfl⟩
      · next hnone =>
        obtain ⟨hquote, hslash⟩ := ne_of_lookup_eq_none hnone
        split
        · next h32 =>
          refine ⟨.unit c.toNat :: ps, pieces_unit (unit?_digitChar h32) hps, ?_⟩
          rw [join_unit (by omega), hcs, Char.ofNat_toNat]
          rfl
        · next h32 =>
          exact ⟨.char c :: ps, pieces_char hquote hslash h32 hps, by rw [join, hcs]; rfl⟩

/-! ## What is left is shorter -/

theorem length_of_pieces {s : Source} {ps : List Piece} {rest : Source}
    (h : pieces s = some (ps, rest)) : rest.length < s.length := by
  fun_induction pieces s generalizing ps rest <;>
    simp_all [Option.bind_eq_some_iff] <;> grind

end ScriptedConsumer.Json
