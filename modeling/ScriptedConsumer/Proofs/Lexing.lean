import Mathlib.Data.List.Forall2
import ScriptedConsumer.Json.Value

set_option autoImplicit false

/-! # The tokens of a written value

The compact text of a value is made of the texts of its tokens, one behind the other. Each of them
but a numeral says by itself where it ends. A numeral goes on as long as what follows can belong to
it, so that what is read depends on what follows; what follows a value in a document is a comma, a
closing bracket or nothing, and none of them can. `Lexes` is therefore about texts with anything
behind them that ends a numeral, and `Value.Integral.lexes` about all values whose numbers are
integers, which are those that the value types are written as. -/

namespace ScriptedConsumer

theorem Text.exists_digit (n : Nat) : ∃ d ds, natText n = d :: ds ∧ isDigit d = true := by
  obtain ⟨d, ds, hds⟩ := List.exists_cons_of_ne_nil (natText_ne_nil n)
  have hall := all_isDigit_natText n
  rw [hds, List.all_cons, Bool.and_eq_true] at hall
  exact ⟨d, ds, hds, hall.1⟩

theorem Text.natText_eq_cons {n : Nat} (hn : n ≠ 0) :
    ∃ d ds, natText n = d :: ds ∧ d ≠ '0' := by
  induction n using Nat.strongRecOn with
  | ind n ih =>
      rw [natText_eq]
      split
      · next hsmall =>
          refine ⟨n.digitChar, [], rfl, fun hzero => hn ?_⟩
          have hvalue := (digitChar_spec hsmall).2
          rw [hzero] at hvalue
          exact hvalue.symm
      · next hlarge =>
          obtain ⟨d, ds, hds, hd⟩ := ih (n / 10) (by omega) (by omega)
          exact ⟨d, ds ++ [(n % 10).digitChar], by rw [hds, List.cons_append], hd⟩

end ScriptedConsumer

namespace ScriptedConsumer.Json

/-- Every number in the value is an integer. -/
inductive Value.Integral : Value → Prop
  | null : Integral .null
  | bool (b : Bool) : Integral (.bool b)
  | int (n : Int) : Integral (.int n)
  | text (s : String) : Integral (.text s)
  | array {items : List Value} (h : ∀ v ∈ items, Integral v) : Integral (.array items)
  | object {fields : List (String × Value)} (h : ∀ f ∈ fields, Integral f.2) :
      Integral (.object fields)

namespace Value

mutual

/-- The tokens of the compact text of a value. -/
def tokens : Value → List Token
  | null => [.null]
  | bool b => [.bool b]
  | number n => [.number n.numeral]
  | text s => [.text s]
  | array items => .openArray :: ([.comma].intercalate (itemTokens items) ++ [.closeArray])
  | object fields => .openObject :: ([.comma].intercalate (fieldTokens fields) ++ [.closeObject])

/-- The tokens of the items of an array. -/
def itemTokens : List Value → List (List Token)
  | [] => []
  | v :: rest => v.tokens :: itemTokens rest

/-- The tokens of the fields of an object. -/
def fieldTokens : List (String × Value) → List (List Token)
  | [] => []
  | (name, v) :: rest => (.text name :: .colon :: v.tokens) :: fieldTokens rest

end

end Value

/-! ## Numerals -/

/-- A numeral that stands before the source is at its end. -/
def Source.EndsNumeral (s : Source) : Prop :=
  ∀ c rest, s = some c :: rest → Text.isDigit c = false ∧ c ≠ '.' ∧ c ≠ 'e' ∧ c ≠ 'E'

variable {s : Source}

namespace Source

theorem endsNumeral_nil : EndsNumeral [] := nofun

theorem endsNumeral_cons {c : Char} (h : Text.isDigit c = false ∧ c ≠ '.' ∧ c ≠ 'e' ∧ c ≠ 'E')
    (s : Source) : EndsNumeral (some c :: s) := by
  rintro c' rest ⟨⟩
  exact h

theorem takeDigits_append {ds : List Char} (hds : ds.all Text.isDigit = true)
    (h : s.EndsNumeral) : (ofChars ds ++ s).takeDigits = (ds, s) := by
  induction ds with
  | nil =>
      show s.takeDigits = ([], s)
      match s with
      | [] => rfl
      | none :: rest => rfl
      | some c :: rest => rw [takeDigits, if_neg (by simp [(h c rest rfl).1])]
  | cons d ds ih =>
      rw [List.all_cons, Bool.and_eq_true] at hds
      show takeDigits (some d :: (ofChars ds ++ s)) = _
      rw [takeDigits, if_pos hds.1, ih hds.2]

end Source

namespace Numeral

theorem whole?_natText (n : Nat) (h : s.EndsNumeral) :
    whole? (Source.ofChars (Text.natText n) ++ s) = some (Text.natText n, s) := by
  rcases eq_or_ne n 0 with rfl | hn
  · rfl
  · obtain ⟨d, ds, hds, hd⟩ := Text.natText_eq_cons hn
    have htake := Source.takeDigits_append (Text.all_isDigit_natText n) h
    rw [hds] at htake ⊢
    unfold whole?
    split
    · next rest heq => exact absurd (Option.some.inj (List.cons.inj heq).1) hd
    · rw [htake]

theorem fraction?_of_endsNumeral (h : s.EndsNumeral) : fraction? s = some (none, s) := by
  unfold fraction?
  split
  · next rest => exact absurd rfl (h _ _ rfl).2.1
  · rfl

theorem exponent?_of_endsNumeral (h : s.EndsNumeral) : exponent? s = some (none, s) := by
  unfold exponent?
  split
  · next c rest =>
      obtain ⟨-, -, hsmall, hcapital⟩ := h c rest rfl
      rw [if_neg (by simp [hsmall, hcapital])]
  · rfl

theorem unsigned?_natText (negative : Bool) (n : Nat) (h : s.EndsNumeral) :
    unsigned? negative (Source.ofChars (Text.natText n) ++ s) =
      some ({ negative, whole := Text.natText n }, s) := by
  simp only [unsigned?, whole?_natText n h, fraction?_of_endsNumeral h,
    exponent?_of_endsNumeral h, Option.bind_eq_bind, Option.bind_some]
  rfl

theorem text_ofInt (i : Int) : (ofInt i).text = Text.intText i := by
  unfold text ofInt Text.intText
  by_cases hi : i < 0 <;> simp [hi]

/-- The text of an integer begins with a minus sign or a digit. -/
theorem exists_begins (i : Int) :
    ∃ c cs, (ofInt i).text = c :: cs ∧ (c = '-' ∨ Text.isDigit c = true) := by
  rw [text_ofInt]
  unfold Text.intText
  split
  · exact ⟨_, _, rfl, .inl rfl⟩
  · obtain ⟨d, ds, hds, hd⟩ := Text.exists_digit i.natAbs
    exact ⟨d, ds, hds, .inr hd⟩

/-- A numeral of an integer that is followed by nothing that could belong to it is read. -/
theorem read?_ofInt (i : Int) (h : s.EndsNumeral) :
    read? (Source.ofChars (ofInt i).text ++ s) = some (ofInt i, s) := by
  rw [text_ofInt]
  unfold Text.intText
  by_cases hi : i < 0
  · rw [if_pos hi]
    show unsigned? true (Source.ofChars (Text.natText i.natAbs) ++ s) = _
    rw [unsigned?_natText true _ h, ofInt, decide_eq_true hi]
  · rw [if_neg hi]
    have hread : read? (Source.ofChars (Text.natText i.natAbs) ++ s) =
        unsigned? false (Source.ofChars (Text.natText i.natAbs) ++ s) := by
      obtain ⟨d, ds, hds, hd⟩ := Text.exists_digit i.natAbs
      rw [hds]
      unfold read?
      split
      · next heq =>
          obtain rfl : d = '-' := Option.some.inj (List.cons.inj heq).1
          cases hd
      · rfl
    rw [hread, unsigned?_natText false _ h, ofInt, decide_eq_false hi]

end Numeral

/-! ## Single tokens -/

namespace Token

/-- No token begins with a blank. -/
theorem skipBlanks_of_read? {t : Token} {rest : Source} (h : read? s = some (t, rest)) :
    s.skipBlanks = s := by
  match s with
  | [] => rfl
  | none :: s => rfl
  | some c :: s =>
      rw [Source.skipBlanks]
      split
      · next hblank =>
          simp only [Source.isBlank, Bool.or_eq_true, beq_iff_eq] at hblank
          rcases hblank with ((rfl | rfl) | rfl) | rfl <;> cases h
      · rfl

theorem readAll?_nil : readAll? [] = some [] := by
  rw [readAll?]
  rfl

/-- A source that begins with a token is made of that token and the tokens of what follows. -/
theorem readAll?_of_read? {t : Token} {rest : Source} (h : read? s = some (t, rest)) :
    readAll? s = (readAll? rest).map (t :: ·) := by
  rw [readAll?]
  -- what the loop looks at is the source itself, which is not empty
  split
  · next hs =>
      rw [skipBlanks_of_read? h] at hs
      rw [hs] at h
      cases h
  · next c cs hs =>
      rw [skipBlanks_of_read? h] at hs
      rw [hs] at h
      split
      · next hnone =>
          rw [hnone] at h
          cases h
      · next t' rest' hsome =>
          rw [hsome] at h
          cases h
          rfl

theorem read?_of_punctuation {c : Char} {t : Token} (h : ofPunctuation? c = some t) (s : Source) :
    read? (some c :: s) = some (t, s) := by
  simp only [read?, h]

theorem read?_quote (cs : List Char) (s : Source) :
    read? (Source.ofChars (quote cs) ++ s) = some (.text (some (String.ofList cs)), s) := by
  obtain ⟨ps, hps, hjoin⟩ := pieces_quote cs s
  have hsource : Source.ofChars (quote cs) ++ s =
      some '"' :: ((cs.flatMap escape).map some ++ some '"' :: s) := by
    simp [Source.ofChars, quote]
  rw [hsource]
  show (pieces _).map _ = _
  simp only [hps, Option.map_some, joinString, hjoin]

/-- What begins with a minus sign or a digit is a numeral, if it is a token at all. -/
theorem read?_of_begins {c : Char} (hc : c = '-' ∨ Text.isDigit c = true) (s : Source) :
    read? (some c :: s) = (Numeral.read? (some c :: s)).map fun (n, rest) => (number n, rest) := by
  have hpunctuation : ofPunctuation? c = none := by
    unfold ofPunctuation?
    split <;> first | rfl | exact absurd hc (by decide)
  have hquote : c ≠ '"' := by
    rintro rfl
    exact absurd hc (by decide)
  simp only [read?, hpunctuation, if_neg hquote, if_pos hc]

theorem read?_ofInt (i : Int) (h : s.EndsNumeral) :
    read? (Source.ofChars (Numeral.ofInt i).text ++ s) = some (.number (.ofInt i), s) := by
  obtain ⟨c, cs, htext, hc⟩ := Numeral.exists_begins i
  have hnumeral := Numeral.read?_ofInt i h
  rw [htext] at hnumeral ⊢
  exact (read?_of_begins hc _).trans ((congrArg (Option.map _) hnumeral).trans rfl)

end Token

/-! ## Texts of tokens -/

/-- The text is made of the tokens, whatever follows it that ends a numeral. -/
def Lexes (cs : List Char) (ts : List Token) : Prop :=
  ∀ s : Source, s.EndsNumeral →
    Token.readAll? (Source.ofChars cs ++ s) = (Token.readAll? s).map (ts ++ ·)

namespace Lexes

theorem of_read? {cs : List Char} {t : Token}
    (h : ∀ s : Source, s.EndsNumeral → Token.read? (Source.ofChars cs ++ s) = some (t, s)) :
    Lexes cs [t] :=
  fun s hs => Token.readAll?_of_read? (h s hs)

theorem nil : Lexes [] [] := by
  intro s _
  show Token.readAll? s = (Token.readAll? s).map id
  rw [Option.map_id]
  rfl

theorem append {cs cs' : List Char} {ts ts' : List Token} (h : Lexes cs ts) (h' : Lexes cs' ts')
    (hends : ∀ s : Source, s.EndsNumeral → (Source.ofChars cs' ++ s).EndsNumeral) :
    Lexes (cs ++ cs') (ts ++ ts') := by
  intro s hs
  calc Token.readAll? (Source.ofChars (cs ++ cs') ++ s)
      = Token.readAll? (Source.ofChars cs ++ (Source.ofChars cs' ++ s)) := by
        simp [Source.ofChars]
    _ = (Token.readAll? s).map (ts ++ ts' ++ ·) := by
        rw [h _ (hends s hs), h' s hs, Option.map_map]
        simp [Function.comp_def]

variable {cs cs' : List Char} {ts ts' : List Token} {c : Char} {t : Token}

theorem cons_punctuation (hc : Token.ofPunctuation? c = some t) (h : Lexes cs ts) :
    Lexes (c :: cs) (t :: ts) := by
  intro s hs
  show Token.readAll? (some c :: (Source.ofChars cs ++ s)) = _
  rw [Token.readAll?_of_read? (Token.read?_of_punctuation hc _), h s hs, Option.map_map]
  rfl

theorem append_punctuation (hc : Token.ofPunctuation? c = some t) (h : Lexes cs ts)
    (h' : Lexes cs' ts') : Lexes (cs ++ c :: cs') (ts ++ t :: ts') := by
  refine h.append (h'.cons_punctuation hc) fun s _ => Source.endsNumeral_cons ?_ _
  -- no punctuation can belong to a numeral
  unfold Token.ofPunctuation? at hc
  split at hc <;> first | decide | cases hc

theorem quote (text : String) : Lexes (quote text.toList) [.text text] := by
  refine of_read? fun s _ => ?_
  rw [Token.read?_quote, String.ofList_toList]

theorem commas {texts : List (List Char)} {tss : List (List Token)}
    (h : List.Forall₂ Lexes texts tss) :
    Lexes (Value.commas texts) ([Token.comma].intercalate tss) := by
  unfold Value.commas
  induction h with
  | nil => exact nil
  | @cons cs ts texts tss hfirst hrest ih =>
      cases hrest with
      | nil =>
          rw [List.intercalate_singleton, List.intercalate_singleton]
          exact hfirst
      | cons =>
          rw [List.intercalate_cons_cons, List.intercalate_cons_cons, List.append_assoc,
            List.append_assoc]
          exact hfirst.append_punctuation rfl ih

theorem items {items : List Value} (h : ∀ v ∈ items, Lexes v.chars v.tokens) :
    List.Forall₂ Lexes (Value.itemChars items) (Value.itemTokens items) := by
  induction items with
  | nil => exact .nil
  | cons v rest ih =>
      exact .cons (h v (List.mem_cons_self ..)) (ih fun v' hv' => h v' (List.mem_cons_of_mem _ hv'))

theorem fields {fields : List (String × Value)} (h : ∀ f ∈ fields, Lexes f.2.chars f.2.tokens) :
    List.Forall₂ Lexes (Value.fieldChars fields) (Value.fieldTokens fields) := by
  induction fields with
  | nil => exact .nil
  | cons f rest ih =>
      exact .cons ((quote f.1).append_punctuation rfl (h f (List.mem_cons_self ..)))
        (ih fun f' hf' => h f' (List.mem_cons_of_mem _ hf'))

end Lexes

/-! ## Values -/

/-- **The compact text of a value is made of its tokens**, if all its numbers are integers. -/
theorem Value.Integral.lexes {v : Value} (h : v.Integral) : Lexes v.chars v.tokens := by
  induction h with
  | null => exact .of_read? fun s _ => rfl
  | bool b => cases b <;> exact .of_read? fun s _ => rfl
  | int n => exact .of_read? fun s hs => Token.read?_ofInt n hs
  | text s => exact .quote s
  | array h ih =>
      exact ((Lexes.commas (Lexes.items ih)).append_punctuation rfl .nil).cons_punctuation rfl
  | object h ih =>
      exact ((Lexes.commas (Lexes.fields ih)).append_punctuation rfl .nil).cons_punctuation rfl

theorem Value.Integral.readAll?_render {v : Value} (h : v.Integral) :
    Token.readAll? (Source.ofString v.render) = some v.tokens := by
  have hlexes := h.lexes [] Source.endsNumeral_nil
  rw [Token.readAll?_nil, List.append_nil, Option.map_some, List.append_nil] at hlexes
  rw [Source.ofString, render, String.toList_ofList]
  exact hlexes

end ScriptedConsumer.Json
