import Mathlib.Data.List.Forall2
import Mathlib.Data.List.TakeWhile
import ScriptedConsumer.ResetPolicy

set_option autoImplicit false

/-! # Texts that name a reset policy

A text names a policy if it is one of the policy's words with each letter in either case, and blank
characters around it. Parsing trims the text and folds its case instead. The two come to the same
because the words are made of small ASCII letters: what folds to such a letter is that letter or its
capital and no other character, and it is not blank, so that trimming takes away just what is around
the word. `ResetPolicy.parse_eq_ok_iff` says so, and with it which texts are refused. -/

namespace ScriptedConsumer

namespace Text

/-! ## Blank characters around a word -/

/-- The text is the word with any number of blank characters before it and after it. -/
def Padded (cs word : List Char) : Prop :=
  ∃ before after, cs = before ++ word ++ after ∧ (∀ c ∈ before, isBlank c = true) ∧
    ∀ c ∈ after, isBlank c = true

/-- A text is what is left when it is trimmed, with blank characters around. -/
theorem padded_trim (cs : List Char) : Padded cs (trim cs) := by
  let rest := (cs.dropWhile isBlank).reverse
  have hrest : rest.takeWhile isBlank ++ rest.dropWhile isBlank = rest :=
    List.takeWhile_append_dropWhile
  refine ⟨cs.takeWhile isBlank, (rest.takeWhile isBlank).reverse, ?_,
    fun c hc => List.mem_takeWhile_imp hc,
    fun c hc => List.mem_takeWhile_imp (List.mem_reverse.1 hc)⟩
  calc cs
      = cs.takeWhile isBlank ++ cs.dropWhile isBlank := List.takeWhile_append_dropWhile.symm
    _ = cs.takeWhile isBlank ++ (rest.takeWhile isBlank ++ rest.dropWhile isBlank).reverse := by
        rw [hrest, List.reverse_reverse]
    _ = cs.takeWhile isBlank ++ trim cs ++ (rest.takeWhile isBlank).reverse := by
        rw [List.reverse_append, List.append_assoc]
        rfl

/-- Dropping blank characters stops at a word that has none. -/
theorem dropWhile_isBlank_append {word : List Char} (hne : word ≠ [])
    (hword : ∀ c ∈ word, isBlank c = false) (after : List Char) :
    (word ++ after).dropWhile isBlank = word ++ after := by
  obtain ⟨c, rest, rfl⟩ := List.exists_cons_of_ne_nil hne
  rw [List.cons_append, List.dropWhile_cons_of_neg (by simp [hword c (List.mem_cons_self ..)])]

/-- Trimming takes away what is around a word without blank characters. -/
theorem trim_eq_of_padded {cs word : List Char} (h : Padded cs word)
    (hword : ∀ c ∈ word, isBlank c = false) : trim cs = word := by
  obtain ⟨before, after, rfl, hbefore, hafter⟩ := h
  unfold trim
  rw [List.append_assoc, List.dropWhile_append_of_pos hbefore]
  rcases eq_or_ne word [] with rfl | hne
  · rw [List.nil_append, List.dropWhile_eq_nil_iff.2 hafter]
    rfl
  · have hafter' : ∀ c ∈ after.reverse, isBlank c = true := fun c hc =>
      hafter c (List.mem_reverse.1 hc)
    have hword' : ∀ c ∈ word.reverse, isBlank c = false := fun c hc =>
      hword c (List.mem_reverse.1 hc)
    have hback := dropWhile_isBlank_append (mt List.reverse_eq_nil_iff.1 hne) hword' []
    rw [List.append_nil] at hback
    rw [dropWhile_isBlank_append hne hword, List.reverse_append,
      List.dropWhile_append_of_pos hafter', hback, List.reverse_reverse]

/-! ## Either case -/

/-- The text is the word with each letter in either case. -/
def Spelled (cs word : List Char) : Prop := List.Forall₂ (fun c a => c = a ∨ c = a.toUpper) cs word

/-- A small ASCII letter. -/
def IsSmall (c : Char) : Prop := 97 ≤ c.toNat ∧ c.toNat ≤ 122

instance (c : Char) : Decidable (IsSmall c) := inferInstanceAs (Decidable (_ ∧ _))

theorem toNat_toLower (c : Char) :
    c.toLower.toNat = if 65 ≤ c.toNat ∧ c.toNat ≤ 90 then c.toNat + 32 else c.toNat := by
  unfold Char.toLower Char.toNat
  simp only [ge_iff_le, UInt32.le_iff_toNat_le]
  split
  · next h =>
      have hcapital : 65 ≤ c.val.toNat ∧ c.val.toNat ≤ 90 := h
      rw [if_pos hcapital, UInt32.toNat_add]
      show (c.val.toNat + 32) % 2 ^ 32 = _
      omega
  · next h => exact (if_neg h).symm

theorem toNat_toUpper (c : Char) :
    c.toUpper.toNat = if 97 ≤ c.toNat ∧ c.toNat ≤ 122 then c.toNat - 32 else c.toNat := by
  unfold Char.toUpper Char.toNat
  simp only [UInt32.le_iff_toNat_le]
  split
  · next h =>
      have hsmall : 97 ≤ c.val.toNat ∧ c.val.toNat ≤ 122 := h
      rw [if_pos hsmall, UInt32.toNat_add]
      show (c.val.toNat + 0xFFFFFFE0) % 2 ^ 32 = _
      omega
  · next h => exact (if_neg h).symm

theorem toLower_eq_iff {a c : Char} (ha : IsSmall a) : c.toLower = a ↔ c = a ∨ c = a.toUpper := by
  have ha' : 97 ≤ a.toNat ∧ a.toNat ≤ 122 := ha
  simp only [← Char.toNat_inj, toNat_toLower, toNat_toUpper, ha', and_self, if_true]
  split <;> omega

theorem isBlank_of_isSmall_toLower {c : Char} (h : IsSmall c.toLower) : isBlank c = false := by
  unfold IsSmall at h
  rw [toNat_toLower] at h
  simp only [isBlank, Ranges.covers, Ranges.has, blankRanges, List.any_cons, List.any_nil]
  split at h <;> simp <;> omega

variable {word letters : List Char}

theorem spelled_iff (h : ∀ a ∈ letters, IsSmall a) :
    Spelled word letters ↔ word.map Char.toLower = letters := by
  induction letters generalizing word with
  | nil => simp [Spelled]
  | cons a rest ih =>
      cases word with
      | nil => simp [Spelled]
      | cons c cs =>
          rw [Spelled, List.forall₂_cons, List.map_cons, List.cons.injEq,
            toLower_eq_iff (h a (List.mem_cons_self ..)),
            ← ih fun a' ha' => h a' (List.mem_cons_of_mem _ ha'), Spelled]

theorem isBlank_of_spelled (h : ∀ a ∈ letters, IsSmall a) (hword : Spelled word letters) :
    ∀ c ∈ word, isBlank c = false := by
  intro c hc
  refine isBlank_of_isSmall_toLower (h _ ?_)
  rw [← (spelled_iff h).1 hword]
  exact List.mem_map_of_mem hc

/-- Trimming and folding a text comes to a word just if the word is spelled with blank characters
    around. -/
theorem map_toLower_trim_eq_iff (h : ∀ a ∈ letters, IsSmall a) (cs : List Char) :
    (trim cs).map Char.toLower = letters ↔ ∃ word, Padded cs word ∧ Spelled word letters := by
  rw [← spelled_iff h]
  constructor
  · exact fun hspelled => ⟨trim cs, padded_trim cs, hspelled⟩
  · rintro ⟨word, hpadded, hspelled⟩
    rwa [trim_eq_of_padded hpadded (isBlank_of_spelled h hspelled)]

end Text

namespace ResetPolicy

variable {policy : ResetPolicy}

/-- The text is a word that names the policy, in any case and with blank characters around. -/
def NamedBy (policy : ResetPolicy) (text : String) : Prop :=
  ∃ word, Text.Padded text.toList word ∧
    ∃ named ∈ policy.aliases, Text.Spelled word named.toList

/-! ## The words -/

theorem isSmall_of_mem_aliases : ∀ named ∈ policy.aliases, ∀ a ∈ named.toList, Text.IsSmall a := by
  have hall : (policy.aliases.all fun named =>
      named.toList.all fun a => decide (Text.IsSmall a)) = true := by
    cases policy <;> decide
  intro named hnamed a ha
  exact of_decide_eq_true (List.all_eq_true.1 (List.all_eq_true.1 hall named hnamed) a ha)

/-- No word names two policies. -/
theorem ofAlias?_of_mem_aliases :
    ∀ named ∈ policy.aliases, ofAlias? named.toList = some policy := by
  cases policy <;> decide

theorem ofAlias?_eq_some_iff {word : List Char} :
    ofAlias? word = some policy ↔ ∃ named ∈ policy.aliases, named.toList = word := by
  constructor
  · intro h
    have hnamed : policy.aliases.any (·.toList == word) = true :=
      List.find?_some (p := fun policy : ResetPolicy => policy.aliases.any (·.toList == word)) h
    obtain ⟨named, hmem, heq⟩ := List.any_eq_true.1 hnamed
    exact ⟨named, hmem, beq_iff_eq.1 heq⟩
  · rintro ⟨named, hmem, rfl⟩
    exact ofAlias?_of_mem_aliases named hmem

theorem name_mem_aliases (policy : ResetPolicy) : policy.name ∈ policy.aliases := by
  cases policy <;> decide

/-! ## Parsing -/

theorem parse_eq_ok_iff (text : String) : parse text = .ok policy ↔ policy.NamedBy text := by
  have hparse : parse text = .ok policy ↔
      ofAlias? ((Text.trim text.toList).map Char.toLower) = some policy := by
    unfold parse
    split <;> simp_all
  rw [hparse, ofAlias?_eq_some_iff]
  constructor
  · rintro ⟨named, hmem, heq⟩
    obtain ⟨word, hpadded, hspelled⟩ :=
      (Text.map_toLower_trim_eq_iff (isSmall_of_mem_aliases named hmem) _).1 heq.symm
    exact ⟨word, hpadded, named, hmem, hspelled⟩
  · rintro ⟨word, hpadded, named, hmem, hspelled⟩
    exact ⟨named, hmem, ((Text.map_toLower_trim_eq_iff (isSmall_of_mem_aliases named hmem) _).2
      ⟨word, hpadded, hspelled⟩).symm⟩

/-- Parsing refuses nothing but the whole text. -/
theorem parse_cases (text : String) :
    (∃ policy, parse text = .ok policy) ∨ parse text = .error (.invalidPolicy text) := by
  unfold parse
  split
  · next policy _ => exact .inl ⟨policy, rfl⟩
  · exact .inr rfl

/-- **The texts that parsing accepts** are those that name a policy, each as the policy that it
    names, so that the name under which a policy is shown is read as that policy in any case and
    with blank characters around; and every other text is refused as it was given. -/
theorem parse_accepts_names (text : String) :
    (∀ policy, parse text = .ok policy ↔ NamedBy policy text) ∧
      (parse text = .error (.invalidPolicy text) ↔ ∀ policy, ¬ NamedBy policy text) ∧
      ∀ (policy : ResetPolicy) (word : List Char), Text.Padded text.toList word →
        Text.Spelled word policy.name.toList → parse text = .ok policy := by
  refine ⟨fun policy => parse_eq_ok_iff text, ?_, ?_⟩
  · constructor
    · intro hrefused policy hnamed
      rw [parse_eq_ok_iff text |>.2 hnamed] at hrefused
      cases hrefused
    · intro hnone
      refine (parse_cases text).resolve_left ?_
      rintro ⟨policy, hok⟩
      exact hnone policy ((parse_eq_ok_iff text).1 hok)
  · intro policy word hpadded hspelled
    exact (parse_eq_ok_iff text).2 ⟨word, hpadded, policy.name, policy.name_mem_aliases, hspelled⟩

/-- Blank characters are those of Unicode, but letters are those of ASCII: one whose small letter in
    Unicode is an s spells no s. -/
theorem parse_padded_name :
    parse "\u00a0EaRLieST\u2003\n" = .ok .earliest ∧
      parse "ſmallest" = .error (.invalidPolicy "ſmallest") := by
  obtain ⟨-, -, hname⟩ := parse_accepts_names "\u00a0EaRLieST\u2003\n"
  refine ⟨hname .earliest "EaRLieST".toList ?_ ?_, ?_⟩
  · exact ⟨"\u00a0".toList, "\u2003\n".toList, rfl, List.all_eq_true.1 (by decide),
      List.all_eq_true.1 (by decide)⟩
  · exact (Text.spelled_iff (isSmall_of_mem_aliases _ (name_mem_aliases .earliest))).2 rfl
  · rfl

end ResetPolicy

end ScriptedConsumer
