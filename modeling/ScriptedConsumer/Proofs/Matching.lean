import ScriptedConsumer.Pattern.Regex

set_option autoImplicit false

/-! # Matching

`Regex.reach` computes what `Regex.Spans` describes (`follows_reach`), so a pattern is found in a
text exactly if some stretch of the text matches (`isMatch_iff`).

A step on sets of places follows a relation if it leads from a set to the places related to one of
its members; `Regex.reach` is put together from such steps. The only form that needs an argument is
the repetition. Its rounds step from new places only and stop when there are none, and there are no
more rounds than the text has places. No stretch leads backward. So a chain that is longer than the
text stays at one place for some of its stretches, and can be made shorter, or longer, there. -/

namespace ScriptedConsumer.Pattern.Regex

variable {size : Nat} {span : Nat → Nat → Prop}

/-! ## Chains -/

theorem chain_zero {i j : Nat} : Chain span 0 i j ↔ i = j :=
  ⟨fun h => by cases h; rfl, fun h => h ▸ .none i⟩

theorem chain_succ {n i k : Nat} :
    Chain span (n + 1) i k ↔ ∃ j, span i j ∧ Chain span n j k :=
  ⟨fun h => by cases h with | more first rest => exact ⟨_, first, rest⟩,
    fun ⟨_, first, rest⟩ => .more first rest⟩

theorem chain_one {i j : Nat} : Chain span 1 i j ↔ span i j := by
  simp only [chain_succ, chain_zero, exists_eq_right]

/-- Two chains in a row are one, and a chain may be parted anywhere. -/
theorem chain_add {m n i k : Nat} :
    Chain span (m + n) i k ↔ ∃ j, Chain span m i j ∧ Chain span n j k := by
  induction m generalizing i with
  | zero => simp only [Nat.zero_add, chain_zero, exists_eq_left']
  | succ m ih =>
      rw [Nat.add_right_comm]
      simp only [chain_succ, ih]
      constructor
      · rintro ⟨j, first, l, rest, last⟩
        exact ⟨l, ⟨j, first, rest⟩, last⟩
      · rintro ⟨l, ⟨j, first, rest⟩, last⟩
        exact ⟨j, first, l, rest, last⟩

/-- No stretch leads backward or past the end. -/
def Rises (size : Nat) (span : Nat → Nat → Prop) : Prop :=
  ∀ ⦃i j⦄, i ≤ size → span i j → i ≤ j ∧ j ≤ size

theorem Rises.chain (rises : Rises size span) (n : Nat) : Rises size (Chain span n) := by
  intro i j hi chain
  induction chain with
  | none i => exact ⟨Nat.le_refl i, hi⟩
  | more first _ ih =>
      obtain ⟨hij, hj⟩ := rises hi first
      obtain ⟨hjk, hk⟩ := ih hj
      exact ⟨Nat.le_trans hij hjk, hk⟩

/-- Stretches that stay where they are can be left out of a chain. What is left leads forward with
    every stretch. -/
theorem Chain.shorten (rises : Rises size span) {n i j : Nat} (hi : i ≤ size)
    (chain : Chain span n i j) : ∃ m, m ≤ n ∧ m ≤ j - i ∧ Chain span m i j := by
  induction chain with
  | none i => exact ⟨0, Nat.le_refl 0, Nat.zero_le _, .none i⟩
  | @more n i k j first rest ih =>
      obtain ⟨hik, hk⟩ := rises hi first
      have hkj := (rises.chain n hk rest).1
      obtain ⟨m, hmn, hm, short⟩ := ih hk
      by_cases hstay : i = k
      · subst hstay
        exact ⟨m, Nat.le_succ_of_le hmn, hm, short⟩
      · exact ⟨m + 1, Nat.succ_le_succ hmn, by omega, .more first short⟩

/-- A chain that is not empty can be made short and still not be empty. -/
theorem Chain.shorten_succ (rises : Rises size span) {n i j : Nat} (hi : i ≤ size)
    (chain : Chain span (n + 1) i j) :
    ∃ m, 1 ≤ m ∧ m ≤ n + 1 ∧ m ≤ size + 1 ∧ Chain span m i j := by
  obtain ⟨k, first, rest⟩ := chain_succ.1 chain
  have hk := (rises hi first).2
  have hj := (rises.chain n hk rest).2
  obtain ⟨m, hmn, hm, short⟩ := rest.shorten rises hk
  exact ⟨m + 1, Nat.le_add_left 1 m, by omega, by omega, .more first short⟩

theorem Chain.prepend_stays {i j m : Nat} (stay : span i i) (chain : Chain span m i j) (d : Nat) :
    Chain span (d + m) i j := by
  induction d with
  | zero => rwa [Nat.zero_add]
  | succ d ih => rw [Nat.add_right_comm]; exact .more stay ih

/-- A chain with more stretches than places before it stays at one of them, and so can be given any
    other such length. -/
theorem Chain.resize (rises : Rises size span) {n l i j : Nat} (hi : i ≤ size)
    (chain : Chain span n i j) (hn : j - i < n) (hl : j - i < l) : Chain span l i j := by
  induction chain generalizing l with
  | none i => omega
  | @more n i k j first rest ih =>
      obtain ⟨hik, hk⟩ := rises hi first
      have hkj := (rises.chain n hk rest).1
      by_cases hstay : i = k
      · subst hstay
        obtain ⟨m, -, hm, short⟩ := rest.shorten rises hk
        have hsplit : l = (l - m) + m := by omega
        exact hsplit ▸ short.prepend_stays first (l - m)
      · obtain ⟨l, rfl⟩ : ∃ l', l = l' + 1 := ⟨l - 1, by omega⟩
        exact .more first (ih hk (by omega) (by omega))

/-- Whether there is a chain with more than `n` and at most `most` stretches can be told from chains
    of bounded length: `n` stretches or as many as a text has places, and one up to as many more. -/
theorem exists_chain_iff (rises : Rises size span) {i j : Nat} (hi : i ≤ size) (n : Nat)
    (most : Option Nat) :
    (∃ l, n + 1 ≤ l ∧ (∀ m, most = some m → l ≤ m) ∧ Chain span l i j) ↔
      ∃ m, 1 ≤ m ∧ m ≤ min (most.getD (n + (size + 1)) - n) (size + 1)
        ∧ Chain span (min n (size + 1) + m) i j := by
  have hlimit : ∀ l, n + 1 ≤ l → (∀ m, most = some m → l ≤ m) →
      l - n ≤ most.getD (n + (size + 1)) - n ∨ size + 1 ≤ most.getD (n + (size + 1)) - n := by
    intro l _ hmost
    cases most with
    | none => right; simp
    | some m => left; exact Nat.sub_le_sub_right (hmost m rfl) n
  by_cases hn : n ≤ size + 1
  · rw [Nat.min_eq_left hn]
    constructor
    · rintro ⟨l, hnl, hmost, chain⟩
      obtain ⟨d, rfl⟩ := Nat.exists_eq_add_of_le hnl
      rw [Nat.add_assoc] at chain
      obtain ⟨k, front, back⟩ := chain_add.1 chain
      rw [Nat.add_comm 1 d] at back
      obtain ⟨m, hm, hmd, hms, short⟩ := back.shorten_succ rises (rises.chain n hi front).2
      have := hlimit _ hnl hmost
      exact ⟨m, hm, by omega, chain_add.2 ⟨k, front, short⟩⟩
    · rintro ⟨m, hm, hle, chain⟩
      refine ⟨n + m, Nat.add_le_add_left hm n, ?_, chain⟩
      rintro x rfl
      rw [Option.getD_some] at hle
      omega
  · rw [Nat.min_eq_right (Nat.le_of_not_le hn)]
    -- both chains are longer than the text, and so one stands for the other
    constructor
    · rintro ⟨l, hnl, hmost, chain⟩
      have hj := (rises.chain l hi chain).2
      have := hlimit _ hnl hmost
      exact ⟨1, Nat.le_refl 1, by omega, chain.resize rises hi (by omega) (by omega)⟩
    · rintro ⟨m, hm, hle, chain⟩
      have hj := (rises.chain _ hi chain).2
      refine ⟨n + m, Nat.add_le_add_left hm n, ?_, chain.resize rises hi (by omega) (by omega)⟩
      rintro x rfl
      rw [Option.getD_some] at hle
      omega

/-! ## Sets of places -/

/-- A set of places of a text of the given length. -/
structure Places (size : Nat) (places : List Nat) : Prop where
  latestFirst : places.Pairwise (· > ·)
  inside : ∀ i ∈ places, i ≤ size

namespace Places

theorem nil : Places size [] := ⟨.nil, by simp⟩

theorem sublist {xs ys : List Nat} (h : Places size ys) (hsub : List.Sublist xs ys) :
    Places size xs :=
  ⟨h.latestFirst.sublist hsub, fun i hi => h.inside i (hsub.subset hi)⟩

theorem without {xs ys : List Nat} (h : Places size xs) : Places size (without xs ys) := by
  refine h.sublist ?_
  clear h
  induction xs generalizing ys with
  | nil => exact .slnil
  | cons x xs ih =>
      simp only [Regex.without]
      split
      · exact ih.cons x
      · exact ih.cons_cons x

/-- Behind the places after `x`, and behind `x` itself, stand those before it. -/
theorem lt_of_mem_dropWhile {x b : Nat} {ys : List Nat} (hys : ys.Pairwise (· > ·))
    (hb : b ∈ (ys.dropWhile (x < ·)).dropWhile (· == x)) : b < x := by
  induction ys with
  | nil => simp at hb
  | cons y ys ih =>
      obtain ⟨hbelow, hys⟩ := List.pairwise_cons.1 hys
      rcases Nat.lt_trichotomy x y with hxy | rfl | hyx
      · rw [List.dropWhile_cons_of_pos (by simpa using hxy)] at hb
        exact ih hys hb
      · rw [List.dropWhile_cons_of_neg (by simp), List.dropWhile_cons_of_pos (by simp)] at hb
        exact hbelow b ((List.dropWhile_sublist _).subset hb)
      · rw [List.dropWhile_cons_of_neg (by simp; omega)] at hb
        rcases List.mem_cons.1 ((List.dropWhile_sublist _).subset hb) with rfl | hb
        · exact hyx
        · exact Nat.lt_trans (hbelow b hb) hyx

theorem join {xs ys : List Nat} (hx : Places size xs) (hy : Places size ys) :
    Places size (join xs ys) := by
  refine ⟨?_, fun i hi => (mem_join.1 hi).elim (hx.inside i) (hy.inside i)⟩
  replace hx := hx.latestFirst
  replace hy := hy.latestFirst
  induction xs generalizing ys with
  | nil => exact hy
  | cons x xs ih =>
      obtain ⟨hbelow, hx⟩ := List.pairwise_cons.1 hx
      have hrest : ((ys.dropWhile (x < ·)).dropWhile (· == x)).Sublist ys :=
        (List.dropWhile_sublist _).trans (List.dropWhile_sublist _)
      have habove : ∀ a ∈ ys.takeWhile (x < ·), x < a := fun a ha =>
        of_decide_eq_true (List.all_eq_true.1 (List.all_takeWhile (p := (x < ·))) a ha)
      have hafter : ∀ b ∈ Regex.join xs ((ys.dropWhile (x < ·)).dropWhile (· == x)), b < x :=
        fun b hb => (mem_join.1 hb).elim (hbelow b) (lt_of_mem_dropWhile hy)
      rw [Regex.join, List.pairwise_append]
      refine ⟨hy.sublist (List.takeWhile_sublist _), ?_, ?_⟩
      · exact List.pairwise_cons.2 ⟨hafter, ih hx (hy.sublist hrest)⟩
      · intro a ha b hb
        rcases List.mem_cons.1 hb with rfl | hb
        · exact habove a ha
        · exact Nat.lt_trans (hafter b hb) (habove a ha)

end Places

/-! ## Steps -/

/-- A step that leads from a set of places to those related to one of them. -/
structure Follows (size : Nat) (span : Nat → Nat → Prop) (step : List Nat → List Nat) : Prop where
  places {xs : List Nat} : Places size xs → Places size (step xs)
  mem {xs : List Nat} : Places size xs → ∀ {j}, j ∈ step xs ↔ ∃ i ∈ xs, span i j

namespace Follows

variable {step : List Nat → List Nat}

theorem stay : Follows size (· = ·) id :=
  ⟨id, fun _ => ⟨fun h => ⟨_, h, rfl⟩, fun ⟨_, h, e⟩ => e ▸ h⟩⟩

theorem stayWhere (holds : Nat → Bool) :
    Follows size (fun i j => i = j ∧ holds i = true) (List.filter holds) := by
  refine ⟨fun h => h.sublist List.filter_sublist, fun {xs} h {j} => ?_⟩
  rw [List.mem_filter]
  constructor
  · rintro ⟨hj, hholds⟩
    exact ⟨j, hj, rfl, hholds⟩
  · rintro ⟨i, hi, rfl, hholds⟩
    exact ⟨hi, hholds⟩

/-- A step to the next place, from where it can be taken. -/
theorem next {land : Nat → Option Nat} (hspan : ∀ i j, land i = some j ↔ span i j)
    (hnext : ∀ i j, span i j → j = i + 1 ∧ i < size) : Follows size span (List.filterMap land) := by
  refine ⟨fun h => ⟨?_, fun j hj => ?_⟩, fun {xs} h {j} => ?_⟩
  · refine List.pairwise_filterMap.2 (h.latestFirst.imp fun hab => ?_)
    intro j hj j' hj'
    have hj := (hnext _ _ ((hspan _ _).1 hj)).1
    have hj' := (hnext _ _ ((hspan _ _).1 hj')).1
    omega
  · obtain ⟨i, -, hij⟩ := List.mem_filterMap.1 hj
    obtain ⟨rfl, hi⟩ := hnext _ _ ((hspan _ _).1 hij)
    exact hi
  · simp only [List.mem_filterMap, hspan]

theorem comp {span' : Nat → Nat → Prop} {step' : List Nat → List Nat}
    (first : Follows size span step) (second : Follows size span' step') :
    Follows size (fun i k => ∃ j, span i j ∧ span' j k) (fun xs => step' (step xs)) := by
  refine ⟨fun h => second.places (first.places h), fun {xs} h {k} => ?_⟩
  rw [second.mem (first.places h)]
  constructor
  · rintro ⟨j, hj, last⟩
    obtain ⟨i, hi, start⟩ := (first.mem h).1 hj
    exact ⟨i, hi, j, start, last⟩
  · rintro ⟨i, hi, j, start, last⟩
    exact ⟨j, (first.mem h).2 ⟨i, hi, start⟩, last⟩

theorem either {span' : Nat → Nat → Prop} {step' : List Nat → List Nat}
    (first : Follows size span step) (second : Follows size span' step') :
    Follows size (fun i j => span i j ∨ span' i j) (fun xs => join (step xs) (step' xs)) := by
  refine ⟨fun h => (first.places h).join (second.places h), fun {xs} h {j} => ?_⟩
  rw [mem_join, first.mem h, second.mem h, ← exists_or]
  simp only [and_or_left]

theorem iterate (follows : Follows size span step) (n : Nat) :
    Follows size (Chain span n) (Regex.iterate step n) := by
  induction n with
  | zero =>
      have hspan : Chain span 0 = (· = ·) := funext fun i => funext fun j => propext chain_zero
      exact hspan ▸ stay
  | succ n ih =>
      have hspan : Chain span (n + 1) = fun i k => ∃ j, span i j ∧ Chain span n j k :=
        funext fun i => funext fun k => propext chain_succ
      exact hspan ▸ follows.comp ih

/-! ### Rounds of steps -/

theorem places_within (follows : Follows size span step) (n : Nat) {reached seen latest : List Nat}
    (hr : Places size reached) (hs : Places size seen) (hl : Places size latest) :
    Places size (within step n reached seen latest) := by
  induction n generalizing reached seen latest with
  | zero => exact hr
  | succ n ih =>
      have hnext := follows.places hl
      simp only [within]
      split
      · exact hnext.join hr
      · exact ih (hnext.join hr) (hnext.without.join hs) hnext.without

theorem subset_within (n : Nat) {reached seen latest : List Nat} {j : Nat} (hj : j ∈ reached) :
    j ∈ within step n reached seen latest := by
  induction n generalizing reached seen latest with
  | zero => exact hj
  | succ n ih =>
      simp only [within]
      split
      · exact mem_join.2 (.inr hj)
      · exact ih (mem_join.2 (.inr hj))

/-- Rounds of steps lead nowhere but along chains. -/
theorem chain_of_mem_within (follows : Follows size span step) (n : Nat)
    {reached seen latest : List Nat} (hs : Places size seen) (hl : Places size latest) {j : Nat}
    (hj : j ∈ within step n reached seen latest) :
    j ∈ reached ∨ ∃ i ∈ latest, ∃ m, 1 ≤ m ∧ m ≤ n ∧ Chain span m i j := by
  induction n generalizing reached seen latest with
  | zero => exact .inl hj
  | succ n ih =>
      have hnext := follows.places hl
      have hfirst : j ∈ join (step latest) reached →
          j ∈ reached ∨ ∃ i ∈ latest, ∃ m, 1 ≤ m ∧ m ≤ n + 1 ∧ Chain span m i j := by
        intro h
        rcases mem_join.1 h with h | h
        · obtain ⟨i, hi, first⟩ := (follows.mem hl).1 h
          exact .inr ⟨i, hi, 1, Nat.le_refl 1, Nat.le_add_left 1 n, chain_one.2 first⟩
        · exact .inl h
      simp only [within] at hj
      split at hj
      · exact hfirst hj
      · rcases ih (hnext.without.join hs) hnext.without hj with h | ⟨k, hk, m, hm, hmn, rest⟩
        · exact hfirst h
        · obtain ⟨i, hi, first⟩ :=
            (follows.mem hl).1 ((mem_without hnext.latestFirst hs.latestFirst).1 hk).1
          exact .inr ⟨i, hi, m + 1, Nat.le_add_left 1 m, Nat.succ_le_succ hmn, .more first rest⟩

/-- What the rounds of steps keep: what the places that have been seen lead to, except for the
    latest ones, has been seen and reached. -/
def Explored (span : Nat → Nat → Prop) (reached seen latest : List Nat) : Prop :=
  ∀ i ∈ seen, i ∉ latest → ∀ j, span i j → j ∈ seen ∧ j ∈ reached

/-- One round. Afterwards the new places are the latest. -/
theorem explored_round (follows : Follows size span step) {reached seen latest : List Nat}
    (hs : Places size seen) (hl : Places size latest) (h : Explored span reached seen latest) :
    Explored span (join (step latest) reached) (join (without (step latest) seen) seen)
      (without (step latest) seen) := by
  have hfresh : ∀ j, j ∈ without (step latest) seen ↔ j ∈ step latest ∧ j ∉ seen := fun j =>
    mem_without (follows.places hl).latestFirst hs.latestFirst
  intro i hi hold j hij
  have hseen : i ∈ seen := (mem_join.1 hi).resolve_left hold
  have hnext : j ∈ step latest ∨ j ∈ seen ∧ j ∈ reached := by
    by_cases hlatest : i ∈ latest
    · exact .inl ((follows.mem hl).2 ⟨i, hlatest, hij⟩)
    · exact .inr (h i hseen hlatest j hij)
  rw [mem_join, mem_join, hfresh]
  grind

/-- With no latest places, whatever a chain leads to has been reached. -/
theorem Explored.reached_of_chain {reached seen : List Nat} (h : Explored span reached seen [])
    {m i j : Nat} (hi : i ∈ seen) (chain : Chain span (m + 1) i j) : j ∈ reached := by
  induction m generalizing i with
  | zero => exact (h i hi List.not_mem_nil j (chain_one.1 chain)).2
  | succ m ih =>
      obtain ⟨k, first, rest⟩ := chain_succ.1 chain
      exact ih (h i hi List.not_mem_nil k first).1 rest

/-- Rounds of steps lead along every chain with no more stretches than there are rounds. -/
theorem mem_within_of_chain (follows : Follows size span step) {n m i j : Nat}
    {reached seen latest : List Nat} (hs : Places size seen) (hl : Places size latest)
    (h : Explored span reached seen latest) (hi : i ∈ seen) (hmn : m < n)
    (chain : Chain span (m + 1) i j) : j ∈ within step n reached seen latest := by
  induction n generalizing m i reached seen latest with
  | zero => exact absurd hmn (Nat.not_lt_zero m)
  | succ n ih =>
      have hround := follows.explored_round hs hl h
      have hseen : i ∈ join (without (step latest) seen) seen := mem_join.2 (.inr hi)
      -- after this round all that has been seen before is behind the front
      have hold : i ∉ without (step latest) seen := fun hfresh =>
        ((mem_without (follows.places hl).latestFirst hs.latestFirst).1 hfresh).2 hi
      obtain ⟨k, first, rest⟩ := chain_succ.1 chain
      obtain ⟨hk, hreached⟩ := hround i hseen hold k first
      simp only [within]
      split
      next hnone =>
        -- nothing is new, so whatever a chain of any length leads to has been reached
        rw [List.isEmpty_iff.1 hnone] at hround hseen
        exact hround.reached_of_chain hseen chain
      next =>
        cases m with
        | zero => exact subset_within n (chain_zero.1 rest ▸ hreached)
        | succ m =>
            have hnew : Places size (without (step latest) seen) := (follows.places hl).without
            exact ih (hnew.join hs) hnew hround hk (by omega) rest

/-- The places that one up to a number of steps lead to. -/
theorem mem_within (follows : Follows size span step) {n j : Nat} {reached places : List Nat}
    (hp : Places size places) :
    j ∈ within step n reached places places ↔
      j ∈ reached ∨ ∃ i ∈ places, ∃ m, 1 ≤ m ∧ m ≤ n ∧ Chain span m i j := by
  refine ⟨follows.chain_of_mem_within n hp hp, ?_⟩
  rintro (hj | ⟨i, hi, m, hm, hmn, chain⟩)
  · exact subset_within n hj
  · obtain ⟨m, rfl⟩ : ∃ m', m = m' + 1 := ⟨m - 1, by omega⟩
    exact follows.mem_within_of_chain hp hp (fun _ h h' => absurd h h') hi hmn chain

end Follows

/-! ## Matches -/

theorem rises_spans (text : Array Char) (r : Regex) : Rises text.size (Spans text r) := by
  induction r with
  | empty =>
      rintro i j hi ⟨⟩
      exact ⟨Nat.le_refl i, hi⟩
  | chars set =>
      rintro i j hi ⟨rfl, c, hc, -⟩
      exact ⟨Nat.le_succ i, (Array.getElem?_eq_some_iff.1 hc).1⟩
  | look l =>
      rintro i j hi ⟨rfl, -⟩
      exact ⟨Nat.le_refl i, hi⟩
  | seq r s ihr ihs =>
      rintro i k hi ⟨j, first, last⟩
      obtain ⟨hij, hj⟩ := ihr hi first
      obtain ⟨hjk, hk⟩ := ihs hj last
      exact ⟨Nat.le_trans hij hjk, hk⟩
  | alt r s ihr ihs => exact fun i j hi h => h.elim (ihr hi) (ihs hi)
  | repeated r least most ih =>
      rintro i j hi ⟨n, -, -, chain⟩
      exact ih.chain n hi chain
  | group r ih => exact ih

theorem follows_repeated_zero {text : Array Char} {r : Regex}
    (follows : Follows text.size (Spans text r) (reach text r)) (most : Option Nat) :
    Follows text.size (Spans text (.repeated r 0 most)) (reach text (.repeated r 0 most)) := by
  refine ⟨fun h => follows.places_within _ h h h, fun {xs} h {j} => ?_⟩
  rw [reach, follows.mem_within h]
  constructor
  · rintro (hj | ⟨i, hi, m, -, hm, chain⟩)
    · exact ⟨j, hj, 0, Nat.le_refl 0, fun _ _ => Nat.zero_le _, .none j⟩
    · refine ⟨i, hi, m, Nat.zero_le m, ?_, chain⟩
      rintro x rfl
      exact Nat.le_trans hm (Nat.min_le_left _ _)
  · rintro ⟨i, hi, n, -, hmost, chain⟩
    have hrises := rises_spans text r
    have hj := (hrises.chain n (h.inside i hi) chain).2
    obtain ⟨m, hmn, hm, short⟩ := chain.shorten hrises (h.inside i hi)
    by_cases hnone : m = 0
    · subst hnone
      exact .inl (chain_zero.1 short ▸ hi)
    · refine .inr ⟨i, hi, m, Nat.pos_of_ne_zero hnone, ?_, short⟩
      cases most with
      | none => simp only [Option.getD_none]; omega
      | some x => have := hmost x rfl; simp only [Option.getD_some]; omega

/-- A repetition that must be made: as many steps as there must be before the last one, and then
    one or more. -/
theorem follows_repeated_succ {text : Array Char} {r : Regex}
    (follows : Follows text.size (Spans text r) (reach text r)) (n : Nat) (most : Option Nat) :
    Follows text.size (Spans text (.repeated r (n + 1) most))
      (reach text (.repeated r (n + 1) most)) := by
  have must := follows.iterate (min n (text.size + 1))
  refine ⟨fun h => follows.places_within _ .nil (must.places h) (must.places h),
    fun {xs} h {j} => ?_⟩
  have hchain := fun i hi =>
    exists_chain_iff (j := j) (rises_spans text r) (h.inside i hi) n most
  simp only [reach]
  rw [follows.mem_within (must.places h)]
  constructor
  · rintro (hj | ⟨k, hk, m, hm, hle, back⟩)
    · simp at hj
    · obtain ⟨i, hi, front⟩ := (must.mem h).1 hk
      exact ⟨i, hi, (hchain i hi).2 ⟨m, hm, hle, chain_add.2 ⟨k, front, back⟩⟩⟩
  · rintro ⟨i, hi, long⟩
    obtain ⟨m, hm, hle, chain⟩ := (hchain i hi).1 long
    obtain ⟨k, front, back⟩ := chain_add.1 chain
    exact .inr ⟨k, (must.mem h).2 ⟨i, hi, front⟩, m, hm, hle, back⟩

/-- **Matching finds the matches.** -/
theorem follows_reach (text : Array Char) (r : Regex) :
    Follows text.size (Spans text r) (reach text r) := by
  induction r with
  | empty => exact .stay
  | chars set =>
      refine .next (fun i j => ?_) fun i j ⟨hj, c, hc, _⟩ => ⟨hj, ?_⟩
      · simp only [Spans]
        grind
      · exact (Array.getElem?_eq_some_iff.1 hc).1
  | look l => exact .stayWhere fun i => l.holds text i
  | seq r s ihr ihs => exact ihr.comp ihs
  | alt r s ihr ihs => exact ihr.either ihs
  | repeated r least most ih =>
      cases least with
      | zero => exact follows_repeated_zero ih most
      | succ n => exact follows_repeated_succ ih n most
  | group r ih => exact ih

/-- A pattern is found in a text if some stretch of the text matches it. -/
theorem isMatch_iff (r : Regex) (text : Array Char) :
    isMatch r text = true ↔ ∃ i j, i ≤ text.size ∧ Spans text r i j := by
  have starts : Places text.size (List.range (text.size + 1)).reverse := by
    refine ⟨List.pairwise_reverse.2 List.pairwise_lt_range, fun i hi => ?_⟩
    simpa [Nat.lt_succ_iff] using hi
  have hfound : isMatch r text = true
      ↔ ∃ j, j ∈ reach text r (List.range (text.size + 1)).reverse := by
    simp [isMatch, List.eq_nil_iff_forall_not_mem]
  simp only [hfound, (follows_reach text r).mem starts, List.mem_reverse, List.mem_range,
    Nat.lt_succ_iff]
  exact ⟨fun ⟨j, i, hi, h⟩ => ⟨i, j, hi, h⟩, fun ⟨i, j, hi, h⟩ => ⟨j, i, hi, h⟩⟩

end ScriptedConsumer.Pattern.Regex
