import ScriptedConsumer.Client.Fetch
import ScriptedConsumer.Proofs.Visits
import ScriptedConsumer.Subscription

set_option autoImplicit false

/-! # Changing the progress on partitions

A subscription changes the progress on one partition at a time, and it refuses to do so only where
the partition is not assigned. An assigned partition has a position or has none; those that have one
are to be committed, the others are missing. A loop over distinct partitions that are all assigned
succeeds, and comes to adjusting the progress on all of them at once: `run_each_adjusted`. -/

namespace ScriptedConsumer

/-! ## One partition -/

namespace Subscription

theorem progress_of_assigned {s : Subscription} {p : Partition} {g : Progress}
    (h : s.assignment[p]? = some g) : s.progress p = .ok g := by
  unfold progress
  rw [h]

theorem progress_of_unassigned {s : Subscription} {p : Partition} (h : s.assignment[p]? = none) :
    s.progress p = .error (.unassigned p) := by
  unfold progress
  rw [h]

/-- A change applies to a partition that is assigned, and is refused for any other. -/
theorem run_change (p : Partition) (f : Progress → Progress) (s : Subscription) :
    (change p f).run s =
      match s.assignment[p]? with
      | some g => ⟨.ok (), { s with assignment := s.assignment.insert p (f g) }, []⟩
      | none => ⟨.error (.unassigned p), s, []⟩ := by
  cases h : s.assignment[p]? with
  | some g => simp [change, Action.run_bind, progress_of_assigned h, Outcome.after]
  | none => simp [change, Action.run_bind, progress_of_unassigned h, Outcome.after]

/-- Moving a position takes a partition that is assigned and has one. -/
theorem run_setPosition (p : Partition) (offset : Int64) (s : Subscription) :
    (setPosition p offset).run s =
      match s.assignment[p]? with
      | some g =>
          if g.position.isNone then ⟨.error (.noCurrentPosition p), s, []⟩
          else (change p fun g => { g with position := some offset }).run s
      | none => ⟨.error (.unassigned p), s, []⟩ := by
  cases h : s.assignment[p]? with
  | none => simp [setPosition, Action.run_bind, progress_of_unassigned h]
  | some g =>
      cases hg : g.position <;>
        simp [setPosition, Action.run_bind, progress_of_assigned h, hg, Outcome.after]

/-! ## Assigned partitions, with a position and without -/

section

variable (visiting : Visiting Progress) {s : Subscription} {p : Partition}

theorem mem_assigned : p ∈ assigned visiting s ↔ p ∈ s.assignment := by
  unfold assigned
  rw [Std.ExtTreeSet.mem_ofList, List.contains_iff_mem]
  exact visiting.mem_keys

theorem mem_missing_in :
    p ∈ missing visiting s ↔ ∃ g, s.assignment[p]? = some g ∧ g.position = none := by
  unfold missing
  rw [Std.ExtTreeSet.mem_ofList, List.contains_iff_mem]
  simp only [List.mem_map, List.mem_filter, Option.isNone_iff_eq_none]
  constructor
  · rintro ⟨⟨q, g⟩, ⟨hmem, hg⟩, rfl⟩
    exact ⟨g, (visiting.mem_entries).1 hmem, hg⟩
  · rintro ⟨g, hp, hg⟩
    exact ⟨(p, g), ⟨(visiting.mem_entries).2 hp, hg⟩, rfl⟩

theorem mem_consumed :
    p ∈ consumed visiting s ↔ ∃ g, s.assignment[p]? = some g ∧ g.position ≠ none := by
  unfold consumed
  rw [Std.ExtTreeMap.mem_ofList, List.contains_iff_mem]
  simp only [List.mem_map, List.mem_filterMap, Option.map_eq_some_iff]
  constructor
  · rintro ⟨-, ⟨⟨q, g⟩, hmem, offset, hoffset, rfl⟩, rfl⟩
    exact ⟨g, (visiting.mem_entries).1 hmem, Option.ne_none_iff_exists'.2 ⟨offset, hoffset⟩⟩
  · rintro ⟨g, hp, hg⟩
    obtain ⟨offset, hoffset⟩ := Option.ne_none_iff_exists'.1 hg
    exact ⟨_, ⟨(p, g), (visiting.mem_entries).2 hp, offset, hoffset, rfl⟩, rfl⟩

theorem getElem?_consumed {g : Progress} {offset : Int64} (hg : s.assignment[p]? = some g)
    (hpos : g.position = some offset) :
    (consumed visiting s)[p]? = some (Commit.ofOffset offset) := by
  have hdistinct : (visiting.entries s.assignment).Pairwise fun e e' => e.1 ≠ e'.1 :=
    List.pairwise_map.1 (visiting.nodup_keys s.assignment)
  refine Std.ExtTreeMap.getElem?_ofList_of_mem Std.ReflCmp.compare_self ?_
    (List.mem_filterMap.2 ⟨(p, g), visiting.mem_entries.2 hg, by simp [hpos]⟩)
  refine hdistinct.filterMap _ ?_
  intro e e' hne b hb b' hb' heq
  obtain ⟨o, -, rfl⟩ := Option.map_eq_some_iff.1 hb
  obtain ⟨o', -, rfl⟩ := Option.map_eq_some_iff.1 hb'
  exact hne (Std.LawfulEqOrd.eq_of_compare heq)

theorem getElem?_consumed_eq :
    (consumed visiting s)[p]? = s.assignment[p]?.bind (·.position.map Commit.ofOffset) := by
  have none_of (h : ∀ g, s.assignment[p]? = some g → g.position = none) :
      (consumed visiting s)[p]? = none := by
    rw [← Option.not_isSome_iff_eq_none, ← Std.ExtTreeMap.mem_iff_isSome_getElem?, mem_consumed]
    rintro ⟨g, hg, hpos⟩
    exact hpos (h g hg)
  cases hg : s.assignment[p]? with
  | none => exact none_of fun g hg' => nomatch hg.symm.trans hg'
  | some g =>
      obtain hpos | ⟨offset, hpos⟩ := Option.eq_none_or_eq_some g.position
      · rw [none_of fun g' hg' => Option.some.inj (hg.symm.trans hg') ▸ hpos, Option.bind_some,
          hpos]
        rfl
      · rw [getElem?_consumed visiting hg hpos, Option.bind_some, hpos]
        rfl

/-- An assigned partition is to be committed, or it has no position. -/
theorem mem_assigned_iff :
    p ∈ assigned visiting s ↔ p ∈ consumed visiting s ∨ p ∈ missing visiting s := by
  rw [mem_assigned, mem_consumed, mem_missing_in, Std.ExtTreeMap.mem_iff_isSome_getElem?]
  constructor
  · intro hp
    obtain ⟨g, hg⟩ := Option.isSome_iff_exists.1 hp
    by_cases hpos : g.position = none
    · exact .inr ⟨g, hg, hpos⟩
    · exact .inl ⟨g, hg, hpos⟩
  · rintro (⟨g, hg, -⟩ | ⟨g, hg, -⟩)
    all_goals
      rw [hg]
      rfl

theorem not_consumed_and_missing :
    ¬ (p ∈ consumed visiting s ∧ p ∈ missing visiting s) := by
  rw [mem_consumed, mem_missing_in]
  rintro ⟨⟨g, hg, hpos⟩, ⟨g', hg', hnone⟩⟩
  rw [hg, Option.some.injEq] at hg'
  subst hg'
  exact hpos hnone

end

/-! ## All partitions at once -/

/-- The subscription with the progress on every assigned partition adjusted. -/
def adjust (F : Partition → Progress → Progress) (s : Subscription) : Subscription :=
  { s with assignment := s.assignment.map F }

theorem getElem?_adjust (F : Partition → Progress → Progress) (s : Subscription) (p : Partition) :
    (s.adjust F).assignment[p]? = s.assignment[p]?.map (F p) := by
  unfold adjust
  rw [Std.ExtTreeMap.getElem?_map]

theorem adjust_id (s : Subscription) : s.adjust (fun _ g => g) = s := by
  unfold adjust
  rw [Std.ExtTreeMap.map_id]

theorem adjust_adjust (F G : Partition → Progress → Progress) (s : Subscription) :
    (s.adjust F).adjust G = s.adjust fun p g => G p (F p g) := by
  unfold adjust
  rw [Std.ExtTreeMap.map_map]

theorem adjust_congr {F G : Partition → Progress → Progress} {s : Subscription}
    (h : ∀ p g, s.assignment[p]? = some g → F p g = G p g) : s.adjust F = s.adjust G := by
  have hmap : s.assignment.map F = s.assignment.map G := by
    refine Std.ExtTreeMap.ext_getElem? ?_
    intro p
    rw [Std.ExtTreeMap.getElem?_map, Std.ExtTreeMap.getElem?_map]
    cases hp : s.assignment[p]? with
    | none => rfl
    | some g => rw [Option.map_some, Option.map_some, h p g hp]
  unfold adjust
  rw [hmap]

theorem insert_adjust {G : Partition → Progress → Progress} {s : Subscription} {p : Partition}
    {g : Progress} (h : s.assignment[p]? = some g) (f : Progress → Progress) :
    { s.adjust G with assignment := (s.adjust G).assignment.insert p (f g) } =
      s.adjust fun q g => if q = p then f g else G q g := by
  have hmap : (s.adjust G).assignment.insert p (f g) =
      (s.adjust fun q g => if q = p then f g else G q g).assignment := by
    refine Std.ExtTreeMap.ext_getElem? ?_
    intro q
    rw [Std.ExtTreeMap.getElem?_insert, getElem?_adjust, getElem?_adjust]
    by_cases hq : q = p
    · subst hq
      rw [h, if_pos Std.ReflCmp.compare_self]
      simp only [Option.map_some, if_true]
    · rw [if_neg (Partition.compare_ne_eq (Ne.symm hq))]
      simp only [if_neg hq]
  rw [hmap]
  rfl

end Subscription

/-! ## Loops -/

namespace Client

/-- The client with the progress on every assigned partition adjusted. -/
def adjusted (F : Partition → Progress → Progress) (c : Client Subscription) :
    Client Subscription :=
  { c with tracker := c.tracker.adjust F }

theorem adjusted_id (c : Client Subscription) : c.adjusted (fun _ g => g) = c := by
  unfold adjusted
  rw [Subscription.adjust_id]

theorem adjusted_congr {F G : Partition → Progress → Progress} {c : Client Subscription}
    (h : ∀ p g, c.tracker.assignment[p]? = some g → F p g = G p g) :
    c.adjusted F = c.adjusted G := by
  unfold adjusted
  rw [Subscription.adjust_congr h]

/-- How one partition is adjusted only matters for the progress on it. -/
theorem adjusted_at_congr {F G : Partition → Progress → Progress} {c : Client Subscription}
    {p : Partition} {f : Progress → Progress}
    (h : ∀ g, c.tracker.assignment[p]? = some g → f g = F p g) :
    (c.adjusted fun q g => if q = p then f g else G q g) =
      c.adjusted fun q g => if q = p then F q g else G q g := by
  refine adjusted_congr ?_
  intro q g hg
  by_cases hq : q = p
  · subst hq
    rw [if_pos rfl, if_pos rfl, h g hg]
  · rw [if_neg hq, if_neg hq]

theorem run_change_adjusted {c : Client Subscription} {p : Partition} {g : Progress}
    (h : c.tracker.assignment[p]? = some g) (f : Progress → Progress)
    {G : Partition → Progress → Progress} (hG : G p g = g) :
    ((onTracker (Subscription.change p f)).run (c.adjusted G)).result = .ok () ∧
      ((onTracker (Subscription.change p f)).run (c.adjusted G)).state =
        c.adjusted fun q g => if q = p then f g else G q g := by
  have hp : (c.tracker.adjust G).assignment[p]? = some g := by
    rw [Subscription.getElem?_adjust, h, Option.map_some, hG]
  have hrun : (Subscription.change p f).run (c.adjusted G).tracker =
      ⟨.ok (), c.tracker.adjust fun q g => if q = p then f g else G q g, []⟩ := by
    show (Subscription.change p f).run (c.tracker.adjust G) = _
    rw [Subscription.run_change, hp, ← Subscription.insert_adjust h f]
  unfold onTracker
  rw [Action.run_within, hrun]
  exact ⟨rfl, rfl⟩

theorem run_setPosition_adjusted {c : Client Subscription} {p : Partition} {g : Progress}
    (h : c.tracker.assignment[p]? = some g) (hpos : g.position ≠ none) (offset : Int64)
    {G : Partition → Progress → Progress} (hG : G p g = g) :
    ((onTracker (Subscription.setPosition p offset)).run (c.adjusted G)).result = .ok () ∧
      ((onTracker (Subscription.setPosition p offset)).run (c.adjusted G)).state =
        c.adjusted fun q g => if q = p then { g with position := some offset } else G q g := by
  have hp : (c.tracker.adjust G).assignment[p]? = some g := by
    rw [Subscription.getElem?_adjust, h, Option.map_some, hG]
  have hrun : (Subscription.setPosition p offset).run (c.adjusted G).tracker =
      (Subscription.change p fun g => { g with position := some offset }).run
        (c.adjusted G).tracker := by
    have hsome : ¬ g.position.isNone = true := by
      rw [Option.isNone_iff_eq_none]
      exact hpos
    show (Subscription.setPosition p offset).run (c.tracker.adjust G) = _
    rw [Subscription.run_setPosition, hp]
    exact if_neg hsome
  have hchange := run_change_adjusted h (fun g => { g with position := some offset }) hG
  unfold onTracker at hchange ⊢
  rw [Action.run_within] at hchange ⊢
  rw [hrun]
  exact hchange

/-- A loop whose items each adjust the progress on a partition of their own adjusts all of it, where
    there is nothing to adjust on the partitions without an item. -/
theorem run_each_adjusted {ι : Type} (act : ι → Action (Client Subscription) Unit)
    (key : ι → Partition) (F : Partition → Progress → Progress) {c : Client Subscription}
    {xs : List ι} (hdistinct : (xs.map key).Nodup)
    (hact : ∀ x ∈ xs, ∀ G : Partition → Progress → Progress, (∀ g, G (key x) g = g) →
      ((act x).run (c.adjusted G)).result = .ok () ∧
        ((act x).run (c.adjusted G)).state =
          c.adjusted fun q g => if q = key x then F q g else G q g)
    (hrest : ∀ p g, c.tracker.assignment[p]? = some g → p ∉ xs.map key → F p g = g) :
    ((Action.each act xs).run c).result = .ok () ∧
      ((Action.each act xs).run c).state = c.adjusted F := by
  -- the invariant: the progress is adjusted on the partitions of the items done
  have hdone : ((Action.each act xs).run c).result = .ok () ∧
      ((Action.each act xs).run c).state =
        c.adjusted fun q g => if q ∈ xs.map key then F q g else g := by
    refine Action.run_each_of
      (fun pre s => s = c.adjusted fun q g => if q ∈ pre.map key then F q g else g) xs ?_ ?_
    · rintro pre x post s hxs rfl
      have hx : key x ∉ pre.map key := by
        rw [hxs, List.map_append, List.map_cons, List.nodup_append] at hdistinct
        obtain ⟨-, -, hdisjoint⟩ := hdistinct
        intro hmem
        exact hdisjoint _ hmem _ (List.mem_cons_self ..) rfl
      have hmem : x ∈ xs := by simp [hxs]
      have hsame : (fun q g => if q = key x then F q g else if q ∈ pre.map key then F q g else g)
          = fun q g => if q ∈ (pre ++ [x]).map key then F q g else g := by
        funext q g
        by_cases hq : q = key x
        · simp [hq]
        · simp [hq]
      obtain ⟨hres, hstate⟩ := hact x hmem (fun q g => if q ∈ pre.map key then F q g else g)
        fun g => if_neg hx
      refine ⟨hres, ?_⟩
      rw [hstate, hsame]
    · simp only [List.map_nil, List.not_mem_nil, if_false]
      exact (adjusted_id c).symm
  obtain ⟨hres, hstate⟩ := hdone
  refine ⟨hres, hstate.trans (adjusted_congr ?_)⟩
  intro p g hg
  by_cases hp : p ∈ xs.map key
  · rw [if_pos hp]
  · rw [if_neg hp, hrest p g hg hp]

end Client

end ScriptedConsumer
