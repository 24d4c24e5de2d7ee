import ScriptedConsumer.Proofs.Coherence

set_option autoImplicit false

/-! # Partitions that the user chooses

Choosing partitions assigns exactly those. A partition that stays assigned keeps its progress, and
one that comes to be assigned starts anew. Choosing the same ones again is a shortcut that does
nothing; it compares with the last choice and not with the assignment, so it is only sound because
the two agree in every subscription that admits a choice. `Coherent.run_choice` puts both ways
together, and `Subscription.choice_keeps_progress` is what comes of it. -/

namespace ScriptedConsumer

namespace Subscription

variable {s : Subscription} {ps : PartitionSet}

/-- The subscription with the given partitions assigned by the user's choice. -/
def choosing (ps : PartitionSet) (s : Subscription) : Subscription :=
  { s with mode := .manual, chosen := ps, assignment := reassign s.assignment ps }

/-- Assigns the partitions that the user chose, without the shortcut for the same choice. -/
def assignInFull (ps : PartitionSet) : Action Subscription Unit := do
  enter .manual
  let s ← get
  Action.log (.assignmentChanged ps.size)
  set { s with assignment := reassign s.assignment ps, chosen := ps }

theorem run_assignInFull (ps : PartitionSet) (s : Subscription) :
    (assignInFull ps).run s =
      if s.Admits .manual then ⟨.ok (), s.choosing ps, [.logged (.assignmentChanged ps.size)]⟩
      else ⟨.error .exclusiveSubscription, s, []⟩ :=
  run_enter_bind .manual _ s

/-! ## The shortcut -/

namespace Coherent

theorem reassign_chosen (hs : s.Coherent) (h : s.Admits .manual) :
    reassign s.assignment s.chosen = s.assignment := by
  refine Std.ExtTreeMap.ext_getElem? ?_
  intro p
  have hmem := hs.assigned (isAutoAssigned_of_admits_manual h) p
  rw [Std.ExtTreeMap.mem_iff_isSome_getElem?] at hmem
  rw [getElem?_reassign]
  split
  · next hp =>
      obtain ⟨g, hg⟩ := Option.isSome_iff_exists.1 (hmem.2 hp)
      rw [hg]
      rfl
  · next hp => exact (Option.not_isSome_iff_eq_none.1 (mt hmem.1 hp)).symm

/-- A choice that is admitted assigns the chosen partitions, by the shortcut or in full. -/
theorem run_choice (hs : s.Coherent) (h : s.Admits .manual) (ps : PartitionSet) :
    ((Subscription.assignManually ps).run s).result = .ok () ∧
      ((Subscription.assignManually ps).run s).state = s.choosing ps := by
  rw [run_assignManually, if_pos h]
  refine ⟨rfl, ?_⟩
  by_cases hsame : s.chosen = ps
  · subst hsame
    unfold Subscription.choosing
    rw [hs.reassign_chosen h, if_pos rfl]
  · rw [if_neg hsame]
    rfl

theorem choosing (hs : s.Coherent) (h : s.Admits .manual) (ps : PartitionSet) :
    (s.choosing ps).Coherent := by
  rw [← (hs.run_choice h ps).2]
  exact maintains_coherent (.assignManually ps) s hs

end Coherent

theorem admits_choosing (ps : PartitionSet) (s : Subscription) : (s.choosing ps).Admits .manual :=
  .inr rfl

theorem assigned_choosing (visiting : Visiting Progress) (ps : PartitionSet) (s : Subscription) :
    assigned visiting (s.choosing ps) = ps := by
  refine Std.ExtTreeSet.ext_mem ?_
  intro p
  rw [mem_assigned, Std.ExtTreeMap.mem_iff_isSome_getElem?]
  show ((reassign s.assignment ps)[p]?).isSome = true ↔ p ∈ ps
  rw [getElem?_reassign]
  split <;> simp [*]

theorem getElem?_choosing (ps : PartitionSet) (s : Subscription) (p : Partition) :
    (s.choosing ps).assignment[p]? =
      if p ∈ ps then some (s.assignment[p]?.getD .fresh) else none := getElem?_reassign ..

/-- What is given up and chosen again starts anew, and what stays in between stays. -/
theorem getElem?_choosing_again (ps qs : PartitionSet) (s : Subscription) {p : Partition}
    (hp : p ∈ ps) :
    (((s.choosing ps).choosing qs).choosing ps).assignment[p]? =
      if p ∈ qs then (s.choosing ps).assignment[p]? else some .fresh := by
  rw [getElem?_choosing, if_pos hp, getElem?_choosing, getElem?_choosing, if_pos hp]
  split <;> rfl

/-! ## Every subscription -/

/-- **A choice keeps what it keeps.** In every subscription that calls have brought about and that
    admits a choice of partitions, choosing succeeds and assigns exactly the chosen ones. Those that
    were assigned keep their progress, the others start anew. The shortcut for the same choice comes
    to the same as assigning in full, as it does in any subscription that was dropped just before.
    After choosing some partitions, then others, and the first ones again, exactly those start anew
    that were not among the others. -/
theorem choice_keeps_progress (policy : ResetPolicy) (calls : List Tracker.Call) :
    let s := Tracker.after (empty policy) calls
    let chosen (ps : PartitionSet) (s : Subscription) := ((assignManually ps).run s).state
    let inFull (ps : PartitionSet) (s : Subscription) := ((assignInFull ps).run s).state
    (s.Admits .manual → ∀ ps : PartitionSet,
      ((assignManually ps).run s).result = .ok () ∧
      (∀ visiting, assigned visiting (chosen ps s) = ps) ∧
      (∀ p ∈ ps, ∀ g, s.assignment[p]? = some g → (chosen ps s).assignment[p]? = some g) ∧
      (∀ p ∈ ps, p ∉ s.assignment → (chosen ps s).assignment[p]? = some .fresh) ∧
      inFull ps s = chosen ps s ∧
      ∀ qs : PartitionSet, let again := chosen ps (chosen qs (chosen ps s))
        (∀ visiting, assigned visiting again = ps) ∧
        ∀ p ∈ ps, again.assignment[p]? =
          if p ∈ qs then (chosen ps s).assignment[p]? else some .fresh) ∧
    (∀ ps : PartitionSet, ((assignManually ps).run s.unsubscribe).result = .ok () ∧
      inFull ps s.unsubscribe = chosen ps s.unsubscribe) := by
  intro s chosen inFull
  have hs : s.Coherent := coherent_after_calls policy calls
  have hchosen {s : Subscription} (hs : s.Coherent) (h : s.Admits .manual) (ps : PartitionSet) :
      chosen ps s = s.choosing ps := (hs.run_choice h ps).2
  have hfull {s : Subscription} (hs : s.Coherent) (h : s.Admits .manual) (ps : PartitionSet) :
      inFull ps s = chosen ps s := by
    rw [hchosen hs h]
    show ((assignInFull ps).run s).state = _
    rw [run_assignInFull, if_pos h]
  refine ⟨?_, ?_⟩
  · intro h ps
    have hps := hs.choosing h ps
    refine ⟨(hs.run_choice h ps).1, ?_, ?_, ?_, hfull hs h ps, ?_⟩
    · intro visiting
      rw [hchosen hs h, assigned_choosing]
    · intro p hp g hg
      rw [hchosen hs h, getElem?_choosing, if_pos hp, hg]
      rfl
    · intro p hp hnew
      rw [hchosen hs h, getElem?_choosing, if_pos hp, Std.ExtTreeMap.getElem?_eq_none hnew]
      rfl
    · intro qs again
      have hagain : again = ((s.choosing ps).choosing qs).choosing ps := by
        show chosen ps (chosen qs (chosen ps s)) = _
        rw [hchosen hs h, hchosen hps (admits_choosing ps s),
          hchosen (hps.choosing (admits_choosing ps s) qs) (admits_choosing qs _)]
      rw [hagain, hchosen hs h]
      exact ⟨fun visiting => assigned_choosing visiting ps _,
        fun p hp => getElem?_choosing_again ps qs s hp⟩
  · intro ps
    have hdropped : s.unsubscribe.Coherent := coherent_empty _
    have hadmits : s.unsubscribe.Admits .manual := .inl rfl
    exact ⟨(hdropped.run_choice hadmits ps).1, hfull hdropped hadmits ps⟩

end Subscription

/-! ## A choice that is taken back -/

/-- Calls that choose two partitions, seek on one of them and pause the other one. -/
def Tracker.Call.choiceSeekPause : List Tracker.Call :=
  [.assignManually {⟨"orders", 0⟩, ⟨"orders", 1⟩}, .seek ⟨"orders", 0⟩ 7, .pause ⟨"orders", 1⟩]

/-- Choosing the first partition and a new one keeps the position of the first. When others are
    chosen meanwhile, the new one among them, only the first one starts anew. -/
theorem Subscription.choiceSeekPause_kept :
    let s := Tracker.after (empty .latest) Tracker.Call.choiceSeekPause
    let ps : PartitionSet := {⟨"orders", 0⟩, ⟨"orders", 2⟩}
    let qs : PartitionSet := {⟨"orders", 1⟩, ⟨"orders", 2⟩}
    let once := ((assignManually ps).run s).state
    let again := ((assignManually ps).run ((assignManually qs).run once).state).state
    s.Admits .manual ∧
    once.assignment[(⟨"orders", 0⟩ : Partition)]? =
      some { Progress.fresh with position := some 7 } ∧
    once.assignment[(⟨"orders", 2⟩ : Partition)]? = some .fresh ∧
    again.assignment[(⟨"orders", 0⟩ : Partition)]? = some .fresh ∧
    again.assignment[(⟨"orders", 2⟩ : Partition)]? =
      once.assignment[(⟨"orders", 2⟩ : Partition)]? ∧
    ((assignInFull s.chosen).run s).state = ((assignManually s.chosen).run s).state := by
  have hadmits : (Tracker.after (empty .latest) Tracker.Call.choiceSeekPause).Admits .manual :=
    .inr (by decide +kernel)
  have hkeeps := (choice_keeps_progress .latest Tracker.Call.choiceSeekPause).1 hadmits
  obtain ⟨-, -, hkept, hnew, -, hagain⟩ := hkeeps {⟨"orders", 0⟩, ⟨"orders", 2⟩}
  obtain ⟨-, hreturned⟩ := hagain {⟨"orders", 1⟩, ⟨"orders", 2⟩}
  obtain ⟨-, -, -, -, hfull, -⟩ :=
    hkeeps (Tracker.after (empty .latest) Tracker.Call.choiceSeekPause).chosen
  refine ⟨hadmits, hkept _ (by decide +kernel) _ (by decide +kernel),
    hnew _ (by decide +kernel) (by decide +kernel), ?_, ?_, hfull⟩
  · exact (hreturned ⟨"orders", 0⟩ (by decide +kernel)).trans (if_neg (by decide +kernel))
  · exact (hreturned ⟨"orders", 2⟩ (by decide +kernel)).trans (if_pos (by decide +kernel))

end ScriptedConsumer
