import ScriptedConsumer.Proofs.Subscribing

set_option autoImplicit false

/-! # What the fields of a subscription have to do with each other

A subscription says in several places what it is subscribed to: by its mode, by its topics, its
pattern and its listener, by the partitions that the user chose, and by the assignment.
`Subscription.Coherent` is what keeps them together. It is not enough that each call puts its own
fields right: choosing the same partitions again does nothing, and that is only sound because the
choice is the assignment. The invariant is shown of the calls that are granted, one by one, and
`Subscription.coherent_after` says it of every subscription that calls can bring about. -/

namespace ScriptedConsumer

/-! ## Progress -/

/-- A pending reset leaves no position. -/
def Progress.Settled (g : Progress) : Prop := g.pendingReset ≠ none → g.position = none

theorem Progress.settled_fresh : fresh.Settled := by
  intro h
  exact absurd rfl h

/-- An edit leaves no position beside a pending reset, if it moves only a position that is there. -/
theorem Progress.Settled.edit {g : Progress} (hg : g.Settled) {call : Tracker.Call}
    {policy : ResetPolicy} {p : Partition} {f : Progress → Progress}
    (hcall : call.edit? policy = some (p, f))
    (hmove : ∀ q offset, call = .setPosition q offset → g.position ≠ none) : (f g).Settled := by
  cases call with
  | pause q | resume q | setCommitted q commit =>
      cases hcall
      exact hg
  | needReset q policy | needDefaultReset q =>
      cases hcall
      intro _
      rfl
  | seek q offset =>
      cases hcall
      intro h
      exact absurd rfl h
  | setPosition q offset =>
      cases hcall
      intro h
      exact absurd (hg h) (hmove p offset rfl)
  | _ => cases hcall

namespace Subscription

/-! ## The invariant -/

/-- What the fields of a subscription have to do with each other. -/
structure Coherent (s : Subscription) : Prop where
  /-- Only a subscription to a pattern has one. -/
  pattern : s.pattern.isSome = true ↔ s.mode = .pattern
  /-- A subscription to topics or to a pattern has a listener, and no other has one. -/
  listener : s.listener.isSome = true ↔ s.isAutoAssigned = true
  /-- Only a subscription to topics or to a pattern has topics. -/
  topics : s.isAutoAssigned = false → s.topics = ∅
  /-- Only where the user chooses the partitions, some are chosen. -/
  chosen : s.mode ≠ .manual → s.chosen = ∅
  /-- Without topics and without a pattern exactly the chosen partitions are assigned. -/
  assigned : s.isAutoAssigned = false → ∀ p, p ∈ s.assignment ↔ p ∈ s.chosen
  /-- No assigned partition has a position beside a pending reset. -/
  settled : ∀ (p : Partition) (g : Progress), s.assignment[p]? = some g → g.Settled

theorem coherent_empty (policy : ResetPolicy) : (empty policy).Coherent where
  pattern := by simp [empty]
  listener := by simp [empty, isAutoAssigned]
  topics _ := rfl
  chosen _ := rfl
  assigned _ p := by simp [empty]
  settled p g hp := by simp [empty] at hp

namespace Coherent

variable {s : Subscription}

theorem subscribe (hs : s.Coherent) (topics : TopicSet) (listener : Listener)
    (h : s.Admits .topics) :
    Coherent { s with mode := .topics, topics, listener := some listener } where
  pattern := by
    have hpattern : s.mode ≠ .pattern := mode_ne_of_admits h (by simp) (by simp)
    simp [hs.pattern, hpattern]
  listener := by simp [isAutoAssigned]
  topics hauto := by simp [isAutoAssigned] at hauto
  chosen _ := hs.chosen (mode_ne_of_admits h (by simp) (by simp))
  assigned hauto := by simp [isAutoAssigned] at hauto
  settled := hs.settled

theorem subscribePattern (hs : s.Coherent) (pattern : Pattern) (listener : Listener)
    (h : s.Admits .pattern) :
    Coherent
      { s with mode := .pattern, pattern := some pattern, listener := some listener } where
  pattern := by simp
  listener := by simp [isAutoAssigned]
  topics hauto := by simp [isAutoAssigned] at hauto
  chosen _ := hs.chosen (mode_ne_of_admits h (by simp) (by simp))
  assigned hauto := by simp [isAutoAssigned] at hauto
  settled := hs.settled

theorem setMatched (hs : s.Coherent) (topics : TopicSet) (h : s.mode = .pattern) :
    Coherent { s with topics } where
  pattern := hs.pattern
  listener := hs.listener
  topics hauto := by simp [isAutoAssigned, h] at hauto
  chosen := hs.chosen
  assigned := hs.assigned
  settled := hs.settled

/-- Choosing the same partitions again may do nothing, since they are the ones that are assigned. -/
theorem assignManually (hs : s.Coherent) (ps : PartitionSet) (h : s.Admits .manual) :
    Coherent
      { s with
        mode := .manual
        chosen := ps
        assignment := if s.chosen = ps then s.assignment else reassign s.assignment ps } := by
  have hpattern : s.mode ≠ .pattern := mode_ne_of_admits h (by simp) (by simp)
  have hauto : s.isAutoAssigned = false := isAutoAssigned_of_admits_manual h
  refine ⟨?_, ?_, fun _ => hs.topics hauto, by simp, ?_, ?_⟩
  · simp [hs.pattern, hpattern]
  · rw [hs.listener, hauto]
    simp [isAutoAssigned]
  · intro _ p
    by_cases hsame : s.chosen = ps
    · rw [if_pos hsame, ← hsame]
      exact hs.assigned hauto p
    · rw [if_neg hsame, Std.ExtTreeMap.mem_iff_isSome_getElem?, getElem?_reassign]
      by_cases hp : p ∈ ps <;> simp [hp]
  · intro p g hp
    by_cases hsame : s.chosen = ps
    · rw [if_pos hsame] at hp
      exact hs.settled p g hp
    · rw [if_neg hsame, getElem?_reassign] at hp
      split at hp
      · cases hold : s.assignment[p]? with
        | none =>
            simp only [hold, Option.getD_none, Option.some.injEq] at hp
            rw [← hp]
            exact Progress.settled_fresh
        | some g' =>
            simp only [hold, Option.getD_some, Option.some.injEq] at hp
            rw [← hp]
            exact hs.settled p g' hold
      · cases hp

theorem assignFromGroup (hs : s.Coherent) (ps : List Partition) (h : s.isAutoAssigned = true) :
    Coherent { s with assignment := anew ps } where
  pattern := hs.pattern
  listener := hs.listener
  topics := hs.topics
  chosen := hs.chosen
  assigned hauto := by
    have hnot : s.isAutoAssigned = false := hauto
    rw [h] at hnot
    cases hnot
  settled p g hp := by
    have hfresh : (anew ps)[p]? = some g := hp
    rw [getElem?_anew] at hfresh
    split at hfresh
    · cases hfresh
      exact Progress.settled_fresh
    · cases hfresh

theorem edit (hs : s.Coherent) {p : Partition} {g g' : Progress}
    (hp : s.assignment[p]? = some g) (hg : g'.Settled) :
    Coherent { s with assignment := s.assignment.insert p g' } where
  pattern := hs.pattern
  listener := hs.listener
  topics := hs.topics
  chosen := hs.chosen
  assigned hauto q := by
    rw [Std.ExtTreeMap.mem_insert, ← hs.assigned hauto q]
    refine or_iff_right_of_imp ?_
    intro hq
    rw [← Std.LawfulEqOrd.eq_of_compare hq, Std.ExtTreeMap.mem_iff_isSome_getElem?, hp]
    rfl
  settled q h hq := by
    rw [Std.ExtTreeMap.getElem?_insert] at hq
    split at hq
    · cases hq
      exact hg
    · exact hs.settled q h hq

end Coherent

/-- Every call leaves a coherent subscription coherent, whether it is granted or not. -/
theorem maintains_coherent (call : Tracker.Call) :
    Action.Maintains Coherent call.perform := by
  refine maintains_perform ?_
  intro s s' hs h
  cases h with
  | subscribe topics listener h => exact hs.subscribe topics listener h
  | subscribePattern pattern listener h => exact hs.subscribePattern pattern listener h
  | setMatched topics h => exact hs.setMatched topics h
  | assignManually ps h => exact hs.assignManually ps h
  | assignFromGroup ps h => exact hs.assignFromGroup ps h
  | unsubscribe => exact coherent_empty s.defaultPolicy
  | edit hcall hp hmove => exact hs.edit hp ((hs.settled _ _ hp).edit hcall hmove)

/-! ## Mode by mode -/

namespace Coherent

variable {s : Subscription}

theorem of_unsubscribed (hs : s.Coherent) (h : s.mode = .unsubscribed) :
    s.topics = ∅ ∧ s.pattern = none ∧ s.listener = none ∧ s.chosen = ∅ ∧ s.assignment = ∅ := by
  have hauto : s.isAutoAssigned = false := by simp [isAutoAssigned, h]
  have hchosen : s.chosen = ∅ := hs.chosen (by simp [h])
  have hassigned : s.assignment = ∅ := by
    refine Std.ExtTreeMap.eq_empty_iff_forall_not_mem.2 ?_
    intro p
    rw [hs.assigned hauto, hchosen]
    exact Std.ExtTreeSet.not_mem_empty
  refine ⟨hs.topics hauto, ?_, ?_, hchosen, hassigned⟩
  · simpa [h] using hs.pattern
  · simpa [hauto] using hs.listener

theorem of_topics (hs : s.Coherent) (h : s.mode = .topics) :
    s.pattern = none ∧ s.chosen = ∅ ∧ ∃ listener, s.listener = some listener := by
  have hauto : s.isAutoAssigned = true := by simp [isAutoAssigned, h]
  refine ⟨?_, hs.chosen (by simp [h]), ?_⟩
  · simpa [h] using hs.pattern
  · exact Option.isSome_iff_exists.1 (hs.listener.2 hauto)

theorem of_pattern (hs : s.Coherent) (h : s.mode = .pattern) :
    (∃ pattern, s.pattern = some pattern) ∧ (∃ listener, s.listener = some listener) ∧
      s.chosen = ∅ := by
  have hauto : s.isAutoAssigned = true := by simp [isAutoAssigned, h]
  refine ⟨?_, ?_, hs.chosen (by simp [h])⟩
  · exact Option.isSome_iff_exists.1 (hs.pattern.2 h)
  · exact Option.isSome_iff_exists.1 (hs.listener.2 hauto)

theorem of_manual (hs : s.Coherent) (h : s.mode = .manual) :
    s.topics = ∅ ∧ s.pattern = none ∧ s.listener = none ∧ ∀ p, p ∈ s.assignment ↔ p ∈ s.chosen := by
  have hauto : s.isAutoAssigned = false := by simp [isAutoAssigned, h]
  refine ⟨hs.topics hauto, ?_, ?_, hs.assigned hauto⟩
  · simpa [h] using hs.pattern
  · simpa [hauto] using hs.listener

end Coherent

/-! ## Every subscription -/

/-- A subscription that calls have brought about, successful or refused, is coherent. -/
theorem coherent_after_calls (policy : ResetPolicy) (calls : List Tracker.Call) :
    (Tracker.after (empty policy) calls).Coherent :=
  Tracker.after_induction maintains_coherent (coherent_empty policy) calls

/-- **What the fields of a subscription have to do with each other**, in every subscription that
    calls have brought about, successful or refused: mode by mode what is there and what is not;
    that a partition with a pending reset has no position; and that the assigned partitions are
    those to be committed and those without a position, and none is both. -/
theorem fields_agree (policy : ResetPolicy) (calls : List Tracker.Call) :
    let s := Tracker.after (empty policy) calls
    (s.mode = .unsubscribed →
      s.topics = ∅ ∧ s.pattern = none ∧ s.listener = none ∧ s.chosen = ∅ ∧ s.assignment = ∅) ∧
    (s.mode = .topics →
      s.pattern = none ∧ s.chosen = ∅ ∧ ∃ listener, s.listener = some listener) ∧
    (s.mode = .pattern →
      (∃ pattern, s.pattern = some pattern) ∧ (∃ listener, s.listener = some listener) ∧
        s.chosen = ∅) ∧
    (s.mode = .manual →
      s.topics = ∅ ∧ s.pattern = none ∧ s.listener = none ∧
        ∀ visiting, assigned visiting s = s.chosen) ∧
    ∀ visiting p,
      (∀ g, s.assignment[p]? = some g → g.pendingReset ≠ none →
        g.position = none ∧ p ∈ missing visiting s) ∧
      (p ∈ assigned visiting s ↔ p ∈ consumed visiting s ∨ p ∈ missing visiting s) ∧
      ¬ (p ∈ consumed visiting s ∧ p ∈ missing visiting s) := by
  intro s
  have hs : s.Coherent := coherent_after_calls policy calls
  refine ⟨hs.of_unsubscribed, hs.of_topics, hs.of_pattern, ?_, ?_⟩
  · intro hmode
    obtain ⟨htopics, hpattern, hlistener, hchosen⟩ := hs.of_manual hmode
    refine ⟨htopics, hpattern, hlistener, ?_⟩
    intro visiting
    refine Std.ExtTreeSet.ext_mem ?_
    intro p
    rw [mem_assigned, hchosen]
  · intro visiting p
    refine ⟨?_, ?_, ?_⟩
    · intro g hp hpending
      have hnone : g.position = none := hs.settled p g hp hpending
      exact ⟨hnone, (mem_missing_in visiting).2 ⟨g, hp, hnone⟩⟩
    · exact mem_assigned_iff visiting
    · exact not_consumed_and_missing visiting

end Subscription

end ScriptedConsumer
