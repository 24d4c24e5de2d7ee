import ScriptedConsumer.Proofs.Calls
import ScriptedConsumer.Proofs.Progress

set_option autoImplicit false

/-! # What calls make of a subscription

Every call of a subscription is all or nothing: it is refused and leaves the subscription as it is,
or it is granted and does all that it is meant to. The first half of the module runs the calls that
concern the subscription as a whole; `Subscription.Granted` then says for every call what it does
where it is granted, and `Subscription.perform_cases` that there is no third way. An invariant of
subscriptions has to be shown of `Granted` only. -/

namespace ScriptedConsumer

namespace Subscription

/-! ## Modes -/

/-- Whether a mode can be entered: from none, or from itself. -/
def Admits (s : Subscription) (mode : Mode) : Prop := s.mode = .unsubscribed ∨ s.mode = mode

instance (s : Subscription) (mode : Mode) : Decidable (s.Admits mode) :=
  inferInstanceAs (Decidable (_ ∨ _))

theorem mode_ne_of_admits {s : Subscription} {mode other : Mode} (h : s.Admits mode)
    (hnone : other ≠ .unsubscribed) (hother : other ≠ mode) : s.mode ≠ other := by
  rintro rfl
  rcases h with h | h
  · exact hnone h
  · exact hother h

theorem isAutoAssigned_iff (s : Subscription) :
    s.isAutoAssigned = true ↔ s.mode = .topics ∨ s.mode = .pattern := by
  simp [isAutoAssigned]

theorem isAutoAssigned_of_admits_manual {s : Subscription} (h : s.Admits .manual) :
    s.isAutoAssigned = false := by
  have htopics : s.mode ≠ .topics := mode_ne_of_admits h (by simp) (by simp)
  have hpattern : s.mode ≠ .pattern := mode_ne_of_admits h (by simp) (by simp)
  simp [isAutoAssigned, htopics, hpattern]

/-- A mode that is not admitted is refused, and nothing changes. -/
theorem run_enter (mode : Mode) (s : Subscription) :
    (enter mode).run s =
      if s.Admits mode then ⟨.ok (), { s with mode }, []⟩
      else ⟨.error .exclusiveSubscription, s, []⟩ := by
  unfold enter
  rw [Action.run_get_bind]
  by_cases hnew : s.mode = .unsubscribed
  · have hadmits : s.Admits mode := .inl hnew
    rw [if_pos hnew, if_pos hadmits]
    rfl
  · rw [if_neg hnew]
    by_cases hmode : s.mode = mode
    · have hadmits : s.Admits mode := .inr hmode
      rw [if_neg (not_not_intro hmode), if_pos hadmits, ← hmode]
      rfl
    · have hrefused : ¬ s.Admits mode := by
        rintro (h | h)
        · exact hnew h
        · exact hmode h
      rw [if_pos hmode, if_neg hrefused]
      rfl

theorem run_enter_bind {α : Type} (mode : Mode) (act : Action Subscription α) (s : Subscription) :
    (do enter mode; act : Action Subscription α).run s =
      if s.Admits mode then act.run { s with mode }
      else ⟨.error .exclusiveSubscription, s, []⟩ := by
  have hrun := run_enter mode s
  by_cases h : s.Admits mode
  · rw [if_pos h] at hrun
    rw [if_pos h, Action.run_bind_ok hrun]
    rfl
  · rw [if_neg h] at hrun
    rw [if_neg h, Action.run_bind_error hrun]

/-! ## Whole subscriptions -/

theorem run_changeTopics (topics : TopicSet) (s : Subscription) :
    (changeTopics topics).run s =
      ⟨.ok (), { s with topics },
        if s.topics = topics then [] else [.logged (.subscriptionChanged topics)]⟩ := by
  unfold changeTopics
  rw [Action.run_get_bind]
  by_cases h : s.topics = topics
  · rw [if_neg (not_not_intro h), if_pos h, ← h]
    rfl
  · rw [if_pos h, if_neg h]
    rfl

theorem run_subscribe (topics : TopicSet) (listener : Listener) (s : Subscription) :
    (subscribe topics listener).run s =
      if s.Admits .topics then
        ⟨.ok (), { s with mode := .topics, topics, listener := some listener },
          if s.topics = topics then [] else [.logged (.subscriptionChanged topics)]⟩
      else ⟨.error .exclusiveSubscription, s, []⟩ := by
  refine (run_enter_bind .topics _ s).trans ?_
  rw [Action.run_bind_ok (Action.run_modify _ _), run_changeTopics]
  rfl

theorem run_subscribePattern (pattern : Pattern) (listener : Listener) (s : Subscription) :
    (subscribePattern pattern listener).run s =
      if s.Admits .pattern then
        ⟨.ok (), { s with mode := .pattern, pattern := some pattern, listener := some listener },
          []⟩
      else ⟨.error .exclusiveSubscription, s, []⟩ :=
  run_enter_bind .pattern _ s

theorem run_setMatched (topics : TopicSet) (s : Subscription) :
    (setMatched topics).run s =
      if s.mode = .pattern then
        ⟨.ok (), { s with topics },
          if s.topics = topics then [] else [.logged (.subscriptionChanged topics)]⟩
      else ⟨.error (.patternModeRequired s.mode.name), s, []⟩ := by
  unfold setMatched
  rw [Action.run_get_bind]
  by_cases h : s.mode = .pattern
  · rw [if_neg (not_not_intro h), if_pos h]
    exact run_changeTopics topics s
  · rw [if_pos h, if_neg h]
    rfl

theorem run_assignManually (ps : PartitionSet) (s : Subscription) :
    (assignManually ps).run s =
      if s.Admits .manual then
        ⟨.ok (),
          { s with
            mode := .manual
            chosen := ps
            assignment := if s.chosen = ps then s.assignment else reassign s.assignment ps },
          if s.chosen = ps then [] else [.logged (.assignmentChanged ps.size)]⟩
      else ⟨.error .exclusiveSubscription, s, []⟩ := by
  refine (run_enter_bind .manual _ s).trans ?_
  rw [Action.run_get_bind]
  by_cases h : s.chosen = ps
  · simp only [h, ne_eq, not_true_eq_false, if_false, if_true]
    subst h
    rfl
  · simp only [h, ne_eq, not_false_eq_true, if_false, if_true]
    rfl

theorem getElem?_foldl_insertIfNew (ps : List Partition) (m : PartitionMap Progress)
    (p : Partition) :
    (ps.foldl (fun m p => m.insertIfNew p Progress.fresh) m)[p]? =
      if p ∈ ps then some (m[p]?.getD Progress.fresh) else m[p]? := by
  induction ps generalizing m with
  | nil => rfl
  | cons q rest ih =>
      rw [List.foldl_cons, ih, Std.ExtTreeMap.getElem?_insertIfNew]
      by_cases hq : p = q
      · subst hq
        cases hp : m[p]? <;> simp [hp, Std.ExtTreeMap.mem_iff_isSome_getElem?]
      · simp [Partition.compare_ne_eq (Ne.symm hq), hq]

/-- The partitions that stay assigned keep their progress. -/
theorem getElem?_reassign (m : PartitionMap Progress) (ps : PartitionSet) (p : Partition) :
    (reassign m ps)[p]? = if p ∈ ps then some (m[p]?.getD Progress.fresh) else none := by
  unfold reassign
  rw [Std.ExtTreeMap.getElem?_filter', getElem?_foldl_insertIfNew]
  by_cases hp : p ∈ ps
  · simp [hp]
  · cases m[p]? <;> simp [hp]

/-- The assignment that a group rebalance comes to. -/
def anew (ps : List Partition) : PartitionMap Progress :=
  Std.ExtTreeMap.ofList (ps.map fun p => (p, Progress.fresh))

theorem getElem?_foldl_insert (ps : List Partition) (m : PartitionMap Progress) (p : Partition) :
    (ps.foldl (fun m p => m.insert p Progress.fresh) m)[p]? =
      if p ∈ ps then some Progress.fresh else m[p]? := by
  induction ps generalizing m with
  | nil => rfl
  | cons q rest ih =>
      rw [List.foldl_cons, ih, Std.ExtTreeMap.getElem?_insert]
      by_cases hq : p = q
      · subst hq
        simp
      · simp [Partition.compare_ne_eq (Ne.symm hq), hq]

/-- A group rebalance starts every partition anew. -/
theorem getElem?_anew (ps : List Partition) (p : Partition) :
    (anew ps)[p]? = if p ∈ ps then some Progress.fresh else none := by
  unfold anew
  rw [Std.ExtTreeMap.ofList_eq_foldl, List.foldl_map, getElem?_foldl_insert,
    Std.ExtTreeMap.getElem?_empty]

theorem run_assignFromGroup (ps : List Partition) (s : Subscription) :
    (assignFromGroup ps).run s =
      if s.isAutoAssigned then
        match ps.find? (fun p => !s.topics.contains p.topic) with
        | some p => ⟨.error (.topicNotSubscribed p), s, []⟩
        | none => ⟨.ok (), { s with assignment := anew ps }, []⟩
      else ⟨.error (.notAutoAssigned s.mode.name), s, []⟩ := by
  unfold assignFromGroup
  rw [Action.run_get_bind]
  cases hauto : s.isAutoAssigned with
  | false => rfl
  | true =>
      simp only [Bool.not_true, Bool.false_eq_true, if_false, if_true]
      cases ps.find? (fun p => !s.topics.contains p.topic) <;> rfl

end Subscription

/-! ## Calls -/

/-- The partition on which a call edits the progress, and the edit; for the calls that do no more
    than that. A reset that names no policy takes the given one. -/
def Tracker.Call.edit? (policy : ResetPolicy) : Call → Option (Partition × (Progress → Progress))
  | .pause p => some (p, fun g => { g with paused := true })
  | .resume p => some (p, fun g => { g with paused := false })
  | .setPosition p offset => some (p, fun g => { g with position := some offset })
  | .setCommitted p commit => some (p, fun g => { g with committed := some commit })
  | .needReset p policy => some (p, (·.awaitReset policy))
  | .needDefaultReset p => some (p, (·.awaitReset policy))
  | .seek p offset => some (p, (·.seek offset))
  | _ => none

namespace Subscription

/-- What a call that is granted makes of a subscription. -/
inductive Granted (s : Subscription) : Tracker.Call → Subscription → Prop
  | subscribe (topics : TopicSet) (listener : Listener) (h : s.Admits .topics) :
      Granted s (.subscribe topics listener)
        { s with mode := .topics, topics, listener := some listener }
  | subscribePattern (pattern : Pattern) (listener : Listener) (h : s.Admits .pattern) :
      Granted s (.subscribePattern pattern listener)
        { s with mode := .pattern, pattern := some pattern, listener := some listener }
  | setMatched (topics : TopicSet) (h : s.mode = .pattern) :
      Granted s (.setMatched topics) { s with topics }
  | assignManually (ps : PartitionSet) (h : s.Admits .manual) :
      Granted s (.assignManually ps)
        { s with
          mode := .manual
          chosen := ps
          assignment := if s.chosen = ps then s.assignment else reassign s.assignment ps }
  | assignFromGroup (ps : List Partition) (h : s.isAutoAssigned = true) :
      Granted s (.assignFromGroup ps) { s with assignment := anew ps }
  | unsubscribe : Granted s .unsubscribe s.unsubscribe
  /-- The progress on one partition is edited. Only a position that is there is moved. -/
  | edit {call : Tracker.Call} {p : Partition} {f : Progress → Progress} {g : Progress}
      (hcall : call.edit? s.defaultPolicy = some (p, f)) (hp : s.assignment[p]? = some g)
      (hmove : ∀ q offset, call = .setPosition q offset → g.position ≠ none) :
      Granted s call { s with assignment := s.assignment.insert p (f g) }

/-- What a call comes to: it is refused and changes nothing, or it is granted. -/
def Comes (s : Subscription) (call : Tracker.Call) (o : Outcome Subscription Unit) : Prop :=
  (∃ e, o.result = .error e ∧ o.state = s) ∨ (o.result = .ok () ∧ s.Granted call o.state)

theorem comes_change {s : Subscription} {call : Tracker.Call} {p : Partition}
    {f : Progress → Progress} (hcall : call.edit? s.defaultPolicy = some (p, f))
    (hmove : ∀ g, s.assignment[p]? = some g →
      ∀ q offset, call = .setPosition q offset → g.position ≠ none) :
    s.Comes call ((change p f).run s) := by
  rw [run_change]
  cases hp : s.assignment[p]? with
  | none => exact .inl ⟨_, rfl, rfl⟩
  | some g => exact .inr ⟨rfl, .edit hcall hp (hmove g hp)⟩

/-- Every call is refused and changes nothing, or it is granted. -/
theorem perform_cases (call : Tracker.Call) (s : Subscription) :
    s.Comes call (call.perform.run s) := by
  have edited {call : Tracker.Call} {p : Partition} {f : Progress → Progress}
      (hcall : call.edit? s.defaultPolicy = some (p, f))
      (hother : ∀ q offset, call ≠ .setPosition q offset) :
      s.Comes call ((change p f).run s) :=
    comes_change hcall fun _ _ q offset h => absurd h (hother q offset)
  cases call with
  | subscribe topics listener =>
      show s.Comes _ ((subscribe topics listener).run s)
      rw [run_subscribe]
      split
      · next h => exact .inr ⟨rfl, .subscribe topics listener h⟩
      · exact .inl ⟨_, rfl, rfl⟩
  | subscribePattern pattern listener =>
      show s.Comes _ ((subscribePattern pattern listener).run s)
      rw [run_subscribePattern]
      split
      · next h => exact .inr ⟨rfl, .subscribePattern pattern listener h⟩
      · exact .inl ⟨_, rfl, rfl⟩
  | setMatched topics =>
      show s.Comes _ ((setMatched topics).run s)
      rw [run_setMatched]
      split
      · next h => exact .inr ⟨rfl, .setMatched topics h⟩
      · exact .inl ⟨_, rfl, rfl⟩
  | assignManually ps =>
      show s.Comes _ ((assignManually ps).run s)
      rw [run_assignManually]
      split
      · next h => exact .inr ⟨rfl, .assignManually ps h⟩
      · exact .inl ⟨_, rfl, rfl⟩
  | assignFromGroup ps =>
      show s.Comes _ ((assignFromGroup ps).run s)
      rw [run_assignFromGroup]
      split
      · next h =>
          split
          · exact .inl ⟨_, rfl, rfl⟩
          · exact .inr ⟨rfl, .assignFromGroup ps h⟩
      · exact .inl ⟨_, rfl, rfl⟩
  | unsubscribe => exact .inr ⟨rfl, .unsubscribe⟩
  | setPosition p offset =>
      show s.Comes _ ((setPosition p offset).run s)
      rw [run_setPosition]
      cases hp : s.assignment[p]? with
      | none => exact .inl ⟨_, rfl, rfl⟩
      | some g =>
          show s.Comes _ (if g.position.isNone then _ else
            (change p fun g => { g with position := some offset }).run s)
          by_cases hg : g.position.isNone = true
          · rw [if_pos hg]
            exact .inl ⟨_, rfl, rfl⟩
          · rw [if_neg hg]
            refine comes_change rfl ?_
            intro g' hg' _ _ _ hnone
            rw [hp, Option.some.injEq] at hg'
            subst hg'
            exact hg (Option.isNone_iff_eq_none.2 hnone)
  | pause p => exact edited rfl (by simp)
  | resume p => exact edited rfl (by simp)
  | setCommitted p commit => exact edited rfl (by simp)
  | needReset p policy => exact edited rfl (by simp)
  | needDefaultReset p =>
      show s.Comes _ ((Tracker.needDefaultReset p).run s)
      rw [Tracker.run_needDefaultReset]
      exact edited rfl (by simp)
  | seek p offset => exact edited rfl (by simp)

/-- What every granted call carries on, every call carries on. -/
theorem maintains_perform {I : Subscription → Prop} {call : Tracker.Call}
    (hgranted : ∀ s s', I s → s.Granted call s' → I s') : Action.Maintains I call.perform := by
  intro s hs
  rcases perform_cases call s with ⟨e, -, hsame⟩ | ⟨-, hgrant⟩
  · rw [hsame]
    exact hs
  · exact hgranted s _ hs hgrant

end Subscription

end ScriptedConsumer
