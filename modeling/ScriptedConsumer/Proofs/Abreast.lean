import ScriptedConsumer.Proofs.Commits
import ScriptedConsumer.Proofs.Slices

set_option autoImplicit false

/-! # Two clients side by side

The same request, made of two clients that are alike at a partition, leaves them alike at it:
`Client.alike_handle`. So does a fetch that ends well on both or fails on both, and it delivers the
same records of the partition to both: `Client.alike_fetch`.

Most requests end alike on both clients, and then one rule for each way to build an operation is
enough. Three do not. A request that only looks may be refused by one client and not by the other,
but changes neither. Asking for the position of another partition may fail on one of them only, and
spares this one. And to commit what was consumed walks the partitions that have a position, which
need not be the same ones; but it comes to the same on every partition. -/

namespace ScriptedConsumer

namespace Client

variable {p : Partition} {c c' : Client Subscription}

/-! ## Edits -/

namespace Alike

theorem syncPaused (h : c.Alike p c') : c.syncPaused.Alike p c'.syncPaused where
  tracker := h.tracker
  catalog := h.catalog
  records := h.records
  paused := by
    have hboth : p ∈ c.paused ↔ p ∈ c'.paused := Bool.eq_iff_iff.1 h.paused
    refine Bool.eq_iff_iff.2 ?_
    show p ∈ c.paused.filter _ ↔ p ∈ c'.paused.filter _
    rw [Std.ExtTreeSet.mem_filter, Std.ExtTreeSet.mem_filter]
    simp only [Std.ExtTreeSet.get_eq, h.tracker.isPaused_eq, exists_prop, hboth]
  beginning := h.beginning
  ending := h.ending

theorem buffered (h : c.Alike p c') (r : Record) : (c.buffered r).Alike p (c'.buffered r) := by
  refine { h with records := ?_ }
  show (c.buffer.insert r.partition _)[p]? = (c'.buffer.insert r.partition _)[p]?
  by_cases hr : r.partition = p
  · subst hr
    rw [Std.ExtTreeMap.getElem?_insert_self, Std.ExtTreeMap.getElem?_insert_self,
      Std.ExtTreeMap.getD_eq_getD_getElem?, Std.ExtTreeMap.getD_eq_getD_getElem?, h.records]
  · rw [getElem?_insert_of_ne hr, getElem?_insert_of_ne hr, h.records]

/-- Adjusting the progress on all partitions, and on this one in the same way. -/
theorem adjusted (h : c.Alike p c') {F F' : Partition → Progress → Progress}
    (hF : ∀ g, F p g = F' p g) : (c.adjusted F).Alike p (c'.adjusted F') := by
  refine { h with tracker := ⟨h.tracker.rest, ?_, ?_⟩ }
  · intro q
    show (c.tracker.assignment.map F).contains q = (c'.tracker.assignment.map F').contains q
    rw [Std.ExtTreeMap.contains_map, Std.ExtTreeMap.contains_map, h.tracker.assigned]
  · show (c.tracker.adjust F).assignment[p]? = (c'.tracker.adjust F').assignment[p]?
    rw [Subscription.getElem?_adjust, Subscription.getElem?_adjust, h.tracker.progress]
    exact Option.map_congr fun g _ => hF g

end Alike

/-! ## Parts of requests -/

/-- The operation leaves clients alike that are alike, and on both it ends well or on both it
    fails. -/
abbrev Evenhanded {α : Type} (p : Partition) (act : Action (Client Subscription) α) : Prop :=
  Action.Abreast (Alike p) (fun _ _ => True) act act

theorem abreast_call (call : Tracker.Call) (hcall : ∀ q offset, call ≠ .setPosition q offset) :
    Evenhanded p (onTracker call.perform) := by
  intro c c' h
  obtain ⟨htracker, hend⟩ := Subscription.abreast_perform call hcall _ _ h.tracker
  exact ⟨{ h with tracker := htracker }, hend⟩

theorem abreast_ensureAssigned (ps : List Partition) : Evenhanded p (ensureAssigned ps) := by
  refine .bind .get fun c c' h => ?_
  have hfind : ps.find? (fun q => !Tracker.isAssigned c'.tracker q) =
      ps.find? fun q => !Tracker.isAssigned c.tracker q := by
    congr 1
    funext q
    exact congrArg not (h.tracker.assigned q).symm
  rw [hfind]
  split
  · exact .throw _ _
  · exact .pure trivial

theorem abreast_done {act : Action (Client Subscription) Unit} (h : Evenhanded p act) :
    Evenhanded p (do act; return Reply.done) := .bind h fun _ _ _ => .pure trivial

theorem abreast_subscribePattern (pattern : Pattern) (listener : Listener) :
    Evenhanded p (subscribePattern pattern listener) := by
  unfold subscribePattern
  split
  · exact .throw _ _
  · refine .bind (abreast_call (.subscribePattern pattern listener) (by simp)) ?_
    intro _ _ _
    refine .bind .get fun c c' h => ?_
    rw [h.catalog]
    exact .bind (.log _ _) fun _ _ _ => abreast_call (.setMatched _) (by simp)

theorem abreast_rebalance (ps : List Partition) : Evenhanded p (rebalance ps) := by
  refine .bind (abreast_call (.assignFromGroup ps) (by simp)) fun _ _ _ => ?_
  refine .bind .get fun _ _ _ => .bind (.modify ?_) fun _ _ _ => .log _ _
  intro c c' h
  have hempty : Alike p { c with buffer := ∅ } { c' with buffer := ∅ } := { h with records := rfl }
  exact hempty.syncPaused

theorem abreast_addRecord (r : Record) : Evenhanded p (addRecord r) := by
  refine .bind .get fun c c' h => .checked ?_ (.checked .rfl (.modify fun c c' h => h.buffered r))
  rw [show Tracker.isAssigned c.tracker r.partition = Tracker.isAssigned c'.tracker r.partition
    from h.tracker.assigned r.partition]

theorem abreast_pause (ps : List Partition) : Evenhanded p (pause ps) := by
  refine .bind (abreast_ensureAssigned ps) fun _ _ _ => .each fun q _ => ?_
  refine .bind (abreast_call (.pause q) (by simp)) fun _ _ _ => .modify fun c c' h => ?_
  refine { h with paused := ?_ }
  show (c.paused.insert q).contains p = (c'.paused.insert q).contains p
  rw [Std.ExtTreeSet.contains_insert, Std.ExtTreeSet.contains_insert, h.paused]

theorem abreast_resume (ps : List Partition) : Evenhanded p (resume ps) := by
  refine .bind (abreast_ensureAssigned ps) fun _ _ _ => .each fun q _ => ?_
  refine .bind (abreast_call (.resume q) (by simp)) fun _ _ _ => .modify fun c c' h => ?_
  refine { h with paused := ?_ }
  show (c.paused.erase q).contains p = (c'.paused.erase q).contains p
  rw [Std.ExtTreeSet.contains_erase, Std.ExtTreeSet.contains_erase, h.paused]

theorem abreast_requestReset (policy : ResetPolicy) (ps : List Partition) :
    Evenhanded p (requestReset policy ps) :=
  .bind (abreast_ensureAssigned ps) fun _ _ _ => .each fun q _ =>
    abreast_call (.needReset q policy) (by simp)

theorem abreast_commit {β : Type} (visiting : Visiting Commit) (offsets : CommitMap)
    {callback : Callback Subscription β} (hcallback : Evenhanded p (callback offsets none)) :
    Evenhanded p (commit visiting offsets callback) :=
  .bind (abreast_ensureAssigned _) fun _ _ _ =>
    .bind (.each fun e _ => abreast_call (.setCommitted e.1 e.2) (by simp)) fun _ _ _ =>
      .bind (.log _ _) fun _ _ _ => hcallback

/-! ## The position of the partition -/

theorem Alike.scriptedStart_eq (h : c.Alike p c') (policy : ResetPolicy) :
    c.scriptedStart p policy = c'.scriptedStart p policy := by
  unfold scriptedStart
  rw [h.beginning, h.ending]

theorem Alike.originByPolicy_eq (h : c.Alike p c') (policy : Option ResetPolicy) :
    c.originByPolicy p policy = c'.originByPolicy p policy := by
  unfold originByPolicy
  rw [h.beginning, h.ending]

theorem Alike.progress_eq (h : c.Alike p c') : c.tracker.progress p = c'.tracker.progress p := by
  unfold Subscription.progress
  rw [h.tracker.progress]

theorem Alike.origin_eq (h : c.Alike p c') : c.origin p = c'.origin p := by
  have hneeded : Tracker.isResetNeeded c.tracker p = Tracker.isResetNeeded c'.tracker p :=
    congrArg (Except.map _) h.progress_eq
  have hpolicy : Tracker.resetPolicy c.tracker p = Tracker.resetPolicy c'.tracker p :=
    congrArg (Except.map _) h.progress_eq
  have hcommitted : Tracker.committed c.tracker p = Tracker.committed c'.tracker p :=
    congrArg (Except.map _) h.progress_eq
  have hdefault : Tracker.defaultPolicy c.tracker = Tracker.defaultPolicy c'.tracker :=
    h.tracker.defaultPolicy_eq
  unfold origin
  simp only [hneeded, hpolicy, hcommitted, hdefault, h.originByPolicy_eq]

theorem abreast_locate :
    Action.Abreast (Alike p) (· = ·) (locate p : Action (Client Subscription) Int64)
      (locate p) := by
  refine .bind (.ask fun _ _ h => h.origin_eq) ?_
  rintro origin _ rfl
  exact .bind (.log _ _) fun _ _ _ => .pure rfl

theorem abreast_position :
    Action.Abreast (Alike p) (· = ·) (position p : Action (Client Subscription) Int64)
      (position p) := by
  refine .bind .get fun c c' h => .checked ?_ (.bind (.ask ?_) ?_)
  · rw [show Tracker.isAssigned c.tracker p = Tracker.isAssigned c'.tracker p
      from h.tracker.assigned p]
  · intro c c' h
    exact congrArg (Except.map _) h.progress_eq
  · rintro o _ rfl
    cases o with
    | some offset => exact .pure rfl
    | none =>
        refine .bind abreast_locate ?_
        rintro offset _ rfl
        exact .bind (abreast_call (.seek p offset) (by simp)) fun _ _ _ => .pure rfl

/-! ## Any request -/

/-- **A request on two clients.** Made of two clients that are alike at a partition, it leaves them
    alike at it. -/
theorem alike_handle (r : Request) (h : c.Alike p c') :
    ((handle r).run c).state.Alike p ((handle r).run c').state := by
  have edited {g : Client Subscription → Client Subscription}
      (hg : ∀ c c', c.Alike p c' → (g c).Alike p (g c')) : Evenhanded p (modify g) := .modify hg
  cases r with
  | assignment | subscription | paused | committed | metrics | placements | listTopics
  | offsetsForTimes | beginnings | ends =>
      have hsame (c : Client Subscription) (r : Request)
          (hcalls : ∀ call, ¬ r.Makes call)
          (hedits : ∀ g : Client Subscription → Client Subscription, ¬ r.Edits g) :
          ((handle r).run c).state = c :=
        maintains_handle (J := (· = c)) r (fun call h => absurd h (hcalls call))
          (fun g h => absurd h (hedits g)) c rfl
      rw [hsame, hsame]
      · exact h
      all_goals
        intro _ hmade
        cases hmade
  | subscribe topics listener =>
      exact (abreast_done (abreast_call (.subscribe topics listener) (by simp)) c c' h).1
  | subscribePattern pattern listener =>
      exact (abreast_done (abreast_subscribePattern pattern listener) c c' h).1
  | assign ps =>
      exact (Action.Abreast.bind (abreast_call (.assignManually ps) (by simp))
        (fun _ _ _ => abreast_done (edited fun _ _ h => h.syncPaused)) c c' h).1
  | unsubscribe =>
      refine (abreast_done (edited ?_) c c' h).1
      intro c c' h
      have htracker : (Tracker.unsubscribe c.tracker).Alike p (Tracker.unsubscribe c'.tracker) :=
        (Subscription.abreast_perform .unsubscribe (by simp) _ _ h.tracker).1
      exact Alike.syncPaused { h with tracker := htracker }
  | rebalance ps => exact (abreast_done (abreast_rebalance ps) c c' h).1
  | addRecord r => exact (abreast_done (abreast_addRecord r) c c' h).1
  | pause ps => exact (abreast_done (abreast_pause ps) c c' h).1
  | resume ps => exact (abreast_done (abreast_resume ps) c c' h).1
  | seek q offset => exact (abreast_done (abreast_call (.seek q offset) (by simp)) c c' h).1
  | seekToBeginning ps | seekToEnd ps => exact (abreast_done (abreast_requestReset _ ps) c c' h).1
  | position q =>
      by_cases hq : q = p
      · subst hq
        exact (Action.Abreast.bind abreast_position
          (fun _ _ _ => .pure (R := fun _ _ => True) trivial) c c' h).1
      · have hspares : Request.Spares p (.position q) := hq
        exact (alike_handle_of_spares hspares c).symm.trans
          (h.trans (alike_handle_of_spares hspares c'))
  | commitAsync offsets | commitSyncOffsets offsets =>
      exact (abreast_commit .sorted offsets (.pure trivial) c c' h).1
  | commitAsyncConsumed | commitSync =>
      have hrecorded : (c.recorded (Tracker.consumed c.tracker)).Alike p
          (c'.recorded (Tracker.consumed c'.tracker)) := by
        rw [recorded_consumed, recorded_consumed]
        exact h.adjusted fun _ => rfl
      show ((commitConsumed .sorted _).run c).state.Alike p
        ((commitConsumed .sorted _).run c').state
      rw [run_commitConsumed, run_commitConsumed]
      exact hrecorded
  | updatePlacements topic placements =>
      refine (abreast_done (edited ?_) c c' h).1
      intro c c' h
      refine { h with catalog := ?_ }
      show c.catalog.update topic placements = c'.catalog.update topic placements
      rw [h.catalog]
  | scriptBeginnings offsets =>
      refine (abreast_done (edited ?_) c c' h).1
      intro c c' h
      exact { h with beginning := getElem?_insertMany_congr h.beginning offsets.toList }
  | scriptEnds offsets =>
      refine (abreast_done (edited ?_) c c' h).1
      intro c c' h
      exact { h with ending := getElem?_insertMany_congr h.ending offsets.toList }

/-! ## A fetch -/

theorem Alike.resolve_eq (h : c.Alike p c') (g : Progress) : c.resolve p g = c'.resolve p g := by
  unfold resolve
  simp only [h.scriptedStart_eq, h.tracker.defaultPolicy_eq]

theorem Alike.polled_eq (h : c.Alike p c') (g : Progress) : c.polled p g = c'.polled p g := by
  have hsettled : c.settled p g = c'.settled p g := by
    unfold settled
    rw [h.resolve_eq]
  have hto : c.advancedTo p = c'.advancedTo p := by
    unfold advancedTo
    rw [h.paused, Std.ExtTreeMap.getD_eq_getD_getElem?, Std.ExtTreeMap.getD_eq_getD_getElem?,
      h.records]
  unfold polled advanced
  rw [hsettled, hto]

theorem Alike.deliverable_eq (h : c.Alike p c') : c.deliverable[p]? = c'.deliverable[p]? := by
  rw [getElem?_deliverable, getElem?_deliverable, h.tracker.assigned, h.records]

/-- **A fetch on two clients.** If it ends well on both or fails on both, it leaves them alike, and
    what it delivers of the partition is the same. -/
theorem alike_fetch (visiting visiting' : Visiting (List Record)) (h : c.Alike p c')
    (hends : ((fetch visiting).run c).result.isOk = ((fetch visiting').run c').result.isOk) :
    ((fetch visiting).run c).state.Alike p ((fetch visiting').run c').state ∧
      ∀ b b', ((fetch visiting).run c).result = .ok b →
        ((fetch visiting').run c').result = .ok b' → b.groups[p]? = b'.groups[p]? := by
  rcases fetch_cases visiting c with ⟨q, e, -, -, hres, hstate⟩ | ⟨-, hres, hstate⟩ <;>
    rcases fetch_cases visiting' c' with ⟨q', e', -, -, hres', hstate'⟩ | ⟨-, hres', hstate'⟩ <;>
    rw [hres, hres'] at hends
  · rw [hstate, hstate', hres]
    exact ⟨h, nofun⟩
  · cases hends
  · cases hends
  · rw [hstate, hstate', hres, hres']
    refine ⟨{ h.adjusted (h.polled_eq ·) with records := rfl }, ?_⟩
    rintro b b' ⟨⟩ ⟨⟩
    exact h.deliverable_eq

end Client

end ScriptedConsumer
