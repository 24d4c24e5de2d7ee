import ScriptedConsumer.Proofs.Abreast
import ScriptedConsumer.Proofs.Atomicity
import ScriptedConsumer.Proofs.Choosing
import ScriptedConsumer.Proofs.Locating

set_option autoImplicit false

/-! # Requests, partition by partition

What a request that succeeds makes of the progress on one partition, over a subscription. Few
requests change which partitions are assigned; every other one leaves them assigned and edits the
progress on each of them in a way that `Request.edited` writes down. A request may name a partition
more than once, and its loop then edits the progress more than once; that comes to one edit, since
every edit done twice is the edit done once. `Client.progress_handle` says it for all requests, so
that nothing about a request and one partition has to be shown by running it. -/

namespace ScriptedConsumer

/-- How a request that succeeds edits the progress on an assigned partition, made on the given
    client. -/
def Request.edited (r : Request) (c : Client Subscription) (p : Partition) (g : Progress) :
    Progress :=
  match r with
  | .pause ps => if p ∈ ps then { g with paused := true } else g
  | .resume ps => if p ∈ ps then { g with paused := false } else g
  | .seek q offset => if p = q then g.seek offset else g
  | .seekToBeginning ps => if p ∈ ps then g.awaitReset .earliest else g
  | .seekToEnd ps => if p ∈ ps then g.awaitReset .latest else g
  | .position q => if p = q then c.settled p g else g
  | .commitAsync offsets | .commitSyncOffsets offsets =>
      offsets[p]?.elim g fun commit => { g with committed := some commit }
  | .commitAsyncConsumed | .commitSync => Client.consumedUp g
  | _ => g

/-- What a request that succeeds makes of the progress on a partition. There is none where the
    partition is not assigned. -/
def Request.onProgress (r : Request) (c : Client Subscription) (p : Partition) : Option Progress :=
  match r with
  | .assign ps => if p ∈ ps then some (c.tracker.assignment[p]?.getD .fresh) else none
  | .rebalance ps => if p ∈ ps then some .fresh else none
  | .unsubscribe => none
  | r => c.tracker.assignment[p]?.map (r.edited c p)

theorem Subscription.state_change_of_ok {s : Subscription} {p : Partition}
    {f : Progress → Progress} {u : Unit} (hok : ((change p f).run s).result = .ok u) :
    ((change p f).run s).state = s.adjust fun q g => if q = p then f g else g := by
  rw [run_change] at hok ⊢
  cases hg : s.assignment[p]? with
  | none =>
      rw [hg] at hok
      cases hok
  | some g =>
      have hinsert := insert_adjust (G := fun _ g => g) hg f
      rw [adjust_id] at hinsert
      exact hinsert

namespace Client

variable {c : Client Subscription}

/-! ## Loops -/

/-- A loop over the partitions of a list that are all assigned, with one edit for all of them. A
    partition may come more than once, as long as the edit is the same when it is repeated. -/
theorem run_each_edit {act : Partition → Action (Client Subscription) Unit}
    {f : Progress → Progress} (hact : ∀ p, Follows (act p) (Subscription.change p f))
    (hidem : ∀ g, f (f g) = f g) {ps : List Partition}
    (hassigned : ∀ p ∈ ps, Tracker.isAssigned c.tracker p = true) :
    ((Action.each act ps).run c).result = .ok () ∧
      ((Action.each act ps).run c).state.tracker =
        c.tracker.adjust fun q g => if q ∈ ps then f g else g := by
  -- the invariant: the progress is edited on the partitions done
  refine Action.run_each_of (fun pre (s : Client Subscription) => s.tracker =
    c.tracker.adjust fun q g => if q ∈ pre then f g else g) ps ?_ ?_
  · intro pre p post s hps hs
    obtain ⟨hres, htracker, -⟩ := hact p s
    have hp := hassigned p (by simp [hps])
    rw [Subscription.isAssigned_eq] at hp
    obtain ⟨g, hg⟩ := Option.isSome_iff_exists.1 hp
    have hlookup : s.tracker.assignment[p]? = some (if p ∈ pre then f g else g) := by
      rw [hs, Subscription.getElem?_adjust, hg, Option.map_some]
    have hedit : f (if p ∈ pre then f g else g) = f g := by
      split
      · exact hidem g
      · rfl
    rw [hres, htracker, Subscription.run_change, hlookup]
    refine ⟨rfl, ?_⟩
    show ({ s.tracker with assignment := s.tracker.assignment.insert p (f _) } : Subscription) = _
    rw [hedit, hs, Subscription.insert_adjust hg f]
    refine Subscription.adjust_congr ?_
    intro q g' _
    by_cases hq : q = p
    · simp [hq]
    · simp [hq]
  · simp only [List.not_mem_nil, if_false]
    exact (Subscription.adjust_id _).symm

/-- A request that first checks its partitions and then edits the progress on them. -/
theorem run_checked_edit {act : Partition → Action (Client Subscription) Unit}
    {f : Progress → Progress} (hact : ∀ p, Follows (act p) (Subscription.change p f))
    (hidem : ∀ g, f (f g) = f g) {ps : List Partition} {u : Unit}
    (hok : ((do ensureAssigned ps; Action.each act ps : Action (Client Subscription) Unit).run
      c).result = .ok u) :
    ((do ensureAssigned ps; Action.each act ps : Action (Client Subscription) Unit).run
      c).state.tracker = c.tracker.adjust fun q g => if q ∈ ps then f g else g := by
  have hsame : ((ensureAssigned ps).run c).state = c := keeps_ensureAssigned id ps c
  cases hensured : ((ensureAssigned ps).run c).result with
  | error e =>
      rw [(Action.bind_of_error hensured _).1] at hok
      cases hok
  | ok v =>
      rw [(Action.bind_of_ok hensured _).2, hsame]
      exact (run_each_edit hact hidem (isAssigned_of_ensureAssigned hensured)).2

/-- A request that first checks its partitions and then edits the progress on them fails only by
    the check. -/
theorem result_checked_edit {act : Partition → Action (Client Subscription) Unit}
    {f : Progress → Progress} (hact : ∀ p, Follows (act p) (Subscription.change p f))
    (hidem : ∀ g, f (f g) = f g) (ps : List Partition) (c : Client Subscription) :
    ((do ensureAssigned ps; Action.each act ps : Action (Client Subscription) Unit).run c).result =
      ((ensureAssigned ps).run c).result := by
  have hsame : ((ensureAssigned ps).run c).state = c := keeps_ensureAssigned id ps c
  cases hensured : ((ensureAssigned ps).run c).result with
  | error e => exact (Action.bind_of_error hensured _).1
  | ok u =>
      rw [(Action.bind_of_ok hensured _).1, hsame]
      exact (run_each_edit hact hidem (isAssigned_of_ensureAssigned hensured)).1

/-! ## Any request -/

/-- A request whose answer carries nothing ends and changes the client as it would without it. -/
theorem run_done {act : Action (Client Subscription) Unit} {a : Reply}
    (hok : ((do act; return Reply.done : Action (Client Subscription) Reply).run c).result
      = .ok a) :
    (act.run c).result = .ok () ∧
      ((do act; return Reply.done : Action (Client Subscription) Reply).run c).state =
        (act.run c).state := by
  obtain ⟨hres, hstate⟩ := Action.bind_pure act (fun _ => Reply.done) c
  refine ⟨?_, hstate⟩
  rw [hres] at hok
  cases hr : (act.run c).result with
  | error e =>
      rw [hr] at hok
      cases hok
  | ok u => rfl

theorem tracker_of_call (act : Action Subscription Unit) {β : Type}
    {k : Unit → Action (Client Subscription) β} (hk : ∀ u, Action.Keeps tracker (k u)) {b : β}
    (hok : ((onTracker act >>= k).run c).result = .ok b) :
    (act.run c.tracker).result = .ok () ∧
      ((onTracker act >>= k).run c).state.tracker = (act.run c.tracker).state := by
  cases hr : (act.run c.tracker).result with
  | error e =>
      have hfail : ((onTracker act).run c).result = .error e := hr
      rw [(Action.bind_of_error hfail k).1] at hok
      cases hok
  | ok u =>
      have hcall : ((onTracker act).run c).result = .ok u := hr
      rw [(Action.bind_of_ok hcall k).2, hk u]
      exact ⟨rfl, rfl⟩

/-- The calls of the tracker that leave the assignment alone, whatever they do else. -/
theorem assignment_perform {call : Tracker.Call} {m : PartitionMap Progress}
    (hcall : (∃ topics listener, call = .subscribe topics listener) ∨
      (∃ pattern listener, call = .subscribePattern pattern listener) ∨
      ∃ topics, call = .setMatched topics) :
    Action.Maintains (fun s : Subscription => s.assignment = m) call.perform := by
  refine Subscription.maintains_perform ?_
  intro s s' hs hgrant
  rcases hcall with ⟨topics, listener, rfl⟩ | ⟨pattern, listener, rfl⟩ | ⟨topics, rfl⟩
  all_goals
    cases hgrant with
    | edit hcall => cases hcall
    | _ => exact hs

theorem state_position_of_ok {q : Partition} {a : Reply}
    (hok : ((handle (.position q)).run c).result = .ok a) :
    ((handle (.position q)).run c).state = c.located q := by
  obtain ⟨hres, hstate⟩ := Action.bind_pure (position q) Reply.offset c
  rw [handle, hres] at hok
  cases hg : c.tracker.assignment[q]? with
  | none =>
      rw [run_position_of_unassigned hg] at hok
      cases hok
  | some g => exact hstate.trans (run_position hg).2

/-- The partitions that are assigned by the user's choice: those that stay keep their progress. -/
theorem progress_assign {ps : PartitionSet} {a : Reply} (hc : c.tracker.Coherent)
    (hok : ((handle (.assign ps)).run c).result = .ok a) (p : Partition) :
    ((handle (.assign ps)).run c).state.tracker.assignment[p]? =
      if p ∈ ps then some (c.tracker.assignment[p]?.getD .fresh) else none := by
  obtain ⟨hres, hstate⟩ := tracker_of_call (Subscription.assignManually ps)
    (k := fun _ => do modify syncPaused; return Reply.done)
    (fun _ => .bind (.modify fun _ => rfl) fun _ => .pure _) hok
  have htracker : ((handle (.assign ps)).run c).state.tracker =
      ((Subscription.assignManually ps).run c.tracker).state := hstate
  by_cases hadmits : c.tracker.Admits .manual
  · rw [htracker, (hc.run_choice hadmits ps).2, Subscription.getElem?_choosing]
  · rw [Subscription.run_assignManually, if_neg hadmits] at hres
    cases hres

theorem progress_rebalance {ps : List Partition} {a : Reply}
    (hok : ((handle (.rebalance ps)).run c).result = .ok a) (p : Partition) :
    ((handle (.rebalance ps)).run c).state.tracker.assignment[p]? =
      if p ∈ ps then some .fresh else none := by
  obtain ⟨hdone, hsame⟩ := run_done hok
  obtain ⟨hres, hstate⟩ := tracker_of_call (Subscription.assignFromGroup ps)
    (k := fun _ => do
      let dropped := recordCount (← get).buffer
      modify fun c => syncPaused { c with buffer := ∅ }
      Action.log (.rebalanced ps.length dropped))
    (fun _ => .bind .get fun _ => .bind (.modify fun _ => rfl) fun _ => .log _) hdone
  have htracker : ((handle (.rebalance ps)).run c).state.tracker =
      ((Subscription.assignFromGroup ps).run c.tracker).state :=
    (congrArg tracker hsame).trans hstate
  rcases Subscription.perform_cases (.assignFromGroup ps) c.tracker with
    ⟨e, hrefused, -⟩ | ⟨-, hgrant⟩
  · exact nomatch hres.symm.trans hrefused
  · rw [htracker]
    generalize hs : ((Subscription.assignFromGroup ps).run c.tracker).state = s at htracker
    have hgrant' : c.tracker.Granted (.assignFromGroup ps) s := hs ▸ hgrant
    cases hgrant' with
    | assignFromGroup _ h => exact Subscription.getElem?_anew ps p
    | edit hcall => cases hcall

/-- **What a request makes of the progress on a partition**, where it succeeds. -/
theorem progress_handle {r : Request} {a : Reply} (hc : c.tracker.Coherent)
    (hok : ((handle r).run c).result = .ok a) (p : Partition) :
    ((handle r).run c).state.tracker.assignment[p]? = r.onProgress c p := by
  -- a request that edits the progress on all partitions
  have edits {F : Partition → Progress → Progress}
      (h : ((handle r).run c).state.tracker = c.tracker.adjust F) :
      ((handle r).run c).state.tracker.assignment[p]? = c.tracker.assignment[p]?.map (F p) := by
    rw [h, Subscription.getElem?_adjust]
  -- a request that leaves the assignment alone
  have leaves (hcalls : ∀ call, r.Makes call →
        (∃ topics listener, call = .subscribe topics listener) ∨
        (∃ pattern listener, call = .subscribePattern pattern listener) ∨
        ∃ topics, call = .setMatched topics) :
      ((handle r).run c).state.tracker.assignment[p]? =
        c.tracker.assignment[p]?.map fun g => g := by
    have hsame : ((handle r).run c).state.tracker.assignment = c.tracker.assignment :=
      maintains_handle_tracker (I := fun s : Subscription => s.assignment = c.tracker.assignment) r
        (fun call hmakes => assignment_perform (hcalls call hmakes)) c rfl
    rw [hsame, Option.map_id']
  cases r with
  | assign ps => exact progress_assign hc hok p
  | rebalance ps => exact progress_rebalance hok p
  | unsubscribe =>
      have hempty : ((handle .unsubscribe).run c).state.tracker = c.tracker.unsubscribe := rfl
      rw [hempty]
      exact Std.ExtTreeMap.getElem?_empty
  | pause ps =>
      obtain ⟨hdone, hsame⟩ := run_done hok
      refine edits ((congrArg tracker hsame).trans (run_checked_edit
        (f := fun g => { g with paused := true }) (fun p => ?_) (fun _ => rfl) hdone))
      exact .andModify (fun _ => by rfl) _
  | resume ps =>
      obtain ⟨hdone, hsame⟩ := run_done hok
      refine edits ((congrArg tracker hsame).trans (run_checked_edit
        (f := fun g => { g with paused := false }) (fun p => ?_) (fun _ => rfl) hdone))
      exact .andModify (fun _ => by rfl) _
  | seekToBeginning ps =>
      obtain ⟨hdone, hsame⟩ := run_done hok
      exact edits ((congrArg tracker hsame).trans (run_checked_edit
        (f := (·.awaitReset .earliest)) (fun _ => .onTracker _) (fun _ => rfl) hdone))
  | seekToEnd ps =>
      obtain ⟨hdone, hsame⟩ := run_done hok
      exact edits ((congrArg tracker hsame).trans (run_checked_edit
        (f := (·.awaitReset .latest)) (fun _ => .onTracker _) (fun _ => rfl) hdone))
  | seek q offset =>
      obtain ⟨hdone, hsame⟩ := run_done hok
      exact edits ((congrArg tracker hsame).trans (Subscription.state_change_of_ok hdone))
  | position q => exact edits (congrArg tracker (state_position_of_ok hok))
  | commitAsync offsets | commitSyncOffsets offsets =>
      refine edits ?_
      show ((commit .sorted offsets _).run c).state.tracker = _
      rw [run_commit .sorted _ (assigned_of_commit hok)]
      rfl
  | commitAsyncConsumed | commitSync =>
      refine edits ?_
      show ((commitConsumed .sorted _).run c).state.tracker = _
      rw [run_commitConsumed .sorted]
      exact congrArg tracker (recorded_consumed c)
  | subscribe topics listener =>
      refine leaves ?_
      rintro call ⟨⟩
      exact .inl ⟨_, _, rfl⟩
  | subscribePattern pattern listener =>
      refine leaves ?_
      rintro call (_ | _)
      · exact .inr (.inl ⟨_, _, rfl⟩)
      · exact .inr (.inr ⟨_, rfl⟩)
  | _ => exact leaves fun _ hmakes => by cases hmakes

end Client

end ScriptedConsumer
