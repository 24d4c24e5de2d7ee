import ScriptedConsumer.Client.Request
import ScriptedConsumer.Proofs.Progress

set_option autoImplicit false

/-! # Recording commits

A commit checks first that all of its partitions are assigned, and records one commit after the
other then. Over a subscription this is all or nothing, in whatever order the partitions are
visited. If one of them is not assigned, the commit fails and changes nothing:
`Client.run_commit_of_unassigned`. Otherwise nothing can fail any more, and all are recorded:
`Client.run_commit`; only then the callback runs. To commit what was consumed is a commit of
assigned partitions only, so it never fails before that: `Client.run_commitConsumed`. -/

namespace ScriptedConsumer

namespace Client

variable {c : Client Subscription} {p : Partition}

/-! ## The check -/

theorem run_ensureAssigned {τ : Type} [Tracker τ] {c : Client τ} {ps : List Partition}
    (h : ∀ q ∈ ps, Tracker.isAssigned c.tracker q = true) :
    (ensureAssigned ps).run c = ⟨.ok (), c, []⟩ := by
  have hnone : ps.find? (fun q => !Tracker.isAssigned c.tracker q) = none :=
    List.find?_eq_none.2 fun q hq => by simp [h q hq]
  unfold ensureAssigned
  rw [Action.run_get_bind, hnone]
  rfl

/-- The check fails at a partition that is not assigned, if there is one. -/
theorem run_ensureAssigned_of_unassigned {τ : Type} [Tracker τ] {c : Client τ}
    {ps : List Partition} (h : ∃ q ∈ ps, Tracker.isAssigned c.tracker q = false) :
    ∃ q ∈ ps, Tracker.isAssigned c.tracker q = false ∧
      (ensureAssigned ps).run c = ⟨.error (.unassigned q), c, []⟩ := by
  obtain ⟨q, hq, hunassigned⟩ := h
  cases hfind : ps.find? (fun q => !Tracker.isAssigned c.tracker q) with
  | none =>
      have hassigned := List.find?_eq_none.1 hfind q hq
      simp [hunassigned] at hassigned
  | some q' =>
      refine ⟨q', List.mem_of_find?_eq_some hfind, by simpa using List.find?_some hfind, ?_⟩
      unfold ensureAssigned
      rw [Action.run_get_bind, hfind]
      rfl

/-! ## A commit of given offsets -/

/-- The progress on a partition once the given commits are recorded. -/
def recording (offsets : CommitMap) (p : Partition) (g : Progress) : Progress :=
  offsets[p]?.elim g fun commit => { g with committed := some commit }

/-- The client with the given commits recorded, on the partitions that are assigned. -/
def recorded (offsets : CommitMap) (c : Client Subscription) : Client Subscription :=
  c.adjusted (recording offsets)

theorem recording_of_some {offsets : CommitMap} {commit : Commit} (h : offsets[p]? = some commit)
    (g : Progress) : recording offsets p g = { g with committed := some commit } := by
  unfold recording
  rw [h]
  rfl

theorem recording_of_none {offsets : CommitMap} (h : offsets[p]? = none) (g : Progress) :
    recording offsets p g = g := by
  unfold recording
  rw [h]
  rfl

theorem silent_records (entries : List (Partition × Commit)) (c : Client Subscription) :
    ((Action.each (fun e : Partition × Commit => onTracker (Tracker.setCommitted e.1 e.2))
      entries).run c).events = [] := by
  have hsilent (e : Partition × Commit) (c : Client Subscription) :
      ((onTracker (Tracker.setCommitted e.1 e.2)).run c).events = [] := by
    show ((Subscription.change e.1 _).run c.tracker).events = []
    rw [Subscription.run_change]
    split <;> rfl
  refine List.eq_nil_iff_forall_not_mem.2 ?_
  exact (Action.Emits.hereditary (fun _ => False)).each (fun e _ => .of_silent (hsilent e)) c

/-- A commit of assigned partitions cannot fail. It records all of the given commits, and calls
    back once they are recorded. -/
theorem run_commit {β : Type} (visiting : Visiting Commit) {offsets : CommitMap}
    (callback : Callback Subscription β)
    (hassigned : ∀ p ∈ offsets, Tracker.isAssigned c.tracker p = true) :
    (commit visiting offsets callback).run c =
      ((callback offsets none).run (c.recorded offsets)).after
        [.logged (.committed offsets.size)] := by
  let entries := visiting.entries offsets
  let record (e : Partition × Commit) : Action (Client Subscription) Unit :=
    onTracker (Tracker.setCommitted e.1 e.2)
  have hkeys : ∀ e ∈ entries, Tracker.isAssigned c.tracker e.1 = true := by
    intro e he
    exact hassigned e.1 (visiting.mem_of_mem_entries he)
  have hensured : (ensureAssigned (entries.map (·.1))).run c = ⟨.ok (), c, []⟩ := by
    refine run_ensureAssigned ?_
    intro q hq
    obtain ⟨e, he, rfl⟩ := List.mem_map.1 hq
    exact hkeys e he
  -- one commit, after others may have been recorded
  have hrecord : ∀ e ∈ entries, ∀ G : Partition → Progress → Progress, (∀ g, G e.1 g = g) →
      ((record e).run (c.adjusted G)).result = .ok () ∧
        ((record e).run (c.adjusted G)).state =
          c.adjusted fun q g => if q = e.1 then recording offsets q g else G q g := by
    intro e he G hG
    obtain ⟨g, hg⟩ := Option.isSome_iff_exists.1
      (Std.ExtTreeMap.contains_eq_isSome_getElem?.symm.trans (hkeys e he))
    obtain ⟨hres, hstate⟩ :=
      run_change_adjusted hg (fun g => { g with committed := some e.2 }) (hG g)
    refine ⟨hres, hstate.trans (adjusted_at_congr (F := recording offsets) ?_)⟩
    intro g' _
    exact (recording_of_some (visiting.mem_entries.1 he) g').symm
  have hrest : ∀ q g, c.tracker.assignment[q]? = some g → q ∉ entries.map Prod.fst →
      recording offsets q g = g := by
    intro q g _ hq
    -- nothing is committed for the other partitions
    cases hentry : offsets[q]? with
    | none => exact recording_of_none hentry g
    | some commit => exact absurd (List.mem_map_of_mem (visiting.mem_entries.2 hentry)) hq
  obtain ⟨hres, hstate⟩ := run_each_adjusted record Prod.fst (recording offsets)
    (visiting.nodup_keys offsets) hrecord hrest
  have hloop : (Action.each record entries).run c = ⟨.ok (), c.recorded offsets, []⟩ := by
    rw [show c.recorded offsets = _ from hstate.symm, ← hres, ← silent_records entries c]
  unfold commit
  rw [Action.run_bind_ok hensured, Action.run_bind_ok hloop]
  exact congrArg (Outcome.after · []) (congrArg (Outcome.after · [])
    (Action.run_bind_ok (Action.run_log _ _) fun _ => callback offsets none))

/-- A commit that is not of assigned partitions only fails at one that is not, and changes
    nothing. -/
theorem run_commit_of_unassigned {τ β : Type} [Tracker τ] {c : Client τ}
    (visiting : Visiting Commit) {offsets : CommitMap} (callback : Callback τ β)
    (h : ∃ p ∈ offsets, Tracker.isAssigned c.tracker p = false) :
    ∃ p ∈ offsets, Tracker.isAssigned c.tracker p = false ∧
      (commit visiting offsets callback).run c = ⟨.error (.unassigned p), c, []⟩ := by
  obtain ⟨p, hp, hunassigned⟩ := h
  obtain ⟨q, hq, hfirst, hrun⟩ :=
    run_ensureAssigned_of_unassigned ⟨p, visiting.mem_keys.2 hp, hunassigned⟩
  exact ⟨q, visiting.mem_keys.1 hq, hfirst, Action.run_bind_error hrun _⟩

theorem assigned_of_commit {β : Type} {visiting : Visiting Commit} {offsets : CommitMap}
    {callback : Callback Subscription β} {b : β}
    (hok : ((commit visiting offsets callback).run c).result = .ok b) :
    ∀ p ∈ offsets, Tracker.isAssigned c.tracker p = true := by
  intro p hp
  cases hassigned : Tracker.isAssigned c.tracker p with
  | true => rfl
  | false =>
      obtain ⟨q, -, -, hrun⟩ := run_commit_of_unassigned visiting callback ⟨p, hp, hassigned⟩
      rw [hrun] at hok
      cases hok

/-! ## A commit of what was consumed -/

/-- The progress on a partition once its position was committed, if it has one. -/
def consumedUp (g : Progress) : Progress :=
  match g.position with
  | some offset => { g with committed := some (Commit.ofOffset offset) }
  | none => g

theorem consumedUp_of_position {g : Progress} {offset : Int64} (h : g.position = some offset) :
    consumedUp g = { g with committed := some (Commit.ofOffset offset) } := by
  unfold consumedUp
  rw [h]

theorem consumedUp_of_none {g : Progress} (h : g.position = none) : consumedUp g = g := by
  unfold consumedUp
  rw [h]

theorem getElem?_consumed_of_none {g : Progress} (hg : c.tracker.assignment[p]? = some g)
    (hnone : g.position = none) : (Tracker.consumed c.tracker)[p]? = none := by
  refine (Subscription.getElem?_consumed_eq .sorted).trans ?_
  rw [hg, Option.bind_some, hnone]
  rfl

theorem isAssigned_of_mem_consumed (hp : p ∈ Tracker.consumed c.tracker) :
    Tracker.isAssigned c.tracker p = true := by
  obtain ⟨g, hg, -⟩ := (Subscription.mem_consumed .sorted).1 hp
  show c.tracker.assignment.contains p = true
  rw [Std.ExtTreeMap.contains_eq_isSome_getElem?, hg, Option.isSome_some]

theorem run_commitConsumed {β : Type} (visiting : Visiting Commit)
    (callback : Callback Subscription β) (c : Client Subscription) :
    (commitConsumed visiting callback).run c =
      ((callback (Tracker.consumed c.tracker) none).run
        (c.recorded (Tracker.consumed c.tracker))).after
        [.logged (.committed (Tracker.consumed c.tracker).size)] :=
  run_commit visiting callback fun _ hp => isAssigned_of_mem_consumed hp

/-- What is recorded then is the position of every assigned partition that has one. -/
theorem recorded_consumed (c : Client Subscription) :
    c.recorded (Tracker.consumed c.tracker) = c.adjusted fun _ g => consumedUp g := by
  refine adjusted_congr ?_
  intro q g hg
  obtain hpos | ⟨offset, hpos⟩ := Option.eq_none_or_eq_some g.position
  · rw [recording_of_none (getElem?_consumed_of_none hg hpos), consumedUp_of_none hpos]
  · rw [consumedUp_of_position hpos]
    exact recording_of_some (Subscription.getElem?_consumed .sorted hg hpos) g

end Client

end ScriptedConsumer
