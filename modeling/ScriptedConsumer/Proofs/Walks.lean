import ScriptedConsumer.Proofs.Commits
import ScriptedConsumer.Proofs.Interchange

set_option autoImplicit false

/-! # Polls and commits along any order of visit

A poll walks through what is buffered three times: it drops the records of partitions that are not
assigned, moves the positions behind the others, and counts what it delivers. A commit walks twice
through what it is given: it checks the partitions and records the commits. `Client.fetchAlong` and
`Client.handleAlong` make these walks along a given order.

A fetch comes to the same along any order, over a tracker that does not tell in which order it was
called: `Client.run_fetchAlong_congr`. For once every partition has a position and only assigned
ones are buffered, each of the moves is of a partition that is ready for it. So it is with requests,
`Client.handleAlong_cases`, up to one thing: of several partitions that are not assigned, a commit
is refused for the one that the check meets first. -/

namespace ScriptedConsumer

/-! ## Orders of the maps -/

/-- The orders in which a consumer walks through its maps. -/
structure Orders where
  /-- That of the tracker's assignment. -/
  assignment : Visiting Progress
  /-- That of the records in the buffer. -/
  buffer : Visiting (List Record)
  /-- That of the commits to record. -/
  commits : Visiting Commit

/-- Every map in the order of partitions. -/
def Orders.sorted : Orders := ⟨.sorted, .sorted, .sorted⟩

/-- A tracker that can be made to walk through its assignment in any order, and that answers alike
    in all of them. -/
class Walks (τ : Type) [Tracker τ] where
  along : Visiting Progress → Tracker τ
  along_eq : ∀ visiting, along visiting = ‹Tracker τ›

instance : Walks Subscription := ⟨Subscription.tracker, Subscription.tracker_eq⟩

instance {τ : Type} [Tracker τ] [Walks τ] : Walks (Faulty τ) where
  along visiting :=
    let _ := Walks.along (τ := τ) visiting
    inferInstance
  along_eq visiting := by
    dsimp only
    rw [Walks.along_eq]

/-- The commits that a call is given. -/
def Request.offered? : Request → Option CommitMap
  | .commitAsync offsets | .commitSyncOffsets offsets => some offsets
  | _ => none

namespace Client

variable {τ β ι : Type}

/-! ## Taking groups out of a buffer -/

section

variable (kept : Partition → Bool)

/-- What is left of a buffer once the given groups were gone through, and those that are not to be
    kept were taken out. -/
def retained (groups : List (Partition × List Record)) (buffer : RecordMap) : RecordMap :=
  groups.foldl (fun left group => if kept group.1 then left else left.erase group.1) buffer

/-- The number of records that are taken out with their groups. -/
def takenOut (groups : List (Partition × List Record)) : Nat :=
  countRecords (groups.filter fun group => !kept group.1)

variable {kept} {groups : List (Partition × List Record)} {buffer : RecordMap} {p : Partition}

theorem retained_cons (group : Partition × List Record) :
    retained kept (group :: groups) buffer =
      retained kept groups (if kept group.1 then buffer else buffer.erase group.1) := rfl

theorem getElem?_retained_of_kept (hp : kept p = true) :
    (retained kept groups buffer)[p]? = buffer[p]? := by
  induction groups generalizing buffer with
  | nil => rfl
  | cons group rest ih =>
      rw [retained_cons, ih]
      split
      · rfl
      · next hgroup =>
          have hne : group.1 ≠ p := by
            rintro rfl
            exact hgroup hp
          rw [Std.ExtTreeMap.getElem?_erase, if_neg (Partition.compare_ne_eq hne)]

/-- Whatever is not to be kept is taken out when its group is met. -/
theorem getElem?_retained_of_not_kept (hp : kept p = false)
    (hmet : p ∈ buffer → p ∈ groups.map Prod.fst) : (retained kept groups buffer)[p]? = none := by
  induction groups generalizing buffer with
  | nil => exact Std.ExtTreeMap.getElem?_eq_none fun hmem => List.not_mem_nil (hmet hmem)
  | cons group rest ih =>
      rw [retained_cons]
      split
      · next hgroup =>
          refine ih fun hmem => ?_
          rcases List.mem_cons.1 (hmet hmem) with rfl | hrest
          · rw [hp] at hgroup
            cases hgroup
          · exact hrest
      · refine ih fun hmem => ?_
        rw [Std.ExtTreeMap.mem_erase] at hmem
        rcases List.mem_cons.1 (hmet hmem.2) with rfl | hrest
        · exact absurd Std.ReflCmp.compare_self hmem.1
        · exact hrest

end

/-- What is left of a buffer that was gone through, in any order, are the groups to be kept. -/
theorem retained_entries (visiting : Visiting (List Record)) (kept : Partition → Bool)
    (buffer : RecordMap) :
    retained kept (visiting.entries buffer) buffer = buffer.filter fun p _ => kept p := by
  refine Std.ExtTreeMap.ext_getElem? ?_
  intro p
  rw [getElem?_filter_key]
  cases hp : kept p with
  | true => rw [getElem?_retained_of_kept hp, if_pos rfl]
  | false =>
      rw [getElem?_retained_of_not_kept hp visiting.mem_keys.2, if_neg Bool.false_ne_true]

/-- What is taken out of it are all other records. -/
theorem takenOut_entries (visiting : Visiting (List Record)) (kept : Partition → Bool)
    (buffer : RecordMap) :
    takenOut kept (visiting.entries buffer) = recordCount (buffer.filter fun p _ => !kept p) := by
  have hgroups : ((visiting.entries buffer).filter fun group => !kept group.1).Perm
      (buffer.filter fun p _ => !kept p).toList := by
    rw [Std.ExtTreeMap.toList_filter]
    exact (visiting.perm buffer).filter _
  exact (countRecords_perm hgroups).trans (countRecords_entries .sorted _)

/-! ## The walks -/

/-- Takes out everything that is buffered, and counts it group by group. -/
def deliverAlong (visiting : Visiting (List Record)) : Action (Client τ) Batch := do
  let c ← get
  set { c with buffer := ∅ }
  Action.count .deliveredRecords (countRecords (visiting.entries c.buffer))
  pure ⟨c.buffer⟩

theorem deliverAlong_eq (visiting : Visiting (List Record)) :
    deliverAlong (τ := τ) visiting = deliver := by
  unfold deliverAlong deliver Batch.count
  simp only [countRecords_entries]

variable [Tracker τ]

/-- Drops the records of partitions that are not assigned, group by group. -/
def discardAlong (visiting : Visiting (List Record)) : Action (Client τ) Unit := do
  let c ← get
  let groups := visiting.entries c.buffer
  let dropped := takenOut (Tracker.isAssigned c.tracker) groups
  set { c with buffer := retained (Tracker.isAssigned c.tracker) groups c.buffer }
  if 0 < dropped then
    Action.log (.discarded dropped)
    Action.count .discardedRecords dropped

theorem discardAlong_eq (visiting : Visiting (List Record)) :
    discardAlong (τ := τ) visiting = discard := by
  unfold discardAlong discard
  simp only [retained_entries, takenOut_entries]

/-- Fetches a batch. The buffer is walked through in the given order. -/
def fetchAlong (visiting : Visiting (List Record)) : Action (Client τ) Batch := do
  settle
  discardAlong visiting
  Action.each advance (visiting.entries (← get).buffer)
  deliverAlong visiting

/-- Only by the moves of positions a fetch can depend on the order. -/
theorem fetchAlong_eq (visiting : Visiting (List Record)) :
    fetchAlong (τ := τ) visiting = fetch visiting := by
  unfold fetchAlong fetch
  rw [discardAlong_eq, deliverAlong_eq]

/-- What a call does if it walks through the commits in the given order. -/
def handleAlong (visiting : Visiting Commit) : Request → Action (Client τ) Reply
  | .commitAsync offsets => commit visiting offsets .acknowledge
  | .commitAsyncConsumed => commitConsumed visiting .acknowledge
  | .commitSyncOffsets offsets => commit visiting offsets .ignore
  | .commitSync => commitConsumed visiting .ignore
  | r => handle r

theorem handleAlong_sorted (r : Request) : handleAlong (τ := τ) .sorted r = handle r := by
  cases r <;> rfl

/-! ## Fetching -/

omit [Tracker τ] in
/-- A loop that only calls the tracker is a loop of the tracker. -/
theorem run_each_onTracker (op : ι → Action τ Unit) (xs : List ι) (c : Client τ) :
    (Action.each (fun x => onTracker (op x)) xs).run c = (onTracker (Action.each op xs)).run c :=
  Action.run_each_within tracker (fun tracker c => { c with tracker }) (I := fun _ => True)
    (fun _ => rfl) (fun _ _ => rfl) (fun _ _ _ => rfl) (fun _ _ _ => trivial) (fun _ _ _ => rfl) xs
    trivial

/-- Where the position of a partition is moved for its records, unless it stays. -/
def moveFor (paused : PartitionSet) (group : Partition × List Record) :
    Option (Partition × Int64) :=
  if paused.contains group.1 then none
  else group.2.getLast?.map fun last => (group.1, last.offset + 1)

theorem fst_of_moveFor {paused : PartitionSet} {group : Partition × List Record}
    {move : Partition × Int64} (h : moveFor paused group = some move) : move.1 = group.1 := by
  unfold moveFor at h
  split at h
  · cases h
  · obtain ⟨last, -, rfl⟩ := Option.map_eq_some_iff.1 h
    rfl

theorem run_advance (group : Partition × List Record) (c : Client τ) :
    (advance group).run c =
      match moveFor c.paused group with
      | some move => (onTracker (Tracker.setPosition move.1 move.2)).run c
      | none => ⟨.ok (), c, []⟩ := by
  unfold advance moveFor
  rw [Action.run_get_bind]
  cases group.2.getLast? with
  | none => cases c.paused.contains group.1 <;> rfl
  | some last => cases c.paused.contains group.1 <;> rfl

/-- To go through the groups is to make their moves. -/
theorem run_each_advance (groups : List (Partition × List Record)) (c : Client τ) :
    (Action.each advance groups).run c =
      (onTracker (Action.each (fun move : Partition × Int64 => Tracker.setPosition move.1 move.2)
        (groups.filterMap (moveFor c.paused)))).run c := by
  induction groups generalizing c with
  | nil => rfl
  | cons group rest ih =>
      rw [Action.each_cons, Action.run_bind, run_advance]
      cases hmove : moveFor c.paused group with
      | none =>
          rw [List.filterMap_cons_none hmove]
          exact ih c
      | some move =>
          dsimp only
          rw [List.filterMap_cons_some hmove, Action.each_cons]
          unfold onTracker
          rw [Action.run_within, Action.run_within, Action.run_bind]
          cases ((Tracker.setPosition move.1 move.2).run c.tracker).result with
          | error e => rfl
          | ok u =>
              dsimp only
              rw [ih]
              rfl

/-- Seeks one partition after the other. -/
def seekAll (starts : List (Partition × Int64)) : Action τ Unit :=
  Action.each (fun start => Tracker.seek start.1 start.2) starts

theorem seekAll_cons (start : Partition × Int64) (rest : List (Partition × Int64)) :
    seekAll (τ := τ) (start :: rest) =
      (Tracker.seek start.1 start.2 >>= fun _ => seekAll rest) := rfl

section

variable {P : τ → Prop} (hO : Tracker.Orderless τ P)

include hO

/-- Seeks that all succeed take no position away, and they give one to their partitions. -/
theorem missing_of_seeks {starts : List (Partition × Int64)} {t : τ} (ht : P t) {u : Unit}
    (hok : ((seekAll starts).run t).result = .ok u) :
    P ((seekAll starts).run t).state ∧
      ∀ q ∈ Tracker.missing ((seekAll starts).run t).state,
        q ∈ Tracker.missing t ∧ q ∉ starts.map Prod.fst := by
  induction starts generalizing t with
  | nil => exact ⟨ht, fun q hq => ⟨hq, List.not_mem_nil⟩⟩
  | cons start rest ih =>
      cases hr : ((Tracker.seek start.1 start.2).run t).result with
      | error e =>
          rw [seekAll_cons, (Action.bind_of_error hr _).1] at hok
          cases hok
      | ok v =>
          obtain ⟨hres, hstate⟩ := Action.bind_of_ok hr fun _ => seekAll rest
          rw [seekAll_cons, hres] at hok
          rw [seekAll_cons, hstate]
          obtain ⟨hP, hmissing⟩ := ih (hO.keeps_seek _ _ t ht) hok
          refine ⟨hP, fun q hq => ?_⟩
          obtain ⟨hleft, hrest⟩ := hmissing q hq
          obtain ⟨hbefore, hne⟩ := hO.seek _ _ t ht hr q hleft
          refine ⟨hbefore, ?_⟩
          rw [List.map_cons, List.mem_cons, not_or]
          exact ⟨hne, hrest⟩

/-- Once a fetch has settled, no partition lacks a position. -/
theorem missing_of_settled {c : Client τ} (hc : P c.tracker) {u : Unit}
    (hok : (settle.run c).result = .ok u) :
    P (settle.run c).state.tracker ∧ ∀ q, q ∉ Tracker.missing (settle.run c).state.tracker := by
  have hrun := run_settle c
  rcases Action.mapM_except c.found (Tracker.missing c.tracker).toList with
    ⟨starts, hstarts, hmap⟩ | ⟨-, -, -, e, -, -, -, herr⟩
  · rw [hstarts] at hrun
    obtain ⟨hres, hstate⟩ := hrun
    -- the seeks are seeks of the tracker
    have hseeks := run_each_onTracker
      (fun start : Partition × Int64 => Tracker.seek start.1 start.2) starts c
    obtain ⟨hP, hmissing⟩ := missing_of_seeks hO hc
      ((congrArg Outcome.result hseeks).symm.trans (hres.symm.trans hok))
    rw [hstate.trans (congrArg Outcome.state hseeks)]
    refine ⟨hP, fun q hq => ?_⟩
    -- what still lacks a position lacked it before, and was sought for then
    obtain ⟨hlacked, hunsought⟩ := hmissing q hq
    rw [map_fst_of_found hmap, Std.ExtTreeSet.mem_toList] at hunsought
    exact hunsought hlacked
  · rw [herr] at hrun
    rw [hrun.1] at hok
    cases hok

omit hO in
theorem isAssigned_of_mem_trimmed {c : Client τ} {p : Partition} (hp : p ∈ c.trimmed.buffer) :
    Tracker.isAssigned c.tracker p = true := by
  rw [Std.ExtTreeMap.mem_iff_isSome_getElem?] at hp
  unfold trimmed at hp
  rw [getElem?_filter_key] at hp
  split at hp
  · assumption
  · cases hp

/-- The moves of a fetch come to the same along any order, if every partition in the buffer is
    assigned and none lacks a position. -/
theorem run_each_advance_congr (visiting visiting' : Visiting (List Record)) {c : Client τ}
    (hc : P c.tracker)
    (hassigned : ∀ p ∈ c.buffer, Tracker.isAssigned c.tracker p = true)
    (hplaced : ∀ p, p ∉ Tracker.missing c.tracker) :
    (Action.each advance (visiting.entries c.buffer)).run c =
      (Action.each advance (visiting'.entries c.buffer)).run c := by
  let moves := (visiting.entries c.buffer).filterMap (moveFor c.paused)
  have hdistinct : (moves.map Prod.fst).Nodup := by
    have hgroups : (visiting.entries c.buffer).Pairwise fun group group' => group.1 ≠ group'.1 :=
      List.pairwise_map.1 (visiting.nodup_keys c.buffer)
    refine List.pairwise_map.2 (hgroups.filterMap _ ?_)
    intro group group' hne move hmove move' hmove'
    rw [fst_of_moveFor hmove, fst_of_moveFor hmove']
    exact hne
  have hmovable : ∀ move ∈ moves, Tracker.Movable c.tracker move.1 := by
    intro move hmove
    obtain ⟨group, hgroup, hof⟩ := List.mem_filterMap.1 hmove
    rw [fst_of_moveFor hof]
    exact ⟨hassigned _ (visiting.mem_of_mem_entries hgroup), hplaced _⟩
  have hloop := hO.setPosition.run_each_perm
    ((visiting.perm_entries visiting' c.buffer).filterMap (moveFor c.paused)) hdistinct hc hmovable
  rw [run_each_advance, run_each_advance]
  unfold onTracker
  rw [Action.run_within, Action.run_within, hloop]

/-- **A fetch comes to the same along any order** in which the buffer is walked through. -/
theorem run_fetchAlong_congr (visiting visiting' : Visiting (List Record)) {c : Client τ}
    (hc : P c.tracker) :
    (fetchAlong visiting).run c = (fetchAlong visiting').run c := by
  rw [fetchAlong_eq, fetchAlong_eq]
  refine Action.run_bind_congr ?_
  intro u hok
  obtain ⟨hP, hplaced⟩ := missing_of_settled hO hc hok
  refine Action.run_bind_congr ?_
  intro v _
  rw [(run_discard _).2]
  have hmoves := run_each_advance_congr hO visiting visiting' (c := (settle.run c).state.trimmed) hP
    (fun p => isAssigned_of_mem_trimmed) hplaced
  exact Action.run_bind_of_eq hmoves _

end

/-! ## Recording commits -/

/-- The call is given a commit of a partition that is not assigned. -/
def Rejects (c : Client τ) (r : Request) (p : Partition) : Prop :=
  ∃ offsets, r.offered? = some offsets ∧ p ∈ offsets ∧ Tracker.isAssigned c.tracker p = false

section

variable {P : τ → Prop} (hO : Tracker.Orderless τ P) (visiting visiting' : Visiting Commit)
  {offsets : CommitMap} (callback : Callback τ β) {c : Client τ}

include hO

/-- A commit of assigned partitions comes to the same in any order. -/
theorem run_commit_congr (hc : P c.tracker)
    (hassigned : ∀ p ∈ offsets, Tracker.isAssigned c.tracker p = true) :
    (commit visiting offsets callback).run c = (commit visiting' offsets callback).run c := by
  let record (e : Partition × Commit) : Action τ Unit := Tracker.setCommitted e.1 e.2
  have hready (e : Partition × Commit) (he : e ∈ visiting.entries offsets) :
      Tracker.isAssigned c.tracker e.1 = true := hassigned e.1 (visiting.mem_of_mem_entries he)
  have hensured (visiting : Visiting Commit) :
      (ensureAssigned ((visiting.entries offsets).map (·.1))).run c = ⟨.ok (), c, []⟩ :=
    run_ensureAssigned fun p hp => hassigned p (visiting.mem_keys.1 hp)
  have hloop : (Action.each (fun e => onTracker (record e)) (visiting.entries offsets)).run c =
      (Action.each (fun e => onTracker (record e)) (visiting'.entries offsets)).run c := by
    have hinside := hO.setCommitted.run_each_perm (visiting.perm_entries visiting' offsets)
      (visiting.nodup_keys offsets) hc hready
    rw [run_each_onTracker, run_each_onTracker]
    unfold onTracker
    rw [Action.run_within, Action.run_within, hinside]
  unfold commit
  rw [Action.run_bind_ok (hensured visiting), Action.run_bind_ok (hensured visiting')]
  exact congrArg (·.after []) (Action.run_bind_of_eq hloop _)

/-- To commit what was consumed comes to the same in any order. -/
theorem run_commitConsumed_congr (hc : P c.tracker) :
    (commitConsumed visiting callback).run c = (commitConsumed visiting' callback).run c :=
  run_commit_congr hO visiting visiting' callback hc fun p hp => hO.consumed c.tracker p hc hp

/-- In two orders a commit of given offsets comes to the same, or it is refused for two different
    partitions that are not assigned. -/
theorem commit_cases (hc : P c.tracker) :
    (commit visiting offsets callback).run c = (commit visiting' offsets callback).run c ∨
    ∃ p q, p ≠ q ∧ (p ∈ offsets ∧ Tracker.isAssigned c.tracker p = false) ∧
      (q ∈ offsets ∧ Tracker.isAssigned c.tracker q = false) ∧
      (commit visiting offsets callback).run c = ⟨.error (.unassigned p), c, []⟩ ∧
      (commit visiting' offsets callback).run c = ⟨.error (.unassigned q), c, []⟩ := by
  by_cases hunassigned : ∃ p ∈ offsets, Tracker.isAssigned c.tracker p = false
  · obtain ⟨p, hp, hpu, hrun⟩ := run_commit_of_unassigned visiting callback hunassigned
    obtain ⟨q, hq, hqu, hrun'⟩ := run_commit_of_unassigned visiting' callback hunassigned
    by_cases hpq : p = q
    · subst hpq
      exact .inl (hrun.trans hrun'.symm)
    · exact .inr ⟨p, q, hpq, ⟨hp, hpu⟩, ⟨hq, hqu⟩, hrun, hrun'⟩
  · refine .inl (run_commit_congr hO visiting visiting' callback hc ?_)
    intro p hp
    rw [← Bool.not_eq_false]
    exact fun hpu => hunassigned ⟨p, hp, hpu⟩

omit callback in
/-- **A call comes to the same in any order** in which it walks through the commits that it is
    given, but for the name in the refusal of a commit of several partitions that are not
    assigned. -/
theorem handleAlong_cases (hc : P c.tracker) (r : Request) :
    (handleAlong visiting r).run c = (handleAlong visiting' r).run c ∨
    ∃ p q, p ≠ q ∧ c.Rejects r p ∧ c.Rejects r q ∧
      (handleAlong visiting r).run c = ⟨.error (.unassigned p), c, []⟩ ∧
      (handleAlong visiting' r).run c = ⟨.error (.unassigned q), c, []⟩ := by
  have given {offsets : CommitMap} (hr : r.offered? = some offsets)
      (callback : Callback τ Reply) :
      (commit visiting offsets callback).run c = (commit visiting' offsets callback).run c ∨
      ∃ p q, p ≠ q ∧ c.Rejects r p ∧ c.Rejects r q ∧
        (commit visiting offsets callback).run c = ⟨.error (.unassigned p), c, []⟩ ∧
        (commit visiting' offsets callback).run c = ⟨.error (.unassigned q), c, []⟩ := by
    rcases commit_cases hO visiting visiting' callback hc with
      hsame | ⟨p, q, hpq, hp, hq, hruns⟩
    · exact .inl hsame
    · exact .inr ⟨p, q, hpq, ⟨offsets, hr, hp⟩, ⟨offsets, hr, hq⟩, hruns⟩
  cases r with
  | commitAsync offsets => exact given rfl .acknowledge
  | commitSyncOffsets offsets => exact given rfl .ignore
  | commitAsyncConsumed | commitSync =>
      exact .inl (run_commitConsumed_congr hO visiting visiting' _ hc)
  | _ => exact .inl rfl

end

end Client

end ScriptedConsumer
