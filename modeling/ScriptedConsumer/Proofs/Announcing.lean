import Mathlib.Algebra.GroupWithZero.Nat
import Mathlib.Data.List.Nodup
import ScriptedConsumer.Faulty
import ScriptedConsumer.Proofs.Buffers

set_option autoImplicit false

/-! # What operations make known of records

Three things that are made known stand for records that leave the buffer: the counters of discarded
and of delivered records, and the number of dropped records in the log entry of a rebalance. All
other log entries are asides. A tracker is discreet if its operations make nothing else known, and
over such a tracker the buffer and the events keep in balance: `Client.balance_handle` says so for
requests and `Client.balance_fetch` for a fetch. -/

namespace ScriptedConsumer

/-! ## Counting the records of a buffer -/

section Counting

variable {β : Type}

theorem nodup_toList (m : PartitionMap β) : m.toList.Nodup := by
  refine List.Nodup.of_map Prod.fst ?_
  rw [Std.ExtTreeMap.map_fst_toList_eq_keys]
  exact Std.ExtTreeMap.nodup_keys

/-- A map with one entry replaced lists that entry and those of all other partitions. -/
theorem toList_insert_perm (m : PartitionMap β) (p : Partition) (b : β) :
    (m.insert p b).toList.Perm ((p, b) :: (m.filter fun q _ => q ≠ p).toList) := by
  have hother (q : Partition) (c : β) :
      (q, c) ∈ (m.filter fun q _ => q ≠ p).toList ↔ q ≠ p ∧ m[q]? = some c := by
    rw [Std.ExtTreeMap.mem_toList_iff_getElem?_eq_some,
      Client.getElem?_filter_key m (fun q => q ≠ p) q]
    by_cases hq : q = p <;> simp [hq]
  have hnodup : ((p, b) :: (m.filter fun q _ => q ≠ p).toList).Nodup := by
    refine List.nodup_cons.2 ⟨?_, nodup_toList _⟩
    rw [hother]
    simp
  refine (List.perm_ext_iff_of_nodup (nodup_toList _) hnodup).2 ?_
  rintro ⟨q, c⟩
  rw [List.mem_cons, hother, Std.ExtTreeMap.mem_toList_iff_getElem?_eq_some,
    Std.ExtTreeMap.getElem?_insert]
  by_cases hq : q = p
  · subst hq
    simp [eq_comm]
  · simp [hq, Partition.compare_ne_eq (Ne.symm hq)]

theorem length_flatMap_of_perm {xs ys : List (Partition × List Record)} (h : xs.Perm ys) :
    (xs.flatMap (·.2)).length = (ys.flatMap (·.2)).length :=
  (h.flatMap_right _).length_eq

/-- What a buffer has for one partition, and what it has for all others. -/
theorem recordCount_insert_eq (m : RecordMap) (p : Partition) (group : List Record) :
    recordCount (m.insert p group) =
      group.length + recordCount (m.filter fun q _ => q ≠ p) := by
  rw [recordCount, length_flatMap_of_perm (toList_insert_perm m p group), List.flatMap_cons,
    List.length_append, recordCount]

theorem recordCount_insert (m : RecordMap) (r : Record) :
    recordCount (m.insert r.partition (m.getD r.partition [] ++ [r])) = recordCount m + 1 := by
  rw [recordCount_insert_eq, Std.ExtTreeMap.getD_eq_getD_getElem?]
  cases hp : m[r.partition]? with
  | some group =>
      have hsame : m.insert r.partition group = m := by
        ext q : 1
        rw [Std.ExtTreeMap.getElem?_insert]
        split
        · next hq => rw [← Std.LawfulEqOrd.eq_of_compare hq, hp]
        · rfl
      have hcount := recordCount_insert_eq m r.partition group
      rw [hsame] at hcount
      rw [hcount, Option.getD_some, List.length_append, List.length_singleton]
      omega
  | none =>
      have hsame : (m.filter fun q _ => q ≠ r.partition) = m := by
        ext q : 1
        rw [Client.getElem?_filter_key m (fun q => q ≠ r.partition) q]
        by_cases hq : q = r.partition
        · simp [hq, hp]
        · simp [hq]
      rw [hsame, Option.getD_none, List.nil_append, List.length_singleton]
      omega

theorem recordCount_filter (m : RecordMap) (f : Partition → Bool) :
    recordCount m =
      recordCount (m.filter fun p _ => !f p) + recordCount (m.filter fun p _ => f p) := by
  have hparts : (m.toList.filter (fun e => f e.1) ++ m.toList.filter (fun e => !f e.1)).Perm
      m.toList := List.filter_append_perm _ _
  unfold recordCount
  rw [← length_flatMap_of_perm hparts, Std.ExtTreeMap.toList_filter,
    Std.ExtTreeMap.toList_filter, List.flatMap_append, List.length_append, Nat.add_comm]

end Counting

/-! ## What events account for -/

namespace Event

/-- Whether the event is a log entry that stands for no records. -/
def isAside : Event → Bool
  | .logged (.rebalanced ..) => false
  | .logged _ => true
  | .counted .. => false

end Event

/-- The number of records that a log entry reports as dropped by a rebalance. -/
def Entry.dropped : Entry → Nat
  | .rebalanced _ dropped => dropped
  | _ => 0

/-- The number of records that events report as dropped by rebalances. -/
def revokedTotal (events : List Event) : Nat := ((entriesOf events).map Entry.dropped).sum

/-- The number of records that events report to have left the buffer. -/
def releasedTotal (events : List Event) : Nat :=
  Counter.deliveredRecords.total events + Counter.discardedRecords.total events
    + revokedTotal events

theorem revokedTotal_append (xs ys : List Event) :
    revokedTotal (xs ++ ys) = revokedTotal xs + revokedTotal ys := by
  simp only [revokedTotal, entriesOf_append, List.map_append, List.sum_append]

theorem releasedTotal_append (xs ys : List Event) :
    releasedTotal (xs ++ ys) = releasedTotal xs + releasedTotal ys := by
  simp only [releasedTotal, Counter.total_append, revokedTotal_append]
  omega

/-- The events count nothing, and no records are dropped. -/
def Idle (events : List Event) : Prop :=
  (∀ counter : Counter, counter.total events = 0) ∧ revokedTotal events = 0

theorem idle_of_asides {events : List Event} (h : ∀ event ∈ events, event.isAside = true) :
    Idle events := by
  induction events with
  | nil => exact ⟨fun _ => rfl, rfl⟩
  | cons event rest ih =>
      obtain ⟨htotal, hrevoked⟩ := ih fun e he => h e (List.mem_cons_of_mem _ he)
      have hevent : event.isAside = true := h event (List.mem_cons_self ..)
      cases event with
      | counted => cases hevent
      | logged entry =>
          refine ⟨htotal, ?_⟩
          show entry.dropped + revokedTotal rest = 0
          rw [hrevoked]
          cases entry with
          | rebalanced => cases hevent
          | _ => rfl

theorem Idle.releasedTotal_eq {events : List Event} (h : Idle events) :
    releasedTotal events = 0 := by
  simp only [releasedTotal, h.1, h.2]

/-! ## Discreet trackers -/

/-- All that the operations of a tracker make known are asides. -/
def Tracker.Discreet (τ : Type) [Tracker τ] : Prop :=
  ∀ call : Tracker.Call, Action.Emits (·.isAside = true) (call.perform : Action τ Unit)

namespace Subscription

/-- What an operation of a subscription is made of. -/
theorem asides : Action.Hereditary fun α =>
    Action.Emits (σ := Subscription) (α := α) (·.isAside = true) := Action.Emits.hereditary _

theorem emits_enter (mode : Mode) : Action.Emits (·.isAside = true) (enter mode) := by
  refine asides.bind asides.get fun s => ?_
  split
  · exact .of_silent fun _ => rfl
  · split
    · exact asides.throw _
    · exact asides.pure _

theorem emits_changeTopics (topics : TopicSet) :
    Action.Emits (·.isAside = true) (changeTopics topics) := by
  refine asides.bind asides.get fun s => ?_
  split
  · exact asides.bind (.log rfl) fun _ => .of_silent fun _ => rfl
  · exact asides.pure _

theorem emits_change (p : Partition) (f : Progress → Progress) :
    Action.Emits (·.isAside = true) (change p f) :=
  asides.bind asides.get fun _ => asides.bind (asides.ask _) fun _ => .of_silent fun _ => rfl

theorem discreet : Tracker.Discreet Subscription := by
  intro call
  cases call with
  | subscribe topics listener =>
      exact asides.bind (emits_enter _) fun _ => asides.bind (.of_silent fun _ => rfl) fun _ =>
        emits_changeTopics _
  | subscribePattern pattern listener =>
      exact asides.bind (emits_enter _) fun _ => .of_silent fun _ => rfl
  | setMatched topics =>
      exact asides.bind asides.get fun _ => asides.checked (emits_changeTopics _)
  | assignManually ps =>
      refine asides.bind (emits_enter _) fun _ => asides.bind asides.get fun _ => ?_
      split
      · exact asides.bind (.log rfl) fun _ => .of_silent fun _ => rfl
      · exact asides.pure _
  | assignFromGroup ps =>
      refine asides.bind asides.get fun _ => asides.checked ?_
      split
      · exact asides.throw _
      · exact .of_silent fun _ => rfl
  | unsubscribe => exact .of_silent fun _ => rfl
  | setPosition p offset =>
      exact asides.bind (asides.ask _) fun _ => asides.checked (emits_change _ _)
  | needDefaultReset p => exact asides.bind asides.get fun _ => emits_change _ _
  | pause | resume | setCommitted | needReset | seek => exact emits_change _ _

end Subscription

namespace Faulty

variable {τ : Type}

theorem emits_obey {P : Event → Prop} (method : Method) {act : Action τ Unit}
    (h : Action.Emits P act) : Action.Emits P (obey method act) := by
  have hQ := Action.Emits.hereditary (σ := Faulty τ) P
  exact hQ.bind hQ.get fun _ => hQ.checked (.within h)

theorem discreet [Tracker τ] (h : Tracker.Discreet τ) : Tracker.Discreet (Faulty τ) := by
  have hQ := Action.Emits.hereditary (σ := Faulty τ) (·.isAside = true)
  intro call
  cases call with
  | subscribe topics listener => exact emits_obey _ (h (.subscribe topics listener))
  | subscribePattern pattern listener =>
      refine hQ.bind hQ.get fun t => ?_
      split
      · exact hQ.pure _
      · exact .within (h (.subscribePattern pattern listener))
  | setMatched topics => exact .within (h (.setMatched topics))
  | assignManually ps => exact emits_obey _ (h (.assignManually ps))
  | assignFromGroup ps => exact emits_obey _ (h (.assignFromGroup ps))
  | unsubscribe => exact .of_silent fun _ => rfl
  | pause p => exact emits_obey _ (h (.pause p))
  | resume p => exact emits_obey _ (h (.resume p))
  | setPosition p offset => exact emits_obey _ (h (.setPosition p offset))
  | setCommitted p commit => exact emits_obey _ (h (.setCommitted p commit))
  | needReset p policy => exact emits_obey _ (h (.needReset p policy))
  | needDefaultReset p => exact hQ.bind hQ.get fun t => emits_obey _ (h (.needReset p _))
  | seek p offset => exact emits_obey _ (h (.seek p offset))

end Faulty

/-! ## Requests -/

/-- Whether a request adds a record if it succeeds. -/
def Request.adds : Request → Bool
  | .addRecord _ => true
  | _ => false

namespace Client

variable {τ : Type} [Tracker τ]

/-- What is made known by a request that leaves the buffer alone is aside. -/
theorem emits_handle (hT : Tracker.Discreet τ) {r : Request} (hr : r.reachesBuffer = false) :
    Action.Emits (·.isAside = true) (handle (τ := τ) r) := by
  refine handle_of_parts (Action.Emits.hereditary _) r ?_ ?_ ?_
  · intro call _
    exact .within (hT call)
  · intro g _
    exact .of_silent fun _ => rfl
  · intro entry hlogs
    refine .log ?_
    cases hlogs with
    | rebalanced ps => cases hr
    | located p origin => cases origin <;> rfl
    | _ => rfl

theorem run_rebalance (ps : List Partition) (c : Client τ) :
    (rebalance ps).run c =
      let o := (Tracker.assignFromGroup ps).run c.tracker
      match o.result with
      | .error e => ⟨.error e, { c with tracker := o.state }, o.events⟩
      | .ok _ => ⟨.ok (), syncPaused { c with tracker := o.state, buffer := ∅ },
          o.events ++ [.logged (.rebalanced ps.length (recordCount c.buffer))]⟩ := by
  simp only [rebalance, Action.run_bind, onTracker, Action.run_within]
  cases ((Tracker.assignFromGroup ps).run c.tracker).result with
  | error e => rfl
  | ok u => rfl

/-- A rebalance reports the records that it drops, if it is granted. -/
theorem balance_rebalance (hT : Tracker.Discreet τ) (ps : List Partition) (c : Client τ) :
    (∀ counter : Counter, counter.total ((rebalance ps).run c).events = 0) ∧
      recordCount c.buffer = revokedTotal ((rebalance ps).run c).events
        + recordCount ((rebalance ps).run c).state.buffer := by
  obtain ⟨htotal, hrevoked⟩ := idle_of_asides (hT (.assignFromGroup ps) c.tracker)
  have htotal' (counter : Counter) :
      counter.total ((Tracker.assignFromGroup ps).run c.tracker).events = 0 := htotal counter
  have hrevoked' : revokedTotal ((Tracker.assignFromGroup ps).run c.tracker).events = 0 := hrevoked
  rw [run_rebalance]
  cases hres : ((Tracker.assignFromGroup ps).run c.tracker).result with
  | error e => simp [hres, htotal', hrevoked']
  | ok u =>
      simp only [hres, Counter.total_append, revokedTotal_append, htotal', hrevoked']
      refine ⟨fun _ => rfl, ?_⟩
      show _ = 0 + (recordCount c.buffer + 0) + 0
      omega

theorem balance_handle_of_other (hT : Tracker.Discreet τ) {r : Request}
    (hr : r.reachesBuffer = false) (c : Client τ) :
    (∀ counter : Counter, counter.total ((handle r).run c).events = 0) ∧
      recordCount c.buffer + (if r.adds && ((handle r).run c).result.isOk then 1 else 0) =
        revokedTotal ((handle r).run c).events + recordCount ((handle r).run c).state.buffer := by
  have hadds : r.adds = false := by
    cases r with
    | addRecord => cases hr
    | _ => rfl
  obtain ⟨htotal, hrevoked⟩ := idle_of_asides (emits_handle hT hr c)
  refine ⟨htotal, ?_⟩
  rw [hrevoked, keeps_buffer_handle hr c, hadds, Nat.zero_add]
  rfl

/-- What a request adds to the buffer and what it reports to have left it make up for how it changes
    it. -/
theorem balance_handle (hT : Tracker.Discreet τ) (r : Request) (c : Client τ) :
    (∀ counter : Counter, counter.total ((handle r).run c).events = 0) ∧
      recordCount c.buffer + (if r.adds && ((handle r).run c).result.isOk then 1 else 0) =
        revokedTotal ((handle r).run c).events + recordCount ((handle r).run c).state.buffer := by
  cases r with
  | rebalance ps =>
      have hevents := Action.events_bind_pure (rebalance ps) (fun _ => Reply.done) c
      have hstate := (Action.bind_pure (rebalance ps) (fun _ => Reply.done) c).2
      rw [handle, hevents, hstate]
      exact balance_rebalance hT ps c
  | addRecord record =>
      have hevents := Action.events_bind_pure (addRecord record) (fun _ => Reply.done) c
      obtain ⟨hres, hstate⟩ := Action.bind_pure (addRecord record) (fun _ => Reply.done) c
      rw [handle, hevents, hres, hstate, run_addRecord]
      split
      · split
        · exact ⟨fun _ => rfl, Nat.zero_add _ |>.symm⟩
        · refine ⟨fun _ => rfl, ?_⟩
          show recordCount c.buffer + 1 = 0 + recordCount (buffered record c).buffer
          rw [buffered, recordCount_insert, Nat.zero_add]
      · exact ⟨fun _ => rfl, Nat.zero_add _ |>.symm⟩
  | _ => exact balance_handle_of_other hT rfl c

/-! ## Fetching -/

theorem emits_settle (hT : Tracker.Discreet τ) :
    Action.Emits (·.isAside = true) (settle : Action (Client τ) Unit) := by
  have hQ := Action.Emits.hereditary (σ := Client τ) (·.isAside = true)
  refine hQ.bind hQ.get fun _ => hQ.bind (hQ.collect (fun p => ?_) _) fun _ =>
    hQ.each fun start _ => .within (hT (.seek start.1 start.2))
  have hlog (origin : Origin) :
      Action.Emits (·.isAside = true) (Action.log (origin.entry p) : Action (Client τ) Unit) :=
    .log (by cases origin <;> rfl)
  have hlocate : Action.Emits (·.isAside = true) (locate p : Action (Client τ) Int64) :=
    hQ.bind (hQ.ask _) fun _ => hQ.bind (hlog _) fun _ => hQ.pure _
  exact hQ.bind hlocate fun _ => hQ.pure _

theorem emits_advance (hT : Tracker.Discreet τ) (group : Partition × List Record) :
    Action.Emits (·.isAside = true) (advance group : Action (Client τ) Unit) := by
  have hQ := Action.Emits.hereditary (σ := Client τ) (·.isAside = true)
  refine hQ.bind hQ.get fun c => ?_
  split
  · split
    · exact .within (hT (.setPosition _ _))
    · exact hQ.pure _
  · exact hQ.pure _

/-- The number of records that are dropped because their partition is not assigned. -/
def staleCount (c : Client τ) : Nat :=
  recordCount (c.buffer.filter fun p _ => !Tracker.isAssigned c.tracker p)

theorem events_discard (c : Client τ) :
    (∀ counter : Counter, counter.total (discard.run c).events =
      if counter = .discardedRecords then c.staleCount else 0) ∧
      revokedTotal (discard.run c).events = 0 := by
  have hrun : (discard.run c).events =
      if 0 < c.staleCount then
        [.logged (.discarded c.staleCount), .counted .discardedRecords c.staleCount]
      else [] := by
    simp only [discard, staleCount, Action.run_bind, Action.run_get, Action.run_set, Outcome.after]
    split
    · next h => simp [h, Action.run_bind, Outcome.after]
    · next h => simp [h]
  rw [hrun]
  split
  · refine ⟨?_, rfl⟩
    intro counter
    cases counter <;> rfl
  · next hzero =>
      refine ⟨?_, rfl⟩
      intro counter
      have hnone : counter.total [] = 0 := rfl
      rw [hnone]
      split <;> omega

/-- Moving the positions over a buffer reports nothing, and delivering it reports its records. -/
theorem balance_deliver (hT : Tracker.Discreet τ) (groups : List (Partition × List Record))
    (c : Client τ) :
    let o := (Action.each advance groups >>= fun _ => deliver).run c
    (∀ counter : Counter, counter.total o.events =
      if counter = .deliveredRecords then (o.result.toOption.map Batch.count).getD 0 else 0) ∧
    revokedTotal o.events = 0 ∧
    recordCount c.buffer =
      (o.result.toOption.map Batch.count).getD 0 + recordCount o.state.buffer := by
  have hadvance : Action.Emits (·.isAside = true) (Action.each advance groups) :=
    (Action.Emits.hereditary _).each fun group _ => emits_advance hT group
  obtain ⟨htotal, hrevoked⟩ := idle_of_asides (hadvance c)
  have hkeep : ((Action.each advance groups).run c).state.buffer = c.buffer :=
    Action.Maintains.each (I := fun c' => c'.buffer = c.buffer)
      (fun group _ => maintains_advance (fun _ _ _ hc' => hc') group) c rfl
  intro o
  cases hr : ((Action.each advance groups).run c).result with
  | error e =>
      obtain ⟨hres, hstate⟩ := Action.bind_of_error hr fun _ => deliver
      have hevents := Action.events_bind_of_error hr fun _ => deliver
      simp only [o, hres, hstate, hevents, hkeep, htotal, hrevoked]
      simp [Except.toOption]
  | ok u =>
      obtain ⟨hres, hstate⟩ := Action.bind_of_ok hr fun _ => deliver
      have hevents := Action.events_bind_of_ok hr fun _ => deliver
      simp only [o, hres, hstate, hevents, (run_deliver _).1, (run_deliver _).2, hkeep,
        Counter.total_append, revokedTotal_append, htotal, hrevoked]
      refine ⟨?_, rfl, rfl⟩
      intro counter
      show 0 + counter.total [.counted .deliveredRecords _] = _
      rw [hkeep]
      cases counter <;> simp [Counter.total, Counter.increments, Except.toOption, Batch.count]

theorem events_fetch_of_settled (visiting : Visiting (List Record)) {c : Client τ} {u : Unit}
    (h : (settle.run c).result = .ok u) :
    let t := (settle.run c).state.trimmed
    let go := Action.each advance (visiting.entries t.buffer) >>= fun _ => deliver
    ((fetch visiting).run c).events = (settle.run c).events ++
      ((discard.run (settle.run c).state).events ++ (go.run t).events) := by
  intro t go
  let rest : Action (Client τ) Batch := do
    Action.each advance (visiting.entries (← get).buffer)
    deliver
  obtain ⟨hok, htrimmed⟩ := run_discard (settle.run c).state
  have hinner := Action.events_bind_of_ok hok fun _ => rest
  rw [htrimmed] at hinner
  exact (Action.events_bind_of_ok h _).trans (congrArg ((settle.run c).events ++ ·) hinner)

/-- A fetch reports the records that it drops and those that it delivers. What it delivers is the
    batch that it ends with, if it ends well. -/
theorem balance_fetch (hT : Tracker.Discreet τ) (visiting : Visiting (List Record))
    (c : Client τ) :
    recordCount c.buffer =
        releasedTotal ((fetch visiting).run c).events +
          recordCount ((fetch visiting).run c).state.buffer ∧
      Counter.deliveredRecords.total ((fetch visiting).run c).events =
        (((fetch visiting).run c).result.toOption.map Batch.count).getD 0 ∧
      ∀ counter : Counter, counter ≠ .discardedRecords → counter ≠ .deliveredRecords →
        counter.total ((fetch visiting).run c).events = 0 := by
  have hidle := idle_of_asides (emits_settle hT c)
  have hkeep : (settle.run c).state.buffer = c.buffer :=
    maintains_settle (J := fun c' => c'.buffer = c.buffer) (fun _ _ _ hc' => hc') c rfl
  cases hs : (settle.run c).result with
  | error e =>
      obtain ⟨hres, hstate⟩ := run_fetch_of_unsettled visiting hs
      have hevents : ((fetch visiting).run c).events = (settle.run c).events :=
        Action.events_bind_of_error hs _
      rw [hevents, hidle.releasedTotal_eq, hres, hstate, hkeep]
      exact ⟨(Nat.zero_add _).symm, hidle.1 _, fun counter _ _ => hidle.1 counter⟩
  | ok u =>
      let t := (settle.run c).state.trimmed
      let go : Action (Client τ) Batch :=
        Action.each advance (visiting.entries t.buffer) >>= fun _ => deliver
      obtain ⟨hres, hstate⟩ := run_fetch_of_settled visiting hs
      have hresult : ((fetch visiting).run c).result = (go.run t).result := hres
      have hafter : ((fetch visiting).run c).state = (go.run t).state := hstate
      have hevents : ((fetch visiting).run c).events = (settle.run c).events ++
          ((discard.run (settle.run c).state).events ++ (go.run t).events) :=
        events_fetch_of_settled visiting hs
      obtain ⟨hdiscarded, hnone⟩ := events_discard (settle.run c).state
      obtain ⟨hdelivered, hnone', hcount⟩ :=
        balance_deliver hT (visiting.entries t.buffer) t
      have hparts :
          recordCount c.buffer = (settle.run c).state.staleCount + recordCount t.buffer := by
        rw [← hkeep]
        exact recordCount_filter _ _
      have htotal (counter : Counter) : counter.total ((fetch visiting).run c).events =
          (if counter = .discardedRecords then (settle.run c).state.staleCount else 0) +
            if counter = .deliveredRecords then ((go.run t).result.toOption.map Batch.count).getD 0
            else 0 := by
        rw [hevents, Counter.total_append, Counter.total_append, hidle.1, hdiscarded, hdelivered,
          Nat.zero_add]
      have hrevoked : revokedTotal ((fetch visiting).run c).events = 0 := by
        rw [hevents, revokedTotal_append, revokedTotal_append, hidle.2, hnone, hnone']
      rw [hresult, hafter]
      refine ⟨?_, ?_, ?_⟩
      · have hcount' : recordCount t.buffer = ((go.run t).result.toOption.map Batch.count).getD 0
            + recordCount (go.run t).state.buffer := hcount
        have hreleased : releasedTotal ((fetch visiting).run c).events =
            ((go.run t).result.toOption.map Batch.count).getD 0
              + (settle.run c).state.staleCount := by
          simp [releasedTotal, htotal, hrevoked]
        omega
      · rw [htotal]
        simp
      · intro counter hother hother'
        rw [htotal, if_neg hother, if_neg hother']

end Client

end ScriptedConsumer
