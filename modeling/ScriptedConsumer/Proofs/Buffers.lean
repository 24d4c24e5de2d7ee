import ScriptedConsumer.Consumer
import ScriptedConsumer.Proofs.Calls

set_option autoImplicit false

/-! # The buffer and the operations

Of all calls only two reach the buffer: `buffer_handle` says how. Ending a poll reaches it in two
steps, which may come apart when the tracker fails in between: first the records of partitions that
are not assigned are dropped, and later the rest is taken out.

None of this depends on what the tracker does. -/

namespace ScriptedConsumer

/-- Whether a call may change the buffer. -/
def Request.reachesBuffer : Request → Bool
  | .addRecord _ | .rebalance _ => true
  | _ => false

/-- What a call makes of the buffer if it succeeds. -/
def Request.onBuffer : Request → RecordMap → RecordMap
  | .addRecord r, b => b.insert r.partition (b.getD r.partition [] ++ [r])
  | .rebalance _, _ => ∅
  | _, b => b

namespace Client

variable {τ α γ : Type}

theorem getElem?_filter_key {β : Type} (m : PartitionMap β) (f : Partition → Bool)
    (p : Partition) : (m.filter fun p _ => f p)[p]? = if f p then m[p]? else none := by
  rw [Std.ExtTreeMap.getElem?_filter']
  by_cases hp : f p = true
  · rw [if_pos hp]
    cases m[p]? <;> simp [hp]
  · rw [if_neg hp]
    cases m[p]? <;> simp [hp]

/-! ## Calls -/

variable [Tracker τ]

/-- A rebalance that the tracker accepts empties the buffer. One that it refuses does not. -/
theorem buffer_rebalance (ps : List Partition) (c : Client τ) :
    (∀ e, ((rebalance ps).run c).result = .error e →
      ((rebalance ps).run c).state.buffer = c.buffer) ∧
    (∀ u, ((rebalance ps).run c).result = .ok u → ((rebalance ps).run c).state.buffer = ∅) := by
  let k : Unit → Action (Client τ) Unit := fun _ => do
    let dropped := recordCount (← get).buffer
    modify fun c => syncPaused { c with buffer := ∅ }
    Action.log (.rebalanced ps.length dropped)
  cases hr : ((onTracker (Tracker.assignFromGroup ps)).run c).result with
  | error e =>
      have hres : ((rebalance ps).run c).result = .error e := (Action.bind_of_error hr k).1
      have hbuffer : ((rebalance ps).run c).state.buffer = c.buffer := by
        show ((onTracker (Tracker.assignFromGroup ps) >>= k).run c).state.buffer = c.buffer
        rw [(Action.bind_of_error hr k).2]
        rfl
      simp [hres, hbuffer]
  | ok u =>
      have hres : ((rebalance ps).run c).result = .ok () := (Action.bind_of_ok hr k).1
      have hbuffer : ((rebalance ps).run c).state.buffer = ∅ := by
        show ((onTracker (Tracker.assignFromGroup ps) >>= k).run c).state.buffer = ∅
        rw [(Action.bind_of_ok hr k).2]
        rfl
      simp [hres, hbuffer]

/-- A record is added if its partition is assigned and its offset leaves room for the next one. -/
theorem run_addRecord (r : Record) (c : Client τ) :
    (addRecord r).run c =
      if Tracker.isAssigned c.tracker r.partition then
        if r.offset = Int64.maxValue then ⟨.error (.offsetOutOfRange r.partition r.offset), c, []⟩
        else ⟨.ok (), buffered r c, []⟩
      else ⟨.error (.recordForUnassigned r.partition), c, []⟩ := by
  simp only [addRecord, Action.run_bind, Action.run_get]
  by_cases hassigned : Tracker.isAssigned c.tracker r.partition = true
  · by_cases hmax : r.offset = Int64.maxValue
    · simp [hassigned, hmax, Action.run_bind, Outcome.after]
    · simp [hassigned, hmax, Outcome.after]
  · simp [hassigned, Action.run_bind, Outcome.after]

/-- A call that neither adds a record nor rebalances leaves the buffer alone, however it ends. -/
theorem keeps_buffer_handle [Pattern.Dialect] {r : Request} (h : r.reachesBuffer = false) :
    Action.Keeps buffer (handle (τ := τ) r) := by
  intro c
  refine maintains_handle (J := fun c' => c'.buffer = c.buffer) r ?_ ?_ c rfl
  · intro call _ c' hc'
    exact hc'
  · intro g hg c' hc'
    cases hg with
    | addRecord | rebalance => cases h
    | _ => exact hc'

/-- How a call may change the buffer: not at all if it fails, and only by adding a record or by a
    rebalance if it succeeds. -/
theorem buffer_handle [Pattern.Dialect] (r : Request) (c : Client τ) :
    (∀ e, ((handle r).run c).result = .error e → ((handle r).run c).state.buffer = c.buffer) ∧
    (∀ a, ((handle r).run c).result = .ok a →
      ((handle r).run c).state.buffer = r.onBuffer c.buffer) := by
  have lift {act : Action (Client τ) Unit} {b : RecordMap}
      (h : (∀ e, (act.run c).result = .error e → (act.run c).state.buffer = c.buffer) ∧
        (∀ u, (act.run c).result = .ok u → (act.run c).state.buffer = b)) :
      (∀ e, ((do act; return Reply.done).run c).result = .error e →
        ((do act; return Reply.done).run c).state.buffer = c.buffer) ∧
      (∀ a, ((do act; return Reply.done).run c).result = .ok a →
        ((do act; return Reply.done).run c).state.buffer = b) := by
    obtain ⟨hres, hstate⟩ := Action.bind_pure act (fun _ => Reply.done) c
    obtain ⟨hfail, hdone⟩ := h
    rw [hres, hstate]
    cases hr : (act.run c).result with
    | error e => simp [Except.map, hfail e hr]
    | ok u => simp [Except.map, hdone u hr]
  cases r with
  | rebalance ps => exact lift (buffer_rebalance ps c)
  | addRecord record =>
      refine lift ?_
      rw [run_addRecord]
      split
      · split
        · simp
        · simp [buffered, Request.onBuffer]
      · simp
  | _ => exact ⟨fun _ _ => keeps_buffer_handle rfl c, fun _ _ => keeps_buffer_handle rfl c⟩

/-! ## Ending a poll -/

/-- The client without the records of partitions that are not assigned. -/
def trimmed (c : Client τ) : Client τ :=
  { c with buffer := c.buffer.filter fun p _ => Tracker.isAssigned c.tracker p }

theorem run_discard (c : Client τ) :
    (discard.run c).result = .ok () ∧ (discard.run c).state = c.trimmed := by
  simp only [discard, Action.run_bind, Action.run_get, Action.run_set, Outcome.after]
  -- the two ways differ only in what is logged
  split
  · exact ⟨rfl, rfl⟩
  · exact ⟨rfl, rfl⟩

omit [Tracker τ] in
theorem run_deliver (c : Client τ) :
    (deliver.run c).result = .ok ⟨c.buffer⟩ ∧ (deliver.run c).state = { c with buffer := ∅ } :=
  ⟨rfl, rfl⟩

/-- A poll that cannot give every partition a position delivers nothing and keeps the buffer. -/
theorem run_fetch_of_unsettled (visiting : Visiting (List Record)) {c : Client τ} {e : Failure}
    (h : (settle.run c).result = .error e) :
    ((fetch visiting).run c).result = .error e ∧
      ((fetch visiting).run c).state = (settle.run c).state :=
  Action.bind_of_error h _

/-- Otherwise the positions advance over what is left of the buffer, which is then delivered. -/
theorem run_fetch_of_settled (visiting : Visiting (List Record)) {c : Client τ} {u : Unit}
    (h : (settle.run c).result = .ok u) :
    let t := (settle.run c).state.trimmed
    let go := Action.each advance (visiting.entries t.buffer) >>= fun _ => deliver
    ((fetch visiting).run c).result = (go.run t).result ∧
      ((fetch visiting).run c).state = (go.run t).state := by
  intro t go
  let rest : Action (Client τ) Batch := do
    Action.each advance (visiting.entries (← get).buffer)
    deliver
  obtain ⟨hres, hstate⟩ := Action.bind_of_ok h fun _ => discard >>= fun _ => rest
  obtain ⟨hok, htrim⟩ := run_discard (settle.run c).state
  obtain ⟨hres', hstate'⟩ := Action.bind_of_ok hok fun _ => rest
  rw [htrim] at hres' hstate'
  exact ⟨hres.trans hres', hstate.trans hstate'⟩

/-- What ending a poll may do to the buffer, once every partition has a position: it is trimmed,
    and what is left of it is kept if a position cannot advance, and delivered otherwise. -/
theorem buffer_fetch_of_settled (visiting : Visiting (List Record)) {c : Client τ} {u : Unit}
    (h : (settle.run c).result = .ok u) :
    (∀ e, ((fetch visiting).run c).result = .error e →
      ((fetch visiting).run c).state.buffer = (settle.run c).state.trimmed.buffer) ∧
    (∀ b, ((fetch visiting).run c).result = .ok b →
      b.groups = (settle.run c).state.trimmed.buffer ∧
        ((fetch visiting).run c).state.buffer = ∅) := by
  obtain ⟨hres, hstate⟩ := run_fetch_of_settled visiting h
  rw [hres, hstate]
  generalize (settle.run c).state.trimmed = t
  have hkeep : ((Action.each advance (visiting.entries t.buffer)).run t).state.buffer = t.buffer :=
    Action.Maintains.each (I := fun c' => c'.buffer = t.buffer)
      (fun group _ => maintains_advance (fun _ _ _ hc' => hc') group) t rfl
  cases hadv : ((Action.each advance (visiting.entries t.buffer)).run t).result with
  | error e =>
      obtain ⟨hres', hstate'⟩ := Action.bind_of_error hadv fun _ => deliver
      rw [hres', hstate']
      simp [hkeep]
  | ok u =>
      obtain ⟨hres', hstate'⟩ := Action.bind_of_ok hadv fun _ => deliver
      rw [hres', hstate', (run_deliver _).1, (run_deliver _).2, hkeep]
      constructor
      · simp
      · rintro b ⟨⟩
        exact ⟨rfl, rfl⟩

end Client

/-- The signals once a poll of an open consumer has met the first one that is armed, if one is. -/
def Signals.obeyed (g : Signals) : Signals :=
  if g.closed then g
  else if g.wakeup then { g with wakeup := false }
  else { g with injected := none }

namespace Consumer

variable {τ κ : Type}

/-- Whether a poll that ends now fetches: the consumer is open, and no signal is armed. -/
def fetchesNow (c : Consumer τ κ) : Bool :=
  !c.isClosed && !c.signals.wakeup && c.signals.injected.isNone

theorem fetchesNow_iff {c : Consumer τ κ} :
    c.fetchesNow = true ↔
      c.isClosed = false ∧ c.signals.wakeup = false ∧ c.signals.injected = none := by
  simp [fetchesNow, and_assoc]

theorem obeyed_of_fetchesNow {c : Consumer τ κ} (h : c.fetchesNow = true) :
    c.signals.obeyed = c.signals := by
  obtain ⟨-, hw, hi⟩ := fetchesNow_iff.1 h
  rcases c with ⟨client, ⟨wakeup, injected, closed⟩, tasks, timeout⟩
  subst hw hi
  simp [Signals.obeyed]

variable [Tracker τ] (visiting : Visiting (List Record))

theorem run_endPoll_of_fetchesNow {c : Consumer τ κ} (h : c.fetchesNow = true) :
    ((endPoll visiting).run c).result = ((Client.fetch visiting).run c.client).result ∧
      ((endPoll visiting).run c).state =
        { c with client := ((Client.fetch visiting).run c.client).state } := by
  obtain ⟨hc, hw, hi⟩ := fetchesNow_iff.1 h
  rw [run_endPoll, Action.run_bind, run_obeySignals]
  simp only [hc, hw, hi, Bool.false_eq_true, if_false]
  exact ⟨rfl, rfl⟩

theorem run_endPoll_of_not_fetchesNow {c : Consumer τ κ} (h : c.fetchesNow = false) :
    ∃ f, ((endPoll visiting).run c).result = .error f ∧
      ((endPoll visiting).run c).state = { c with signals := c.signals.obeyed } := by
  unfold Signals.obeyed
  rw [run_endPoll]
  by_cases hc : c.isClosed = true
  · have hclosed : c.signals.closed = true := hc
    rw [if_pos hc, if_pos hclosed]
    exact ⟨.closed, rfl, rfl⟩
  · have hopen : ¬ c.signals.closed = true := hc
    rw [if_neg hc, if_neg hopen, Action.run_bind, run_obeySignals]
    by_cases hw : c.signals.wakeup = true
    · rw [if_pos hw, if_pos hw]
      exact ⟨.wakeup, rfl, rfl⟩
    · rw [if_neg hw, if_neg hw]
      cases hi : c.signals.injected with
      | some f => exact ⟨f, rfl, rfl⟩
      | none =>
          have hfetches : c.fetchesNow = true := by simp [fetchesNow, hc, hw, hi]
          rw [hfetches] at h
          cases h

/-- The tracker by which a poll that ends now sorts out the buffer, if it gets that far. -/
def sortedBy? (c : Consumer τ κ) : Option τ :=
  if c.fetchesNow then
    match (Client.settle.run c.client).result with
    | .ok _ => some (Client.settle.run c.client).state.tracker
    | .error _ => none
  else none

/-- What ending a poll does to the buffer. If it gets as far as to sort out the buffer, the records
    of partitions that are not assigned are gone; what is left of it is kept if the poll fails, and
    delivered otherwise. -/
theorem buffer_endPoll (c : Consumer τ κ) :
    match c.sortedBy? with
    | none => (∃ f, ((endPoll visiting).run c).result = .error f) ∧
        ((endPoll visiting).run c).state.client.buffer = c.client.buffer
    | some t =>
        let left := c.client.buffer.filter fun p _ => Tracker.isAssigned t p
        (∃ f, ((endPoll visiting).run c).result = .error f ∧
            ((endPoll visiting).run c).state.client.buffer = left) ∨
          (((endPoll visiting).run c).result = .ok ⟨left⟩ ∧
            ((endPoll visiting).run c).state.client.buffer = ∅) := by
  unfold sortedBy?
  cases hf : c.fetchesNow with
  | false =>
      obtain ⟨f, hres, hstate⟩ := run_endPoll_of_not_fetchesNow visiting hf
      refine ⟨⟨f, hres⟩, ?_⟩
      rw [hstate]
  | true =>
      obtain ⟨hres, hstate⟩ := run_endPoll_of_fetchesNow visiting hf
      have hkeep : (Client.settle.run c.client).state.buffer = c.client.buffer :=
        Client.maintains_settle (J := fun c' => c'.buffer = c.client.buffer)
          (fun _ _ _ hc' => hc') c.client rfl
      rw [hres, hstate]
      cases hs : (Client.settle.run c.client).result with
      | error e =>
          obtain ⟨hres', hstate'⟩ := Client.run_fetch_of_unsettled visiting hs
          refine ⟨⟨e, hres'⟩, ?_⟩
          show ((Client.fetch visiting).run c.client).state.buffer = c.client.buffer
          rw [hstate', hkeep]
      | ok u =>
          obtain ⟨hfail, hok⟩ := Client.buffer_fetch_of_settled visiting hs
          simp only [Client.trimmed, hkeep] at hfail hok
          cases hr : ((Client.fetch visiting).run c.client).result with
          | error e => exact Or.inl ⟨e, rfl, hfail e hr⟩
          | ok b =>
              obtain ⟨hgroups, hempty⟩ := hok b hr
              refine Or.inr ⟨?_, hempty⟩
              rw [← hgroups]

end Consumer

end ScriptedConsumer
