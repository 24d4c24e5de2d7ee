import ScriptedConsumer.Proofs.Announcing
import ScriptedConsumer.Proofs.Ledger
import ScriptedConsumer.Proofs.Tasks

set_option autoImplicit false

/-! # The books of a session

What a session makes known adds up, at every moment and whatever faults its tracker has. Every
record that was added is delivered, discarded, dropped by a rebalance or still buffered; the records
counted as delivered are those of the batches; and every poll that was counted has met a signal,
returned a batch, failed after it had looked at the signals, found the consumer closed by its task,
or waits for its task still. One deed is balanced by `Deed.booked`, and the sums over a history by
induction: `History.books_balance`. -/

namespace ScriptedConsumer

variable {τ : Type} [Tracker τ] [Switchable τ]

namespace Deed

/-! ## What is counted of deeds -/

/-- Whether the deed is a call that adds a record. -/
def addsRecord (d : Deed τ) : Bool :=
  match d.granted? with
  | some r => r.adds
  | none => false

omit [Tracker τ] [Switchable τ] in
/-- Whether the deed is the end of a poll. -/
def endsPoll : Deed τ → Bool
  | make .. => false
  | endPoll .. => true

/-- Whether the deed is the end of a poll that returns a batch. -/
def returnsBatch (d : Deed τ) : Bool := d.endsPoll && d.succeeded

/-- Whether the deed is the end of a poll that fails although it met no signal. -/
def failsLate (d : Deed τ) : Bool := d.endsPoll && d.before.consumer.fetchesNow && d.failed

omit [Tracker τ] [Switchable τ] in
/-- Whether the deed is the end of a poll whose task has closed the consumer. -/
def findsClosed (d : Deed τ) : Bool := d.endsPoll && d.before.consumer.isClosed

/-! ## Steps without requests -/

/-- A request that does not reach an open consumer is not accepted. -/
theorem accepted?_of_unreached {s : Session τ} {step : Step}
    (h : step.request? = none ∨ s.dropped = true ∨ s.consumer.isClosed = true) :
    (make s step).accepted? = none := by
  cases hr : step.request? with
  | none => exact accepted?_of_request? hr
  | some r =>
      cases hs : s.dropped with
      | true =>
          simp only [accepted?, succeeded, verdict?, Session.turn_request_of_dropped hs hr]
          rfl
      | false =>
          have hc : s.consumer.isClosed = true := by simpa [hr, hs] using h
          obtain ⟨tookCallback, hturn⟩ := Session.turn_call_of_closed hc
            (Session.isCall_of_request? hr) (by simp [Session.reaches, hs])
          simp only [accepted?, succeeded, verdict?, hturn]
          rfl

/-- A step that makes no request of an open consumer and enters no poll makes known no more than an
    aside. -/
theorem quiet_events {s : Session τ} {step : Step}
    (h : step.request? = none ∨ s.dropped = true ∨ s.consumer.isClosed = true)
    (hpoll : (make s step).entersPoll = false) :
    ∀ event ∈ (s.turn step).events, event.isAside = true := by
  have unmoved (s' : Session τ) (verdict : Verdict) :
      ∀ event ∈ (s'.unmoved verdict).events, event.isAside = true := by simp [Session.unmoved]
  have wakes : ∀ event ∈ ((Consumer.wakeup : Action (Consumer τ Task) Unit).run s.consumer).events,
      event.isAside = true := by
    rw [Consumer.run_wakeup]
    split <;> simp
  have injects (f : Failure) :
      ∀ event ∈ ((Consumer.inject f : Action (Consumer τ Task) Unit).run s.consumer).events,
        event.isAside = true := by
    rw [Consumer.run_inject]
    split <;> simp
  have schedules (task : Task) :
      ∀ event ∈ ((Consumer.schedule task : Action (Consumer τ Task) Unit).run s.consumer).events,
        event.isAside = true := by
    rw [Consumer.run_schedule]
    split <;> simp
  cases hs : s.dropped with
  | true =>
      rw [Session.turn_of_dropped hs]
      split
      · exact wakes
      · exact injects _
      all_goals exact unmoved s _
  | false =>
      cases hc : s.consumer.isClosed with
      | true =>
          rw [(Session.turn_of_closed hc step).1]
          simp
      | false =>
          have hrequest : step.request? = none := by simpa [hs, hc] using h
          rw [Session.turn_of_not_dropped hs]
          cases step with
          | request => cases hrequest
          | subscribePattern text listener =>
              simp only [Option.map_eq_none_iff.1 hrequest]
              exact unmoved s _
          | poll => simp [entersPoll, hs, hc] at hpoll
          | wakeup => exact wakes
          | inject => exact injects _
          | schedule | scheduleNop => exact schedules _
          | close timeout =>
              show ∀ event ∈ ((Consumer.close timeout).run s.consumer).events, event.isAside = true
              rw [Consumer.run_close, hc, if_neg Bool.false_ne_true]
              intro event he
              rw [List.mem_singleton.1 he]
              rfl
          | takeHandle | isClosed | bufferedCount | inspect | switch | drop => exact unmoved _ _

theorem quiet_buffer {s : Session τ} {step : Step}
    (h : step.request? = none ∨ s.dropped = true ∨ s.consumer.isClosed = true) :
    (make s step).after.buffer = s.buffer ∧ (make s step).addsRecord = false := by
  have hgranted : (make s step).granted? = none := by
    cases hg : (make s step).granted? with
    | none => rfl
    | some r =>
        have hnone := accepted?_of_unreached h
        rw [accepted?_of_granted? hg] at hnone
        cases hnone
  have hbuffer := buffer_make s step
  rw [hgranted] at hbuffer
  exact ⟨hbuffer, by simp [addsRecord, hgranted]⟩

/-- A request on an open consumer adds a record if it is one that does and is granted. -/
theorem addsRecord_of_request {s : Session τ} (hs : s.dropped = false)
    (hc : s.consumer.isClosed = false) {step : Step} {r : Request} (hr : step.request? = some r) :
    (make s step).addsRecord =
      (r.adds && ((Client.handle r).run s.consumer.client).result.isOk) := by
  obtain ⟨hverdict, -⟩ := make_request hs hc hr
  have hsucceeded : (make s step).succeeded =
      ((Client.handle r).run s.consumer.client).result.isOk := by
    rw [succeeded, hverdict]
    cases ((Client.handle r).run s.consumer.client).result <;> rfl
  cases step with
  | request r' =>
      cases hr
      cases hok : ((Client.handle r).run s.consumer.client).result.isOk <;>
        simp [addsRecord, granted?, hsucceeded, hok]
  | subscribePattern text listener =>
      obtain ⟨pattern, -, rfl⟩ := Option.map_eq_some_iff.1 hr
      rfl
  | _ => cases hr

/-! ## One deed -/

/-- A poll that finds the consumer open is counted, and a task that it starts is logged and counted.
    -/
theorem make_poll {s : Session τ} (hs : s.dropped = false) (hc : s.consumer.isClosed = false) :
    (make s .poll).after.buffer = s.buffer ∧ (make s .poll).verdict? = none ∧
      (make s .poll).events = .counted .polls 1 ::
        if s.consumer.tasks.isEmpty then [] else [.logged .taskStarted, .counted .tasksRun 1] := by
  simp only [after, verdict?, events, Session.turn_of_not_dropped hs, Session.beginPoll,
    Consumer.run_beginPoll, hc, Bool.false_eq_true, if_false]
  cases s.consumer.tasks <;> exact ⟨rfl, rfl, rfl⟩

/-- What a deed makes known, against what it does. -/
structure Booked (d : Deed τ) : Prop where
  /-- What was buffered and what is added is what has left the buffer and what is in it still. -/
  records : d.before.consumer.bufferedCount + (if d.addsRecord then 1 else 0) =
    releasedTotal d.events + d.after.consumer.bufferedCount
  /-- What is counted as delivered is what the batch has. -/
  delivered : Counter.deliveredRecords.total d.events = (d.batch?.map Batch.count).getD 0
  /-- A poll is counted if it finds the consumer open, and it is not answered then. -/
  begun : Counter.polls.total d.events = if d.entersPoll then 1 else 0
  unanswered : d.verdict? = none ↔ d.entersPoll = true
  /-- The end of a poll meets a signal that is counted, or it ends in one of three other ways. -/
  ended : Counter.wakeups.total d.events + Counter.injectedErrors.total d.events
    + (if d.returnsBatch then 1 else 0) + (if d.failsLate then 1 else 0)
    + (if d.findsClosed then 1 else 0) = if d.endsPoll then 1 else 0

theorem booked_request (hT : Tracker.Discreet τ) {s : Session τ} (hs : s.dropped = false)
    (hc : s.consumer.isClosed = false) {step : Step} {r : Request} (hr : step.request? = some r) :
    (make s step).Booked := by
  obtain ⟨hverdict, hafter, hevents⟩ := make_request hs hc hr
  obtain ⟨htotal, hrecords⟩ := Client.balance_handle hT r s.consumer.client
  have henters : (make s step).entersPoll = false := by
    cases step with
    | poll => cases hr
    | _ => rfl
  constructor
  · rw [hafter, hevents, addsRecord_of_request hs hc hr, releasedTotal, htotal, htotal,
      Nat.zero_add]
    exact hrecords
  · rw [hevents, htotal, batch?_make]
    rfl
  · rw [hevents, htotal, henters]
    rfl
  · simp [hverdict, henters]
  · rw [hevents, htotal, htotal]
    rfl

theorem booked_poll {s : Session τ} (hs : s.dropped = false) (hc : s.consumer.isClosed = false) :
    (make s .poll).Booked := by
  obtain ⟨hbuffer, hverdict, hevents⟩ := make_poll hs hc
  have henters : (make s .poll).entersPoll = true := by simp [entersPoll, hs, hc]
  have hcount : (make s .poll).after.consumer.bufferedCount = s.consumer.bufferedCount :=
    congrArg recordCount hbuffer
  constructor
  · rw [hcount, hevents]
    cases s.consumer.tasks.isEmpty <;> exact (Nat.zero_add _).symm
  · rw [hevents, batch?_make]
    cases s.consumer.tasks.isEmpty <;> rfl
  · rw [hevents, henters]
    cases s.consumer.tasks.isEmpty <;> rfl
  · simp [hverdict, henters]
  · rw [hevents]
    cases s.consumer.tasks.isEmpty <;> rfl

theorem booked_quiet {s : Session τ} {step : Step}
    (h : step.request? = none ∨ s.dropped = true ∨ s.consumer.isClosed = true)
    (hpoll : (make s step).entersPoll = false) : (make s step).Booked := by
  obtain ⟨answer, hanswer⟩ := answered_of_not_entersPoll hpoll
  obtain ⟨hbuffer, hadds⟩ := quiet_buffer h
  have hidle : Idle (make s step).events := idle_of_asides (quiet_events h hpoll)
  have hcount : (make s step).after.consumer.bufferedCount = s.consumer.bufferedCount :=
    congrArg recordCount hbuffer
  constructor
  · rw [hcount, hadds, hidle.releasedTotal_eq, Nat.zero_add]
    rfl
  · rw [hidle.1, batch?_make]
    rfl
  · rw [hidle.1, hpoll]
    rfl
  · simp [verdict?, hanswer, hpoll]
  · rw [hidle.1, hidle.1]
    rfl

theorem booked_make (hT : Tracker.Discreet τ) (s : Session τ) (step : Step) :
    (make s step).Booked := by
  by_cases h : step.request? = none ∨ s.dropped = true ∨ s.consumer.isClosed = true
  · cases hpoll : (make s step).entersPoll with
    | false => exact booked_quiet h hpoll
    | true =>
        obtain ⟨s', he, hs, hc⟩ := eq_poll_of_entersPoll hpoll
        cases he
        exact booked_poll hs hc
  · rw [not_or, not_or, Bool.not_eq_true, Bool.not_eq_true] at h
    obtain ⟨hsome, hs, hc⟩ := h
    obtain ⟨r, hr⟩ := Option.ne_none_iff_exists'.1 hsome
    exact booked_request hT hs hc hr

theorem events_endPoll (s : Session τ) (visiting : Visiting (List Record))
    (shown : Option (List Answer)) :
    (endPoll s visiting shown).events =
      if s.consumer.isClosed then []
      else if s.consumer.signals.wakeup then [.logged .wokenUp, .counted .wakeups 1]
      else if s.consumer.signals.injected.isSome then [.counted .injectedErrors 1]
      else ((Client.fetch visiting).run s.consumer.client).events := by
  simp only [events, Session.endPoll, Consumer.run_endPoll]
  split
  · rfl
  · rw [Action.run_bind, Consumer.run_obeySignals]
    cases hw : s.consumer.signals.wakeup with
    | true => rfl
    | false => cases hi : s.consumer.signals.injected <;> rfl

/-- The end of a poll that looks for records fails or returns a batch. -/
theorem booked_of_fetchesNow (hT : Tracker.Discreet τ) {s : Session τ}
    (hf : s.consumer.fetchesNow = true) (visiting : Visiting (List Record))
    (shown : Option (List Answer)) : (endPoll s visiting shown).Booked := by
  obtain ⟨hc, hw, hi⟩ := Consumer.fetchesNow_iff.1 hf
  obtain ⟨hrecords, hdelivered, hother⟩ := Client.balance_fetch hT visiting s.consumer.client
  obtain ⟨hres, hstate⟩ := Consumer.run_endPoll_of_fetchesNow visiting hf
  have hevents : (endPoll s visiting shown).events =
      ((Client.fetch visiting).run s.consumer.client).events := by
    simp [events_endPoll, hc, hw, hi]
  have hafter : (endPoll s visiting shown).after.consumer.bufferedCount =
      recordCount ((Client.fetch visiting).run s.consumer.client).state.buffer := by
    simp only [after, Session.endPoll, hstate, Consumer.bufferedCount]
  constructor
  · rw [hevents, hafter]
    exact hrecords
  · rw [hevents, batch?_endPoll, hres]
    exact hdelivered
  · rw [hevents]
    exact hother _ (by simp) (by simp)
  · simp [verdict?, entersPoll]
  · have hclosed : (endPoll s visiting shown).findsClosed = false := hc
    have hlate : (endPoll s visiting shown).failsLate = (endPoll s visiting shown).failed := by
      simp [failsLate, endsPoll, before, hf]
    have hfailed : (endPoll s visiting shown).failed = !(endPoll s visiting shown).succeeded := rfl
    rw [hevents, hother _ (by simp) (by simp), hother _ (by simp) (by simp), hclosed, hlate,
      hfailed, returnsBatch]
    cases (endPoll s visiting shown).succeeded <;> rfl

/-- The end of a poll that does not look for records has met a signal or a closed consumer. -/
theorem booked_of_not_fetchesNow {s : Session τ} (hf : s.consumer.fetchesNow = false)
    (visiting : Visiting (List Record)) (shown : Option (List Answer)) :
    (endPoll s visiting shown).Booked := by
  obtain ⟨f, hres, hstate⟩ := Consumer.run_endPoll_of_not_fetchesNow visiting hf
  have hafter : (endPoll s visiting shown).after.consumer.bufferedCount =
      s.consumer.bufferedCount := by
    simp only [after, Session.endPoll, hstate, Consumer.bufferedCount]
  have hbatch : (endPoll s visiting shown).batch? = none := by
    rw [batch?_endPoll, hres]
    rfl
  have hreturns : (endPoll s visiting shown).returnsBatch = false := by
    simp [returnsBatch, succeeded, verdict?, Session.endPoll, hres, Answer.verdict,
      Verdict.ofResult, Verdict.isOk]
  have hlate : (endPoll s visiting shown).failsLate = false := by
    simp [failsLate, before, hf]
  have hclosed : (endPoll s visiting shown).findsClosed = s.consumer.isClosed := rfl
  have hcounts : releasedTotal (endPoll s visiting shown).events = 0 ∧
      Counter.deliveredRecords.total (endPoll s visiting shown).events = 0 ∧
      Counter.polls.total (endPoll s visiting shown).events = 0 ∧
      Counter.wakeups.total (endPoll s visiting shown).events
        + Counter.injectedErrors.total (endPoll s visiting shown).events
        + (if s.consumer.isClosed then 1 else 0) = 1 := by
    rw [events_endPoll]
    cases hc : s.consumer.isClosed with
    | true => exact ⟨rfl, rfl, rfl, rfl⟩
    | false =>
        cases hw : s.consumer.signals.wakeup with
        | true => exact ⟨rfl, rfl, rfl, rfl⟩
        | false =>
            cases hi : s.consumer.signals.injected with
            | some f => exact ⟨rfl, rfl, rfl, rfl⟩
            | none =>
                -- then the poll would look for records
                rw [Consumer.fetchesNow_iff.2 ⟨hc, hw, hi⟩] at hf
                cases hf
  obtain ⟨hreleased, hdelivered, hpolls, hstopped⟩ := hcounts
  constructor
  · rw [hafter, hreleased, Nat.zero_add]
    rfl
  · rw [hdelivered, hbatch]
    rfl
  · exact hpolls
  · simp [verdict?, entersPoll]
  · rw [hreturns, hlate, hclosed]
    exact hstopped

theorem booked (hT : Tracker.Discreet τ) (d : Deed τ) : d.Booked := by
  cases d with
  | make s step => exact booked_make hT s step
  | endPoll s visiting shown =>
      cases hf : s.consumer.fetchesNow with
      | true => exact booked_of_fetchesNow hT hf visiting shown
      | false => exact booked_of_not_fetchesNow hf visiting shown

end Deed

namespace Run

/-! ## Polls that wait -/

/-- A poll that is not answered waits, and the end of a poll ends the one that began last. -/
theorem length_waiting {r r' : Run τ} {d : Deed τ} (hd : r.deed? = some d)
    (hn : r.next? = some r') :
    r'.waiting.length + (if d.endsPoll then 1 else 0) =
      r.waiting.length + if d.verdict?.isNone then 1 else 0 := by
  rcases r with ⟨session, _ | ⟨step, rest⟩, answers, waiting, events⟩
  · rcases waiting with _ | ⟨w, waiting⟩
    · simp [next?] at hn
    · simp only [deed?, Option.some.injEq] at hd
      simp only [next?, Option.some.injEq] at hn
      subst hd hn
      rfl
  · simp only [deed?, Option.some.injEq] at hd
    simp only [next?, Option.some.injEq] at hn
    subst hd hn
    cases hturn : (session.turn step).turn with
    | answered answer => simp [Deed.verdict?, Deed.endsPoll, hturn]
    | polling task => simp [Deed.verdict?, Deed.endsPoll, hturn]

/-- Once a consumer is dropped and no poll waits, its client stays as it is. -/
theorem client_of_dropped {r : Run τ} (hdropped : r.session.dropped = true)
    (hwaiting : r.waiting = []) (n : Nat) :
    (r.ahead n).session.consumer.client = r.session.consumer.client := by
  suffices h : (r.ahead n).session.dropped = true ∧ (r.ahead n).waiting = [] ∧
      (r.ahead n).session.consumer.client = r.session.consumer.client from h.2.2
  refine carries_moves (P := fun _ r' => r'.session.dropped = true ∧ r'.waiting = [] ∧
    r'.session.consumer.client = r.session.consumer.client) ?_ ⟨hdropped, hwaiting, rfl⟩ n
  rintro ds ⟨session, todo, answers, waiting, events⟩ r₂ d hd hn ⟨hd₁, hw₁, hc₁⟩
  subst hw₁
  cases todo with
  | nil => simp [deed?] at hd
  | cons step rest =>
      have hs : session.dropped = true := hd₁
      have henters : (Deed.make session step).entersPoll = false := by
        cases step <;> simp [Deed.entersPoll, hs]
      obtain ⟨answer, hturn⟩ := Deed.answered_of_not_entersPoll henters
      simp only [next?, hturn, Option.some.injEq] at hn
      subst hn
      exact ⟨Session.dropped_turn hs step, rfl,
        (Session.client_turn_of_dropped hs step).trans hc₁⟩

/-- So what is buffered when a consumer is dropped, between two polls, stays buffered. -/
theorem bufferedCount_of_drop {r : Run τ} {s : Session τ}
    (hd : r.deed? = some (.make s .drop)) (hwaiting : r.waiting = []) (n : Nat) :
    (r.ahead n).session.consumer.bufferedCount = r.session.consumer.bufferedCount := by
  obtain ⟨r', hn⟩ := next?_of_deed? hd
  have hafter : (Deed.make s .drop).after = r'.session := after_of_deed? hd hn
  have hbefore : s = r.session := before_of_deed? hd
  have hclient : r'.session.dropped = true ∧
      r'.session.consumer.client = r.session.consumer.client := by
    rw [← hafter, ← hbefore]
    cases hs : s.dropped with
    | true => exact ⟨Session.dropped_turn hs .drop, Session.client_turn_of_dropped hs .drop⟩
    | false =>
        simp only [Deed.after, Session.turn_of_not_dropped hs]
        exact ⟨rfl, rfl⟩
  have hwaiting' : r'.waiting = [] := by
    have hsilent : (Deed.make s .drop).entersPoll = false := rfl
    obtain ⟨answer, hturn⟩ := Deed.answered_of_not_entersPoll hsilent
    have hlength := length_waiting hd hn
    simp only [Deed.verdict?, hturn, Deed.endsPoll, hwaiting] at hlength
    simpa using hlength
  cases n with
  | zero => rfl
  | succ n =>
      unfold Consumer.bufferedCount
      rw [ahead_succ hn, client_of_dropped hclient.1 hwaiting' n, hclient.2]

/-! ## The books -/

/-- What a run has made known, against the deeds by which it got there. -/
structure Balanced (ds : List (Deed τ)) (r : Run τ) : Prop where
  /-- Every record that was added has been delivered, discarded or dropped by a rebalance, or it is
      buffered. -/
  records : ds.countP Deed.addsRecord = Counter.deliveredRecords.total r.events
    + Counter.discardedRecords.total r.events + revokedTotal r.events
    + r.session.consumer.bufferedCount
  /-- What is buffered when the consumer is dropped, between two polls, stays so. -/
  kept : ∀ s, r.deed? = some (.make s .drop) → r.waiting = [] →
    ∀ n, (r.ahead n).session.consumer.bufferedCount = r.session.consumer.bufferedCount
  /-- The records delivered are those of the batches. -/
  delivered : Counter.deliveredRecords.total r.events =
    ((ds.filterMap Deed.batch?).map Batch.count).sum
  /-- Every poll that began has met a signal, or returned a batch, or failed after it had looked at
      the signals, or found that its task had closed the consumer, or it waits for its task. -/
  polls : Counter.polls.total r.events = Counter.wakeups.total r.events
    + Counter.injectedErrors.total r.events + ds.countP Deed.returnsBatch
    + ds.countP Deed.failsLate + ds.countP Deed.findsClosed + r.waiting.length

end Run

namespace Deed

/-! ## Sums over deeds -/

theorem total_events_cons (counter : Counter) (d : Deed τ) (ds : List (Deed τ)) :
    counter.total ((d :: ds).flatMap events) =
      counter.total d.events + counter.total (ds.flatMap events) := by
  rw [List.flatMap_cons, Counter.total_append]

theorem sum_delivered (hT : Tracker.Discreet τ) (ds : List (Deed τ)) :
    Counter.deliveredRecords.total (ds.flatMap events) =
      ((ds.filterMap batch?).map Batch.count).sum := by
  induction ds with
  | nil => rfl
  | cons d ds ih =>
      rw [total_events_cons, (d.booked hT).delivered, ih]
      cases hb : d.batch? with
      | none => simp [hb]
      | some b => simp [hb]

theorem sum_begun (hT : Tracker.Discreet τ) (ds : List (Deed τ)) :
    Counter.polls.total (ds.flatMap events) = ds.countP entersPoll := by
  induction ds with
  | nil => rfl
  | cons d ds ih => rw [total_events_cons, (d.booked hT).begun, ih, List.countP_cons, Nat.add_comm]

theorem sum_ended (hT : Tracker.Discreet τ) (ds : List (Deed τ)) :
    Counter.wakeups.total (ds.flatMap events) + Counter.injectedErrors.total (ds.flatMap events)
      + ds.countP returnsBatch + ds.countP failsLate + ds.countP findsClosed =
        ds.countP endsPoll := by
  induction ds with
  | nil => rfl
  | cons d ds ih =>
      have hone := (d.booked hT).ended
      simp only [total_events_cons, List.countP_cons]
      omega

end Deed

namespace History

variable {tracker : τ} {ds : List (Deed τ)} {r : Run τ}

/-- The polls that began are those that have ended and those that wait for their tasks. -/
theorem begun_eq (hT : Tracker.Discreet τ) (h : History tracker ds r) :
    ds.countP Deed.entersPoll = ds.countP Deed.endsPoll + r.waiting.length := by
  refine h.carries_moves (P := fun ds r =>
    ds.countP Deed.entersPoll = ds.countP Deed.endsPoll + r.waiting.length) ?_ ?_
  · intro visits catalog timeout script
    rfl
  · intro ds r r' d hd hn ih
    have hwaiting := Run.length_waiting hd hn
    have henters : d.verdict?.isNone = d.entersPoll := by
      rw [Bool.eq_iff_iff, Option.isNone_iff_eq_none]
      exact (d.booked hT).unanswered
    rw [henters] at hwaiting
    simp only [List.countP_append, List.countP_singleton]
    omega

theorem balanced (hT : Tracker.Discreet τ) (h : History tracker ds r) : r.Balanced ds := by
  have hrecords : ds.countP Deed.addsRecord =
      releasedTotal (ds.flatMap Deed.events) + r.session.consumer.bufferedCount := by
    refine h.carries (P := fun ds s => ds.countP Deed.addsRecord =
      releasedTotal (ds.flatMap Deed.events) + s.consumer.bufferedCount) ?_ ?_
    · intro catalog timeout
      rfl
    · intro ds d ih
      have hone := (d.booked hT).records
      simp only [List.countP_append, List.countP_singleton, List.flatMap_append,
        List.flatMap_singleton, releasedTotal_append]
      omega
  constructor
  · rw [h.events_eq]
    exact hrecords
  · intro s hdrop hwaiting n
    exact Run.bufferedCount_of_drop hdrop hwaiting n
  · rw [h.events_eq]
    exact Deed.sum_delivered hT ds
  · rw [h.events_eq, Deed.sum_begun hT, h.begun_eq hT, ← Deed.sum_ended hT]

/-- **The books of a session balance**, over a subscription and over a tracker with any faults,
    which may be switched at any time: at every moment of every history, inside tasks and polls too,
    what was counted and logged accounts for every record that was added and for every poll that
    began. -/
theorem books_balance :
    (∀ (tracker : Subscription) (ds : List (Deed Subscription)) (r : Run Subscription),
      History tracker ds r → r.Balanced ds) ∧
    (∀ (tracker : Faulty Subscription) (ds : List (Deed (Faulty Subscription)))
      (r : Run (Faulty Subscription)), History tracker ds r → r.Balanced ds) :=
  ⟨fun _ _ _ h => h.balanced Subscription.discreet,
    fun _ _ _ h => h.balanced (Faulty.discreet Subscription.discreet)⟩

end History

/-! ## A session with a fault -/

/-- A run over a tracker with faults. A poll drops the records of a partition that was given up and
    fails then, since it cannot move a position. The poll after it is aborted. A task polls, adds a
    record and closes. -/
def Run.pollsThatFail : Run (Faulty Subscription) :=
  Run.fresh (Faulty.around (Subscription.empty .earliest)) .empty ⟨30000⟩
    [.request (.assign {orders 0, orders 1}), .request (.seek (orders 0) 0),
      .request (.seek (orders 1) 0), .request (.addRecord (order 0 0)),
      .request (.addRecord (order 1 0)), .request (.addRecord (order 1 1)),
      .request (.assign {orders 0}), .switch (some (.refuse .setPosition)) true, .poll,
      .wakeup .handle, .poll, .switch (some (.refuse .setPosition)) false,
      .schedule .owner [.poll, .request (.addRecord (order 0 1)), .close none], .poll, .drop]

/-- Of its four records two were discarded, one was delivered and one is buffered; of its four polls
    one failed late, one was aborted, one returned a batch, and one found the consumer closed. -/
theorem Run.pollsThatFail_balanced :
    (Run.pollsThatFail.ahead 22).Balanced (Run.pollsThatFail.deeds 22) ∧
    (Run.pollsThatFail.deeds 22).countP Deed.addsRecord = 4 ∧
    Counter.discardedRecords.total (Run.pollsThatFail.ahead 22).events = 2 ∧
    Counter.deliveredRecords.total (Run.pollsThatFail.ahead 22).events = 1 ∧
    (Run.pollsThatFail.ahead 22).session.consumer.bufferedCount = 1 ∧
    Counter.polls.total (Run.pollsThatFail.ahead 22).events = 4 ∧
    Counter.wakeups.total (Run.pollsThatFail.ahead 22).events = 1 ∧
    (Run.pollsThatFail.deeds 22).countP Deed.failsLate = 1 ∧
    (Run.pollsThatFail.deeds 22).countP Deed.returnsBatch = 1 ∧
    (Run.pollsThatFail.deeds 22).countP Deed.findsClosed = 1 := by
  refine ⟨History.books_balance.2 _ _ _ (.of_moves ..), ?_⟩
  decide +kernel

end ScriptedConsumer
