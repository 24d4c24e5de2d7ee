import ScriptedConsumer.Session.Turn

set_option autoImplicit false

/-! # Turns, said once

What a step does depends first on whether the consumer is still there. As long as it is, a
handle's call is like the owner's, and `turn_of_not_dropped` lists what each step amounts to. Once
it has been dropped, only the signals can still be reached, and only through a handle. On a closed
consumer every call is refused: `turn_call_of_closed`. -/

namespace ScriptedConsumer

/-! ## Calls among the steps -/

namespace Step

/-- Who makes the step. Only what reaches the signals or the queue can be done through a handle. -/
def party : Step → Party
  | .wakeup party | .inject party _ | .schedule party _ | .scheduleNop party => party
  | _ => .owner

/-- Whether the step is a call that can be refused. A text that is no pattern never gets as far as
    a call. -/
def isCall [Pattern.Dialect] : Step → Bool
  | .request _ | .poll | .wakeup _ | .inject .. | .schedule .. | .scheduleNop _ | .close _ => true
  | .subscribePattern text _ => (Pattern.compile? text).isSome
  | .takeHandle | .isClosed | .bufferedCount | .inspect | .switch .. | .drop => false

/-- The task that the step puts into the queue of an open consumer. -/
def task? : Step → Option Task
  | .schedule _ body => some (.script body)
  | .scheduleNop _ => some .nop
  | _ => none

/-- Whether the step schedules a task. -/
def schedules (step : Step) : Bool := step.task?.isSome

end Step

namespace Session

variable {τ : Type}

/-- Whether there is somebody to make the step on: the consumer, or else a handle of it. -/
def reaches (s : Session τ) (step : Step) : Bool := !s.dropped || step.party = .handle

/-! ## Steps before and after a drop -/

theorem owned_of_not_dropped {s : Session τ} (h : s.dropped = false) (moved : Moved τ) :
    s.owned moved = moved := by
  simp only [owned, h, Bool.false_eq_true, if_false]

theorem owned_of_dropped {s : Session τ} (h : s.dropped = true) (moved : Moved τ) :
    s.owned moved = s.unmoved .dropped := by
  simp only [owned, h, if_true]

variable [Tracker τ] [Switchable τ] [Pattern.Dialect]

/-- What the steps on a consumer amount to that has not been dropped. -/
theorem turn_of_not_dropped {s : Session τ} (h : s.dropped = false) (step : Step) :
    s.turn step = match step with
      | .request r => s.attempt (takesCallback r) .reply (Consumer.request r)
      | .subscribePattern text listener =>
          match Pattern.compile? text with
          | none => s.unmoved .badPattern
          | some pattern =>
              s.attempt false .reply (Consumer.request (.subscribePattern pattern listener))
      | .poll => s.beginPoll
      | .wakeup _ => s.effect Consumer.wakeup
      | .inject _ f => s.effect (Consumer.inject f)
      | .schedule _ body => s.effect (Consumer.schedule (.script body))
      | .scheduleNop _ => s.effect (Consumer.schedule .nop)
      | .takeHandle => s.unmoved (.ok (.reply .done))
      | .close timeout => s.effect (Consumer.close timeout)
      | .isClosed => s.unmoved (.ok (.flag s.consumer.isClosed))
      | .bufferedCount => s.unmoved (.ok (.count s.consumer.bufferedCount))
      | .inspect => s.unmoved (.ok (.snapshot s.consumer.snapshot))
      | .switch fault on => (fault.elim s (s.switched · on)).unmoved (.ok (.reply .done))
      | .drop => s.afterDrop.unmoved (.ok (.reply .done)) := by
  cases step with
  | wakeup party | inject party _ =>
      cases party with
      | owner => exact owned_of_not_dropped h _
      | handle => rfl
  | schedule party _ | scheduleNop party =>
      cases party with
      | owner => exact owned_of_not_dropped h _
      | handle => simp only [turn, schedule, h, Bool.false_eq_true, if_false]
  | _ => exact owned_of_not_dropped h _

/-- Of a dropped consumer a step can reach the signals at most. -/
theorem turn_of_dropped {s : Session τ} (h : s.dropped = true) (step : Step) :
    s.turn step = match step with
      | .wakeup .handle => s.effect Consumer.wakeup
      | .inject .handle f => s.effect (Consumer.inject f)
      | .schedule .handle _ | .scheduleNop .handle => s.unmoved (.failed .closed)
      | _ => s.unmoved .dropped := by
  cases step with
  | wakeup party | inject party _ =>
      cases party with
      | owner => exact owned_of_dropped h _
      | handle => rfl
  | schedule party _ | scheduleNop party =>
      cases party with
      | owner => exact owned_of_dropped h _
      | handle => simp only [turn, schedule, h, if_true]
  | _ => exact owned_of_dropped h _

/-- Once dropped, a consumer stays so. -/
theorem dropped_turn {s : Session τ} (h : s.dropped = true) (step : Step) :
    (s.turn step).session.dropped = true := by
  rw [turn_of_dropped h]
  split
  all_goals exact h

/-- Whatever a step does to a consumer that has been dropped, it does to its signals. -/
theorem client_turn_of_dropped {s : Session τ} (h : s.dropped = true) (step : Step) :
    (s.turn step).session.consumer.client = s.consumer.client := by
  rw [turn_of_dropped h]
  split
  · show (Consumer.wakeup.run s.consumer).state.client = _
    rw [Consumer.run_wakeup]
    split <;> rfl
  · show ((Consumer.inject _).run s.consumer).state.client = _
    rw [Consumer.run_inject]
    split <;> rfl
  all_goals rfl

/-- Every step but a poll is answered at once. -/
theorem exists_answered {step : Step} (h : step ≠ .poll) (s : Session τ) :
    ∃ answer, (s.turn step).turn = .answered answer := by
  cases hs : s.dropped with
  | true =>
      rw [turn_of_dropped hs]
      split <;> exact ⟨_, rfl⟩
  | false =>
      rw [turn_of_not_dropped hs]
      cases step with
      | poll => exact absurd rfl h
      | subscribePattern text listener =>
          dsimp only
          split <;> exact ⟨_, rfl⟩
      | _ => exact ⟨_, rfl⟩

/-- A poll of a consumer that is closed or gone is refused at once and changes nothing. -/
theorem turn_poll_of_refused {s : Session τ} (h : s.dropped = true ∨ s.consumer.isClosed = true) :
    ∃ v, (v = .dropped ∨ v = .failed .closed) ∧ s.turn .poll = s.unmoved v := by
  cases hs : s.dropped with
  | true => exact ⟨.dropped, .inl rfl, turn_of_dropped hs .poll⟩
  | false =>
      have hclosed : s.consumer.isClosed = true := by simpa [hs] using h
      refine ⟨.failed .closed, .inr rfl, ?_⟩
      rw [turn_of_not_dropped hs]
      simp only [beginPoll, Consumer.run_beginPoll, if_pos hclosed]
      rfl

/-- A poll of an open consumer takes the task at the head of the queue, if there is one. -/
theorem turn_poll_of_open {s : Session τ} (hs : s.dropped = false)
    (hopen : s.consumer.isClosed = false) :
    (s.turn .poll).turn = .polling s.consumer.tasks.head? ∧
      (s.turn .poll).session =
        { s with consumer := { s.consumer with tasks := s.consumer.tasks.tail } } := by
  rw [turn_of_not_dropped hs]
  simp only [beginPoll, Consumer.run_beginPoll, hopen, Bool.false_eq_true, if_false]
  rcases s with ⟨⟨client, signals, tasks, timeout⟩, dropped⟩
  cases tasks <;> exact ⟨rfl, rfl⟩

/-! ## Closed for good -/

omit [Tracker τ] [Switchable τ] [Pattern.Dialect] in
/-- An operation that a closed consumer refuses is answered so, and it leaves the consumer as it
    is. -/
theorem attempt_of_closed {α : Type} {s : Session τ} (h : s.consumer.isClosed = true)
    (tookCallback : Bool) (display : α → Value) (act : Action (Consumer τ Task) α) :
    s.attempt tookCallback display (do Consumer.ensureOpen; act) =
      ⟨s, .answered (.of (.failed .closed) tookCallback none), []⟩ := by
  have hrun : (do Consumer.ensureOpen; act : Action (Consumer τ Task) α).run s.consumer =
      ⟨.error .closed, s.consumer, []⟩ := by
    rw [Consumer.run_ensureOpen_bind, if_pos h]
  simp only [attempt, hrun]
  rfl

/-- On a closed consumer every call is refused, and so is every call through a handle, also when
    the consumer is not there any more. -/
theorem turn_call_of_closed {s : Session τ} (h : s.consumer.isClosed = true) {step : Step}
    (hcall : step.isCall = true) (hreaches : s.reaches step = true) :
    ∃ tookCallback,
      s.turn step = ⟨s, .answered (.of (.failed .closed) tookCallback none), []⟩ := by
  cases hs : s.dropped with
  | true =>
      rw [turn_of_dropped hs]
      have hparty : step.party = .handle := by simpa [reaches, hs] using hreaches
      cases step with
      | wakeup party | inject party f =>
          cases hparty
          exact ⟨_, attempt_of_closed h _ _ _⟩
      | schedule party body | scheduleNop party =>
          cases hparty
          exact ⟨_, rfl⟩
      | _ => cases hparty
  | false =>
      rw [turn_of_not_dropped hs]
      cases step with
      | request | wakeup | inject | schedule | scheduleNop | close =>
          exact ⟨_, attempt_of_closed h _ _ _⟩
      | subscribePattern text listener =>
          obtain ⟨pattern, hp⟩ := Option.isSome_iff_exists.1 hcall
          simp only [hp]
          exact ⟨_, attempt_of_closed h _ _ _⟩
      | poll =>
          have hrun : Consumer.beginPoll.run s.consumer = ⟨.error .closed, s.consumer, []⟩ := by
            rw [Consumer.run_beginPoll, if_pos h]
          simp only [beginPoll, hrun]
          exact ⟨_, rfl⟩
      | takeHandle | isClosed | bufferedCount | inspect | switch | drop => cases hcall

/-- A step that is no call, or that reaches nobody, is answered without any effect, unless it
    switches a fault or drops the consumer. -/
theorem turn_of_not_call {s : Session τ} {step : Step}
    (h : ¬ (step.isCall = true ∧ s.reaches step = true)) :
    (∃ verdict, s.turn step = s.unmoved verdict) ∨
      (∃ fault on, step = .switch (some fault) on ∧
        s.turn step = (s.switched fault on).unmoved (.ok (.reply .done))) ∨
      step = .drop ∧ s.turn step = s.afterDrop.unmoved (.ok (.reply .done)) := by
  cases hs : s.dropped with
  | true =>
      refine Or.inl ?_
      rw [turn_of_dropped hs]
      cases step with
      | wakeup party | inject party _ | schedule party _ | scheduleNop party =>
          cases party with
          | owner => exact ⟨_, rfl⟩
          | handle => simp [Step.isCall, reaches, Step.party] at h
      | _ => exact ⟨_, rfl⟩
  | false =>
      have hreaches : s.reaches step = true := by simp [reaches, hs]
      rw [turn_of_not_dropped hs]
      cases step with
      | subscribePattern text listener =>
          cases hp : Pattern.compile? text with
          | none =>
              refine Or.inl ⟨.badPattern, ?_⟩
              simp only [hp]
          | some pattern => simp [Step.isCall, hp, hreaches] at h
      | switch fault on =>
          cases fault with
          | none => exact Or.inl ⟨_, rfl⟩
          | some fault => exact Or.inr (Or.inl ⟨fault, on, rfl, rfl⟩)
      | drop => exact Or.inr (Or.inr ⟨rfl, rfl⟩)
      | takeHandle | isClosed | bufferedCount | inspect => exact Or.inl ⟨_, rfl⟩
      | request | poll | wakeup | inject | schedule | scheduleNop | close =>
          exact absurd ⟨rfl, hreaches⟩ h

/-- On a closed consumer no step has any effect but switching faults and dropping it, and none
    makes anything known. -/
theorem turn_of_closed {s : Session τ} (h : s.consumer.isClosed = true) (step : Step) :
    (s.turn step).events = [] ∧
      ((s.turn step).session = s ∨
        (∃ fault on, step = .switch (some fault) on ∧
          (s.turn step).session = s.switched fault on) ∨
        step = .drop ∧ (s.turn step).session = s.afterDrop) := by
  by_cases hcall : step.isCall = true ∧ s.reaches step = true
  · obtain ⟨tookCallback, hturn⟩ := turn_call_of_closed h hcall.1 hcall.2
    rw [hturn]
    exact ⟨rfl, Or.inl rfl⟩
  · rcases turn_of_not_call hcall with ⟨verdict, hturn⟩ | ⟨fault, on, hstep, hturn⟩ | ⟨hstep, hturn⟩
    · rw [hturn]
      exact ⟨rfl, Or.inl rfl⟩
    · rw [hturn]
      exact ⟨rfl, Or.inr (Or.inl ⟨fault, on, hstep, rfl⟩)⟩
    · rw [hturn]
      exact ⟨rfl, Or.inr (Or.inr ⟨hstep, rfl⟩)⟩

/-- Once closed, a consumer stays so. -/
theorem isClosed_turn {s : Session τ} (h : s.consumer.isClosed = true) (step : Step) :
    (s.turn step).session.consumer.isClosed = true := by
  rcases (turn_of_closed h step).2 with he | ⟨fault, on, -, he⟩ | ⟨-, he⟩
  · rw [he]
    exact h
  · rw [he]
    exact h
  · rw [he]
    exact h

omit [Switchable τ] [Pattern.Dialect] in
/-- A poll of a consumer that its task has closed ends as refused. -/
theorem endPoll_of_closed {s : Session τ} (h : s.consumer.isClosed = true)
    (visiting : Visiting (List Record)) (shown : Option (List Answer)) :
    s.endPoll visiting shown = (s, .of (.failed .closed) false shown, []) := by
  have hrun : (Consumer.endPoll visiting).run s.consumer = ⟨.error .closed, s.consumer, []⟩ := by
    rw [Consumer.run_endPoll, if_pos h]
  simp only [endPoll, hrun]
  rfl

end Session

end ScriptedConsumer
