import Mathlib.Data.List.Basic
import ScriptedConsumer.Proofs.Histories

set_option autoImplicit false

/-! # Poll tasks

Every task that was scheduled is either still in the queue or has been started, once, and in the
order in which it was scheduled. This is an invariant of deeds rather than of scripts: a task is
started by the deed that begins a poll, whoever polls, and the steps of the task are deeds of their
own. -/

namespace ScriptedConsumer

variable {τ : Type} [Tracker τ] [Switchable τ]

namespace Deed

/-! ## The queue and one deed -/

/-- The task that a call put into the queue, if the deed is such a call and it succeeded. -/
def scheduled (d : Deed τ) : Option Task :=
  match d with
  | make _ (.schedule _ body) => if d.succeeded then some (.script body) else none
  | make _ (.scheduleNop _) => if d.succeeded then some .nop else none
  | _ => none

/-- Whether the deed closes the consumer or drops it. -/
def shutsDown (d : Deed τ) : Bool :=
  match d with
  | make _ (.close _) => d.succeeded
  | make _ .drop => d.succeeded
  | _ => false

omit [Tracker τ] [Switchable τ] in
/-- Whether the deed is a poll that finds the consumer open. -/
def entersPoll : Deed τ → Bool
  | make s .poll => !s.dropped && !s.consumer.isClosed
  | _ => false

omit [Tracker τ] [Switchable τ] in
theorem eq_poll_of_entersPoll {d : Deed τ} (h : d.entersPoll = true) :
    ∃ s, d = make s .poll ∧ s.dropped = false ∧ s.consumer.isClosed = false := by
  cases d with
  | endPoll s visiting shown => simp [entersPoll] at h
  | make s step =>
      cases step with
      | poll =>
          simp only [entersPoll, Bool.and_eq_true, Bool.not_eq_true'] at h
          exact ⟨s, rfl, h⟩
      | _ => simp [entersPoll] at h

/-- A step that enters no poll is answered at once. -/
theorem answered_of_not_entersPoll {s : Session τ} {step : Step}
    (h : (make s step).entersPoll = false) : ∃ answer, (s.turn step).turn = .answered answer := by
  by_cases hstep : step = .poll
  · subst hstep
    have hrefused : s.dropped = true ∨ s.consumer.isClosed = true := by
      simp only [entersPoll, Bool.and_eq_false_iff, Bool.not_eq_false'] at h
      exact h
    obtain ⟨v, -, hturn⟩ := Session.turn_poll_of_refused hrefused
    rw [hturn]
    exact ⟨_, rfl⟩
  · exact Session.exists_answered hstep s

/-- A deed may put one task at the end of the queue, or start the one at its head. -/
theorem tasks_after (d : Deed τ) (h : d.after.dropped = false) :
    d.before.consumer.tasks ++ d.scheduled.toList =
      d.started.toList ++ d.after.consumer.tasks := by
  cases d with
  | endPoll s visiting shown =>
      show s.consumer.tasks ++ [] = ((Consumer.endPoll visiting).run s.consumer).state.tasks
      rw [Consumer.tasks_endPoll, List.append_nil]
  | make s step =>
      have hs : s.dropped = false := dropped_before h
      have hturn := Session.turn_of_not_dropped hs step
      -- one case for each kind of step; only scheduling, polling and dropping reach the queue
      simp only [scheduled, succeeded, verdict?, started, after, before, hturn]
      cases step with
      | schedule party body | scheduleNop party =>
          simp only [Session.effect, Session.attempt, Consumer.run_schedule, Answer.verdict]
          cases s.consumer.isClosed <;> simp [Verdict.ofResult, Verdict.isOk]
      | poll =>
          simp only [Session.beginPoll, Consumer.run_beginPoll]
          cases hc : s.consumer.isClosed with
          | true => simp
          | false => cases ht : s.consumer.tasks <;> simp [ht]
      | request r => simp [Session.attempt, Run.tasks_request]
      | subscribePattern text listener =>
          dsimp only
          cases Pattern.compile? text <;> simp [Session.unmoved, Session.attempt, Run.tasks_request]
      | wakeup party =>
          simp only [Session.effect, Session.attempt, Consumer.run_wakeup]
          split <;> simp
      | inject party f =>
          simp only [Session.effect, Session.attempt, Consumer.run_inject]
          split <;> simp
      | close timeout =>
          simp only [Session.effect, Session.attempt, Consumer.run_close]
          split <;> simp
      | switch fault on => cases fault <;> simp [Session.unmoved, Session.switched]
      | drop =>
          simp only [after, hturn, Session.unmoved, Session.afterDrop, Bool.true_eq_false] at h
      | takeHandle | isClosed | bufferedCount | inspect => simp [Session.unmoved]

/-- A task is started by a poll that finds the consumer open, and it is the one at the head of the
    queue. Signals that are armed make no difference. -/
theorem started_eq (d : Deed τ) :
    d.started = if d.entersPoll then d.before.consumer.tasks.head? else none := by
  cases henters : d.entersPoll with
  | true =>
      obtain ⟨s, rfl, hs, hopen⟩ := eq_poll_of_entersPoll henters
      simp only [started, (Session.turn_poll_of_open hs hopen).1]
      rfl
  | false =>
      cases d with
      | endPoll s visiting shown => rfl
      | make s step =>
          obtain ⟨answer, hanswer⟩ := answered_of_not_entersPoll henters
          simp only [started, hanswer]
          rfl

/-- The task that is started leaves the queue. -/
theorem tasks_of_started {d : Deed τ} {task : Task} (h : d.started = some task) :
    d.before.consumer.tasks = task :: d.after.consumer.tasks := by
  rw [started_eq] at h
  split at h
  · next hp =>
      obtain ⟨s, rfl, hd, hc⟩ := eq_poll_of_entersPoll hp
      simp only [before, after, Session.turn_of_not_dropped hd, Session.beginPoll,
        Consumer.run_beginPoll, hc] at h ⊢
      cases ht : s.consumer.tasks with
      | nil => simp [ht] at h
      | cons first rest => simpa [ht] using h
  · cases h

theorem shut_of_shutsDown {d : Deed τ} (h : d.shutsDown = true) :
    d.after.consumer.isClosed = true ∨ d.after.dropped = true := by
  cases d with
  | endPoll s visiting shown => simp [shutsDown] at h
  | make s step =>
      cases hs : s.dropped with
      | true => exact Or.inr (Session.dropped_turn hs step)
      | false =>
          have hturn := Session.turn_of_not_dropped hs step
          cases step with
          | drop =>
              refine Or.inr ?_
              simp only [after, hturn]
              rfl
          | close timeout =>
              refine Or.inl ?_
              simp only [after, hturn, Session.effect, Session.attempt, Consumer.run_close]
              split
              · next hclosed => exact hclosed
              · rfl
          | _ => simp [shutsDown] at h

/-- A deed that shuts the consumer down, or finds it shut down, leaves it so. -/
theorem shut_after {d : Deed τ}
    (h : d.shutsDown = true ∨ d.before.consumer.isClosed = true ∨ d.before.dropped = true) :
    d.after.consumer.isClosed = true ∨ d.after.dropped = true := by
  rcases h with h | h | h
  · exact shut_of_shutsDown h
  · exact Or.inl (isClosed_after h)
  · refine Or.inr ?_
    cases hd : d.after.dropped with
    | true => rfl
    | false =>
        rw [dropped_before hd] at h
        cases h

/-- No task is started on a consumer that is shut down. -/
theorem started_of_shut {d : Deed τ}
    (h : d.before.consumer.isClosed = true ∨ d.before.dropped = true) : d.started = none := by
  rw [started_eq, if_neg]
  intro hp
  obtain ⟨s, rfl, hd, hc⟩ := eq_poll_of_entersPoll hp
  rcases h with h | h
  · exact absurd (h.symm.trans hc) (by simp)
  · exact absurd (h.symm.trans hd) (by simp)

end Deed

/-! ## The queue over a history -/

namespace History

variable {tracker : τ} {ds : List (Deed τ)} {r : Run τ}

/-- The tasks started so far and those in the queue are the tasks scheduled so far. -/
theorem started_append_tasks (h : History tracker ds r) (hr : r.session.dropped = false) :
    ds.filterMap Deed.started ++ r.session.consumer.tasks = ds.filterMap Deed.scheduled := by
  have hbalance : ds.flatMap (fun d => d.scheduled.toList)
      = ds.flatMap (fun d => d.started.toList) ++ r.session.consumer.tasks :=
    h.balance (·.dropped = false) (·.consumer.tasks) (fun _ _ => rfl)
      (fun _ => Deed.dropped_before) Deed.tasks_after hr
  rw [List.filterMap_eq_flatMap_toList, List.filterMap_eq_flatMap_toList, hbalance]

/-- After a deed that shut the consumer down no task is started. -/
theorem pairwise_started (h : History tracker ds r) :
    ds.Pairwise fun d d' => d.shutsDown = true → d'.started = none := by
  -- carried along with it: once a deed has shut the consumer down, it is shut down
  have hboth : ((∃ d ∈ ds, d.shutsDown = true) →
        r.session.consumer.isClosed = true ∨ r.session.dropped = true) ∧
      ds.Pairwise fun d d' => d.shutsDown = true → d'.started = none := by
    refine h.carries (P := fun ds s =>
      ((∃ d ∈ ds, d.shutsDown = true) → s.consumer.isClosed = true ∨ s.dropped = true) ∧
        ds.Pairwise fun d d' => d.shutsDown = true → d'.started = none) ?_ ?_
    · intro catalog timeout
      simp
    · rintro ds d ⟨hshut, ih⟩
      constructor
      · rintro ⟨d', hd', hs⟩
        rcases List.mem_append.1 hd' with hd' | hd'
        · exact Deed.shut_after (Or.inr (hshut ⟨d', hd', hs⟩))
        · rw [List.mem_singleton.1 hd'] at hs
          exact Deed.shut_after (Or.inl hs)
      · refine List.pairwise_append.2 ⟨ih, List.pairwise_singleton _ _, ?_⟩
        intro d' hd' e he hs
        rw [List.mem_singleton.1 he]
        exact Deed.started_of_shut (hshut ⟨d', hd', hs⟩)
  exact hboth.2

/-- **Poll tasks run once each, in the order in which they were scheduled, one for each poll.**
    While the consumer is there, the tasks started so far followed by those in the queue are the
    tasks whose scheduling succeeded. A task is started by a poll that finds the consumer open, and
    it is the one at the head of the queue; the run goes on with its steps. Nothing is started any
    more once the consumer has been closed or dropped. -/
theorem tasks_run_once_in_order (h : History tracker ds r) :
    (r.session.dropped = false →
      ds.filterMap Deed.started ++ r.session.consumer.tasks = ds.filterMap Deed.scheduled) ∧
    (∀ d ∈ ds, d.started = if d.entersPoll then d.before.consumer.tasks.head? else none) ∧
    (∀ d task r', r.deed? = some d → r.next? = some r' → d.started = some task →
      r'.todo = task.body ∧ r.session.consumer.tasks = task :: r'.session.consumer.tasks) ∧
    ds.Pairwise fun d d' => d.shutsDown = true → d'.started = none := by
  refine ⟨h.started_append_tasks, ?_, ?_, h.pairwise_started⟩
  · intro d _
    exact d.started_eq
  · intro d task r' hd hn hs
    refine ⟨Run.todo_of_started hd hn hs, ?_⟩
    rw [← Run.before_of_deed? hd, ← Run.after_of_deed? hd hn]
    exact Deed.tasks_of_started hs

end History

/-! ## A task that polls -/

/-- A run whose first task schedules a task, polls and closes. -/
def Run.taskThatPolls : Run Subscription :=
  Run.fresh (Subscription.empty .earliest) .empty ⟨30000⟩
    [.schedule .owner [.schedule .handle [.isClosed], .poll, .close none], .scheduleNop .handle,
      .poll, .poll]

/-- Four moves into the run its first task is about to poll. The task that this inner poll starts is
    the one scheduled second, and the run goes on with it. Nine moves into the run the consumer is
    closed, and the task scheduled last is never started. -/
theorem Run.taskThatPolls_in_order :
    ((Run.taskThatPolls.deeds 4).filterMap Deed.started ++ [.nop, .script [.isClosed]] =
        (Run.taskThatPolls.deeds 4).filterMap Deed.scheduled ∧
      (Run.taskThatPolls.ahead 5).todo = Task.nop.body) ∧
    (Run.taskThatPolls.deeds 9).filterMap Deed.started ++ [.script [.isClosed]] =
        (Run.taskThatPolls.deeds 9).filterMap Deed.scheduled := by
  have hfour : History _ (Run.taskThatPolls.deeds 4) (Run.taskThatPolls.ahead 4) := .of_moves ..
  have hnine : History _ (Run.taskThatPolls.deeds 9) (Run.taskThatPolls.ahead 9) := .of_moves ..
  exact ⟨⟨hfour.tasks_run_once_in_order.1 rfl,
    (hfour.tasks_run_once_in_order.2.2.1 _ .nop _ rfl rfl rfl).1⟩,
    hnine.tasks_run_once_in_order.1 rfl⟩

end ScriptedConsumer
