import ScriptedConsumer.Session.Turn

set_option autoImplicit false

/-! # Runs

A script is run step by step. When a poll takes a task off the queue, the rest of the script waits
until the task's own steps have been made; the poll is ended then, and the script goes on. `Run` is
the whole state between two steps: the session, the steps to be made next and the answers before
them, and the polls that wait, innermost first. In which order a poll walks through the buffer is
not up to the script; a run is given an order for each of its moves.

A run ends: `Run.measure` counts the steps that can still be made, in scripts and in queued tasks
alike, and every move lowers it. -/

namespace ScriptedConsumer

/-- A poll that waits for its task, with what is left of the script that polled. -/
structure Waiting where
  showsTask : Bool
  todo : List Step
  answers : List Answer

/-- A script being run. If the `n`-th move from here walks through the buffer, it does so in the
    order `visits n`. -/
structure Run (τ : Type) where
  session : Session τ
  todo : List Step
  answers : List Answer
  waiting : List Waiting
  events : List Event
  visits : Nat → Visiting (List Record)

/-- Whether the answer to a poll shows the answers of its task. -/
def Task.shows : Task → Bool
  | .nop => false
  | .script _ => true

namespace Run

variable {τ : Type}

/-- A script about to be run, with the orders of visit of its moves. -/
def startIn (visits : Nat → Visiting (List Record)) (s : Session τ) (script : List Step) : Run τ :=
  ⟨s, script, [], [], [], visits⟩

/-- A script about to be run, with the order of partitions for every move. -/
def start (s : Session τ) (script : List Step) : Run τ := startIn (fun _ => .sorted) s script

/-! ## The length of a run -/

/-- The number of steps that the queued tasks can cause. -/
def queued (s : Session τ) : Nat := (s.consumer.tasks.map Task.weight).foldr (· + ·) 0

/-- An upper bound for the number of moves that are left. -/
def measure (r : Run τ) : Nat :=
  2 * (weightOf r.todo + (r.waiting.map fun w => weightOf w.todo).foldr (· + ·) 0
    + queued r.session) + r.waiting.length

/-- The number of steps that a turn leaves to be made by a task. -/
def turnWeight : Turn → Nat
  | .answered _ => 0
  | .polling task => (task.map Task.weight).getD 0

theorem queued_attempt {α : Type} (s : Session τ) (tookCallback : Bool) (display : α → Value)
    (act : Action (Consumer τ Task) α)
    (h : (act.run s.consumer).state.tasks = s.consumer.tasks) :
    queued (s.attempt tookCallback display act).session = queued s := by
  simp only [Session.attempt, queued, h]

theorem queued_owned (s : Session τ) (moved : Moved τ) (n : Nat)
    (h : queued moved.session + turnWeight moved.turn ≤ queued s + n) :
    queued (s.owned moved).session + turnWeight (s.owned moved).turn ≤ queued s + n := by
  unfold Session.owned
  split
  · exact Nat.le_add_right _ _
  · exact h

theorem queued_schedule (s : Session τ) (party : Party) (task : Task) :
    queued (s.schedule party task).session + turnWeight (s.schedule party task).turn
      ≤ queued s + task.weight := by
  have h : queued (s.effect (Consumer.schedule task)).session
      + turnWeight (s.effect (Consumer.schedule task)).turn ≤ queued s + task.weight := by
    simp only [Session.effect, Session.attempt, Consumer.run_schedule, turnWeight, queued]
    split
    · exact Nat.le_add_right _ _
    · rw [List.map_append]
      exact Nat.le_of_eq List.sum_append
  cases party with
  | owner => exact queued_owned s _ _ h
  | handle =>
      simp only [Session.schedule]
      split
      · exact Nat.le_add_right _ _
      · exact h

theorem queued_beginPoll (s : Session τ) :
    queued s.beginPoll.session + turnWeight s.beginPoll.turn ≤ queued s := by
  simp only [Session.beginPoll, Consumer.run_beginPoll]
  split
  · exact Nat.le_refl _
  · cases h : s.consumer.tasks with
    | nil => simp [queued, h, turnWeight]
    | cons task rest => simp [queued, h, turnWeight, Nat.add_comm]

variable [Tracker τ]

theorem tasks_request [Pattern.Dialect] (r : Request) (c : Consumer τ Task) :
    ((Consumer.request r).run c).state.tasks = c.tasks := by
  rw [Consumer.run_request]
  split <;> rfl

theorem queued_turn [Switchable τ] [Pattern.Dialect] (s : Session τ) (step : Step) :
    queued (s.turn step).session + turnWeight (s.turn step).turn + 1 ≤ queued s + step.weight := by
  have keep {act : Action (Consumer τ Task) Unit}
      (h : (act.run s.consumer).state.tasks = s.consumer.tasks) :
      queued (s.effect act).session + turnWeight (s.effect act).turn ≤ queued s + 0 :=
    Nat.le_of_eq (queued_attempt s _ _ act h)
  have wakes : ((Consumer.wakeup : Action (Consumer τ Task) Unit).run s.consumer).state.tasks
      = s.consumer.tasks := by
    rw [Consumer.run_wakeup]
    split <;> rfl
  have injects (f : Failure) : ((Consumer.inject f).run s.consumer).state.tasks
      = s.consumer.tasks := by
    rw [Consumer.run_inject]
    split <;> rfl
  have closes (t : Option Timeout) : ((Consumer.close t).run s.consumer).state.tasks
      = s.consumer.tasks := by
    rw [Consumer.run_close]
    split <;> rfl
  suffices h : ∃ n, n + 1 = step.weight ∧
      queued (s.turn step).session + turnWeight (s.turn step).turn ≤ queued s + n by
    obtain ⟨n, hn, h⟩ := h
    omega
  cases step with
  | request r =>
      exact ⟨0, rfl, queued_owned s _ 0 (Nat.le_of_eq
        (queued_attempt s _ _ _ (tasks_request r s.consumer)))⟩
  | subscribePattern text listener =>
      refine ⟨0, rfl, queued_owned s _ 0 ?_⟩
      split
      · exact Nat.le_refl _
      · exact Nat.le_of_eq (queued_attempt s _ _ _ (tasks_request _ s.consumer))
  | poll => exact ⟨0, rfl, queued_owned s _ 0 (queued_beginPoll s)⟩
  | wakeup party =>
      refine ⟨0, rfl, ?_⟩
      cases party with
      | owner => exact queued_owned s _ 0 (keep wakes)
      | handle => exact keep wakes
  | inject party f =>
      refine ⟨0, rfl, ?_⟩
      cases party with
      | owner => exact queued_owned s _ 0 (keep (injects f))
      | handle => exact keep (injects f)
  | schedule party body =>
      exact ⟨weightOf body, by simp [Step.weight, Nat.add_comm], queued_schedule s party _⟩
  | scheduleNop party => exact ⟨0, rfl, queued_schedule s party _⟩
  | takeHandle => exact ⟨0, rfl, queued_owned s _ 0 (Nat.le_refl _)⟩
  | close timeout => exact ⟨0, rfl, queued_owned s _ 0 (keep (closes timeout))⟩
  | isClosed => exact ⟨0, rfl, queued_owned s _ 0 (Nat.le_refl _)⟩
  | bufferedCount => exact ⟨0, rfl, queued_owned s _ 0 (Nat.le_refl _)⟩
  | inspect => exact ⟨0, rfl, queued_owned s _ 0 (Nat.le_refl _)⟩
  | switch fault on =>
      refine ⟨0, rfl, queued_owned s _ 0 ?_⟩
      cases fault <;> exact Nat.le_refl _
  | drop => exact ⟨0, rfl, queued_owned s _ 0 (Nat.zero_le _)⟩

/-! ## Moves -/

/-- The next move: the next step of the script is made, or the poll that waits for the script is
    ended. There is none when the script is done and no poll waits for it. -/
def next? [Switchable τ] [Pattern.Dialect] (r : Run τ) : Option (Run τ) :=
  let later (n : Nat) : Visiting (List Record) := r.visits (n + 1)
  match r.todo, r.waiting with
  | step :: rest, waiting =>
      let m := r.session.turn step
      some <| match m.turn with
        | .answered answer =>
            ⟨m.session, rest, r.answers ++ [answer], waiting, r.events ++ m.events, later⟩
        | .polling task =>
            ⟨m.session, (task.map Task.body).getD [], [],
              ⟨(task.map Task.shows).getD false, rest, r.answers⟩ :: waiting,
              r.events ++ m.events, later⟩
  | [], w :: waiting =>
      let shown := if w.showsTask then some r.answers else none
      let (session, answer, events) := r.session.endPoll (r.visits 0) shown
      some ⟨session, w.todo, w.answers ++ [answer], waiting, r.events ++ events, later⟩
  | [], [] => none

omit [Tracker τ] in
theorem weightOf_body (task : Option Task) :
    weightOf ((task.map Task.body).getD []) = (task.map Task.weight).getD 0 := by
  rcases task with _ | (_ | _) <;> simp [Task.body, Task.weight, weightOf]

theorem measure_next [Switchable τ] [Pattern.Dialect] {r r' : Run τ} (h : r.next? = some r') :
    r'.measure < r.measure := by
  rcases r with ⟨session, _ | ⟨step, rest⟩, answers, waiting, events, visits⟩
  · rcases waiting with _ | ⟨w, waiting⟩
    · exact nomatch h
    · simp only [next?, Option.some.injEq] at h
      subst h
      simp only [measure, weightOf, Session.endPoll, queued, Consumer.tasks_endPoll,
        List.map_cons, List.foldr_cons, List.length_cons]
      omega
  · have hq := queued_turn session step
    simp only [next?, Option.some.injEq] at h
    subst h
    cases hturn : (session.turn step).turn with
    | answered answer =>
        simp only [hturn, turnWeight] at hq
        simp only [measure, weightOf]
        omega
    | polling task =>
        simp only [hturn, turnWeight] at hq
        simp only [measure, weightOf, weightOf_body, List.map_cons, List.foldr_cons,
          List.length_cons]
        omega

/-- Runs a script to its end. -/
def finish [Switchable τ] [Pattern.Dialect] (r : Run τ) : Run τ :=
  match _h : r.next? with
  | some r' => r'.finish
  | none => r
termination_by r.measure
decreasing_by exact measure_next ‹_›

end Run

/-! ## Sessions -/

namespace Session

variable {τ : Type} [Tracker τ] [Switchable τ] [Pattern.Dialect]

/-- Makes one step, with all that its task does if it is a poll. -/
def play (s : Session τ) (step : Step) : Run τ := (Run.start s [step]).finish

/-- Makes the steps of a script one after the other, and keeps what each of them came to. -/
def playAll (s : Session τ) : List Step → List (Run τ)
  | [] => []
  | step :: rest =>
      let r := s.play step
      r :: playAll r.session rest

end Session

end ScriptedConsumer
