import ScriptedConsumer.Client.Fetch
import ScriptedConsumer.Client.Request

set_option autoImplicit false

/-! # The consumer

An in-memory stand-in for a consumer client: it never talks to a broker, and a test scripts
everything that it returns. Beside the client that the calls work on it has what handles may reach
from elsewhere: the signals that the next poll obeys, and the queue of poll tasks.

A closed consumer refuses every call and changes nothing more. `request` checks that once for all
calls on the client; polling, signalling, scheduling and closing check it themselves.

A poll has two halves. `beginPoll` counts it and takes the first task off the queue; whoever polls
runs that task on the consumer; `endPoll` obeys the signals and fetches. `poll` puts the halves
together around a given way to run tasks. -/

namespace ScriptedConsumer

/-- What the next poll obeys: a wakeup, then an injected failure; and whether the consumer has been
    closed, for good. -/
structure Signals where
  wakeup : Bool := false
  injected : Option Failure := none
  closed : Bool := false
deriving DecidableEq

/-- A consumer with tracker `τ` and poll tasks `κ`. -/
structure Consumer (τ κ : Type) where
  client : Client τ
  signals : Signals
  tasks : List κ
  closeTimeout : Timeout
deriving DecidableEq

namespace Consumer

variable {τ κ α : Type}

/-- A new consumer with a tracker and a catalog. -/
def start (tracker : τ) (catalog : Catalog) (closeTimeout : Timeout) : Consumer τ κ :=
  ⟨Client.start tracker catalog, {}, [], closeTimeout⟩

/-- Whether the consumer has been closed. -/
def isClosed (c : Consumer τ κ) : Bool := c.signals.closed

/-- The number of records that wait for the next poll. -/
def bufferedCount (c : Consumer τ κ) : Nat := recordCount c.client.buffer

/-- Fails if the consumer has been closed. -/
def ensureOpen : Action (Consumer τ κ) Unit := do
  if (← get).isClosed then throw .closed

/-- Runs an operation of the client. -/
def onClient (act : Action (Client τ) α) : Action (Consumer τ κ) α :=
  Action.within client (fun client c => { c with client }) act

/-- Changes the signals. -/
def modifySignals (f : Signals → Signals) : Action (Consumer τ κ) Unit :=
  modify fun c => { c with signals := f c.signals }

/-! ## Calls -/

/-- Makes a call on the client of an open consumer. -/
def request [Tracker τ] [Pattern.Dialect] (r : Request) : Action (Consumer τ κ) Reply := do
  ensureOpen
  onClient (Client.handle r)

/-- Makes the next poll fail as aborted. Doing so twice before a poll aborts one poll. -/
def wakeup : Action (Consumer τ κ) Unit := do
  ensureOpen
  modifySignals fun s => { s with wakeup := true }

/-- Makes the next poll fail as given. A later failure replaces one that no poll has met. -/
def inject (f : Failure) : Action (Consumer τ κ) Unit := do
  ensureOpen
  modifySignals fun s => { s with injected := some f }

/-- Puts a task behind those that wait for a poll. -/
def schedule (task : κ) : Action (Consumer τ κ) Unit := do
  ensureOpen
  modify fun c => { c with tasks := c.tasks ++ [task] }

/-- Closes the consumer. The timeout is logged, and nothing waits for it; if none is given it is
    the consumer's own. -/
def close (timeout : Option Timeout) : Action (Consumer τ κ) Unit := do
  ensureOpen
  modifySignals fun s => { s with closed := true }
  Action.log (.consumerClosed (timeout.getD (← get).closeTimeout))

/-! ## Polls -/

/-- Counts a poll and takes the first task off the queue, if there is one. -/
def beginPoll : Action (Consumer τ κ) (Option κ) := do
  ensureOpen
  Action.count .polls 1
  let c ← get
  match c.tasks with
  | [] => return none
  | task :: rest =>
      set { c with tasks := rest }
      Action.log .taskStarted
      Action.count .tasksRun 1
      return some task

/-- Fails if the wakeup is armed, and clears it. -/
def obeyWakeup : Action (Consumer τ κ) Unit := do
  if (← get).signals.wakeup then
    modifySignals fun s => { s with wakeup := false }
    Action.log .wokenUp
    Action.count .wakeups 1
    throw .wakeup

/-- Fails as injected if a failure was, and clears it. -/
def obeyInjected : Action (Consumer τ κ) Unit := do
  match (← get).signals.injected with
  | some f =>
      modifySignals fun s => { s with injected := none }
      Action.count .injectedErrors 1
      throw f
  | none => pure ()

/-- Obeys the signals, the wakeup first. So each poll meets one of them at most. -/
def obeySignals : Action (Consumer τ κ) Unit := do
  obeyWakeup
  obeyInjected

variable [Tracker τ]

/-- Ends a poll whose task has run: the task may have closed the consumer. The buffer is walked
    through in the given order of visit. -/
def endPoll (visiting : Visiting (List Record)) : Action (Consumer τ κ) Batch := do
  ensureOpen
  obeySignals
  onClient (Client.fetch visiting)

/-- Polls, with a given way to run a task on the consumer. A failure inside the task is the task's
    own and does not stop the poll. -/
def poll (visiting : Visiting (List Record)) (run : κ → Action (Consumer τ κ) Unit) :
    Action (Consumer τ κ) Batch := do
  match ← beginPoll with
  | some task => try run task catch _ => pure ()
  | none => pure ()
  endPoll visiting

/-! ## What the calls leave

Each call is refused when the consumer is closed, and then nothing changes. Otherwise a request
changes the client only, and signalling and scheduling change the signals and the queue only. -/

omit [Tracker τ] in
theorem run_ensureOpen_bind (act : Action (Consumer τ κ) α) (c : Consumer τ κ) :
    (do ensureOpen; act : Action (Consumer τ κ) α).run c =
      if c.isClosed then ⟨.error .closed, c, []⟩ else act.run c := by
  cases h : c.isClosed <;> simp [ensureOpen, Action.run_bind, h, Outcome.after]

omit [Tracker τ] in
@[simp]
theorem run_onClient (act : Action (Client τ) α) (c : Consumer τ κ) :
    (onClient act).run c =
      ⟨(act.run c.client).result, { c with client := (act.run c.client).state },
        (act.run c.client).events⟩ := rfl

theorem run_request [Pattern.Dialect] (r : Request) (c : Consumer τ κ) :
    (request r).run c =
      if c.isClosed then ⟨.error .closed, c, []⟩ else (onClient (Client.handle r)).run c :=
  run_ensureOpen_bind _ c

omit [Tracker τ] in
theorem run_wakeup (c : Consumer τ κ) :
    wakeup.run c =
      if c.isClosed then ⟨.error .closed, c, []⟩
      else ⟨.ok (), { c with signals := { c.signals with wakeup := true } }, []⟩ :=
  run_ensureOpen_bind _ c

omit [Tracker τ] in
theorem run_inject (f : Failure) (c : Consumer τ κ) :
    (inject f).run c =
      if c.isClosed then ⟨.error .closed, c, []⟩
      else ⟨.ok (), { c with signals := { c.signals with injected := some f } }, []⟩ :=
  run_ensureOpen_bind _ c

omit [Tracker τ] in
theorem run_schedule (task : κ) (c : Consumer τ κ) :
    (schedule task).run c =
      if c.isClosed then ⟨.error .closed, c, []⟩
      else ⟨.ok (), { c with tasks := c.tasks ++ [task] }, []⟩ :=
  run_ensureOpen_bind _ c

omit [Tracker τ] in
theorem run_close (timeout : Option Timeout) (c : Consumer τ κ) :
    (close timeout).run c =
      if c.isClosed then ⟨.error .closed, c, []⟩
      else ⟨.ok (), { c with signals := { c.signals with closed := true } },
        [.logged (.consumerClosed (timeout.getD c.closeTimeout))]⟩ :=
  run_ensureOpen_bind _ c

omit [Tracker τ] in
theorem run_beginPoll (c : Consumer τ κ) :
    beginPoll.run c =
      if c.isClosed then ⟨.error .closed, c, []⟩
      else match c.tasks with
        | [] => ⟨.ok none, c, [.counted .polls 1]⟩
        | task :: rest => ⟨.ok (some task), { c with tasks := rest },
            [.counted .polls 1, .logged .taskStarted, .counted .tasksRun 1]⟩ := by
  refine (run_ensureOpen_bind _ c).trans ?_
  cases h : c.tasks <;> simp [Action.run_bind, h, Outcome.after, Except.map]

omit [Tracker τ] in
theorem run_obeyWakeup (c : Consumer τ κ) :
    obeyWakeup.run c =
      if c.signals.wakeup then
        ⟨.error .wakeup, { c with signals := { c.signals with wakeup := false } },
          [.logged .wokenUp, .counted .wakeups 1]⟩
      else ⟨.ok (), c, []⟩ := by
  cases h : c.signals.wakeup <;>
    simp [obeyWakeup, modifySignals, Action.run_bind, h, Outcome.after]

omit [Tracker τ] in
theorem run_obeyInjected (c : Consumer τ κ) :
    obeyInjected.run c =
      match c.signals.injected with
      | some f => ⟨.error f, { c with signals := { c.signals with injected := none } },
          [.counted .injectedErrors 1]⟩
      | none => ⟨.ok (), c, []⟩ := by
  cases h : c.signals.injected <;>
    simp [obeyInjected, modifySignals, Action.run_bind, h, Outcome.after]

omit [Tracker τ] in
theorem run_obeySignals (c : Consumer τ κ) :
    obeySignals.run c =
      if c.signals.wakeup then
        ⟨.error .wakeup, { c with signals := { c.signals with wakeup := false } },
          [.logged .wokenUp, .counted .wakeups 1]⟩
      else match c.signals.injected with
        | some f => ⟨.error f, { c with signals := { c.signals with injected := none } },
            [.counted .injectedErrors 1]⟩
        | none => ⟨.ok (), c, []⟩ := by
  rw [obeySignals, Action.run_bind, run_obeyWakeup]
  cases c.signals.wakeup
  · exact run_obeyInjected c
  · rfl

theorem run_endPoll (visiting : Visiting (List Record)) (c : Consumer τ κ) :
    (endPoll visiting).run c =
      if c.isClosed then ⟨.error .closed, c, []⟩
      else (do obeySignals; onClient (Client.fetch visiting) :
        Action (Consumer τ κ) Batch).run c :=
  run_ensureOpen_bind _ c

theorem tasks_endPoll (visiting : Visiting (List Record)) (c : Consumer τ κ) :
    ((endPoll visiting).run c).state.tasks = c.tasks := by
  rw [run_endPoll]
  split
  · rfl
  · rw [Action.run_bind, run_obeySignals]
    cases c.signals.wakeup <;> cases c.signals.injected <;> rfl

end Consumer

end ScriptedConsumer
