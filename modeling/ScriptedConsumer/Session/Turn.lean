import ScriptedConsumer.Session.Step

set_option autoImplicit false

/-! # The turn of a step

What one step does to a session. Every step is answered at once, except a poll: it takes a task off
the queue and waits until the task has run, and `Session.endPoll` answers it then. -/

namespace ScriptedConsumer

/-- A consumer, and whether it has been dropped. The signals of a dropped consumer can still be
    armed through a handle, but its queue is gone. -/
structure Session (τ : Type) where
  consumer : Consumer τ Task
  dropped : Bool

/-- What a step came to: an answer, or a poll that waits for its task. -/
inductive Turn
  | answered (answer : Answer)
  | polling (task : Option Task)

/-- A session after a step, what the step came to, and the events it caused. -/
structure Moved (τ : Type) where
  session : Session τ
  turn : Turn
  events : List Event

namespace Session

variable {τ α : Type}

/-- A session with a new consumer. -/
def start (consumer : Consumer τ Task) : Session τ := ⟨consumer, false⟩

/-- A step that is answered without any effect. -/
def unmoved (s : Session τ) (verdict : Verdict) : Moved τ := ⟨s, .answered (.plain verdict), []⟩

/-- A step that runs an operation of the consumer and is answered with its result. -/
def attempt (s : Session τ) (tookCallback : Bool) (display : α → Value)
    (act : Action (Consumer τ Task) α) : Moved τ :=
  let o := act.run s.consumer
  ⟨{ s with consumer := o.state },
    .answered (.of (.ofResult display o.result) tookCallback none), o.events⟩

/-- A step that runs an operation without a result. -/
def effect (s : Session τ) (act : Action (Consumer τ Task) Unit) : Moved τ :=
  s.attempt false (fun _ => .reply .done) act

/-- A step of the owner, who has no consumer to make it on once it has been dropped. -/
def owned (s : Session τ) (moved : Moved τ) : Moved τ :=
  if s.dropped then s.unmoved .dropped else moved

/-- A step on the signals. A handle reaches them even of a dropped consumer. -/
def signal (s : Session τ) (party : Party) (act : Action (Consumer τ Task) Unit) : Moved τ :=
  match party with
  | .owner => s.owned (s.effect act)
  | .handle => s.effect act

/-- A step that schedules a task. Of a dropped consumer the queue is gone, and a handle is told
    what it is told of a closed one. -/
def schedule (s : Session τ) (party : Party) (task : Task) : Moved τ :=
  match party with
  | .owner => s.owned (s.effect (Consumer.schedule task))
  | .handle =>
      if s.dropped then s.unmoved (.failed .closed) else s.effect (Consumer.schedule task)

/-- Whether a request reports to a callback. -/
def takesCallback : Request → Bool
  | .commitAsync _ | .commitAsyncConsumed => true
  | _ => false

/-- A poll begins: it takes a task off the queue, or is refused. -/
def beginPoll (s : Session τ) : Moved τ :=
  let o := Consumer.beginPoll.run s.consumer
  ⟨{ s with consumer := o.state },
    match o.result with
    | .ok task => .polling task
    | .error f => .answered (.plain (.failed f)),
    o.events⟩

/-- The session with a fault of the tracker switched. -/
def switched [Switchable τ] (s : Session τ) (fault : Fault) (on : Bool) : Session τ :=
  let client := s.consumer.client
  { s with consumer := { s.consumer with
      client := { client with tracker := Switchable.switch fault on client.tracker } } }

/-- The session after the consumer has been dropped, and its queue with it. -/
def afterDrop (s : Session τ) : Session τ :=
  { consumer := { s.consumer with tasks := [] }, dropped := true }

variable [Tracker τ]

/-- What a step does. -/
def turn [Switchable τ] [Pattern.Dialect] (s : Session τ) : Step → Moved τ
  | .request r => s.owned (s.attempt (takesCallback r) .reply (Consumer.request r))
  | .subscribePattern text listener =>
      s.owned <| match Pattern.compile? text with
        | none => s.unmoved .badPattern
        | some pattern =>
            s.attempt false .reply (Consumer.request (.subscribePattern pattern listener))
  | .poll => s.owned s.beginPoll
  | .wakeup party => s.signal party Consumer.wakeup
  | .inject party f => s.signal party (Consumer.inject f)
  | .schedule party body => s.schedule party (.script body)
  | .scheduleNop party => s.schedule party .nop
  | .takeHandle => s.owned (s.unmoved (.ok (.reply .done)))
  | .close timeout => s.owned (s.effect (Consumer.close timeout))
  | .isClosed => s.owned (s.unmoved (.ok (.flag s.consumer.isClosed)))
  | .bufferedCount => s.owned (s.unmoved (.ok (.count s.consumer.bufferedCount)))
  | .inspect => s.owned (s.unmoved (.ok (.snapshot s.consumer.snapshot)))
  | .switch fault on =>
      s.owned ((fault.elim s (s.switched · on)).unmoved (.ok (.reply .done)))
  | .drop => s.owned (s.afterDrop.unmoved (.ok (.reply .done)))

/-- A poll whose task has run is ended and answered. It shows the answers of the task's steps if
    the task was a script. -/
def endPoll (s : Session τ) (visiting : Visiting (List Record)) (answers : Option (List Answer)) :
    Session τ × Answer × List Event :=
  let o := (Consumer.endPoll visiting).run s.consumer
  ({ s with consumer := o.state }, .of (.ofResult .batch o.result) false answers, o.events)

end Session

end ScriptedConsumer
