import ScriptedConsumer.Consumer
import ScriptedConsumer.Faulty
import ScriptedConsumer.Snapshot

set_option autoImplicit false

/-! # Steps of a session

A session is a script of steps made on one consumer, by its owner or through a handle. A scheduled
task is a script itself: the poll that takes it off the queue makes its steps on the consumer, and
these may poll, schedule and close again. Each step gets an answer; the answer of a poll that ran a
scripted task shows the answers of the task's steps. -/

namespace ScriptedConsumer

/-- Who makes a step: the owner of the consumer, or somebody with a handle. A handle reaches only
    the signals and the queue of tasks, and outlives the consumer. -/
inductive Party
  | owner
  | handle
deriving DecidableEq, Repr

/-- A step of a session. -/
inductive Step
  | request (r : Request)
  /-- Reads a pattern, and subscribes to it if it could be read. -/
  | subscribePattern (text : String) (listener : Listener)
  | poll
  | wakeup (party : Party)
  | inject (party : Party) (f : Failure)
  | schedule (party : Party) (body : List Step)
  | scheduleNop (party : Party)
  | takeHandle
  | close (timeout : Option Timeout)
  | isClosed
  | bufferedCount
  | inspect
  | switch (fault : Option Fault) (on : Bool)
  | drop

/-- A poll task: one that does nothing, or a script. -/
inductive Task
  | nop
  | script (body : List Step)

mutual

/-- The number of steps that a step can cause, itself included. -/
def Step.weight : Step → Nat
  | .schedule _ body => 1 + weightOf body
  | _ => 1

/-- The number of steps that the steps of a script can cause, themselves included. -/
def weightOf : List Step → Nat
  | [] => 0
  | s :: rest => s.weight + weightOf rest

end

/-- The number of steps that a task can cause. -/
def Task.weight : Task → Nat
  | .nop => 0
  | .script body => weightOf body

/-- The steps of a task. -/
def Task.body : Task → List Step
  | .nop => []
  | .script body => body

/-! ## Answers -/

/-- The value that a step gives when it succeeds. -/
inductive Value
  | reply (r : Reply)
  | batch (b : Batch)
  | flag (b : Bool)
  | count (n : Nat)
  | snapshot (s : Snapshot)

/-- How a step ended. -/
inductive Verdict
  | ok (value : Value)
  | failed (f : Failure)
  /-- The text given as a pattern is none. -/
  | badPattern
  /-- There is no consumer any more. -/
  | dropped

/-- The answer to a step: how it ended, whether it took a callback, and if it was a poll that ran a
    script, the answers to the script's steps. -/
inductive Answer
  | of (verdict : Verdict) (tookCallback : Bool) (task : Option (List Answer))

namespace Answer

/-- The answer to a step without a callback and without a task. -/
def plain (verdict : Verdict) : Answer := of verdict false none

/-- How the step ended. -/
def verdict : Answer → Verdict
  | of v _ _ => v

end Answer

/-- How an operation with the given result ended. -/
def Verdict.ofResult {α : Type} (display : α → Value) : Except Failure α → Verdict
  | .ok a => .ok (display a)
  | .error f => .failed f

end ScriptedConsumer
