import ScriptedConsumer.Consumer

set_option autoImplicit false

/-! # Snapshots

What can be seen of a tracker and of a consumer at one moment. Looking changes nothing, and a closed
consumer can be looked at like an open one. -/

namespace ScriptedConsumer

/-- What a tracker tells of one assigned partition. What it refuses to tell is left out. -/
structure PartitionView where
  partition : Partition
  position : Option Int64
  committed : Option Commit
  paused : Bool
  reset : Option ResetPolicy
deriving DecidableEq, Repr

/-- What a tracker tells of its whole state. -/
structure TrackerView where
  assignment : List PartitionView
  subscription : TopicSet
  consumed : CommitMap
  missing : PartitionSet
deriving DecidableEq

/-- The answer to a question, or nothing if the question was refused. -/
def toldBy {α : Type} (answer : Except Failure (Option α)) : Option α :=
  answer.toOption.join

/-- Looks at a tracker without changing it. -/
def TrackerView.of {τ : Type} [Tracker τ] (t : τ) : TrackerView where
  assignment := (Tracker.assigned t).toList.map fun p =>
    { partition := p
      position := toldBy (Tracker.position t p)
      committed := toldBy (Tracker.committed t p)
      paused := Tracker.isPaused t p
      reset := toldBy (Tracker.resetPolicy t p) }
  subscription := Tracker.topics t
  consumed := Tracker.consumed t
  missing := Tracker.missing t

/-- What can be seen of a consumer, closed or not. A closed one does not tell its paused
    partitions. -/
structure Snapshot where
  tracker : TrackerView
  buffered : Nat
  closed : Bool
  paused : Option PartitionSet
deriving DecidableEq

/-- Looks at a consumer without changing it. -/
def Consumer.snapshot {τ κ : Type} [Tracker τ] (c : Consumer τ κ) : Snapshot where
  tracker := TrackerView.of c.client.tracker
  buffered := c.bufferedCount
  closed := c.isClosed
  paused := if c.isClosed then none else some c.client.paused

end ScriptedConsumer
