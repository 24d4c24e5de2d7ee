import ScriptedConsumer.Action
import ScriptedConsumer.Commit
import ScriptedConsumer.Listener
import ScriptedConsumer.Pattern

set_option autoImplicit false

/-! # Assignment trackers

Everything that a consumer leaves to others: which topics are subscribed, which partitions are
assigned, and for every assigned partition its position, its commit, whether it is paused and
whether a reset of its position is pending. Its operations may fail. Nothing else is assumed of it;
the default one is `Subscription`.

Questions are functions of the tracker: to ask changes nothing, and until the next operation the
same question gets the same answer. A tracker with interior state, or with a handle of its own
through which others reach it, is covered as far as a state of type `τ` accounts for its answers.
What others do to it between two steps of a session is what `Switchable` is for. -/

namespace ScriptedConsumer

/-- What a consumer asks of the state of its subscription and of its assignment. -/
class Tracker (τ : Type) where
  /-- The assigned partitions. -/
  assigned : τ → PartitionSet
  /-- The subscribed topics. -/
  topics : τ → TopicSet
  /-- Subscribes to topics. -/
  subscribe : TopicSet → Listener → Action τ Unit
  /-- Subscribes to a pattern. -/
  subscribePattern : Pattern → Listener → Action τ Unit
  /-- Replaces the subscribed topics with those that a pattern matches. -/
  setMatched : TopicSet → Action τ Unit
  /-- Replaces the assignment with the partitions that the user chose. -/
  assignManually : PartitionSet → Action τ Unit
  /-- Replaces the assignment with the outcome of a group rebalance. -/
  assignFromGroup : List Partition → Action τ Unit
  /-- Drops the subscription and the assignment. -/
  unsubscribe : τ → τ
  /-- Whether a partition is assigned. -/
  isAssigned : τ → Partition → Bool
  /-- Whether a partition is paused. -/
  isPaused : τ → Partition → Bool
  /-- Pauses a partition. -/
  pause : Partition → Action τ Unit
  /-- Resumes a partition. -/
  resume : Partition → Action τ Unit
  /-- The position of a partition, if it has one. -/
  position : τ → Partition → Except Failure (Option Int64)
  /-- Moves a position that is established already. -/
  setPosition : Partition → Int64 → Action τ Unit
  /-- The commit of a partition, if it has one. -/
  committed : τ → Partition → Except Failure (Option Commit)
  /-- Records a commit. -/
  setCommitted : Partition → Commit → Action τ Unit
  /-- The position of every assigned partition that has one, as the commit to record. -/
  consumed : τ → CommitMap
  /-- The assigned partitions without a position. -/
  missing : τ → PartitionSet
  /-- Whether a reset of a position is pending. -/
  isResetNeeded : τ → Partition → Except Failure Bool
  /-- Requests a reset of a position. -/
  needReset : Partition → ResetPolicy → Action τ Unit
  /-- The reset policy for partitions without a position and without a commit. -/
  defaultPolicy : τ → ResetPolicy
  /-- The policy of the pending reset, if one was requested. -/
  resetPolicy : τ → Partition → Except Failure (Option ResetPolicy)
  /-- Sets a position and drops a pending reset. -/
  seek : Partition → Int64 → Action τ Unit

/-- Requests a reset by the tracker's own reset policy. -/
def Tracker.needDefaultReset {τ : Type} [Tracker τ] (p : Partition) : Action τ Unit := do
  Tracker.needReset p (Tracker.defaultPolicy (← get))

end ScriptedConsumer
