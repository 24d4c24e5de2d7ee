import ScriptedConsumer.Tracker

set_option autoImplicit false

/-! # Subscriptions

The tracker that keeps everything in memory. A subscription is in one of four modes: none, to
topics, to a pattern, or with partitions chosen by the user; it leaves a mode only by being
dropped. With topics or a pattern the assignment comes from a group rebalance, which starts every
partition anew; the user's own choice keeps the progress of the partitions that stay assigned.

A partition makes no progress before it has a position. Requesting a reset takes the position away,
and seeking gives one and drops the request; so a partition with a pending reset has none. -/

namespace ScriptedConsumer

/-! ## Progress on one partition -/

/-- How far a partition has been consumed. -/
structure Progress where
  position : Option Int64 := none
  committed : Option Commit := none
  paused : Bool := false
  pendingReset : Option ResetPolicy := none
deriving DecidableEq, Repr, Inhabited

namespace Progress

/-- The progress of a partition that was just assigned. -/
def fresh : Progress := {}

/-- The progress with a reset requested: there is no position until it is resolved. -/
def awaitReset (s : Progress) (policy : ResetPolicy) : Progress :=
  { s with position := none, pendingReset := some policy }

/-- The progress at a given position, with no reset pending. -/
def seek (s : Progress) (offset : Int64) : Progress :=
  { s with position := some offset, pendingReset := none }

end Progress

/-! ## The subscription -/

/-- How a subscription came to its assignment. -/
inductive Mode
  | unsubscribed
  | topics
  | pattern
  | manual
deriving DecidableEq, Repr

/-- The name under which a mode is shown. -/
def Mode.name : Mode → String
  | unsubscribed => "none"
  | topics => "auto_topics"
  | pattern => "auto_pattern"
  | manual => "user_assigned"

/-- The state of a subscription and of its assignment. The partitions that the user chose are kept
    beside the assignment, to tell whether a new choice differs. -/
structure Subscription where
  mode : Mode
  pattern : Option Pattern
  topics : TopicSet
  chosen : PartitionSet
  assignment : PartitionMap Progress
  defaultPolicy : ResetPolicy
  listener : Option Listener
deriving DecidableEq

namespace Subscription

/-- A subscription to nothing, with the given reset policy. -/
def empty (policy : ResetPolicy) : Subscription :=
  ⟨.unsubscribed, none, ∅, ∅, ∅, policy, none⟩

/-- Whether the assignment comes from a group rebalance. -/
def isAutoAssigned (s : Subscription) : Bool := s.mode = .topics || s.mode = .pattern

/-- The progress on an assigned partition. -/
def progress (s : Subscription) (p : Partition) : Except Failure Progress :=
  match s.assignment[p]? with
  | some progress => .ok progress
  | none => .error (.unassigned p)

/-- Enters a mode, from it or from none. -/
def enter (mode : Mode) : Action Subscription Unit := do
  let s ← get
  if s.mode = .unsubscribed then set { s with mode }
  else if s.mode ≠ mode then throw .exclusiveSubscription

/-- Replaces the subscribed topics. It is logged if they change. -/
def changeTopics (topics : TopicSet) : Action Subscription Unit := do
  let s ← get
  if s.topics ≠ topics then
    Action.log (.subscriptionChanged topics)
    set { s with topics }

/-- Changes the progress on an assigned partition. -/
def change (p : Partition) (f : Progress → Progress) : Action Subscription Unit := do
  let s ← get
  let progress ← Action.ask (·.progress p)
  set { s with assignment := s.assignment.insert p (f progress) }

/-- Subscribes to topics. -/
def subscribe (topics : TopicSet) (listener : Listener) : Action Subscription Unit := do
  enter .topics
  modify fun s => { s with listener := some listener }
  changeTopics topics

/-- Subscribes to a pattern. The topics are not resolved here. -/
def subscribePattern (pattern : Pattern) (listener : Listener) : Action Subscription Unit := do
  enter .pattern
  modify fun s => { s with listener := some listener, pattern := some pattern }

/-- Replaces the topics of a subscription to a pattern. -/
def setMatched (topics : TopicSet) : Action Subscription Unit := do
  let s ← get
  if s.mode ≠ .pattern then throw (.patternModeRequired s.mode.name)
  changeTopics topics

/-- The assignment of exactly the given partitions: those that were assigned keep their progress,
    the others start anew. -/
def reassign (assignment : PartitionMap Progress) (ps : PartitionSet) : PartitionMap Progress :=
  (ps.toList.foldl (fun m p => m.insertIfNew p Progress.fresh) assignment).filter
    fun p _ => ps.contains p

/-- Assigns the partitions that the user chose. Choosing the same ones again does nothing. -/
def assignManually (ps : PartitionSet) : Action Subscription Unit := do
  enter .manual
  let s ← get
  if s.chosen ≠ ps then
    Action.log (.assignmentChanged ps.size)
    set { s with assignment := reassign s.assignment ps, chosen := ps }

/-- Assigns the outcome of a group rebalance, whose topics must all be subscribed. -/
def assignFromGroup (ps : List Partition) : Action Subscription Unit := do
  let s ← get
  if !s.isAutoAssigned then throw (.notAutoAssigned s.mode.name)
  match ps.find? (fun p => !s.topics.contains p.topic) with
  | some p => throw (.topicNotSubscribed p)
  | none =>
      set { s with assignment := Std.ExtTreeMap.ofList (ps.map fun p => (p, Progress.fresh)) }

/-- Drops the subscription and the assignment. The reset policy stays. -/
def unsubscribe (s : Subscription) : Subscription := empty s.defaultPolicy

/-- Moves the position of a partition, which must have one. -/
def setPosition (p : Partition) (offset : Int64) : Action Subscription Unit := do
  let progress ← Action.ask (·.progress p)
  if progress.position.isNone then throw (.noCurrentPosition p)
  change p fun progress => { progress with position := some offset }

/-- The position of every assigned partition that has one, as the commit to record. -/
def consumed (visiting : Visiting Progress) (s : Subscription) : CommitMap :=
  Std.ExtTreeMap.ofList <| (visiting.entries s.assignment).filterMap fun (p, progress) =>
    progress.position.map fun offset => (p, Commit.ofOffset offset)

/-- The assigned partitions without a position. -/
def missing (visiting : Visiting Progress) (s : Subscription) : PartitionSet :=
  Std.ExtTreeSet.ofList <|
    ((visiting.entries s.assignment).filter fun e => e.2.position.isNone).map (·.1)

/-- The assigned partitions. -/
def assigned (visiting : Visiting Progress) (s : Subscription) : PartitionSet :=
  Std.ExtTreeSet.ofList ((visiting.entries s.assignment).map (·.1))

/-- A subscription as a tracker that visits its assignment in a given order. -/
@[reducible]
def tracker (visiting : Visiting Progress) : Tracker Subscription where
  assigned := assigned visiting
  topics s := s.topics
  subscribe := subscribe
  subscribePattern := subscribePattern
  setMatched := setMatched
  assignManually := assignManually
  assignFromGroup := assignFromGroup
  unsubscribe := unsubscribe
  isAssigned s p := s.assignment.contains p
  isPaused s p := s.assignment[p]?.any (·.paused)
  pause p := change p fun progress => { progress with paused := true }
  resume p := change p fun progress => { progress with paused := false }
  position s p := (s.progress p).map (·.position)
  setPosition := setPosition
  committed s p := (s.progress p).map (·.committed)
  setCommitted p commit := change p fun progress => { progress with committed := some commit }
  consumed := consumed visiting
  missing := missing visiting
  isResetNeeded s p := (s.progress p).map (·.pendingReset.isSome)
  needReset p policy := change p (·.awaitReset policy)
  defaultPolicy s := s.defaultPolicy
  resetPolicy s p := (s.progress p).map (·.pendingReset)
  seek p offset := change p (·.seek offset)

instance : Tracker Subscription := tracker .sorted

end Subscription

end ScriptedConsumer
