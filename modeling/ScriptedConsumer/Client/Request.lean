import ScriptedConsumer.Client.Origin

set_option autoImplicit false

/-! # Requests

The calls on a consumer that neither poll, nor signal, nor close: what may be asked, what the
answers are, and what each call does to the client. A call that is given a list of partitions checks
all of them before it changes the first one. -/

namespace ScriptedConsumer

/-- A call on a consumer. -/
inductive Request
  | assignment
  | subscription
  | paused
  | subscribe (topics : TopicSet) (listener : Listener)
  | subscribePattern (pattern : Pattern) (listener : Listener)
  | assign (partitions : PartitionSet)
  | unsubscribe
  | rebalance (partitions : List Partition)
  | addRecord (record : Record)
  | pause (partitions : List Partition)
  | resume (partitions : List Partition)
  | seek (partition : Partition) (offset : Int64)
  | seekToBeginning (partitions : List Partition)
  | seekToEnd (partitions : List Partition)
  | position (partition : Partition)
  | committed (partition : Partition)
  /-- Commits the given offsets and reports to a callback. -/
  | commitAsync (offsets : CommitMap)
  /-- Commits the positions of the assigned partitions and reports to a callback. -/
  | commitAsyncConsumed
  /-- Commits the given offsets. -/
  | commitSyncOffsets (offsets : CommitMap)
  /-- Commits the positions of the assigned partitions. -/
  | commitSync
  | metrics
  | placements (topic : String)
  | listTopics
  | updatePlacements (topic : String) (placements : List Placement)
  | offsetsForTimes (times : PartitionMap Int64)
  | beginnings (partitions : List Partition)
  | ends (partitions : List Partition)
  | scriptBeginnings (offsets : PartitionMap Int64)
  | scriptEnds (offsets : PartitionMap Int64)

/-- The answer to a call. -/
inductive Reply
  | done
  | partitions (partitions : PartitionSet)
  | topics (topics : TopicSet)
  | offset (offset : Int64)
  | commit (commit : Option Commit)
  | count (n : Nat)
  | placements (placements : Option (List Placement))
  | catalog (catalog : Catalog)
  | offsets (offsets : PartitionMap Int64)
  /-- What the callback of a commit was called with. -/
  | acknowledged (offsets : CommitMap) (failure : Option Failure)

namespace Client

variable {τ β : Type}

/-- The scripted offsets of the given partitions, or the failure for the first one without. -/
def scripted (script : PartitionMap Int64) (missing : Partition → Failure)
    (ps : List Partition) : Except Failure (PartitionMap Int64) := do
  let entries ← ps.mapM fun p =>
    match script[p]? with
    | some offset => .ok (p, offset)
    | none => .error (missing p)
  return Std.ExtTreeMap.ofList entries

/-- What a commit does at its end with the commits that it recorded, and with what went wrong. -/
abbrev Callback (τ β : Type) : Type := CommitMap → Option Failure → Action (Client τ) β

/-- The callback that answers with what it was called with. -/
def Callback.acknowledge : Callback τ Reply := fun offsets failure =>
  return .acknowledged offsets failure

/-- The callback that does nothing. -/
def Callback.ignore : Callback τ Reply := fun _ _ => return .done

variable [Tracker τ]

/-- Subscribes to the known topics whose whole name matches a pattern. -/
def subscribePattern [Pattern.Dialect] (pattern : Pattern) (listener : Listener) :
    Action (Client τ) Unit := do
  match pattern.wholeName? with
  | none => throw .invalidPattern
  | some whole =>
      onTracker (Tracker.subscribePattern pattern listener)
      let c ← get
      let topics : TopicSet := Std.ExtTreeSet.ofList (c.catalog.names.filter whole.isMatch)
      Action.log (.patternResolved pattern.text topics.size)
      onTracker (Tracker.setMatched topics)

/-- Simulates a group rebalance: the assignment is replaced, and every buffered record dropped. -/
def rebalance (ps : List Partition) : Action (Client τ) Unit := do
  onTracker (Tracker.assignFromGroup ps)
  let dropped := recordCount (← get).buffer
  modify fun c => syncPaused { c with buffer := ∅ }
  Action.log (.rebalanced ps.length dropped)

/-- Scripts a record for the next poll. Its partition must be assigned, and its offset must leave
    room for the position behind it. -/
def addRecord (r : Record) : Action (Client τ) Unit := do
  if !Tracker.isAssigned (← get).tracker r.partition then
    throw (.recordForUnassigned r.partition)
  if r.offset = Int64.maxValue then throw (.offsetOutOfRange r.partition r.offset)
  modify (buffered r)

/-- Pauses partitions: in the tracker, and in the client's own set. -/
def pause (ps : List Partition) : Action (Client τ) Unit := do
  ensureAssigned ps
  Action.each (fun p => do
    onTracker (Tracker.pause p)
    modify fun c => { c with paused := c.paused.insert p }) ps

/-- Resumes partitions: in the tracker, and in the client's own set. -/
def resume (ps : List Partition) : Action (Client τ) Unit := do
  ensureAssigned ps
  Action.each (fun p => do
    onTracker (Tracker.resume p)
    modify fun c => { c with paused := c.paused.erase p }) ps

/-- Requests a reset of the positions of partitions. The next poll applies it. -/
def requestReset (policy : ResetPolicy) (ps : List Partition) : Action (Client τ) Unit := do
  ensureAssigned ps
  Action.each (fun p => onTracker (Tracker.needReset p policy)) ps

/-- Records commits and runs a callback on them. The commits are checked and recorded in the given
    order of visit, and the callback runs last. -/
def commit (visiting : Visiting Commit) (offsets : CommitMap) (callback : Callback τ β) :
    Action (Client τ) β := do
  let entries := visiting.entries offsets
  ensureAssigned (entries.map (·.1))
  Action.each (fun e => onTracker (Tracker.setCommitted e.1 e.2)) entries
  Action.log (.committed offsets.size)
  callback offsets none

/-- Commits the position of every assigned partition that has one, and runs a callback on these
    commits. -/
def commitConsumed (visiting : Visiting Commit) (callback : Callback τ β) :
    Action (Client τ) β := do
  commit visiting (Tracker.consumed (← get).tracker) callback

/-- The commit of a partition. One that is not assigned counts as committed at zero. -/
def committed (p : Partition) : Action (Client τ) (Option Commit) := do
  if Tracker.isAssigned (← get).tracker p then
    Action.ask fun c => Tracker.committed c.tracker p
  else pure (some (Commit.ofOffset 0))

/-- What a call does, and its answer. -/
def handle [Pattern.Dialect] : Request → Action (Client τ) Reply
  | .assignment => return .partitions (Tracker.assigned (← get).tracker)
  | .subscription => return .topics (Tracker.topics (← get).tracker)
  | .paused => return .partitions (← get).paused
  | .subscribe topics listener => do
      onTracker (Tracker.subscribe topics listener)
      return .done
  | .subscribePattern pattern listener => do
      subscribePattern pattern listener
      return .done
  | .assign ps => do
      onTracker (Tracker.assignManually ps)
      modify syncPaused
      return .done
  | .unsubscribe => do
      modify fun c => syncPaused { c with tracker := Tracker.unsubscribe c.tracker }
      return .done
  | .rebalance ps => do
      rebalance ps
      return .done
  | .addRecord r => do
      addRecord r
      return .done
  | .pause ps => do
      pause ps
      return .done
  | .resume ps => do
      resume ps
      return .done
  | .seek p offset => do
      onTracker (Tracker.seek p offset)
      return .done
  | .seekToBeginning ps => do
      requestReset .earliest ps
      return .done
  | .seekToEnd ps => do
      requestReset .latest ps
      return .done
  | .position p => return .offset (← position p)
  | .committed p => return .commit (← committed p)
  | .commitAsync offsets => commit .sorted offsets .acknowledge
  | .commitAsyncConsumed => commitConsumed .sorted .acknowledge
  | .commitSyncOffsets offsets => commit .sorted offsets .ignore
  | .commitSync => commitConsumed .sorted .ignore
  | .metrics => return .count 0
  | .placements topic => return .placements ((← get).catalog.placements? topic)
  | .listTopics => return .catalog (← get).catalog
  | .updatePlacements topic placements => do
      modify fun c => { c with catalog := c.catalog.update topic placements }
      return .done
  | .offsetsForTimes _ => throw (.unsupported "offsets_for_times")
  | .beginnings ps => return .offsets (← Action.ask (scripted ·.beginnings .missingBeginning ps))
  | .ends ps => return .offsets (← Action.ask (scripted ·.ends .missingEnd ps))
  | .scriptBeginnings offsets => do
      modify fun c => { c with beginnings := c.beginnings.insertMany offsets.toList }
      return .done
  | .scriptEnds offsets => do
      modify fun c => { c with ends := c.ends.insertMany offsets.toList }
      return .done

end Client

end ScriptedConsumer
