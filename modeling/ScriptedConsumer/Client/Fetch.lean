import ScriptedConsumer.Client.Origin

set_option autoImplicit false

/-! # Fetching

What a poll does to the client. Every assigned partition without a position is located first, in
the order of partitions; only when all of them are, they are moved there. Then the records of
partitions that are not assigned are dropped, the positions of the partitions that are not paused
move behind their last record, and everything that is buffered is delivered, paused or not. -/

namespace ScriptedConsumer

namespace Client

variable {τ : Type} [Tracker τ]

/-- Gives a position to every assigned partition that has none, or to none of them. -/
def settle : Action (Client τ) Unit := do
  let c ← get
  let starts ← Action.collect (fun p => do return (p, ← locate p))
    (Tracker.missing c.tracker).toList
  Action.each (fun (p, offset) => onTracker (Tracker.seek p offset)) starts

/-- Drops the records of partitions that are not assigned. -/
def discard : Action (Client τ) Unit := do
  let c ← get
  let stale := c.buffer.filter fun p _ => !Tracker.isAssigned c.tracker p
  set { c with buffer := c.buffer.filter fun p _ => Tracker.isAssigned c.tracker p }
  if 0 < recordCount stale then
    Action.log (.discarded (recordCount stale))
    Action.count .discardedRecords (recordCount stale)

/-- Moves the position of a partition behind the last of its records, unless it is paused. -/
def advance (group : Partition × List Record) : Action (Client τ) Unit := do
  let c ← get
  match group.2.getLast? with
  | some last =>
      if !c.paused.contains group.1 then
        onTracker (Tracker.setPosition group.1 (last.offset + 1))
  | none => pure ()

/-- Takes out everything that is buffered. -/
def deliver : Action (Client τ) Batch := do
  let c ← get
  let batch : Batch := ⟨c.buffer⟩
  set { c with buffer := ∅ }
  Action.count .deliveredRecords batch.count
  pure batch

/-- Fetches a batch. The positions move in the given order of visit. -/
def fetch (visiting : Visiting (List Record)) : Action (Client τ) Batch := do
  settle
  discard
  Action.each advance (visiting.entries (← get).buffer)
  deliver

end Client

end ScriptedConsumer
