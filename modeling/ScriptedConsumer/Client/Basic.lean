import ScriptedConsumer.Catalog
import ScriptedConsumer.Record
import ScriptedConsumer.Tracker

set_option autoImplicit false

/-! # The client

What the calls on a consumer read and change: its tracker, the catalog of topics, the records that
wait for the next poll, the paused partitions, and the scripted offsets at which partitions begin
and end. The client keeps its own set of paused partitions; a poll goes by that set. -/

namespace ScriptedConsumer

/-- The state that the calls on a consumer work on. -/
structure Client (τ : Type) where
  tracker : τ
  catalog : Catalog
  buffer : RecordMap
  paused : PartitionSet
  beginnings : PartitionMap Int64
  ends : PartitionMap Int64
deriving DecidableEq

namespace Client

variable {τ α : Type}

/-- A client with a tracker and a catalog, and with nothing scripted. -/
def start (tracker : τ) (catalog : Catalog) : Client τ := ⟨tracker, catalog, ∅, ∅, ∅, ∅⟩

/-- Runs an operation of the tracker. -/
def onTracker (act : Action τ α) : Action (Client τ) α :=
  Action.within tracker (fun tracker c => { c with tracker }) act

variable [Tracker τ]

/-- Fails with the first partition that is not assigned, if there is one. -/
def ensureAssigned (ps : List Partition) : Action (Client τ) Unit := do
  let c ← get
  match ps.find? (fun p => !Tracker.isAssigned c.tracker p) with
  | some p => throw (.unassigned p)
  | none => pure ()

/-- Forgets as paused what the tracker does not report as paused any more. -/
def syncPaused (c : Client τ) : Client τ :=
  { c with paused := c.paused.filter (Tracker.isPaused c.tracker) }

/-- Adds a record behind those that wait for the next poll. -/
def buffered (r : Record) (c : Client τ) : Client τ :=
  { c with buffer := c.buffer.insert r.partition (c.buffer.getD r.partition [] ++ [r]) }

end Client

end ScriptedConsumer
