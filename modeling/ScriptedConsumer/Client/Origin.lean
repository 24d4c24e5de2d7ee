import ScriptedConsumer.Client.Basic

set_option autoImplicit false

/-! # Where a partition without a position starts

A pending reset decides first: by its policy the partition starts at the scripted beginning or at
the scripted end. Without one the partition starts at its commit, and without a commit by the
tracker's own policy. A policy of none, or an offset that was not scripted, is a failure.

Finding the start reads the client and logs what it found, but moves nothing; the caller seeks. -/

namespace ScriptedConsumer

/-- Where a partition starts, and what decided it. -/
inductive Origin
  | atCommit (offset : Int64)
  | byPolicy (policy : ResetPolicy) (offset : Int64)
deriving DecidableEq, Repr

namespace Origin

/-- The offset at which the partition starts. -/
def offset : Origin → Int64
  | atCommit offset => offset
  | byPolicy _ offset => offset

/-- What is logged of a start. -/
def entry (p : Partition) : Origin → Entry
  | atCommit offset => .resumed p offset
  | byPolicy policy offset => .offsetReset p policy offset

end Origin

namespace Client

variable {τ : Type}

/-- Where a reset policy starts a partition. -/
def originByPolicy (c : Client τ) (p : Partition) : Option ResetPolicy → Except Failure Origin
  | some .earliest =>
      match c.beginnings[p]? with
      | some offset => .ok (.byPolicy .earliest offset)
      | none => .error (.missingBeginning p)
  | some .latest =>
      match c.ends[p]? with
      | some offset => .ok (.byPolicy .latest offset)
      | none => .error (.missingEnd p)
  | some .none | none => .error (.noOffset p)

variable [Tracker τ]

/-- Where a partition without a position starts. -/
def origin (c : Client τ) (p : Partition) : Except Failure Origin := do
  if ← Tracker.isResetNeeded c.tracker p then
    c.originByPolicy p (← Tracker.resetPolicy c.tracker p)
  else
    match ← Tracker.committed c.tracker p with
    | some commit => pure (.atCommit commit.offset)
    | none => c.originByPolicy p (some (Tracker.defaultPolicy c.tracker))

/-- Finds the offset at which a partition without a position starts. -/
def locate (p : Partition) : Action (Client τ) Int64 := do
  let origin ← Action.ask (·.origin p)
  Action.log (origin.entry p)
  pure origin.offset

/-- The position of an assigned partition. One that has none is given the position at which it
    starts. -/
def position (p : Partition) : Action (Client τ) Int64 := do
  if !Tracker.isAssigned (← get).tracker p then throw (.positionForUnassigned p)
  match ← Action.ask fun c => Tracker.position c.tracker p with
  | some offset => pure offset
  | none =>
      let offset ← locate p
      onTracker (Tracker.seek p offset)
      pure offset

end Client

end ScriptedConsumer
