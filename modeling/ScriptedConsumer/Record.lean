import ScriptedConsumer.Partition

set_option autoImplicit false

/-! # Records and batches

A record as it is scripted and delivered, the message of the client library that one can be made
from, and the batch that one poll returns. -/

namespace ScriptedConsumer

/-- The bytes of a key or of a payload. -/
abbrev Bytes := List UInt8

/-- A single record of a partition. The timestamp counts milliseconds. -/
structure Record where
  partition : Partition
  offset : Int64
  timestamp : Option Int64 := none
  key : Option Bytes := none
  value : Option Bytes := none
deriving DecidableEq, Repr, Inhabited

/-! ## Messages of the client library -/

/-- When a message was stamped, and by whom. -/
inductive Stamp
  | unavailable
  | created (millis : Int64)
  | appended (millis : Int64)
deriving DecidableEq, Repr

/-- The time of a stamp. Minus one millisecond stands for no time. -/
def Stamp.millis? : Stamp → Option Int64
  | unavailable => none
  | created millis | appended millis => if millis = -1 then none else some millis

/-- A message as the client library hands it over. -/
structure Message where
  topic : String
  index : Int32
  offset : Int64
  stamp : Stamp
  key : Option Bytes
  payload : Option Bytes
deriving DecidableEq, Repr

/-- The record of a message. -/
def Record.ofMessage (m : Message) : Record :=
  ⟨⟨m.topic, m.index⟩, m.offset, m.stamp.millis?, m.key, m.payload⟩

/-! ## Batches -/

/-- Records grouped by partition, each group in the order in which its records were added. -/
abbrev RecordMap := PartitionMap (List Record)

instance : DecidableEq RecordMap := inferInstanceAs (DecidableEq (PartitionMap (List Record)))

/-- The number of records in all groups. -/
def recordCount (groups : RecordMap) : Nat :=
  (groups.toList.flatMap (·.2)).length

/-- What one poll returns. -/
structure Batch where
  groups : RecordMap
deriving DecidableEq

namespace Batch

/-- The batch of the given groups. Of several groups for one partition the last one counts. -/
def ofGroups (groups : List (Partition × List Record)) : Batch :=
  ⟨Std.ExtTreeMap.ofList groups⟩

/-- The number of records in the batch. -/
def count (b : Batch) : Nat := recordCount b.groups

/-- Whether no group of the batch has a record. -/
def isEmpty (b : Batch) : Bool := b.groups.toList.all fun g => g.2.isEmpty

/-- The records of one partition: none if the batch has no group for it. -/
def records (b : Batch) (p : Partition) : List Record := b.groups.getD p []

/-- Every record of the batch, group by group. -/
def all (b : Batch) : List Record := b.groups.toList.flatMap (·.2)

end Batch

end ScriptedConsumer
