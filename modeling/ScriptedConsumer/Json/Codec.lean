import ScriptedConsumer.Commit
import ScriptedConsumer.Json.Value
import ScriptedConsumer.Placement
import ScriptedConsumer.Record
import ScriptedConsumer.ResetPolicy

set_option autoImplicit false

/-! # The written form of the value types

Partitions, commits, placements and reset policies as JSON documents. Each is written as an object
of its fields in a fixed order, a policy by its name; and read from an object with the fields in any
order, or from the array of the fields. -/

namespace ScriptedConsumer.Json

/-- A type whose values can be written as documents and read from them. -/
class Codec (α : Type) where
  /-- What the document of a value says. -/
  toValue : α → Value
  /-- The value that a document of a given form stands for. -/
  ofTree? : Tree → Option α

/-- The document of a value. -/
def write {α : Type} [Codec α] (a : α) : String := (Codec.toValue a).render

/-- The value that a document stands for. -/
def read? (α : Type) [Codec α] (s : Source) : Option α := (Tree.read? s).bind Codec.ofTree?

/-- A document may be nested up to this depth to be read as what it says. -/
def maxDepth : Nat := 127

instance : Codec Value where
  toValue v := v
  ofTree? := Value.ofTree? maxDepth

instance : Codec Partition where
  toValue p := .object [("topic", .text p.topic), ("partition", .int p.index.toInt)]
  ofTree? t := do
    match ← t.parts? ["topic", "partition"] with
    | [some topic, some index] => return ⟨← topic.string?, ← index.int32?⟩
    | _ => none

/-- Of a commit the metadata may be left out. -/
instance : Codec Commit where
  toValue c := .object [("offset", .int c.offset.toInt), ("metadata", .text c.metadata)]
  ofTree? t := do
    match ← t.parts? ["offset", "metadata"] with
    | [some offset, some metadata] => return ⟨← offset.int64?, ← metadata.string?⟩
    | [some offset, none] => return Commit.ofOffset (← offset.int64?)
    | _ => none

/-- The leader that a part of a placement stands for: `null` is no leader. -/
def leader? : Tree → Option (Option Int32)
  | .null => some none
  | t => t.int32?.map some

/-- Of a placement the leader may be left out, and then there is none. -/
instance : Codec Placement where
  toValue p := .object
    [("topic", .text p.topic), ("partition", .int p.index.toInt),
      ("leader", match p.leader with
        | some broker => .int broker.toInt
        | none => .null),
      ("replicas", .list (.int ·.toInt) p.replicas),
      ("in_sync_replicas", .list (.int ·.toInt) p.inSync)]
  ofTree? t := do
    match ← t.parts? ["topic", "partition", "leader", "replicas", "in_sync_replicas"] with
    | [some topic, some index, leader, some replicas, some inSync] =>
        return {
          topic := ← topic.string?
          index := ← index.int32?
          leader := ← (leader.map leader?).getD (some none)
          replicas := ← replicas.list? Tree.int32?
          inSync := ← inSync.list? Tree.int32? }
    | _ => none

/-- A policy may also be written as an object that holds `null` under its name. -/
instance : Codec ResetPolicy where
  toValue p := .text p.name
  ofTree?
    | .text name => name.bind ResetPolicy.ofName?
    | .object [(name, .null)] => name.bind ResetPolicy.ofName?
    | _ => none

end ScriptedConsumer.Json

namespace ScriptedConsumer

/-- What the payload of a record stands for. A record without a payload stands for nothing, and a
    payload that is no such document is refused. -/
def Record.decode? (α : Type) [Json.Codec α] (r : Record) : Option (Option α) :=
  match r.value with
  | none => some none
  | some bytes => (Json.read? α (Json.Source.ofBytes bytes)).map some

end ScriptedConsumer
