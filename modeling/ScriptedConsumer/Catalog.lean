import Std.Data.ExtTreeMap
import ScriptedConsumer.Placement

set_option autoImplicit false

/-! # The catalog of topics

The topics that a consumer knows of, each with the placements of its partitions. Two catalogs are
equal when they list the same placements for every topic. -/

namespace ScriptedConsumer

/-- The known topics and their partitions. -/
structure Catalog where
  topics : Std.ExtTreeMap String (List Placement)
deriving DecidableEq

namespace Catalog

/-- The catalog that knows no topic. -/
def empty : Catalog := ⟨∅⟩

/-- Replaces the partitions of a topic. -/
def update (c : Catalog) (topic : String) (placements : List Placement) : Catalog :=
  ⟨c.topics.insert topic placements⟩

/-- Registers a topic with `count` partitions on broker 0, each with one copy. A count below one
    registers a topic without partitions. -/
def withTopic (c : Catalog) (topic : String) (count : Int32) : Catalog :=
  c.update topic <|
    (List.range count.toInt.toNat).map fun i => Placement.onBroker topic (Int32.ofNat i) 0

/-- The partitions of a topic, if it is known. -/
def placements? (c : Catalog) (topic : String) : Option (List Placement) := c.topics[topic]?

/-- The names of the known topics, in order. -/
def names (c : Catalog) : List String := c.topics.keys

/-- The number of known topics. -/
def size (c : Catalog) : Nat := c.topics.size

/-- Whether no topic is known. -/
def isEmpty (c : Catalog) : Bool := c.topics.isEmpty

end Catalog

end ScriptedConsumer
