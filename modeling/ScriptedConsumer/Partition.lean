import Std.Data.ExtTreeMap
import Std.Data.ExtTreeSet
import ScriptedConsumer.Text.Decimal

set_option autoImplicit false

/-! # Partitions, and the maps and sets keyed by them

A partition is a topic name with a signed 32-bit index. Partitions are ordered by topic, code
point by code point, and within a topic by index. Maps and sets keyed by partitions are the
extensional ordered trees of `Std`: two of them are equal when they answer every lookup alike, and
`toList` lists their entries in the order of partitions.

A caller may hold the same entries in another order. `Visiting` is such an order of visit; the
operations that walk a map take one, so that it can be said that none of them depends on it. -/

namespace ScriptedConsumer

/-- A topic name paired with a partition index. -/
structure Partition where
  topic : String
  index : Int32
deriving DecidableEq, Repr, Inhabited

namespace Partition

/-- The order of partitions: by topic first, by index within a topic. -/
instance : Ord Partition where
  compare := compareLex (compareOn Partition.topic) (compareOn Partition.index)

instance : Std.TransOrd Partition :=
  inferInstanceAs (Std.TransCmp
    (compareLex (compareOn Partition.topic) (compareOn Partition.index)))

theorem compare_eq (p q : Partition) :
    compare p q = (compare p.topic q.topic).then (compare p.index q.index) := rfl

instance : Std.LawfulEqOrd Partition where
  eq_of_compare := by
    intro p q h
    rw [compare_eq, Ordering.then_eq_eq] at h
    cases p
    cases q
    simp only [Std.LawfulEqOrd.compare_eq_iff_eq] at h
    simp only [h.1, h.2]

theorem compare_ne_eq {p q : Partition} (h : p ≠ q) : ¬ compare p q = .eq := fun he =>
  h (Std.LawfulEqOrd.eq_of_compare he)

/-- The written form: the topic, a hyphen and the index in decimal. -/
def text (p : Partition) : String :=
  p.topic ++ "-" ++ Text.intString p.index.toInt

end Partition

/-- A map keyed by partitions. -/
abbrev PartitionMap (β : Type) := Std.ExtTreeMap Partition β

/-- A finite set of partitions. -/
abbrev PartitionSet := Std.ExtTreeSet Partition

/-- A finite set of topic names, in the order of code points. -/
abbrev TopicSet := Std.ExtTreeSet String

/-! ## Orders of visit -/

/-- An order in which the entries of maps are visited: each map's entries, each once. -/
structure Visiting (β : Type) where
  entries : PartitionMap β → List (Partition × β)
  perm : ∀ m : PartitionMap β, (entries m).Perm m.toList

/-- The order of visit that follows the order of partitions. -/
def Visiting.sorted {β : Type} : Visiting β := ⟨fun m => m.toList, fun _ => .refl _⟩

end ScriptedConsumer
