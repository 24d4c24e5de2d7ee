set_option autoImplicit false

/-! # Placement of a partition

Where a partition lives: the broker that leads it and the brokers that hold a copy. -/

namespace ScriptedConsumer

/-- The brokers of one partition. A partition may be without a leader. -/
structure Placement where
  topic : String
  index : Int32
  leader : Option Int32
  replicas : List Int32
  inSync : List Int32
deriving DecidableEq, Repr, Inhabited

/-- A partition led by one broker that also holds the only copy. -/
def Placement.onBroker (topic : String) (index broker : Int32) : Placement :=
  ⟨topic, index, some broker, [broker], [broker]⟩

end ScriptedConsumer
