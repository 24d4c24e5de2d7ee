import ScriptedConsumer.Partition

set_option autoImplicit false

/-! # Rebalance listeners

What a caller hands over with a subscription to be told of a rebalance. The consumer keeps the
listener of the last subscription and never notifies it; whoever wants the notifications makes
them. -/

namespace ScriptedConsumer

/-- What a rebalance listener is told. -/
inductive RebalanceNotice
  | revoked
  | assigned
deriving DecidableEq, Repr

/-- The name under which a notice is shown. -/
def RebalanceNotice.name : RebalanceNotice → String
  | revoked => "revoked"
  | assigned => "assigned"

/-- A listener that writes down what it is told under its name, or one that ignores it. -/
inductive Listener
  | silent
  | named (name : String)
deriving DecidableEq, Repr

/-- One line of what a named listener wrote down. -/
structure ListenerCall where
  name : String
  notice : RebalanceNotice
  partitions : List Partition
deriving DecidableEq, Repr

/-- Tells a listener of a rebalance. -/
def Listener.notify (notice : RebalanceNotice) (partitions : List Partition) :
    Listener → List ListenerCall
  | silent => []
  | named name => [⟨name, notice, partitions⟩]

end ScriptedConsumer
