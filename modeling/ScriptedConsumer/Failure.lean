import ScriptedConsumer.Partition

set_option autoImplicit false

/-! # Failures

Why an operation was refused. Each cause is a constructor that carries what the cause is about,
and its wording is given once, in `Failure.message`. A wakeup is a signal rather than an error: the
caller asked for the poll to be aborted and decides whether to poll again. -/

namespace ScriptedConsumer

/-! ## Errors of the client library -/

/-- The response codes that a client error may carry. The library has many more than are named here;
    each of those is its written form. -/
inductive ResponseCode
  | brokerNotAvailable
  | offsetOutOfRange
  | unknownTopicOrPartition
  | invalidArgument
  | other (text : String)
deriving DecidableEq, Repr

/-- The written form of a response code: its name, and in brackets who reports it and why. -/
def ResponseCode.text : ResponseCode → String
  | brokerNotAvailable => "BrokerNotAvailable (Broker: Broker not available)"
  | offsetOutOfRange => "OffsetOutOfRange (Broker: Offset out of range)"
  | unknownTopicOrPartition => "UnknownTopicOrPartition (Broker: Unknown topic or partition)"
  | invalidArgument => "InvalidArgument (Local: Invalid argument or configuration)"
  | other text => text

/-- An error of the client library that a real consumer is built on. Such errors are only passed on,
    so those that have no constructor of their own are what tells them apart, and their wording. -/
inductive ClientError
  | consumption (code : ResponseCode)
  | fatalConsumption (code : ResponseCode)
  | commit (code : ResponseCode)
  | global (code : ResponseCode)
  | clientDropped
  | noMessageReceived
  | endOfPartition (index : Int32)
  | seek (text : String)
  | subscription (text : String)
  | setOffset (code : ResponseCode)
  | other (identity wording : String)
deriving DecidableEq, Repr

/-- The wording of a client error. -/
def ClientError.message : ClientError → String
  | consumption code => "Message consumption error: " ++ code.text
  | fatalConsumption code => "(Fatal) Message consumption error: " ++ code.text
  | commit code => "Consumer commit error: " ++ code.text
  | global code => "Global error: " ++ code.text
  | clientDropped => "KafkaError (Client dropped)"
  | noMessageReceived => "No message received within the given poll interval"
  | endOfPartition index => "Partition EOF: " ++ Text.intString index.toInt
  | seek text => "Seek error: " ++ text
  | subscription text => "Subscription error: " ++ text
  | setOffset code => "Set partition offset error: " ++ code.text
  | other _ wording => wording

/-! ## Failures of the consumer -/

/-- Why an operation of the consumer or of its tracker was refused. -/
inductive Failure
  | closed
  | unassigned (partition : Partition)
  | recordForUnassigned (partition : Partition)
  | offsetOutOfRange (partition : Partition) (offset : Int64)
  | positionForUnassigned (partition : Partition)
  | exclusiveSubscription
  | patternModeRequired (mode : String)
  | notAutoAssigned (mode : String)
  | topicNotSubscribed (partition : Partition)
  | noCurrentPosition (partition : Partition)
  | missingBeginning (partition : Partition)
  | missingEnd (partition : Partition)
  | noOffset (partition : Partition)
  | wakeup
  | client (error : ClientError)
  | injected (text : String)
  | unsupported (operation : String)
  /-- A pattern could not be read. In which words the regular-expression library says why is left
      out here, as nothing depends on it. -/
  | invalidPattern
  | invalidPolicy (text : String)
deriving DecidableEq, Repr

namespace Failure

/-- The wording of a failure. -/
def message : Failure → String
  | closed => "this consumer has already been closed"
  | unassigned p => "no current assignment for partition " ++ p.text
  | recordForUnassigned p =>
      "cannot add records for partition " ++ p.text ++ " that is not assigned to the consumer"
  | offsetOutOfRange p offset =>
      "record offset " ++ Text.intString offset.toInt ++ " for partition " ++ p.text
        ++ " leaves no room for a next position"
  | positionForUnassigned p =>
      "can only check the position for partitions assigned to this consumer, got " ++ p.text
  | exclusiveSubscription =>
      "subscription to topics, partitions and pattern are mutually exclusive"
  | patternModeRequired mode =>
      "attempt to subscribe from pattern while subscription type is " ++ mode
  | notAutoAssigned mode =>
      "attempt to dynamically assign partitions while subscription type is " ++ mode
  | topicNotSubscribed p => "assigned partition " ++ p.text ++ " for non-subscribed topic"
  | noCurrentPosition p =>
      "cannot set a new position for " ++ p.text ++ " without a valid current position"
  | missingBeginning p => "partition " ++ p.text ++ " has no scripted beginning offset"
  | missingEnd p => "partition " ++ p.text ++ " has no scripted end offset"
  | noOffset p => "undefined offset with no reset policy for partition " ++ p.text
  | wakeup => "poll aborted by wakeup"
  | client error => "kafka error: " ++ error.message
  | injected text => "injected error: " ++ text
  | unsupported operation => operation ++ " is not supported by the mock consumer"
  | invalidPattern => "invalid subscription pattern"
  | invalidPolicy text => text ++ " is not a valid offset reset strategy"

/-- Whether the failure is the signal that a poll was aborted on request. -/
def isWakeup (f : Failure) : Bool := f = wakeup

/-- The partitions whose offset could not be established for want of a reset policy. -/
def partitions : Failure → List Partition
  | noOffset p => [p]
  | _ => []

end Failure

end ScriptedConsumer
