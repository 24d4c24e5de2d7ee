import ScriptedConsumer.Settings

set_option autoImplicit false

/-! # Events

What an operation makes known besides its result: log entries, and increments of counters. A log
entry is a constructor that carries its fields; its level, its wording and the names of its fields
are given here. A counter that was touched shows its total, even when that is zero; one that was
never touched does not show. -/

namespace ScriptedConsumer

/-! ## Log entries -/

/-- How important a log entry is. -/
inductive Level
  | debug
  | info
deriving DecidableEq, Repr

/-- What an operation writes to the log. -/
inductive Entry
  | rebalanced (assigned dropped : Nat)
  | resumed (partition : Partition) (offset : Int64)
  | offsetReset (partition : Partition) (policy : ResetPolicy) (offset : Int64)
  | patternResolved (pattern : String) (matched : Nat)
  | taskStarted
  | wokenUp
  | discarded (records : Nat)
  | committed (partitions : Nat)
  | consumerClosed (timeout : Timeout)
  | subscriptionChanged (topics : TopicSet)
  | assignmentChanged (partitions : Nat)
deriving DecidableEq, Repr

/-- The value of a field of a log entry. -/
inductive FieldValue
  | number (n : Int)
  | text (s : String)
deriving DecidableEq, Repr

namespace Entry

/-- Rebalances and closing are of interest by themselves, the rest is for following a run. -/
def level : Entry → Level
  | rebalanced .. | consumerClosed .. => .info
  | _ => .debug

/-- The wording of a log entry. -/
def message : Entry → String
  | rebalanced .. => "Simulated rebalance"
  | resumed .. => "Resuming from committed offset"
  | offsetReset .. => "Reset offset position"
  | patternResolved .. => "Resolved pattern subscription"
  | taskStarted => "Running scheduled poll task"
  | wokenUp => "Poll interrupted by wakeup"
  | discarded .. => "Dropped records for partitions no longer assigned"
  | committed .. => "Committed offsets"
  | consumerClosed .. => "Mock consumer closed"
  | subscriptionChanged .. => "Subscription changed"
  | assignmentChanged .. => "Manual assignment changed"

/-- The named fields of a log entry. The topics of a changed subscription are left to the entry: the
    order in which a set of them is written is not fixed. -/
def fields : Entry → List (String × FieldValue)
  | rebalanced assigned dropped =>
      [("assigned_partitions", .number assigned), ("dropped_records", .number dropped)]
  | resumed p offset =>
      [("topic", .text p.topic), ("partition", .number p.index.toInt),
        ("offset", .number offset.toInt)]
  | offsetReset p policy offset =>
      [("topic", .text p.topic), ("partition", .number p.index.toInt),
        ("strategy", .text policy.name), ("offset", .number offset.toInt)]
  | patternResolved pattern matched =>
      [("pattern", .text pattern), ("matched_topics", .number matched)]
  | discarded records => [("discarded_records", .number records)]
  | committed partitions => [("partitions", .number partitions)]
  | consumerClosed timeout => [("timeout", .text timeout.text)]
  | assignmentChanged partitions => [("partitions", .number partitions)]
  | taskStarted | wokenUp | subscriptionChanged .. => []

end Entry

/-! ## Counters -/

/-- What is counted. -/
inductive Counter
  | polls
  | tasksRun
  | wakeups
  | injectedErrors
  | discardedRecords
  | deliveredRecords
deriving DecidableEq, Repr

namespace Counter

/-- The counters. -/
def all : List Counter :=
  [polls, tasksRun, wakeups, injectedErrors, discardedRecords, deliveredRecords]

/-- The name under which a counter is published. -/
def name : Counter → String
  | polls => "mock_consumer_polls_total"
  | tasksRun => "mock_consumer_poll_tasks_run_total"
  | wakeups => "mock_consumer_wakeups_total"
  | injectedErrors => "mock_consumer_injected_errors_total"
  | discardedRecords => "mock_consumer_records_discarded_total"
  | deliveredRecords => "mock_consumer_records_delivered_total"

end Counter

/-! ## Events -/

/-- A log entry, or an increment of a counter. -/
inductive Event
  | logged (entry : Entry)
  | counted (counter : Counter) (amount : Nat)
deriving DecidableEq, Repr

/-- The entries among the events. -/
def entriesOf (events : List Event) : List Entry :=
  events.filterMap fun
    | .logged entry => some entry
    | .counted .. => none

/-- The amounts by which events increment a counter. -/
def Counter.increments (counter : Counter) (events : List Event) : List Nat :=
  events.filterMap fun
    | .counted c amount => if c = counter then some amount else none
    | .logged _ => none

/-- The sum of a counter's increments. -/
def Counter.total (counter : Counter) (events : List Event) : Nat :=
  (counter.increments events).foldr (· + ·) 0

/-- The total of a counter, if the events touch it. -/
def Counter.total? (counter : Counter) (events : List Event) : Option Nat :=
  if counter.increments events = [] then none else some (counter.total events)

theorem entriesOf_append (xs ys : List Event) :
    entriesOf (xs ++ ys) = entriesOf xs ++ entriesOf ys :=
  List.filterMap_append

theorem Counter.total_append (counter : Counter) (xs ys : List Event) :
    counter.total (xs ++ ys) = counter.total xs + counter.total ys := by
  simp only [total, increments, List.filterMap_append]
  exact List.sum_append

end ScriptedConsumer
