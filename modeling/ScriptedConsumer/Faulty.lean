import ScriptedConsumer.Subscription

set_option autoImplicit false

/-! # Trackers with faults

A tracker around another one that misbehaves on request. A refused method does nothing and fails;
the other faults make an answer wrong, or an operation void. Where no fault is on, every call is
passed on unchanged. -/

namespace ScriptedConsumer

/-! ## Faults -/

/-- The methods of a tracker that can be made to fail. -/
inductive Method
  | subscribe
  | assignManually
  | assignFromGroup
  | pause
  | resume
  | position
  | setPosition
  | committed
  | setCommitted
  | isResetNeeded
  | needReset
  | resetPolicy
  | seek
deriving DecidableEq, Repr

namespace Method

/-- The methods that can be made to fail. -/
def all : List Method :=
  [subscribe, assignManually, assignFromGroup, pause, resume, position, setPosition, committed,
    setCommitted, isResetNeeded, needReset, resetPolicy, seek]

/-- The name by which a method is refused. -/
def name : Method → String
  | subscribe => "subscribe"
  | assignManually => "assign_from_user"
  | assignFromGroup => "assign_from_subscribed"
  | pause => "pause"
  | resume => "resume"
  | position => "position"
  | setPosition => "set_position"
  | committed => "committed"
  | setCommitted => "set_committed"
  | isResetNeeded => "is_offset_reset_needed"
  | needReset => "need_offset_reset"
  | resetPolicy => "reset_strategy"
  | seek => "seek"

/-- The failure of a refused method. -/
def refusal (m : Method) : Failure := .injected ("tracker " ++ m.name)

end Method

/-- A way for a tracker to misbehave. -/
inductive Fault
  | refuse (method : Method)
  /-- Subscribing to a pattern does nothing. -/
  | skipSubscribePattern
  /-- Every partition counts as assigned. -/
  | phantomAssigned
  /-- Every partition counts as paused. -/
  | stickyPause
  /-- No partition counts as lacking a position. -/
  | noMissing
  /-- The policy of a pending reset is forgotten. -/
  | forgetResetPolicy
deriving DecidableEq, Repr

namespace Fault

/-- The faults. -/
def all : List Fault :=
  Method.all.map refuse
    ++ [skipSubscribePattern, phantomAssigned, stickyPause, noMissing, forgetResetPolicy]

/-- The name by which a fault is switched. -/
def name : Fault → String
  | refuse method => method.name
  | skipSubscribePattern => "skip_subscribe_pattern"
  | phantomAssigned => "phantom_assigned"
  | stickyPause => "sticky_pause"
  | noMissing => "no_missing"
  | forgetResetPolicy => "forget_reset_strategy"

/-- The fault with the given name. -/
def ofName? (name : String) : Option Fault := all.find? (·.name == name)

end Fault

/-! ## The tracker -/

/-- A tracker, and the faults that are on. -/
structure Faulty (τ : Type) where
  inner : τ
  faults : List Fault
deriving DecidableEq

namespace Faulty

variable {τ α : Type}

/-- A tracker around another one, with no fault on. -/
def around (inner : τ) : Faulty τ := ⟨inner, []⟩

/-- Whether a fault is on. -/
def has (t : Faulty τ) (fault : Fault) : Bool := t.faults.contains fault

/-- Switches a fault on or off. -/
def switch (fault : Fault) (on : Bool) (t : Faulty τ) : Faulty τ :=
  { t with faults := if on then t.faults.insert fault else t.faults.filter (· ≠ fault) }

/-- Runs an operation of the tracker inside. -/
def inside (act : Action τ α) : Action (Faulty τ) α :=
  Action.within inner (fun inner t => { t with inner }) act

/-- Runs an operation of the tracker inside unless its method is refused. -/
def obey (method : Method) (act : Action τ α) : Action (Faulty τ) α := do
  if (← get).has (.refuse method) then throw method.refusal
  inside act

/-- Answers a question through the tracker inside unless its method is refused. -/
def answer (method : Method) (t : Faulty τ) (question : τ → Except Failure α) :
    Except Failure α :=
  if t.has (.refuse method) then .error method.refusal else question t.inner

instance [Tracker τ] : Tracker (Faulty τ) where
  assigned t := Tracker.assigned t.inner
  topics t := Tracker.topics t.inner
  subscribe topics listener := obey .subscribe (Tracker.subscribe topics listener)
  subscribePattern pattern listener := do
    if (← get).has .skipSubscribePattern then pure ()
    else inside (Tracker.subscribePattern pattern listener)
  setMatched topics := inside (Tracker.setMatched topics)
  assignManually ps := obey .assignManually (Tracker.assignManually ps)
  assignFromGroup ps := obey .assignFromGroup (Tracker.assignFromGroup ps)
  unsubscribe t := { t with inner := Tracker.unsubscribe t.inner }
  isAssigned t p := t.has .phantomAssigned || Tracker.isAssigned t.inner p
  isPaused t p := t.has .stickyPause || Tracker.isPaused t.inner p
  pause p := obey .pause (Tracker.pause p)
  resume p := obey .resume (Tracker.resume p)
  position t p := t.answer .position (Tracker.position · p)
  setPosition p offset := obey .setPosition (Tracker.setPosition p offset)
  committed t p := t.answer .committed (Tracker.committed · p)
  setCommitted p commit := obey .setCommitted (Tracker.setCommitted p commit)
  consumed t := Tracker.consumed t.inner
  missing t := if t.has .noMissing then ∅ else Tracker.missing t.inner
  isResetNeeded t p := t.answer .isResetNeeded (Tracker.isResetNeeded · p)
  needReset p policy := obey .needReset (Tracker.needReset p policy)
  defaultPolicy t := Tracker.defaultPolicy t.inner
  resetPolicy t p := t.answer .resetPolicy fun inner =>
    if t.has .forgetResetPolicy then .ok none else Tracker.resetPolicy inner p
  seek p offset := obey .seek (Tracker.seek p offset)

end Faulty

/-! ## Switching faults of any tracker -/

/-- A tracker whose faults can be switched. A tracker that has none ignores the switch. -/
class Switchable (τ : Type) where
  switch : Fault → Bool → τ → τ

instance {τ : Type} : Switchable (Faulty τ) := ⟨Faulty.switch⟩

instance : Switchable Subscription := ⟨fun _ _ s => s⟩

end ScriptedConsumer
