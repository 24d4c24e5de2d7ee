import ScriptedConsumer.Event

set_option autoImplicit false

/-! # Actions

An operation on a state ends in a result or a failure, leaves a state and makes events known. A
failure stops the operation but takes nothing back: the state and the events are those reached so
far. `Action σ` is the monad of such operations; a bind runs the second operation from the state
that the first one left, and puts the events in order. -/

namespace ScriptedConsumer

/-- What came of an operation on a state. -/
structure Outcome (σ α : Type) where
  result : Except Failure α
  state : σ
  events : List Event

/-- The outcome of an operation that was run after the given events. -/
def Outcome.after {σ α : Type} (o : Outcome σ α) (events : List Event) : Outcome σ α :=
  { o with events := events ++ o.events }

/-- An operation on states of type `σ` with a result of type `α`. -/
def Action (σ α : Type) : Type := σ → Outcome σ α

namespace Action

variable {σ ρ α β ι : Type}

/-- Runs an operation from a state. -/
def run (act : Action σ α) (s : σ) : Outcome σ α := act s

instance : Monad (Action σ) where
  pure a := fun s => ⟨.ok a, s, []⟩
  bind act f := fun s =>
    match act s with
    | ⟨.ok a, s', events⟩ => (f a s').after events
    | ⟨.error e, s', events⟩ => ⟨.error e, s', events⟩

instance : MonadStateOf σ (Action σ) where
  get := fun s => ⟨.ok s, s, []⟩
  set s := fun _ => ⟨.ok (), s, []⟩
  modifyGet f := fun s => ⟨.ok (f s).1, (f s).2, []⟩

instance : MonadExceptOf Failure (Action σ) where
  throw e := fun s => ⟨.error e, s, []⟩
  tryCatch act handle := fun s =>
    match act s with
    | ⟨.ok a, s', events⟩ => ⟨.ok a, s', events⟩
    | ⟨.error e, s', events⟩ => (handle e s').after events

/-- Makes an event known. -/
def note (event : Event) : Action σ Unit := fun s => ⟨.ok (), s, [event]⟩

/-- Writes a log entry. -/
def log (entry : Entry) : Action σ Unit := note (.logged entry)

/-- Increments a counter. -/
def count (counter : Counter) (amount : Nat) : Action σ Unit := note (.counted counter amount)

/-- Asks the state a question that may be refused. -/
def ask (question : σ → Except Failure α) : Action σ α := fun s => ⟨question s, s, []⟩

/-- Runs an operation on a part of the state. -/
def within (part : σ → ρ) (replace : ρ → σ → σ) (act : Action ρ α) : Action σ α := fun s =>
  let o := act (part s)
  ⟨o.result, replace o.state s, o.events⟩

/-- Runs an operation for each item in turn, up to the first failure. -/
def each (f : ι → Action σ Unit) : List ι → Action σ Unit
  | [] => pure ()
  | x :: rest => do
    f x
    each f rest

/-- Runs an operation for each item in turn and keeps the results, up to the first failure. -/
def collect (f : ι → Action σ α) : List ι → Action σ (List α)
  | [] => pure []
  | x :: rest => do
    let a ← f x
    let as ← collect f rest
    pure (a :: as)

/-! ## Running the parts of an operation -/

@[simp]
theorem run_pure (a : α) (s : σ) : (pure a : Action σ α).run s = ⟨.ok a, s, []⟩ := rfl

theorem run_bind (act : Action σ α) (f : α → Action σ β) (s : σ) :
    (act >>= f).run s =
      match (act.run s).result with
      | .ok a => ((f a).run (act.run s).state).after (act.run s).events
      | .error e => ⟨.error e, (act.run s).state, (act.run s).events⟩ := by
  show (match act s with
    | ⟨.ok a, s', events⟩ => (f a s').after events
    | ⟨.error e, s', events⟩ => ⟨.error e, s', events⟩) = _
  unfold run
  rcases act s with ⟨⟨⟩, _, _⟩ <;> rfl

@[simp]
theorem run_map (f : α → β) (act : Action σ α) (s : σ) :
    (f <$> act).run s =
      ⟨(act.run s).result.map f, (act.run s).state, (act.run s).events⟩ := by
  show (act >>= fun a => pure (f a)).run s = _
  rw [run_bind]
  rcases act.run s with ⟨⟨⟩, _, _⟩ <;> simp [Outcome.after, Except.map]

theorem run_bind_ok {act : Action σ α} {s s' : σ} {a : α} {events : List Event}
    (h : act.run s = ⟨.ok a, s', events⟩) (f : α → Action σ β) :
    (act >>= f).run s = ((f a).run s').after events := by
  rw [run_bind, h]

theorem run_bind_error {act : Action σ α} {s s' : σ} {e : Failure} {events : List Event}
    (h : act.run s = ⟨.error e, s', events⟩) (f : α → Action σ β) :
    (act >>= f).run s = ⟨.error e, s', events⟩ := by
  rw [run_bind, h]

@[simp]
theorem run_get (s : σ) : (get : Action σ σ).run s = ⟨.ok s, s, []⟩ := rfl

@[simp]
theorem run_set (s t : σ) : (set t : Action σ Unit).run s = ⟨.ok (), t, []⟩ := rfl

@[simp]
theorem run_modify (f : σ → σ) (s : σ) :
    (modify f : Action σ Unit).run s = ⟨.ok (), f s, []⟩ := rfl

@[simp]
theorem run_throw (e : Failure) (s : σ) :
    (throw e : Action σ α).run s = ⟨.error e, s, []⟩ := rfl

@[simp]
theorem run_log (entry : Entry) (s : σ) :
    (log entry : Action σ Unit).run s = ⟨.ok (), s, [.logged entry]⟩ := rfl

@[simp]
theorem run_count (counter : Counter) (amount : Nat) (s : σ) :
    (count counter amount : Action σ Unit).run s = ⟨.ok (), s, [.counted counter amount]⟩ := rfl

@[simp]
theorem run_ask (question : σ → Except Failure α) (s : σ) :
    (ask question).run s = ⟨question s, s, []⟩ := rfl

@[simp]
theorem run_within (part : σ → ρ) (replace : ρ → σ → σ) (act : Action ρ α) (s : σ) :
    (within part replace act).run s =
      ⟨(act.run (part s)).result, replace (act.run (part s)).state s,
        (act.run (part s)).events⟩ := rfl

@[ext]
theorem ext {act act' : Action σ α} (h : ∀ s, act.run s = act'.run s) : act = act' := funext h

theorem id_map' (act : Action σ α) : id <$> act = act := by
  ext s : 1
  rcases h : act.run s with ⟨⟨⟩, _, _⟩ <;> simp [h, Except.map]

theorem bind_assoc' {γ : Type} (act : Action σ α) (f : α → Action σ β) (g : β → Action σ γ) :
    act >>= f >>= g = act >>= fun a => f a >>= g := by
  ext s : 1
  simp only [run_bind]
  rcases act.run s with ⟨_ | a, s', events⟩
  · rfl
  · simp only [Outcome.after]
    rcases (f a).run s' with ⟨⟨⟩, _, _⟩ <;> simp [List.append_assoc]

theorem pure_bind' (a : α) (f : α → Action σ β) : (pure a >>= f) = f a := by
  ext s : 1
  simp [run_bind, Outcome.after]

instance : LawfulMonad (Action σ) := LawfulMonad.mk' _ id_map' pure_bind' bind_assoc'

end Action

end ScriptedConsumer
