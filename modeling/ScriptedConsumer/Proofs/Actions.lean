import ScriptedConsumer.Action

set_option autoImplicit false

/-! # What operations do to a state

Six ways to speak of an operation without running it in full. `Keeps f` says that a part `f` of
the state is the same afterwards, whether the operation succeeds or not; it follows the shape of the
operation, one lemma for each way to build one. `Maintains I` says in the same way that `I` holds
afterwards if it held before, and `Emits P` that all events are of a kind; what such properties have
in common is `Hereditary`. `Abreast` compares two operations on two states that are alike. `Clean`
says that the whole state is the same, but only for the case of failure. And where it is known how
the first half of an operation ends, the result and the state of the whole are those of the second
half.

A loop is followed with an invariant: `run_each_of` for loops that succeed at every item, and
`run_collect` for loops that only ask. -/

namespace ScriptedConsumer

namespace Action

variable {σ ρ α β γ ι : Type}

/-! ## Halves of an operation -/

theorem bind_of_ok {act : Action σ α} {s : σ} {a : α} (h : (act.run s).result = .ok a)
    (k : α → Action σ β) :
    ((act >>= k).run s).result = ((k a).run (act.run s).state).result ∧
      ((act >>= k).run s).state = ((k a).run (act.run s).state).state := by
  rw [run_bind, h]
  exact ⟨rfl, rfl⟩

theorem bind_of_error {act : Action σ α} {s : σ} {e : Failure} (h : (act.run s).result = .error e)
    (k : α → Action σ β) :
    ((act >>= k).run s).result = .error e ∧ ((act >>= k).run s).state = (act.run s).state := by
  rw [run_bind, h]
  exact ⟨rfl, rfl⟩

/-- Two operations that begin alike do the same if they go on alike from where that leads. -/
theorem run_bind_congr {act : Action σ α} {k k' : α → Action σ β} {s : σ}
    (h : ∀ a, (act.run s).result = .ok a →
      (k a).run (act.run s).state = (k' a).run (act.run s).state) :
    (act >>= k).run s = (act >>= k').run s := by
  rw [run_bind, run_bind]
  cases hr : (act.run s).result with
  | error e => rfl
  | ok a =>
      dsimp only
      rw [h a hr]

theorem run_bind_of_eq {act act' : Action σ α} {s : σ} (h : act.run s = act'.run s)
    (k : α → Action σ β) : (act >>= k).run s = (act' >>= k).run s := by
  rw [run_bind, run_bind, h]

/-- Looking at the state first leads nowhere else. -/
theorem run_get_bind (k : σ → Action σ α) (s : σ) :
    ((MonadState.get : Action σ σ) >>= k).run s = (k s).run s := rfl

/-- An operation whose result is only dressed up fails and changes the state as it would bare. -/
theorem bind_pure (act : Action σ α) (g : α → β) (s : σ) :
    ((act >>= fun a => pure (g a)).run s).result = (act.run s).result.map g ∧
      ((act >>= fun a => pure (g a)).run s).state = (act.run s).state := by
  cases hr : (act.run s).result with
  | error e => exact bind_of_error hr _
  | ok a =>
      obtain ⟨hres, hstate⟩ := bind_of_ok hr fun a => (pure (g a) : Action σ β)
      rw [hres, hstate]
      exact ⟨rfl, rfl⟩

theorem events_bind_of_ok {act : Action σ α} {s : σ} {a : α} (h : (act.run s).result = .ok a)
    (k : α → Action σ β) :
    ((act >>= k).run s).events = (act.run s).events ++ ((k a).run (act.run s).state).events := by
  rw [run_bind, h]
  rfl

theorem events_bind_of_error {act : Action σ α} {s : σ} {e : Failure}
    (h : (act.run s).result = .error e) (k : α → Action σ β) :
    ((act >>= k).run s).events = (act.run s).events := by
  rw [run_bind, h]

theorem events_bind_pure (act : Action σ α) (g : α → β) (s : σ) :
    ((act >>= fun a => pure (g a)).run s).events = (act.run s).events := by
  cases hr : (act.run s).result with
  | error e => exact events_bind_of_error hr _
  | ok a => exact (events_bind_of_ok hr _).trans (List.append_nil _)

/-! ## What parts pass on -/

/-- A property that every operation has that only looks, and that an operation has if its parts
    have it. -/
structure Hereditary (Q : (α : Type) → Action σ α → Prop) : Prop where
  pure {α : Type} (a : α) : Q α (Pure.pure a)
  get : Q σ MonadState.get
  throw {α : Type} (e : Failure) : Q α (MonadExcept.throw e)
  ask {α : Type} (question : σ → Except Failure α) : Q α (Action.ask question)
  bind {α β : Type} {act : Action σ α} {k : α → Action σ β} :
    Q α act → (∀ a, Q β (k a)) → Q β (act >>= k)

namespace Hereditary

variable {Q : (α : Type) → Action σ α → Prop}

theorem checked (hQ : Hereditary Q) {refused : Prop} [Decidable refused] {e : Failure}
    {k : Unit → Action σ α} (h : Q α (k ())) :
    Q α (if refused then MonadExcept.throw e >>= k else k ()) := by
  split
  · exact hQ.bind (hQ.throw e) fun _ => h
  · exact h

theorem each (hQ : Hereditary Q) {f : ι → Action σ Unit} {xs : List ι}
    (h : ∀ x ∈ xs, Q Unit (f x)) : Q Unit (Action.each f xs) := by
  induction xs with
  | nil => exact hQ.pure ()
  | cons x rest ih =>
      exact hQ.bind (h x (List.mem_cons_self ..)) fun _ =>
        ih fun y hy => h y (List.mem_cons_of_mem _ hy)

theorem collect (hQ : Hereditary Q) {f : ι → Action σ α} (h : ∀ x, Q α (f x)) :
    ∀ xs, Q (List α) (Action.collect f xs)
  | [] => hQ.pure []
  | x :: rest => hQ.bind (h x) fun _ => hQ.bind (collect hQ h rest) fun _ => hQ.pure _

end Hereditary

/-! ## Parts that stay -/

/-- The operation leaves a part of the state as it is, however it ends. -/
def Keeps (f : σ → γ) (act : Action σ α) : Prop := ∀ s, f (act.run s).state = f s

namespace Keeps

variable {f : σ → γ}

theorem pure (a : α) : Keeps f (Pure.pure a : Action σ α) := by
  intro s
  rw [run_pure]

theorem get : Keeps f (MonadState.get : Action σ σ) := by
  intro s
  rfl

theorem throw (e : Failure) : Keeps f (MonadExcept.throw e : Action σ α) := by
  intro s
  rfl

theorem log (entry : Entry) : Keeps f (Action.log entry : Action σ Unit) := by
  intro s
  rw [run_log]

theorem count (counter : Counter) (n : Nat) :
    Keeps f (Action.count counter n : Action σ Unit) := by
  intro s
  rw [run_count]

theorem ask (question : σ → Except Failure α) : Keeps f (Action.ask question) := by
  intro s
  rw [run_ask]

theorem modify {g : σ → σ} (h : ∀ s, f (g s) = f s) :
    Keeps f (MonadState.modifyGet fun s => ((), g s) : Action σ Unit) := by
  intro s
  exact h s

theorem within {part : σ → ρ} {replace : ρ → σ → σ} (h : ∀ t s, f (replace t s) = f s)
    (act : Action ρ α) : Keeps f (Action.within part replace act) := by
  intro s
  rw [run_within]
  exact h _ s

theorem bind {act : Action σ α} {k : α → Action σ β} (h : Keeps f act)
    (hk : ∀ a, Keeps f (k a)) : Keeps f (act >>= k) := by
  intro s
  cases hr : (act.run s).result with
  | error e => rw [(bind_of_error hr k).2, h s]
  | ok a => rw [(bind_of_ok hr k).2, hk a, h s]

theorem checked {refused : Prop} [Decidable refused] {e : Failure} {k : Unit → Action σ α}
    (h : Keeps f (k ())) :
    Keeps f (if refused then MonadExcept.throw e >>= k else k ()) := by
  split
  · exact bind (throw e) fun _ => h
  · exact h

theorem each {g : ι → Action σ Unit} (h : ∀ x, Keeps f (g x)) :
    ∀ xs, Keeps f (Action.each g xs)
  | [] => pure ()
  | x :: rest => bind (h x) fun _ => each h rest

theorem collect {g : ι → Action σ α} (h : ∀ x, Keeps f (g x)) :
    ∀ xs, Keeps f (Action.collect g xs)
  | [] => pure []
  | x :: rest => bind (h x) fun _ => bind (collect h rest) fun _ => pure _

end Keeps

/-! ## Invariants -/

/-- The operation carries an invariant of the state on, however it ends. -/
def Maintains (I : σ → Prop) (act : Action σ α) : Prop := ∀ s, I s → I (act.run s).state

namespace Maintains

variable {I : σ → Prop}

/-- An operation that changes nothing carries every invariant on. -/
theorem of_keeps {act : Action σ α} (h : Keeps id act) : Maintains I act := by
  intro s hs
  have hsame : (act.run s).state = s := h s
  rw [hsame]
  exact hs

theorem modify {g : σ → σ} (h : ∀ s, I s → I (g s)) :
    Maintains I (MonadState.modifyGet fun s => ((), g s) : Action σ Unit) := by
  intro s hs
  exact h s hs

theorem bind {act : Action σ α} {k : α → Action σ β} (h : Maintains I act)
    (hk : ∀ a, Maintains I (k a)) : Maintains I (act >>= k) := by
  intro s hs
  cases hr : (act.run s).result with
  | error e =>
      rw [(bind_of_error hr k).2]
      exact h s hs
  | ok a =>
      rw [(bind_of_ok hr k).2]
      exact hk a _ (h s hs)

/-- An operation that looks at the state first may make use of what it saw. -/
theorem bind_get {k : σ → Action σ α} (hk : ∀ s, I s → I ((k s).run s).state) :
    Maintains I (MonadState.get >>= k) := by
  intro s hs
  exact hk s hs

theorem hereditary (I : σ → Prop) : Hereditary fun α => Maintains (α := α) I where
  pure a := of_keeps (.pure a)
  get := of_keeps .get
  throw e := of_keeps (.throw e)
  ask question := of_keeps (.ask question)
  bind h hk := bind h hk

theorem each {xs : List ι} {f : ι → Action σ Unit} (h : ∀ x ∈ xs, Maintains I (f x)) :
    Maintains I (Action.each f xs) := (hereditary I).each h

end Maintains

/-! ## What an operation makes known -/

/-- Whatever the operation makes known, however it ends, is of a kind. -/
def Emits (P : Event → Prop) (act : Action σ α) : Prop := ∀ s, ∀ event ∈ (act.run s).events, P event

namespace Emits

variable {P : Event → Prop}

theorem of_silent {act : Action σ α} (h : ∀ s, (act.run s).events = []) : Emits P act := by
  intro s event he
  rw [h s] at he
  cases he

theorem log {entry : Entry} (h : P (.logged entry)) :
    Emits P (Action.log entry : Action σ Unit) := by
  intro s event he
  rw [List.mem_singleton.1 he]
  exact h

theorem within {part : σ → ρ} {replace : ρ → σ → σ} {act : Action ρ α} (h : Emits P act) :
    Emits P (Action.within part replace act) := by
  intro s
  exact h (part s)

theorem bind {act : Action σ α} {k : α → Action σ β} (h : Emits P act)
    (hk : ∀ a, Emits P (k a)) : Emits P (act >>= k) := by
  intro s event he
  rw [run_bind] at he
  cases hr : (act.run s).result with
  | error e =>
      rw [hr] at he
      exact h s event he
  | ok a =>
      rw [hr] at he
      rcases List.mem_append.1 he with he | he
      · exact h s event he
      · exact hk a _ event he

theorem hereditary (P : Event → Prop) : Hereditary fun α => Emits (σ := σ) (α := α) P where
  pure _ := of_silent fun _ => rfl
  get := of_silent fun _ => rfl
  throw _ := of_silent fun _ => rfl
  ask _ := of_silent fun _ => rfl
  bind h hk := bind h hk

end Emits

/-! ## Two operations side by side -/

/-- Two operations end well, and with related results, or both of them fail. -/
inductive EndAlike (R : α → β → Prop) : Except Failure α → Except Failure β → Prop
  | well {a : α} {b : β} (h : R a b) : EndAlike R (.ok a) (.ok b)
  | badly (e f : Failure) : EndAlike R (.error e) (.error f)

/-- From states that are alike two operations come to states that are alike, and they end alike. -/
def Abreast (S : σ → σ → Prop) (R : α → β → Prop) (act : Action σ α) (act' : Action σ β) : Prop :=
  ∀ s s', S s s' →
    S (act.run s).state (act'.run s').state ∧ EndAlike R (act.run s).result (act'.run s').result

namespace Abreast

variable {S : σ → σ → Prop} {R : α → β → Prop}

theorem pure {a : α} {b : β} (h : R a b) : Abreast S R (Pure.pure a) (Pure.pure b) := by
  intro s s' hs
  exact ⟨hs, .well h⟩

theorem get : Abreast S S MonadState.get MonadState.get := by
  intro s s' hs
  exact ⟨hs, .well hs⟩

theorem throw (e f : Failure) : Abreast S R (MonadExcept.throw e) (MonadExcept.throw f) := by
  intro s s' hs
  exact ⟨hs, .badly e f⟩

theorem log (entry entry' : Entry) :
    Abreast S (fun _ _ => True) (Action.log entry) (Action.log entry') := by
  intro s s' hs
  exact ⟨hs, .well trivial⟩

theorem ask {question : σ → Except Failure α} (h : ∀ s s', S s s' → question s = question s') :
    Abreast S (· = ·) (Action.ask question) (Action.ask question) := by
  intro s s' hs
  refine ⟨hs, ?_⟩
  rw [run_ask, run_ask, h s s' hs]
  cases question s' with
  | error e => exact .badly e e
  | ok a => exact .well rfl

theorem modify {g g' : σ → σ} (h : ∀ s s', S s s' → S (g s) (g' s')) :
    Abreast S (fun _ _ => True) (MonadState.modifyGet fun s => ((), g s) : Action σ Unit)
      (MonadState.modifyGet fun s => ((), g' s) : Action σ Unit) := by
  intro s s' hs
  exact ⟨h s s' hs, .well trivial⟩

theorem bind {α' β' : Type} {R' : α' → β' → Prop} {act : Action σ α} {act' : Action σ β}
    {k : α → Action σ α'} {k' : β → Action σ β'} (h : Abreast S R act act')
    (hk : ∀ a b, R a b → Abreast S R' (k a) (k' b)) : Abreast S R' (act >>= k) (act' >>= k') := by
  intro s s' hs
  obtain ⟨hstate, hend⟩ := h s s' hs
  cases hr : (act.run s).result with
  | error e =>
      cases hr' : (act'.run s').result with
      | error f =>
          obtain ⟨hres, hsame⟩ := bind_of_error hr k
          obtain ⟨hres', hsame'⟩ := bind_of_error hr' k'
          rw [hres, hsame, hres', hsame']
          exact ⟨hstate, .badly e f⟩
      | ok b =>
          rw [hr, hr'] at hend
          cases hend
  | ok a =>
      cases hr' : (act'.run s').result with
      | error f =>
          rw [hr, hr'] at hend
          cases hend
      | ok b =>
          rw [hr, hr'] at hend
          obtain ⟨hres, hnext⟩ := bind_of_ok hr k
          obtain ⟨hres', hnext'⟩ := bind_of_ok hr' k'
          rw [hres, hnext, hres', hnext']
          cases hend with
          | well hab => exact hk a b hab _ _ hstate

theorem checked {refused refused' : Prop} [Decidable refused] [Decidable refused'] {e f : Failure}
    {k : Unit → Action σ α} {k' : Unit → Action σ β} (hrefused : refused ↔ refused')
    (h : Abreast S R (k ()) (k' ())) :
    Abreast S R (if refused then MonadExcept.throw e >>= k else k ())
      (if refused' then MonadExcept.throw f >>= k' else k' ()) := by
  by_cases hr : refused
  · rw [if_pos hr, if_pos (hrefused.1 hr)]
    exact bind (R := fun _ _ => True) (throw e f) fun _ _ _ => h
  · rw [if_neg hr, if_neg (mt hrefused.2 hr)]
    exact h

theorem each {f f' : ι → Action σ Unit} {xs : List ι}
    (h : ∀ x ∈ xs, Abreast S (fun _ _ => True) (f x) (f' x)) :
    Abreast S (fun _ _ => True) (Action.each f xs) (Action.each f' xs) := by
  induction xs with
  | nil => exact pure trivial
  | cons x rest ih =>
      exact bind (h x (List.mem_cons_self ..)) fun _ _ _ =>
        ih fun y hy => h y (List.mem_cons_of_mem _ hy)

end Abreast

/-! ## Failures without effect -/

/-- The operation cannot fail. -/
def Total (act : Action σ α) : Prop := ∀ s, ∃ a, (act.run s).result = .ok a

namespace Total

theorem pure (a : α) : Total (Pure.pure a : Action σ α) := by
  intro s
  exact ⟨a, rfl⟩

theorem get : Total (MonadState.get : Action σ σ) := by
  intro s
  exact ⟨s, rfl⟩

theorem modify (g : σ → σ) :
    Total (MonadState.modifyGet fun s => ((), g s) : Action σ Unit) := by
  intro s
  exact ⟨(), rfl⟩

theorem log (entry : Entry) : Total (Action.log entry : Action σ Unit) := by
  intro s
  exact ⟨(), rfl⟩

theorem bind {act : Action σ α} {k : α → Action σ β} (h : Total act) (hk : ∀ a, Total (k a)) :
    Total (act >>= k) := by
  intro s
  obtain ⟨a, ha⟩ := h s
  rw [(bind_of_ok ha k).1]
  exact hk a _

end Total

/-- Where the operation fails, it leaves the state as it is. -/
def Clean (act : Action σ α) (s : σ) : Prop :=
  ∀ e, (act.run s).result = .error e → (act.run s).state = s

namespace Clean

/-- An operation that changes nothing may fail at will. -/
theorem of_keeps {act : Action σ α} (h : Keeps id act) (s : σ) : Clean act s := by
  intro e _
  exact h s

theorem of_ok {act : Action σ α} {s : σ} {a : α} (h : (act.run s).result = .ok a) :
    Clean act s := by
  intro e he
  rw [h] at he
  cases he

theorem of_total {act : Action σ α} (h : Total act) (s : σ) : Clean act s := by
  obtain ⟨a, ha⟩ := h s
  exact of_ok ha

theorem within {part : σ → ρ} {replace : ρ → σ → σ} {act : Action ρ α} {s : σ}
    (hs : replace (part s) s = s) (h : Clean act (part s)) :
    Clean (Action.within part replace act) s := by
  intro e he
  show replace (act.run (part s)).state s = s
  rw [h e he, hs]

theorem checked {refused : Prop} [Decidable refused] {f : Failure} {k : Unit → Action σ α} {s : σ}
    (h : Clean (k ()) s) : Clean (if refused then MonadExcept.throw f >>= k else k ()) s := by
  split
  · intro e _
    rfl
  · exact h

/-- Of two operations the second one may change nothing if it fails where the first one succeeds,
    and that is after the first one changed something. -/
theorem bind {act : Action σ α} {k : α → Action σ β} {s : σ} (h : Clean act s)
    (hk : ∀ a, (act.run s).result = .ok a →
      ∀ e, ((k a).run (act.run s).state).result = .error e →
        ((k a).run (act.run s).state).state = s) : Clean (act >>= k) s := by
  intro e he
  cases hr : (act.run s).result with
  | error e' => rw [(bind_of_error hr k).2, h e' hr]
  | ok a =>
      obtain ⟨hres, hstate⟩ := bind_of_ok hr k
      rw [hres] at he
      rw [hstate]
      exact hk a hr e he

/-- An operation that first only looks is clean if what follows is. -/
theorem bind_of_keeps {act : Action σ α} {k : α → Action σ β} {s : σ} (h : Keeps id act)
    (hk : ∀ a, (act.run s).result = .ok a → Clean (k a) s) : Clean (act >>= k) s := by
  have hsame : (act.run s).state = s := h s
  refine bind (of_keeps h s) fun a ha => ?_
  rw [hsame]
  exact hk a ha

/-- An operation that ends in one that cannot fail is clean if its beginning is. -/
theorem bind_total {act : Action σ α} {k : α → Action σ β} {s : σ} (h : Clean act s)
    (hk : ∀ a, Total (k a)) : Clean (act >>= k) s := by
  refine bind h fun a _ e he => ?_
  -- the second half would have to fail, and it cannot
  obtain ⟨b, hb⟩ := hk a (act.run s).state
  rw [hb] at he
  cases he

end Clean

/-! ## Loops -/

theorem each_cons (f : ι → Action σ Unit) (x : ι) (rest : List ι) :
    each f (x :: rest) = (f x >>= fun _ => each f rest) := rfl

theorem each_congr {f g : ι → Action σ Unit} {xs : List ι} (h : ∀ x ∈ xs, f x = g x) :
    each f xs = each g xs := by
  induction xs with
  | nil => rfl
  | cons x rest ih =>
      rw [each_cons, each_cons, h x (List.mem_cons_self ..),
        ih fun y hy => h y (List.mem_cons_of_mem _ hy)]

/-- A loop whose items all succeed: what holds of the items done and of the state is carried from
    item to item. -/
theorem run_each_of {f : ι → Action σ Unit} (I : List ι → σ → Prop) (xs : List ι)
    (hstep : ∀ pre x post s, xs = pre ++ x :: post → I pre s →
      ((f x).run s).result = .ok () ∧ I (pre ++ [x]) ((f x).run s).state)
    {s : σ} (h : I [] s) :
    ((each f xs).run s).result = .ok () ∧ I xs ((each f xs).run s).state := by
  -- by induction on the items that are left; `I` knows the ones before them
  suffices go : ∀ post pre s, xs = pre ++ post → I pre s →
      ((each f post).run s).result = .ok () ∧ I xs ((each f post).run s).state from
    go xs [] s rfl h
  intro post
  induction post with
  | nil =>
      intro pre s hxs hI
      rw [List.append_nil] at hxs
      subst hxs
      exact ⟨rfl, hI⟩
  | cons x rest ih =>
      intro pre s hxs hI
      obtain ⟨hok, hI'⟩ := hstep pre x rest s hxs hI
      obtain ⟨hres, hstate⟩ := bind_of_ok hok fun _ => each f rest
      have hxs' : xs = (pre ++ [x]) ++ rest := by simp [hxs]
      rw [each_cons, hres, hstate]
      exact ih (pre ++ [x]) _ hxs' hI'

/-- A loop each of whose items does to a part of the state what an item of another loop does to it:
    the loop does to that part what the other loop does. `I` is what the items need of the rest. -/
theorem run_each_within (part : σ → ρ) (replace : ρ → σ → σ) {f : ι → Action σ Unit}
    {g : ι → Action ρ Unit} {I : σ → Prop} (hself : ∀ s, replace (part s) s = s)
    (hpart : ∀ t s, part (replace t s) = t)
    (hreplace : ∀ t t' s, replace t (replace t' s) = replace t s)
    (hI : ∀ t s, I s → I (replace t s))
    (hf : ∀ x s, I s → (f x).run s = (within part replace (g x)).run s) (xs : List ι) {s : σ}
    (hs : I s) : (each f xs).run s = (within part replace (each g xs)).run s := by
  induction xs generalizing s with
  | nil => simp [each, hself]
  | cons x rest ih =>
      rw [each_cons, run_bind, hf x s hs, run_within, run_within, each_cons, run_bind]
      cases ((g x).run (part s)).result with
      | error e => rfl
      | ok u =>
          dsimp only
          rw [ih (hI _ s hs), run_within, hpart]
          simp only [Outcome.after, hreplace]

/-- A loop whose items change nothing, and fail with the same failure if they fail. -/
theorem run_each_of_still {f : ι → Action σ Unit} {s : σ} {e : Failure}
    (h : ∀ x, ((f x).run s).state = s ∧
      (((f x).run s).result = .ok () ∨ ((f x).run s).result = .error e)) (xs : List ι) :
    ((each f xs).run s).state = s ∧
      (((each f xs).run s).result = .ok () ∨ ((each f xs).run s).result = .error e) := by
  induction xs with
  | nil => exact ⟨rfl, .inl rfl⟩
  | cons x rest ih =>
      obtain ⟨hstate, hok | herr⟩ := h x
      · obtain ⟨hres, hafter⟩ := bind_of_ok hok fun _ => each f rest
        rw [hstate] at hres hafter
        rw [each_cons, hres, hafter]
        exact ih
      · obtain ⟨hres, hafter⟩ := bind_of_error herr fun _ => each f rest
        rw [each_cons, hres, hafter]
        exact ⟨hstate, .inr rfl⟩

/-- Asking a list of questions gives the answers to all of them, or the first refusal. -/
theorem mapM_except (f : ι → Except Failure β) (xs : List ι) :
    (∃ ys, xs.mapM f = .ok ys ∧ xs.map f = ys.map .ok) ∨
      ∃ pre x post e, xs = pre ++ x :: post ∧ (∀ y ∈ pre, ∃ b, f y = .ok b) ∧ f x = .error e ∧
        xs.mapM f = .error e := by
  induction xs with
  | nil => exact .inl ⟨[], rfl, rfl⟩
  | cons x rest ih =>
      rw [List.mapM_cons]
      cases hx : f x with
      | error e =>
          have hnone : ∀ y ∈ ([] : List ι), ∃ b, f y = .ok b := by simp
          exact .inr ⟨[], x, rest, e, rfl, hnone, hx, rfl⟩
      | ok b =>
          rcases ih with ⟨ys, hok, hmap⟩ | ⟨pre, y, post, e, hrest, hpre, hy, herr⟩
          · refine .inl ⟨b :: ys, ?_, ?_⟩
            · rw [hok]
              rfl
            · rw [List.map_cons, List.map_cons, hx, hmap]
          · refine .inr ⟨x :: pre, y, post, e, ?_, ?_, hy, ?_⟩
            · rw [hrest, List.cons_append]
            · intro z hz
              rcases List.mem_cons.1 hz with rfl | hz
              · exact ⟨b, hx⟩
              · exact hpre z hz
            · rw [herr]
              rfl

/-- A loop that only asks: its results are those of its questions, up to the first refusal. -/
theorem run_collect {f : ι → Action σ α} (hf : ∀ x, Keeps id (f x)) (xs : List ι) (s : σ) :
    ((collect f xs).run s).result = xs.mapM (fun x => ((f x).run s).result) ∧
      ((collect f xs).run s).state = s := by
  refine ⟨?_, Keeps.collect hf xs s⟩
  induction xs with
  | nil => rfl
  | cons x rest ih =>
      have hx : ((f x).run s).state = s := hf x s
      rw [List.mapM_cons]
      show ((f x >>= fun a => collect f rest >>= fun as => pure (a :: as)).run s).result = _
      cases hr : ((f x).run s).result with
      | error e =>
          rw [(bind_of_error hr _).1]
          rfl
      | ok a =>
          rw [(bind_of_ok hr _).1, hx, (bind_pure _ _ _).1, ih]
          show _ = (rest.mapM fun x => ((f x).run s).result).bind fun as => .ok (a :: as)
          cases rest.mapM fun x => ((f x).run s).result <;> rfl

end Action

end ScriptedConsumer
