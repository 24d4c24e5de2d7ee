import ScriptedConsumer.Proofs.Effects

set_option autoImplicit false

/-! # Calls through handles while a poll ends

A handle may be used from elsewhere at any time, so also while a poll ends: after it looked for a
wakeup and before it looks for an injected failure, and after both, while it fetches. In a run the
end of a poll is one move, and the calls through handles come before it or behind it. Nothing is
lost by that: a poll that ends amid such calls comes to what it comes to undisturbed, with some of
the calls made before it and the others behind it (`Consumer.run_endPollAmid`).

The calls that must come before are the injected failures, and only if the poll meets no wakeup: all
else that calls change, the poll does not look at any more. -/

namespace ScriptedConsumer

/-- Runs an operation, and edits the state behind it, whether it has failed or not. -/
def Action.afterwards {σ α : Type} (edit : σ → σ) (act : Action σ α) : Action σ α := fun s =>
  let o := act s
  { o with state := edit o.state }

@[simp]
theorem Action.run_afterwards {σ α : Type} (edit : σ → σ) (act : Action σ α) (s : σ) :
    (afterwards edit act).run s =
      ⟨(act.run s).result, edit (act.run s).state, (act.run s).events⟩ := rfl

/-- A call through a handle. -/
inductive HandleCall (κ : Type)
  | wakeup
  | inject (f : Failure)
  | schedule (task : κ)

namespace HandleCall

variable {τ κ : Type}

/-- What the call does. -/
def perform : HandleCall κ → Action (Consumer τ κ) Unit
  | wakeup => Consumer.wakeup
  | inject f => Consumer.inject f
  | schedule task => Consumer.schedule task

/-- The step of a session that makes the call. -/
def step : HandleCall Task → Step
  | wakeup => .wakeup .handle
  | inject f => .inject .handle f
  | schedule .nop => .scheduleNop .handle
  | schedule (.script body) => .schedule .handle body

theorem turn_step [Tracker τ] [Switchable τ] {s : Session τ} (h : s.dropped = false)
    (call : HandleCall Task) :
    s.turn call.step = s.effect call.perform := by
  rw [Session.turn_of_not_dropped h]
  rcases call with _ | f | (_ | body) <;> rfl

def isWakeup : HandleCall κ → Bool
  | wakeup => true
  | _ => false

/-- The failure that the call injects. -/
def injected? : HandleCall κ → Option Failure
  | inject f => some f
  | _ => none

/-- The task that the call schedules. -/
def task? : HandleCall κ → Option κ
  | schedule task => some task
  | _ => none

/-- Whether the call injects a failure. -/
def injects (call : HandleCall κ) : Bool := call.injected?.isSome

/-! ## Sorting calls

A list of calls comes apart into those that inject a failure and the others. -/

theorem any_isWakeup_filter (calls : List (HandleCall κ)) :
    (calls.filter injects).any isWakeup = false ∧
      (calls.filter (!injects ·)).any isWakeup = calls.any isWakeup := by
  induction calls with
  | nil => exact ⟨rfl, rfl⟩
  | cons call rest ih =>
      cases call with
      | wakeup => exact ⟨ih.1, rfl⟩
      | inject | schedule => exact ih

theorem filterMap_injected?_filter (calls : List (HandleCall κ)) :
    (calls.filter injects).filterMap injected? = calls.filterMap injected? ∧
      (calls.filter (!injects ·)).filterMap injected? = [] := by
  induction calls with
  | nil => exact ⟨rfl, rfl⟩
  | cons call rest ih =>
      cases call with
      | inject f => exact ⟨congrArg (f :: ·) ih.1, ih.2⟩
      | wakeup | schedule => exact ih

theorem filterMap_task?_filter (calls : List (HandleCall κ)) :
    (calls.filter injects).filterMap task? = [] ∧
      (calls.filter (!injects ·)).filterMap task? = calls.filterMap task? := by
  induction calls with
  | nil => exact ⟨rfl, rfl⟩
  | cons call rest ih =>
      cases call with
      | schedule task => exact ⟨ih.1, congrArg (task :: ·) ih.2⟩
      | wakeup | inject => exact ih

end HandleCall

namespace Consumer

variable {τ κ : Type} {c : Consumer τ κ}

/-- The consumer after calls through handles. -/
def after (calls : List (HandleCall κ)) (c : Consumer τ κ) : Consumer τ κ :=
  calls.foldl (fun c call => (call.perform.run c).state) c

theorem after_append (calls calls' : List (HandleCall κ)) (c : Consumer τ κ) :
    c.after (calls ++ calls') = (c.after calls).after calls' := List.foldl_append

theorem after_of_closed (h : c.isClosed = true) (calls : List (HandleCall κ)) :
    c.after calls = c := by
  induction calls with
  | nil => rfl
  | cons call rest ih =>
      have hrefused : (call.perform.run c).state = c := by
        cases call <;>
          simp only [HandleCall.perform, run_wakeup, run_inject, run_schedule, if_pos h]
      exact (congrArg (after rest) hrefused).trans ih

theorem state_perform_of_open (h : c.isClosed = false) (call : HandleCall κ) :
    (call.perform.run c).state = { c with
      signals := { c.signals with
        wakeup := c.signals.wakeup || call.isWakeup
        injected := call.injected?.or c.signals.injected }
      tasks := c.tasks ++ call.task?.toList } := by
  have hnot : ¬ c.isClosed = true := Bool.eq_false_iff.1 h
  cases call <;>
    simp only [HandleCall.perform, run_wakeup, run_inject, run_schedule, if_neg hnot] <;>
    simp [HandleCall.isWakeup, HandleCall.injected?, HandleCall.task?]

/-- What calls come to on an open consumer: a wakeup is armed if one was called, the last failure
    takes the place of any before, and the tasks queue up. -/
theorem after_of_open (h : c.isClosed = false) (calls : List (HandleCall κ)) :
    c.after calls = { c with
      signals := { c.signals with
        wakeup := c.signals.wakeup || calls.any HandleCall.isWakeup
        injected := (calls.filterMap HandleCall.injected?).getLast?.or c.signals.injected }
      tasks := c.tasks ++ calls.filterMap HandleCall.task? } := by
  induction calls generalizing c with
  | nil => simp [after]
  | cons call rest ih =>
      have hfirst := state_perform_of_open h call
      have hopen : (call.perform.run c).state.isClosed = false := by
        rw [hfirst]
        exact h
      have htasks : (call :: rest).filterMap HandleCall.task? =
          call.task?.toList ++ rest.filterMap HandleCall.task? := by
        cases call <;> rfl
      have hlast : ((call :: rest).filterMap HandleCall.injected?).getLast? =
          (rest.filterMap HandleCall.injected?).getLast?.or call.injected? := by
        cases call with
        | inject f =>
            refine List.getLast?_cons.trans ?_
            cases (rest.filterMap HandleCall.injected?).getLast? <;> rfl
        | wakeup | schedule => exact Option.or_none.symm
      show (call.perform.run c).state.after rest = _
      rw [ih hopen, hfirst, htasks, hlast]
      simp only [List.any_cons, Bool.or_assoc, Option.or_assoc, List.append_assoc]

theorem isClosed_after (calls : List (HandleCall κ)) (c : Consumer τ κ) :
    (c.after calls).isClosed = c.isClosed := by
  cases h : c.isClosed with
  | true => rw [after_of_closed h, h]
  | false =>
      rw [after_of_open h]
      exact h

/-- The calls that inject a failure may as well have come first. -/
theorem after_eq_sorted (h : c.isClosed = false) (calls : List (HandleCall κ)) :
    c.after calls =
      (c.after (calls.filter HandleCall.injects)).after (calls.filter (!HandleCall.injects ·)) := by
  have hopen := (isClosed_after (calls.filter HandleCall.injects) c).trans h
  obtain ⟨hwakeup, hwakeup'⟩ := HandleCall.any_isWakeup_filter calls
  obtain ⟨htasks, htasks'⟩ := HandleCall.filterMap_task?_filter calls
  obtain ⟨hinjected, hinjected'⟩ := HandleCall.filterMap_injected?_filter calls
  rw [after_of_open hopen, after_of_open h, after_of_open h]
  simp only [hwakeup, hwakeup', htasks, htasks', hinjected, hinjected', Bool.or_false,
    List.getLast?_nil, Option.none_or, List.append_nil]

/-- All other calls neither change what was injected nor depend on it. -/
theorem after_others_of_injected (h : c.isClosed = false) (calls : List (HandleCall κ))
    (injected : Option Failure) :
    let others := calls.filter (!HandleCall.injects ·)
    after others { c with signals := { c.signals with injected } } =
      { c.after others with signals := { (c.after others).signals with injected } } := by
  intro others
  have hopen :
      ({ c with signals := { c.signals with injected } } : Consumer τ κ).isClosed = false := h
  rw [after_of_open h, after_of_open hopen, (HandleCall.filterMap_injected?_filter calls).2]
  rfl

theorem after_of_client (h : c.isClosed = false) (calls : List (HandleCall κ)) (client : Client τ) :
    after calls { c with client } = { c.after calls with client } := by
  have hopen : ({ c with client } : Consumer τ κ).isClosed = false := h
  rw [after_of_open h, after_of_open hopen]

/-! ## The end of a poll -/

/-- Looks at the signals as `obeySignals` does, while calls are made through handles: some between
    the two looks, and some behind them. -/
def obeySignalsAmid (between late : List (HandleCall κ)) : Action (Consumer τ κ) Unit :=
  Action.afterwards (after late) do
    Action.afterwards (after between) obeyWakeup
    obeyInjected

/-- The calls between the looks that must come before both: those that inject a failure, unless
    there is a wakeup, and so no second look. -/
def callsAhead (c : Consumer τ κ) (between : List (HandleCall κ)) : List (HandleCall κ) :=
  if c.signals.wakeup then [] else between.filter HandleCall.injects

/-- The calls between the looks that come behind both then. -/
def callsBehind (c : Consumer τ κ) (between : List (HandleCall κ)) : List (HandleCall κ) :=
  if c.signals.wakeup then between else between.filter (!HandleCall.injects ·)

/-- Each of the calls is one or the other. -/
theorem perm_callsAhead_callsBehind (c : Consumer τ κ) (between : List (HandleCall κ)) :
    (c.callsAhead between ++ c.callsBehind between).Perm between := by
  unfold callsAhead callsBehind
  split
  · exact .refl _
  · exact List.filter_append_perm _ _

theorem run_obeySignalsAmid (h : c.isClosed = false) (between late : List (HandleCall κ)) :
    (obeySignalsAmid between late).run c =
      let o := obeySignals.run (c.after (c.callsAhead between))
      { o with state := o.state.after (c.callsBehind between ++ late) } := by
  simp only [obeySignalsAmid, Action.run_afterwards, Action.run_bind, run_obeyWakeup,
    run_obeySignals, after_append]
  unfold callsAhead callsBehind
  cases hw : c.signals.wakeup with
  | true =>
      have hnone : c.after [] = c := rfl
      simp only [if_true, hnone, hw]
  | false =>
      let ahead := c.after (between.filter HandleCall.injects)
      have hopen : ahead.isClosed = false := (isClosed_after _ c).trans h
      have hwakeup : ahead.signals.wakeup = false := by
        show (c.after (between.filter HandleCall.injects)).signals.wakeup = false
        rw [after_of_open h, (HandleCall.any_isWakeup_filter between).1, hw]
        rfl
      have hsorted : c.after between = ahead.after (between.filter (!HandleCall.injects ·)) :=
        after_eq_sorted h between
      have hinjected : (c.after between).signals.injected = ahead.signals.injected := by
        rw [hsorted, after_of_open hopen, (HandleCall.filterMap_injected?_filter between).2]
        rfl
      simp only [Bool.false_eq_true, if_false, Outcome.after, List.nil_append, run_obeyInjected,
        hinjected, show c.after (between.filter HandleCall.injects) = ahead from rfl, hwakeup]
      cases ahead.signals.injected with
      | none => rw [hsorted]
      | some f =>
          have hcleared := after_others_of_injected hopen between none
          simp only [hwakeup] at hcleared
          dsimp only
          rw [hcleared, hsorted]

theorem run_onClient_after {α : Type} (h : c.isClosed = false) (act : Action (Client τ) α)
    (calls : List (HandleCall κ)) :
    (onClient act).run (c.after calls) =
      let o := (onClient act).run c
      { o with state := o.state.after calls } := by
  have hclient : (c.after calls).client = c.client := by rw [after_of_open h]
  have hafter := after_of_client h calls (act.run c.client).state
  rw [run_onClient, run_onClient, hclient]
  exact congrArg (Outcome.mk _ · _) hafter.symm

theorem isClosed_obeySignals (c : Consumer τ κ) :
    (obeySignals.run c).state.isClosed = c.isClosed := by
  rw [run_obeySignals]
  split
  · rfl
  · split <;> rfl

variable [Tracker τ]

/-- Ends a poll as `endPoll` does, while calls are made through handles: some before it looks for a
    wakeup, some before it looks for an injected failure, and some before it fetches. -/
def endPollAmid (visiting : Visiting (List Record)) (early between late : List (HandleCall κ)) :
    Action (Consumer τ κ) Batch := do
  ensureOpen
  modify (after early)
  obeySignalsAmid between late
  onClient (Client.fetch visiting)

/-- **A poll that ends amid calls through handles** comes to what it comes to undisturbed, with some
    of these calls made before it and the others behind it: `perm_callsAhead_callsBehind` says that
    each of them is still made once. -/
theorem run_endPollAmid (visiting : Visiting (List Record))
    (early between late : List (HandleCall κ)) (c : Consumer τ κ) :
    (endPollAmid visiting early between late).run c =
      let ahead := early ++ (c.after early).callsAhead between
      let behind := (c.after early).callsBehind between ++ late
      let o := (endPoll visiting).run (c.after ahead)
      { o with state := o.state.after behind } := by
  refine (run_ensureOpen_bind _ c).trans ?_
  dsimp only
  rw [run_endPoll, isClosed_after]
  cases h : c.isClosed with
  | true => simp only [if_true, after_of_closed h]
  | false =>
      rw [if_neg Bool.false_ne_true, if_neg Bool.false_ne_true, after_append]
      have hopen : (c.after early).isClosed = false := (isClosed_after early c).trans h
      have hlooks := run_obeySignalsAmid hopen between late
      generalize (c.after early).callsBehind between ++ late = behind at hlooks ⊢
      -- what is left to do by the poll is to fetch, if it gets so far
      show ((do obeySignalsAmid between late; onClient (Client.fetch visiting) :
        Action (Consumer τ κ) Batch).run (c.after early)).after [] = _
      rw [Action.run_bind, Action.run_bind, hlooks]
      let ahead := (c.after early).after ((c.after early).callsAhead between)
      have hstill : (obeySignals.run ahead).state.isClosed = false :=
        (isClosed_obeySignals ahead).trans ((isClosed_after _ _).trans hopen)
      cases (obeySignals.run ahead).result with
      | error e => rfl
      | ok u =>
          dsimp only
          rw [run_onClient_after hstill]
          rfl

end Consumer

/-- The calls of a list are the steps of a run that make them. -/
theorem Session.after_steps {τ : Type} [Tracker τ] [Switchable τ] {s : Session τ}
    (h : s.dropped = false) (calls : List (HandleCall Task)) :
    calls.foldl (fun s call => (s.turn call.step).session) s =
      { s with consumer := s.consumer.after calls } := by
  induction calls generalizing s with
  | nil => rfl
  | cons call rest ih =>
      have hfirst : (s.turn call.step).session =
          { s with consumer := (call.perform.run s.consumer).state } :=
        congrArg Moved.session (HandleCall.turn_step h call)
      rw [List.foldl_cons, hfirst]
      exact ih h

end ScriptedConsumer
