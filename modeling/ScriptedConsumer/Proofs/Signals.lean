import Mathlib.Data.List.DropRight
import ScriptedConsumer.Proofs.Buffers
import ScriptedConsumer.Proofs.Histories

set_option autoImplicit false

/-! # Signals over whole histories

A signal is armed by a call, of the owner or through a handle, and met by the first poll whose end
finds it armed and the consumer open. There are two, a wakeup and an injected failure, and what is
armed of each is what the history says: whether a wakeup has succeeded since a poll last looked, and
which failure was injected last since one was last handed out (`History.signals_recall`). That needs
of one deed how it changes the signals, which is `Deed.signals_make` and `Deed.Obeys`. All else
about signals is read off the list of deeds: `History.signals_one_shot`.

None of this depends on the tracker. That the end of a poll is one deed leaves nothing out: calls
through handles in the midst of it come to calls before it and behind it
(`Consumer.run_endPollAmid`). -/

namespace ScriptedConsumer

variable {τ : Type}

/-- Whether a step may change the signals. -/
def Step.reachesSignals : Step → Bool
  | .wakeup _ | .inject .. | .close _ => true
  | _ => false

namespace Session

/-- The session with other signals, and all else as it was. -/
def withSignals (s : Session τ) (signals : Signals) : Session τ :=
  { s with consumer := { s.consumer with signals } }

theorem reaches_iff {s : Session τ} {step : Step} :
    s.reaches step = true ↔ s.dropped = false ∨ step.party = .handle := by
  simp [reaches]

theorem signal_of_reaches {s : Session τ} {party : Party}
    (h : s.dropped = false ∨ party = .handle) (act : Action (Consumer τ Task) Unit) :
    s.signal party act = s.effect act := by
  cases party with
  | handle => rfl
  | owner => exact owned_of_not_dropped (h.resolve_right (by simp)) _

theorem signal_of_not_reaches {s : Session τ} {party : Party}
    (h : ¬ (s.dropped = false ∨ party = .handle)) (act : Action (Consumer τ Task) Unit) :
    s.signal party act = s.unmoved .dropped := by
  cases party with
  | handle => exact absurd (.inr rfl) h
  | owner => exact owned_of_dropped (by simpa using h) _

variable [Tracker τ] [Switchable τ]

/-- Most steps leave the signals alone. -/
theorem signals_turn {step : Step} (h : step.reachesSignals = false) (s : Session τ) :
    (s.turn step).session.consumer.signals = s.consumer.signals := by
  cases hs : s.dropped with
  | true =>
      rw [turn_of_dropped hs]
      split
      · cases h
      · cases h
      all_goals rfl
  | false =>
      rw [turn_of_not_dropped hs]
      cases step with
      | wakeup | inject | close => cases h
      | request r =>
          simp only [attempt, Consumer.run_request]
          split <;> rfl
      | subscribePattern text listener =>
          dsimp only
          cases Pattern.compile? text with
          | none => rfl
          | some pattern =>
              simp only [attempt, Consumer.run_request]
              split <;> rfl
      | poll =>
          simp only [beginPoll, Consumer.run_beginPoll]
          cases s.consumer.isClosed <;> cases s.consumer.tasks <;> rfl
      | schedule | scheduleNop =>
          simp only [effect, attempt, Consumer.run_schedule]
          split <;> rfl
      | switch fault on => cases fault <;> rfl
      | takeHandle | isClosed | bufferedCount | inspect | drop => rfl

end Session

namespace Deed

variable [Tracker τ] [Switchable τ]

/-! ## Deeds that arm, and deeds that look -/

omit [Tracker τ] [Switchable τ] in
/-- The signals that the deed finds. -/
def found (d : Deed τ) : Signals := d.before.consumer.signals

omit [Tracker τ] [Switchable τ] in
/-- Whether the deed is the end of a poll whose task has left the consumer open. Only such a deed
    looks at the signals. -/
def checks : Deed τ → Bool
  | make .. => false
  | endPoll s .. => !s.consumer.isClosed

omit [Tracker τ] [Switchable τ] in
/-- Whether the deed is a wakeup that reaches the consumer or a handle. -/
def callsWakeup : Deed τ → Bool
  | make s (.wakeup party) => s.reaches (.wakeup party)
  | _ => false

/-- Whether the deed arms the wakeup. -/
def wakes (d : Deed τ) : Bool := d.callsWakeup && d.succeeded

/-- The failure that the deed injects, if it injects one. -/
def injected? (d : Deed τ) : Option Failure :=
  match d with
  | make _ (.inject _ f) => if d.succeeded then some f else none
  | _ => none

omit [Tracker τ] [Switchable τ] in
/-- Whether the deed is the end of a poll that the wakeup aborts. -/
def woken (d : Deed τ) : Bool := d.checks && d.found.wakeup

/-- Whether the deed takes away the failure that was injected. -/
def empties (d : Deed τ) : Bool :=
  d.found.injected.isSome && d.after.consumer.signals.injected.isNone

/-! ## The signals and one deed -/

/-- A step may arm a signal, and it disarms none. -/
theorem armed_make (s : Session τ) (step : Step) :
    (make s step).after.consumer.signals.wakeup =
        (s.consumer.signals.wakeup || (make s step).wakes) ∧
      (make s step).after.consumer.signals.injected =
        (make s step).injected?.or s.consumer.signals.injected := by
  cases step with
  | wakeup party =>
      have hturn : s.turn (.wakeup party) = s.signal party Consumer.wakeup := rfl
      by_cases hreaches : s.dropped = false ∨ party = .handle
      · rw [Session.signal_of_reaches hreaches] at hturn
        have hcalls : (make s (.wakeup party)).callsWakeup = true :=
          Session.reaches_iff.2 hreaches
        simp only [after, wakes, hcalls, succeeded, verdict?, injected?, hturn, Session.effect,
          Session.attempt, Consumer.run_wakeup]
        cases s.consumer.isClosed <;> simp [Answer.verdict, Verdict.ofResult, Verdict.isOk]
      · rw [Session.signal_of_not_reaches hreaches] at hturn
        simp [after, wakes, succeeded, verdict?, injected?, hturn, Session.unmoved, Answer.plain,
          Answer.verdict, Verdict.isOk]
  | inject party f =>
      have hturn : s.turn (.inject party f) = s.signal party (Consumer.inject f) := rfl
      by_cases hreaches : s.dropped = false ∨ party = .handle
      · rw [Session.signal_of_reaches hreaches] at hturn
        simp only [after, wakes, callsWakeup, succeeded, verdict?, injected?, hturn,
          Session.effect, Session.attempt, Consumer.run_inject]
        cases s.consumer.isClosed <;> simp [Answer.verdict, Verdict.ofResult, Verdict.isOk]
      · rw [Session.signal_of_not_reaches hreaches] at hturn
        simp [after, wakes, succeeded, verdict?, injected?, hturn, Session.unmoved, Answer.plain,
          Answer.verdict, Verdict.isOk]
  | close timeout =>
      have hturn : s.turn (.close timeout) = s.owned (s.effect (Consumer.close timeout)) := rfl
      simp only [after, wakes, callsWakeup, injected?, hturn, Session.owned]
      cases s.dropped with
      | true => simp [Session.unmoved]
      | false =>
          simp only [Session.effect, Session.attempt, Consumer.run_close]
          cases s.consumer.isClosed <;> simp
  | _ =>
      simp only [after, wakes, callsWakeup, injected?, Bool.false_and, Bool.or_false,
        Option.none_or]
      rw [Session.signals_turn rfl s]
      exact ⟨rfl, rfl⟩

/-- What comes of a poll whose end looks at the signals, when a wakeup and a failure are armed as
    given. -/
structure Obeys (wakeup : Bool) (injected : Option Failure) (d : Deed τ) : Prop where
  /-- A wakeup comes first. It is cleared, and nothing else changes. -/
  woken : wakeup = true → d.verdict? = some (.failed .wakeup) ∧
    d.after = d.before.withSignals { d.found with wakeup := false }
  /-- Without one, an injected failure is the failure of the poll. It is cleared, and nothing else
      changes. -/
  failed : wakeup = false → ∀ f, injected = some f → d.verdict? = some (.failed f) ∧
    d.after = d.before.withSignals { d.found with injected := none }
  /-- Without either, the signals stay as they are. -/
  unsignalled : wakeup = false → injected = none → d.after.consumer.signals = d.found

theorem obeys_of_checks {d : Deed τ} (h : d.checks = true) :
    d.Obeys d.found.wakeup d.found.injected := by
  cases d with
  | make s step => cases h
  | endPoll s visiting shown =>
      have hopen : s.consumer.isClosed = false := by simpa [checks] using h
      have hrun : (Consumer.endPoll visiting).run s.consumer =
          (do Consumer.obeySignals; Consumer.onClient (Client.fetch visiting) :
            Action (Consumer τ Task) Batch).run s.consumer := by
        rw [Consumer.run_endPoll, hopen, if_neg Bool.false_ne_true]
      constructor
      · intro hw
        have hwakeup : s.consumer.signals.wakeup = true := hw
        simp only [verdict?, after, Session.endPoll, hrun, Action.run_bind,
          Consumer.run_obeySignals, hwakeup, if_true]
        exact ⟨rfl, rfl⟩
      · intro hw f hf
        have hwakeup : s.consumer.signals.wakeup = false := hw
        have hinjected : s.consumer.signals.injected = some f := hf
        simp only [verdict?, after, Session.endPoll, hrun, Action.run_bind,
          Consumer.run_obeySignals, hwakeup, hinjected, Bool.false_eq_true, if_false]
        refine ⟨rfl, ?_⟩
        simp only [Session.withSignals, found, before, hwakeup]
      · intro hw hi
        have hfetches : s.consumer.fetchesNow = true :=
          Consumer.fetchesNow_iff.2 ⟨hopen, hw, hi⟩
        simp only [after, Session.endPoll, (Consumer.run_endPoll_of_fetchesNow visiting hfetches).2]
        rfl

/-- A deed that does not look at the signals may arm one, and it disarms none. -/
theorem armed_of_not_checks {d : Deed τ} (h : d.checks = false) :
    d.after.consumer.signals.wakeup = (d.found.wakeup || d.wakes) ∧
      d.after.consumer.signals.injected = d.injected?.or d.found.injected := by
  cases d with
  | make s step => exact armed_make s step
  | endPoll s visiting shown =>
      have hclosed : s.consumer.isClosed = true := by simpa [checks] using h
      simp [after, found, before, wakes, callsWakeup, injected?, Session.endPoll_of_closed hclosed]

/-- A poll that looks at the signals leaves no wakeup armed. -/
theorem wakeup_after (d : Deed τ) :
    d.after.consumer.signals.wakeup = if d.checks then false else d.found.wakeup || d.wakes := by
  cases hc : d.checks with
  | false => exact (armed_of_not_checks hc).1
  | true =>
      have hobeys := obeys_of_checks hc
      cases hw : d.found.wakeup with
      | true =>
          rw [(hobeys.woken hw).2]
          rfl
      | false =>
          cases hi : d.found.injected with
          | none => rw [hobeys.unsignalled hw hi, hw, if_pos rfl]
          | some f =>
              rw [(hobeys.failed hw f hi).2]
              exact hw

/-- A failure that is armed stays so at every deed but the end of a poll that looks for it and that
    no wakeup aborts. -/
theorem of_empties {d : Deed τ} (h : d.empties = true) : d.checks = true ∧ d.woken = false := by
  obtain ⟨hfound, hafter⟩ := Bool.and_eq_true_iff.1 h
  cases hc : d.checks with
  | false =>
      rw [(armed_of_not_checks hc).2] at hafter
      cases hi : d.found.injected <;> simp [hi] at hfound hafter
  | true =>
      refine ⟨rfl, ?_⟩
      cases hw : d.found.wakeup with
      | false => simp [woken, hw]
      | true =>
          rw [((obeys_of_checks hc).woken hw).2] at hafter
          have hnone : d.found.injected.isNone = true := hafter
          cases hi : d.found.injected <;> simp [hi] at hfound hnone

theorem injected_after (d : Deed τ) :
    d.after.consumer.signals.injected =
      if d.empties then none else d.injected?.or d.found.injected := by
  cases he : d.empties with
  | true => simpa using (Bool.and_eq_true_iff.1 he).2
  | false =>
      cases hc : d.checks with
      | false => exact (armed_of_not_checks hc).2
      | true =>
          have hobeys := obeys_of_checks hc
          have hinjected : d.injected? = none := by
            cases d with
            | make => cases hc
            | endPoll => rfl
          rw [hinjected, if_neg Bool.false_ne_true, Option.none_or]
          cases hi : d.found.injected with
          | none =>
              cases hw : d.found.wakeup with
              | true =>
                  rw [(hobeys.woken hw).2]
                  exact hi
              | false => rw [hobeys.unsignalled hw hi, hi]
          | some f =>
              cases hw : d.found.wakeup with
              | true =>
                  rw [(hobeys.woken hw).2]
                  exact hi
              | false =>
                  -- then the failure would have been handed out
                  have hnone : d.after.consumer.signals.injected = none := by
                    rw [(hobeys.failed hw f hi).2]
                    rfl
                  simp [empties, hi, hnone] at he

/-- On an open consumer a wakeup succeeds. -/
theorem wakes_of_callsWakeup {d : Deed τ} (h : d.callsWakeup = true)
    (hopen : d.before.consumer.isClosed = false) : d.wakes = true := by
  cases d with
  | endPoll => cases h
  | make s step =>
      cases step with
      | wakeup party =>
          have hreaches : s.dropped = false ∨ party = .handle := Session.reaches_iff.1 h
          have hturn : s.turn (.wakeup party) = s.effect Consumer.wakeup :=
            Session.signal_of_reaches hreaches _
          have hc : s.consumer.isClosed = false := hopen
          simp [wakes, h, succeeded, verdict?, hturn, Session.effect, Session.attempt,
            Consumer.run_wakeup, hc, Answer.verdict, Verdict.ofResult, Verdict.isOk]
      | _ => cases h

end Deed

/-! ## What a history leaves armed -/

variable [Tracker τ] [Switchable τ]

/-- Whether a wakeup has succeeded since a poll last looked at the signals. -/
def wakeupArmed (ds : List (Deed τ)) : Bool :=
  (ds.rtakeWhile fun d => !d.checks).any Deed.wakes

/-- The failure that was injected last, of those injected since one was last taken away. -/
def failureArmed? (ds : List (Deed τ)) : Option Failure :=
  ((ds.rtakeWhile fun d => !d.empties).filterMap Deed.injected?).getLast?

theorem wakeupArmed_concat (ds : List (Deed τ)) (d : Deed τ) :
    wakeupArmed (ds ++ [d]) = if d.checks then false else wakeupArmed ds || d.wakes := by
  unfold wakeupArmed
  rw [List.rtakeWhile_concat]
  cases d.checks <;> simp

theorem failureArmed?_concat (ds : List (Deed τ)) (d : Deed τ) :
    failureArmed? (ds ++ [d]) =
      if d.empties then none else d.injected?.or (failureArmed? ds) := by
  unfold failureArmed?
  rw [List.rtakeWhile_concat]
  cases d.empties <;> cases hi : d.injected? <;> simp [hi]

/-- Between two polls that look at the signals in a row, what is armed is armed between them. -/
theorem wakeupArmed_of_checks (ds : List (Deed τ)) {d : Deed τ} (hd : d.checks = true)
    {mid : List (Deed τ)} (hmid : ∀ x ∈ mid, x.checks = false) :
    wakeupArmed (ds ++ d :: mid) = mid.any Deed.wakes := by
  induction mid using List.reverseRec with
  | nil => rw [wakeupArmed_concat, hd, if_pos rfl, List.any_nil]
  | append_singleton mid x ih =>
      have hx : x.checks = false := hmid x (by simp)
      rw [← List.cons_append, ← List.append_assoc, wakeupArmed_concat, hx,
        if_neg Bool.false_ne_true, ih fun y hy => hmid y (List.mem_append_left _ hy),
        List.any_append, List.any_cons, List.any_nil, Bool.or_false]

/-- A wakeup that is armed when a poll has looked before was armed since. -/
theorem exists_wakes_of_wakeupArmed {ds : List (Deed τ)} {d : Deed τ} (hd : d.checks = true)
    {mid : List (Deed τ)} (h : wakeupArmed (ds ++ d :: mid) = true) :
    ∃ x ∈ mid, x.wakes = true := by
  induction mid using List.reverseRec with
  | nil =>
      rw [wakeupArmed_concat, hd, if_pos rfl] at h
      cases h
  | append_singleton mid x ih =>
      rw [← List.cons_append, ← List.append_assoc, wakeupArmed_concat] at h
      cases hx : x.wakes with
      | true => exact ⟨x, by simp, hx⟩
      | false =>
          cases hc : x.checks with
          | true => simp [hc] at h
          | false =>
              obtain ⟨y, hy, hwakes⟩ := ih (by simpa [hc, hx] using h)
              exact ⟨y, List.mem_append_left _ hy, hwakes⟩

/-- As long as no poll takes it away, a failure stays armed, or a later one in its place. -/
theorem failureArmed?_append {ds mid : List (Deed τ)} {f : Failure}
    (h : failureArmed? ds = some f) (hmid : ∀ x ∈ mid, x.empties = false) :
    failureArmed? (ds ++ mid) = some ((mid.filterMap Deed.injected?).getLast?.getD f) := by
  induction mid using List.reverseRec with
  | nil => simpa using h
  | append_singleton mid x ih =>
      have hx : x.empties = false := hmid x (by simp)
      rw [← List.append_assoc, failureArmed?_concat, hx, if_neg Bool.false_ne_true,
        ih fun y hy => hmid y (List.mem_append_left _ hy)]
      cases hi : x.injected? <;> simp [hi]

namespace History

variable {tracker : τ} {ds : List (Deed τ)} {r : Run τ}

/-- What is armed is what the history says. -/
theorem signals_recall (h : History tracker ds r) :
    r.session.consumer.signals.wakeup = wakeupArmed ds ∧
      r.session.consumer.signals.injected = failureArmed? ds := by
  refine h.carries (P := fun ds s => s.consumer.signals.wakeup = wakeupArmed ds ∧
    s.consumer.signals.injected = failureArmed? ds) ?_ ?_
  · intro catalog timeout
    exact ⟨rfl, rfl⟩
  · rintro ds d ⟨hwakeup, hinjected⟩
    rw [d.wakeup_after, d.injected_after, wakeupArmed_concat, failureArmed?_concat, ← hwakeup,
      ← hinjected]
    exact ⟨rfl, rfl⟩

/-- What a deed of a history finds armed is what the history before it says. -/
theorem found_recall (h : History tracker ds r) {pre post : List (Deed τ)} {d : Deed τ}
    (hds : ds = pre ++ d :: post) :
    d.found.wakeup = wakeupArmed pre ∧ d.found.injected = failureArmed? pre := by
  obtain ⟨r', hpre, hsession⟩ := h.exists_before hds
  unfold Deed.found
  rw [← hsession]
  exact hpre.signals_recall

/-- A consumer that is open was open at every deed before. -/
theorem open_before (h : History tracker ds r) (hopen : r.session.consumer.isClosed = false) :
    ∀ d ∈ ds, d.before.consumer.isClosed = false := by
  refine h.carries (P := fun ds s => s.consumer.isClosed = false →
    ∀ d ∈ ds, d.before.consumer.isClosed = false) ?_ ?_ hopen
  · intro _ _ _ d hd
    cases hd
  · intro ds d ih hafter
    have hbefore : d.before.consumer.isClosed = false := by
      cases hc : d.before.consumer.isClosed with
      | false => rfl
      | true =>
          rw [Deed.isClosed_after hc] at hafter
          cases hafter
    intro x hx
    rcases List.mem_append.1 hx with hx | hx
    · exact ih hbefore x hx
    · rw [List.mem_singleton.1 hx]
      exact hbefore

/-- Before a poll looks at the signals the consumer was open at every deed. -/
theorem open_before_checks (h : History tracker ds r) {pre post : List (Deed τ)} {d : Deed τ}
    (hds : ds = pre ++ d :: post) (hd : d.checks = true) :
    ∀ x ∈ pre, x.before.consumer.isClosed = false := by
  obtain ⟨r', hpre, hsession⟩ := h.exists_before hds
  have hopen : d.before.consumer.isClosed = false := by
    cases d with
    | make => cases hd
    | endPoll s visiting shown =>
        show s.consumer.isClosed = false
        simpa [Deed.checks] using hd
  exact hpre.open_before (hsession ▸ hopen)

/-- A poll that looks at the signals obeys those that the history before it has armed. -/
theorem obeys_armed (h : History tracker ds r) {pre post : List (Deed τ)} {d : Deed τ}
    (hds : ds = pre ++ d :: post) (hd : d.checks = true) :
    d.Obeys (wakeupArmed pre) (failureArmed? pre) := by
  obtain ⟨hwakeup, hinjected⟩ := h.found_recall hds
  rw [← hwakeup, ← hinjected]
  exact Deed.obeys_of_checks hd

/-- Of two polls in a row that look at the signals the second is aborted by the wakeup exactly if
    one was called between them. -/
theorem woken_between (h : History tracker ds r) {pre mid post : List (Deed τ)} {d d' : Deed τ}
    (hds : ds = pre ++ d :: mid ++ d' :: post) (hd : d.checks = true) (hd' : d'.checks = true)
    (hmid : ∀ x ∈ mid, x.checks = false)
    (hopen : ∀ x ∈ mid, x.before.consumer.isClosed = false) :
    d'.woken = mid.any Deed.callsWakeup := by
  have hany : mid.any Deed.wakes = mid.any Deed.callsWakeup := by
    rw [Bool.eq_iff_iff, List.any_eq_true, List.any_eq_true]
    constructor
    · rintro ⟨x, hx, hwakes⟩
      exact ⟨x, hx, (Bool.and_eq_true_iff.1 hwakes).1⟩
    · rintro ⟨x, hx, hcall⟩
      exact ⟨x, hx, Deed.wakes_of_callsWakeup hcall (hopen x hx)⟩
  rw [Deed.woken, hd', Bool.true_and, (h.found_recall hds).1, wakeupArmed_of_checks pre hd hmid,
    hany]

/-- A wakeup aborts one poll: for the next one to be aborted another must succeed. -/
theorem exists_wakes_between (h : History tracker ds r) {pre mid post : List (Deed τ)}
    {d d' : Deed τ} (hds : ds = pre ++ d :: mid ++ d' :: post) (hd : d.woken = true)
    (hd' : d'.woken = true) : ∃ x ∈ mid, x.wakes = true := by
  have harmed : wakeupArmed (pre ++ d :: mid) = true := by
    rw [← (h.found_recall hds).1]
    exact (Bool.and_eq_true_iff.1 hd').2
  exact exists_wakes_of_wakeupArmed (Bool.and_eq_true_iff.1 hd).1 harmed

/-- A failure that is armed meets the first poll that looks for it, unless another one has taken its
    place. -/
theorem failed_of_failureArmed (h : History tracker ds r) {pre mid post : List (Deed τ)}
    {d : Deed τ} {f : Failure} (hds : ds = pre ++ mid ++ d :: post)
    (hf : failureArmed? pre = some f) (hmid : ∀ x ∈ mid, x.checks = true → x.woken = true)
    (hd : d.checks = true) (hwoken : d.woken = false) :
    d.verdict? = some (.failed ((mid.filterMap Deed.injected?).getLast?.getD f)) ∧
      d.after.consumer.signals.injected = none := by
  have hkept : failureArmed? (pre ++ mid) =
      some ((mid.filterMap Deed.injected?).getLast?.getD f) := by
    refine failureArmed?_append hf ?_
    intro x hx
    cases he : x.empties with
    | false => rfl
    | true =>
        obtain ⟨hchecks, hnot⟩ := Deed.of_empties he
        rw [hmid x hx hchecks] at hnot
        cases hnot
  have hclear : wakeupArmed (pre ++ mid) = false := by
    rw [← (h.found_recall hds).1]
    rw [Deed.woken, hd, Bool.true_and] at hwoken
    exact hwoken
  obtain ⟨hverdict, hafter⟩ := (h.obeys_armed hds hd).failed hclear _ hkept
  refine ⟨hverdict, ?_⟩
  rw [hafter]
  rfl

/-- **Signals are one-shot, and none is lost.** In every history, over any tracker, and whoever
    calls what inside and between polls:

    * what a deed finds armed is what was armed before it, and a poll whose end looks at the signals
      meets at most one of them, the wakeup first, and changes nothing else when it does;
    * of two polls in a row that look at the signals, the second is aborted by the wakeup exactly if
      a wakeup is called between them, once or more often, and such a call succeeds;
    * between two polls that are aborted by the wakeup a wakeup succeeds;
    * a failure that is armed is the failure of the first poll that looks at the signals while no
      wakeup is armed, unless another one is injected before that, and then it is the last of them;
      none is armed any more after that poll. -/
theorem signals_one_shot (h : History tracker ds r) :
    (∀ pre d post, ds = pre ++ d :: post →
      (d.found.wakeup = wakeupArmed pre ∧ d.found.injected = failureArmed? pre) ∧
      (d.checks = true → d.Obeys (wakeupArmed pre) (failureArmed? pre))) ∧
    (∀ pre d mid d' post, ds = pre ++ d :: mid ++ d' :: post →
      d.checks = true → d'.checks = true → (∀ x ∈ mid, x.checks = false) →
      d'.woken = mid.any Deed.callsWakeup ∧
        ∀ x ∈ mid, x.callsWakeup = true → x.succeeded = true) ∧
    (∀ pre d mid d' post, ds = pre ++ d :: mid ++ d' :: post →
      d.woken = true → d'.woken = true → ∃ x ∈ mid, x.wakes = true) ∧
    (∀ pre mid d post f, ds = pre ++ mid ++ d :: post → failureArmed? pre = some f →
      (∀ x ∈ mid, x.checks = true → x.woken = true) → d.checks = true → d.woken = false →
      d.verdict? = some (.failed ((mid.filterMap Deed.injected?).getLast?.getD f)) ∧
        d.after.consumer.signals.injected = none) := by
  refine ⟨fun pre d post hds => ⟨h.found_recall hds, h.obeys_armed hds⟩, ?_, ?_, ?_⟩
  · intro pre d mid d' post hds hd hd' hmid
    have hopen : ∀ x ∈ mid, x.before.consumer.isClosed = false := fun x hx =>
      h.open_before_checks hds hd' x (by simp [hx])
    refine ⟨h.woken_between hds hd hd' hmid hopen, fun x hx hcall => ?_⟩
    exact (Bool.and_eq_true_iff.1 (Deed.wakes_of_callsWakeup hcall (hopen x hx))).2
  · intro pre d mid d' post hds hd hd'
    exact h.exists_wakes_between hds hd hd'
  · intro pre mid d post f hds hf hmid hd hwoken
    exact h.failed_of_failureArmed hds hf hmid hd hwoken

end History

/-! ## Signals armed inside a task -/

/-- A run whose first task replaces the failure that was injected, polls, and arms the wakeup
    twice, as its owner and through a handle. -/
def Run.signalsInTask : Run Subscription :=
  Run.fresh (Subscription.empty .earliest) .empty ⟨30000⟩
    [.inject .owner (.injected "early"), .wakeup .handle,
      .schedule .handle
        [.inject .handle (.injected "late"), .poll, .wakeup .owner, .wakeup .handle],
      .poll, .poll]

/-- The wakeup aborts the inner poll, and the two wakeups after it abort the outer one. The failure
    that was injected last meets the poll after both. -/
theorem Run.signalsInTask_one_shot :
    (∃ inner between outer,
      Run.signalsInTask.deeds 10 = Run.signalsInTask.deeds 6 ++ inner :: between ++ [outer] ∧
      inner.woken = true ∧ (between.map Deed.callsWakeup) = [true, true] ∧ outer.woken = true) ∧
    ∃ before last, Run.signalsInTask.deeds 12 = Run.signalsInTask.deeds 1 ++ before ++ [last] ∧
      before.filterMap Deed.injected? = [.injected "late"] ∧
      last.verdict? = some (.failed (.injected "late")) := by
  have hhistory (n : Nat) : History _ (Run.signalsInTask.deeds n) (Run.signalsInTask.ahead n) :=
    .of_moves ..
  constructor
  · obtain ⟨-, hbetween, -⟩ := (hhistory 10).signals_one_shot
    let inner : Deed Subscription := .endPoll (Run.signalsInTask.ahead 6).session .sorted none
    let between : List (Deed Subscription) :=
      [.make (Run.signalsInTask.ahead 7).session (.wakeup .owner),
        .make (Run.signalsInTask.ahead 8).session (.wakeup .handle)]
    let outer : Deed Subscription :=
      .endPoll (Run.signalsInTask.ahead 9).session .sorted
        (some (Run.signalsInTask.ahead 9).answers)
    refine ⟨inner, between, outer, rfl, by decide +kernel, by decide +kernel, ?_⟩
    rw [(hbetween (Run.signalsInTask.deeds 6) inner between outer [] rfl (by decide +kernel)
      (by decide +kernel) (by decide +kernel)).1]
    decide +kernel
  · obtain ⟨-, -, -, hfailure⟩ := (hhistory 12).signals_one_shot
    let before : List (Deed Subscription) := (Run.signalsInTask.deeds 11).drop 1
    let last : Deed Subscription := .endPoll (Run.signalsInTask.ahead 11).session .sorted none
    have hlast := hfailure (Run.signalsInTask.deeds 1) before last [] (.injected "early") rfl
      (by decide +kernel) (by decide +kernel) (by decide +kernel) (by decide +kernel)
    have hbefore : before.filterMap Deed.injected? = [.injected "late"] := by decide +kernel
    refine ⟨before, last, rfl, hbefore, ?_⟩
    rw [hlast.1, hbefore]
    rfl

end ScriptedConsumer
