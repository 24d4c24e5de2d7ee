import Mathlib.Data.List.Forall2
import ScriptedConsumer.Proofs.Abreast
import ScriptedConsumer.Proofs.Buffers
import ScriptedConsumer.Proofs.Histories

set_option autoImplicit false

/-! # Partitions do not interfere

Two scripts are made on one session. They go hand in hand: at each place they make the same step, or
they both make a request that names other partitions only. Then at every place the two sessions hold
the same for the partition left alone, and each pair of polls that end well delivers the same
records of it, as long as no poll ends well in one of the two and fails in the other:
`Session.partitions_independent`.

The steps must not schedule, and no task may be queued: a task that one poll runs would have to be
compared with the other poll's, which may run another one. -/

namespace ScriptedConsumer

/-! ## Steps hand in hand -/

/-- Two steps are the same one, or both name other partitions than the given one. -/
inductive Step.Paired (p : Partition) : Step → Step → Prop
  | same (step : Step) (h : step.schedules = false) : Paired p step step
  | aside {r r' : Request} (h : r.Spares p) (h' : r'.Spares p) : Paired p (.request r) (.request r')

variable {p : Partition}

/-! ## Consumers -/

/-- Two consumers without a queued task have clients that are alike at a partition, and the same
    signals. -/
structure Consumer.Alike (p : Partition) (c c' : Consumer Subscription Task) : Prop where
  client : c.client.Alike p c'.client
  signals : c.signals = c'.signals
  idle : c.tasks = []
  idle' : c'.tasks = []

namespace Consumer

variable {c c' : Consumer Subscription Task}

namespace Alike

theorem isClosed_eq (h : c.Alike p c') : c.isClosed = c'.isClosed := congrArg (·.closed) h.signals

theorem fetchesNow_eq (h : c.Alike p c') : c.fetchesNow = c'.fetchesNow := by
  unfold fetchesNow
  rw [h.isClosed_eq, h.signals]

theorem request (h : c.Alike p c') {r r' : Request}
    (hhandle : ((Client.handle r).run c.client).state.Alike p
      ((Client.handle r').run c'.client).state) :
    ((Consumer.request r).run c).state.Alike p ((Consumer.request r').run c').state := by
  rw [run_request, run_request, h.isClosed_eq]
  split
  · exact h
  · exact { h with client := hhandle }

theorem wakeup (h : c.Alike p c') :
    (Consumer.wakeup.run c).state.Alike p (Consumer.wakeup.run c').state := by
  rw [run_wakeup, run_wakeup, h.isClosed_eq]
  split
  · exact h
  · exact { h with signals := congrArg (fun g => { g with wakeup := true }) h.signals }

theorem inject (h : c.Alike p c') (f : Failure) :
    ((Consumer.inject f).run c).state.Alike p ((Consumer.inject f).run c').state := by
  rw [run_inject, run_inject, h.isClosed_eq]
  split
  · exact h
  · exact { h with signals := congrArg (fun g => { g with injected := some f }) h.signals }

theorem close (h : c.Alike p c') (timeout : Option Timeout) :
    ((Consumer.close timeout).run c).state.Alike p ((Consumer.close timeout).run c').state := by
  rw [run_close, run_close, h.isClosed_eq]
  split
  · exact h
  · exact { h with signals := congrArg (fun g => { g with closed := true }) h.signals }

theorem endPoll (visiting visiting' : Visiting (List Record)) (h : c.Alike p c')
    (hends : ((Consumer.endPoll visiting).run c).result.isOk =
      ((Consumer.endPoll visiting').run c').result.isOk) :
    ((Consumer.endPoll visiting).run c).state.Alike p
        ((Consumer.endPoll visiting').run c').state ∧
      ∀ b b', ((Consumer.endPoll visiting).run c).result = .ok b →
        ((Consumer.endPoll visiting').run c').result = .ok b' →
        b.groups[p]? = b'.groups[p]? := by
  cases hf : c.fetchesNow with
  | false =>
      obtain ⟨f, hres, hstate⟩ := run_endPoll_of_not_fetchesNow visiting hf
      obtain ⟨f', -, hstate'⟩ := run_endPoll_of_not_fetchesNow visiting' (h.fetchesNow_eq ▸ hf)
      rw [hres, hstate, hstate']
      exact ⟨{ h with signals := congrArg Signals.obeyed h.signals }, nofun⟩
  | true =>
      obtain ⟨hres, hstate⟩ := run_endPoll_of_fetchesNow visiting hf
      obtain ⟨hres', hstate'⟩ := run_endPoll_of_fetchesNow visiting' (h.fetchesNow_eq ▸ hf)
      rw [hres, hres'] at hends
      rw [hres, hstate, hres', hstate']
      obtain ⟨hclient, hbatch⟩ := Client.alike_fetch visiting visiting' h.client hends
      exact ⟨{ h with client := hclient }, hbatch⟩

end Alike

end Consumer

/-! ## Sessions -/

/-- Two sessions have consumers that are alike at a partition, and both consumers are there or both
    have been dropped. -/
structure Session.Alike (p : Partition) (s s' : Session Subscription) : Prop where
  consumer : s.consumer.Alike p s'.consumer
  dropped : s.dropped = s'.dropped

namespace Session

variable {s s' : Session Subscription} {step step' : Step}

theorem Alike.turn (h : s.Alike p s') (hsteps : Step.Paired p step step') (hstep : step ≠ .poll) :
    (s.turn step).session.Alike p (s'.turn step').session := by
  have attempted {α β : Type} {took took' : Bool} {display : α → Value} {display' : β → Value}
      {act : Action (Consumer Subscription Task) α} {act' : Action (Consumer Subscription Task) β}
      (hact : (act.run s.consumer).state.Alike p (act'.run s'.consumer).state) :
      (s.attempt took display act).session.Alike p (s'.attempt took' display' act').session :=
    { h with consumer := hact }
  have hrequest (r : Request) := h.consumer.request (Client.alike_handle r h.consumer.client)
  cases hs : s.dropped with
  | true =>
      have hs' : s'.dropped = true := h.dropped ▸ hs
      cases hsteps with
      | aside hr hr' =>
          rw [turn_of_dropped hs, turn_of_dropped hs']
          exact h
      | same step hschedules =>
          rw [turn_of_dropped hs, turn_of_dropped hs']
          split
          · exact attempted h.consumer.wakeup
          · exact attempted (h.consumer.inject _)
          all_goals exact h
  | false =>
      have hs' : s'.dropped = false := h.dropped ▸ hs
      cases hsteps with
      | @aside r r' hr hr' =>
          rw [turn_of_not_dropped hs, turn_of_not_dropped hs']
          refine attempted (h.consumer.request ?_)
          exact (Client.alike_handle_of_spares hr _).symm.trans
            (h.consumer.client.trans (Client.alike_handle_of_spares hr' _))
      | same step hschedules =>
          rw [turn_of_not_dropped hs, turn_of_not_dropped hs']
          cases step with
          | poll => exact absurd rfl hstep
          | schedule | scheduleNop => cases hschedules
          | request r => exact attempted (hrequest r)
          | subscribePattern text listener =>
              dsimp only
              split
              · exact h
              · exact attempted (hrequest _)
          | wakeup party => exact attempted h.consumer.wakeup
          | inject party f => exact attempted (h.consumer.inject f)
          | close timeout => exact attempted (h.consumer.close timeout)
          | takeHandle | isClosed | bufferedCount | inspect => exact h
          | switch fault on => cases fault <;> exact h
          | drop => exact ⟨{ h.consumer with idle := rfl, idle' := rfl }, rfl⟩

end Session

/-! ## Single steps in runs of their own -/

namespace Run

variable {τ : Type}

/-- How the last step ended. -/
def verdict? (r : Run τ) : Option Verdict := r.answers.getLast?.map Answer.verdict

/-- Whether the last step ended well. -/
def succeeded (r : Run τ) : Bool := r.verdict?.any Verdict.isOk

/-- What the last step delivered, if it was a poll that ended well. -/
def batch? (r : Run τ) : Option Batch :=
  match r.verdict? with
  | some (.ok (.batch b)) => some b
  | _ => none

end Run

namespace Session

variable {τ : Type} [Tracker τ] [Switchable τ]

theorem play_of_answered {s : Session τ} {step : Step} {answer : Answer}
    (h : (s.turn step).turn = .answered answer) :
    s.play step =
      ⟨(s.turn step).session, [], [answer], [], (s.turn step).events, fun _ => .sorted⟩ := by
  have hnext : (Run.start s [step]).next? =
      some ⟨(s.turn step).session, [], [answer], [], (s.turn step).events, fun _ => .sorted⟩ := by
    simp [Run.next?, Run.start, Run.startIn, h]
  rw [play, Run.finish_of_next? hnext, Run.finish_of_next?_eq_none rfl]

theorem play_of_polling {s : Session τ} {step : Step} (h : (s.turn step).turn = .polling none) :
    s.play step =
      let o := (s.turn step).session.endPoll .sorted none
      ⟨o.1, [], [o.2.1], [], (s.turn step).events ++ o.2.2, fun _ => .sorted⟩ := by
  have hbegin : (Run.start s [step]).next? =
      some ⟨(s.turn step).session, [], [], [⟨false, [], []⟩], (s.turn step).events,
        fun _ => .sorted⟩ := by
    simp [Run.next?, Run.start, Run.startIn, h]
  rw [play, Run.finish_of_next? hbegin, Run.finish_of_next? rfl, Run.finish_of_next?_eq_none rfl]
  rfl

/-- A poll of a consumer that is closed or gone changes nothing. -/
theorem play_poll_of_refused {s : Session τ} (h : s.dropped = true ∨ s.consumer.isClosed = true) :
    (s.play .poll).session = s ∧ (s.play .poll).batch? = none := by
  obtain ⟨v, hv, hturn⟩ := turn_poll_of_refused h
  have hanswered : (s.turn .poll).turn = .answered (.plain v) := by
    rw [hturn]
    rfl
  rw [play_of_answered hanswered, hturn]
  refine ⟨rfl, ?_⟩
  rcases hv with rfl | rfl <;> rfl

/-- A poll of an open consumer without a queued task is what its end is. -/
theorem play_poll_of_idle {s : Session τ} (hs : s.dropped = false)
    (hopen : s.consumer.isClosed = false) (hidle : s.consumer.tasks = []) :
    (s.play .poll).session =
        { s with consumer := ((Consumer.endPoll .sorted).run s.consumer).state } ∧
      (s.play .poll).verdict? =
        some (.ofResult .batch ((Consumer.endPoll .sorted).run s.consumer).result) := by
  obtain ⟨hturn, hsession⟩ := turn_poll_of_open hs hopen
  have hsame : (s.turn .poll).session = s := by
    rw [hsession]
    simp only [hidle, List.tail_nil]
    rw [← hidle]
  rw [hidle] at hturn
  rw [play_of_polling hturn, hsame]
  exact ⟨rfl, rfl⟩

end Session

theorem Verdict.isOk_ofResult {α : Type} (display : α → Value) (o : Except Failure α) :
    (ofResult display o).isOk = o.isOk := by
  cases o <;> rfl

theorem Run.batch?_eq_some {τ : Type} {r : Run τ} {o : Except Failure Batch} {b : Batch}
    (hv : r.verdict? = some (.ofResult .batch o)) (h : r.batch? = some b) : o = .ok b := by
  unfold batch? at h
  rw [hv] at h
  cases o with
  | error e => cases h
  | ok a =>
      cases h
      rfl

namespace Session

variable {s s' : Session Subscription} {step step' : Step}

/-- Polls that both end well or both fail leave the sessions alike. -/
theorem Alike.poll (h : s.Alike p s')
    (hends : (s.play .poll).succeeded = (s'.play .poll).succeeded) :
    (s.play .poll).session.Alike p (s'.play .poll).session ∧
      ∀ b b', (s.play .poll).batch? = some b → (s'.play .poll).batch? = some b' →
        b.groups[p]? = b'.groups[p]? := by
  by_cases hrefused : s.dropped = true ∨ s.consumer.isClosed = true
  · have hrefused' : s'.dropped = true ∨ s'.consumer.isClosed = true := by
      rwa [← h.dropped, ← h.consumer.isClosed_eq]
    obtain ⟨hsame, hnone⟩ := play_poll_of_refused hrefused
    obtain ⟨hsame', -⟩ := play_poll_of_refused hrefused'
    rw [hsame, hsame', hnone]
    exact ⟨h, nofun⟩
  · obtain ⟨hs, hopen⟩ : s.dropped = false ∧ s.consumer.isClosed = false := by
      simpa using hrefused
    obtain ⟨hstate, hv⟩ := play_poll_of_idle hs hopen h.consumer.idle
    obtain ⟨hstate', hv'⟩ := play_poll_of_idle (h.dropped ▸ hs) (h.consumer.isClosed_eq ▸ hopen)
      h.consumer.idle'
    simp only [Run.succeeded, hv, hv', Option.any_some, Verdict.isOk_ofResult] at hends
    obtain ⟨hconsumer, hbatch⟩ := h.consumer.endPoll .sorted .sorted hends
    rw [hstate, hstate']
    refine ⟨⟨hconsumer, h.dropped⟩, ?_⟩
    intro b b' hb hb'
    exact hbatch b b' (Run.batch?_eq_some hv hb) (Run.batch?_eq_some hv' hb')

/-- One pair of steps. -/
theorem Alike.play (h : s.Alike p s') (hsteps : Step.Paired p step step')
    (hends : step = .poll → (s.play step).succeeded = (s'.play step').succeeded) :
    (s.play step).session.Alike p (s'.play step').session ∧
      (step = .poll → ∀ b b', (s.play step).batch? = some b → (s'.play step').batch? = some b' →
        b.groups[p]? = b'.groups[p]?) := by
  by_cases hstep : step = .poll
  · subst hstep
    cases hsteps
    obtain ⟨halike, hbatch⟩ := h.poll (hends rfl)
    exact ⟨halike, fun _ => hbatch⟩
  · have hstep' : step' ≠ .poll := by
      cases hsteps with
      | same => exact hstep
      | aside => simp
    obtain ⟨answer, hanswer⟩ := exists_answered hstep s
    obtain ⟨answer', hanswer'⟩ := exists_answered hstep' s'
    rw [play_of_answered hanswer, play_of_answered hanswer']
    exact ⟨h.turn hsteps hstep, fun hpoll => absurd hpoll hstep⟩

/-! ## Whole scripts -/

/-- At each place of two scripts that go hand in hand. -/
theorem Alike.playAll (h : s.Alike p s') {xs ys : List Step}
    (hsteps : List.Forall₂ (Step.Paired p) xs ys) {i : Nat}
    (hends : ∀ j ≤ i, xs[j]? = some .poll →
      (s.playAll xs)[j]?.map Run.succeeded = (s'.playAll ys)[j]?.map Run.succeeded)
    {r r' : Run Subscription} (hr : (s.playAll xs)[i]? = some r)
    (hr' : (s'.playAll ys)[i]? = some r') :
    r.session.Alike p r'.session ∧
      (xs[i]? = some .poll → ∀ b b', r.batch? = some b → r'.batch? = some b' →
        b.groups[p]? = b'.groups[p]?) := by
  induction i generalizing s s' xs ys with
  | zero =>
      cases hsteps with
      | nil => simp [Session.playAll] at hr
      | @cons x y xs ys hxy hrest =>
          simp only [Session.playAll, List.getElem?_cons_zero, Option.some.injEq] at hr hr'
          subst hr hr'
          obtain ⟨halike, hbatch⟩ := h.play hxy fun hx => by
            have := hends 0 (Nat.le_refl _) (by rw [hx]; rfl)
            simpa [Session.playAll] using this
          refine ⟨halike, fun hx => hbatch ?_⟩
          simpa using hx
  | succ i ih =>
      cases hsteps with
      | nil => simp [Session.playAll] at hr
      | @cons x y xs ys hxy hrest =>
          simp only [Session.playAll, List.getElem?_cons_succ] at hr hr' ⊢
          obtain ⟨halike, -⟩ := h.play hxy fun hx => by
            have := hends 0 (Nat.zero_le _) (by rw [hx]; rfl)
            simpa [Session.playAll] using this
          refine ih halike hrest ?_ hr hr'
          intro j hj hx
          have := hends (j + 1) (by omega) (by simpa using hx)
          simpa [Session.playAll] using this

/-- **Partitions do not interfere.** Two scripts start from the same session, with no task queued.
    At each place they make the same step, which does not schedule, or each makes a request that
    names other partitions than `p` only. Then they leave the same for `p` at every place, and what
    two polls that end well deliver of `p` is the same, as long as up to there no poll has ended
    well in one script and failed in the other. -/
theorem partitions_independent {s : Session Subscription} (hidle : s.consumer.tasks = [])
    {p : Partition} {xs ys : List Step} (hsteps : List.Forall₂ (Step.Paired p) xs ys) {i : Nat}
    (hends : ∀ j ≤ i, xs[j]? = some .poll →
      (s.playAll xs)[j]?.map Run.succeeded = (s.playAll ys)[j]?.map Run.succeeded)
    {r r' : Run Subscription} (hr : (s.playAll xs)[i]? = some r)
    (hr' : (s.playAll ys)[i]? = some r') :
    r.session.consumer.client.slice p = r'.session.consumer.client.slice p ∧
      (xs[i]? = some .poll → ∀ b b', r.batch? = some b → r'.batch? = some b' →
        b.groups[p]? = b'.groups[p]?) := by
  have hsame : s.Alike p s := ⟨⟨.refl _, rfl, hidle, hidle⟩, rfl⟩
  obtain ⟨halike, hbatch⟩ := hsame.playAll hsteps hends hr hr'
  exact ⟨halike.consumer.client.slice_eq, hbatch⟩

end Session

/-! ## Two scripts that differ aside -/

/-- A session with two partitions assigned, on each of which a record waits. -/
def Session.recordOnEach : Session Subscription :=
  (Run.fresh (Subscription.empty .earliest) .empty ⟨30000⟩
    [.request (.assign {orders 0, orders 1}), .request (.seek (orders 0) 3),
      .request (.seek (orders 1) 7), .request (.addRecord (order 0 3)),
      .request (.addRecord (order 1 7))]).finish.session

/-- A script that polls twice, the first time with a partition paused, and in two places does
    something else. -/
def Step.withAsides (aside aside' : Request) : List Step :=
  [.request aside, .request (.pause [orders 0]), .poll, .request aside', .request .commitSync,
    .request (.resume [orders 0]), .request (.addRecord (order 0 9)), .poll]

/-- One script moves and pauses the other partition; the other script adds a record to it and asks
    for its position. Both deliver the same of the partition left alone, and leave it at the same
    position with the same commit. What they leave of the other partition differs. -/
theorem Session.recordOnEach_independent :
    let xs := Step.withAsides (.seek (orders 1) 100) (.pause [orders 1])
    let ys := Step.withAsides (.addRecord (order 1 8)) (.position (orders 1))
    List.Forall₂ (Step.Paired (orders 0)) xs ys ∧
    ∃ r r', (recordOnEach.playAll xs)[7]? = some r ∧ (recordOnEach.playAll ys)[7]? = some r' ∧
      r.session.consumer.client.slice (orders 0) = r'.session.consumer.client.slice (orders 0) ∧
      r.session.consumer.client.slice (orders 1) ≠ r'.session.consumer.client.slice (orders 1) ∧
      ∃ b b', r.batch? = some b ∧ r'.batch? = some b' ∧
        b.groups[orders 0]? = b'.groups[orders 0]? ∧ b.groups[orders 0]? = some [order 0 9] := by
  intro xs ys
  have hsteps : List.Forall₂ (Step.Paired (orders 0)) xs ys := by
    refine .cons (.aside ?_ ?_) (.cons (.same _ rfl) (.cons (.same _ rfl) (.cons (.aside ?_ ?_)
      (.cons (.same _ rfl) (.cons (.same _ rfl) (.cons (.same _ rfl)
        (.cons (.same _ rfl) .nil)))))))
    all_goals simp [Request.Spares, orders, order]
  have hends : ∀ j ≤ 7, (recordOnEach.playAll xs)[j]?.map Run.succeeded =
      (recordOnEach.playAll ys)[j]?.map Run.succeeded := by decide +kernel
  obtain ⟨r, hr⟩ : ∃ r, (recordOnEach.playAll xs)[7]? = some r :=
    Option.isSome_iff_exists.1 (by decide +kernel)
  obtain ⟨r', hr'⟩ : ∃ r', (recordOnEach.playAll ys)[7]? = some r' :=
    Option.isSome_iff_exists.1 (by decide +kernel)
  have hdiffer : (recordOnEach.playAll xs)[7]?.map (·.session.consumer.client.slice (orders 1)) ≠
      (recordOnEach.playAll ys)[7]?.map (·.session.consumer.client.slice (orders 1)) := by
    decide +kernel
  obtain ⟨b, hb⟩ : ∃ b, (recordOnEach.playAll xs)[7]?.bind Run.batch? = some b :=
    Option.isSome_iff_exists.1 (by decide +kernel)
  obtain ⟨b', hb'⟩ : ∃ b', (recordOnEach.playAll ys)[7]?.bind Run.batch? = some b' :=
    Option.isSome_iff_exists.1 (by decide +kernel)
  have hgroup : ((recordOnEach.playAll xs)[7]?.bind Run.batch?).map (·.groups[orders 0]?) =
      some (some [order 0 9]) := by decide +kernel
  obtain ⟨hslice, hbatch⟩ := partitions_independent (by decide +kernel) hsteps
    (fun j hj _ => hends j hj) hr hr'
  rw [hr, hr', Option.map_some, Option.map_some, ne_eq, Option.some.injEq] at hdiffer
  rw [hb, Option.map_some, Option.some.injEq] at hgroup
  rw [hr, Option.bind_some] at hb
  rw [hr', Option.bind_some] at hb'
  exact ⟨hsteps, r, r', hr, hr', hslice, hdiffer, b, b', hb, hb', hbatch rfl b b' hb hb', hgroup⟩

end ScriptedConsumer
