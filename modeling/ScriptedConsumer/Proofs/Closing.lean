import ScriptedConsumer.Proofs.Histories

set_option autoImplicit false

/-! # After closing

Closing is the last thing that a consumer does. Whatever is called afterwards, by the owner or
through a handle, at the top of a script or in what is left of the task that closed, is refused and
has no effect; and so are the polls that were waiting for that task. Only what is done to the
consumer from outside still shows: switching the faults of its tracker, and dropping it.

The invariant is that the consumer is closed. `Deed.refused` says what it comes to at one deed,
`Run.closed_for_good` what at all that follow a deed that closes. -/

namespace ScriptedConsumer

variable {τ : Type} [Tracker τ] [Switchable τ]

namespace Deed

/-! ## One deed on a closed consumer -/

/-- Whether the deed closes the consumer. -/
def closes (d : Deed τ) : Bool :=
  match d with
  | make _ (.close _) => d.succeeded
  | _ => false

omit [Tracker τ] [Switchable τ] in
/-- Whether the deed is a call that reaches the consumer or a handle, or the end of a poll. -/
def isCall : Deed τ → Bool
  | make s step => step.isCall && s.reaches step
  | endPoll .. => true

omit [Tracker τ] [Switchable τ] in
/-- Whether the deed is done to the consumer from outside: a fault of its tracker is switched, or it
    is dropped. -/
def isOutside : Deed τ → Bool
  | make _ (.switch ..) | make _ .drop => true
  | _ => false

/-- What comes of a deed on a closed consumer. -/
structure Refused (d : Deed τ) : Prop where
  /-- The consumer was closed before, and it still is. -/
  closed : d.before.consumer.isClosed = true ∧ d.after.consumer.isClosed = true
  /-- Every call is refused, and so is every poll that ends. -/
  verdict : d.isCall = true → d.verdict? = some (.failed .closed)
  /-- To ask whether the consumer is closed is no call, and the answer is that it is. -/
  told : ∀ s, d = make s .isClosed → s.dropped = false → d.verdict? = some (.ok (.flag true))
  /-- Nothing has an effect on the session but what is done from outside. -/
  unchanged : d.isOutside = false → d.after = d.before
  /-- Nothing is logged, and nothing is counted. -/
  silent : d.events = []

theorem refused_make {s : Session τ} (h : s.consumer.isClosed = true) (step : Step) :
    (make s step).Refused where
  closed := ⟨h, Session.isClosed_turn h step⟩
  verdict hcall := by
    obtain ⟨hstep, hreaches⟩ := Bool.and_eq_true_iff.1 hcall
    obtain ⟨tookCallback, hturn⟩ := Session.turn_call_of_closed h hstep hreaches
    simp only [verdict?, hturn]
    rfl
  told s' hmake hs := by
    cases hmake
    simp only [verdict?, Session.turn_of_not_dropped hs, Session.unmoved, h]
    rfl
  unchanged hout := by
    obtain ⟨-, he | ⟨fault, on, rfl, -⟩ | ⟨rfl, -⟩⟩ := Session.turn_of_closed h step
    · exact he
    · cases hout
    · cases hout
  silent := (Session.turn_of_closed h step).1

theorem refused_endPoll {s : Session τ} (h : s.consumer.isClosed = true)
    (visiting : Visiting (List Record)) (shown : Option (List Answer)) :
    (endPoll s visiting shown).Refused where
  closed := by
    simp only [before, after, Session.endPoll_of_closed h, h, and_self]
  verdict _ := by
    simp only [verdict?, Session.endPoll_of_closed h]
    rfl
  told s' hmake _ := by cases hmake
  unchanged _ := by simp only [before, after, Session.endPoll_of_closed h]
  silent := by simp only [events, Session.endPoll_of_closed h]

theorem refused {d : Deed τ} (h : d.before.consumer.isClosed = true) : d.Refused := by
  cases d with
  | make s step => exact refused_make h step
  | endPoll s visiting shown => exact refused_endPoll h visiting shown

theorem isClosed_of_closes {d : Deed τ} (h : d.closes = true) :
    d.after.consumer.isClosed = true := by
  cases d with
  | endPoll s visiting shown => simp [closes] at h
  | make s step =>
      cases step with
      | close timeout =>
          cases hs : s.dropped with
          | true =>
              simp only [closes, succeeded, verdict?, Session.turn_of_dropped hs] at h
              cases h
          | false =>
              simp only [after, Session.turn_of_not_dropped hs, Session.effect, Session.attempt,
                Consumer.run_close]
              split
              · next hclosed => exact hclosed
              · rfl
      | _ => simp [closes] at h

end Deed

namespace Run

variable {r : Run τ}

/-! ## The deeds that follow -/

/-- Whatever a run does from a moment on at which the consumer is closed is refused. -/
theorem refused_of_closed (h : r.session.consumer.isClosed = true) (n : Nat) :
    (∀ d ∈ r.deeds n, d.Refused) ∧ (r.ahead n).session.consumer.isClosed = true := by
  refine carries (P := fun ds s => (∀ d ∈ ds, d.Refused) ∧ s.consumer.isClosed = true) ?_ ?_ n
  · rintro ds d ⟨hall, hclosed⟩
    have hd : d.Refused := Deed.refused hclosed
    refine ⟨?_, hd.closed.2⟩
    intro d' hd'
    rcases List.mem_append.1 hd' with hd' | hd'
    · exact hall d' hd'
    · rw [List.mem_singleton.1 hd']
      exact hd
  · exact ⟨by simp, h⟩

/-- As long as nothing is done from outside, the session stays as it was. -/
theorem session_of_closed (h : r.session.consumer.isClosed = true) {n : Nat}
    (hinside : ∀ d ∈ r.deeds n, d.isOutside = false) : (r.ahead n).session = r.session := by
  refine carries (P := fun ds s => (∀ d ∈ ds, d.isOutside = false) → s = r.session) ?_ ?_ n hinside
  · intro ds d ih hout
    have hbefore : d.before = r.session := ih fun d' hd' => hout d' (List.mem_append_left _ hd')
    have hclosed : d.before.consumer.isClosed = true := by rw [hbefore, h]
    rw [(Deed.refused hclosed).unchanged (hout d (by simp)), hbefore]
  · intro _
    rfl

theorem events_of_closed (h : r.session.consumer.isClosed = true) (n : Nat) :
    (r.ahead n).events = r.events := by
  have hsilent : (r.deeds n).flatMap Deed.events = [] :=
    List.flatMap_eq_nil_iff.2 fun d hd => ((refused_of_closed h n).1 d hd).silent
  rw [events_ahead, hsilent, List.append_nil]

/-! ## The polls that wait -/

/-- The end of a poll whose script is done, on a closed consumer. -/
theorem next?_of_closed (h : r.session.consumer.isClosed = true) (htodo : r.todo = [])
    {w : Waiting} {outer : List Waiting} (hwaiting : r.waiting = w :: outer) :
    r.next? = some
      { r with
        todo := w.todo
        answers := w.answers ++
          [.of (.failed .closed) false (if w.showsTask then some r.answers else none)]
        waiting := outer
        visits := fun n => r.visits (n + 1) } := by
  simp only [next?, htodo, hwaiting, Session.endPoll_of_closed h, List.append_nil]

/-- **Closing is for good.** From a deed that closes the consumer on, the consumer is closed, every
    call is refused, through a handle too, and nothing but what is done from outside has any
    effect: as long as nothing is, the session is the one that closing left. Nothing is logged or
    counted. And every poll that waits for a task then, or at any later moment, comes to its end,
    is answered as refused, and leaves the session as it finds it. -/
theorem closed_for_good {d : Deed τ} (hd : r.deed? = some d) (hcloses : d.closes = true)
    (n : Nat) :
    (r.ahead (n + 1)).session.consumer.isClosed = true ∧
    (∀ d' ∈ (r.ahead 1).deeds n, d'.Refused) ∧
    ((∀ d' ∈ (r.ahead 1).deeds n, d'.isOutside = false) →
      (r.ahead (n + 1)).session = d.after) ∧
    (r.ahead (n + 1)).events = r.events ++ d.events ∧
    (∀ inner w outer, (r.ahead (n + 1)).waiting = inner ++ w :: outer →
      ∃ m, n < m ∧ (r.ahead m).todo = [] ∧ (r.ahead m).waiting = w :: outer ∧
        (r.ahead m).next? = some
          { r.ahead m with
            todo := w.todo
            answers := w.answers ++ [.of (.failed .closed) false
              (if w.showsTask then some (r.ahead m).answers else none)]
            waiting := outer
            visits := fun k => (r.ahead m).visits (k + 1) }) := by
  obtain ⟨r', hn⟩ := next?_of_deed? hd
  have hone : r.ahead 1 = r' := ahead_succ hn 0
  have hmore (m : Nat) : r.ahead (m + 1) = r'.ahead m := ahead_succ hn m
  have hclosed : r'.session.consumer.isClosed = true := by
    rw [← after_of_deed? hd hn]
    exact Deed.isClosed_of_closes hcloses
  obtain ⟨hrefused, hstays⟩ := refused_of_closed hclosed n
  rw [hone, hmore]
  refine ⟨hstays, hrefused, ?_, ?_, ?_⟩
  · intro hinside
    rw [session_of_closed hclosed hinside, after_of_deed? hd hn]
  · rw [events_of_closed hclosed, events_of_deed? hd hn]
  · intro inner w outer hwaiting
    obtain ⟨m, htodo, hw⟩ := exists_ahead_of_waiting hwaiting
    have hlater : r.ahead (n + m + 1) = (r'.ahead n).ahead m := by rw [hmore, ahead_add]
    refine ⟨n + m + 1, by omega, ?_⟩
    rw [hlater]
    exact ⟨htodo, hw, next?_of_closed (refused_of_closed hstays m).2 htodo hw⟩

end Run

/-! ## A task that closes under two polls -/

/-- A run whose first task polls; the task of that inner poll arms a wakeup, closes the consumer and
    closes it again. A record is buffered all the while. -/
def Run.closeInTask : Run Subscription :=
  Run.fresh (Subscription.empty .earliest) .empty ⟨30000⟩
    [.request (.assign {orders 0}), .request (.addRecord (order 0 5)),
      .schedule .owner [.poll, .request .unsubscribe],
      .schedule .handle [.wakeup .handle, .close none, .close (some ⟨5⟩), .isClosed],
      .poll, .inject .handle (.injected "late")]

/-- The eighth deed closes. Six deeds later both polls and all calls between them have been refused;
    the wakeup is still armed, the record still buffered, and one record is still all that waits. -/
theorem Run.closeInTask_for_good :
    (Run.closeInTask.ahead 7).deed? = some (.make (Run.closeInTask.ahead 7).session (.close none)) ∧
    (Run.closeInTask.ahead 14).session.consumer.signals = { wakeup := true, closed := true } ∧
    (Run.closeInTask.ahead 14).session.consumer.bufferedCount = 1 ∧
    (Run.closeInTask.ahead 14).events =
      (Run.closeInTask.ahead 7).events ++ [.logged (.consumerClosed ⟨30000⟩)] ∧
    (Run.closeInTask.ahead 8).waiting.length = 2 ∧
    (Run.closeInTask.ahead 14).waiting.length = 0 := by
  obtain ⟨-, -, hsession, hevents, -⟩ :=
    Run.closed_for_good (r := Run.closeInTask.ahead 7) rfl (by decide +kernel) 6
  have hlater : Run.closeInTask.ahead 14 = (Run.closeInTask.ahead 7).ahead 7 := Run.ahead_add _ 7 7
  have hframe := hsession (by decide +kernel)
  rw [← hlater] at hframe hevents
  refine ⟨rfl, ?_, ?_, ?_, by decide +kernel, by decide +kernel⟩
  · rw [hframe]
    decide +kernel
  · rw [hframe]
    decide +kernel
  · rw [hevents]
    rfl

end ScriptedConsumer
