import ScriptedConsumer.Proofs.Buffers
import ScriptedConsumer.Proofs.Histories

set_option autoImplicit false

/-! # What deeds do to the client

Few deeds reach the client: a request on an open consumer, which does to it what `Client.handle`
says, the end of a poll, which may fetch, and the switching of a fault, which changes the tracker
only. `Deed.onClient` says so once for all deeds, so that an invariant of the client has to be shown
of requests, of fetching and of switching only: `Deed.maintains_client`. -/

namespace ScriptedConsumer

/-- The request that a step makes. Reading a text as a pattern comes to one if the text is one. -/
def Step.request? [Pattern.Dialect] : Step → Option Request
  | .request r => some r
  | .subscribePattern text listener => (Pattern.compile? text).map (.subscribePattern · listener)
  | _ => none

/-- The failure that a verdict gives, if it gives one. -/
def Verdict.failure? : Verdict → Option Failure
  | .failed f => some f
  | _ => none

theorem Verdict.failure?_ofResult {α : Type} {display : α → Value} {result : Except Failure α}
    {f : Failure} : (Verdict.ofResult display result).failure? = some f ↔ result = .error f := by
  cases result <;> simp [ofResult, failure?]

variable {τ : Type} [Tracker τ] [Switchable τ] [Pattern.Dialect]

namespace Session

theorem turn_request_of_dropped {s : Session τ} (hs : s.dropped = true) {step : Step} {r : Request}
    (hr : step.request? = some r) : s.turn step = s.unmoved .dropped := by
  rw [turn_of_dropped hs]
  cases step with
  | request | subscribePattern => rfl
  | _ => simp [Step.request?] at hr

omit [Tracker τ] [Switchable τ] in
theorem isCall_of_request? {step : Step} {r : Request} (hr : step.request? = some r) :
    step.isCall = true := by
  cases step with
  | request => rfl
  | subscribePattern text listener =>
      obtain ⟨pattern, hp, -⟩ := Option.map_eq_some_iff.1 hr
      simp [Step.isCall, hp]
  | _ => simp [Step.request?] at hr

/-- On an open consumer a request does to the client what it does, and nothing else, and it is
    answered with its result. -/
theorem turn_request {s : Session τ} (hs : s.dropped = false) (hc : s.consumer.isClosed = false)
    {step : Step} {r : Request} (hr : step.request? = some r) :
    ∃ tookCallback, s.turn step =
      ⟨{ s with consumer :=
          { s.consumer with client := ((Client.handle r).run s.consumer.client).state } },
        .answered (.of (.ofResult .reply ((Client.handle r).run s.consumer.client).result)
          tookCallback none),
        ((Client.handle r).run s.consumer.client).events⟩ := by
  have hrun (tookCallback : Bool) : s.attempt tookCallback .reply (Consumer.request r) =
      ⟨{ s with consumer :=
          { s.consumer with client := ((Client.handle r).run s.consumer.client).state } },
        .answered (.of (.ofResult .reply ((Client.handle r).run s.consumer.client).result)
          tookCallback none),
        ((Client.handle r).run s.consumer.client).events⟩ := by
    simp only [attempt, Consumer.run_request, hc, Bool.false_eq_true, if_false,
      Consumer.run_onClient]
  rw [turn_of_not_dropped hs]
  cases step with
  | request r' =>
      cases hr
      exact ⟨_, hrun _⟩
  | subscribePattern text listener =>
      obtain ⟨pattern, hp, rfl⟩ := Option.map_eq_some_iff.1 hr
      simp only [hp]
      exact ⟨_, hrun _⟩
  | _ => simp [Step.request?] at hr

end Session

namespace Deed

/-! ## Requests among the deeds -/

omit [Tracker τ] [Switchable τ] in
/-- The request that the deed makes, if it makes one. -/
def request? : Deed τ → Option Request
  | make _ step => step.request?
  | endPoll .. => none

/-- The failure in which the deed ends, if it fails. -/
def failure? (d : Deed τ) : Option Failure := d.verdict?.bind Verdict.failure?

/-- The request that the deed makes, if it makes one that succeeds. -/
def accepted? (d : Deed τ) : Option Request := if d.succeeded then d.request? else none

/-- A request that succeeds was made on an open consumer, whose client granted it. -/
theorem of_accepted? {d : Deed τ} {r : Request} (h : d.accepted? = some r) :
    d.request? = some r ∧ d.succeeded = true := by
  unfold accepted? at h
  split at h
  · next hs => exact ⟨h, hs⟩
  · cases h

theorem accepted?_of_verdict? {d : Deed τ} {r : Request} (hr : d.request? = some r)
    {result : Except Failure Reply} (h : d.verdict? = some (.ofResult .reply result)) :
    d.accepted? = result.toOption.map fun _ => r := by
  unfold accepted? succeeded
  rw [h, hr]
  cases result <;> rfl

/-! ## The client and one deed -/

/-- What a deed may do to the client. -/
inductive OnClient (d : Deed τ) : Prop
  /-- It leaves the client alone, and it makes no request or is refused by the consumer. -/
  | untouched (hstate : d.after.consumer.client = d.before.consumer.client)
      (hrefused : d.accepted? = none)
  /-- It makes a request on an open consumer. -/
  | requested (r : Request) (hr : d.request? = some r)
      (hstate : d.after.consumer.client =
        ((Client.handle r).run d.before.consumer.client).state)
      (hverdict : d.verdict? =
        some (.ofResult .reply ((Client.handle r).run d.before.consumer.client).result))
  /-- It ends a poll that no signal aborts. -/
  | fetched (s : Session τ) (visiting : Visiting (List Record)) (shown : Option (List Answer))
      (hd : d = endPoll s visiting shown)
      (hstate : d.after.consumer.client =
        ((Client.fetch visiting).run d.before.consumer.client).state)
  /-- It switches a fault of the tracker. -/
  | switched (s : Session τ) (fault : Fault) (on : Bool) (hd : d = make s (.switch (some fault) on))
      (hstate : d.after.consumer.client =
        { d.before.consumer.client with
          tracker := Switchable.switch fault on d.before.consumer.client.tracker })

theorem accepted?_of_request? {d : Deed τ} (h : d.request? = none) : d.accepted? = none := by
  unfold accepted?
  rw [h, ite_self]

/-- A request on an open consumer is answered with what the client says, and does nothing but what
    it does to the client. -/
theorem make_request {s : Session τ} (hs : s.dropped = false) (hc : s.consumer.isClosed = false)
    {step : Step} {r : Request} (hr : step.request? = some r) :
    (make s step).verdict? =
        some (.ofResult .reply ((Client.handle r).run s.consumer.client).result) ∧
      (make s step).after = { s with consumer :=
        { s.consumer with client := ((Client.handle r).run s.consumer.client).state } } ∧
      (make s step).events = ((Client.handle r).run s.consumer.client).events := by
  obtain ⟨tookCallback, hturn⟩ := Session.turn_request hs hc hr
  simp only [verdict?, after, events, hturn, and_true]
  rfl

theorem make_of_run {s : Session τ} (hs : s.dropped = false) (hc : s.consumer.isClosed = false)
    {r : Request} {o : Outcome (Client τ) Reply}
    (hrun : (Client.handle r).run s.consumer.client = o) :
    (make s (.request r)).verdict? = some (.ofResult .reply o.result) ∧
      (make s (.request r)).after =
        { s with consumer := { s.consumer with client := o.state } } ∧
      (make s (.request r)).events = o.events :=
  hrun ▸ make_request hs hc rfl

theorem onClient_make (s : Session τ) (step : Step) : (make s step).OnClient := by
  cases hr : step.request? with
  | some r =>
      have hrequest : (make s step).request? = some r := hr
      cases hs : s.dropped with
      | true =>
          have hturn := Session.turn_request_of_dropped hs hr
          refine .untouched ?_ ?_
          · simp only [after, before, hturn, Session.unmoved]
          · simp only [accepted?, succeeded, verdict?, hturn, Session.unmoved]
            rfl
      | false =>
          cases hc : s.consumer.isClosed with
          | true =>
              have hreaches : s.reaches step = true := by simp [Session.reaches, hs]
              obtain ⟨tookCallback, hturn⟩ :=
                Session.turn_call_of_closed hc (Session.isCall_of_request? hr) hreaches
              refine .untouched ?_ ?_
              · simp only [after, before, hturn]
              · simp only [accepted?, succeeded, verdict?, hturn]
                rfl
          | false =>
              obtain ⟨hverdict, hafter, -⟩ := make_request hs hc hr
              exact .requested r hrequest (by rw [hafter]; rfl) hverdict
  | none =>
      have hrequest : (make s step).request? = none := hr
      have hnone := accepted?_of_request? hrequest
      cases hs : s.dropped with
      | true => exact .untouched (Session.client_turn_of_dropped hs step) hnone
      | false =>
          have hturn := Session.turn_of_not_dropped hs step
          have same (h : (s.turn step).session.consumer.client = s.consumer.client) :
              (make s step).OnClient := .untouched h hnone
          -- the steps that are left work on the signals and the queue, or on nothing
          cases step with
          | request => cases hr
          | subscribePattern text listener =>
              refine same ?_
              rw [hturn]
              simp only [Option.map_eq_none_iff.1 hr, Session.unmoved]
          | poll =>
              refine same ?_
              simp only [hturn, Session.beginPoll, Consumer.run_beginPoll]
              cases s.consumer.isClosed <;> cases s.consumer.tasks <;> rfl
          | wakeup =>
              refine same ?_
              simp only [hturn, Session.effect, Session.attempt, Consumer.run_wakeup]
              split <;> rfl
          | inject =>
              refine same ?_
              simp only [hturn, Session.effect, Session.attempt, Consumer.run_inject]
              split <;> rfl
          | schedule | scheduleNop =>
              refine same ?_
              simp only [hturn, Session.effect, Session.attempt, Consumer.run_schedule]
              split <;> rfl
          | close =>
              refine same ?_
              simp only [hturn, Session.effect, Session.attempt, Consumer.run_close]
              split <;> rfl
          | switch fault on =>
              cases fault with
              | none =>
                  refine same ?_
                  rw [hturn]
                  rfl
              | some fault =>
                  refine .switched s fault on rfl ?_
                  simp only [after, before, hturn]
                  rfl
          | takeHandle | isClosed | bufferedCount | inspect | drop =>
              refine same ?_
              rw [hturn]
              rfl

theorem onClient_endPoll (s : Session τ) (visiting : Visiting (List Record))
    (shown : Option (List Answer)) : (endPoll s visiting shown).OnClient := by
  cases hf : s.consumer.fetchesNow with
  | true =>
      obtain ⟨-, hstate⟩ := Consumer.run_endPoll_of_fetchesNow visiting hf
      refine .fetched s visiting shown rfl ?_
      simp only [after, before, Session.endPoll, hstate]
  | false =>
      obtain ⟨f, -, hstate⟩ := Consumer.run_endPoll_of_not_fetchesNow visiting hf
      refine .untouched ?_ (accepted?_of_request? rfl)
      simp only [after, before, Session.endPoll, hstate]

theorem onClient (d : Deed τ) : d.OnClient := by
  cases d with
  | make s step => exact onClient_make s step
  | endPoll s visiting shown => exact onClient_endPoll s visiting shown

theorem client_of_accepted? {d : Deed τ} {r : Request} (h : d.accepted? = some r) :
    d.after.consumer.client = ((Client.handle r).run d.before.consumer.client).state ∧
      ∃ a, ((Client.handle r).run d.before.consumer.client).result = .ok a := by
  obtain ⟨hr, hs⟩ := of_accepted? h
  cases d.onClient with
  | untouched _ hrefused =>
      rw [h] at hrefused
      cases hrefused
  | requested r' hr' hstate hverdict =>
      rw [hr, Option.some.injEq] at hr'
      subst hr'
      refine ⟨hstate, ?_⟩
      unfold succeeded at hs
      rw [hverdict] at hs
      cases hres : ((Client.handle r).run d.before.consumer.client).result with
      | ok a => exact ⟨a, rfl⟩
      | error e =>
          rw [hres] at hs
          cases hs
  | fetched s visiting shown hd =>
      subst hd
      cases hr
  | switched s fault on hd =>
      subst hd
      cases hr

/-- What the request of a deed, fetching and the switching of a fault carry on, the deed carries
    on. -/
theorem maintains_client {J : Client τ → Prop} {d : Deed τ}
    (hrequest : ∀ r, d.request? = some r → Action.Maintains J (Client.handle r))
    (hfetch : ∀ visiting, Action.Maintains J (Client.fetch visiting))
    (hswitch : ∀ s fault on, d = make s (.switch (some fault) on) → ∀ c, J c →
      J { c with tracker := Switchable.switch fault on c.tracker })
    (h : J d.before.consumer.client) : J d.after.consumer.client := by
  cases d.onClient with
  | untouched hstate =>
      rw [hstate]
      exact h
  | requested r hr hstate =>
      rw [hstate]
      exact hrequest r hr _ h
  | fetched s visiting shown hd hstate =>
      rw [hstate]
      exact hfetch visiting _ h
  | switched s fault on hd hstate =>
      rw [hstate]
      exact hswitch s fault on hd _ h

end Deed

end ScriptedConsumer
