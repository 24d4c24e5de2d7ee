import ScriptedConsumer.Proofs.Atomicity
import ScriptedConsumer.Proofs.Lockstep

set_option autoImplicit false

/-! # What deeds do to a subscription

Over a subscription a deed whose request is refused leaves the client alone
(`client_make_of_refused`). So what a deed does to the subscription is done by the calls of a
request that succeeds, or of a fetch, and an invariant has to be shown of those calls only
(`Deed.maintains_granted`). -/

namespace ScriptedConsumer

namespace Deed

theorem client_make_of_refused {s : Session Subscription} {step : Step}
    (h : (make s step).accepted? = none) :
    (make s step).after.consumer.client = s.consumer.client := by
  cases onClient_make s step with
  | untouched hstate => exact hstate
  | requested r hr hstate hverdict =>
      rw [accepted?_of_verdict? hr hverdict] at h
      cases hres : ((Client.handle r).run s.consumer.client).result with
      | ok a =>
          rw [before, hres] at h
          cases h
      | error e =>
          exact hstate.trans
            (Client.clean_handle Subscription.atomic (c := s.consumer.client) trivial r e hres)
  | fetched s' visiting shown hd => cases hd
  | switched s' fault on hd hstate => exact hstate

/-- The calls that may be granted in the deed: those of a request that succeeds, or of a fetch. -/
def MayGrant (d : Deed Subscription) (call : Tracker.Call) : Prop :=
  (∃ r, d.accepted? = some r ∧ r.Makes call) ∨
    ∃ p offset, call = .seek p offset ∨ call = .setPosition p offset

/-- What these calls carry on of a coherent subscription, the deed carries on. -/
theorem maintains_granted {I : Subscription → Prop} {d : Deed Subscription}
    (hcalls : ∀ call, d.MayGrant call → ∀ s s', s.Coherent → I s → s.Granted call s' → I s')
    (hc : d.before.consumer.client.tracker.Coherent) (h : I d.before.consumer.client.tracker) :
    d.after.consumer.client.tracker.Coherent ∧ I d.after.consumer.client.tracker := by
  have guarded (hmay : ∀ call, d.MayMake call → d.MayGrant call) :
      d.after.consumer.client.tracker.Coherent ∧ I d.after.consumer.client.tracker :=
    maintains_guarded Subscription.guards Subscription.safeSwitches d.switchesOnly_any
      (fun call hcall => hcalls call (hmay call hcall)) ⟨hc, h⟩
  cases d with
  | endPoll s visiting shown =>
      refine guarded ?_
      rintro call (⟨r, hr, -⟩ | hfetch)
      · cases hr
      · exact .inr hfetch
  | make s step =>
      cases haccepted : (make s step).accepted? with
      | none =>
          rw [client_make_of_refused haccepted]
          exact ⟨hc, h⟩
      | some r =>
          refine guarded ?_
          rintro call (⟨r', hr', hmakes⟩ | hfetch)
          · have hsame : r' = r := Option.some.inj (hr'.symm.trans (of_accepted? haccepted).1)
            exact .inl ⟨r, haccepted, hsame ▸ hmakes⟩
          · exact .inr hfetch

theorem coherent_after {d : Deed Subscription} (hc : d.before.consumer.client.tracker.Coherent) :
    d.after.consumer.client.tracker.Coherent :=
  (d.maintains_granted (I := fun _ => True) (fun _ _ _ _ _ _ _ => trivial) hc trivial).1

end Deed

theorem History.coherent {policy : ResetPolicy} {ds : List (Deed Subscription)}
    {r : Run Subscription} (h : History (Subscription.empty policy) ds r) :
    r.session.consumer.client.tracker.Coherent :=
  h.carries (P := fun _ s => s.consumer.client.tracker.Coherent)
    (fun _ _ => Subscription.coherent_empty policy) fun _ _ => Deed.coherent_after

end ScriptedConsumer
