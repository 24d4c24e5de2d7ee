import ScriptedConsumer.Proofs.Coherence
import ScriptedConsumer.Proofs.Refusals

set_option autoImplicit false

/-! # Trackers around a subscription

A tracker guards a subscription if each call of it is refused and changes nothing, or is a call of
the subscription that is granted there. A subscription guards itself, and one whose methods are
refused now and then is guarded by the tracker around it, as long as it misbehaves in no other way.
What the calls that are granted make of a subscription is then all that there is to know. -/

namespace ScriptedConsumer

namespace Tracker

variable {τ : Type} [Tracker τ]

/-- In the states of `P` the tracker guards a subscription. -/
structure Guards (P : τ → Prop) (guarded : τ → Subscription) : Prop where
  coherent : ∀ t, P t → (guarded t).Coherent
  perform_cases : ∀ (call : Call) t, P t →
    (∃ e, (call.perform.run t).result = .error e ∧ (call.perform.run t).state = t) ∨
    ((call.perform.run t).result = .ok () ∧ P (call.perform.run t).state ∧
      (guarded t).Granted call (guarded (call.perform.run t).state))
  isPaused : ∀ t, P t → ∀ p, Tracker.isPaused t p = Tracker.isPaused (guarded t) p

namespace Guards

variable {P : τ → Prop} {guarded : τ → Subscription}

/-- What every granted call carries on of the subscription, the call carries on. -/
theorem maintains_perform (hG : Guards P guarded) {I : Subscription → Prop} {call : Call}
    (hgranted : ∀ s s', s.Coherent → I s → s.Granted call s' → I s') :
    Action.Maintains (fun t => P t ∧ I (guarded t)) call.perform := by
  rintro t ⟨hP, hI⟩
  rcases hG.perform_cases call t hP with ⟨e, -, hsame⟩ | ⟨-, hP', hgrant⟩
  · rw [hsame]
    exact ⟨hP, hI⟩
  · exact ⟨hP', hgranted _ _ (hG.coherent t hP) hI hgrant⟩

end Guards

end Tracker

theorem Subscription.guards : Tracker.Guards Subscription.Coherent id where
  coherent _ hs := hs
  perform_cases call s hs := by
    rcases perform_cases call s with hrefused | ⟨hok, hgrant⟩
    · exact .inl hrefused
    · exact .inr ⟨hok, maintains_coherent call s hs, hgrant⟩
  isPaused _ _ _ := rfl

namespace Faulty

variable {τ : Type} [Tracker τ]

/-- A call of a tracker with refused methods is refused, or it is passed on. -/
theorem perform_cases {t : Faulty τ} (ht : t.Honest) (call : Tracker.Call) :
    (∃ e, call.perform.run t = ⟨.error e, t, []⟩) ∨
      call.perform.run t = (inside call.perform).run t := by
  have obeyed (method : Method) (act : Action τ Unit) :
      (∃ e, (obey method act).run t = ⟨.error e, t, []⟩) ∨
        (obey method act).run t = (inside act).run t := by
    rw [run_obey]
    split
    · exact .inl ⟨_, rfl⟩
    · exact .inr rfl
  cases call with
  | subscribe topics listener => exact obeyed .subscribe (Tracker.subscribe topics listener)
  | subscribePattern pattern listener =>
      exact .inr (run_subscribePattern_of_honest ht pattern listener)
  | setMatched topics => exact .inr rfl
  | assignManually ps => exact obeyed .assignManually (Tracker.assignManually ps)
  | assignFromGroup ps => exact obeyed .assignFromGroup (Tracker.assignFromGroup ps)
  | unsubscribe => exact .inr rfl
  | pause p => exact obeyed .pause (Tracker.pause p)
  | resume p => exact obeyed .resume (Tracker.resume p)
  | setPosition p offset => exact obeyed .setPosition (Tracker.setPosition p offset)
  | setCommitted p commit => exact obeyed .setCommitted (Tracker.setCommitted p commit)
  | needReset p policy => exact obeyed .needReset (Tracker.needReset p policy)
  | needDefaultReset p =>
      exact obeyed .needReset (Tracker.needReset p (Tracker.defaultPolicy t.inner))
  | seek p offset => exact obeyed .seek (Tracker.seek p offset)

/-- A tracker that only refuses methods guards the subscription inside. -/
theorem guards :
    Tracker.Guards (fun t : Faulty Subscription => t.inner.Coherent ∧ t.Honest) inner where
  coherent _ ht := ht.1
  perform_cases call t ht := by
    rcases perform_cases ht.2 call with ⟨e, hrun⟩ | hrun
    · rw [hrun]
      exact .inl ⟨e, rfl, rfl⟩
    · rw [hrun]
      rcases Subscription.perform_cases call t.inner with ⟨e, hrefused, hsame⟩ | ⟨hok, hgrant⟩
      · refine .inl ⟨e, hrefused, ?_⟩
        show { t with inner := (call.perform.run t.inner).state } = t
        rw [hsame]
      · exact .inr ⟨hok, ⟨Subscription.maintains_coherent call t.inner ht.1, ht.2⟩, hgrant⟩
  isPaused t ht p := by
    have hsticky : t.has .stickyPause = false := has_eq_false ht.2 _ (by simp)
    show (t.has .stickyPause || Tracker.isPaused t.inner p) = Tracker.isPaused t.inner p
    rw [hsticky, Bool.false_or]

end Faulty

/-! ## Switching faults -/

/-- Switching on faults of the given kind, and switching off any fault, leaves a tracker in the
    states of `P` and does not touch the subscription that it guards. -/
def Tracker.SafeSwitches {τ : Type} [Switchable τ] (allowed : Fault → Bool) (P : τ → Prop)
    (guarded : τ → Subscription) : Prop :=
  ∀ fault on t, (on = true → allowed fault = true) → P t →
    P (Switchable.switch fault on t) ∧ guarded (Switchable.switch fault on t) = guarded t

theorem Subscription.safeSwitches :
    Tracker.SafeSwitches (fun _ => true) Subscription.Coherent id :=
  fun _ _ _ _ hs => ⟨hs, rfl⟩

/-- Whether a fault is that a method is refused. -/
def Fault.isRefusal : Fault → Bool
  | refuse _ => true
  | _ => false

theorem Fault.exists_of_isRefusal {fault : Fault} (h : fault.isRefusal = true) :
    ∃ method, fault = .refuse method := by
  cases fault with
  | refuse method => exact ⟨method, rfl⟩
  | _ => cases h

theorem Faulty.safeSwitches :
    Tracker.SafeSwitches Fault.isRefusal
      (fun t : Faulty Subscription => t.inner.Coherent ∧ t.Honest) inner := by
  rintro fault on t hon ⟨hinner, hhonest⟩
  refine ⟨⟨hinner, ?_⟩, rfl⟩
  intro f hf
  cases on with
  | true =>
      rcases List.mem_insert_iff.1 hf with rfl | hf
      · exact Fault.exists_of_isRefusal (hon rfl)
      · exact hhonest f hf
  | false => exact hhonest f (List.mem_filter.1 hf).1

end ScriptedConsumer
