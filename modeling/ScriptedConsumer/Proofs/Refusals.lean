import ScriptedConsumer.Faulty
import ScriptedConsumer.Proofs.Subscribing

set_option autoImplicit false

/-! # Trackers that are all or nothing

What a tracker must do for the calls on a consumer to be all or nothing. Each of its operations
must leave it as it is where it fails. That is not enough for the calls that repeat an operation
over a list of partitions, since they check only that the partitions are assigned: such an operation
must either be refused on every partition or succeed on every one that is assigned.

A subscription does so, and so does a tracker around another one that does, as long as its faults
are refused methods. -/

namespace ScriptedConsumer

namespace Tracker

variable {τ ι : Type} [Tracker τ]

/-- In the states of `P` the operation fails without effect at every item, or it succeeds at every
    item whose partition is assigned and goes on to do so. -/
def Uniform (P : τ → Prop) (key : ι → Partition) (op : ι → Action τ Unit) : Prop :=
  ∃ granted : τ → Prop, ∀ t, P t →
    (¬ granted t → ∀ x, ∃ e, ((op x).run t).result = .error e ∧ ((op x).run t).state = t) ∧
    (granted t → ∀ x, isAssigned t (key x) = true →
      ((op x).run t).result = .ok () ∧ P ((op x).run t).state ∧ granted ((op x).run t).state ∧
        ∀ q, isAssigned ((op x).run t).state q = isAssigned t q)

variable (τ) in
/-- In the states of `P` the tracker is all or nothing. -/
structure Atomic (P : τ → Prop) : Prop where
  subscribe : ∀ topics listener t, P t → Action.Clean (Tracker.subscribe topics listener) t
  subscribePattern : ∀ pattern listener t, P t →
    Action.Clean (Tracker.subscribePattern pattern listener) t
  setMatched : ∀ pattern listener topics t u, P t →
    ((Tracker.subscribePattern pattern listener).run t).result = .ok u →
      ∃ v, ((Tracker.setMatched topics).run
        ((Tracker.subscribePattern pattern listener).run t).state).result = .ok v
  assignManually : ∀ ps t, P t → Action.Clean (Tracker.assignManually ps) t
  assignFromGroup : ∀ ps t, P t → Action.Clean (Tracker.assignFromGroup ps) t
  seek : ∀ p offset t, P t → Action.Clean (Tracker.seek p offset) t
  pause : Uniform P id Tracker.pause
  resume : Uniform P id Tracker.resume
  needReset : ∀ policy, Uniform P id (Tracker.needReset · policy)
  setCommitted : Uniform P Prod.fst fun e : Partition × Commit => Tracker.setCommitted e.1 e.2

end Tracker

/-! ## Subscriptions -/

namespace Subscription

theorem isAssigned_eq (s : Subscription) (p : Partition) :
    Tracker.isAssigned s p = s.assignment[p]?.isSome :=
  Std.ExtTreeMap.contains_eq_isSome_getElem?

theorem clean_perform (call : Tracker.Call) (s : Subscription) : Action.Clean call.perform s := by
  intro e he
  rcases perform_cases call s with ⟨e', -, hsame⟩ | ⟨hok, -⟩
  · exact hsame
  · rw [hok] at he
    cases he

theorem uniform_change {ι : Type} (key : ι → Partition) (f : ι → Progress → Progress) :
    Tracker.Uniform (fun _ => True) key fun x => change (key x) (f x) := by
  -- a subscription grants the operation in every state
  refine ⟨fun _ => True, ?_⟩
  intro s _
  refine ⟨by simp, ?_⟩
  intro _ x hx
  rw [isAssigned_eq] at hx
  obtain ⟨g, hg⟩ := Option.isSome_iff_exists.1 hx
  simp only [run_change, hg]
  refine ⟨trivial, trivial, trivial, ?_⟩
  intro q
  rw [isAssigned_eq, isAssigned_eq, Std.ExtTreeMap.getElem?_insert]
  by_cases hq : compare (key x) q = .eq
  · rw [if_pos hq, ← Std.LawfulEqOrd.eq_of_compare hq, hg]
    simp
  · rw [if_neg hq]

/-- Matching topics cannot fail right after a pattern was subscribed to. -/
theorem setMatched_of_subscribePattern {pattern : Pattern} {listener : Listener} {s : Subscription}
    {u : Unit} (h : ((subscribePattern pattern listener).run s).result = .ok u)
    (topics : TopicSet) :
    ∃ v, ((setMatched topics).run ((subscribePattern pattern listener).run s).state).result
      = .ok v := by
  rw [run_subscribePattern] at h ⊢
  by_cases hadmits : s.Admits .pattern
  · rw [if_pos hadmits, run_setMatched, if_pos rfl]
    exact ⟨_, rfl⟩
  · rw [if_neg hadmits] at h
    cases h

theorem atomic : Tracker.Atomic Subscription fun _ => True where
  subscribe topics listener s _ := clean_perform (.subscribe topics listener) s
  subscribePattern pattern listener s _ := clean_perform (.subscribePattern pattern listener) s
  setMatched _ _ topics _ _ _ h := setMatched_of_subscribePattern h topics
  assignManually ps s _ := clean_perform (.assignManually ps) s
  assignFromGroup ps s _ := clean_perform (.assignFromGroup ps) s
  seek p offset s _ := clean_perform (.seek p offset) s
  pause := uniform_change id _
  resume := uniform_change id _
  needReset _ := uniform_change id _
  setCommitted := uniform_change Prod.fst _

end Subscription

/-! ## Refused methods -/

namespace Faulty

variable {τ ι α : Type}

/-- All that is wrong with the tracker is that methods of it are refused. -/
def Honest (t : Faulty τ) : Prop := ∀ fault ∈ t.faults, ∃ method, fault = .refuse method

theorem has_eq_false {t : Faulty τ} (h : t.Honest) (fault : Fault)
    (hf : ∀ method, fault ≠ .refuse method) : t.has fault = false := by
  unfold has
  rw [← Bool.not_eq_true, List.contains_iff_mem]
  intro hmem
  obtain ⟨method, he⟩ := h fault hmem
  exact hf method he

theorem run_obey (method : Method) (act : Action τ α) (t : Faulty τ) :
    (obey method act).run t =
      if t.has (.refuse method) then ⟨.error method.refusal, t, []⟩ else (inside act).run t := by
  unfold obey
  rw [Action.run_get_bind]
  by_cases hr : t.has (.refuse method) = true
  · rw [if_pos hr, if_pos hr]
    rfl
  · rw [if_neg hr, if_neg hr]

theorem clean_inside {act : Action τ α} {t : Faulty τ} (h : Action.Clean act t.inner) :
    Action.Clean (inside act) t := .within rfl h

theorem clean_obey {method : Method} {act : Action τ α} {t : Faulty τ}
    (h : Action.Clean act t.inner) : Action.Clean (obey method act) t := by
  intro e he
  rw [run_obey] at he ⊢
  by_cases hr : t.has (.refuse method) = true
  · rw [if_pos hr]
  · rw [if_neg hr] at he ⊢
    exact clean_inside h e he

variable [Tracker τ]

theorem isAssigned_of_honest {t : Faulty τ} (h : t.Honest) (p : Partition) :
    Tracker.isAssigned t p = Tracker.isAssigned t.inner p := by
  have hphantom : t.has .phantomAssigned = false := has_eq_false h _ (by simp)
  show (t.has .phantomAssigned || Tracker.isAssigned t.inner p) = _
  rw [hphantom, Bool.false_or]

theorem run_subscribePattern_of_honest {t : Faulty τ} (h : t.Honest) (pattern : Pattern)
    (listener : Listener) :
    (Tracker.subscribePattern pattern listener).run t =
      (inside (Tracker.subscribePattern pattern listener)).run t := by
  have hskip : t.has .skipSubscribePattern = false := has_eq_false h _ (by simp)
  show (if t.has .skipSubscribePattern then pure ()
    else inside (Tracker.subscribePattern pattern listener) : Action (Faulty τ) Unit).run t = _
  rw [hskip, if_neg Bool.false_ne_true]

theorem uniform_obey {P : τ → Prop} {key : ι → Partition} {op : ι → Action τ Unit}
    (h : Tracker.Uniform P key op) (method : Method) :
    Tracker.Uniform (fun t : Faulty τ => P t.inner ∧ t.Honest) key fun x => obey method (op x) := by
  obtain ⟨granted, h⟩ := h
  -- the operation is granted where the method is not refused and the inner tracker grants it
  refine ⟨fun t => t.has (.refuse method) = false ∧ granted t.inner, ?_⟩
  rintro t ⟨hP, ht⟩
  obtain ⟨hrefused, hgranted⟩ := h t.inner hP
  constructor
  · intro hg x
    rw [run_obey]
    cases hr : t.has (.refuse method) with
    | true => exact ⟨_, rfl, rfl⟩
    | false =>
        have hinner : ¬ granted t.inner := by
          intro hg'
          exact hg ⟨hr, hg'⟩
        obtain ⟨e, hres, hstate⟩ := hrefused hinner x
        refine ⟨e, hres, ?_⟩
        show { t with inner := ((op x).run t.inner).state } = t
        rw [hstate]
  · rintro ⟨hr, hg⟩ x hx
    rw [isAssigned_of_honest ht] at hx
    obtain ⟨hres, hP', hg', hsame⟩ := hgranted hg x hx
    rw [run_obey, hr, if_neg Bool.false_ne_true]
    refine ⟨hres, ⟨hP', ht⟩, ⟨hr, hg'⟩, ?_⟩
    intro q
    have ht' : ((inside (op x)).run t).state.Honest := ht
    rw [isAssigned_of_honest ht, isAssigned_of_honest ht']
    exact hsame q

/-- Refused methods leave a tracker all or nothing. -/
theorem atomic {P : τ → Prop} (h : Tracker.Atomic τ P) :
    Tracker.Atomic (Faulty τ) fun t => P t.inner ∧ t.Honest where
  subscribe topics listener t ht := clean_obey (h.subscribe topics listener t.inner ht.1)
  subscribePattern pattern listener t ht := by
    intro e he
    rw [run_subscribePattern_of_honest ht.2] at he ⊢
    exact clean_inside (h.subscribePattern pattern listener t.inner ht.1) e he
  setMatched pattern listener topics t u ht hok := by
    rw [run_subscribePattern_of_honest ht.2] at hok ⊢
    exact h.setMatched pattern listener topics t.inner u ht.1 hok
  assignManually ps t ht := clean_obey (h.assignManually ps t.inner ht.1)
  assignFromGroup ps t ht := clean_obey (h.assignFromGroup ps t.inner ht.1)
  seek p offset t ht := clean_obey (h.seek p offset t.inner ht.1)
  pause := uniform_obey h.pause .pause
  resume := uniform_obey h.resume .resume
  needReset policy := uniform_obey (h.needReset policy) .needReset
  setCommitted := uniform_obey h.setCommitted .setCommitted

end Faulty

end ScriptedConsumer
