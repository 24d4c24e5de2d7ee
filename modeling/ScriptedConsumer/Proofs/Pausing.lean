import ScriptedConsumer.Proofs.Guards

set_option autoImplicit false

/-! # Pauses, kept twice

Which partitions are paused is kept twice: by the tracker, together with the progress on each
assigned partition, and by the client, in a set of its own that polls go by. `Client.InStep` is that
the two agree. Every request that pauses, resumes, or replaces the assignment must change both, and
one that the tracker refuses must change neither. What a call makes of the pauses of a subscription
is `Tracker.Call.pausing`; from it the requests that concern pauses are followed one by one, and of
all others it is enough that they do not. -/

namespace ScriptedConsumer

/-! ## Calls of a subscription -/

/-- Which partitions are paused after a call that is granted, given which were before. -/
def Tracker.Call.pausing (call : Call) (paused : Partition → Bool) (p : Partition) : Bool :=
  match call with
  | .pause q => q = p || paused p
  | .resume q => q ≠ p && paused p
  | .assignManually ps => ps.contains p && paused p
  | .assignFromGroup _ | .unsubscribe => false
  | _ => paused p

namespace Subscription

theorem isPaused_iff (s : Subscription) (p : Partition) :
    Tracker.isPaused s p = true ↔ ∃ g, s.assignment[p]? = some g ∧ g.paused = true :=
  Option.any_eq_true ..

theorem mem_assignment_of_isPaused {s : Subscription} {p : Partition}
    (h : Tracker.isPaused s p = true) : p ∈ s.assignment := by
  obtain ⟨g, hg, -⟩ := (isPaused_iff s p).1 h
  rw [Std.ExtTreeMap.mem_iff_isSome_getElem?, hg]
  rfl

theorem isPaused_empty (policy : ResetPolicy) (p : Partition) :
    Tracker.isPaused (empty policy) p = false := by
  show (∅ : PartitionMap Progress)[p]?.any (·.paused) = false
  rw [Std.ExtTreeMap.getElem?_empty]
  rfl

theorem isPaused_insert (s : Subscription) (q : Partition) (g : Progress) (p : Partition) :
    Tracker.isPaused { s with assignment := s.assignment.insert q g } p =
      if q = p then g.paused else Tracker.isPaused s p := by
  show (s.assignment.insert q g)[p]?.any (·.paused) = _
  rw [Std.ExtTreeMap.getElem?_insert]
  by_cases hq : q = p
  · subst hq
    simp
  · rw [if_neg (Partition.compare_ne_eq hq), if_neg hq]
    rfl

/-- An edit leaves the pauses as they are, unless it pauses or resumes. -/
theorem isPaused_of_edit {s : Subscription} {q : Partition} {g g' : Progress}
    (hq : s.assignment[q]? = some g) (hg : g'.paused = g.paused) (p : Partition) :
    Tracker.isPaused { s with assignment := s.assignment.insert q g' } p =
      Tracker.isPaused s p := by
  rw [isPaused_insert]
  split
  · next h =>
      subst h
      show _ = s.assignment[q]?.any (·.paused)
      rw [hq, hg]
      rfl
  · rfl

/-- The partitions that stay chosen stay paused. -/
theorem isPaused_of_assignManually {s : Subscription} (hs : s.Coherent) {ps : PartitionSet}
    (h : s.Admits .manual) (p : Partition) :
    (if s.chosen = ps then s.assignment else reassign s.assignment ps)[p]?.any (·.paused) =
      (ps.contains p && Tracker.isPaused s p) := by
  by_cases hsame : s.chosen = ps
  · rw [if_pos hsame, ← hsame]
    show Tracker.isPaused s p = _
    cases hp : Tracker.isPaused s p with
    | false => rw [Bool.and_false]
    | true =>
        have hchosen : p ∈ s.chosen :=
          (hs.assigned (isAutoAssigned_of_admits_manual h) p).1 (mem_assignment_of_isPaused hp)
        rw [Bool.and_true]
        exact hchosen.symm
  · rw [if_neg hsame, getElem?_reassign]
    show _ = (ps.contains p && s.assignment[p]?.any (·.paused))
    by_cases hp : p ∈ ps
    · cases hold : s.assignment[p]? <;> simp [hp, Progress.fresh]
    · simp [hp]

/-- What a call that is granted makes of the pauses. -/
theorem isPaused_of_granted {s s' : Subscription} {call : Tracker.Call} (hs : s.Coherent)
    (h : s.Granted call s') (p : Partition) :
    Tracker.isPaused s' p = call.pausing (Tracker.isPaused s) p := by
  cases h with
  | subscribe | subscribePattern | setMatched => rfl
  | assignManually ps h => exact isPaused_of_assignManually hs h p
  | assignFromGroup ps h =>
      show (anew ps)[p]?.any (·.paused) = false
      rw [getElem?_anew]
      split <;> rfl
  | unsubscribe => exact isPaused_empty s.defaultPolicy p
  | @edit _ q f g hcall hq hmove =>
      cases call with
      | pause | resume =>
          cases hcall
          rw [isPaused_insert]
          by_cases hp : q = p <;> simp [Tracker.Call.pausing, hp]
      | setPosition | setCommitted | needReset | needDefaultReset | seek =>
          cases hcall
          refine isPaused_of_edit hq ?_ p
          rfl
      | _ => cases hcall

theorem pausing_eq_false {call : Tracker.Call} {p : Partition} (hcall : call ≠ .pause p)
    {paused : Partition → Bool} (hp : paused p = false) : call.pausing paused p = false := by
  cases call with
  | pause q =>
      have hq : q ≠ p := by
        rintro rfl
        exact hcall rfl
      simp [Tracker.Call.pausing, hq, hp]
  | resume | assignManually => simp [Tracker.Call.pausing, hp]
  | assignFromGroup | unsubscribe => rfl
  | _ => exact hp

theorem unassigned_of_granted {s s' : Subscription} {call : Tracker.Call}
    (hedit : ∀ policy, call.edit? policy ≠ none) {p : Partition} (hp : p ∉ s.assignment)
    (h : s.Granted call s') : p ∉ s'.assignment := by
  cases h with
  | @edit _ q f g hcall hq hmove =>
      show p ∉ s.assignment.insert q (f g)
      rw [Std.ExtTreeMap.mem_insert]
      rintro (hqp | hmem)
      · rw [Std.LawfulEqOrd.eq_of_compare hqp] at hq
        rw [Std.ExtTreeMap.mem_iff_isSome_getElem?, hq] at hp
        exact hp rfl
      · exact hp hmem
  | _ => exact absurd rfl (hedit s.defaultPolicy)

end Subscription

/-! ## Requests -/

namespace Request

/-- Whether a request concerns pauses. -/
def repauses : Request → Bool
  | .assign _ | .unsubscribe | .rebalance _ | .pause _ | .resume _ => true
  | _ => false

theorem pausing_of_makes {r : Request} {call : Tracker.Call} (h : r.Makes call)
    (hr : r.repauses = false) (paused : Partition → Bool) (p : Partition) :
    call.pausing paused p = paused p := by
  cases h with
  | assign | unsubscribe | rebalance | pause | resume => cases hr
  | _ => rfl

theorem paused_of_edits {τ : Type} [Tracker τ] {r : Request} {g : Client τ → Client τ}
    (h : r.Edits g) (hr : r.repauses = false) (c : Client τ) : (g c).paused = c.paused := by
  cases h with
  | assign | unsubscribe | rebalance | pause | resume => cases hr
  | _ => rfl

end Request

namespace Client

variable {τ : Type} [Tracker τ] {P : τ → Prop} {guarded : τ → Subscription}

/-- The client's own set of paused partitions is that of the tracker. -/
def InStep (guarded : τ → Subscription) (c : Client τ) : Prop :=
  ∀ p, p ∈ c.paused ↔ Tracker.isPaused (guarded c.tracker) p = true

/-- A call of the tracker, and what is done to the client where it is granted. -/
theorem maintains_call_bind {β : Type} (hG : Tracker.Guards P guarded) (call : Tracker.Call)
    {k : Unit → Action (Client τ) β}
    (hk : ∀ (c : Client τ) t, InStep guarded c → P t →
      (∀ p, Tracker.isPaused (guarded t) p =
        call.pausing (Tracker.isPaused (guarded c.tracker)) p) →
      P ((k ()).run { c with tracker := t }).state.tracker ∧
        InStep guarded ((k ()).run { c with tracker := t }).state) :
    Action.Maintains (fun c => P c.tracker ∧ InStep guarded c)
      (onTracker call.perform >>= k) := by
  rintro c ⟨hP, hstep⟩
  rcases hG.perform_cases call c.tracker hP with ⟨e, herror, hsame⟩ | ⟨hok, hP', hgrant⟩
  · have hresult : ((onTracker call.perform).run c).result = .error e := herror
    have hstate : ((onTracker call.perform).run c).state = c := by
      show { c with tracker := (call.perform.run c.tracker).state } = c
      rw [hsame]
    rw [(Action.bind_of_error hresult k).2, hstate]
    exact ⟨hP, hstep⟩
  · have hresult : ((onTracker call.perform).run c).result = .ok () := hok
    rw [(Action.bind_of_ok hresult k).2]
    exact hk c _ hstep hP' fun p =>
      Subscription.isPaused_of_granted (hG.coherent _ hP) hgrant p

/-- A call that does not concern pauses leaves the two in step. -/
theorem maintains_onTracker (hG : Tracker.Guards P guarded) (call : Tracker.Call)
    (hquiet : ∀ paused p, call.pausing paused p = paused p) :
    Action.Maintains (fun c : Client τ => P c.tracker ∧ InStep guarded c)
      (onTracker call.perform) := by
  rw [← bind_pure (onTracker call.perform)]
  refine maintains_call_bind hG call ?_
  intro c t hstep hP hpausing
  refine ⟨hP, ?_⟩
  intro p
  show p ∈ c.paused ↔ Tracker.isPaused (guarded t) p = true
  rw [hpausing, hquiet]
  exact hstep p

/-- Where no partition was paused anew, the client forgets those that are not paused any more. -/
theorem inStep_syncPaused (hG : Tracker.Guards P guarded) {c : Client τ} (hP : P c.tracker)
    (h : ∀ p, Tracker.isPaused (guarded c.tracker) p = true → p ∈ c.paused) :
    InStep guarded (syncPaused c) := by
  have hiff (p : Partition) :
      p ∈ c.paused.filter (Tracker.isPaused c.tracker) ↔
        Tracker.isPaused (guarded c.tracker) p = true := by
    rw [Std.ExtTreeSet.mem_filter, ← hG.isPaused _ hP]
    constructor
    · rintro ⟨hmem, hpaused⟩
      rwa [Std.ExtTreeSet.get_eq] at hpaused
    · intro hpaused
      refine ⟨h p (by rwa [← hG.isPaused _ hP]), ?_⟩
      rwa [Std.ExtTreeSet.get_eq]
  exact hiff

theorem maintains_inStep_of_quiet (hG : Tracker.Guards P guarded) {r : Request}
    (hr : r.repauses = false) :
    Action.Maintains (fun c : Client τ => P c.tracker ∧ InStep guarded c) (handle r) := by
  refine maintains_handle r ?_ ?_
  · intro call hmakes
    have hquiet := Request.pausing_of_makes hmakes hr
    exact maintains_onTracker hG call hquiet
  · rintro g hg c ⟨hP, hstep⟩
    refine ⟨by rwa [tracker_of_edits hg], ?_⟩
    intro p
    rw [tracker_of_edits hg, Request.paused_of_edits hg hr]
    exact hstep p

theorem maintains_inStep (hG : Tracker.Guards P guarded) (r : Request) :
    Action.Maintains (fun c : Client τ => P c.tracker ∧ InStep guarded c) (handle r) := by
  have ensured {β : Type} {ps : List Partition} {act : Action (Client τ) β}
      (h : Action.Maintains (fun c => P c.tracker ∧ InStep guarded c) act) :
      Action.Maintains (fun c => P c.tracker ∧ InStep guarded c) (do ensureAssigned ps; act) :=
    .bind (.of_keeps (keeps_ensureAssigned id ps)) fun _ => h
  have done {act : Action (Client τ) Unit}
      (h : Action.Maintains (fun c => P c.tracker ∧ InStep guarded c) act) :
      Action.Maintains (fun c => P c.tracker ∧ InStep guarded c) (do act; return Reply.done) :=
    .bind h fun _ => .of_keeps (.pure _)
  -- the calls that replace the assignment pause nothing anew
  have synced (call : Tracker.Call) (c : Client τ) {t : τ}
      (hshrinks : ∀ paused p, call.pausing paused p = true → paused p = true)
      (hstep : InStep guarded c) (hP : P t)
      (hpausing : ∀ p, Tracker.isPaused (guarded t) p =
        call.pausing (Tracker.isPaused (guarded c.tracker)) p) :
      InStep guarded (syncPaused { c with tracker := t }) := by
    refine inStep_syncPaused hG hP ?_
    intro p hp
    have hbefore : Tracker.isPaused (guarded c.tracker) p = true := by
      refine hshrinks (Tracker.isPaused (guarded c.tracker)) p ?_
      rw [← hpausing]
      exact hp
    exact (hstep p).2 hbefore
  cases r with
  | assign ps =>
      refine maintains_call_bind hG (.assignManually ps) ?_
      intro c t hstep hP hpausing
      refine ⟨hP, synced (.assignManually ps) c ?_ hstep hP hpausing⟩
      intro paused p h
      exact (Bool.and_eq_true_iff.1 h).2
  | unsubscribe =>
      have h := maintains_call_bind (k := fun _ => modify syncPaused) hG .unsubscribe
        fun c t hstep hP hpausing =>
          ⟨hP, synced .unsubscribe c (by simp [Tracker.Call.pausing]) hstep hP hpausing⟩
      intro c hc
      exact h c hc
  | rebalance ps =>
      refine done (maintains_call_bind hG (.assignFromGroup ps) ?_)
      intro c t hstep hP hpausing
      exact ⟨hP, synced (.assignFromGroup ps) c (by simp [Tracker.Call.pausing]) hstep hP hpausing⟩
  | pause ps =>
      refine done (ensured (.each fun p hp => maintains_call_bind hG (.pause p) ?_))
      intro c t hstep hP hpausing
      refine ⟨hP, ?_⟩
      intro q
      show q ∈ c.paused.insert p ↔ Tracker.isPaused (guarded t) q = true
      rw [hpausing, Std.ExtTreeSet.mem_insert, hstep q, Std.LawfulEqOrd.compare_eq_iff_eq]
      simp [Tracker.Call.pausing]
  | resume ps =>
      refine done (ensured (.each fun p hp => maintains_call_bind hG (.resume p) ?_))
      intro c t hstep hP hpausing
      refine ⟨hP, ?_⟩
      intro q
      show q ∈ c.paused.erase p ↔ Tracker.isPaused (guarded t) q = true
      rw [hpausing, Std.ExtTreeSet.mem_erase, hstep q, ne_eq, Std.LawfulEqOrd.compare_eq_iff_eq]
      simp [Tracker.Call.pausing]
  | _ => exact maintains_inStep_of_quiet hG rfl

theorem maintains_inStep_fetch (hG : Tracker.Guards P guarded)
    (visiting : Visiting (List Record)) :
    Action.Maintains (fun c : Client τ => P c.tracker ∧ InStep guarded c) (fetch visiting) :=
  maintains_fetch (fun p offset => maintains_onTracker hG (.seek p offset) fun _ _ => rfl)
    (fun p offset => maintains_onTracker hG (.setPosition p offset) fun _ _ => rfl)
    fun _ _ hc => hc

/-- What a call that is granted makes of the pauses, where the tracker is then left alone. -/
theorem isPaused_of_call {β : Type} (hG : Tracker.Guards P guarded) (call : Tracker.Call)
    {k : Unit → Action (Client τ) β} (hk : Action.Keeps tracker (k ())) {c : Client τ}
    (hP : P c.tracker) {b : β} (hok : ((onTracker call.perform >>= k).run c).result = .ok b)
    (p : Partition) :
    Tracker.isPaused (guarded ((onTracker call.perform >>= k).run c).state.tracker) p =
      call.pausing (Tracker.isPaused (guarded c.tracker)) p := by
  rcases hG.perform_cases call c.tracker hP with ⟨e, herror, -⟩ | ⟨hgranted, -, hgrant⟩
  · have hresult : ((onTracker call.perform).run c).result = .error e := herror
    rw [(Action.bind_of_error hresult k).1] at hok
    cases hok
  · have hresult : ((onTracker call.perform).run c).result = .ok () := hgranted
    rw [(Action.bind_of_ok hresult k).2, hk]
    exact Subscription.isPaused_of_granted (hG.coherent _ hP) hgrant p

theorem isPaused_of_assign (hG : Tracker.Guards P guarded) {ps : PartitionSet} {c : Client τ}
    (hP : P c.tracker) {a : Reply} (hok : ((handle (.assign ps)).run c).result = .ok a)
    (p : Partition) :
    Tracker.isPaused (guarded ((handle (.assign ps)).run c).state.tracker) p =
      (ps.contains p && Tracker.isPaused (guarded c.tracker) p) := by
  let k : Unit → Action (Client τ) Reply := fun _ => do
    modify syncPaused
    return .done
  have hk : Action.Keeps tracker (k ()) := .bind (.modify fun _ => rfl) fun _ => .pure _
  exact isPaused_of_call (k := k) hG (.assignManually ps) hk hP hok p

theorem isPaused_of_rebalance (hG : Tracker.Guards P guarded) {ps : List Partition} {c : Client τ}
    (hP : P c.tracker) {a : Reply} (hok : ((handle (.rebalance ps)).run c).result = .ok a)
    (p : Partition) :
    Tracker.isPaused (guarded ((handle (.rebalance ps)).run c).state.tracker) p = false := by
  let rest : Unit → Action (Client τ) Unit := fun _ => do
    let dropped := recordCount (← get).buffer
    modify fun c => syncPaused { c with buffer := ∅ }
    Action.log (.rebalanced ps.length dropped)
  let k : Unit → Action (Client τ) Reply := fun u => do
    rest u
    return .done
  have hhandle : handle (.rebalance ps) =
      onTracker (Tracker.Call.assignFromGroup ps).perform >>= k := bind_assoc _ _ _
  have hk : Action.Keeps tracker (k ()) :=
    .bind (.bind .get fun _ => .bind (.modify fun _ => rfl) fun _ => .log _) fun _ => .pure _
  rw [hhandle] at hok ⊢
  exact isPaused_of_call (k := k) hG (.assignFromGroup ps) hk hP hok p

end Client

end ScriptedConsumer
