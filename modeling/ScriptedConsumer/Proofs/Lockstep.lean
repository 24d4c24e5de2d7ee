import ScriptedConsumer.Proofs.Effects
import ScriptedConsumer.Proofs.Pausing

set_option autoImplicit false

/-! # Pauses over whole histories

Since every request and every fetch leaves the client's pauses in step with those of its tracker, so
does every deed, and they are in step all along: `History.inStep`, for any tracker that guards a
subscription. How a deed changes the pauses is read off the two ends of it, with one thing to be
shown besides: no deed both assigns a partition and pauses it, `Deed.not_paused_of_unassigned`. -/

namespace ScriptedConsumer

/-! ## Deeds -/

namespace Deed

variable {τ : Type} [Tracker τ] [Switchable τ] {P : τ → Prop} {guarded : τ → Subscription}
  {allowed : Fault → Bool}

omit [Tracker τ] [Switchable τ] in
/-- Whether the deed switches no fault on but one of the given kind. -/
def switchesOnly (allowed : Fault → Bool) : Deed τ → Bool
  | make _ (.switch (some fault) true) => allowed fault
  | _ => true

omit [Tracker τ] [Switchable τ] in
theorem switchesOnly_any (d : Deed τ) : d.switchesOnly (fun _ => true) = true := by
  unfold switchesOnly
  split <;> rfl

/-- The calls of the tracker that the deed may make: those of its request, or of a fetch. -/
def MayMake (d : Deed τ) (call : Tracker.Call) : Prop :=
  (∃ r, d.request? = some r ∧ r.Makes call) ∨
    ∃ p offset, call = .seek p offset ∨ call = .setPosition p offset

/-- How the client's pauses change: those of the partitions that the user keeps choosing stay, and
    none comes to a partition that was not assigned, or that a rebalance assigns. -/
structure Repauses (guarded : τ → Subscription) (d : Deed τ) : Prop where
  kept : ∀ ps, d.accepted? = some (.assign ps) → ∀ p,
    p ∈ d.after.consumer.client.paused ↔ p ∈ ps ∧ p ∈ d.before.consumer.client.paused
  unassigned : ∀ p, p ∉ (guarded d.before.consumer.client.tracker).assignment →
    p ∉ d.after.consumer.client.paused
  rebalanced : ∀ ps, d.accepted? = some (.rebalance ps) → d.after.consumer.client.paused = ∅

section

variable (hG : Tracker.Guards P guarded) (hsafe : Tracker.SafeSwitches allowed P guarded)
  {d : Deed τ} (hd : d.switchesOnly allowed = true)

include hG hsafe hd

theorem maintains_inStep
    (h : P d.before.consumer.client.tracker ∧ Client.InStep guarded d.before.consumer.client) :
    P d.after.consumer.client.tracker ∧ Client.InStep guarded d.after.consumer.client := by
  refine maintains_client (J := fun c => P c.tracker ∧ Client.InStep guarded c)
    (fun r _ => Client.maintains_inStep hG r) (Client.maintains_inStep_fetch hG) ?_ h
  rintro s fault on rfl c ⟨hP, hstep⟩
  obtain ⟨hP', hsame⟩ := hsafe fault on c.tracker (by rintro rfl; exact hd) hP
  refine ⟨hP', ?_⟩
  intro p
  rw [hsame]
  exact hstep p

/-- What the calls that are granted carry on of the guarded subscription, the deed carries on. -/
theorem maintains_guarded {I : Subscription → Prop}
    (hcalls : ∀ call, d.MayMake call → ∀ s s', s.Coherent → I s → s.Granted call s' → I s')
    (h : P d.before.consumer.client.tracker ∧ I (guarded d.before.consumer.client.tracker)) :
    P d.after.consumer.client.tracker ∧ I (guarded d.after.consumer.client.tracker) := by
  have hperform (call : Tracker.Call) (hcall : d.MayMake call) :=
    hG.maintains_perform (hcalls call hcall)
  refine maintains_client (J := fun c => P c.tracker ∧ I (guarded c.tracker)) ?_ ?_ ?_ h
  · intro r hr
    exact Client.maintains_handle_tracker r fun call hmakes => hperform call (.inl ⟨r, hr, hmakes⟩)
  · exact fun visiting => Client.maintains_fetch
      (fun p offset c hc => hperform (.seek p offset) (.inr ⟨p, offset, .inl rfl⟩) _ hc)
      (fun p offset c hc => hperform (.setPosition p offset) (.inr ⟨p, offset, .inr rfl⟩) _ hc)
      fun _ _ hc => hc
  · rintro s fault on rfl c ⟨hP, hI⟩
    obtain ⟨hP', hsame⟩ := hsafe fault on c.tracker (by rintro rfl; exact hd) hP
    exact ⟨hP', by rw [hsame]; exact hI⟩

/-- A partition that is not assigned is not paused by the next deed, even if that assigns it. -/
theorem not_paused_of_unassigned (hP : P d.before.consumer.client.tracker) {p : Partition}
    (hp : p ∉ (guarded d.before.consumer.client.tracker).assignment) :
    Tracker.isPaused (guarded d.after.consumer.client.tracker) p = false := by
  have hunpaused {s : Subscription} (h : p ∉ s.assignment) : Tracker.isPaused s p = false := by
    rw [← Bool.not_eq_true]
    exact fun hpaused => h (Subscription.mem_assignment_of_isPaused hpaused)
  -- to pause a partition is to edit its progress, so that it is refused here; other requests may
  -- assign it, but they do not pause it
  by_cases hpause : ∃ ps, d.request? = some (.pause ps)
  · obtain ⟨ps, hps⟩ := hpause
    refine hunpaused (maintains_guarded hG hsafe hd (I := fun s => p ∉ s.assignment) ?_ ⟨hP, hp⟩).2
    intro call hcall s s' _ hs hgrant
    refine Subscription.unassigned_of_granted ?_ hs hgrant
    rcases hcall with ⟨r, hr, hmakes⟩ | ⟨q, offset, rfl | rfl⟩
    · rw [hps, Option.some.injEq] at hr
      subst hr
      cases hmakes
      simp [Tracker.Call.edit?]
    · simp [Tracker.Call.edit?]
    · simp [Tracker.Call.edit?]
  · refine (maintains_guarded hG hsafe hd (I := fun s => Tracker.isPaused s p = false) ?_
      ⟨hP, hunpaused hp⟩).2
    intro call hcall s s' hcoherent hs hgrant
    have hother : call ≠ .pause p := by
      rintro rfl
      rcases hcall with ⟨r, hr, hmakes⟩ | ⟨q, offset, h | h⟩
      · cases hmakes
        exact hpause ⟨_, hr⟩
      · cases h
      · cases h
    rw [Subscription.isPaused_of_granted hcoherent hgrant]
    exact Subscription.pausing_eq_false hother hs

theorem repauses
    (h : P d.before.consumer.client.tracker ∧ Client.InStep guarded d.before.consumer.client) :
    d.Repauses guarded := by
  obtain ⟨-, hafter⟩ := maintains_inStep hG hsafe hd h
  obtain ⟨hP, hbefore⟩ := h
  refine ⟨?_, ?_, ?_⟩
  · intro ps haccepted p
    obtain ⟨hstate, a, hok⟩ := client_of_accepted? haccepted
    rw [hafter p, hbefore p, hstate, Client.isPaused_of_assign hG hP hok, Bool.and_eq_true_iff]
    rfl
  · intro p hp
    rw [hafter p, not_paused_of_unassigned hG hsafe hd hP hp]
    exact Bool.false_ne_true
  · intro ps haccepted
    obtain ⟨hstate, a, hok⟩ := client_of_accepted? haccepted
    refine Std.ExtTreeSet.eq_empty_iff_forall_not_mem.2 ?_
    intro p
    rw [hafter p, hstate, Client.isPaused_of_rebalance hG hP hok]
    exact Bool.false_ne_true

end

end Deed

/-! ## Histories -/

namespace History

variable {τ : Type} [Tracker τ] [Switchable τ] {P : τ → Prop} {guarded : τ → Subscription}
  {allowed : Fault → Bool} {tracker : τ} {ds : List (Deed τ)} {r : Run τ}

/-- The two are in step in every history, whatever tracker guards the subscription. -/
theorem inStep (hG : Tracker.Guards P guarded) (hsafe : Tracker.SafeSwitches allowed P guarded)
    (htracker : P tracker) (hnone : ∀ p, Tracker.isPaused (guarded tracker) p = false)
    (h : History tracker ds r) (hds : ∀ d ∈ ds, d.switchesOnly allowed = true) :
    Client.InStep guarded r.session.consumer.client ∧ ∀ d ∈ ds, d.Repauses guarded := by
  have hall : (P r.session.consumer.client.tracker ∧
      Client.InStep guarded r.session.consumer.client) ∧ ∀ d ∈ ds, d.Repauses guarded := by
    refine h.carries (P := fun ds s => (∀ d ∈ ds, d.switchesOnly allowed = true) →
      (P s.consumer.client.tracker ∧ Client.InStep guarded s.consumer.client) ∧
        ∀ d ∈ ds, d.Repauses guarded) ?_ ?_ hds
    · intro catalog timeout _
      refine ⟨⟨htracker, ?_⟩, by simp⟩
      intro p
      show p ∈ (∅ : PartitionSet) ↔ Tracker.isPaused (guarded tracker) p = true
      simp [hnone]
    · intro ds d ih hds
      obtain ⟨hbefore, hrepauses⟩ := ih fun d' hd' => hds d' (List.mem_append_left _ hd')
      have hd : d.switchesOnly allowed = true := hds d (by simp)
      refine ⟨Deed.maintains_inStep hG hsafe hd hbefore, ?_⟩
      intro d' hd'
      rcases List.mem_append.1 hd' with hd' | hd'
      · exact hrepauses d' hd'
      · rw [List.mem_singleton.1 hd']
        exact Deed.repauses hG hsafe hd hbefore
  exact ⟨hall.1.2, hall.2⟩

end History

/-- **The client's pauses are those of the tracker**, in every history over a subscription, and in
    every history over a tracker around one whose methods may be refused at any time: the client's
    set of paused partitions is that of the assigned partitions that the tracker has as paused. A
    choice of partitions leaves those paused that it keeps, and a partition that was not assigned,
    or that a rebalance assigns, is not paused. -/
theorem History.pauses_in_lockstep (policy : ResetPolicy) :
    (∀ ds r, History (Subscription.empty policy) ds r →
      (∀ p, p ∈ r.session.consumer.client.paused ↔
        ∃ g, r.session.consumer.client.tracker.assignment[p]? = some g ∧ g.paused = true) ∧
      ∀ d ∈ ds, d.Repauses id) ∧
    (∀ ds r, History (Faulty.around (Subscription.empty policy)) ds r →
      (∀ d ∈ ds, d.switchesOnly Fault.isRefusal = true) →
      (∀ p, p ∈ r.session.consumer.client.paused ↔
        ∃ g, r.session.consumer.client.tracker.inner.assignment[p]? = some g ∧
          g.paused = true) ∧
      ∀ d ∈ ds, d.Repauses Faulty.inner) := by
  have hnone := Subscription.isPaused_empty policy
  constructor
  · intro ds r h
    obtain ⟨hstep, hrepauses⟩ := h.inStep Subscription.guards Subscription.safeSwitches
      (Subscription.coherent_empty policy) hnone fun d _ => d.switchesOnly_any
    exact ⟨fun p => (hstep p).trans (Subscription.isPaused_iff _ p), hrepauses⟩
  · intro ds r h hds
    obtain ⟨hstep, hrepauses⟩ := h.inStep Faulty.guards Faulty.safeSwitches
      ⟨Subscription.coherent_empty policy, by simp [Faulty.Honest, Faulty.around]⟩ hnone hds
    exact ⟨fun p => (hstep p).trans (Subscription.isPaused_iff _ p), hrepauses⟩

/-! ## Two runs that pause -/

/-- A run that pauses two partitions, gives up one of them and takes it back. -/
def Run.pauseAndReassign : Run Subscription :=
  Run.fresh (Subscription.empty .earliest) .empty ⟨30000⟩
    [.request (.assign {orders 0, orders 1}), .request (.pause [orders 0, orders 1]),
      .request (.assign {orders 0}), .request (.assign {orders 0, orders 1})]

/-- A run over a tracker that refuses to pause the second of two partitions, and later to drop
    both. -/
def Run.pauseRefused : Run (Faulty Subscription) :=
  Run.fresh (Faulty.around (Subscription.empty .earliest)) .empty ⟨30000⟩
    [.request (.assign {orders 0, orders 1}), .request (.pause [orders 0]),
      .switch (some (.refuse .pause)) true, .request (.pause [orders 1]),
      .switch (some (.refuse .assignManually)) true, .request (.assign ∅),
      .switch (some (.refuse .pause)) false]

/-- In both runs the first partition is paused in the end, for the client and for the tracker, and
    the second one is not. -/
theorem Run.pauseAndReassign_in_lockstep :
    (∃ g, (Run.pauseAndReassign.ahead 4).session.consumer.client.tracker.assignment[orders 0]? =
      some g ∧ g.paused = true) ∧
    orders 1 ∉ (Run.pauseAndReassign.ahead 4).session.consumer.client.paused ∧
    (∃ g, (Run.pauseRefused.ahead 7).session.consumer.client.tracker.inner.assignment[orders 0]? =
      some g ∧ g.paused = true) ∧
    orders 1 ∉ (Run.pauseRefused.ahead 7).session.consumer.client.paused := by
  obtain ⟨hplain, hfaulty⟩ := History.pauses_in_lockstep .earliest
  obtain ⟨hreassign, hrepauses⟩ := hplain (Run.pauseAndReassign.deeds 4)
    (Run.pauseAndReassign.ahead 4) (History.of_moves ..)
  obtain ⟨hrefused, -⟩ := hfaulty (Run.pauseRefused.deeds 7) (Run.pauseRefused.ahead 7)
    (History.of_moves ..) (by decide +kernel)
  -- the last choice assigns the second partition anew
  have hlast : Deed.make (Run.pauseAndReassign.ahead 3).session
      (.request (.assign {orders 0, orders 1})) ∈
      Run.pauseAndReassign.deeds 4 := List.mem_append_right _ (List.mem_singleton_self _)
  refine ⟨?_, ?_, ?_, by decide +kernel⟩
  · exact (hreassign (orders 0)).1 (by decide +kernel)
  · exact (hrepauses _ hlast).unassigned (orders 1) (by decide +kernel)
  · exact (hrefused (orders 0)).1 (by decide +kernel)

end ScriptedConsumer
