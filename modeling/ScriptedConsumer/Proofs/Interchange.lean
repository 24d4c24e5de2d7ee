import ScriptedConsumer.Proofs.Fetching
import ScriptedConsumer.Proofs.Refusals
import ScriptedConsumer.Proofs.Visits

set_option autoImplicit false

/-! # Trackers that do not tell in which order they were called

What a tracker must do for a poll and for a commit to come to the same in whatever order they go
through the partitions. A commit records one commit after the other, and a poll moves one position
after the other; so it must make no difference which of two partitions is first. That cannot be
asked of every two partitions, since either of them might be refused: it is asked where both
partitions are ready for the operation, that is assigned, and for a move with a position to be
moved.

A subscription does so, and so does a tracker around another one that does, as long as its faults
are refused methods. -/

namespace ScriptedConsumer

namespace Tracker

variable {τ ι : Type} [Tracker τ]

/-- In the states of `P`, the operation at two items for different partitions comes to the same in
    either order, events included, if both partitions are ready for it; and those that are ready
    stay ready. -/
structure Interchanges (P : τ → Prop) (ready : τ → Partition → Prop) (key : ι → Partition)
    (op : ι → Action τ Unit) : Prop where
  keeps : ∀ t x, P t → ready t (key x) →
    P ((op x).run t).state ∧ ∀ q, ready t q → ready ((op x).run t).state q
  comm : ∀ t x y, P t → key x ≠ key y → ready t (key x) → ready t (key y) →
    (op x >>= fun _ => op y).run t = (op y >>= fun _ => op x).run t

omit [Tracker τ] in
/-- A loop over different partitions that are ready does the same in any order. -/
theorem Interchanges.run_each_perm {P : τ → Prop} {ready : τ → Partition → Prop}
    {key : ι → Partition} {op : ι → Action τ Unit} (h : Interchanges P ready key op)
    {xs ys : List ι} (hperm : xs.Perm ys) (hdistinct : (xs.map key).Nodup) {t : τ} (ht : P t)
    (hready : ∀ x ∈ xs, ready t (key x)) :
    (Action.each op xs).run t = (Action.each op ys).run t := by
  refine Action.run_each_perm (I := fun t => P t ∧ ∀ x ∈ xs, ready t (key x)) hperm ?_ ?_
    ⟨ht, hready⟩
  · rintro x hx t ⟨hP, hall⟩
    obtain ⟨hP', hstay⟩ := h.keeps t x hP (hall x hx)
    exact ⟨hP', fun y hy => hstay (key y) (hall y hy)⟩
  · have hdifferent : xs.Pairwise fun x y => key x ≠ key y := List.pairwise_map.1 hdistinct
    refine hdifferent.imp_of_mem ?_
    rintro x y hx hy hne t ⟨hP, hall⟩
    exact h.comm t x y hP hne (hall x hx) (hall y hy)

/-- A partition is ready to be moved: it is assigned and does not lack a position. -/
def Movable (t : τ) (p : Partition) : Prop := isAssigned t p = true ∧ p ∉ missing t

variable (τ) in
/-- In the states of `P` the tracker does not tell in which order it was called for different
    partitions, as far as a poll and a commit call it. -/
structure Orderless (P : τ → Prop) : Prop where
  /-- What was consumed is consumed of assigned partitions. -/
  consumed : ∀ t p, P t → p ∈ consumed t → isAssigned t p = true
  keeps_seek : ∀ p offset t, P t → P ((seek p offset).run t).state
  /-- A partition that was moved has a position, and no other one loses its own. -/
  seek : ∀ p offset t, P t → ((seek p offset).run t).result = .ok () →
    ∀ q ∈ missing ((seek p offset).run t).state, q ∈ missing t ∧ q ≠ p
  setCommitted : Interchanges P (fun t p => isAssigned t p = true) Prod.fst
    fun e : Partition × Commit => Tracker.setCommitted e.1 e.2
  setPosition : Interchanges P Movable Prod.fst
    fun e : Partition × Int64 => Tracker.setPosition e.1 e.2

end Tracker

/-! ## Subscriptions -/

namespace Subscription

variable {ι : Type}

theorem insert_comm {β : Type} {p q : Partition} (h : p ≠ q) (m : PartitionMap β) (b b' : β) :
    (m.insert p b).insert q b' = (m.insert q b').insert p b := by
  refine Std.ExtTreeMap.ext_getElem? ?_
  intro r
  simp only [Std.ExtTreeMap.getElem?_insert]
  by_cases hp : compare p r = .eq
  · have hq : ¬ compare q r = .eq := by
      rw [← Std.LawfulEqOrd.eq_of_compare hp]
      exact Partition.compare_ne_eq h.symm
    rw [if_pos hp, if_neg hq, if_pos hp]
  · rw [if_neg hp, if_neg hp]

/-- Edits of the progress on different partitions may change places. `Q` is what an edit needs of
    the progress, and what it leaves. -/
theorem interchanges_edit {Q : Progress → Prop} {ready : Subscription → Partition → Prop}
    (hready : ∀ s p, ready s p ↔ ∃ g, s.assignment[p]? = some g ∧ Q g) {key : ι → Partition}
    {f : ι → Progress → Progress} (hQ : ∀ x g, Q g → Q (f x g)) {op : ι → Action Subscription Unit}
    (hop : ∀ x s g, s.assignment[key x]? = some g → Q g →
      (op x).run s = (change (key x) (f x)).run s) :
    Tracker.Interchanges (fun _ => True) ready key op := by
  have hrun {x : ι} {s : Subscription} {g : Progress} (hg : s.assignment[key x]? = some g)
      (hQg : Q g) : (op x).run s =
        ⟨.ok (), { s with assignment := s.assignment.insert (key x) (f x g) }, []⟩ := by
    rw [hop x s g hg hQg, run_change, hg]
  constructor
  · intro s x _ hx
    obtain ⟨g, hg, hQg⟩ := (hready s _).1 hx
    refine ⟨trivial, fun q hq => ?_⟩
    rw [hrun hg hQg, hready, Std.ExtTreeMap.getElem?_insert]
    split
    · exact ⟨_, rfl, hQ x g hQg⟩
    · exact (hready s q).1 hq
  · intro s x y _ hne hx hy
    obtain ⟨g, hg, hQg⟩ := (hready s _).1 hx
    obtain ⟨g', hg', hQg'⟩ := (hready s _).1 hy
    -- neither edit changes what the other one finds
    have hx' : (s.assignment.insert (key y) (f y g'))[key x]? = some g := by
      rw [Std.ExtTreeMap.getElem?_insert, if_neg (Partition.compare_ne_eq hne.symm), hg]
    have hy' : (s.assignment.insert (key x) (f x g))[key y]? = some g' := by
      rw [Std.ExtTreeMap.getElem?_insert, if_neg (Partition.compare_ne_eq hne), hg']
    rw [Action.run_bind_ok (hrun hg hQg), Action.run_bind_ok (hrun hg' hQg'), hrun hy' hQg',
      hrun hx' hQg]
    dsimp only
    rw [insert_comm hne]

theorem isAssigned_iff (s : Subscription) (p : Partition) :
    Tracker.isAssigned s p = true ↔ ∃ g, s.assignment[p]? = some g := by
  rw [isAssigned_eq, Option.isSome_iff_exists]

theorem movable_iff (s : Subscription) (p : Partition) :
    Tracker.Movable s p ↔ ∃ g, s.assignment[p]? = some g ∧ g.position ≠ none := by
  unfold Tracker.Movable
  rw [isAssigned_iff, mem_missing]
  constructor
  · rintro ⟨⟨g, hg⟩, hplaced⟩
    exact ⟨g, hg, fun hnone => hplaced ⟨g, hg, hnone⟩⟩
  · rintro ⟨g, hg, hpos⟩
    refine ⟨⟨g, hg⟩, ?_⟩
    rintro ⟨g', hg', hnone⟩
    obtain rfl : g = g' := Option.some.inj (hg.symm.trans hg')
    exact hpos hnone

/-- Seeking gives a position to the partition, and takes none from another. -/
theorem missing_of_seek {p q : Partition} {offset : Int64} {s : Subscription}
    (hok : ((Tracker.seek p offset).run s).result = .ok ())
    (hq : q ∈ Tracker.missing ((Tracker.seek p offset).run s).state) :
    q ∈ Tracker.missing s ∧ q ≠ p := by
  have hrun : (Tracker.seek p offset).run s = _ := run_change p (·.seek offset) s
  rw [hrun] at hok hq
  cases hg : s.assignment[p]? with
  | none =>
      rw [hg] at hok
      cases hok
  | some g =>
      rw [hg] at hq
      obtain ⟨g', hg', hnone⟩ := (mem_missing_in .sorted).1 hq
      rw [Std.ExtTreeMap.getElem?_insert] at hg'
      split at hg'
      · cases hg'
        cases hnone
      · next hne =>
          refine ⟨(mem_missing_in .sorted).2 ⟨g', hg', hnone⟩, ?_⟩
          rintro rfl
          exact hne Std.ReflCmp.compare_self

theorem orderless : Tracker.Orderless Subscription fun _ => True where
  consumed s p _ hp := by
    obtain ⟨g, hg, -⟩ := (mem_consumed .sorted).1 hp
    exact (isAssigned_iff s p).2 ⟨g, hg⟩
  keeps_seek _ _ _ _ := trivial
  seek _ _ _ _ hok _ hq := missing_of_seek hok hq
  setCommitted :=
    interchanges_edit (Q := fun _ => True) (fun s p => by simp [isAssigned_iff])
      (fun _ _ _ => trivial) fun _ _ _ _ _ => rfl
  setPosition := by
    refine interchanges_edit (f := fun e g => { g with position := some e.2 }) movable_iff ?_ ?_
    · intro e g _
      exact Option.some_ne_none _
    · intro e s g hg hpos
      have hplaced : ¬ g.position.isNone = true := by
        rw [Option.isNone_iff_eq_none]
        exact hpos
      show (setPosition e.1 e.2).run s = _
      rw [run_setPosition, hg]
      exact if_neg hplaced

/-! ### The order of its own assignment -/

/-- A subscription answers alike in whatever order it visits its assignment. -/
theorem tracker_eq (visiting : Visiting Progress) : tracker visiting = tracker .sorted := by
  have hassigned : assigned visiting = assigned .sorted := by
    funext s
    refine Std.ExtTreeSet.ext_mem ?_
    intro p
    rw [mem_assigned, mem_assigned]
  have hconsumed : consumed visiting = consumed .sorted := by
    funext s
    refine Std.ExtTreeMap.ext_getElem? ?_
    intro p
    rw [getElem?_consumed_eq, getElem?_consumed_eq]
  have hmissing : missing visiting = missing .sorted := by
    funext s
    refine Std.ExtTreeSet.ext_mem ?_
    intro p
    rw [mem_missing_in, mem_missing_in]
  unfold tracker
  rw [hassigned, hconsumed, hmissing]

end Subscription

/-! ## Refused methods -/

namespace Faulty

variable {τ ι : Type} [Tracker τ]

omit [Tracker τ] in
theorem run_obey_of_granted {α : Type} {method : Method} {t : Faulty τ}
    (h : t.has (.refuse method) = false) (act : Action τ α) :
    (obey method act).run t = (inside act).run t := by
  rw [run_obey, h, if_neg Bool.false_ne_true]

omit [Tracker τ] in
/-- Of a method that is not refused, two calls in a row are two calls inside. -/
theorem run_obey_bind_of_granted {method : Method} {t : Faulty τ}
    (h : t.has (.refuse method) = false) (act act' : Action τ Unit) :
    (obey method act >>= fun _ => obey method act').run t =
      (inside (act >>= fun _ => act')).run t := by
  have hfirst : (obey method act).run t = ⟨(act.run t.inner).result,
      { t with inner := (act.run t.inner).state }, (act.run t.inner).events⟩ :=
    run_obey_of_granted h act
  unfold inside
  rw [Action.run_within, Action.run_bind, hfirst, Action.run_bind]
  cases (act.run t.inner).result with
  | error e => rfl
  | ok u =>
      have hstill : Faulty.has { t with inner := (act.run t.inner).state } (.refuse method)
          = false := h
      dsimp only
      rw [run_obey_of_granted hstill]
      rfl

theorem missing_of_honest {t : Faulty τ} (h : t.Honest) :
    Tracker.missing t = Tracker.missing t.inner := by
  have hnone : t.has .noMissing = false := has_eq_false h _ (by simp)
  show (if t.has .noMissing then ∅ else Tracker.missing t.inner) = _
  rw [hnone, if_neg Bool.false_ne_true]

theorem movable_of_honest {t : Faulty τ} (h : t.Honest) (p : Partition) :
    Tracker.Movable t p ↔ Tracker.Movable t.inner p := by
  unfold Tracker.Movable
  rw [isAssigned_of_honest h, missing_of_honest h]

omit [Tracker τ] in
theorem interchanges_obey {P : τ → Prop} {ready : τ → Partition → Prop} {key : ι → Partition}
    {op : ι → Action τ Unit} (h : Tracker.Interchanges P ready key op)
    {ready' : Faulty τ → Partition → Prop}
    (hready : ∀ t : Faulty τ, t.Honest → ∀ p, ready' t p ↔ ready t.inner p) (method : Method) :
    Tracker.Interchanges (fun t : Faulty τ => P t.inner ∧ t.Honest) ready' key
      fun x => obey method (op x) := by
  constructor
  · rintro t x ⟨hP, ht⟩ hx
    rw [run_obey]
    split
    · exact ⟨⟨hP, ht⟩, fun q hq => hq⟩
    · obtain ⟨hP', hstay⟩ := h.keeps t.inner x hP ((hready t ht _).1 hx)
      refine ⟨⟨hP', ht⟩, fun q hq => ?_⟩
      have ht' : ((inside (op x)).run t).state.Honest := ht
      rw [hready _ ht']
      exact hstay q ((hready t ht q).1 hq)
  · rintro t x y ⟨hP, ht⟩ hne hx hy
    cases hr : t.has (.refuse method) with
    | true =>
        -- whichever is first is refused
        have hrefused (z : ι) : (obey method (op z)).run t = ⟨.error method.refusal, t, []⟩ := by
          rw [run_obey, if_pos hr]
        rw [Action.run_bind_error (hrefused x), Action.run_bind_error (hrefused y)]
    | false =>
        have hcomm := h.comm t.inner x y hP hne ((hready t ht _).1 hx) ((hready t ht _).1 hy)
        rw [run_obey_bind_of_granted hr, run_obey_bind_of_granted hr]
        unfold inside
        rw [Action.run_within, Action.run_within, hcomm]

/-- Refused methods tell no order. -/
theorem orderless {P : τ → Prop} (h : Tracker.Orderless τ P) :
    Tracker.Orderless (Faulty τ) fun t => P t.inner ∧ t.Honest where
  consumed t p ht hp := by
    rw [isAssigned_of_honest ht.2]
    exact h.consumed t.inner p ht.1 hp
  keeps_seek p offset t ht := by
    have hrun : (Tracker.seek p offset).run t = _ := run_obey .seek (Tracker.seek p offset) t
    rw [hrun]
    split
    · exact ht
    · exact ⟨h.keeps_seek p offset t.inner ht.1, ht.2⟩
  seek p offset t ht hok q hq := by
    have hrun : (Tracker.seek p offset).run t = _ := run_obey .seek (Tracker.seek p offset) t
    rw [hrun] at hok hq
    split at hok
    · cases hok
    · next hgranted =>
        rw [if_neg hgranted] at hq
        have ht' : ((inside (Tracker.seek p offset)).run t).state.Honest := ht.2
        rw [missing_of_honest ht'] at hq
        rw [missing_of_honest ht.2]
        exact h.seek p offset t.inner ht.1 hok q hq
  setCommitted :=
    interchanges_obey h.setCommitted (fun t ht p => by rw [isAssigned_of_honest ht]) .setCommitted
  setPosition := interchanges_obey h.setPosition (fun _ ht => movable_of_honest ht) .setPosition

end Faulty

end ScriptedConsumer
