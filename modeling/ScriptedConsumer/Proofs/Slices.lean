import ScriptedConsumer.Proofs.Fetching
import ScriptedConsumer.Proofs.Subscribing

set_option autoImplicit false

/-! # What concerns one partition

A client over a subscription holds a slice for every partition: the progress on it if it is
assigned, the records that wait for it, its pause and its scripted offsets. Two clients are alike at
a partition if their slices of it agree, they assign the same partitions, and they agree on what
belongs to no partition. What they hold for other partitions may differ.

Every call of a subscription keeps two subscriptions alike, `Subscription.abreast_perform`, and a
request that names other partitions only leaves a client alike to what it was,
`Client.alike_handle_of_spares`. -/

namespace ScriptedConsumer

/-! ## Slices -/

/-- What is held for one partition. The progress is none if the partition is not assigned. -/
structure Slice where
  progress : Option Progress
  records : Option (List Record)
  paused : Bool
  beginning : Option Int64
  ending : Option Int64
deriving DecidableEq

namespace Client

/-- What a client over a subscription holds for a partition. -/
def slice (c : Client Subscription) (p : Partition) : Slice where
  progress := c.tracker.assignment[p]?
  records := c.buffer[p]?
  paused := c.paused.contains p
  beginning := c.beginnings[p]?
  ending := c.ends[p]?

end Client

/-- Two subscriptions agree on one partition, on which partitions are assigned, and on all that
    belongs to no partition. -/
structure Subscription.Alike (p : Partition) (s s' : Subscription) : Prop where
  rest : { s with assignment := ∅ } = { s' with assignment := ∅ }
  assigned : ∀ q, s.assignment.contains q = s'.assignment.contains q
  progress : s.assignment[p]? = s'.assignment[p]?

/-- Two clients agree on one partition, on which partitions are assigned, and on all that belongs to
    no partition. -/
structure Client.Alike (p : Partition) (c c' : Client Subscription) : Prop where
  tracker : c.tracker.Alike p c'.tracker
  catalog : c.catalog = c'.catalog
  records : c.buffer[p]? = c'.buffer[p]?
  paused : c.paused.contains p = c'.paused.contains p
  beginning : c.beginnings[p]? = c'.beginnings[p]?
  ending : c.ends[p]? = c'.ends[p]?

variable {p : Partition}

/-! ## Subscriptions -/

namespace Subscription

namespace Alike

variable {s s' s'' : Subscription}

theorem refl (s : Subscription) : s.Alike p s := ⟨rfl, fun _ => rfl, rfl⟩

theorem symm (h : s.Alike p s') : s'.Alike p s :=
  ⟨h.rest.symm, fun q => (h.assigned q).symm, h.progress.symm⟩

theorem trans (h : s.Alike p s') (h' : s'.Alike p s'') : s.Alike p s'' :=
  ⟨h.rest.trans h'.rest, fun q => (h.assigned q).trans (h'.assigned q),
    h.progress.trans h'.progress⟩

theorem mode_eq (h : s.Alike p s') : s.mode = s'.mode := congrArg (·.mode) h.rest

theorem topics_eq (h : s.Alike p s') : s.topics = s'.topics := congrArg (·.topics) h.rest

theorem chosen_eq (h : s.Alike p s') : s.chosen = s'.chosen := congrArg (·.chosen) h.rest

theorem defaultPolicy_eq (h : s.Alike p s') : s.defaultPolicy = s'.defaultPolicy :=
  congrArg (·.defaultPolicy) h.rest

theorem isPaused_eq (h : s.Alike p s') : Tracker.isPaused s p = Tracker.isPaused s' p := by
  show s.assignment[p]?.any _ = s'.assignment[p]?.any _
  rw [h.progress]

end Alike

/-- Changing the progress on another partition. -/
theorem alike_insert {s : Subscription} {q : Partition} {g : Progress} (hq : q ≠ p)
    (h : s.assignment[q]? = some g) (g' : Progress) :
    s.Alike p { s with assignment := s.assignment.insert q g' } where
  rest := rfl
  assigned q' := by
    rw [Std.ExtTreeMap.contains_insert]
    by_cases hq' : q = q'
    · subst hq'
      simp [Std.ExtTreeMap.contains_eq_isSome_getElem?, h]
    · simp [Partition.compare_ne_eq hq']
  progress := by
    rw [Std.ExtTreeMap.getElem?_insert, if_neg (Partition.compare_ne_eq hq)]

theorem alike_change_of_ne {q : Partition} (hq : q ≠ p) (f : Progress → Progress)
    (s : Subscription) : s.Alike p ((change q f).run s).state := by
  rw [run_change]
  cases h : s.assignment[q]? with
  | none => exact .refl s
  | some g => exact alike_insert hq h (f g)

/-- A change of some partition is granted to both or to neither. -/
theorem abreast_change (q : Partition) (f : Progress → Progress) :
    Action.Abreast (Alike p) (fun _ _ => True) (change q f) (change q f) := by
  intro s s' h
  have hassigned := h.assigned q
  rw [Std.ExtTreeMap.contains_eq_isSome_getElem?, Std.ExtTreeMap.contains_eq_isSome_getElem?]
    at hassigned
  constructor
  · by_cases hq : q = p
    · subst hq
      rw [run_change, run_change, ← h.progress]
      cases s.assignment[q]? with
      | none => exact h
      | some g =>
          refine ⟨h.rest, ?_, ?_⟩
          · intro q'
            rw [Std.ExtTreeMap.contains_insert, Std.ExtTreeMap.contains_insert, h.assigned]
          · rw [Std.ExtTreeMap.getElem?_insert_self, Std.ExtTreeMap.getElem?_insert_self]
    · exact (alike_change_of_ne hq f s).symm.trans (h.trans (alike_change_of_ne hq f s'))
  · rw [run_change, run_change]
    cases hg : s.assignment[q]? with
    | none =>
        rw [hg, eq_comm, Option.isSome_none, Option.isSome_eq_false_iff, Option.isNone_iff_eq_none]
          at hassigned
        rw [hassigned]
        exact .badly _ _
    | some g =>
        rw [hg, eq_comm, Option.isSome_some, Option.isSome_iff_exists] at hassigned
        obtain ⟨g', hg'⟩ := hassigned
        rw [hg']
        exact .well trivial

/-- An edit of what belongs to no partition. -/
theorem Alike.edit {s s' : Subscription} (h : s.Alike p s') (f : Subscription → Subscription)
    (hrest : ∀ s, f { s with assignment := ∅ } = { f s with assignment := ∅ })
    (hsame : ∀ s, (f s).assignment = s.assignment) : (f s).Alike p (f s') where
  rest := by rw [← hrest, ← hrest, h.rest]
  assigned q := by rw [hsame, hsame, h.assigned]
  progress := by rw [hsame, hsame, h.progress]

theorem Alike.admits_iff {s s' : Subscription} (h : s.Alike p s') (mode : Mode) :
    s.Admits mode ↔ s'.Admits mode := by
  unfold Admits
  rw [h.mode_eq]

/-- A call that is granted under a condition, where the condition is the same for both. -/
theorem abreast_guarded {act : Action Subscription Unit} {guard : Subscription → Prop}
    [DecidablePred guard] {f : Subscription → Subscription} {events : Subscription → List Event}
    {e : Subscription → Failure}
    (hrun : ∀ s, act.run s =
      if guard s then ⟨.ok (), f s, events s⟩ else ⟨.error (e s), s, []⟩)
    (hguard : ∀ s s' : Subscription, s.Alike p s' → (guard s ↔ guard s'))
    (hf : ∀ s s' : Subscription, s.Alike p s' → (f s).Alike p (f s')) :
    Action.Abreast (Alike p) (fun _ _ => True) act act := by
  intro s s' h
  rw [hrun, hrun]
  by_cases hs : guard s
  · rw [if_pos hs, if_pos ((hguard s s' h).1 hs)]
    exact ⟨hf s s' h, .well trivial⟩
  · rw [if_neg hs, if_neg (mt (hguard s s' h).2 hs)]
    exact ⟨h, .badly _ _⟩

theorem abreast_assignManually (ps : PartitionSet) :
    Action.Abreast (Alike p) (fun _ _ => True) (assignManually ps) (assignManually ps) := by
  refine abreast_guarded (run_assignManually ps) (fun _ _ h => h.admits_iff _) ?_
  intro s s' h
  refine ⟨?_, ?_, ?_⟩
  · exact congrArg (fun s : Subscription => { s with mode := .manual, chosen := ps }) h.rest
  · intro q
    simp only [h.chosen_eq]
    split
    · exact h.assigned q
    · rw [Std.ExtTreeMap.contains_eq_isSome_getElem?, Std.ExtTreeMap.contains_eq_isSome_getElem?,
        getElem?_reassign, getElem?_reassign]
      split <;> rfl
  · simp only [h.chosen_eq]
    split
    · exact h.progress
    · rw [getElem?_reassign, getElem?_reassign, h.progress]

theorem abreast_assignFromGroup (ps : List Partition) :
    Action.Abreast (Alike p) (fun _ _ => True) (assignFromGroup ps) (assignFromGroup ps) := by
  intro s s' h
  have hauto : s'.isAutoAssigned = s.isAutoAssigned := by
    unfold isAutoAssigned
    rw [h.mode_eq]
  have hfind : ps.find? (fun q => !s'.topics.contains q.topic) =
      ps.find? fun q => !s.topics.contains q.topic := by
    rw [h.topics_eq]
  rw [run_assignFromGroup, run_assignFromGroup, hauto, hfind]
  split
  · split
    · exact ⟨h, .badly _ _⟩
    · exact ⟨⟨h.rest, fun _ => rfl, rfl⟩, .well trivial⟩
  · exact ⟨h, .badly _ _⟩

/-- Every call but the moving of a position is granted to both or to neither, and leaves them
    alike. -/
theorem abreast_perform (call : Tracker.Call) (hcall : ∀ q offset, call ≠ .setPosition q offset) :
    Action.Abreast (Subscription.Alike p) (fun _ _ => True) call.perform call.perform := by
  cases call with
  | subscribe topics listener =>
      exact abreast_guarded (run_subscribe topics listener) (fun _ _ h => h.admits_iff _)
        fun _ _ h => h.edit ({ · with mode := .topics, topics, listener := some listener })
          (fun _ => rfl) fun _ => rfl
  | subscribePattern pattern listener =>
      exact abreast_guarded (run_subscribePattern pattern listener) (fun _ _ h => h.admits_iff _)
        fun _ _ h => h.edit
          ({ · with mode := .pattern, pattern := some pattern, listener := some listener })
          (fun _ => rfl) fun _ => rfl
  | setMatched topics =>
      exact abreast_guarded (run_setMatched topics) (fun _ _ h => by rw [h.mode_eq])
        fun _ _ h => h.edit ({ · with topics }) (fun _ => rfl) fun _ => rfl
  | assignManually ps => exact abreast_assignManually ps
  | assignFromGroup ps => exact abreast_assignFromGroup ps
  | unsubscribe =>
      refine .modify ?_
      intro s s' h
      show (unsubscribe s).Alike p (unsubscribe s')
      unfold unsubscribe
      rw [h.defaultPolicy_eq]
      exact .refl _
  | setPosition q offset => exact absurd rfl (hcall q offset)
  | needDefaultReset q =>
      intro s s' h
      have hpolicy : Tracker.defaultPolicy s = Tracker.defaultPolicy s' := h.defaultPolicy_eq
      have hrun := abreast_change (p := p) q (·.awaitReset (Tracker.defaultPolicy s')) s s' h
      show Subscription.Alike p ((Tracker.needDefaultReset q).run s).state
          ((Tracker.needDefaultReset q).run s').state ∧ Action.EndAlike _
        ((Tracker.needDefaultReset q).run s).result ((Tracker.needDefaultReset q).run s').result
      rw [Tracker.run_needDefaultReset, Tracker.run_needDefaultReset, hpolicy]
      exact hrun
  | pause q | resume q | setCommitted q commit | needReset q policy | seek q offset =>
      exact abreast_change q _

end Subscription

/-! ## Lookups that agree -/

section Lookups

variable {β : Type}

theorem getElem?_insert_congr {m m' : PartitionMap β} (h : m[p]? = m'[p]?) (q : Partition) (b : β) :
    (m.insert q b)[p]? = (m'.insert q b)[p]? := by
  rw [Std.ExtTreeMap.getElem?_insert, Std.ExtTreeMap.getElem?_insert, h]

theorem getElem?_insertMany_congr {m m' : PartitionMap β} (h : m[p]? = m'[p]?)
    (entries : List (Partition × β)) :
    (m.insertMany entries)[p]? = (m'.insertMany entries)[p]? := by
  induction entries generalizing m m' with
  | nil => simpa using h
  | cons e rest ih =>
      rw [Std.ExtTreeMap.insertMany_cons, Std.ExtTreeMap.insertMany_cons]
      exact ih (getElem?_insert_congr h e.1 e.2)

theorem getElem?_insert_of_ne {m : PartitionMap β} {q : Partition} (hq : q ≠ p) (b : β) :
    (m.insert q b)[p]? = m[p]? := by
  rw [Std.ExtTreeMap.getElem?_insert, if_neg (Partition.compare_ne_eq hq)]

theorem getElem?_insertMany_of_ne {m : PartitionMap β} {entries : List (Partition × β)}
    (h : ∀ e ∈ entries, e.1 ≠ p) : (m.insertMany entries)[p]? = m[p]? := by
  induction entries generalizing m with
  | nil => simp
  | cons e rest ih =>
      rw [Std.ExtTreeMap.insertMany_cons, ih fun e' he' => h e' (List.mem_cons_of_mem _ he'),
        getElem?_insert_of_ne (h e (List.mem_cons_self ..))]

theorem getElem?_insertMany_toList {m m' : PartitionMap β} {b : β} (h : m'[p]? = some b) :
    (m.insertMany m'.toList)[p]? = some b :=
  Std.ExtTreeMap.getElem?_insertMany_list_of_mem Std.ReflCmp.compare_self
    Std.ExtTreeMap.distinct_keys_toList (Std.ExtTreeMap.mem_toList_iff_getElem?_eq_some.2 h)

end Lookups

/-! ## Clients -/

namespace Client

namespace Alike

variable {c c' c'' : Client Subscription}

theorem refl (c : Client Subscription) : c.Alike p c := ⟨.refl _, rfl, rfl, rfl, rfl, rfl⟩

theorem symm (h : c.Alike p c') : c'.Alike p c :=
  ⟨h.tracker.symm, h.catalog.symm, h.records.symm, h.paused.symm, h.beginning.symm, h.ending.symm⟩

theorem trans (h : c.Alike p c') (h' : c'.Alike p c'') : c.Alike p c'' :=
  ⟨h.tracker.trans h'.tracker, h.catalog.trans h'.catalog, h.records.trans h'.records,
    h.paused.trans h'.paused, h.beginning.trans h'.beginning, h.ending.trans h'.ending⟩

/-- Clients that are alike at a partition hold the same for it. -/
theorem slice_eq (h : c.Alike p c') : c.slice p = c'.slice p := by
  unfold slice
  rw [h.tracker.progress, h.records, h.paused, h.beginning, h.ending]

end Alike

end Client

/-! ## Requests that name other partitions -/

/-- The request names partitions, and the given one is not among them. -/
def Request.Spares (p : Partition) : Request → Prop
  | .addRecord r => r.partition ≠ p
  | .seek q _ | .position q => q ≠ p
  | .seekToBeginning ps | .seekToEnd ps | .pause ps | .resume ps => p ∉ ps
  | .commitSyncOffsets offsets => p ∉ offsets
  | .scriptBeginnings offsets | .scriptEnds offsets => p ∉ offsets
  | _ => False

theorem ne_of_mem_toList {β : Type} {m : PartitionMap β} (hp : p ∉ m) {e : Partition × β}
    (he : e ∈ m.toList) : e.1 ≠ p := by
  rintro rfl
  have hsome : m[e.1]? = some e.2 := Std.ExtTreeMap.mem_toList_iff_getElem?_eq_some.1 he
  exact hp (Std.ExtTreeMap.mem_iff_isSome_getElem?.2 (by rw [hsome, Option.isSome_some]))

/-- A call that edits the progress on another partition. -/
theorem Subscription.alike_perform_of_edit {s : Subscription} {call : Tracker.Call} {q : Partition}
    {f : Progress → Progress} (hcall : call.edit? s.defaultPolicy = some (q, f)) (hq : q ≠ p) :
    s.Alike p (call.perform.run s).state := by
  rcases perform_cases call s with ⟨e, -, hsame⟩ | ⟨-, hgrant⟩
  · rw [hsame]
    exact .refl s
  · generalize (call.perform.run s).state = s' at hgrant
    cases hgrant with
    | edit hcall' hassigned hmove =>
        rw [hcall, Option.some.injEq, Prod.mk.injEq] at hcall'
        obtain ⟨rfl, rfl⟩ := hcall'
        exact alike_insert hq hassigned _
    | _ => cases hcall

namespace Client

variable {r : Request}

theorem alike_call_of_spares (hr : r.Spares p) {call : Tracker.Call} (h : r.Makes call)
    (s : Subscription) : s.Alike p (call.perform.run s).state := by
  cases h with
  | pause hq | resume hq | seekToBeginning hq | seekToEnd hq =>
      exact Subscription.alike_perform_of_edit rfl (ne_of_mem_of_not_mem hq hr)
  | seek q offset | position q offset => exact Subscription.alike_perform_of_edit rfl hr
  | commitSyncOffsets he => exact Subscription.alike_perform_of_edit rfl (ne_of_mem_toList hr he)
  | _ => cases hr

theorem alike_edit_of_spares (hr : r.Spares p) {g : Client Subscription → Client Subscription}
    (h : r.Edits g) (c : Client Subscription) : c.Alike p (g c) := by
  cases h with
  | addRecord r =>
      exact ⟨.refl _, rfl, (getElem?_insert_of_ne hr _).symm, rfl, rfl, rfl⟩
  | pause hq =>
      have hne := Partition.compare_ne_eq (ne_of_mem_of_not_mem hq hr)
      refine ⟨.refl _, rfl, rfl, ?_, rfl, rfl⟩
      simp [Std.ExtTreeSet.contains_insert, hne]
  | resume hq =>
      have hne := Partition.compare_ne_eq (ne_of_mem_of_not_mem hq hr)
      refine ⟨.refl _, rfl, rfl, ?_, rfl, rfl⟩
      simp [Std.ExtTreeSet.contains_erase, hne]
  | scriptBeginnings offsets =>
      exact ⟨.refl _, rfl, rfl, rfl,
        (getElem?_insertMany_of_ne fun e he => ne_of_mem_toList hr he).symm, rfl⟩
  | scriptEnds offsets =>
      exact ⟨.refl _, rfl, rfl, rfl, rfl,
        (getElem?_insertMany_of_ne fun e he => ne_of_mem_toList hr he).symm⟩
  | _ => cases hr

/-- A request that names other partitions leaves alone what concerns this one. -/
theorem alike_handle_of_spares (hr : r.Spares p) (c : Client Subscription) :
    c.Alike p ((handle r).run c).state := by
  refine maintains_handle (J := c.Alike p) r ?_ ?_ c (.refl c)
  · intro call hmakes c' hc'
    exact { hc' with tracker := hc'.tracker.trans (alike_call_of_spares hr hmakes c'.tracker) }
  · intro g hedits c' hc'
    exact hc'.trans (alike_edit_of_spares hr hedits c')

end Client

end ScriptedConsumer
