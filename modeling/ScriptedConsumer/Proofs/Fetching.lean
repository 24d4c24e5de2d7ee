import ScriptedConsumer.Proofs.Buffers
import ScriptedConsumer.Proofs.Progress

set_option autoImplicit false

/-! # Fetching over a subscription

What a poll does to a client whose tracker is a subscription, said without loops. Either some
assigned partition has no position and none can be found for it: then the first such partition, in
the order of partitions, is the failure of the poll, and nothing changes. Or every partition has or
gets a position, and then nothing can fail any more: the records of the assigned partitions are
delivered, and the progress on every assigned partition is adjusted by `Client.polled`. -/

namespace ScriptedConsumer

namespace Client

/-! ## Where a partition without a position starts -/

/-- The scripted offset by which a reset policy starts a partition. -/
def scriptedStart {τ : Type} (c : Client τ) (p : Partition) : ResetPolicy → Except Failure Int64
  | .earliest => c.beginnings[p]?.elim (.error (.missingBeginning p)) .ok
  | .latest => c.ends[p]?.elim (.error (.missingEnd p)) .ok
  | .none => .error (.noOffset p)

/-- Where an assigned partition starts that has no position: by its pending reset, else at its
    commit, else by the default policy. -/
def resolve (c : Client Subscription) (p : Partition) (g : Progress) : Except Failure Int64 :=
  match g.pendingReset, g.committed with
  | some policy, _ => c.scriptedStart p policy
  | none, some commit => .ok commit.offset
  | none, none => c.scriptedStart p c.tracker.defaultPolicy

/-- A partition is assigned, has no position, and none can be found for it. -/
def Unresolved (c : Client Subscription) (p : Partition) (e : Failure) : Prop :=
  ∃ g, c.tracker.assignment[p]? = some g ∧ g.position = none ∧ c.resolve p g = .error e

theorem scriptedStart_error {τ : Type} {c : Client τ} {p : Partition} {policy : ResetPolicy}
    {e : Failure} (h : c.scriptedStart p policy = .error e) :
    e = .missingBeginning p ∨ e = .missingEnd p ∨ e = .noOffset p := by
  unfold scriptedStart at h
  cases policy with
  | earliest =>
      cases hb : c.beginnings[p]? <;> rw [hb] at h <;> cases h
      exact .inl rfl
  | latest =>
      cases he : c.ends[p]? <;> rw [he] at h <;> cases h
      exact .inr (.inl rfl)
  | none =>
      cases h
      exact .inr (.inr rfl)

/-- Where a partition has no start, an offset is missing in the script, or the policy is to find
    none. -/
theorem resolve_error {c : Client Subscription} {p : Partition} {g : Progress} {e : Failure}
    (h : c.resolve p g = .error e) :
    e = .missingBeginning p ∨ e = .missingEnd p ∨ e = .noOffset p := by
  unfold resolve at h
  split at h
  · exact scriptedStart_error h
  · cases h
  · exact scriptedStart_error h

theorem offset_originByPolicy {τ : Type} (c : Client τ) (p : Partition) (policy : ResetPolicy) :
    (c.originByPolicy p (some policy)).map Origin.offset = c.scriptedStart p policy := by
  unfold originByPolicy scriptedStart
  cases policy with
  | earliest => cases c.beginnings[p]? <;> rfl
  | latest => cases c.ends[p]? <;> rfl
  | none => rfl

theorem offset_origin {c : Client Subscription} {p : Partition} {g : Progress}
    (h : c.tracker.assignment[p]? = some g) :
    (c.origin p).map Origin.offset = c.resolve p g := by
  have hg : c.tracker.progress p = .ok g := Subscription.progress_of_assigned h
  have hneeded : Tracker.isResetNeeded c.tracker p = .ok g.pendingReset.isSome := by
    show (c.tracker.progress p).map _ = _
    rw [hg]
    rfl
  have hpolicy : Tracker.resetPolicy c.tracker p = .ok g.pendingReset := by
    show (c.tracker.progress p).map _ = _
    rw [hg]
    rfl
  have hcommit : Tracker.committed c.tracker p = .ok g.committed := by
    show (c.tracker.progress p).map _ = _
    rw [hg]
    rfl
  unfold origin resolve
  rw [hneeded, hpolicy, hcommit]
  cases g.pendingReset with
  | some policy => exact offset_originByPolicy c p policy
  | none =>
      cases g.committed with
      | some commit => rfl
      | none => exact offset_originByPolicy c p _

theorem run_locate {τ : Type} [Tracker τ] (p : Partition) (c : Client τ) :
    ((locate p).run c).result = (c.origin p).map Origin.offset ∧ ((locate p).run c).state = c := by
  refine ⟨?_, keeps_locate id p c⟩
  simp only [locate, Action.run_bind, Action.run_ask]
  cases c.origin p <;> rfl

end Client

theorem Subscription.mem_missing {s : Subscription} {p : Partition} :
    p ∈ Tracker.missing s ↔ ∃ g, s.assignment[p]? = some g ∧ g.position = none :=
  mem_missing_in .sorted

namespace Client

/-! ## Giving every partition a position -/

/-- What a poll finds out about a partition without a position. -/
def found {τ : Type} [Tracker τ] (c : Client τ) (p : Partition) :
    Except Failure (Partition × Int64) :=
  ((c.origin p).map Origin.offset).map (Prod.mk p)

/-- The partitions without a position are located first, and nothing changes while they are. -/
theorem run_settle {τ : Type} [Tracker τ] (c : Client τ) :
    match (Tracker.missing c.tracker).toList.mapM c.found with
    | .error e => (settle.run c).result = .error e ∧ (settle.run c).state = c
    | .ok starts =>
        let seekAll := Action.each (fun (p, offset) => onTracker (Tracker.seek p offset)) starts
        (settle.run c).result = (seekAll.run c).result ∧
          (settle.run c).state = (seekAll.run c).state := by
  let ask (p : Partition) : Action (Client τ) (Partition × Int64) := do return (p, ← locate p)
  let seekAll (starts : List (Partition × Int64)) : Action (Client τ) Unit :=
    Action.each (fun (p, offset) => onTracker (Tracker.seek p offset)) starts
  have hask (p : Partition) : Action.Keeps id (ask p) :=
    .bind (keeps_locate id p) fun _ => .pure _
  have hfound (p : Partition) : ((ask p).run c).result = c.found p := by
    rw [(Action.bind_pure (locate p) (Prod.mk p) c).1, (run_locate p c).1, found]
  have hrun : settle.run c =
      (Action.collect ask (Tracker.missing c.tracker).toList >>= seekAll).run c :=
    Action.run_get_bind _ c
  obtain ⟨hres, hstate⟩ := Action.run_collect hask (Tracker.missing c.tracker).toList c
  simp only [hfound] at hres
  rw [hrun]
  cases hm : (Tracker.missing c.tracker).toList.mapM c.found with
  | error e =>
      rw [hm] at hres
      obtain ⟨hfail, hsame⟩ := Action.bind_of_error hres seekAll
      rw [hstate] at hsame
      exact ⟨hfail, hsame⟩
  | ok starts =>
      rw [hm] at hres
      have hseek := Action.bind_of_ok hres seekAll
      rw [hstate] at hseek
      exact hseek

/-- The progress on an assigned partition once every partition has a position. -/
def settled (c : Client Subscription) (p : Partition) (g : Progress) : Progress :=
  match g.position, c.resolve p g with
  | none, .ok offset => g.seek offset
  | _, _ => g

theorem found_of_assigned {c : Client Subscription} {p : Partition} {g : Progress}
    (h : c.tracker.assignment[p]? = some g) : c.found p = (c.resolve p g).map (Prod.mk p) := by
  unfold found
  rw [offset_origin h]

theorem fst_of_found {τ : Type} [Tracker τ] {c : Client τ} {p : Partition}
    {start : Partition × Int64} (h : c.found p = .ok start) : start.1 = p := by
  unfold found at h
  cases ho : (c.origin p).map Origin.offset with
  | error e =>
      rw [ho] at h
      simp [Except.map] at h
  | ok offset =>
      rw [ho] at h
      simp only [Except.map, Except.ok.injEq] at h
      rw [← h]

theorem map_fst_of_found {τ : Type} [Tracker τ] {c : Client τ} {ps : List Partition}
    {starts : List (Partition × Int64)} (h : ps.map c.found = starts.map .ok) :
    starts.map (·.1) = ps := by
  induction ps generalizing starts with
  | nil => rw [List.map_eq_nil_iff.1 h.symm, List.map_nil]
  | cons p ps ih =>
      cases starts with
      | nil => simp at h
      | cons start rest =>
          simp only [List.map_cons, List.cons.injEq] at h
          obtain ⟨hp, hrest⟩ := h
          rw [List.map_cons, fst_of_found hp, ih hrest]

theorem found_of_map {τ : Type} [Tracker τ] {c : Client τ} {ps : List Partition}
    {starts : List (Partition × Int64)} (h : ps.map c.found = starts.map .ok) :
    ∀ start ∈ starts, c.found start.1 = .ok start := by
  intro start hstart
  have hmem : Except.ok start ∈ ps.map c.found := by
    rw [h]
    exact List.mem_map_of_mem hstart
  obtain ⟨p, -, he⟩ := List.mem_map.1 hmem
  rw [fst_of_found he]
  exact he

theorem found_ne_error_of_map {τ : Type} [Tracker τ] {c : Client τ} {ps : List Partition}
    {starts : List (Partition × Int64)} (h : ps.map c.found = starts.map .ok) {p : Partition}
    (hp : p ∈ ps) (e : Failure) : c.found p ≠ .error e := by
  intro he
  have hmem : c.found p ∈ starts.map Except.ok := by
    rw [← h]
    exact List.mem_map_of_mem hp
  rw [he] at hmem
  obtain ⟨start, -, hstart⟩ := List.mem_map.1 hmem
  cases hstart

theorem mem_missing_toList {c : Client Subscription} {p : Partition} :
    p ∈ (Tracker.missing c.tracker).toList ↔
      ∃ g, c.tracker.assignment[p]? = some g ∧ g.position = none := by
  rw [Std.ExtTreeSet.mem_toList, Subscription.mem_missing]

theorem unresolved_iff {c : Client Subscription} {p : Partition} {e : Failure} :
    c.Unresolved p e ↔ p ∈ (Tracker.missing c.tracker).toList ∧ c.found p = .error e := by
  constructor
  · rintro ⟨g, hg, hpos, he⟩
    refine ⟨mem_missing_toList.2 ⟨g, hg, hpos⟩, ?_⟩
    rw [found_of_assigned hg, he]
    rfl
  · rintro ⟨hmem, he⟩
    obtain ⟨g, hg, hpos⟩ := mem_missing_toList.1 hmem
    refine ⟨g, hg, hpos, ?_⟩
    rw [found_of_assigned hg] at he
    cases hr : c.resolve p g with
    | error f => simpa [hr, Except.map] using he
    | ok offset => simp [hr, Except.map] at he

theorem resolve_of_found {c : Client Subscription} {p : Partition} {g : Progress} {offset : Int64}
    (hg : c.tracker.assignment[p]? = some g) (h : c.found p = .ok (p, offset)) :
    c.resolve p g = .ok offset := by
  rw [found_of_assigned hg] at h
  cases hr : c.resolve p g with
  | error e => simp [hr, Except.map] at h
  | ok o => simpa [hr, Except.map] using h

theorem settled_of_resolve {c : Client Subscription} {p : Partition} {g : Progress}
    {offset : Int64} (hpos : g.position = none) (h : c.resolve p g = .ok offset) :
    c.settled p g = g.seek offset := by
  unfold settled
  rw [hpos, h]

theorem settled_of_position {c : Client Subscription} {p : Partition} {g : Progress}
    (hpos : g.position ≠ none) : c.settled p g = g := by
  unfold settled
  split
  · next h _ => exact absurd h hpos
  · rfl

theorem run_seeks {c : Client Subscription} {starts : List (Partition × Int64)}
    (hkeys : starts.map Prod.fst = (Tracker.missing c.tracker).toList)
    (hfound : ∀ start ∈ starts, c.found start.1 = .ok start) :
    let seekAll := Action.each (fun (p, offset) => onTracker (Tracker.seek p offset)) starts
    (seekAll.run c).result = .ok () ∧ (seekAll.run c).state = c.adjusted c.settled := by
  have hmem {p : Partition} : p ∈ starts.map Prod.fst ↔
      ∃ g, c.tracker.assignment[p]? = some g ∧ g.position = none := by
    rw [hkeys, mem_missing_toList]
  have hdistinct : (starts.map Prod.fst).Nodup := by
    rw [hkeys]
    exact Std.ExtTreeSet.distinct_toList.imp Std.ReflCmp.ne_of_cmp_ne_eq
  -- one seek, after others may have been made
  have hseek : ∀ start ∈ starts, ∀ G : Partition → Progress → Progress,
      (∀ g, G start.1 g = g) →
      ((onTracker (Tracker.seek start.1 start.2)).run (c.adjusted G)).result = .ok () ∧
        ((onTracker (Tracker.seek start.1 start.2)).run (c.adjusted G)).state =
          c.adjusted fun q g => if q = start.1 then c.settled q g else G q g := by
    intro start hstart G hG
    obtain ⟨g, hg, hpos⟩ := hmem.1 (List.mem_map_of_mem hstart)
    obtain ⟨hres, hstate⟩ := run_change_adjusted hg (·.seek start.2) (hG g)
    refine ⟨hres, hstate.trans (adjusted_at_congr ?_)⟩
    intro g' hg'
    rw [hg, Option.some.injEq] at hg'
    subst hg'
    exact (settled_of_resolve hpos (resolve_of_found hg (hfound start hstart))).symm
  have hrest : ∀ p g, c.tracker.assignment[p]? = some g → p ∉ starts.map Prod.fst →
      c.settled p g = g := by
    intro p g hg hp
    refine settled_of_position ?_
    intro hnone
    exact hp (hmem.2 ⟨g, hg, hnone⟩)
  exact run_each_adjusted (fun (p, offset) => onTracker (Tracker.seek p offset)) Prod.fst c.settled
    hdistinct hseek hrest

/-- Either the first unresolved partition is the failure and nothing changes, or there is no
    unresolved partition and every partition without a position is given one. -/
theorem settle_cases (c : Client Subscription) :
    (∃ p e, c.Unresolved p e ∧ (∀ q f, c.Unresolved q f → q = p ∨ compare p q = .lt) ∧
      (settle.run c).result = .error e ∧ (settle.run c).state = c) ∨
    ((∀ p e, ¬ c.Unresolved p e) ∧ (settle.run c).result = .ok () ∧
      (settle.run c).state = c.adjusted c.settled) := by
  have hrun := run_settle c
  rcases Action.mapM_except c.found (Tracker.missing c.tracker).toList with
    ⟨starts, hok, hmap⟩ | ⟨pre, p, post, e, hsplit, hpre, hp, herr⟩
  · rw [hok] at hrun
    obtain ⟨hres, hstate⟩ := hrun
    obtain ⟨hseek, hmoved⟩ := run_seeks (map_fst_of_found hmap) (found_of_map hmap)
    refine Or.inr ⟨?_, hres.trans hseek, hstate.trans hmoved⟩
    intro p e hu
    obtain ⟨hp, he⟩ := unresolved_iff.1 hu
    exact found_ne_error_of_map hmap hp e he
  · -- the partitions before the first failure were found, and those behind it are greater
    have hmem : p ∈ (Tracker.missing c.tracker).toList := by simp [hsplit]
    refine Or.inl ⟨p, e, unresolved_iff.2 ⟨hmem, hp⟩, ?_, ?_⟩
    · intro q f hu
      obtain ⟨hq, hqf⟩ := unresolved_iff.1 hu
      have hsorted : (Tracker.missing c.tracker).toList.Pairwise (compare · · = .lt) :=
        Std.ExtTreeSet.ordered_toList
      rw [hsplit] at hq hsorted
      obtain ⟨-, hbehind, -⟩ := List.pairwise_append.1 hsorted
      rcases List.mem_append.1 hq with hq | hq
      · obtain ⟨b, hb⟩ := hpre q hq
        rw [hqf] at hb
        cases hb
      · rcases List.mem_cons.1 hq with rfl | hq
        · exact Or.inl rfl
        · exact Or.inr ((List.pairwise_cons.1 hbehind).1 q hq)
    · rw [herr] at hrun
      exact hrun

/-! ## Advancing positions -/

/-- Where the position of a partition is moved when its records are delivered: behind the last one,
    unless the partition is paused or has no records. -/
def advancedTo {τ : Type} (c : Client τ) (p : Partition) : Option Int64 :=
  if c.paused.contains p then none else (c.buffer.getD p []).getLast?.map (·.offset + 1)

/-- The progress on a partition after its records were delivered. -/
def advanced {τ : Type} (c : Client τ) (p : Partition) (g : Progress) : Progress :=
  match c.advancedTo p with
  | some offset => { g with position := some offset }
  | none => g

theorem advanced_of_stayed {τ : Type} {c : Client τ} {p : Partition} (h : c.advancedTo p = none)
    (g : Progress) : c.advanced p g = g := by
  unfold advanced
  rw [h]

theorem advanced_of_moved {τ : Type} {c : Client τ} {p : Partition} {offset : Int64}
    (h : c.advancedTo p = some offset) (g : Progress) :
    c.advanced p g = { g with position := some offset } := by
  unfold advanced
  rw [h]

theorem run_advance_adjusted {c : Client Subscription} {p : Partition} {records : List Record}
    {g : Progress} (hbuf : c.buffer[p]? = some records)
    (h : c.tracker.assignment[p]? = some g) (hpos : g.position ≠ none)
    {G : Partition → Progress → Progress} (hG : ∀ g, G p g = g) :
    ((advance (p, records)).run (c.adjusted G)).result = .ok () ∧
      ((advance (p, records)).run (c.adjusted G)).state =
        c.adjusted fun q g => if q = p then c.advanced q g else G q g := by
  have hget : c.buffer.getD p [] = records := by
    rw [Std.ExtTreeMap.getD_eq_getD_getElem?, hbuf, Option.getD_some]
  -- where the position stays, nothing is adjusted
  have hstay (hto : c.advancedTo p = none) : c.adjusted G =
      c.adjusted fun q g => if q = p then c.advanced q g else G q g := by
    refine adjusted_congr ?_
    intro q g _
    by_cases hq : q = p
    · rw [if_pos hq, hq, hG, advanced_of_stayed hto]
    · rw [if_neg hq]
  cases hlast : records.getLast? with
  | none =>
      have hto : c.advancedTo p = none := by simp [advancedTo, hget, hlast]
      have hrun : (advance (p, records)).run (c.adjusted G) = ⟨.ok (), c.adjusted G, []⟩ := by
        simp only [advance, Action.run_bind, Action.run_get, hlast]
        rfl
      rw [hrun]
      exact ⟨rfl, hstay hto⟩
  | some last =>
      have hpaused : (c.adjusted G).paused = c.paused := rfl
      by_cases hp : c.paused.contains p = true
      · have hto : c.advancedTo p = none := by
          unfold advancedTo
          rw [if_pos hp]
        have hrun : (advance (p, records)).run (c.adjusted G) = ⟨.ok (), c.adjusted G, []⟩ := by
          simp only [advance, Action.run_bind, Action.run_get, hlast, hpaused, hp]
          rfl
        rw [hrun]
        exact ⟨rfl, hstay hto⟩
      · have hto : c.advancedTo p = some (last.offset + 1) := by
          simp [advancedTo, hget, hlast, hp]
        have hrun : (advance (p, records)).run (c.adjusted G) =
            (onTracker (Tracker.setPosition p (last.offset + 1))).run (c.adjusted G) := by
          simp only [advance, Action.run_bind, Action.run_get, hlast, hpaused, hp]
          rfl
        obtain ⟨hres, hstate⟩ := run_setPosition_adjusted h hpos (last.offset + 1) (hG g)
        rw [hrun]
        refine ⟨hres, hstate.trans (adjusted_at_congr ?_)⟩
        intro g' _
        exact (advanced_of_moved hto g').symm

/-- Advancing over everything that is buffered succeeds where every partition in the buffer is
    assigned and has a position. -/
theorem run_advances (visiting : Visiting (List Record)) {c : Client Subscription}
    (hpos : ∀ (p : Partition) (records : List Record), c.buffer[p]? = some records →
      ∃ g : Progress, c.tracker.assignment[p]? = some g ∧ g.position ≠ none) :
    ((Action.each advance (visiting.entries c.buffer)).run c).result = .ok () ∧
      ((Action.each advance (visiting.entries c.buffer)).run c).state = c.adjusted c.advanced := by
  have hadvance : ∀ group ∈ visiting.entries c.buffer, ∀ G : Partition → Progress → Progress,
      (∀ g, G group.1 g = g) →
      ((advance group).run (c.adjusted G)).result = .ok () ∧
        ((advance group).run (c.adjusted G)).state =
          c.adjusted fun q g => if q = group.1 then c.advanced q g else G q g := by
    intro group hgroup G hG
    have hbuf := visiting.mem_entries.1 hgroup
    obtain ⟨g, hg, hp⟩ := hpos _ _ hbuf
    exact run_advance_adjusted hbuf hg hp hG
  have hrest : ∀ p g, c.tracker.assignment[p]? = some g →
      p ∉ (visiting.entries c.buffer).map Prod.fst → c.advanced p g = g := by
    intro p g _ hp
    -- nothing is buffered for the partition, so its position stays
    have hbuf : c.buffer[p]? = none := by
      cases h : c.buffer[p]? with
      | none => rfl
      | some records => exact absurd (List.mem_map_of_mem (visiting.mem_entries.2 h)) hp
    have hto : c.advancedTo p = none := by
      unfold advancedTo
      rw [Std.ExtTreeMap.getD_eq_getD_getElem?, hbuf]
      simp
    exact advanced_of_stayed hto g
  exact run_each_adjusted advance Prod.fst c.advanced (visiting.nodup_keys c.buffer) hadvance hrest

/-! ## A whole fetch -/

/-- The progress on an assigned partition after a poll that succeeds. -/
def polled (c : Client Subscription) (p : Partition) (g : Progress) : Progress :=
  c.advanced p (c.settled p g)

theorem position_settled {c : Client Subscription} (h : ∀ p e, ¬ c.Unresolved p e) {p : Partition}
    {g : Progress} (hg : c.tracker.assignment[p]? = some g) :
    (c.settled p g).position ≠ none := by
  by_cases hpos : g.position = none
  · cases hr : c.resolve p g with
    | error e =>
        have hu : c.Unresolved p e := ⟨g, hg, hpos, hr⟩
        exact absurd hu (h p e)
    | ok offset =>
        rw [settled_of_resolve hpos hr]
        simp [Progress.seek]
  · rw [settled_of_position hpos]
    exact hpos

/-- The records that a poll delivers if it succeeds: those of the assigned partitions. -/
def deliverable (c : Client Subscription) : RecordMap :=
  c.buffer.filter fun p _ => c.tracker.assignment.contains p

theorem getElem?_deliverable (c : Client Subscription) (p : Partition) :
    c.deliverable[p]? = if c.tracker.assignment.contains p then c.buffer[p]? else none :=
  getElem?_filter_key c.buffer _ p

/-- The client once every partition has a position and the buffer was trimmed. -/
def placed (c : Client Subscription) : Client Subscription :=
  { c.adjusted c.settled with buffer := c.deliverable }

theorem trimmed_adjusted_settled (c : Client Subscription) :
    (c.adjusted c.settled).trimmed = c.placed := by
  have hcontains (p : Partition) :
      (c.tracker.adjust c.settled).assignment.contains p = c.tracker.assignment.contains p :=
    Std.ExtTreeMap.contains_map
  unfold trimmed placed deliverable
  simp only [← hcontains]
  rfl

theorem position_placed {c : Client Subscription} (h : ∀ p e, ¬ c.Unresolved p e) (p : Partition)
    (records : List Record) (hbuf : c.placed.buffer[p]? = some records) :
    ∃ g : Progress, c.placed.tracker.assignment[p]? = some g ∧ g.position ≠ none := by
  have hdel : c.deliverable[p]? = some records := hbuf
  rw [getElem?_deliverable, Std.ExtTreeMap.contains_eq_isSome_getElem?] at hdel
  cases hg : c.tracker.assignment[p]? with
  | none => simp [hg] at hdel
  | some g =>
      refine ⟨c.settled p g, ?_, position_settled h hg⟩
      show (c.tracker.adjust c.settled).assignment[p]? = _
      rw [Subscription.getElem?_adjust, hg, Option.map_some]

theorem advancedTo_placed {c : Client Subscription} {p : Partition} {g : Progress}
    (hg : c.tracker.assignment[p]? = some g) : c.placed.advancedTo p = c.advancedTo p := by
  have hget : c.deliverable.getD p [] = c.buffer.getD p [] := by
    rw [Std.ExtTreeMap.getD_eq_getD_getElem?, Std.ExtTreeMap.getD_eq_getD_getElem?,
      getElem?_deliverable, Std.ExtTreeMap.contains_eq_isSome_getElem?, hg]
    simp
  show (if c.paused.contains p then none
    else (c.deliverable.getD p []).getLast?.map (·.offset + 1)) = _
  unfold advancedTo
  rw [hget]

theorem adjust_advanced_placed (c : Client Subscription) :
    (c.tracker.adjust c.settled).adjust c.placed.advanced = c.tracker.adjust c.polled := by
  rw [Subscription.adjust_adjust]
  refine Subscription.adjust_congr ?_
  intro p g hg
  unfold polled advanced
  rw [advancedTo_placed hg]

/-- A fetch over a subscription either fails at the first unresolved partition and changes nothing,
    or delivers the records of the assigned partitions and adjusts the progress on them. -/
theorem fetch_cases (visiting : Visiting (List Record)) (c : Client Subscription) :
    (∃ p e, c.Unresolved p e ∧ (∀ q f, c.Unresolved q f → q = p ∨ compare p q = .lt) ∧
      ((fetch visiting).run c).result = .error e ∧ ((fetch visiting).run c).state = c) ∨
    ((∀ p e, ¬ c.Unresolved p e) ∧
      ((fetch visiting).run c).result = .ok ⟨c.deliverable⟩ ∧
      ((fetch visiting).run c).state =
        { c with tracker := c.tracker.adjust c.polled, buffer := ∅ }) := by
  rcases settle_cases c with ⟨p, e, hu, hfirst, hres, hstate⟩ | ⟨hall, hres, hstate⟩
  · obtain ⟨hfail, hsame⟩ := run_fetch_of_unsettled visiting hres
    exact Or.inl ⟨p, e, hu, hfirst, hfail, hsame.trans hstate⟩
  · obtain ⟨hok, hdone⟩ := run_fetch_of_settled visiting hres
    rw [hstate, trimmed_adjusted_settled] at hok hdone
    obtain ⟨hadv, hmoved⟩ := run_advances visiting (position_placed hall)
    obtain ⟨hdel, hempty⟩ := Action.bind_of_ok hadv fun _ => deliver
    rw [hmoved] at hdel hempty
    have hafter : ({ c.placed.adjusted c.placed.advanced with buffer := ∅ } : Client Subscription)
        = { c with tracker := c.tracker.adjust c.polled, buffer := ∅ } := by
      rw [← adjust_advanced_placed]
      rfl
    exact Or.inr ⟨hall, hok.trans hdel, hdone.trans (hempty.trans hafter)⟩

end Client

end ScriptedConsumer
