import ScriptedConsumer.Proofs.Polls

set_option autoImplicit false

/-! # Room behind every record

What a poll computes from the buffer is safe, whatever the tracker does. A position moves behind the
last record of a group by adding one to its offset, and nothing guards that addition where it is
made: it is safe because `Client.addRecord` refuses a record at the greatest offset, and because the
buffer holds nothing but records that were added. `History.buffer_tidy` puts it together: the buffer
is tidy at every moment of every history, a fetch that checks its additions does what `Client.fetch`
does there, and of a batch that is delivered the three ways to say that it is empty agree. -/

namespace ScriptedConsumer

/-! ## Tidy groups -/

/-- The groups are as a poll needs them: none is empty, each holds records of its own partition
    only, and behind each record there is room for a position. -/
structure RecordMap.Tidy (groups : RecordMap) : Prop where
  nonempty : ∀ (p : Partition) (group : List Record), groups[p]? = some group → group ≠ []
  partition : ∀ (p : Partition) (group : List Record), groups[p]? = some group →
    ∀ record ∈ group, record.partition = p
  room : ∀ (p : Partition) (group : List Record), groups[p]? = some group →
    ∀ record ∈ group, record.offset < Int64.maxValue

namespace RecordMap.Tidy

variable {groups : RecordMap}

theorem mono (h : groups.Tidy) {part : RecordMap}
    (hpart : ∀ (p : Partition) (group : List Record), part[p]? = some group →
      groups[p]? = some group) : part.Tidy where
  nonempty p group hg := h.nonempty p group (hpart p group hg)
  partition p group hg := h.partition p group (hpart p group hg)
  room p group hg := h.room p group (hpart p group hg)

theorem recordCount_eq_zero_iff (h : groups.Tidy) : recordCount groups = 0 ↔ groups = ∅ := by
  constructor
  · intro hcount
    unfold recordCount at hcount
    rw [List.length_eq_zero_iff, List.flatMap_eq_nil_iff] at hcount
    refine Std.ExtTreeMap.ext_getElem? ?_
    intro p
    rw [Std.ExtTreeMap.getElem?_empty]
    cases hp : groups[p]? with
    | none => rfl
    | some group =>
        -- a group would have to be empty
        have hmem : (p, group) ∈ groups.toList :=
          Std.ExtTreeMap.mem_toList_iff_getElem?_eq_some.2 hp
        exact absurd (hcount _ hmem) (h.nonempty p group hp)
  · rintro rfl
    rfl

end RecordMap.Tidy

theorem Batch.isEmpty_iff_count_eq_zero (b : Batch) : b.isEmpty = true ↔ b.count = 0 := by
  unfold isEmpty count recordCount
  rw [List.length_eq_zero_iff, List.flatMap_eq_nil_iff, List.all_eq_true]
  simp only [List.isEmpty_iff]

/-! ## A fetch that checks its additions -/

/-- The offset behind another one, if there is one. -/
def offsetBehind? (offset : Int64) : Option Int64 :=
  if offset.toInt + 1 ≤ Int64.maxValue.toInt then some (offset + 1) else none

theorem offsetBehind?_of_lt {offset : Int64} (h : offset < Int64.maxValue) :
    offsetBehind? offset = some (offset + 1) ∧ (offset + 1).toInt = offset.toInt + 1 := by
  have hfits : offset.toInt + 1 ≤ Int64.maxValue.toInt := Int64.lt_iff_toInt_lt.1 h
  have hne : offset ≠ Int64.maxValue := by
    rintro rfl
    exact absurd h (Int64.lt_irrefl)
  exact ⟨if_pos hfits, Client.toInt_add_one hne⟩

namespace Client

variable {τ : Type} [Tracker τ]

/-- Moves the position of a partition as `advance` does, but fails if the addition overflows. -/
def checkedAdvance (group : Partition × List Record) : Action (Client τ) Unit := do
  let c ← get
  match group.2.getLast? with
  | some last =>
      if !c.paused.contains group.1 then
        match offsetBehind? last.offset with
        | some offset => onTracker (Tracker.setPosition group.1 offset)
        | none => throw (.offsetOutOfRange group.1 last.offset)
  | none => pure ()

/-- Fetches a batch as `fetch` does, but fails if an addition overflows. -/
def checkedFetch (visiting : Visiting (List Record)) : Action (Client τ) Batch := do
  settle
  discard
  Action.each checkedAdvance (visiting.entries (← get).buffer)
  deliver

theorem checkedAdvance_of_room {group : Partition × List Record}
    (h : ∀ record ∈ group.2, record.offset < Int64.maxValue) :
    checkedAdvance (τ := τ) group = advance group := by
  unfold checkedAdvance advance
  cases hlast : group.2.getLast? with
  | none => rfl
  | some last =>
      obtain ⟨hnext, -⟩ := offsetBehind?_of_lt (h last (List.mem_of_getLast? hlast))
      simp only [hnext]

theorem run_checkedFetch {c : Client τ} (h : c.buffer.Tidy) (visiting : Visiting (List Record)) :
    (checkedFetch visiting).run c = (fetch visiting).run c := by
  have hkeep : (settle.run c).state.buffer = c.buffer :=
    maintains_settle (J := fun c' => c'.buffer = c.buffer) (fun _ _ _ hc' => hc') c rfl
  refine Action.run_bind_congr fun _ _ => Action.run_bind_congr fun _ _ => ?_
  rw [(run_discard _).2]
  -- what is left of the buffer is part of it
  have htidy : (settle.run c).state.trimmed.buffer.Tidy := by
    refine h.mono ?_
    intro p group hg
    have hfilter :
        (c.buffer.filter fun p _ => Tracker.isAssigned (settle.run c).state.tracker p)[p]? =
          some group := by
      rw [← hkeep]
      exact hg
    rw [getElem?_filter_key, Option.ite_none_right_eq_some] at hfilter
    exact hfilter.2
  have heach : Action.each checkedAdvance
      (visiting.entries (settle.run c).state.trimmed.buffer) =
      Action.each (advance (τ := τ)) (visiting.entries (settle.run c).state.trimmed.buffer) := by
    refine Action.each_congr ?_
    rintro ⟨p, group⟩ hmem
    exact checkedAdvance_of_room (htidy.room p group (visiting.mem_entries.1 hmem))
  show (Action.each checkedAdvance _ >>= fun _ => deliver).run _
    = (Action.each advance _ >>= fun _ => deliver).run _
  rw [heach]

end Client

/-! ## Tidy at every moment -/

variable {τ : Type} [Tracker τ] [Switchable τ]

/-- A group that a deed delivers was buffered before. -/
theorem Deed.buffer_of_groupOf? {p : Partition} {d : Deed τ} {group : List Record}
    (h : d.groupOf? p = some group) : d.before.buffer[p]? = some group := by
  cases d.fate p with
  | delivered t ht hp hbuf hadd hdel =>
      rw [← hdel]
      exact h
  | kept _ _ hdel | added _ _ _ hdel | revoked _ _ _ hdel | discarded _ _ _ hdel =>
      rw [hdel] at h
      cases h

namespace History

variable {tracker : τ} {ds : List (Deed τ)} {r : Run τ}

theorem tidy (h : History tracker ds r) : r.session.buffer.Tidy where
  nonempty p group hg := (h.stocked hg).1
  partition p group hg record hrecord := ((h.stocked hg).2 record hrecord).1
  room p group hg record hrecord := by
    have hne : record.offset ≠ Int64.maxValue := ((h.stocked hg).2 record hrecord).2
    have hle : record.offset ≤ Int64.maxValue := Int64.le_maxValue _
    exact Int64.lt_of_le_of_ne hle hne

/-- What a deed of the history delivers was tidy while it was buffered, and it still is. -/
theorem tidy_of_batch? (h : History tracker ds r) {d : Deed τ} (hd : d ∈ ds) {b : Batch}
    (hb : d.batch? = some b) : b.groups.Tidy := by
  obtain ⟨pre, post, hds⟩ := List.append_of_mem hd
  obtain ⟨r', hbefore, hsession⟩ := h.exists_before hds
  have htidy := hbefore.tidy
  rw [hsession] at htidy
  refine htidy.mono ?_
  intro p group hg
  have hgroup : d.groupOf? p = some group := by
    rw [Deed.groupOf?, hb, Option.bind_some, hg]
  exact Deed.buffer_of_groupOf? hgroup

/-- **The buffer is tidy, and no position overflows.** At every moment of every history, over any
    tracker, no group in the buffer is empty, each holds records of its own partition only, and
    behind each of its records there is room for a position. So the position behind the last record
    of a group is greater by one than its offset, and a fetch that would fail at an overflow does
    what a fetch does. No batch that is delivered has an empty group, and of every one it is the
    same to say that no group has a record, that there are no records and that there are no
    groups. -/
theorem buffer_tidy (h : History tracker ds r) :
    r.session.buffer.Tidy ∧
    (∀ (p : Partition) (group : List Record) (last : Record),
      r.session.buffer[p]? = some group → group.getLast? = some last →
        (last.offset + 1).toInt = last.offset.toInt + 1) ∧
    (∀ visiting : Visiting (List Record),
      (Client.checkedFetch visiting).run r.session.consumer.client =
        (Client.fetch visiting).run r.session.consumer.client) ∧
    (∀ d ∈ ds, ∀ b, d.batch? = some b →
      b.groups.Tidy ∧ (b.isEmpty = true ↔ b.count = 0) ∧ (b.count = 0 ↔ b.groups = ∅)) := by
  have htidy := h.tidy
  refine ⟨htidy, ?_, Client.run_checkedFetch htidy, ?_⟩
  · intro p group last hg hlast
    exact (offsetBehind?_of_lt (htidy.room p group hg last (List.mem_of_getLast? hlast))).2
  · intro d hd b hb
    have hbatch : b.groups.Tidy := h.tidy_of_batch? hd hb
    exact ⟨hbatch, b.isEmpty_iff_count_eq_zero, hbatch.recordCount_eq_zero_iff⟩

end History

/-! ## A run to the greatest offset -/

/-- A run in which a record is refused at the greatest offset and added right below it. After it has
    been delivered the tracker takes every partition for assigned, and a record is added that no
    poll can deliver. -/
def Run.toLastOffset : Run (Faulty Subscription) :=
  Run.fresh (Faulty.around (Subscription.empty .none)) .empty ⟨30000⟩
    [.request (.assign {orders 0}), .request (.seek (orders 0) 0),
      .request (.addRecord (order 0 Int64.maxValue)),
      .request (.addRecord (order 0 (Int64.maxValue - 1))), .poll,
      .switch (some .phantomAssigned) true, .request (.addRecord (order 1 7)), .poll]

/-- One record is delivered there, the position behind it is the greatest offset, and the record
    that cannot be delivered stays in a tidy buffer. -/
theorem Run.toLastOffset_tidy :
    (Run.toLastOffset.ahead 10).session.buffer.Tidy ∧
    (Run.toLastOffset.ahead 10).session.buffer = {(orders 1, [order 1 7])} ∧
    (Run.toLastOffset.deeds 10).filterMap Deed.batch? =
      [⟨{(orders 0, [order 0 (Int64.maxValue - 1)])}⟩] ∧
    (Run.toLastOffset.ahead 10).session.consumer.client.tracker.inner.assignment[orders 0]?.map
      (·.position) = some (some Int64.maxValue) := by
  refine ⟨(History.buffer_tidy (History.of_moves _ _ _ _ _ 10)).1, ?_⟩
  decide +kernel

end ScriptedConsumer
