import ScriptedConsumer.Proofs.Fetching
import ScriptedConsumer.Proofs.Ledger
import ScriptedConsumer.Proofs.Precedence

set_option autoImplicit false

/-! # Polls over a subscription

What a poll is to do is written down as a relation, `Client.PollSpec`, between the client that the
poll finds when its task has run, the verdict, and the client that it leaves. It speaks of one
partition at a time and knows no loop. The poll meets it at every moment of every history at which
the consumer is open and no signal is armed. -/

namespace ScriptedConsumer

namespace Client

/-! ## What a poll is to do -/

/-- How a poll is to change the progress on an assigned partition. It gets a position if it has
    none, and a reset that was pending has been applied then. Its position moves behind the last
    record that is delivered of it, unless the partition is paused or nothing is delivered of it. -/
structure Advances (c : Client Subscription) (p : Partition) (g g' : Progress) (offset : Int64) :
    Prop where
  eq : g' = { g with
    position := some offset
    pendingReset := if g.position.isNone then none else g.pendingReset }
  moved : ∀ last, (c.buffer.getD p []).getLast? = some last → c.paused.contains p = false →
    offset.toInt = last.offset.toInt + 1
  stayed : c.buffer.getD p [] = [] ∨ c.paused.contains p = true →
    g.position = some offset ∨ g.position = none ∧ c.resolve p g = .ok offset

/-- What a poll over a subscription is to come to. -/
inductive PollSpec (c : Client Subscription) : Verdict → Client Subscription → Prop
  /-- The first partition that has no position, and for which none can be found, is the failure. -/
  | unresolved (p : Partition) (e : Failure) (hu : c.Unresolved p e)
      (hfirst : ∀ q f, c.Unresolved q f → q = p ∨ p.Precedes q) : PollSpec c (.failed e) c
  /-- If there is none, the groups of the assigned partitions are delivered. Nothing stays in the
      buffer, and nothing else changes but the progress on the assigned partitions. -/
  | delivered (batch : Batch) (assignment : PartitionMap Progress)
      (hall : ∀ p e, ¬ c.Unresolved p e)
      (hgroups : ∀ p : Partition, batch.groups[p]? =
        if c.tracker.assignment.contains p then c.buffer[p]? else none)
      (hassigned : ∀ p : Partition, assignment.contains p = c.tracker.assignment.contains p)
      (hprogress : ∀ (p : Partition) (g : Progress), c.tracker.assignment[p]? = some g →
        ∃ g' offset, assignment[p]? = some g' ∧ c.Advances p g g' offset) :
      PollSpec c (.ok (.batch batch))
        { c with tracker := { c.tracker with assignment }, buffer := ∅ }

theorem PollSpec.buffer_eq {c c' : Client Subscription} {batch : Batch}
    (h : c.PollSpec (.ok (.batch batch)) c') {p : Partition} {group : List Record}
    (hgroup : batch.groups[p]? = some group) : c.buffer[p]? = some group := by
  cases h with
  | delivered _ _ hall hgroups hassigned hprogress =>
      rw [hgroups] at hgroup
      split at hgroup
      · exact hgroup
      · cases hgroup

/-- A partition that is assigned after a fetch was assigned before it, and has advanced. -/
theorem PollSpec.exists_advances {c c' : Client Subscription} {batch : Batch}
    (h : c.PollSpec (.ok (.batch batch)) c') {p : Partition} {g' : Progress}
    (hg' : c'.tracker.assignment[p]? = some g') :
    ∃ g offset, c.tracker.assignment[p]? = some g ∧ c.Advances p g g' offset ∧
      batch.groups[p]? = c.buffer[p]? := by
  cases h with
  | delivered _ assignment _ hgroups hassigned hprogress =>
      have hp := hassigned p
      rw [Std.ExtTreeMap.contains_eq_isSome_getElem?, Std.ExtTreeMap.contains_eq_isSome_getElem?,
        show assignment[p]? = some g' from hg'] at hp
      obtain ⟨g, hg⟩ := Option.isSome_iff_exists.1 hp.symm
      obtain ⟨g'', offset, hg'', hadvances⟩ := hprogress p g hg
      have hsame : g'' = g' := Option.some.inj (hg''.symm.trans hg')
      subst hsame
      refine ⟨g, offset, hg, hadvances, ?_⟩
      rw [hgroups, Std.ExtTreeMap.contains_eq_isSome_getElem?, hg]
      rfl

/-! ## A fetch does it -/

theorem toInt_add_one {offset : Int64} (h : offset ≠ Int64.maxValue) :
    (offset + 1).toInt = offset.toInt + 1 := by
  have hne : offset.toInt ≠ 2 ^ 63 - 1 := by
    intro he
    exact h (Int64.toInt_inj.1 he)
  have hlt : offset.toInt < 2 ^ 63 := offset.toInt_lt
  have hle : -2 ^ 63 ≤ offset.toInt := offset.le_toInt
  have hone : (1 : Int64).toInt = 1 := rfl
  rw [Int64.toInt_add, hone]
  exact Int.bmod_eq_of_le (by omega) (by omega)

/-- The position that a partition has or gets, before it moves behind any record. -/
theorem settled_eq {c : Client Subscription} {p : Partition} {g : Progress}
    (hall : ∀ p e, ¬ c.Unresolved p e) (hg : c.tracker.assignment[p]? = some g) :
    ∃ offset, (g.position = some offset ∨ g.position = none ∧ c.resolve p g = .ok offset) ∧
      c.settled p g = { g with
        position := some offset
        pendingReset := if g.position.isNone then none else g.pendingReset } := by
  cases hpos : g.position with
  | some offset =>
      have hne : g.position ≠ none := by simp [hpos]
      refine ⟨offset, Or.inl rfl, ?_⟩
      rw [settled_of_position hne, ← hpos]
      -- a partition that has a position keeps its pending reset, if it has one
      cases g
      cases hpos
      rfl
  | none =>
      cases hr : c.resolve p g with
      | error e =>
          have hu : c.Unresolved p e := ⟨g, hg, hpos, hr⟩
          exact absurd hu (hall p e)
      | ok offset => exact ⟨offset, Or.inr ⟨rfl, rfl⟩, settled_of_resolve hpos hr⟩

theorem advances_polled {c : Client Subscription} {p : Partition} {g : Progress}
    (hroom : ∀ record ∈ c.buffer.getD p [], record.offset ≠ Int64.maxValue)
    (hall : ∀ p e, ¬ c.Unresolved p e) (hg : c.tracker.assignment[p]? = some g) :
    ∃ offset, c.Advances p g (c.polled p g) offset := by
  obtain ⟨offset, hoffset, hsettled⟩ := settled_eq hall hg
  by_cases hpaused : c.paused.contains p = true
  · have hto : c.advancedTo p = none := by
      unfold advancedTo
      rw [if_pos hpaused]
    refine ⟨offset, ?_, ?_, ?_⟩
    · unfold polled advanced
      rw [hto, hsettled]
    · intro last _ hnot
      rw [hpaused] at hnot
      cases hnot
    · intro _
      exact hoffset
  · cases hlast : (c.buffer.getD p []).getLast? with
    | none =>
        have hto : c.advancedTo p = none := by simp [advancedTo, hlast]
        refine ⟨offset, ?_, ?_, ?_⟩
        · unfold polled advanced
          rw [hto, hsettled]
        · intro last h _
          rw [hlast] at h
          cases h
        · intro _
          exact hoffset
    | some last =>
        have hto : c.advancedTo p = some (last.offset + 1) := by
          simp [advancedTo, hlast, hpaused]
        refine ⟨last.offset + 1, ?_, ?_, ?_⟩
        · unfold polled advanced
          rw [hto, hsettled]
        · intro last' h _
          rw [hlast, Option.some.injEq] at h
          rw [← h]
          exact toInt_add_one (hroom last (List.mem_of_getLast? hlast))
        · intro h
          rcases h with h | h
          · simp [h] at hlast
          · exact absurd h hpaused

theorem pollSpec_fetch {c : Client Subscription}
    (hroom : ∀ p, ∀ record ∈ c.buffer.getD p [], record.offset ≠ Int64.maxValue)
    (visiting : Visiting (List Record)) :
    c.PollSpec (.ofResult .batch ((fetch visiting).run c).result)
      ((fetch visiting).run c).state := by
  rcases fetch_cases visiting c with ⟨p, e, hu, hfirst, hres, hstate⟩ | ⟨hall, hres, hstate⟩
  · rw [hres, hstate]
    refine .unresolved p e hu ?_
    intro q f hq
    rw [Partition.precedes_iff]
    exact hfirst q f hq
  · rw [hres, hstate]
    refine .delivered ⟨c.deliverable⟩ (c.tracker.assignment.map c.polled) hall
      c.getElem?_deliverable ?_ ?_
    · intro p
      exact Std.ExtTreeMap.contains_map
    · intro p g hg
      obtain ⟨offset, h⟩ := advances_polled (hroom p) hall hg
      refine ⟨c.polled p g, offset, ?_, h⟩
      rw [Std.ExtTreeMap.getElem?_map, hg, Option.map_some]

end Client

/-! ## So does every poll of a history -/

namespace History

variable {policy : ResetPolicy} {ds : List (Deed Subscription)} {r : Run Subscription}

theorem room (h : History (Subscription.empty policy) ds r) (p : Partition) :
    ∀ record ∈ r.session.buffer.getD p [], record.offset ≠ Int64.maxValue := by
  intro record hrecord
  rw [Std.ExtTreeMap.getD_eq_getD_getElem?] at hrecord
  cases hp : r.session.buffer[p]? with
  | none => simp [hp] at hrecord
  | some group =>
      rw [hp, Option.getD_some] at hrecord
      exact ((h.stocked hp).2 record hrecord).2

/-- **A poll is what it is said to be.** At every moment of every history at which a poll has run
    its task, the consumer is open and no signal is armed, the poll is answered with the verdict of
    the specification and leaves the client of the specification; the signals, the queue and the
    rest of the session stay, and the script that polled goes on. What is delivered of a partition
    are the records added to it since something was last taken of it, in the order in which they
    were added. -/
theorem poll_as_specified (h : History (Subscription.empty policy) ds r) {w : Waiting}
    {waiting : List Waiting} (htodo : r.todo = []) (hwaiting : r.waiting = w :: waiting)
    (hready : r.session.consumer.fetchesNow = true) :
    ∃ verdict client events,
      r.next? = some
        { session := { r.session with consumer := { r.session.consumer with client } }
          todo := w.todo
          answers := w.answers ++ [.of verdict false (if w.showsTask then some r.answers else none)]
          waiting := waiting
          events := r.events ++ events
          visits := fun n => r.visits (n + 1) } ∧
      r.session.consumer.client.PollSpec verdict client ∧
      ∀ batch, verdict = .ok (.batch batch) → ∀ (p : Partition) (group : List Record),
        batch.groups[p]? = some group →
          ds.flatMap (·.addedTo p) = ds.flatMap (·.taken p) ++ group := by
  have hspec := Client.pollSpec_fetch h.room (r.visits 0)
  obtain ⟨hres, hstate⟩ := Consumer.run_endPoll_of_fetchesNow (r.visits 0) hready
  refine ⟨_, _, ((Consumer.endPoll (r.visits 0)).run r.session.consumer).events, ?_, hspec, ?_⟩
  · rcases r with ⟨session, todo, answers, waits, events, visits⟩
    subst htodo hwaiting
    simp only [Run.next?, Session.endPoll, hres, hstate]
  · intro batch hbatch p group hgroup
    rw [hbatch] at hspec
    have hbuf : r.session.buffer[p]? = some group := hspec.buffer_eq hgroup
    rw [h.addedTo_eq p, Std.ExtTreeMap.getD_eq_getD_getElem?, hbuf, Option.getD_some]

end History

/-! ## A poll that meets every case -/

/-- A run that is about to end a poll on four partitions: one with records, one with a record but
    paused, one with a commit only, and one with a pending reset. A fifth one with a record was
    given up. -/
def Run.pollOfFour : Run Subscription :=
  Run.fresh (Subscription.empty .none) .empty ⟨30000⟩
    [.request (.assign {orders 0, orders 1, orders 2, orders 3, orders 4}),
      .request (.seek (orders 0) 10), .request (.addRecord (order 0 10)),
      .request (.addRecord (order 0 12)), .request (.seek (orders 1) 3),
      .request (.addRecord (order 1 3)), .request (.pause [orders 1]),
      .request (.commitSyncOffsets {(orders 2, Commit.ofOffset 40)}),
      .request (.scriptEnds {(orders 3, 99)}), .request (.seekToEnd [orders 3]),
      .request (.addRecord (order 4 7)),
      .request (.assign {orders 0, orders 1, orders 2, orders 3}), .poll]

/-- The poll meets its specification there: it delivers both groups of assigned partitions, and it
    leaves the four positions that it should. -/
theorem Run.pollOfFour_as_specified :
    (∃ verdict client, (Run.pollOfFour.ahead 13).session.consumer.client.PollSpec verdict client ∧
      (Run.pollOfFour.ahead 14).session.consumer.client = client) ∧
    (Run.pollOfFour.deeds 14).flatMap (·.deliveredOf (orders 0)) = [order 0 10, order 0 12] ∧
    (Run.pollOfFour.deeds 14).flatMap (·.deliveredOf (orders 1)) = [order 1 3] ∧
    (Run.pollOfFour.deeds 14).flatMap (·.deliveredOf (orders 4)) = [] ∧
    (Run.pollOfFour.ahead 14).session.consumer.client.tracker.assignment.toList.map
        (fun e => (e.1.index, e.2.position)) =
      [(0, some 13), (1, some 3), (2, some 40), (3, some 99)] := by
  refine ⟨?_, by decide +kernel⟩
  obtain ⟨verdict, client, events, hnext, hspec, -⟩ :=
    History.poll_as_specified
      (History.of_moves _ _ _ _ _ 13 : History _ (Run.pollOfFour.deeds 13) _)
      rfl rfl (by decide +kernel)
  refine ⟨verdict, client, hspec, ?_⟩
  show ((Run.pollOfFour.ahead 13).next?.getD (Run.pollOfFour.ahead 13)).session.consumer.client =
    client
  rw [show (Run.pollOfFour.ahead 13).next? = _ from hnext]
  rfl

end ScriptedConsumer
