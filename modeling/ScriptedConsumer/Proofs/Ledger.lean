import Mathlib.Data.List.Flatten
import ScriptedConsumer.Proofs.Effects

set_option autoImplicit false

/-! # Every record is accounted for

What became of the records that were added, over whole histories and for any tracker. For one
partition, all that was ever added is what was taken out of the buffer so far, in order, followed
by what is still in it. A deed takes out all that is buffered for the partition or nothing of it,
and it does so in one of three ways: it delivers it, it revokes it by a rebalance, or it finds that
the partition is not assigned.

What a deed took is read off the two sessions around it, so nothing can get lost unseen. -/

namespace ScriptedConsumer

variable {τ : Type}

/-- The records that wait for the next poll. -/
def Session.buffer (s : Session τ) : RecordMap := s.consumer.client.buffer

/-- The batch that a verdict gives, if it gives one. -/
def Verdict.batch? : Verdict → Option Batch
  | .ok (.batch b) => some b
  | _ => none

theorem Verdict.batch?_ofResult {α : Type} (display : α → Reply) (o : Except Failure α) :
    (Verdict.ofResult (fun a => .reply (display a)) o).batch? = none := by
  cases o <;> rfl

variable [Tracker τ] [Switchable τ]

namespace Deed

/-! ## What a deed adds and takes -/

/-- The call that the deed makes, if it makes one that succeeds. -/
def granted? (d : Deed τ) : Option Request :=
  match d with
  | make _ (.request r) => if d.succeeded then some r else none
  | _ => none

/-- The batch that the deed delivers, if it does. -/
def batch? (d : Deed τ) : Option Batch := d.verdict?.bind Verdict.batch?

/-- The tracker by which the deed sorts out the buffer, if it does. -/
def sortedBy? : Deed τ → Option τ
  | make .. => none
  | endPoll s .. => s.consumer.sortedBy?

/-- The record that the deed adds to a partition, if it does. -/
def addedTo (p : Partition) (d : Deed τ) : List Record :=
  match d.granted? with
  | some (.addRecord r) => if r.partition = p then [r] else []
  | _ => []

/-- What was buffered for a partition before the deed, if nothing is afterwards. -/
def taken (p : Partition) (d : Deed τ) : List Record :=
  if d.after.buffer.contains p then [] else d.before.buffer.getD p []

/-- The group of a partition in the batch that the deed delivers. -/
def groupOf? (p : Partition) (d : Deed τ) : Option (List Record) := d.batch?.bind (·.groups[p]?)

/-- What the deed delivers of a partition. -/
def deliveredOf (p : Partition) (d : Deed τ) : List Record := (d.groupOf? p).getD []

/-! ## Three ways to take records -/

/-- The deed is a poll that finds a partition assigned and returns all that it takes of it as one
    group. -/
def Delivers (p : Partition) (d : Deed τ) : Prop :=
  ∃ t, d.sortedBy? = some t ∧ Tracker.isAssigned t p = true ∧ d.groupOf? p = some (d.taken p)

/-- The deed is a rebalance that succeeds. -/
def Revokes (d : Deed τ) : Prop := ∃ ps, d.granted? = some (.rebalance ps)

/-- The deed is a poll that finds a partition not assigned. -/
def Discards (p : Partition) (d : Deed τ) : Prop :=
  ∃ t, d.sortedBy? = some t ∧ Tracker.isAssigned t p = false

/-! ## The buffer and one deed -/

theorem accepted?_of_granted? {d : Deed τ} {r : Request} (h : d.granted? = some r) :
    d.accepted? = some r := by
  rcases d with ⟨s, step⟩ | _
  · cases step with
    | request => exact h
    | _ => cases h
  · cases h

theorem buffer_make (s : Session τ) (step : Step) :
    (make s step).after.buffer =
      match (make s step).granted? with
      | some r => r.onBuffer s.buffer
      | none => s.buffer := by
  have hgranted (haccepted : (make s step).accepted? = none) : (make s step).granted? = none := by
    cases hg : (make s step).granted? with
    | none => rfl
    | some r =>
        rw [accepted?_of_granted? hg] at haccepted
        cases haccepted
  cases onClient_make s step with
  | untouched hstate hrefused =>
      rw [hgranted hrefused]
      exact congrArg Client.buffer hstate
  | requested r hr hstate hverdict =>
      have haccepted := accepted?_of_verdict? hr hverdict
      obtain ⟨herror, hok⟩ := Client.buffer_handle r s.consumer.client
      cases hres : ((Client.handle r).run s.consumer.client).result with
      | error e =>
          have hnone : (make s step).accepted? = none := by
            rw [haccepted, before, hres]
            rfl
          rw [hgranted hnone]
          exact (congrArg Client.buffer hstate).trans (herror e hres)
      | ok a =>
          have hsome : (make s step).accepted? = some r := by
            rw [haccepted, before, hres]
            rfl
          have hbuffer : (make s step).after.buffer = r.onBuffer s.buffer :=
            (congrArg Client.buffer hstate).trans (hok a hres)
          cases step with
          | request r' =>
              have hg : (make s (.request r')).granted? = some r := hsome
              rw [hg]
              exact hbuffer
          | subscribePattern text listener =>
              -- a subscription leaves the buffer alone
              obtain ⟨pattern, -, rfl⟩ := Option.map_eq_some_iff.1 hr
              exact hbuffer
          | _ => cases hr
  | fetched s' visiting shown hd => cases hd
  | switched s' fault on hd hstate =>
      have hnone : (make s step).accepted? = none := accepted?_of_request? (by rw [hd]; rfl)
      rw [hgranted hnone]
      exact (congrArg Client.buffer hstate).trans rfl

theorem batch?_make (s : Session τ) (step : Step) : (make s step).batch? = none := by
  cases hs : s.dropped with
  | true =>
      simp only [batch?, verdict?, Session.turn_of_dropped hs]
      cases step with
      | wakeup party | inject party _ =>
          cases party with
          | owner => rfl
          | handle => exact Verdict.batch?_ofResult (fun _ => .done) _
      | schedule party _ | scheduleNop party => cases party <;> rfl
      | _ => rfl
  | false =>
      simp only [batch?, verdict?, Session.turn_of_not_dropped hs]
      cases step with
      | request r => exact Verdict.batch?_ofResult id _
      | subscribePattern text listener =>
          dsimp only
          cases Pattern.compile? text with
          | none => rfl
          | some pattern => exact Verdict.batch?_ofResult id _
      | poll =>
          simp only [Session.beginPoll]
          cases (Consumer.beginPoll.run s.consumer).result <;> rfl
      | wakeup | inject | schedule | scheduleNop | close =>
          exact Verdict.batch?_ofResult (fun _ => .done) _
      | switch | drop | takeHandle | isClosed | bufferedCount | inspect => rfl

theorem batch?_endPoll (s : Session τ) (visiting : Visiting (List Record))
    (shown : Option (List Answer)) :
    (endPoll s visiting shown).batch? =
      ((Consumer.endPoll visiting).run s.consumer).result.toOption := by
  simp only [batch?, verdict?, Session.endPoll]
  cases ((Consumer.endPoll visiting).run s.consumer).result <;> rfl

/-- What a deed may do to the records of one partition. -/
inductive Fate (p : Partition) (d : Deed τ) : Prop
  | kept (hbuf : d.after.buffer[p]? = d.before.buffer[p]?) (hadd : d.addedTo p = [])
      (hdel : d.groupOf? p = none)
  | added (r : Record) (hbuf : d.after.buffer[p]? = some (d.before.buffer.getD p [] ++ [r]))
      (hadd : d.addedTo p = [r]) (hdel : d.groupOf? p = none)
  | revoked (how : d.Revokes) (hbuf : d.after.buffer[p]? = none) (hadd : d.addedTo p = [])
      (hdel : d.groupOf? p = none)
  | discarded (how : d.Discards p) (hbuf : d.after.buffer[p]? = none) (hadd : d.addedTo p = [])
      (hdel : d.groupOf? p = none)
  | delivered (t : τ) (ht : d.sortedBy? = some t) (hp : Tracker.isAssigned t p = true)
      (hbuf : d.after.buffer[p]? = none) (hadd : d.addedTo p = [])
      (hdel : d.groupOf? p = d.before.buffer[p]?)

theorem fate_make (p : Partition) (s : Session τ) (step : Step) : (make s step).Fate p := by
  have hbuf := buffer_make s step
  have hdel : (make s step).groupOf? p = none := by rw [groupOf?, batch?_make, Option.bind_none]
  cases hg : (make s step).granted? with
  | none =>
      rw [hg] at hbuf
      have hadd : (make s step).addedTo p = [] := by rw [addedTo, hg]
      refine .kept ?_ hadd hdel
      rw [hbuf, before]
  | some r =>
      rw [hg] at hbuf
      cases r with
      | addRecord record =>
          have hinsert : (make s step).after.buffer =
              s.buffer.insert record.partition (s.buffer.getD record.partition [] ++ [record]) :=
            hbuf
          by_cases hp : record.partition = p
          · subst hp
            have hadd : (make s step).addedTo record.partition = [record] := by
              simp only [addedTo, hg, if_true]
            refine .added record ?_ hadd hdel
            rw [hinsert, Std.ExtTreeMap.getElem?_insert_self, before]
          · have hadd : (make s step).addedTo p = [] := by
              simp only [addedTo, hg, if_neg hp]
            refine .kept ?_ hadd hdel
            rw [hinsert, Std.ExtTreeMap.getElem?_insert, if_neg (Partition.compare_ne_eq hp),
              before]
      | rebalance ps =>
          have hadd : (make s step).addedTo p = [] := by rw [addedTo, hg]
          refine .revoked ⟨ps, hg⟩ ?_ hadd hdel
          rw [hbuf]
          exact Std.ExtTreeMap.getElem?_empty
      | _ =>
          have hadd : (make s step).addedTo p = [] := by rw [addedTo, hg]
          refine .kept ?_ hadd hdel
          rw [hbuf]
          rfl

theorem fate_endPoll (p : Partition) (s : Session τ) (visiting : Visiting (List Record))
    (shown : Option (List Answer)) : (endPoll s visiting shown).Fate p := by
  have h := Consumer.buffer_endPoll visiting s.consumer
  have hgroup : (endPoll s visiting shown).groupOf? p =
      ((Consumer.endPoll visiting).run s.consumer).result.toOption.bind (·.groups[p]?) := by
    rw [groupOf?, batch?_endPoll]
  have hempty : (∅ : RecordMap)[p]? = none := Std.ExtTreeMap.getElem?_empty
  cases hs : s.consumer.sortedBy? with
  | none =>
      rw [hs] at h
      obtain ⟨⟨f, hr⟩, hbuf⟩ := h
      rw [hr] at hgroup
      have hkeep : (endPoll s visiting shown).after.buffer = s.buffer := hbuf
      refine .kept ?_ rfl hgroup
      rw [hkeep, before]
  | some t =>
      rw [hs] at h
      have hkey := Client.getElem?_filter_key s.buffer (Tracker.isAssigned t) p
      -- the deed may fail after it sorted out the buffer, and then what is left stays
      rcases h with ⟨f, hr, hbuf⟩ | ⟨hr, hbuf⟩
      · have hleft : (endPoll s visiting shown).after.buffer
            = s.buffer.filter fun p _ => Tracker.isAssigned t p := hbuf
        rw [hr] at hgroup
        rw [← hleft] at hkey
        cases hp : Tracker.isAssigned t p with
        | true =>
            rw [hp, if_pos rfl] at hkey
            exact .kept hkey rfl hgroup
        | false =>
            rw [hp, if_neg Bool.false_ne_true] at hkey
            exact .discarded ⟨t, hs, hp⟩ hkey rfl hgroup
      · have hout : (endPoll s visiting shown).after.buffer[p]? = none := by
          have hafter : (endPoll s visiting shown).after.buffer = ∅ := hbuf
          rw [hafter, hempty]
        have hbatch : (endPoll s visiting shown).groupOf? p
            = (s.buffer.filter fun p _ => Tracker.isAssigned t p)[p]? := by
          rw [hgroup, hr]
          rfl
        rw [hkey] at hbatch
        cases hp : Tracker.isAssigned t p with
        | true =>
            rw [hp, if_pos rfl] at hbatch
            exact .delivered t hs hp hout rfl hbatch
        | false =>
            rw [hp, if_neg Bool.false_ne_true] at hbatch
            exact .discarded ⟨t, hs, hp⟩ hout rfl hbatch

theorem fate (p : Partition) (d : Deed τ) : d.Fate p := by
  cases d with
  | make s step => exact fate_make p s step
  | endPoll s visiting shown => exact fate_endPoll p s visiting shown

/-! ## What follows for one deed -/

variable {p : Partition} {d : Deed τ}

theorem taken_of_kept (h : d.after.buffer[p]? = d.before.buffer[p]?) : d.taken p = [] := by
  unfold taken
  rw [Std.ExtTreeMap.contains_eq_isSome_getElem?, h, Std.ExtTreeMap.getD_eq_getD_getElem?]
  cases d.before.buffer[p]? with
  | none => simp
  | some group => simp

theorem taken_of_some {group : List Record} (h : d.after.buffer[p]? = some group) :
    d.taken p = [] := by
  unfold taken
  rw [Std.ExtTreeMap.contains_eq_isSome_getElem?, h]
  simp

theorem taken_of_none (h : d.after.buffer[p]? = none) :
    d.taken p = d.before.buffer.getD p [] := by
  unfold taken
  rw [Std.ExtTreeMap.contains_eq_isSome_getElem?, h]
  simp

theorem taken_eq (h : d.taken p ≠ []) : d.taken p = d.before.buffer.getD p [] := by
  cases hb : d.after.buffer[p]? with
  | none => exact taken_of_none hb
  | some group => exact absurd (taken_of_some hb) h

theorem granted?_of_mem_addedTo {r : Record} (h : r ∈ d.addedTo p) :
    d.granted? = some (.addRecord r) ∧ r.partition = p := by
  unfold addedTo at h
  split at h
  · next record hg =>
      by_cases hp : record.partition = p
      · rw [if_pos hp] at h
        rw [List.mem_singleton.1 h]
        exact ⟨hg, hp⟩
      · simp [hp] at h
  · simp at h

theorem partition_of_mem_addedTo {r : Record} (h : r ∈ d.addedTo p) : r.partition = p :=
  (granted?_of_mem_addedTo h).2

theorem offset_of_mem_addedTo {r : Record} (h : r ∈ d.addedTo p) : r.offset ≠ Int64.maxValue := by
  obtain ⟨-, a, hok⟩ :=
    client_of_accepted? (accepted?_of_granted? (granted?_of_mem_addedTo h).1)
  rw [Client.handle, (Action.bind_pure (Client.addRecord r) (fun _ => Reply.done) _).1,
    Client.run_addRecord] at hok
  intro hmax
  rw [if_pos hmax] at hok
  split at hok <;> simp [Except.map] at hok

/-- Nothing gets lost at a deed: what was buffered and what is added is what is taken and what is
    buffered then, in this order. -/
theorem buffer_append_addedTo (p : Partition) (d : Deed τ) :
    d.before.buffer.getD p [] ++ d.addedTo p = d.taken p ++ d.after.buffer.getD p [] := by
  have hget (b : RecordMap) : b.getD p [] = b[p]?.getD [] := Std.ExtTreeMap.getD_eq_getD_getElem?
  cases d.fate p with
  | kept hbuf hadd hdel =>
      rw [taken_of_kept hbuf, hadd, hget, hget, hbuf]
      simp
  | added r hbuf hadd hdel =>
      rw [taken_of_some hbuf, hadd, hget d.after.buffer, hbuf]
      simp
  | revoked how hbuf hadd | discarded how hbuf hadd | delivered t ht hp hbuf hadd =>
      rw [taken_of_none hbuf, hadd, hget d.after.buffer, hbuf]
      simp

/-- A deed that delivers a group takes it out of the buffer as a whole, and only if it finds the
    partition assigned. -/
theorem delivers_of_groupOf? {group : List Record} (h : d.groupOf? p = some group) :
    group = d.taken p ∧ d.Delivers p := by
  cases d.fate p with
  | delivered t ht hp hbuf hadd hdel =>
      have htaken : group = d.taken p := by
        rw [taken_of_none hbuf, Std.ExtTreeMap.getD_eq_getD_getElem?, ← hdel, h]
        rfl
      refine ⟨htaken, t, ht, hp, ?_⟩
      rw [h, htaken]
  | kept _ _ hdel | added _ _ _ hdel | revoked _ _ _ hdel | discarded _ _ _ hdel =>
      rw [hdel] at h
      cases h

/-- Records leave the buffer in three ways only. -/
theorem taken_cases (h : d.taken p ≠ []) : d.Delivers p ∨ d.Revokes ∨ d.Discards p := by
  cases d.fate p with
  | kept hbuf => exact absurd (taken_of_kept hbuf) h
  | added r hbuf => exact absurd (taken_of_some hbuf) h
  | revoked how => exact Or.inr (Or.inl how)
  | discarded how => exact Or.inr (Or.inr how)
  | delivered t ht hp hbuf hadd hdel =>
      rw [taken_of_none hbuf, Std.ExtTreeMap.getD_eq_getD_getElem?, ← hdel] at h
      cases hg : d.groupOf? p with
      | none => simp [hg] at h
      | some group => exact Or.inl (delivers_of_groupOf? hg).2

theorem deliveredOf_sublist (p : Partition) (d : Deed τ) :
    (d.deliveredOf p).Sublist (d.taken p) := by
  unfold deliveredOf
  cases hg : d.groupOf? p with
  | none => simp
  | some group =>
      have htaken : group = d.taken p := (delivers_of_groupOf? hg).1
      rw [← htaken]
      exact List.Sublist.refl _

theorem succeeded_of_granted? {r : Request} (h : d.granted? = some r) : d.succeeded = true := by
  rcases d with ⟨s, _ | _⟩ | _
  · simp only [granted?, Option.ite_none_right_eq_some] at h
    exact h.1
  all_goals simp [granted?] at h

theorem succeeded_of_batch? {b : Batch} (h : d.batch? = some b) : d.succeeded = true := by
  obtain ⟨v, hv, hb⟩ := Option.bind_eq_some_iff.1 h
  unfold succeeded
  rw [hv]
  cases v with
  | ok value => rfl
  | _ => simp [Verdict.batch?] at hb

/-- A deed that does not succeed takes records only of partitions that it finds not assigned. -/
theorem discards_of_not_succeeded (h : d.succeeded = false) (ht : d.taken p ≠ []) :
    d.Discards p := by
  rcases taken_cases ht with ⟨t, -, -, hg⟩ | ⟨ps, hg⟩ | hd
  · obtain ⟨b, hb, -⟩ := Option.bind_eq_some_iff.1 hg
    rw [succeeded_of_batch? hb] at h
    cases h
  · rw [succeeded_of_granted? hg] at h
    cases h
  · exact hd

end Deed

/-! ## What follows for whole histories -/

namespace History

variable {tracker : τ} {ds : List (Deed τ)} {r : Run τ}

/-- What was added to a partition is what was taken of it, followed by what is still buffered. -/
theorem addedTo_eq (h : History tracker ds r) (p : Partition) :
    ds.flatMap (·.addedTo p) = ds.flatMap (·.taken p) ++ r.session.buffer.getD p [] :=
  h.balance (fun _ => True) (·.buffer.getD p []) (fun _ _ => Std.ExtTreeMap.getD_empty)
    (fun _ => id) (fun d _ => d.buffer_append_addedTo p) trivial

/-- No group in the buffer is empty, and each of its records is of its partition and has an offset
    that leaves room for the next one. -/
theorem stocked (h : History tracker ds r) {p : Partition} {group : List Record}
    (hgroup : r.session.buffer[p]? = some group) :
    group ≠ [] ∧ ∀ record ∈ group, record.partition = p ∧ record.offset ≠ Int64.maxValue := by
  refine h.carries (P := fun _ s => ∀ (p : Partition) (group : List Record),
    s.buffer[p]? = some group → group ≠ [] ∧
      ∀ record ∈ group, record.partition = p ∧ record.offset ≠ Int64.maxValue)
    ?_ ?_ p group hgroup
  · intro catalog timeout p group hg
    have hempty : (∅ : RecordMap)[p]? = some group := hg
    rw [Std.ExtTreeMap.getElem?_empty] at hempty
    cases hempty
  · intro ds d ih p group hg
    cases d.fate p with
    | kept hbuf =>
        rw [hbuf] at hg
        exact ih p group hg
    | added record hbuf hadd =>
        rw [hbuf, Option.some.injEq] at hg
        subst hg
        have hrecord : record ∈ d.addedTo p := by simp [hadd]
        refine ⟨by simp, ?_⟩
        intro record' hmem
        rcases List.mem_append.1 hmem with hmem | hmem
        · rw [Std.ExtTreeMap.getD_eq_getD_getElem?] at hmem
          cases hb : d.before.buffer[p]? with
          | none => simp [hb] at hmem
          | some old =>
              rw [hb] at hmem
              exact (ih p old hb).2 record' hmem
        · rw [List.mem_singleton.1 hmem]
          exact ⟨Deed.partition_of_mem_addedTo hrecord, Deed.offset_of_mem_addedTo hrecord⟩
    | revoked _ hbuf | discarded _ hbuf | delivered _ _ _ hbuf =>
        rw [hbuf] at hg
        cases hg

/-- **No record is lost, delivered twice, reordered or delivered for another partition.** The
    records that were added to a partition are, in order, those that were taken out of its buffer
    so far and those that are still in it. What is taken out at once is all that was buffered: it is
    delivered as one group of one batch by a poll that finds the partition assigned, or dropped by
    a rebalance, or dropped by a poll that finds the partition not assigned. So what is delivered of
    the partition, over all polls, is part of what was added to it, in the order in which it was
    added; and a deed that does not succeed takes nothing but what it finds not assigned. -/
theorem records_accounted_for (h : History tracker ds r) (p : Partition) :
    ds.flatMap (·.addedTo p) = ds.flatMap (·.taken p) ++ r.session.buffer.getD p [] ∧
    (∀ d ∈ ds, d.taken p ≠ [] → d.taken p = d.before.buffer.getD p [] ∧
      (d.Delivers p ∨ d.Revokes ∨ d.Discards p)) ∧
    (∀ d ∈ ds, ∀ group, d.groupOf? p = some group → group = d.taken p ∧ d.Delivers p) ∧
    (ds.flatMap (·.deliveredOf p)).Sublist (ds.flatMap (·.addedTo p)) ∧
    (∀ record ∈ ds.flatMap (·.deliveredOf p), record.partition = p) ∧
    (∀ d ∈ ds, d.succeeded = false → d.taken p ≠ [] → d.Discards p) := by
  have hsub : (ds.flatMap (·.deliveredOf p)).Sublist (ds.flatMap (·.addedTo p)) := by
    have htaken : (ds.flatMap (·.deliveredOf p)).Sublist (ds.flatMap (·.taken p)) :=
      List.Sublist.flatMap_right ds fun d _ => d.deliveredOf_sublist p
    rw [h.addedTo_eq p]
    exact htaken.trans (List.sublist_append_left _ _)
  refine ⟨h.addedTo_eq p, ?_, ?_, hsub, ?_, ?_⟩
  · intro d _ ht
    exact ⟨d.taken_eq ht, d.taken_cases ht⟩
  · intro d _ group hg
    exact Deed.delivers_of_groupOf? hg
  · intro record hrec
    obtain ⟨d, -, hadd⟩ := List.mem_flatMap.1 (hsub.subset hrec)
    exact Deed.partition_of_mem_addedTo hadd
  · intro d _ hfail ht
    exact Deed.discards_of_not_succeeded hfail ht

end History

/-! ## A poll that drains the buffer under another one -/

/-- A run in which a poll task polls, after one of two partitions has been given up. -/
def Run.pollUnderPoll : Run Subscription :=
  Run.fresh (Subscription.empty .earliest) .empty ⟨30000⟩
    [.request (.assign {orders 0, orders 1}), .request (.seek (orders 0) 0),
      .request (.seek (orders 1) 0), .request (.addRecord (order 0 5)),
      .request (.addRecord (order 1 7)), .request (.addRecord (order 0 6)),
      .request (.assign {orders 0}), .schedule .owner [.poll], .poll]

/-- After eleven moves the inner poll has delivered both records of the partition that is left and
    dropped the record of the other one, and the outer poll is still to end. -/
theorem Run.pollUnderPoll_accounted_for :
    (Run.pollUnderPoll.deeds 11).flatMap (·.addedTo (orders 0)) =
        (Run.pollUnderPoll.deeds 11).flatMap (·.taken (orders 0)) ++
          (Run.pollUnderPoll.ahead 11).session.buffer.getD (orders 0) [] ∧
      (Run.pollUnderPoll.deeds 11).flatMap (·.addedTo (orders 0)) = [order 0 5, order 0 6] ∧
      (Run.pollUnderPoll.deeds 11).flatMap (·.deliveredOf (orders 0)) = [order 0 5, order 0 6] ∧
      (Run.pollUnderPoll.deeds 11).flatMap (·.taken (orders 1)) = [order 1 7] ∧
      (Run.pollUnderPoll.deeds 11).flatMap (·.deliveredOf (orders 1)) = [] := by
  refine ⟨(History.records_accounted_for (History.of_moves _ _ _ _ _ 11) (orders 0)).1, ?_⟩
  decide +kernel

end ScriptedConsumer
