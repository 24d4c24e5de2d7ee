import ScriptedConsumer.Proofs.Fetching
import ScriptedConsumer.Proofs.Ledger
import ScriptedConsumer.Proofs.Refusals

set_option autoImplicit false

/-! # Polls over a tracker that refuses

What a poll leaves behind that fails inside the tracker. The tracker is one around a subscription,
and all that is wrong with it is that some of its methods are refused. A fetch asks first, seeks
then, sorts out the buffer and moves positions last. A refusal while it asks, or of the first seek,
leaves everything as it was, and a seek that is refused is refused the first time. But when moving a
position is refused, the seeks have been made and the buffer has been sorted out, and nothing takes
that back: `Deed.interrupted_poll` says when such a poll has changed something. -/

namespace ScriptedConsumer

/-! ## Refusals told apart -/

theorem Method.eq_of_refusal_eq {m : Method} (h : m.refusal = Method.setPosition.refusal) :
    m = .setPosition := by
  cases m <;> first | rfl | simp [refusal, name] at h

namespace Client

/-! ## The client over the subscription inside -/

/-- The client with the subscription that its tracker is built around. -/
def bare (c : Client (Faulty Subscription)) : Client Subscription :=
  ⟨c.tracker.inner, c.catalog, c.buffer, c.paused, c.beginnings, c.ends⟩

/-- The client with everything but its faults replaced. -/
def rebuilt (b : Client Subscription) (c : Client (Faulty Subscription)) :
    Client (Faulty Subscription) :=
  ⟨{ c.tracker with inner := b.tracker }, b.catalog, b.buffer, b.paused, b.beginnings, b.ends⟩

variable {c : Client (Faulty Subscription)}

/-- A method of the tracker that is not refused does what it does to the subscription inside. -/
theorem run_onTracker_obey {method : Method} (act : Action Subscription Unit)
    (h : c.tracker.has (.refuse method) = false) :
    (onTracker (Faulty.obey method act)).run c =
      (Action.within bare rebuilt (onTracker act)).run c := by
  unfold onTracker
  rw [Action.run_within, Faulty.run_obey, h, if_neg Bool.false_ne_true]
  rfl

/-- A refused method changes nothing. -/
theorem run_onTracker_refused {method : Method} (act : Action Subscription Unit)
    (h : c.tracker.has (.refuse method) = true) :
    (onTracker (Faulty.obey method act)).run c = ⟨.error method.refusal, c, []⟩ := by
  unfold onTracker
  rw [Action.run_within, Faulty.run_obey, h, if_pos rfl]

theorem trimmed_rebuilt (h : c.tracker.Honest) (b : Client Subscription) :
    (rebuilt b c).trimmed = rebuilt b.trimmed c := by
  have hassigned (p : Partition) :
      Tracker.isAssigned (rebuilt b c).tracker p = Tracker.isAssigned b.tracker p :=
    Faulty.isAssigned_of_honest (t := (rebuilt b c).tracker) h p
  unfold trimmed
  simp only [hassigned]
  rfl

/-! ## Asking -/

/-- A question is refused, or answered by the subscription inside. -/
theorem answer_cases (t : Faulty Subscription) {α : Type} (method : Method)
    (question : Subscription → Except Failure α) :
    t.answer method question = .error method.refusal ∨
      t.answer method question = question t.inner := by
  unfold Faulty.answer
  split
  · exact .inl rfl
  · exact .inr rfl

/-- Where a partition starts is what the subscription inside says, or a question is refused. -/
theorem origin_cases (h : c.tracker.Honest) (p : Partition) :
    (∃ m : Method, m ≠ .setPosition ∧ c.origin p = .error m.refusal) ∨
      c.origin p = c.bare.origin p := by
  have hforget : c.tracker.has .forgetResetPolicy = false := Faulty.has_eq_false h _ (by simp)
  have hneeded : Tracker.isResetNeeded c.tracker p = .error Method.isResetNeeded.refusal ∨
      Tracker.isResetNeeded c.tracker p = Tracker.isResetNeeded c.bare.tracker p :=
    answer_cases c.tracker .isResetNeeded (Tracker.isResetNeeded · p)
  have hpolicy : Tracker.resetPolicy c.tracker p = .error Method.resetPolicy.refusal ∨
      Tracker.resetPolicy c.tracker p = Tracker.resetPolicy c.bare.tracker p := by
    have hasked : Tracker.resetPolicy c.tracker p =
        c.tracker.answer .resetPolicy (Tracker.resetPolicy · p) := by
      show (c.tracker.answer .resetPolicy fun inner =>
        if c.tracker.has .forgetResetPolicy then .ok none else Tracker.resetPolicy inner p) = _
      rw [hforget]
      rfl
    rw [hasked]
    exact answer_cases c.tracker .resetPolicy (Tracker.resetPolicy · p)
  have hcommitted : Tracker.committed c.tracker p = .error Method.committed.refusal ∨
      Tracker.committed c.tracker p = Tracker.committed c.bare.tracker p :=
    answer_cases c.tracker .committed (Tracker.committed · p)
  unfold origin
  rcases hneeded with hneeded | hneeded
  · rw [hneeded]
    exact .inl ⟨.isResetNeeded, by simp, rfl⟩
  · rw [hneeded]
    cases Tracker.isResetNeeded c.bare.tracker p with
    | error e => exact .inr rfl
    | ok needed =>
        cases needed with
        | true =>
            rcases hpolicy with hpolicy | hpolicy
            · rw [hpolicy]
              exact .inl ⟨.resetPolicy, by simp, rfl⟩
            · rw [hpolicy]
              exact .inr rfl
        | false =>
            rcases hcommitted with hcommitted | hcommitted
            · rw [hcommitted]
              exact .inl ⟨.committed, by simp, rfl⟩
            · rw [hcommitted]
              exact .inr rfl

/-- What is found out about a partition is what the subscription inside says, or a question is
    refused. -/
theorem found_cases (h : c.tracker.Honest) (p : Partition) :
    (∃ m : Method, m ≠ .setPosition ∧ c.found p = .error m.refusal) ∨
      c.found p = c.bare.found p := by
  unfold found
  rcases origin_cases h p with ⟨m, hm, horigin⟩ | horigin
  · rw [horigin]
    exact .inl ⟨m, hm, rfl⟩
  · rw [horigin]
    exact .inr rfl

theorem missing_of_honest (h : c.tracker.Honest) :
    Tracker.missing c.tracker = Tracker.missing c.bare.tracker := by
  have hmissing : c.tracker.has .noMissing = false := Faulty.has_eq_false h _ (by simp)
  show (if c.tracker.has .noMissing then ∅ else Tracker.missing c.tracker.inner) = _
  rw [hmissing, if_neg Bool.false_ne_true]
  rfl

/-- A partition at which the asking stops gives no failure that moving a position could give. -/
theorem ne_of_found_error (h : c.tracker.Honest) {p : Partition} {e : Failure}
    (hp : p ∈ (Tracker.missing c.bare.tracker).toList) (he : c.found p = .error e) :
    e ≠ Method.setPosition.refusal := by
  rintro rfl
  rcases found_cases h p with ⟨m, hm, hfound⟩ | hfound
  · rw [hfound, Except.error.injEq] at he
    exact hm (Method.eq_of_refusal_eq he)
  · rw [hfound] at he
    obtain ⟨g, -, -, hr⟩ := unresolved_iff.2 ⟨hp, he⟩
    rcases resolve_error hr with hr | hr | hr <;> cases hr

/-- Where every partition is found, the subscription inside finds all of them as well. -/
theorem map_found_bare (h : c.tracker.Honest) {ps : List Partition}
    {starts : List (Partition × Int64)} (hmap : ps.map c.found = starts.map .ok) :
    ps.map c.bare.found = starts.map .ok := by
  rw [← hmap]
  refine List.map_congr_left ?_
  intro p hp
  rcases found_cases h p with ⟨m, -, hrefused⟩ | hfound
  · exact absurd hrefused (found_ne_error_of_map hmap hp m.refusal)
  · exact hfound.symm

/-! ## Seeking -/

/-- Seeking wherever a position was found: the first seek is refused and nothing changes, or every
    partition without a position is given one, and nothing else changes. -/
theorem run_seeks_interrupted {starts : List (Partition × Int64)}
    (hmap : (Tracker.missing c.bare.tracker).toList.map c.bare.found = starts.map .ok) :
    let seekAll := Action.each (fun (p, offset) => onTracker (Tracker.seek p offset)) starts
    ((seekAll.run c).result = .error Method.seek.refusal ∧ (seekAll.run c).state = c) ∨
    ((seekAll.run c).result = .ok () ∧
      (seekAll.run c).state = rebuilt (c.bare.adjusted c.bare.settled) c) := by
  obtain ⟨hok, hmoved⟩ := run_seeks (map_fst_of_found hmap) (found_of_map hmap)
  let seek (start : Partition × Int64) : Action Subscription Unit :=
    Subscription.change start.1 (·.seek start.2)
  by_cases hrefused : c.tracker.has (.refuse .seek) = true
  · rcases starts with _ | ⟨start, rest⟩
    · -- there is nothing to seek
      have hsame : c.bare = c.bare.adjusted c.bare.settled := hmoved
      refine .inr ⟨rfl, ?_⟩
      rw [← hsame]
      rfl
    · have hfirst := run_onTracker_refused (seek start) hrefused
      refine .inl ⟨?_, ?_⟩
      all_goals
        rw [Action.each_cons]
        exact congrArg _ (Action.run_bind_error hfirst _)
  · have heach := Action.run_each_within bare rebuilt
      (I := fun c' => c'.tracker.faults = c.tracker.faults)
      (f := fun start => onTracker (Faulty.obey .seek (seek start)))
      (g := fun start => onTracker (seek start)) (fun _ => rfl)
      (fun _ _ => rfl) (fun _ _ _ => rfl) (fun _ _ hc' => hc') ?_ starts (s := c) rfl
    · refine .inr ?_
      show ((Action.each (fun start => onTracker (Faulty.obey .seek (seek start))) starts).run
        c).result = .ok () ∧ ((Action.each (fun start => onTracker (Faulty.obey .seek (seek start)))
          starts).run c).state = _
      rw [heach]
      exact ⟨hok, congrArg (rebuilt · c) hmoved⟩
    · intro start c' hc'
      refine run_onTracker_obey (seek start) ?_
      rw [Faulty.has, hc', ← Bool.not_eq_true]
      exact hrefused

/-- Either asking or the first seek fails, and nothing changes; or every partition without a
    position is given one, and nothing else changes. -/
theorem settle_interrupted (h : c.tracker.Honest) :
    (∃ e, e ≠ Method.setPosition.refusal ∧ (settle.run c).result = .error e ∧
      (settle.run c).state = c) ∨
    ((∀ p e, ¬ c.bare.Unresolved p e) ∧ (settle.run c).result = .ok () ∧
      (settle.run c).state = rebuilt (c.bare.adjusted c.bare.settled) c) := by
  have hrun := run_settle c
  rw [missing_of_honest h] at hrun
  rcases Action.mapM_except c.found (Tracker.missing c.bare.tracker).toList with
    ⟨starts, hok, hmap⟩ | ⟨pre, p, post, e, hsplit, -, hp, herr⟩
  · rw [hok] at hrun
    obtain ⟨hres, hstate⟩ := hrun
    have hinside := map_found_bare h hmap
    rw [hres, hstate]
    rcases run_seeks_interrupted hinside with ⟨hfail, hsame⟩ | ⟨hseek, hmoved⟩
    · refine .inl ⟨Method.seek.refusal, ?_, hfail, hsame⟩
      intro heq
      cases Method.eq_of_refusal_eq heq
    · refine .inr ⟨?_, hseek, hmoved⟩
      intro p e hu
      obtain ⟨hp, he⟩ := unresolved_iff.1 hu
      exact found_ne_error_of_map hinside hp e he
  · have hmem : p ∈ (Tracker.missing c.bare.tracker).toList := by simp [hsplit]
    rw [herr] at hrun
    exact .inl ⟨e, ne_of_found_error h hmem hp, hrun⟩

/-! ## Moving positions -/

/-- Where moving positions is refused, a group moves none: the refusal is met, or there was nothing
    to move. -/
theorem run_advance_refused (h : c.tracker.has (.refuse .setPosition) = true)
    (group : Partition × List Record) :
    ((advance group).run c).state = c ∧
      (((advance group).run c).result = .ok () ∨
        ((advance group).run c).result = .error Method.setPosition.refusal) := by
  unfold advance
  rw [Action.run_get_bind]
  rcases group.2.getLast? with _ | last
  · exact ⟨rfl, .inl rfl⟩
  · by_cases hp : c.paused.contains group.1 = true
    · simp only [hp]
      exact ⟨rfl, .inl rfl⟩
    · have hrun := run_onTracker_refused (Subscription.setPosition group.1 (last.offset + 1)) h
      simp only [hp]
      exact ⟨congrArg Outcome.state hrun, .inr (congrArg Outcome.result hrun)⟩

/-- Where it is not, a group moves what it moves over the subscription inside. -/
theorem run_advance_obeyed (h : c.tracker.has (.refuse .setPosition) = false)
    (group : Partition × List Record) :
    (advance group).run c = (Action.within bare rebuilt (advance group)).run c := by
  have hpaused : c.bare.paused = c.paused := rfl
  rw [Action.run_within]
  unfold advance
  rw [Action.run_get_bind, Action.run_get_bind, hpaused]
  rcases group.2.getLast? with _ | last
  · rfl
  · by_cases hp : c.paused.contains group.1 = true
    · simp only [hp]
      rfl
    · simp only [hp]
      exact run_onTracker_obey (Subscription.setPosition group.1 (last.offset + 1)) h

/-- The client of a fetch that met a refusal when it began to move positions. -/
def halted (c : Client (Faulty Subscription)) : Client (Faulty Subscription) :=
  rebuilt c.bare.placed c

/-- A fetch fails with nothing changed, or it fails when it begins to move positions, or it ends
    well. -/
theorem fetch_interrupted (h : c.tracker.Honest) (visiting : Visiting (List Record)) :
    (∃ e, e ≠ Method.setPosition.refusal ∧ ((fetch visiting).run c).result = .error e ∧
      ((fetch visiting).run c).state = c) ∨
    ((∀ p e, ¬ c.bare.Unresolved p e) ∧
      ((fetch visiting).run c).result = .error Method.setPosition.refusal ∧
      ((fetch visiting).run c).state = c.halted) ∨
    (∃ b, ((fetch visiting).run c).result = .ok b) := by
  rcases settle_interrupted h with ⟨e, hne, hfail, hsame⟩ | ⟨hall, hok, hmoved⟩
  · obtain ⟨hres, hstate⟩ := run_fetch_of_unsettled visiting hfail
    exact .inl ⟨e, hne, hres, hstate.trans hsame⟩
  · obtain ⟨hres, hstate⟩ := run_fetch_of_settled visiting hok
    have htrim : (settle.run c).state.trimmed = c.halted := by
      rw [hmoved, trimmed_rebuilt h, trimmed_adjusted_settled]
      rfl
    rw [htrim] at hres hstate
    let entries := visiting.entries c.halted.buffer
    have ends (u : Unit) (hadv : ((Action.each advance entries).run c.halted).result = .ok u) :
        ∃ b, ((fetch visiting).run c).result = .ok b := by
      obtain ⟨hdel, -⟩ := Action.bind_of_ok hadv fun _ => deliver
      exact ⟨_, hres.trans hdel⟩
    by_cases hrefused : c.tracker.has (.refuse .setPosition) = true
    · -- the first position that is to be moved is the end of the poll
      obtain ⟨hstill, hadv | hadv⟩ :=
        Action.run_each_of_still (run_advance_refused (c := c.halted) hrefused) entries
      · exact .inr (.inr (ends () hadv))
      · obtain ⟨hfail, hleft⟩ := Action.bind_of_error hadv fun _ => deliver
        exact .inr (.inl ⟨hall, hres.trans hfail, hstate.trans (hleft.trans hstill)⟩)
    · obtain ⟨hadv, -⟩ := run_advances visiting (position_placed hall)
      have hsame := Action.run_each_within bare rebuilt
        (I := fun c' => c'.tracker.faults = c.tracker.faults)
        (f := advance) (g := advance) (fun _ => rfl)
        (fun _ _ => rfl) (fun _ _ _ => rfl) (fun _ _ hc' => hc') ?_ entries (s := c.halted) rfl
      · exact .inr (.inr (ends () ((congrArg Outcome.result hsame).trans hadv)))
      · intro group c' hc'
        refine run_advance_obeyed ?_ group
        rw [Faulty.has, hc', ← Bool.not_eq_true]
        exact hrefused

/-! ## What is left -/

/-- A fetch that is halted has changed nothing just if there was nothing to settle and nothing to
    sort out. -/
theorem halted_eq_iff (h : c.tracker.Honest) (hall : ∀ p e, ¬ c.bare.Unresolved p e) :
    c.halted = c ↔
      (∀ p, p ∉ Tracker.missing c.tracker) ∧
      (∀ (p : Partition) (group : List Record), c.buffer[p]? = some group →
        Tracker.isAssigned c.tracker p = true) := by
  rw [missing_of_honest h]
  simp only [Faulty.isAssigned_of_honest h]
  constructor
  · intro hsame
    have hplaced : c.bare.placed = c.bare := congrArg bare hsame
    refine ⟨?_, ?_⟩
    · intro p hp
      obtain ⟨g, hg, hnone⟩ := Subscription.mem_missing.1 hp
      have hadjust : c.bare.tracker.adjust c.bare.settled = c.bare.tracker :=
        congrArg tracker hplaced
      -- the partition would have a position now
      have hlookup : (c.bare.tracker.adjust c.bare.settled).assignment[p]? =
          some (c.bare.settled p g) := by
        rw [Subscription.getElem?_adjust, hg, Option.map_some]
      rw [hadjust, hg, Option.some.injEq] at hlookup
      have hpos := position_settled hall hg
      rw [← hlookup] at hpos
      exact hpos hnone
    · intro p group hgroup
      have hkept : c.bare.deliverable = c.bare.buffer := congrArg buffer hplaced
      have hlookup : c.bare.deliverable[p]? = some group := by
        rw [hkept]
        exact hgroup
      rw [getElem?_deliverable, Option.ite_none_right_eq_some] at hlookup
      exact hlookup.1
  · rintro ⟨hpos, hassigned⟩
    have hadjusted : c.bare.adjusted c.bare.settled = c.bare := by
      refine (adjusted_congr ?_).trans c.bare.adjusted_id
      intro p g hg
      refine settled_of_position ?_
      intro hnone
      exact hpos p (Subscription.mem_missing.2 ⟨g, hg, hnone⟩)
    have hkept : c.bare.deliverable = c.bare.buffer := by
      refine Std.ExtTreeMap.ext_getElem? ?_
      intro p
      rw [getElem?_deliverable]
      cases hgroup : c.bare.buffer[p]? with
      | none => exact ite_self _
      | some group => exact if_pos (hassigned p group hgroup)
    have hplaced : c.bare.placed = c.bare := by
      unfold placed
      rw [hadjusted, hkept]
    unfold halted
    rw [hplaced]
    rfl

end Client

/-! ## Polls -/

namespace Deed

variable {s : Session (Faulty Subscription)} {visiting : Visiting (List Record)}
  {shown : Option (List Answer)} {f : Failure}

/-- **What a poll leaves that fails inside the tracker.** The tracker is one around a subscription
    whose methods may be refused, and the poll obeys no signal. If it fails otherwise than by moving
    a position, the session is as it was when the poll's task had run. If moving a position is
    refused, the partitions without a position have been given theirs, and the records of partitions
    that are not assigned have been dropped; so the session is as it was just if there were no such
    partitions and no such records. -/
theorem interrupted_poll (hhonest : s.consumer.client.tracker.Honest)
    (hready : s.consumer.fetchesNow = true)
    (hfail : (endPoll s visiting shown).failure? = some f) :
    ((endPoll s visiting shown).after = s ↔
      f ≠ Method.setPosition.refusal ∨
      ((∀ p, p ∉ Tracker.missing s.consumer.client.tracker) ∧
        ∀ (p : Partition) (group : List Record), s.buffer[p]? = some group →
          Tracker.isAssigned s.consumer.client.tracker p = true)) ∧
    (f = Method.setPosition.refusal → (endPoll s visiting shown).after =
      { s with consumer := { s.consumer with client := s.consumer.client.halted } }) := by
  obtain ⟨hres, hstate⟩ := Consumer.run_endPoll_of_fetchesNow visiting hready
  have hafter : (endPoll s visiting shown).after = { s with consumer :=
      { s.consumer with client := ((Client.fetch visiting).run s.consumer.client).state } } :=
    congrArg (fun consumer => { s with consumer }) hstate
  have hfetch : ((Client.fetch visiting).run s.consumer.client).result = .error f := by
    rw [← hres]
    exact Verdict.failure?_ofResult.1 hfail
  rw [hafter]
  rcases Client.fetch_interrupted hhonest visiting with
    ⟨e, hne, hfail', hsame⟩ | ⟨hall, hfail', hhalted⟩ | ⟨b, hok⟩
  · rw [hfetch, Except.error.injEq] at hfail'
    subst hfail'
    rw [hsame]
    exact ⟨iff_of_true rfl (.inl hne), fun heq => absurd heq hne⟩
  · rw [hfetch, Except.error.injEq] at hfail'
    subst hfail'
    rw [hhalted]
    refine ⟨?_, fun _ => rfl⟩
    have hsession : ({ s with consumer :=
        { s.consumer with client := s.consumer.client.halted } } : Session (Faulty Subscription))
          = s ↔ s.consumer.client.halted = s.consumer.client := by
      constructor
      · intro hsame
        exact congrArg (·.consumer.client) hsame
      · intro hsame
        rw [hsame]
    rw [hsession, Client.halted_eq_iff hhonest hall]
    constructor
    · exact .inr
    · rintro (hne | hidle)
      · exact absurd rfl hne
      · exact hidle
  · rw [hfetch] at hok
    cases hok

end Deed

/-! ## A poll that is refused early, and late -/

/-- A session with one partition assigned that has no position and a record, a record of a partition
    that was given up, and a method of the tracker refused. -/
def Session.refusing (method : Method) : Session (Faulty Subscription) :=
  ((Run.fresh (Faulty.around (Subscription.empty .earliest)) .empty ⟨30000⟩
    [.request (.assign {orders 0, orders 1}), .request (.scriptBeginnings {(orders 0, 5)}),
      .request (.addRecord (order 0 7)), .request (.addRecord (order 1 9)),
      .request (.assign {orders 0}), .switch (some (.refuse method)) true]).ahead 6).session

/-- With seeks refused the poll changes nothing. With moves of positions refused it leaves the
    partition at the beginning, and the other record is gone. -/
theorem Session.refusing_interrupted :
    (Deed.endPoll (Session.refusing .seek) .sorted none).after = Session.refusing .seek ∧
    (Deed.endPoll (Session.refusing .setPosition) .sorted none).after ≠
      Session.refusing .setPosition ∧
    (Deed.endPoll (Session.refusing .setPosition) .sorted none).after.buffer =
      {(orders 0, [order 0 7])} ∧
    Tracker.position (Deed.endPoll (Session.refusing .setPosition) .sorted none
      ).after.consumer.client.tracker (orders 0) = .ok (some 5) := by
  have honest (method : Method) (h : (Session.refusing method).consumer.client.tracker.faults =
      [.refuse method]) : (Session.refusing method).consumer.client.tracker.Honest := by
    intro fault hfault
    rw [h] at hfault
    exact ⟨method, List.mem_singleton.1 hfault⟩
  have hseekfails : (Deed.endPoll (Session.refusing .seek) .sorted none).failure? =
      some Method.seek.refusal := by decide +kernel
  have hmovefails : (Deed.endPoll (Session.refusing .setPosition) .sorted none).failure? =
      some Method.setPosition.refusal := by decide +kernel
  obtain ⟨hseek, -⟩ := Deed.interrupted_poll (honest .seek (by decide +kernel))
    (by decide +kernel) hseekfails
  obtain ⟨hmove, -⟩ := Deed.interrupted_poll (honest .setPosition (by decide +kernel))
    (by decide +kernel) hmovefails
  refine ⟨hseek.2 (.inl (by decide)), ?_, by decide +kernel⟩
  intro hsame
  rcases hmove.1 hsame with hne | ⟨hmissing, -⟩
  · exact hne rfl
  · exact hmissing (orders 0) (by decide +kernel)

end ScriptedConsumer
