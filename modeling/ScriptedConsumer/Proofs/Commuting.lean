import ScriptedConsumer.Proofs.Requests

set_option autoImplicit false

/-! # Requests that commute

Two requests commute if no partition concerns both. That takes two things. A request must leave
alone what does not concern it, and `Client.alike_handle_of_spares` says so; then on every partition
at most one of the two requests does something, and it does the same whether the other one came
before it or comes after it. And its answer must depend on nothing but what it concerns, which is
`Client.result_congr`. The two together are `Client.handle_commute`, and for an open consumer
`Session.requests_commute`. -/

namespace ScriptedConsumer

variable {p : Partition}

/-- The request is about a partition, and about no other one. -/
def Request.OnlyFor (p : Partition) : Request → Prop
  | .addRecord r => r.partition = p
  | .seek q _ | .position q => q = p
  | .seekToBeginning ps | .seekToEnd ps | .pause ps | .resume ps => ∀ q ∈ ps, q = p
  | .commitSyncOffsets offsets => ∀ q ∈ offsets, q = p
  | .scriptBeginnings offsets | .scriptEnds offsets => ∀ q ∈ offsets, q = p
  | _ => False

theorem Request.OnlyFor.spares {r : Request} (h : r.OnlyFor p) {q : Partition} (hq : q ≠ p) :
    r.Spares q := by
  cases r with
  | addRecord | seek | position => exact fun hp => hq (hp.symm.trans h)
  | seekToBeginning | seekToEnd | pause | resume | commitSyncOffsets | scriptBeginnings
  | scriptEnds => exact fun hp => hq (h q hp)
  | _ => exact h.elim

theorem Subscription.eq_of_alike {s s' : Subscription} (h : ∀ p, s.Alike p s') : s = s' := by
  have hassignment : s.assignment = s'.assignment :=
    Std.ExtTreeMap.ext_getElem? fun p => (h p).progress
  calc s
      = { ({ s with assignment := ∅ } : Subscription) with assignment := s.assignment } := rfl
    _ = { ({ s' with assignment := ∅ } : Subscription) with assignment := s'.assignment } := by
        rw [(h default).rest, hassignment]
    _ = s' := rfl

namespace Client

variable {c c' : Client Subscription}

theorem eq_of_alike (h : ∀ p, c.Alike p c') : c = c' := by
  have htracker : c.tracker = c'.tracker := Subscription.eq_of_alike fun p => (h p).tracker
  have hbuffer : c.buffer = c'.buffer := Std.ExtTreeMap.ext_getElem? fun p => (h p).records
  have hpaused : c.paused = c'.paused := Std.ExtTreeSet.ext_contains fun p => (h p).paused
  have hbeginnings : c.beginnings = c'.beginnings :=
    Std.ExtTreeMap.ext_getElem? fun p => (h p).beginning
  have hends : c.ends = c'.ends := Std.ExtTreeMap.ext_getElem? fun p => (h p).ending
  cases c
  cases c'
  rw [mk.injEq]
  exact ⟨htracker, (h default).catalog, hbuffer, hpaused, hbeginnings, hends⟩

/-! ## What an answer depends on -/

theorem result_ensureAssigned_congr {ps : List Partition}
    (h : ∀ q ∈ ps, Tracker.isAssigned c.tracker q = Tracker.isAssigned c'.tracker q) :
    ((ensureAssigned ps).run c).result = ((ensureAssigned ps).run c').result := by
  induction ps with
  | nil => rfl
  | cons q rest ih =>
      have hq := h q (List.mem_cons_self ..)
      have ih := ih fun q' hq' => h q' (List.mem_cons_of_mem _ hq')
      unfold ensureAssigned at ih ⊢
      rw [Action.run_get_bind, Action.run_get_bind] at ih ⊢
      rw [List.find?_cons, List.find?_cons, hq]
      cases Tracker.isAssigned c'.tracker q with
      | true => exact ih
      | false => rfl

/-- A commit without a callback fails only by the check of its partitions. -/
theorem result_commit_ignore (offsets : CommitMap) (c : Client Subscription) :
    ((commit .sorted offsets .ignore).run c).result =
      ((ensureAssigned offsets.keys).run c).result.map fun _ => Reply.done := by
  have hkeys : (Visiting.sorted.entries offsets).map Prod.fst = offsets.keys :=
    Std.ExtTreeMap.map_fst_toList_eq_keys
  cases hensured : ((ensureAssigned offsets.keys).run c).result with
  | error e =>
      rw [← hkeys] at hensured
      exact (Action.bind_of_error hensured _).1
  | ok u =>
      have hassigned : ∀ p ∈ offsets, Tracker.isAssigned c.tracker p = true := fun p hp =>
        isAssigned_of_ensureAssigned hensured p (Std.ExtTreeMap.mem_keys.2 hp)
      rw [run_commit .sorted .ignore hassigned]
      rfl

theorem Alike.result_position (h : c.Alike p c') :
    ((position p).run c).result = ((position p).run c').result := by
  have hprogress := h.tracker.progress
  cases hg : c.tracker.assignment[p]? with
  | none =>
      rw [hg] at hprogress
      rw [run_position_of_unassigned hg, run_position_of_unassigned hprogress.symm]
  | some g =>
      rw [hg] at hprogress
      rw [(run_position hg).1, (run_position hprogress.symm).1, h.resolve_eq]

/-- **The answer to a request** depends on nothing but the partitions that it does not spare. -/
theorem result_congr {r : Request} (h : ∀ p, r.Spares p ∨ c.Alike p c') :
    ((handle r).run c).result = ((handle r).run c').result := by
  have alike {q : Partition} (hq : ¬ r.Spares q) : c.Alike q c' := (h q).resolve_left hq
  have done {act : Action (Client Subscription) Unit}
      (hact : (act.run c).result = (act.run c').result) :
      ((do act; return Reply.done).run c).result = ((do act; return Reply.done).run c').result := by
    rw [(Action.bind_pure act (fun _ => Reply.done) c).1,
      (Action.bind_pure act (fun _ => Reply.done) c').1, hact]
  -- the checks of the partitions in a list
  have checked {ps : List Partition} (hps : ∀ q ∈ ps, ¬ r.Spares q) :
      ((ensureAssigned ps).run c).result = ((ensureAssigned ps).run c').result :=
    result_ensureAssigned_congr fun q hq => (alike (hps q hq)).tracker.assigned q
  have edited {act : Partition → Action (Client Subscription) Unit} {f : Progress → Progress}
      (hact : ∀ p, Follows (act p) (Subscription.change p f)) (hidem : ∀ g, f (f g) = f g)
      {ps : List Partition} (hps : ∀ q ∈ ps, ¬ r.Spares q) :
      ((do ensureAssigned ps; Action.each act ps : Action (Client Subscription) Unit).run
          c).result =
        ((do ensureAssigned ps; Action.each act ps : Action (Client Subscription) Unit).run
          c').result := by
    rw [result_checked_edit hact hidem, result_checked_edit hact hidem, checked hps]
  cases r with
  | addRecord record =>
      have hassigned := (alike (q := record.partition) (not_not.2 rfl)).tracker.assigned
        record.partition
      refine done ?_
      rw [run_addRecord, run_addRecord, show Tracker.isAssigned c.tracker record.partition =
        Tracker.isAssigned c'.tracker record.partition from hassigned]
      split
      · split <;> rfl
      · rfl
  | seek q offset =>
      have hprogress := (alike (q := q) (not_not.2 rfl)).tracker.progress
      refine done ?_
      show ((Subscription.change q _).run c.tracker).result =
        ((Subscription.change q _).run c'.tracker).result
      rw [Subscription.run_change, Subscription.run_change, hprogress]
      cases c'.tracker.assignment[q]? <;> rfl
  | position q =>
      have hresult := (alike (q := q) (not_not.2 rfl)).result_position
      rw [handle, (Action.bind_pure (position q) Reply.offset c).1,
        (Action.bind_pure (position q) Reply.offset c').1, hresult]
  | seekToBeginning ps =>
      exact done (edited (f := (·.awaitReset .earliest)) (fun _ => .onTracker _) (fun _ => rfl)
        fun q hq => not_not.2 hq)
  | seekToEnd ps =>
      exact done (edited (f := (·.awaitReset .latest)) (fun _ => .onTracker _) (fun _ => rfl)
        fun q hq => not_not.2 hq)
  | pause ps =>
      refine done (edited (f := fun g => { g with paused := true }) (fun p => ?_) (fun _ => rfl)
        fun q hq => not_not.2 hq)
      exact .andModify (fun _ => by rfl) _
  | resume ps =>
      refine done (edited (f := fun g => { g with paused := false }) (fun p => ?_) (fun _ => rfl)
        fun q hq => not_not.2 hq)
      exact .andModify (fun _ => by rfl) _
  | commitSyncOffsets offsets =>
      show ((commit .sorted offsets .ignore).run c).result =
        ((commit .sorted offsets .ignore).run c').result
      rw [result_commit_ignore, result_commit_ignore,
        checked fun q hq => not_not.2 (Std.ExtTreeMap.mem_keys.1 hq)]
  | scriptBeginnings offsets => rfl
  | scriptEnds offsets => rfl
  | _ =>
      -- any other request may be about every partition, and spares none
      have hsame : c = c' := eq_of_alike fun q => alike (q := q) not_false
      rw [hsame]

/-! ## Both orders -/

/-- **Two requests that no partition concerns both of** commute, and neither changes the answer to
    the other. -/
theorem handle_commute {r r' : Request} (h : ∀ p, r.Spares p ∨ r'.Spares p)
    (c : Client Subscription) :
    ((handle r).run ((handle r').run c).state).result = ((handle r).run c).result ∧
      ((handle r').run ((handle r).run c).state).state =
        ((handle r).run ((handle r').run c).state).state := by
  refine ⟨(result_congr fun q => (h q).imp_right fun hq => alike_handle_of_spares hq c).symm, ?_⟩
  refine eq_of_alike fun q => ?_
  rcases h q with hq | hq
  · -- only the second request does something at this partition
    exact (alike_handle r' (alike_handle_of_spares hq c)).symm.trans
      (alike_handle_of_spares hq _)
  · exact (alike_handle_of_spares hq _).symm.trans (alike_handle r (alike_handle_of_spares hq c))

end Client

/-! ## Sessions -/

/-- **Requests on different partitions commute.** Whatever state an open consumer over a
    subscription is in, two requests are made of it of which one is about one partition only and
    the other one about another partition only. In either order each of them ends the same, with
    the same value or the same failure, and they leave the same session. -/
theorem Session.requests_commute {s : Session Subscription} (hs : s.dropped = false)
    (hopen : s.consumer.isClosed = false) {a b : Partition} (hab : a ≠ b) {r r' : Request}
    (hr : r.OnlyFor a) (hr' : r'.OnlyFor b) :
    let first := s.play (.request r)
    let first' := s.play (.request r')
    let second := first'.session.play (.request r)
    let second' := first.session.play (.request r')
    second.verdict? = first.verdict? ∧ second'.verdict? = first'.verdict? ∧
      second.session = second'.session := by
  have hapart : ∀ p, r.Spares p ∨ r'.Spares p := by
    intro p
    by_cases hp : p = a
    · exact .inr (hr'.spares (hp ▸ hab))
    · exact .inl (hr.spares hp)
  obtain ⟨hresult, hstate⟩ := Client.handle_commute hapart s.consumer.client
  obtain ⟨hresult', -⟩ := Client.handle_commute (fun p => (hapart p).symm) s.consumer.client
  -- what a request comes to, made first and made second
  obtain ⟨hsession, hverdict⟩ := play_request hs hopen r
  obtain ⟨hsession', hverdict'⟩ := play_request hs hopen r'
  obtain ⟨hafter, hends⟩ :=
    play_request (s := s.withClient ((Client.handle r').run s.consumer.client).state) hs hopen r
  obtain ⟨hafter', hends'⟩ :=
    play_request (s := s.withClient ((Client.handle r).run s.consumer.client).state) hs hopen r'
  intro first first' second second'
  have hsecond : second =
      (s.withClient ((Client.handle r').run s.consumer.client).state).play (.request r) :=
    congrArg (·.play (.request r)) hsession'
  have hsecond' : second' =
      (s.withClient ((Client.handle r).run s.consumer.client).state).play (.request r') :=
    congrArg (·.play (.request r')) hsession
  rw [hsecond, hsecond', hends, hends', hafter, hafter']
  refine ⟨?_, ?_, ?_⟩
  · exact (congrArg (fun result => some (Verdict.ofResult .reply result)) hresult).trans
      hverdict.symm
  · exact (congrArg (fun result => some (Verdict.ofResult .reply result)) hresult').trans
      hverdict'.symm
  · exact congrArg s.withClient hstate.symm

/-- A session with two partitions assigned, one of which has a scripted beginning. -/
def Session.ofTwoPartitions : Session Subscription :=
  ((Run.fresh (Subscription.empty .earliest) .empty ⟨30000⟩
    [.request (.assign {orders 0, orders 1}),
      .request (.scriptBeginnings {(orders 0, 3)})]).ahead 2).session

/-- The position of one partition is resolved to its beginning, before and after a record at the
    last offset is refused for the other one; and asking for the position of the other one fails
    before and after the first one is sought. -/
theorem Session.ofTwoPartitions_commutes :
    let ask := Step.request (.position (orders 0))
    let add := Step.request (.addRecord (order 1 Int64.maxValue))
    let ask' := Step.request (.position (orders 1))
    let seek := Step.request (.seek (orders 0) 8)
    (ofTwoPartitions.play ask).offset? = some 3 ∧
      ((ofTwoPartitions.play add).session.play ask).verdict? = (ofTwoPartitions.play ask).verdict? ∧
      ((ofTwoPartitions.play ask).session.play add).session =
        ((ofTwoPartitions.play add).session.play ask).session ∧
      ((ofTwoPartitions.play seek).session.play ask').verdict? =
        (ofTwoPartitions.play ask').verdict? := by
  have hpresent : ofTwoPartitions.dropped = false := by decide +kernel
  have hopen : ofTwoPartitions.consumer.isClosed = false := by decide +kernel
  have hapart : orders 0 ≠ orders 1 := by decide
  have hfirst : (Request.position (orders 0)).OnlyFor (orders 0) := rfl
  have hsecond : (Request.addRecord (order 1 Int64.maxValue)).OnlyFor (orders 1) := rfl
  have hfirst' : (Request.seek (orders 0) 8).OnlyFor (orders 0) := rfl
  have hsecond' : (Request.position (orders 1)).OnlyFor (orders 1) := rfl
  obtain ⟨hask, -, hsame⟩ := requests_commute hpresent hopen hapart hfirst hsecond
  obtain ⟨-, hask', -⟩ := requests_commute hpresent hopen hapart hfirst' hsecond'
  exact ⟨by decide +kernel, hask, hsame.symm, hask'⟩

end ScriptedConsumer
