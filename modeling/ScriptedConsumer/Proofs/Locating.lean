import ScriptedConsumer.Proofs.Effects
import ScriptedConsumer.Proofs.Fetching
import ScriptedConsumer.Proofs.Independence
import ScriptedConsumer.Proofs.Refusals

set_option autoImplicit false

/-! # Asking for a position

There are two ways in which a partition comes to the position at which it starts. Asked for it, the
consumer looks at that partition alone and moves it at once. A poll looks at every partition without
a position first, and moves them all or none. Both find the same: `Client.run_position` says that to
ask is to settle one partition as a poll settles all, and settling a partition ahead of a poll
leaves the poll nothing else to find. So a poll after the question ends as one without it, with the
same batch or the same failure, and if it ends well it leaves the same session:
`Session.position_then_poll`. -/

namespace ScriptedConsumer

namespace Client

variable {c : Client Subscription} {p : Partition} {g : Progress}

/-! ## What asking does -/

/-- The client after it was asked for the position of a partition: that partition is settled. -/
def located (c : Client Subscription) (p : Partition) : Client Subscription :=
  c.adjusted fun q g => if q = p then c.settled q g else g

theorem located_of_settled (hg : c.tracker.assignment[p]? = some g) (h : c.settled p g = g) :
    c.located p = c := by
  refine (adjusted_congr ?_).trans c.adjusted_id
  intro q g' hg'
  split
  · next hq =>
      subst hq
      rw [hg, Option.some.injEq] at hg'
      rw [← hg', h]
  · rfl

/-- Where no start is found, nothing is moved. -/
theorem located_of_unresolved {e : Failure} (hg : c.tracker.assignment[p]? = some g)
    (hnone : g.position = none) (he : c.resolve p g = .error e) : c.located p = c := by
  refine located_of_settled hg ?_
  unfold settled
  rw [hnone, he]

/-- Where one is found, the partition is moved there and waits for no reset any more. -/
theorem located_of_resolve {v : Int64} (hg : c.tracker.assignment[p]? = some g)
    (hnone : g.position = none) (hv : c.resolve p g = .ok v) :
    c.located p = { c with tracker := { c.tracker with
      assignment := c.tracker.assignment.insert p
        { g with position := some v, pendingReset := none } } } := by
  have hmoved : c.located p = c.adjusted fun q g' => if q = p then g.seek v else g' := by
    refine (adjusted_at_congr (F := c.settled) ?_).symm
    intro g' hg'
    rw [hg, Option.some.injEq] at hg'
    rw [← hg', settled_of_resolve hnone hv]
  have hinsert := Subscription.insert_adjust (G := fun _ g => g) hg fun _ => g.seek v
  rw [Subscription.adjust_id] at hinsert
  rw [hmoved]
  unfold adjusted
  rw [← hinsert]
  rfl

theorem run_seek_of_resolve {v : Int64} (hg : c.tracker.assignment[p]? = some g)
    (hnone : g.position = none) (hv : c.resolve p g = .ok v) :
    (onTracker (Tracker.seek p v)).run c = ⟨.ok (), c.located p, []⟩ := by
  have hrun : (Tracker.seek p v).run c.tracker = ⟨.ok (), { c.tracker with
      assignment := c.tracker.assignment.insert p (g.seek v) }, []⟩ := by
    refine (Subscription.run_change p (·.seek v) c.tracker).trans ?_
    rw [hg]
  unfold onTracker
  rw [Action.run_within, hrun, located_of_resolve hg hnone hv]
  rfl

/-- Asked for the position of an assigned partition, the consumer answers with it if there is one,
    and else looks for one and seeks. -/
theorem run_position_of_assigned (hg : c.tracker.assignment[p]? = some g) :
    (position p).run c = (g.position.elim (do
      let offset ← locate p
      onTracker (Tracker.seek p offset)
      pure offset) pure).run c := by
  have hassigned : Tracker.isAssigned c.tracker p = true := by
    rw [Subscription.isAssigned_eq, hg]
    rfl
  have hprogress : c.tracker.progress p = .ok g := Subscription.progress_of_assigned hg
  have hasked : (Action.ask fun c : Client Subscription => Tracker.position c.tracker p).run c =
      ⟨.ok g.position, c, []⟩ := by
    show Outcome.mk ((c.tracker.progress p).map _) c [] = _
    rw [hprogress]
    rfl
  unfold position
  rw [Action.run_get_bind, hassigned]
  refine (Action.run_bind_ok hasked _).trans ?_
  cases g.position <;> rfl

/-- The answer is the position, or where the partition starts, and the partition is settled. -/
theorem run_position (hg : c.tracker.assignment[p]? = some g) :
    ((position p).run c).result = g.position.elim (c.resolve p g) .ok ∧
      ((position p).run c).state = c.located p := by
  rw [run_position_of_assigned hg]
  cases hpos : g.position with
  | some offset =>
      have hsettled : c.settled p g = g := settled_of_position (by simp [hpos])
      rw [located_of_settled hg hsettled]
      exact ⟨rfl, rfl⟩
  | none =>
      let move (offset : Int64) : Action (Client Subscription) Int64 := do
        onTracker (Tracker.seek p offset)
        pure offset
      obtain ⟨hfound, hsame⟩ := run_locate p c
      rw [offset_origin hg] at hfound
      cases hr : c.resolve p g with
      | error e =>
          rw [hr] at hfound
          obtain ⟨hres, hstate⟩ := Action.bind_of_error hfound move
          rw [located_of_unresolved hg hpos hr]
          exact ⟨hres, hstate.trans hsame⟩
      | ok offset =>
          rw [hr] at hfound
          obtain ⟨hres, hstate⟩ := Action.bind_of_ok hfound move
          rw [hsame] at hres hstate
          have hseek := run_seek_of_resolve hg hpos hr
          obtain ⟨hres', hstate'⟩ :=
            Action.bind_of_ok (congrArg Outcome.result hseek) fun _ => pure offset
          rw [hseek] at hstate'
          exact ⟨hres.trans hres', hstate.trans hstate'⟩

theorem run_position_of_unassigned (h : c.tracker.assignment[p]? = none) :
    (position p).run c = ⟨.error (.positionForUnassigned p), c, []⟩ := by
  have hassigned : Tracker.isAssigned c.tracker p = false := by
    rw [Subscription.isAssigned_eq, h]
    rfl
  unfold position
  rw [Action.run_get_bind, hassigned]
  rfl

/-! ## What a poll finds afterwards -/

theorem getElem?_located (q : Partition) :
    (c.located p).tracker.assignment[q]? =
      c.tracker.assignment[q]?.map fun g => if q = p then c.settled q g else g :=
  Subscription.getElem?_adjust _ c.tracker q

theorem settled_settled (c : Client Subscription) (p : Partition) (g : Progress) :
    c.settled p (c.settled p g) = c.settled p g := by
  by_cases hpos : (c.settled p g).position = none
  · -- nothing was found, so nothing changed
    have hsame : c.settled p g = g := by
      unfold settled at hpos ⊢
      split
      · next hnone hr =>
          rw [hnone, hr] at hpos
          cases hpos
      · rfl
    rw [hsame]
    exact hsame
  · exact settled_of_position hpos

/-- A partition that can be settled is never what a poll fails at, and whether it is settled ahead
    makes no difference for the others. -/
theorem unresolved_located (hg : c.tracker.assignment[p]? = some g) {v : Int64}
    (hv : g.position.elim (c.resolve p g) .ok = .ok v) {q : Partition} {e : Failure} :
    (c.located p).Unresolved q e ↔ c.Unresolved q e := by
  by_cases hq : q = p
  · subst hq
    constructor
    · rintro ⟨g', hg', hnone, -⟩
      rw [getElem?_located, hg, Option.map_some, if_pos rfl, Option.some.injEq] at hg'
      subst hg'
      -- it has a position now, or could not have been settled
      cases hpos : g.position with
      | some offset =>
          rw [settled_of_position (by simp [hpos]), hpos] at hnone
          cases hnone
      | none =>
          rw [hpos] at hv
          rw [settled_of_resolve hpos hv] at hnone
          cases hnone
    · rintro ⟨g', hg', hnone, hr⟩
      rw [hg, Option.some.injEq] at hg'
      subst hg'
      rw [hnone] at hv
      exact nomatch hr.symm.trans hv
  · have hsame : (c.located p).tracker.assignment[q]? = c.tracker.assignment[q]? := by
      rw [getElem?_located]
      simp [hq]
    unfold Unresolved
    rw [hsame]
    rfl

theorem deliverable_located : (c.located p).deliverable = c.deliverable := by
  refine Std.ExtTreeMap.ext_getElem? ?_
  intro q
  have hcontains : (c.located p).tracker.assignment.contains q = c.tracker.assignment.contains q :=
    Std.ExtTreeMap.contains_map
  rw [getElem?_deliverable, getElem?_deliverable, hcontains]
  rfl

/-- The progress on every partition comes to the same. -/
theorem adjust_polled_located :
    (c.located p).tracker.adjust (c.located p).polled = c.tracker.adjust c.polled := by
  refine (Subscription.adjust_adjust _ _ c.tracker).trans (Subscription.adjust_congr ?_)
  intro q g _
  have hsettled : (c.located p).settled q (if q = p then c.settled q g else g) = c.settled q g := by
    split
    · exact settled_settled c q g
    · rfl
  show (c.located p).advanced q _ = _
  rw [hsettled]
  rfl

/-- A poll that fails does so at the one partition that is unresolved and comes first. -/
theorem failure_unique {p q : Partition} {e f : Failure} (hp : c.Unresolved p e)
    (hpfirst : ∀ q f, c.Unresolved q f → q = p ∨ compare p q = .lt) (hq : c.Unresolved q f)
    (hqfirst : ∀ p e, c.Unresolved p e → p = q ∨ compare q p = .lt) : e = f := by
  have hsame : q = p := by
    rcases hpfirst q f hq with hsame | hlt
    · exact hsame
    · rcases hqfirst p e hp with hsame | hgt
      · exact hsame.symm
      · rw [Std.OrientedCmp.gt_of_lt hlt] at hgt
        cases hgt
  subst hsame
  obtain ⟨g, hg, -, he⟩ := hp
  obtain ⟨g', hg', -, hf⟩ := hq
  rw [hg, Option.some.injEq] at hg'
  subst hg'
  rw [he] at hf
  cases hf
  rfl

/-- A fetch ends as it would have ended, and if it ends well it leaves what it would have left. -/
theorem run_fetch_located (hg : c.tracker.assignment[p]? = some g) {v : Int64}
    (hv : g.position.elim (c.resolve p g) .ok = .ok v) (visiting : Visiting (List Record)) :
    ((fetch visiting).run (c.located p)).result = ((fetch visiting).run c).result ∧
      ∀ b, ((fetch visiting).run c).result = .ok b →
        ((fetch visiting).run (c.located p)).state = ((fetch visiting).run c).state := by
  have hunresolved {q : Partition} {e : Failure} :
      (c.located p).Unresolved q e ↔ c.Unresolved q e := unresolved_located hg hv
  rcases fetch_cases visiting c with ⟨q, e, hu, hfirst, hres, -⟩ | ⟨hall, hres, hstate⟩
  · rcases fetch_cases visiting (c.located p) with ⟨q', e', hu', hfirst', hres', -⟩ | ⟨hall', -⟩
    · have hsame : e' = e := by
        refine failure_unique (hunresolved.1 hu') ?_ hu hfirst
        intro r f hr
        exact hfirst' r f (hunresolved.2 hr)
      rw [hres, hres', hsame]
      exact ⟨rfl, nofun⟩
    · exact absurd (hunresolved.2 hu) (hall' q e)
  · rcases fetch_cases visiting (c.located p) with ⟨q', e', hu', -⟩ | ⟨-, hres', hstate'⟩
    · exact absurd (hunresolved.1 hu') (hall q' e')
    · rw [hres, hres', hstate, hstate', deliverable_located, adjust_polled_located]
      exact ⟨rfl, fun _ _ => rfl⟩

/-- A partition that is settled is at the position that the question gives. -/
theorem position_settled_of_found {v : Int64} (hv : g.position.elim (c.resolve p g) .ok = .ok v) :
    (c.settled p g).position = some v := by
  cases hpos : g.position with
  | some offset =>
      rw [hpos] at hv
      cases hv
      rw [settled_of_position (by simp [hpos]), hpos]
  | none =>
      rw [hpos] at hv
      rw [settled_of_resolve hpos hv]
      rfl

/-- Where nothing is delivered of a partition, or it is paused, a fetch that ends well leaves it at
    the position that the question gives. -/
theorem position_fetched (hg : c.tracker.assignment[p]? = some g) {v : Int64}
    (hv : g.position.elim (c.resolve p g) .ok = .ok v)
    (hquiet : c.buffer.getD p [] = [] ∨ c.paused.contains p = true)
    {visiting : Visiting (List Record)} {b : Batch} (hb : ((fetch visiting).run c).result = .ok b) :
    Tracker.position ((fetch visiting).run c).state.tracker p = .ok (some v) := by
  have hto : c.advancedTo p = none := by
    unfold advancedTo
    rcases hquiet with hempty | hpaused
    · simp [hempty]
    · rw [if_pos hpaused]
  have hpolled : (c.polled p g).position = some v := by
    unfold polled
    rw [advanced_of_stayed hto, position_settled_of_found hv]
  rcases fetch_cases visiting c with ⟨q, e, -, -, hres, -⟩ | ⟨-, -, hstate⟩
  · rw [hres] at hb
    cases hb
  · have hassigned : (c.tracker.adjust c.polled).assignment[p]? = some (c.polled p g) := by
      rw [Subscription.getElem?_adjust, hg, Option.map_some]
    rw [hstate]
    show ((c.tracker.adjust c.polled).progress p).map (·.position) = _
    rw [Subscription.progress_of_assigned hassigned, ← hpolled]
    rfl

/-- Asked again, the consumer answers the same and changes nothing. -/
theorem run_position_located (hg : c.tracker.assignment[p]? = some g) {v : Int64}
    (hv : g.position.elim (c.resolve p g) .ok = .ok v) :
    ((position p).run (c.located p)).result = .ok v ∧
      ((position p).run (c.located p)).state = c.located p := by
  have hg' : (c.located p).tracker.assignment[p]? = some (c.settled p g) := by
    rw [getElem?_located, hg, Option.map_some, if_pos rfl]
  have hsettled : (c.located p).settled p (c.settled p g) = c.settled p g := settled_settled c p g
  obtain ⟨hres, hstate⟩ := run_position hg'
  rw [hres, hstate, located_of_settled hg' hsettled, position_settled_of_found hv]
  exact ⟨rfl, rfl⟩

end Client

/-! ## Sessions -/

/-- A poll that does not fetch fails by its signals, whatever the client is. -/
theorem Consumer.result_endPoll_of_not_fetchesNow {τ κ : Type} [Tracker τ] {c : Consumer τ κ}
    (h : c.fetchesNow = false) (visiting : Visiting (List Record)) (client : Client τ) :
    ((endPoll visiting).run { c with client }).result = ((endPoll visiting).run c).result := by
  rcases c with ⟨old, ⟨wakeup, injected, closed⟩, tasks, timeout⟩
  rw [run_endPoll, run_endPoll]
  cases closed with
  | true => rfl
  | false =>
      simp only [isClosed, Bool.false_eq_true, if_false, Action.run_bind, run_obeySignals]
      cases wakeup with
      | true => rfl
      | false =>
          cases injected with
          | some f => rfl
          | none => cases h

/-- The offset that the last step of a run was answered with, if it was. -/
def Run.offset? {τ : Type} (r : Run τ) : Option Int64 :=
  match r.verdict? with
  | some (.ok (.reply (.offset v))) => some v
  | _ => none

namespace Session

variable {s : Session Subscription} {p : Partition} {v : Int64}

/-- The session with another client. -/
def withClient (s : Session Subscription) (client : Client Subscription) : Session Subscription :=
  { s with consumer := { s.consumer with client } }

theorem play_request (hs : s.dropped = false) (hopen : s.consumer.isClosed = false) (r : Request) :
    (s.play (.request r)).session =
        s.withClient ((Client.handle r).run s.consumer.client).state ∧
      (s.play (.request r)).verdict? =
        some (.ofResult .reply ((Client.handle r).run s.consumer.client).result) := by
  obtain ⟨tookCallback, hturn⟩ := turn_request hs hopen (rfl : (Step.request r).request? = some r)
  rw [play_of_answered (congrArg Moved.turn hturn), hturn]
  exact ⟨rfl, rfl⟩

theorem play_position (hs : s.dropped = false) (hopen : s.consumer.isClosed = false) :
    (s.play (.request (.position p))).session =
        s.withClient ((Client.position p).run s.consumer.client).state ∧
      (s.play (.request (.position p))).verdict? =
        some (.ofResult (fun v => .reply (.offset v))
          ((Client.position p).run s.consumer.client).result) := by
  obtain ⟨hres, hstate⟩ := Action.bind_pure (Client.position p) Reply.offset s.consumer.client
  obtain ⟨hsession, hverdict⟩ := play_request hs hopen (.position p)
  refine ⟨hsession.trans (congrArg s.withClient hstate), ?_⟩
  rw [hverdict, Client.handle, hres]
  cases ((Client.position p).run s.consumer.client).result <;> rfl

/-- The question is answered with an offset just if the client finds it. -/
theorem offset?_play_position (hs : s.dropped = false) (hopen : s.consumer.isClosed = false) :
    (s.play (.request (.position p))).offset? = some v ↔
      ((Client.position p).run s.consumer.client).result = .ok v := by
  unfold Run.offset?
  rw [(play_position hs hopen).2]
  cases ((Client.position p).run s.consumer.client).result with
  | ok offset =>
      rw [Except.ok.injEq]
      exact Option.some_inj
  | error e => exact ⟨nofun, nofun⟩

/-- A poll after the client has changed in a way that does not matter to a fetch. -/
theorem play_poll_withClient (hs : s.dropped = false) (hopen : s.consumer.isClosed = false)
    (hidle : s.consumer.tasks = []) {client : Client Subscription}
    (hres : ((Client.fetch .sorted).run client).result =
      ((Client.fetch .sorted).run s.consumer.client).result)
    (hstate : ∀ b, ((Client.fetch .sorted).run s.consumer.client).result = .ok b →
      ((Client.fetch .sorted).run client).state =
        ((Client.fetch .sorted).run s.consumer.client).state) :
    ((s.withClient client).play .poll).verdict? = (s.play .poll).verdict? ∧
      ∀ b, (s.play .poll).batch? = some b →
        ((s.withClient client).play .poll).session = (s.play .poll).session ∧
        (s.play .poll).session =
          s.withClient ((Client.fetch .sorted).run s.consumer.client).state ∧
        ((Client.fetch .sorted).run s.consumer.client).result = .ok b := by
  obtain ⟨hsession, hverdict⟩ := play_poll_of_idle hs hopen hidle
  obtain ⟨hsession', hverdict'⟩ :=
    play_poll_of_idle (s := s.withClient client) hs hopen hidle
  cases hf : s.consumer.fetchesNow with
  | false =>
      obtain ⟨f, hfail, -⟩ := Consumer.run_endPoll_of_not_fetchesNow .sorted hf
      have hsame : ((Consumer.endPoll .sorted).run (s.withClient client).consumer).result =
          ((Consumer.endPoll .sorted).run s.consumer).result :=
        Consumer.result_endPoll_of_not_fetchesNow hf _ client
      rw [hverdict, hverdict', hsame]
      refine ⟨rfl, ?_⟩
      intro b hb
      have hok := Run.batch?_eq_some hverdict hb
      rw [hfail] at hok
      cases hok
  | true =>
      have hf' : (s.withClient client).consumer.fetchesNow = true := hf
      obtain ⟨hend, hafter⟩ := Consumer.run_endPoll_of_fetchesNow .sorted hf
      obtain ⟨hend', hafter'⟩ := Consumer.run_endPoll_of_fetchesNow .sorted hf'
      have hsame : ((Consumer.endPoll .sorted).run (s.withClient client).consumer).result =
          ((Consumer.endPoll .sorted).run s.consumer).result := (hend'.trans hres).trans hend.symm
      rw [hverdict, hverdict', hsame]
      refine ⟨rfl, ?_⟩
      intro b hb
      have hok := Run.batch?_eq_some hverdict hb
      rw [hend] at hok
      have hmoved : ((Client.fetch .sorted).run (s.withClient client).consumer.client).state =
          ((Client.fetch .sorted).run s.consumer.client).state := hstate b hok
      rw [hsession, hsession', hafter, hafter', hmoved]
      exact ⟨rfl, rfl, hok⟩

/-- **To ask for a position and to poll resolve offsets alike.** An open consumer without a queued
    task is asked for the position of a partition, and answers with one. A poll that follows ends as
    it would have ended without the question, with the same batch or the same failure; and if it
    ends well it leaves the session that it would have left, with the partition at the position
    that was answered if nothing is buffered of it or if it is paused. Asked a second time, the
    consumer answers the same and changes nothing. -/
theorem position_then_poll (hs : s.dropped = false) (hopen : s.consumer.isClosed = false)
    (hidle : s.consumer.tasks = []) (hv : (s.play (.request (.position p))).offset? = some v) :
    let asked := (s.play (.request (.position p))).session
    (asked.play .poll).verdict? = (s.play .poll).verdict? ∧
    (∀ b, (s.play .poll).batch? = some b →
      (asked.play .poll).session = (s.play .poll).session ∧
      (s.consumer.client.buffer.getD p [] = [] ∨ s.consumer.client.paused.contains p = true →
        Tracker.position (s.play .poll).session.consumer.client.tracker p = .ok (some v))) ∧
    (asked.play (.request (.position p))).offset? = some v ∧
    (asked.play (.request (.position p))).session = asked := by
  intro asked
  obtain ⟨hasked, -⟩ := play_position (p := p) hs hopen
  rw [offset?_play_position hs hopen] at hv
  -- only an assigned partition has a position
  cases hg : s.consumer.client.tracker.assignment[p]? with
  | none =>
      rw [Client.run_position_of_unassigned hg] at hv
      cases hv
  | some g =>
      obtain ⟨hres, hstate⟩ := Client.run_position hg
      have hfound : g.position.elim (s.consumer.client.resolve p g) .ok = .ok v :=
        hres.symm.trans hv
      have hlocated : asked = s.withClient (s.consumer.client.located p) := by
        show (s.play (.request (.position p))).session = _
        rw [hasked, hstate]
      obtain ⟨hfetch, hafter⟩ := Client.run_fetch_located hg hfound .sorted
      obtain ⟨hverdict, hbatch⟩ := play_poll_withClient hs hopen hidle hfetch hafter
      rw [hlocated]
      refine ⟨hverdict, ?_, ?_⟩
      · intro b hb
        obtain ⟨hsame, hpolled, hok⟩ := hbatch b hb
        refine ⟨hsame, ?_⟩
        intro hquiet
        rw [hpolled]
        exact Client.position_fetched hg hfound hquiet hok
      · have hs' : (s.withClient (s.consumer.client.located p)).dropped = false := hs
        obtain ⟨hagain, -⟩ := play_position (p := p) hs' hopen
        obtain ⟨hres', hstate'⟩ := Client.run_position_located hg hfound
        rw [hagain]
        exact ⟨(offset?_play_position hs' hopen).2 hres', congrArg s.withClient hstate'⟩

end Session

/-! ## A question before a poll -/

/-- A session with two partitions without a position: one has a commit and a pending reset to its
    scripted beginning, and on the other one a record waits. -/
def Session.withoutPositions (policy : ResetPolicy) : Session Subscription :=
  ((Run.fresh (Subscription.empty policy) .empty ⟨30000⟩
    [.request (.assign {orders 0, orders 1}), .request (.scriptBeginnings {(orders 0, 3)}),
      .request (.scriptEnds {(orders 1, 20)}),
      .request (.commitSyncOffsets {(orders 0, Commit.ofOffset 9)}),
      .request (.seekToBeginning [orders 0]), .request (.addRecord (order 1 20))]).ahead 6).session

/-- The consumer answers with the beginning. By a policy that finds the other partition, the poll
    then leaves what it would have left, with the first partition there; by one that does not, it
    fails as it would have failed. -/
theorem Session.withoutPositions_alike :
    (let s := withoutPositions .latest
    let asked := (s.play (.request (.position (orders 0)))).session
    (s.play (.request (.position (orders 0)))).offset? = some 3 ∧
      (asked.play .poll).session = (s.play .poll).session ∧
      Tracker.position (s.play .poll).session.consumer.client.tracker (orders 0) = .ok (some 3)) ∧
    (let s := withoutPositions .none
    let asked := (s.play (.request (.position (orders 0)))).session
    (asked.play .poll).verdict? = (s.play .poll).verdict? ∧
      (s.play .poll).succeeded = false) := by
  refine ⟨?_, ?_⟩
  · have hv :
        ((withoutPositions .latest).play (.request (.position (orders 0)))).offset? = some 3 := by
      decide +kernel
    obtain ⟨-, hpoll, -⟩ := position_then_poll (by decide +kernel) (by decide +kernel)
      (by decide +kernel) hv
    obtain ⟨b, hb⟩ : ∃ b, ((withoutPositions .latest).play .poll).batch? = some b :=
      Option.isSome_iff_exists.1 (by decide +kernel)
    obtain ⟨hsame, hplaced⟩ := hpoll b hb
    exact ⟨hv, hsame, hplaced (.inl (by decide +kernel))⟩
  · obtain ⟨hverdict, -⟩ := position_then_poll (s := withoutPositions .none) (p := orders 0)
      (v := 3) (by decide +kernel) (by decide +kernel) (by decide +kernel) (by decide +kernel)
    exact ⟨hverdict, by decide +kernel⟩

end ScriptedConsumer
