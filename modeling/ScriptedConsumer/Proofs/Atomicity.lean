import ScriptedConsumer.Proofs.Fetching
import ScriptedConsumer.Proofs.Histories
import ScriptedConsumer.Proofs.Refusals

set_option autoImplicit false

/-! # All or nothing

A call that fails has no effect, over any tracker that is all or nothing. For the calls that take
a list of partitions this rests on an interplay: the client first checks that all of them are
assigned, and then the tracker, which is asked once for each of them, refuses the first one or none.
A poll that fails has at most obeyed a signal. -/

namespace ScriptedConsumer

namespace Client

variable {τ ι α : Type}

theorem clean_onTracker {act : Action τ α} {c : Client τ} (h : Action.Clean act c.tracker) :
    Action.Clean (onTracker act) c := .within rfl h

/-! ## Loops over assigned partitions -/

/-- An operation of the client that does to the tracker what an operation of the tracker does, and
    has no other effect where that one fails. -/
def Follows (act : Action (Client τ) Unit) (op : Action τ Unit) : Prop :=
  ∀ c, (act.run c).result = (op.run c.tracker).result ∧
    (act.run c).state.tracker = (op.run c.tracker).state ∧
    (Action.Clean op c.tracker → Action.Clean act c)

theorem Follows.onTracker (op : Action τ Unit) : Follows (Client.onTracker op) op := by
  intro c
  exact ⟨rfl, rfl, clean_onTracker⟩

theorem Follows.andModify {f : Client τ → Client τ} (hf : ∀ c, (f c).tracker = c.tracker)
    (op : Action τ Unit) :
    Follows (do Client.onTracker op; modify f) op := by
  intro c
  let k : Unit → Action (Client τ) Unit := fun _ => modify f
  have hclean (h : Action.Clean op c.tracker) : Action.Clean (Client.onTracker op >>= k) c :=
    .bind_total (clean_onTracker h) fun _ => .modify f
  cases hr : ((Client.onTracker op).run c).result with
  | error e =>
      obtain ⟨hres, hstate⟩ := Action.bind_of_error hr k
      refine ⟨hres.trans hr.symm, ?_, hclean⟩
      show ((Client.onTracker op >>= k).run c).state.tracker = _
      rw [hstate]
      rfl
  | ok u =>
      obtain ⟨hres, hstate⟩ := Action.bind_of_ok hr k
      refine ⟨hres.trans hr.symm, ?_, hclean⟩
      show ((Client.onTracker op >>= k).run c).state.tracker = _
      rw [hstate]
      exact hf _

variable [Tracker τ]

theorem isAssigned_of_ensureAssigned {ps : List Partition} {c : Client τ} {u : Unit}
    (h : ((ensureAssigned ps).run c).result = .ok u) :
    ∀ p ∈ ps, Tracker.isAssigned c.tracker p = true := by
  unfold ensureAssigned at h
  rw [Action.run_get_bind] at h
  split at h
  · cases h
  · next hnone =>
      intro p hp
      simpa using List.find?_eq_none.1 hnone p hp

/-- Over partitions that are assigned, a loop of uniform operations is refused at the first one or
    not at all. -/
theorem clean_each {P : τ → Prop} {key : ι → Partition} {op : ι → Action τ Unit}
    (hop : Tracker.Uniform P key op) {act : ι → Action (Client τ) Unit}
    (hact : ∀ x, Follows (act x) (op x)) {xs : List ι} {c : Client τ} (hc : P c.tracker)
    (hassigned : ∀ x ∈ xs, Tracker.isAssigned c.tracker (key x) = true) :
    Action.Clean (Action.each act xs) c := by
  obtain ⟨granted, hop⟩ := hop
  by_cases hg : granted c.tracker
  · -- the operation stays granted, and the partitions stay assigned
    refine .of_ok (Action.run_each_of (fun _ s => P s.tracker ∧ granted s.tracker ∧
      ∀ q, Tracker.isAssigned s.tracker q = Tracker.isAssigned c.tracker q) xs ?_
      ⟨hc, hg, fun _ => rfl⟩).1
    rintro pre x post s hxs ⟨hP, hgs, hsame⟩
    have hmem : x ∈ xs := by simp [hxs]
    have hx : Tracker.isAssigned s.tracker (key x) = true := by
      rw [hsame]
      exact hassigned x hmem
    obtain ⟨hres, hP', hg', hsame'⟩ := (hop s.tracker hP).2 hgs x hx
    obtain ⟨hres', htracker, -⟩ := hact x s
    rw [htracker]
    refine ⟨hres'.trans hres, hP', hg', ?_⟩
    intro q
    rw [hsame' q, hsame q]
  · cases xs with
    | nil => exact .of_total (.pure _) c
    | cons x rest =>
        -- the first item is refused, and nothing was done before it
        obtain ⟨e, hres, hstate⟩ := (hop c.tracker hc).1 hg x
        obtain ⟨hres', -, hclean⟩ := hact x c
        have hfail : ((act x).run c).result = .error e := hres'.trans hres
        intro e' _
        rw [Action.each_cons, (Action.bind_of_error hfail _).2]
        exact hclean (fun _ _ => hstate) e hfail

/-! ## Calls -/

variable {P : τ → Prop} (hA : Tracker.Atomic τ P) {c : Client τ} (hc : P c.tracker)

include hA hc

theorem clean_subscribePattern (pattern : Pattern) (listener : Listener) :
    Action.Clean (subscribePattern pattern listener) c := by
  unfold subscribePattern
  split
  · exact .of_keeps (.throw _) c
  · refine .bind (clean_onTracker (hA.subscribePattern _ _ _ hc)) ?_
    intro u hok e he
    -- the topics are matched in the state in which the pattern was accepted
    obtain ⟨v, hv⟩ := hA.setMatched pattern listener _ c.tracker u hc hok
    rw [Action.run_get_bind, (Action.bind_of_ok rfl _).1] at he
    have hcontra := hv.symm.trans he
    cases hcontra

theorem clean_position (p : Partition) : Action.Clean (position p) c := by
  refine .bind_of_keeps .get ?_
  intro t _
  refine .checked (.bind_of_keeps (.ask _) ?_)
  intro o _
  cases o with
  | some offset => exact .of_keeps (.pure _) c
  | none =>
      refine .bind_of_keeps (keeps_locate id p) ?_
      intro offset _
      exact .bind_total (clean_onTracker (hA.seek p offset _ hc)) fun _ => .pure _

/-- With a callback that does not fail, a commit changes nothing if it fails. -/
theorem clean_commit {β : Type} (visiting : Visiting Commit) (offsets : CommitMap)
    {callback : Callback τ β} (hcallback : Action.Total (callback offsets none)) :
    Action.Clean (commit visiting offsets callback) c := by
  refine .bind_of_keeps (keeps_ensureAssigned id _) ?_
  intro _ hok
  have hassigned : ∀ e ∈ visiting.entries offsets, Tracker.isAssigned c.tracker e.1 = true := by
    intro e he
    exact isAssigned_of_ensureAssigned hok _ (List.mem_map_of_mem he)
  refine .bind_total ?_ fun _ => .bind (.log _) fun _ => hcallback
  exact clean_each hA.setCommitted (fun _ => .onTracker _) hc hassigned

theorem clean_requestReset (policy : ResetPolicy) (ps : List Partition) :
    Action.Clean (requestReset policy ps) c :=
  .bind_of_keeps (keeps_ensureAssigned id ps) fun _ hok =>
    clean_each (hA.needReset policy) (fun _ => .onTracker _) hc (isAssigned_of_ensureAssigned hok)

theorem clean_handle (r : Request) : Action.Clean (handle r) c := by
  have done {act : Action (Client τ) Unit} (h : Action.Clean act c) :
      Action.Clean (do act; return Reply.done) c := .bind_total h fun _ => .pure _
  cases r with
  | assignment | subscription | paused | placements | listTopics =>
      exact .of_keeps (.bind .get fun _ => .pure _) c
  | metrics => exact .of_keeps (.pure _) c
  | offsetsForTimes => exact .of_keeps (.throw _) c
  | beginnings | ends => exact .of_keeps (.bind (.ask _) fun _ => .pure _) c
  | subscribe topics listener => exact done (clean_onTracker (hA.subscribe _ _ _ hc))
  | seek p offset => exact done (clean_onTracker (hA.seek _ _ _ hc))
  | assign ps =>
      exact .bind_total (clean_onTracker (hA.assignManually _ _ hc)) fun _ =>
        .bind (.modify _) fun _ => .pure _
  | unsubscribe | updatePlacements | scriptBeginnings | scriptEnds =>
      exact .of_total (.bind (.modify _) fun _ => .pure _) c
  | subscribePattern pattern listener => exact done (clean_subscribePattern hA hc pattern listener)
  | rebalance ps =>
      exact done (.bind_total (clean_onTracker (hA.assignFromGroup _ _ hc)) fun _ =>
        .bind .get fun _ => .bind (.modify _) fun _ => .log _)
  | addRecord r =>
      refine done ?_
      intro e he
      rw [run_addRecord] at he ⊢
      split
      · next hassigned =>
          by_cases hmax : r.offset = Int64.maxValue
          · rw [if_pos hmax]
          · simp [hassigned, hmax] at he
      · rfl
  | pause ps =>
      refine done (.bind_of_keeps (keeps_ensureAssigned id ps) fun _ hok =>
        clean_each hA.pause (fun p => ?_) hc (isAssigned_of_ensureAssigned hok))
      exact .andModify (fun _ => by rfl) _
  | resume ps =>
      refine done (.bind_of_keeps (keeps_ensureAssigned id ps) fun _ hok =>
        clean_each hA.resume (fun p => ?_) hc (isAssigned_of_ensureAssigned hok))
      exact .andModify (fun _ => by rfl) _
  | seekToBeginning ps | seekToEnd ps => exact done (clean_requestReset hA hc _ ps)
  | position p => exact .bind_total (clean_position hA hc p) fun _ => .pure _
  | committed p =>
      refine .of_keeps (.bind (.bind .get ?_) fun _ => .pure _) c
      intro t
      split
      · exact .ask _
      · exact .pure _
  | commitAsync offsets | commitSyncOffsets offsets =>
      exact clean_commit hA hc .sorted offsets (.pure _)
  | commitAsyncConsumed | commitSync =>
      exact .bind_of_keeps .get fun _ _ => clean_commit hA hc .sorted _ (.pure _)

end Client

/-! ## Operations of the consumer -/

namespace Consumer

variable {τ κ α : Type} {c : Consumer τ κ}

theorem clean_open {act : Action (Consumer τ κ) α} (h : Action.Clean act c) :
    Action.Clean (do ensureOpen; act) c := by
  refine .bind_of_keeps (.bind .get ?_) fun _ _ => h
  intro t
  split
  · exact .throw _
  · exact .pure _

theorem clean_request [Tracker τ] {P : τ → Prop} (hA : Tracker.Atomic τ P)
    (hc : P c.client.tracker) (r : Request) : Action.Clean (request r) c :=
  clean_open (.within rfl (Client.clean_handle hA hc r))

theorem clean_wakeup : Action.Clean wakeup c := clean_open (.of_total (.modify _) c)

theorem clean_inject (f : Failure) : Action.Clean (inject f) c :=
  clean_open (.of_total (.modify _) c)

theorem clean_schedule (task : κ) : Action.Clean (schedule task) c :=
  clean_open (.of_total (.modify _) c)

theorem clean_close (timeout : Option Timeout) : Action.Clean (close timeout) c :=
  clean_open (.of_total (.bind (.modify _) fun _ => .bind .get fun _ => .log _) c)

end Consumer

/-! ## Steps -/

namespace Session

variable {τ α : Type}

/-- The step has no effect on the session if it is answered with a failure. -/
def CleanMove (s : Session τ) (m : Moved τ) : Prop :=
  ∀ answer, m.turn = .answered answer → answer.verdict.isOk = false → m.session = s

theorem cleanMove_unmoved (s : Session τ) (v : Verdict) : s.CleanMove (s.unmoved v) := by
  intro answer _ _
  rfl

theorem cleanMove_attempt {s : Session τ} {act : Action (Consumer τ Task) α}
    (h : Action.Clean act s.consumer) (tookCallback : Bool) (display : α → Value) :
    s.CleanMove (s.attempt tookCallback display act) := by
  intro answer hturn hfail
  show ({ s with consumer := (act.run s.consumer).state } : Session τ) = s
  cases hr : (act.run s.consumer).result with
  | error e => rw [h e hr]
  | ok a =>
      -- then the answer is not a failure
      cases hturn
      rw [hr] at hfail
      cases hfail

/-- A poll is answered at once only if it is refused. -/
theorem cleanMove_beginPoll (s : Session τ) : s.CleanMove s.beginPoll := by
  intro answer hturn _
  simp only [beginPoll, Consumer.run_beginPoll] at hturn ⊢
  by_cases hc : s.consumer.isClosed = true
  · rw [if_pos hc]
  · rw [if_neg hc] at hturn
    cases ht : s.consumer.tasks with
    | nil => simp [ht] at hturn
    | cons task rest => simp [ht] at hturn

variable [Tracker τ] [Switchable τ]

/-- Over a tracker that is all or nothing, a step that is answered with a failure has no effect. -/
theorem cleanMove_turn {P : τ → Prop} (hA : Tracker.Atomic τ P) {s : Session τ}
    (hs : P s.consumer.client.tracker) (step : Step) : s.CleanMove (s.turn step) := by
  cases hd : s.dropped with
  | true =>
      rw [turn_of_dropped hd]
      split
      · exact cleanMove_attempt Consumer.clean_wakeup _ _
      · exact cleanMove_attempt (Consumer.clean_inject _) _ _
      all_goals exact cleanMove_unmoved s _
  | false =>
      rw [turn_of_not_dropped hd]
      cases step with
      | request r => exact cleanMove_attempt (Consumer.clean_request hA hs r) _ _
      | subscribePattern text listener =>
          dsimp only
          split
          · exact cleanMove_unmoved s _
          · exact cleanMove_attempt (Consumer.clean_request hA hs _) _ _
      | poll => exact cleanMove_beginPoll s
      | wakeup => exact cleanMove_attempt Consumer.clean_wakeup _ _
      | inject party f => exact cleanMove_attempt (Consumer.clean_inject f) _ _
      | schedule | scheduleNop => exact cleanMove_attempt (Consumer.clean_schedule _) _ _
      | close timeout => exact cleanMove_attempt (Consumer.clean_close timeout) _ _
      | takeHandle | isClosed | bufferedCount | inspect => exact cleanMove_unmoved s _
      | switch | drop =>
          intro answer hturn hfail
          cases hturn
          cases hfail

end Session

/-! ## Polls -/

namespace Deed

variable {τ : Type} [Tracker τ] [Switchable τ]

theorem after_make_of_failed {P : τ → Prop} (hA : Tracker.Atomic τ P) {s : Session τ}
    (hs : P s.consumer.client.tracker) {step : Step} (h : (make s step).failed = true) :
    (make s step).after = s := by
  obtain ⟨v, hv, hfail⟩ := exists_of_failed h
  cases hturn : (s.turn step).turn with
  | answered answer =>
      simp only [verdict?, hturn, Option.some.injEq] at hv
      rw [← hv] at hfail
      exact Session.cleanMove_turn hA hs step answer hturn hfail
  | polling task => simp [verdict?, hturn] at hv

/-- Where a poll begins, only its task leaves the queue. -/
theorem after_make_poll {s : Session τ} (h : (make s .poll).verdict? = none) :
    (make s .poll).after =
      { s with consumer := { s.consumer with tasks := s.consumer.tasks.tail } } := by
  by_cases hd : s.dropped = true
  · simp [verdict?, Session.turn_of_dropped hd, Session.unmoved] at h
  · have hturn := Session.turn_of_not_dropped (Bool.eq_false_iff.2 hd) Step.poll
    simp only [verdict?, after, hturn, Session.beginPoll, Consumer.run_beginPoll] at h ⊢
    by_cases hc : s.consumer.isClosed = true
    · simp [hc] at h
    · rw [if_neg hc]
      rcases s with ⟨⟨client, signals, _ | ⟨task, rest⟩, timeout⟩, dropped⟩
      · rfl
      · rfl

/-- A poll over a subscription that fails has obeyed a signal at most. -/
theorem after_endPoll_of_failed {s : Session Subscription} {visiting : Visiting (List Record)}
    {shown : Option (List Answer)} (h : (endPoll s visiting shown).failed = true) :
    (endPoll s visiting shown).after =
      { s with consumer := { s.consumer with signals := s.consumer.signals.obeyed } } := by
  obtain ⟨f, hres⟩ : ∃ f, ((Consumer.endPoll visiting).run s.consumer).result = .error f := by
    simp only [failed, verdict?, Session.endPoll] at h
    cases hr : ((Consumer.endPoll visiting).run s.consumer).result with
    | error e => exact ⟨e, rfl⟩
    | ok b =>
        rw [hr] at h
        cases h
  suffices hstate : ((Consumer.endPoll visiting).run s.consumer).state =
      { s.consumer with signals := s.consumer.signals.obeyed } by
    show { s with consumer := ((Consumer.endPoll visiting).run s.consumer).state } = _
    rw [hstate]
  cases hf : s.consumer.fetchesNow with
  | false =>
      obtain ⟨-, -, hstate⟩ := Consumer.run_endPoll_of_not_fetchesNow visiting hf
      exact hstate
  | true =>
      -- no signal is armed, and the fetch failed before it changed anything
      obtain ⟨hres', hstate⟩ := Consumer.run_endPoll_of_fetchesNow visiting hf
      rw [hres'] at hres
      rw [hstate, Consumer.obeyed_of_fetchesNow hf]
      rcases Client.fetch_cases visiting s.consumer.client with
        ⟨p, e, -, -, -, hsame⟩ | ⟨-, hok, -⟩
      · rw [hsame]
      · rw [hok] at hres
        cases hres

/-- **A failure has no effect.** A step that is answered with a failure leaves the session as it is,
    over a subscription and over one with any of its methods refused. A poll begins by taking its
    task off the queue, and if it fails later, over a subscription, it leaves what it found when its
    task had run, but for the signal that it met. -/
theorem failure_has_no_effect :
    (∀ (s : Session Subscription) (step : Step), (make s step).failed = true →
      (make s step).after = s) ∧
    (∀ (s : Session (Faulty Subscription)) (step : Step), s.consumer.client.tracker.Honest →
      (make s step).failed = true → (make s step).after = s) ∧
    (∀ s : Session Subscription, (make s .poll).verdict? = none →
      (make s .poll).after =
        { s with consumer := { s.consumer with tasks := s.consumer.tasks.tail } }) ∧
    (∀ (s : Session Subscription) (visiting : Visiting (List Record))
      (shown : Option (List Answer)), (endPoll s visiting shown).failed = true →
      (endPoll s visiting shown).after =
        { s with consumer := { s.consumer with signals := s.consumer.signals.obeyed } }) := by
  refine ⟨?_, ?_, ?_, ?_⟩
  · intro s step h
    exact after_make_of_failed Subscription.atomic trivial h
  · intro s step hhonest h
    exact after_make_of_failed (Faulty.atomic Subscription.atomic) ⟨trivial, hhonest⟩ h
  · intro s h
    exact after_make_poll h
  · intro s visiting shown h
    exact after_endPoll_of_failed h

end Deed

/-! ## A session on which much fails -/

/-- A session with one partition assigned, where a record waits for a poll, a wakeup is armed and a
    task is scheduled. If the tracker can refuse to record commits, it does. -/
def Session.withTaskAndWakeup {τ : Type} [Tracker τ] [Switchable τ] (tracker : τ) : Session τ :=
  ((Run.fresh tracker .empty ⟨30000⟩
    [.request (.assign {orders 0}), .request (.addRecord (order 0 5)), .wakeup .owner,
      .schedule .handle [.isClosed], .switch (some (.refuse .setCommitted)) true]).ahead 5).session

/-- Pausing a list with a partition that is not assigned fails as a whole, and so does a commit that
    the tracker refuses; a poll takes its task and the wakeup, and no more. -/
theorem Session.withTaskAndWakeup_unchanged :
    (Deed.make (Session.withTaskAndWakeup (Subscription.empty .latest))
        (.request (.pause [orders 0, orders 1]))).after =
      Session.withTaskAndWakeup (Subscription.empty .latest) ∧
    (Deed.make (Session.withTaskAndWakeup (Faulty.around (Subscription.empty .latest)))
        (.request (.commitSyncOffsets {(orders 0, Commit.ofOffset 3)}))).after =
      Session.withTaskAndWakeup (Faulty.around (Subscription.empty .latest)) ∧
    (Deed.make (Session.withTaskAndWakeup (Subscription.empty .latest)) .poll
      ).after.consumer.tasks = [] ∧
    (Deed.endPoll (Session.withTaskAndWakeup (Subscription.empty .latest)) .sorted none
      ).after.consumer.signals = {} := by
  obtain ⟨hstep, hfaulty, hbegin, hend⟩ := Deed.failure_has_no_effect
  refine ⟨hstep _ _ (by decide +kernel), hfaulty _ _ ?_ (by decide +kernel), ?_, ?_⟩
  · have hfaults : (Session.withTaskAndWakeup (Faulty.around (Subscription.empty .latest))
      ).consumer.client.tracker.faults = [.refuse .setCommitted] := by decide +kernel
    intro fault hfault
    rw [hfaults] at hfault
    exact ⟨.setCommitted, List.mem_singleton.1 hfault⟩
  · rw [hbegin _ rfl]
    rfl
  · rw [hend _ .sorted none (by decide +kernel)]
    rfl

end ScriptedConsumer
