import Mathlib.Data.List.Forall2
import ScriptedConsumer.Proofs.Lockstep
import ScriptedConsumer.Proofs.Walks

set_option autoImplicit false

/-! # Runs along any orders of visit

Each move of a run may walk through the maps in orders of its own: the tracker through its
assignment, a poll through the buffer, a commit through what it is given. Two runs of one script
then get to the same session, whatever the orders were, and they make the same known.
`Run.Agrees.nextAlong` says it of one move and `Run.orderFree` of any number. What the steps are
answered agrees too, but for the name in the refusal of a commit of several partitions that are not
assigned; `Session.SameBut` says at which steps that can be. -/

namespace ScriptedConsumer

/-! ## Calls and polls -/

namespace Consumer

variable {τ κ : Type} [Tracker τ]

/-- Makes a call on the client of an open consumer. It walks through commits in the given order. -/
def requestAlong (visiting : Visiting Commit) (r : Request) : Action (Consumer τ κ) Reply := do
  ensureOpen
  onClient (Client.handleAlong visiting r)

/-- Ends a poll whose task has run. All its walks through the buffer are in the given order. -/
def endPollAlong (visiting : Visiting (List Record)) : Action (Consumer τ κ) Batch := do
  ensureOpen
  obeySignals
  onClient (Client.fetchAlong visiting)

theorem requestAlong_sorted (r : Request) :
    requestAlong (τ := τ) (κ := κ) .sorted r = request r := by
  unfold requestAlong request
  rw [Client.handleAlong_sorted]

theorem endPollAlong_eq (visiting : Visiting (List Record)) :
    endPollAlong (τ := τ) (κ := κ) visiting = endPoll visiting := by
  unfold endPollAlong endPoll
  rw [Client.fetchAlong_eq]

theorem run_requestAlong (visiting : Visiting Commit) (r : Request) (c : Consumer τ κ) :
    (requestAlong visiting r).run c =
      if c.isClosed then ⟨.error .closed, c, []⟩
      else (onClient (Client.handleAlong visiting r)).run c :=
  run_ensureOpen_bind _ c

omit [Tracker τ] in
theorem client_obeySignals (c : Consumer τ κ) : (obeySignals.run c).state.client = c.client := by
  rw [run_obeySignals]
  split
  · rfl
  · split <;> rfl

section

variable {P : τ → Prop} (hO : Tracker.Orderless τ P) {c : Consumer τ κ} (hc : P c.client.tracker)

include hO hc

theorem requestAlong_cases (visiting visiting' : Visiting Commit) (r : Request) :
    (requestAlong visiting r).run c = (requestAlong visiting' r).run c ∨
    ∃ p q, p ≠ q ∧ c.client.Rejects r p ∧ c.client.Rejects r q ∧
      (requestAlong visiting r).run c = ⟨.error (.unassigned p), c, []⟩ ∧
      (requestAlong visiting' r).run c = ⟨.error (.unassigned q), c, []⟩ := by
  rw [run_requestAlong, run_requestAlong]
  split
  · exact .inl rfl
  · rw [run_onClient, run_onClient]
    rcases Client.handleAlong_cases hO visiting visiting' hc r with
      hsame | ⟨p, q, hpq, hp, hq, hrun, hrun'⟩
    · rw [hsame]
      exact .inl rfl
    · rw [hrun, hrun']
      exact .inr ⟨p, q, hpq, hp, hq, rfl, rfl⟩

theorem run_endPollAlong_congr (visiting visiting' : Visiting (List Record)) :
    (endPollAlong visiting).run c = (endPollAlong visiting').run c := by
  have hrun (visiting : Visiting (List Record)) : (endPollAlong visiting).run c =
      if c.isClosed then ⟨.error .closed, c, []⟩
      else (do obeySignals; onClient (Client.fetchAlong visiting) :
        Action (Consumer τ κ) Batch).run c := run_ensureOpen_bind _ c
  rw [hrun, hrun]
  split
  · rfl
  · refine Action.run_bind_congr ?_
    intro u _
    have hclient : P (obeySignals.run c).state.client.tracker := by
      rw [client_obeySignals]
      exact hc
    rw [run_onClient, run_onClient, Client.run_fetchAlong_congr hO visiting visiting' hclient]

end

end Consumer

/-! ## Steps -/

namespace Session

variable {τ : Type} [Tracker τ]

/-- The end of a poll that walks through the buffer in the given order. -/
def endPollIn (visiting : Visiting (List Record)) (s : Session τ) (answers : Option (List Answer)) :
    Session τ × Answer × List Event :=
  let o := (Consumer.endPollAlong visiting).run s.consumer
  ({ s with consumer := o.state }, .of (.ofResult .batch o.result) false answers, o.events)

/-- A step that is refused for a partition that is not assigned. -/
def refusedFor (s : Session τ) (r : Request) (p : Partition) : Moved τ :=
  ⟨s, .answered (.of (.failed (.unassigned p)) (takesCallback r) none), []⟩

/-- Two moves by which a step is made are the same, but for one thing: if the step is a commit of
    several partitions that are not assigned, each may be refused for another one of these. -/
def SameBut (s : Session τ) (step : Step) (m m' : Moved τ) : Prop :=
  m = m' ∨ ∃ r p q, step = .request r ∧ p ≠ q ∧ s.consumer.client.Rejects r p ∧
    s.consumer.client.Rejects r q ∧ m = s.refusedFor r p ∧ m' = s.refusedFor r q

theorem endPollIn_eq (visiting : Visiting (List Record)) (s : Session τ)
    (answers : Option (List Answer)) :
    s.endPollIn visiting answers = s.endPoll visiting answers := by
  unfold endPollIn
  rw [Consumer.endPollAlong_eq]
  rfl

theorem endPollIn_congr {P : τ → Prop} (hO : Tracker.Orderless τ P)
    (visiting visiting' : Visiting (List Record)) {s : Session τ}
    (hs : P s.consumer.client.tracker) (answers : Option (List Answer)) :
    s.endPollIn visiting answers = s.endPollIn visiting' answers := by
  unfold endPollIn
  rw [Consumer.run_endPollAlong_congr hO hs visiting visiting']

variable [Switchable τ]

/-- What a step does if a call walks through commits in the given order. -/
def turnIn (visiting : Visiting Commit) (s : Session τ) : Step → Moved τ
  | .request r => s.owned (s.attempt (takesCallback r) .reply (Consumer.requestAlong visiting r))
  | step => s.turn step

theorem turnIn_sorted (s : Session τ) (step : Step) : s.turnIn .sorted step = s.turn step := by
  cases step with
  | request r =>
      show s.owned (s.attempt _ _ (Consumer.requestAlong .sorted r)) = _
      rw [Consumer.requestAlong_sorted]
      rfl
  | _ => rfl

theorem sameBut_turnIn {P : τ → Prop} (hO : Tracker.Orderless τ P)
    (visiting visiting' : Visiting Commit) {s : Session τ} (hs : P s.consumer.client.tracker)
    (step : Step) :
    s.SameBut step (s.turnIn visiting step) (s.turnIn visiting' step) := by
  cases step with
  | request r =>
      show s.SameBut (.request r)
        (s.owned (s.attempt _ _ (Consumer.requestAlong visiting r)))
        (s.owned (s.attempt _ _ (Consumer.requestAlong visiting' r)))
      cases hd : s.dropped with
      | true =>
          rw [owned_of_dropped hd, owned_of_dropped hd]
          exact .inl rfl
      | false =>
          rw [owned_of_not_dropped hd, owned_of_not_dropped hd]
          unfold attempt
          rcases Consumer.requestAlong_cases hO hs visiting visiting' r with
            hsame | ⟨p, q, hpq, hp, hq, hrun, hrun'⟩
          · rw [hsame]
            exact .inl rfl
          · rw [hrun, hrun']
            exact .inr ⟨r, p, q, rfl, hpq, hp, hq, rfl, rfl⟩
  | _ => exact .inl rfl

/-! ### Along all maps at once -/

variable [Walks τ]

/-- What a step does along the given orders. -/
def turnAlong (orders : Orders) (s : Session τ) (step : Step) : Moved τ :=
  @turnIn τ (Walks.along orders.assignment) _ orders.commits s step

omit [Switchable τ] in
/-- The end of a poll along the given orders. -/
def endPollAlong (orders : Orders) (s : Session τ) (answers : Option (List Answer)) :
    Session τ × Answer × List Event :=
  @endPollIn τ (Walks.along orders.assignment) orders.buffer s answers

theorem turnAlong_eq (orders : Orders) (s : Session τ) (step : Step) :
    s.turnAlong orders step = s.turnIn orders.commits step := by
  unfold turnAlong
  rw [Walks.along_eq]

omit [Switchable τ] in
theorem endPollAlong_eq (orders : Orders) (s : Session τ) (answers : Option (List Answer)) :
    s.endPollAlong orders answers = s.endPollIn orders.buffer answers := by
  unfold endPollAlong
  rw [Walks.along_eq]

end Session

/-! ## Runs -/

/-- Two answers are the same, up to the names in refusals for partitions that are not assigned,
    also among the answers of a task. -/
inductive Answer.Matches : Answer → Answer → Prop
  | refl (answer : Answer) : Matches answer answer
  | unassigned (p q : Partition) (tookCallback : Bool) :
      Matches (.of (.failed (.unassigned p)) tookCallback none)
        (.of (.failed (.unassigned q)) tookCallback none)
  | task (v : Verdict) (tookCallback : Bool) {answers answers' : List Answer}
      (h : List.Forall₂ Matches answers answers') :
      Matches (.of v tookCallback (some answers)) (.of v tookCallback (some answers'))

/-- Two polls wait with the same script, and the answers before them match. -/
structure Waiting.Matches (w w' : Waiting) : Prop where
  showsTask : w.showsTask = w'.showsTask
  todo : w.todo = w'.todo
  answers : List.Forall₂ Answer.Matches w.answers w'.answers

namespace Run

variable {τ : Type}

/-- Two runs are the same, up to the names in refusals for partitions that are not assigned. -/
structure Agrees (r r' : Run τ) : Prop where
  session : r.session = r'.session
  todo : r.todo = r'.todo
  answers : List.Forall₂ Answer.Matches r.answers r'.answers
  waiting : List.Forall₂ Waiting.Matches r.waiting r'.waiting
  events : r.events = r'.events

theorem Agrees.refl (r : Run τ) : r.Agrees r where
  session := rfl
  todo := rfl
  answers := List.forall₂_same.2 fun answer _ => .refl answer
  waiting := List.forall₂_same.2 fun _ _ =>
    ⟨rfl, rfl, List.forall₂_same.2 fun answer _ => .refl answer⟩
  events := rfl

/-- The next move of a run, by a given way to make a step and a given way to end a poll. -/
def nextBy (turn : Session τ → Step → Moved τ)
    (endPoll : Session τ → Option (List Answer) → Session τ × Answer × List Event) (r : Run τ) :
    Option (Run τ) :=
  let later (n : Nat) : Visiting (List Record) := r.visits (n + 1)
  match r.todo, r.waiting with
  | step :: rest, waiting =>
      let m := turn r.session step
      some <| match m.turn with
        | .answered answer =>
            ⟨m.session, rest, r.answers ++ [answer], waiting, r.events ++ m.events, later⟩
        | .polling task =>
            ⟨m.session, (task.map Task.body).getD [], [],
              ⟨(task.map Task.shows).getD false, rest, r.answers⟩ :: waiting,
              r.events ++ m.events, later⟩
  | [], w :: waiting =>
      let shown := if w.showsTask then some r.answers else none
      let (session, answer, events) := endPoll r.session shown
      some ⟨session, w.todo, w.answers ++ [answer], waiting, r.events ++ events, later⟩
  | [], [] => none

variable [Tracker τ] [Switchable τ]

theorem next?_eq (r : Run τ) :
    r.next? = r.nextBy Session.turn (fun s => s.endPoll (r.visits 0)) := rfl

variable [Walks τ]

/-- The run after its next move along the given orders. A run that is over stays where it is. -/
def nextAlong (orders : Orders) (r : Run τ) : Run τ :=
  (r.nextBy (Session.turnAlong orders) (Session.endPollAlong orders)).getD r

/-- The run that a run gets to in a number of moves, each of them along orders of its own. -/
def aheadAlong (orders : Nat → Orders) (r : Run τ) : Nat → Run τ
  | 0 => r
  | n + 1 => (r.aheadAlong orders n).nextAlong (orders n)

omit [Tracker τ] [Switchable τ] [Walks τ] in
/-- The orders that a run goes along by itself. -/
def ownOrders (r : Run τ) (n : Nat) : Orders := ⟨.sorted, r.visits n, .sorted⟩

/-- A move along the order of the run, of which nothing is asked if the run is over. -/
theorem nextAlong_own {r : Run τ} {visiting : Visiting (List Record)}
    (h : r.next? ≠ none → visiting = r.visits 0) :
    r.nextAlong ⟨.sorted, visiting, .sorted⟩ = r.next?.getD r := by
  have hturn : Session.turnAlong (τ := τ) ⟨.sorted, visiting, .sorted⟩ = Session.turn := by
    funext s step
    exact (Session.turnAlong_eq _ s step).trans (s.turnIn_sorted step)
  have hend : Session.endPollAlong (τ := τ) ⟨.sorted, visiting, .sorted⟩ =
      fun s => s.endPoll visiting := by
    funext s answers
    exact (Session.endPollAlong_eq _ s answers).trans (s.endPollIn_eq _ answers)
  unfold nextAlong
  rw [hturn, hend]
  cases hnext : r.next? with
  | some r' => rw [h (by simp [hnext]), ← next?_eq, hnext]
  | none =>
      rcases r with ⟨session, _ | ⟨step, todo⟩, answers, _ | ⟨w, waiting⟩, events, visits⟩
      · rfl
      all_goals simp [next?] at hnext

omit [Walks τ] in
theorem visits_ahead {r : Run τ} {n : Nat} (h : (r.ahead n).next? ≠ none) :
    (r.ahead n).visits = fun k => r.visits (k + n) := by
  induction n with
  | zero => rfl
  | succ n ih =>
      unfold ahead at h ⊢
      cases hnext : (r.ahead n).next? with
      | none =>
          rw [hnext, Option.getD_none, hnext] at h
          exact absurd rfl h
      | some r' =>
          rw [Option.getD_some, visits_next? hnext, ih (by simp [hnext])]
          funext k
          exact congrArg r.visits (Nat.add_right_comm k 1 n)

theorem aheadAlong_own (r : Run τ) (n : Nat) : r.aheadAlong r.ownOrders n = r.ahead n := by
  induction n with
  | zero => rfl
  | succ n ih =>
      unfold aheadAlong ahead
      rw [ih]
      refine nextAlong_own fun hnext => ?_
      rw [visits_ahead hnext]
      exact (congrArg r.visits (Nat.zero_add n)).symm

theorem Agrees.nextAlong {P : τ → Prop} (hO : Tracker.Orderless τ P) {r r' : Run τ}
    (h : r.Agrees r') (hr : P r.session.consumer.client.tracker) (orders orders' : Orders) :
    (r.nextAlong orders).Agrees (r'.nextAlong orders') := by
  obtain ⟨session, todo, answers, waiting, events, visits⟩ := r
  obtain ⟨session', todo', answers', waiting', events', visits'⟩ := r'
  obtain ⟨rfl, rfl, hanswers, hwaiting, rfl⟩ := h
  unfold Run.nextAlong nextBy
  dsimp only at hanswers hwaiting hr ⊢
  cases todo with
  | cons step rest =>
      dsimp only [Option.getD_some]
      rw [Session.turnAlong_eq, Session.turnAlong_eq]
      rcases Session.sameBut_turnIn hO orders.commits orders'.commits hr step with
        hsame | ⟨r, p, q, -, -, -, -, hm, hm'⟩
      · rw [hsame]
        cases (session.turnIn orders'.commits step).turn with
        | answered answer =>
            exact ⟨rfl, rfl, List.rel_append hanswers (.cons (.refl answer) .nil), hwaiting, rfl⟩
        | polling task => exact ⟨rfl, rfl, .nil, .cons ⟨rfl, rfl, hanswers⟩ hwaiting, rfl⟩
      · rw [hm, hm']
        exact ⟨rfl, rfl, List.rel_append hanswers (.cons (.unassigned p q _) .nil), hwaiting, rfl⟩
  | nil =>
      cases hwaiting with
      | nil => exact ⟨rfl, rfl, hanswers, .nil, rfl⟩
      | @cons w w' rest rest' hw hrest =>
          obtain ⟨shows, next, before⟩ := w
          obtain ⟨shows', next', before'⟩ := w'
          obtain ⟨rfl, rfl, hbefore⟩ := hw
          dsimp only [Option.getD_some] at hbefore ⊢
          rw [Session.endPollAlong_eq, Session.endPollAlong_eq,
            Session.endPollIn_congr hO orders.buffer orders'.buffer hr]
          refine ⟨rfl, rfl, List.rel_append hbefore (.cons ?_ .nil), hrest, rfl⟩
          -- the answer shows those of the task, if they are to be shown
          cases shows with
          | false => exact .refl _
          | true => exact .task _ _ hanswers

/-- In whatever orders the maps are walked through, the run gets to the same in so many moves, and
    each step and each end of a poll comes to the same then. -/
structure OrderFree (r : Run τ) (n : Nat) : Prop where
  agrees : ∀ orders orders' : Nat → Orders, (r.aheadAlong orders n).Agrees (r.aheadAlong orders' n)
  turn : ∀ (before : Nat → Orders) (orders orders' : Orders) (step : Step),
    let s := (r.aheadAlong before n).session
    s.SameBut step (s.turnAlong orders step) (s.turnAlong orders' step)
  endPoll : ∀ (before : Nat → Orders) (orders orders' : Orders) (shown : Option (List Answer)),
    let s := (r.aheadAlong before n).session
    s.endPollAlong orders shown = s.endPollAlong orders' shown

section

variable {P : τ → Prop} (hO : Tracker.Orderless τ P) {r : Run τ} {n : Nat}

theorem tracker_of_agrees {r' : Run τ} (h : r'.Agrees (r.aheadAlong r.ownOrders n))
    (hP : P (r.ahead n).session.consumer.client.tracker) :
    P r'.session.consumer.client.tracker := by
  rw [h.session, aheadAlong_own]
  exact hP

include hO

/-- Runs along different orders agree all along, if the run along the order of partitions meets only
    states in which its tracker tells no order. -/
theorem agrees_aheadAlong (hP : ∀ m < n, P (r.ahead m).session.consumer.client.tracker)
    (orders orders' : Nat → Orders) : (r.aheadAlong orders n).Agrees (r.aheadAlong orders' n) := by
  induction n generalizing orders orders' with
  | zero => exact .refl r
  | succ n ih =>
      have hbefore := ih fun m hm => hP m (Nat.lt_succ_of_lt hm)
      exact (hbefore orders orders').nextAlong hO
        (tracker_of_agrees (hbefore orders _) (hP n (Nat.lt_succ_self n))) (orders n) (orders' n)

theorem orderFree (hP : ∀ m ≤ n, P (r.ahead m).session.consumer.client.tracker) :
    r.OrderFree n := by
  have hagrees := agrees_aheadAlong hO fun m hm => hP m (Nat.le_of_lt hm)
  have htracker (before : Nat → Orders) :=
    tracker_of_agrees (hagrees before _) (hP n (Nat.le_refl n))
  refine ⟨hagrees, ?_, ?_⟩
  · intro before orders orders' step s
    rw [Session.turnAlong_eq, Session.turnAlong_eq]
    exact Session.sameBut_turnIn hO _ _ (htracker before) step
  · intro before orders orders' shown s
    rw [Session.endPollAlong_eq, Session.endPollAlong_eq]
    exact Session.endPollIn_congr hO _ _ (htracker before) shown

end

end Run

/-! ## Runs of new consumers -/

/-- A tracker around a subscription stays honest as long as only refusals are switched on. -/
theorem Run.honest_ahead {r : Run (Faulty Subscription)}
    (hr : r.session.consumer.client.tracker.inner.Coherent ∧
      r.session.consumer.client.tracker.Honest) {n : Nat}
    (h : ∀ d ∈ r.deeds n, d.switchesOnly Fault.isRefusal = true) :
    (r.ahead n).session.consumer.client.tracker.Honest := by
  refine (Run.carries (P := fun ds s => (∀ d ∈ ds, d.switchesOnly Fault.isRefusal = true) →
    (s.consumer.client.tracker.inner.Coherent ∧ s.consumer.client.tracker.Honest) ∧ True)
    ?_ (fun _ => ⟨hr, trivial⟩) n h).1.2
  intro ds d ih hds
  exact Deed.maintains_guarded Faulty.guards Faulty.safeSwitches (hds d (by simp))
    (fun _ _ _ _ _ _ _ => trivial) (ih fun d' hd' => hds d' (by simp [hd']))

/-- **The orders in which the maps are walked through do not matter**, in any run over a
    subscription, and in any run over a tracker around one whose methods may be refused at any
    time: whatever the orders were, the run has got to the same session, and there every step and
    every end of a poll comes to the same, up to the name in the refusal of a commit of several
    partitions that are not assigned. -/
theorem Run.orders_immaterial (policy : ResetPolicy) (catalog : Catalog) (timeout : Timeout)
    (script : List Step) (n : Nat) :
    (fresh (Subscription.empty policy) catalog timeout script).OrderFree n ∧
    ((∀ d ∈ (fresh (Faulty.around (Subscription.empty policy)) catalog timeout script).deeds n,
        d.switchesOnly Fault.isRefusal = true) →
      (fresh (Faulty.around (Subscription.empty policy)) catalog timeout script).OrderFree n) := by
  constructor
  · exact orderFree Subscription.orderless fun _ _ => trivial
  · intro h
    have hstart : (Faulty.around (Subscription.empty policy)).inner.Coherent ∧
        (Faulty.around (Subscription.empty policy)).Honest :=
      ⟨Subscription.coherent_empty policy, by simp [Faulty.Honest, Faulty.around]⟩
    refine orderFree (Faulty.orderless Subscription.orderless) fun m hm => ⟨trivial, ?_⟩
    exact honest_ahead hstart fun d hd => h d (mem_deeds_of_le hm hd)

/-! ## A run in two orders -/

/-- Every map backwards. -/
def Orders.backward : Orders := ⟨.backward, .backward, .backward⟩

/-- Commits of two partitions that are not assigned. -/
def strayCommits : CommitMap :=
  ((∅ : CommitMap).insert (orders 7) ⟨1, ""⟩).insert (orders 8) ⟨2, ""⟩

/-- A run over a tracker that refuses to pause. A poll delivers records of three partitions, after
    its task has dropped a fourth one; then commits are made, at last some that are refused. -/
def Run.pollOfThree : Run (Faulty Subscription) :=
  Run.fresh (Faulty.around (Subscription.empty .earliest)) .empty ⟨30000⟩
    [.request (.assign {orders 0, orders 1, orders 2, orders 3}),
      .request (.seek (orders 0) 10), .request (.seek (orders 1) 20),
      .request (.scriptBeginnings ((∅ : PartitionMap Int64).insert (orders 2) 30)),
      .request (.addRecord (order 0 10)), .request (.addRecord (order 1 20)),
      .request (.addRecord (order 1 21)), .request (.addRecord (order 2 30)),
      .request (.addRecord (order 3 40)), .switch (some (.refuse .pause)) true,
      .request (.pause [orders 0]),
      .schedule .handle [.request (.assign {orders 0, orders 1, orders 2})], .poll,
      .request .commitSync, .request (.commitAsync strayCommits)]

/-- Walked through backwards, the run gets to the same: three positions have been moved behind the
    records and committed. Only the last step is refused for another partition. -/
theorem Run.pollOfThree_orderFree :
    let back := pollOfThree.aheadAlong (fun _ => .backward) 17
    back.session = (pollOfThree.ahead 17).session ∧
    (Tracker.consumed back.session.consumer.client.tracker).toList =
      [(orders 0, ⟨11, ""⟩), (orders 1, ⟨22, ""⟩), (orders 2, ⟨31, ""⟩)] ∧
    back.answers.getLast?.bind (·.verdict.failure?) = some (.unassigned (orders 8)) ∧
    (pollOfThree.ahead 17).answers.getLast?.bind (·.verdict.failure?) =
      some (.unassigned (orders 7)) := by
  have hfree : pollOfThree.OrderFree 17 :=
    (orders_immaterial .earliest .empty ⟨30000⟩ _ 17).2 (by decide +kernel)
  refine ⟨?_, by decide +kernel, by decide +kernel, by decide +kernel⟩
  rw [(hfree.agrees (fun _ => .backward) pollOfThree.ownOrders).session, aheadAlong_own]

end ScriptedConsumer
