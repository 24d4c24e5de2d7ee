import ScriptedConsumer.Proofs.Turns
import ScriptedConsumer.Session.Run

set_option autoImplicit false

/-! # Histories

A run moves by deeds: it makes the next step of its script, or it ends the poll whose task has run.
A deed is told by the session on which it was done, and everything else about it — the session it
leaves, the answer it gives, the task it starts — is read off that session. A history is the list
of the deeds by which a script on a new consumer got to the run at hand, whatever the orders were in
which its polls walked through the buffer. It reaches into tasks and into the polls within tasks, so
a statement about every history is one about every moment in every frame, and about every moment
between the steps of a script: `History.exists_of_mem_playAll`.

What each deed carries on, every history carries: `History.carries`. -/

namespace ScriptedConsumer

/-- What one move of a run does: it makes a step, or it ends the poll that waits for its task, with
    an order of visit for the buffer, and shows the answers of that task's steps. -/
inductive Deed (τ : Type)
  | make (s : Session τ) (step : Step)
  | endPoll (s : Session τ) (visiting : Visiting (List Record)) (shown : Option (List Answer))

/-! ## What deeds do -/

/-- Whether a step ended well. -/
def Verdict.isOk : Verdict → Bool
  | .ok _ => true
  | _ => false

namespace Deed

variable {τ : Type}

/-- The session on which the deed is done. -/
def before : Deed τ → Session τ
  | make s _ => s
  | endPoll s .. => s

variable [Tracker τ] [Switchable τ] [Pattern.Dialect]

/-- The session that the deed leaves. -/
def after : Deed τ → Session τ
  | make s step => (s.turn step).session
  | endPoll s visiting shown => (s.endPoll visiting shown).1

/-- The task whose steps are made next because of the deed. -/
def started : Deed τ → Option Task
  | make s step =>
      match (s.turn step).turn with
      | .answered _ => none
      | .polling task => task
  | endPoll .. => none

/-- How the deed ended. A poll that waits for its task has not ended yet. -/
def verdict? : Deed τ → Option Verdict
  | make s step =>
      match (s.turn step).turn with
      | .answered answer => some answer.verdict
      | .polling _ => none
  | endPoll s visiting shown => some (s.endPoll visiting shown).2.1.verdict

/-- What the deed makes known. -/
def events : Deed τ → List Event
  | make s step => (s.turn step).events
  | endPoll s visiting shown => (s.endPoll visiting shown).2.2

/-- Whether the deed has ended, and ended well. -/
def succeeded (d : Deed τ) : Bool := d.verdict?.any Verdict.isOk

/-- Whether the deed has ended, and ended otherwise. -/
def failed (d : Deed τ) : Bool := d.verdict?.any fun v => !v.isOk

theorem exists_of_failed {d : Deed τ} (h : d.failed = true) :
    ∃ v, d.verdict? = some v ∧ v.isOk = false := by
  unfold failed at h
  cases hv : d.verdict? with
  | none => simp [hv] at h
  | some v =>
      rw [hv, Option.any_some, Bool.not_eq_true'] at h
      exact ⟨v, rfl, h⟩

theorem dropped_before {d : Deed τ} (h : d.after.dropped = false) : d.before.dropped = false := by
  cases d with
  | endPoll s visiting shown => exact h
  | make s step =>
      cases hs : s.dropped with
      | false => exact hs
      | true =>
          have hafter : (after (.make s step)).dropped = true := Session.dropped_turn hs step
          rw [h] at hafter
          cases hafter

theorem isClosed_after {d : Deed τ} (h : d.before.consumer.isClosed = true) :
    d.after.consumer.isClosed = true := by
  cases d with
  | endPoll s visiting shown =>
      have hs : s.consumer.isClosed = true := h
      simp only [after, Session.endPoll_of_closed hs, hs]
  | make s step => exact Session.isClosed_turn h step

end Deed

/-! ## Deeds in a row -/

namespace Run

variable {τ : Type}

/-- The next move of a run, as a deed. -/
def deed? (r : Run τ) : Option (Deed τ) :=
  match r.todo, r.waiting with
  | step :: _, _ => some (.make r.session step)
  | [], w :: _ =>
      some (.endPoll r.session (r.visits 0) (if w.showsTask then some r.answers else none))
  | [], [] => none

variable [Tracker τ] [Switchable τ] [Pattern.Dialect]

/-- The run that a run gets to in a number of moves. A run that is over stays where it is. -/
def ahead (r : Run τ) : Nat → Run τ
  | 0 => r
  | n + 1 => (r.ahead n).next?.getD (r.ahead n)

theorem ahead_succ {r r' : Run τ} (h : r.next? = some r') (n : Nat) :
    r.ahead (n + 1) = r'.ahead n := by
  induction n with
  | zero => simp [ahead, h]
  | succ n ih => rw [ahead, ih, ahead]

theorem ahead_add (r : Run τ) (m n : Nat) : r.ahead (m + n) = (r.ahead m).ahead n := by
  induction n with
  | zero => rfl
  | succ n ih => rw [← Nat.add_assoc, ahead, ahead, ih]

/-- The deeds of these moves, in their order. -/
def deeds (r : Run τ) : Nat → List (Deed τ)
  | 0 => []
  | n + 1 => r.deeds n ++ (r.ahead n).deed?.toList

theorem mem_deeds_of_le {r : Run τ} {m n : Nat} (h : m ≤ n) {d : Deed τ} (hd : d ∈ r.deeds m) :
    d ∈ r.deeds n := by
  induction h with
  | refl => exact hd
  | step _ ih => exact List.mem_append_left _ ih

omit [Tracker τ] [Switchable τ] [Pattern.Dialect] in
theorem before_of_deed? {r : Run τ} {d : Deed τ} (h : r.deed? = some d) :
    d.before = r.session := by
  unfold deed? at h
  split at h
  · cases h
    rfl
  · cases h
    rfl
  · cases h

theorem after_of_deed? {r r' : Run τ} {d : Deed τ} (h : r.deed? = some d)
    (hn : r.next? = some r') : d.after = r'.session := by
  rcases r with ⟨session, _ | ⟨step, rest⟩, answers, waiting, events, visits⟩
  · rcases waiting with _ | ⟨w, waiting⟩
    · simp [next?] at hn
    · simp only [deed?, Option.some.injEq] at h
      simp only [next?, Option.some.injEq] at hn
      subst h hn
      rfl
  · simp only [deed?, Option.some.injEq] at h
    simp only [next?, Option.some.injEq] at hn
    subst h hn
    unfold Deed.after
    cases (session.turn step).turn <;> rfl

theorem events_of_deed? {r r' : Run τ} {d : Deed τ} (h : r.deed? = some d)
    (hn : r.next? = some r') : r'.events = r.events ++ d.events := by
  rcases r with ⟨session, _ | ⟨step, rest⟩, answers, waiting, events, visits⟩
  · rcases waiting with _ | ⟨w, waiting⟩
    · simp [next?] at hn
    · simp only [deed?, Option.some.injEq] at h
      simp only [next?, Option.some.injEq] at hn
      subst h hn
      rfl
  · simp only [deed?, Option.some.injEq] at h
    simp only [next?, Option.some.injEq] at hn
    subst h hn
    unfold Deed.events
    cases (session.turn step).turn <;> rfl

/-- The task that a deed starts is what the run goes on with. -/
theorem todo_of_started {r r' : Run τ} {d : Deed τ} {task : Task} (h : r.deed? = some d)
    (hn : r.next? = some r') (hs : d.started = some task) : r'.todo = task.body := by
  rcases r with ⟨session, _ | ⟨step, rest⟩, answers, waiting, events, visits⟩
  · rcases waiting with _ | ⟨w, waiting⟩
    · simp [next?] at hn
    · simp only [deed?, Option.some.injEq] at h
      subst h
      simp [Deed.started] at hs
  · simp only [deed?, Option.some.injEq] at h
    simp only [next?, Option.some.injEq] at hn
    subst h hn
    cases hturn : (session.turn step).turn with
    | answered answer => simp only [Deed.started, hturn, reduceCtorEq] at hs
    | polling task' =>
        simp only [Deed.started, hturn] at hs
        simp only [hs, Option.map_some, Option.getD_some]

theorem next?_of_deed?_eq_none {r : Run τ} (h : r.deed? = none) : r.next? = none := by
  rcases r with ⟨session, _ | ⟨step, rest⟩, answers, _ | ⟨w, waiting⟩, events, visits⟩
  · rfl
  all_goals simp [deed?] at h

theorem next?_of_deed? {r : Run τ} {d : Deed τ} (h : r.deed? = some d) :
    ∃ r', r.next? = some r' := by
  rcases r with ⟨session, _ | ⟨step, rest⟩, answers, _ | ⟨w, waiting⟩, events, visits⟩
  · simp [deed?] at h
  all_goals exact ⟨_, rfl⟩

/-- One more move: the run is over and stays where it is, or it does one more deed. -/
theorem succ_cases (r : Run τ) (n : Nat) :
    (r.ahead (n + 1) = r.ahead n ∧ r.deeds (n + 1) = r.deeds n) ∨
      ∃ d, (r.ahead n).deed? = some d ∧ (r.ahead n).next? = some (r.ahead (n + 1)) ∧
        r.deeds (n + 1) = r.deeds n ++ [d] := by
  cases hd : (r.ahead n).deed? with
  | none =>
      have hn : (r.ahead n).next? = none := next?_of_deed?_eq_none hd
      exact Or.inl ⟨by simp [ahead, hn], by simp [deeds, hd]⟩
  | some d =>
      obtain ⟨r', hn⟩ := next?_of_deed? hd
      exact Or.inr ⟨d, rfl, by simp [ahead, hn], by simp [deeds, hd]⟩

/-- Steps that are no polls are taken off the script one by one. -/
theorem todo_ahead {r : Run τ} {n : Nat} (hn : n ≤ r.todo.length)
    (h : ∀ step ∈ r.todo.take n, step ≠ .poll) : (r.ahead n).todo = r.todo.drop n := by
  induction n generalizing r with
  | zero => rfl
  | succ n ih =>
      rcases r with ⟨session, _ | ⟨step, rest⟩, answers, waiting, events, visits⟩
      · exact absurd hn (Nat.not_succ_le_zero n)
      · obtain ⟨answer, hanswer⟩ := Session.exists_answered (h step List.mem_cons_self) session
        let m := session.turn step
        have hnext : next? ⟨session, step :: rest, answers, waiting, events, visits⟩ =
            some ⟨m.session, rest, answers ++ [answer], waiting, events ++ m.events,
              fun n => visits (n + 1)⟩ := by
          simp only [next?, hanswer, m]
        rw [ahead_succ hnext]
        exact ih (Nat.le_of_succ_le_succ hn) fun step hstep => h step (List.mem_cons_of_mem _ hstep)

theorem deeds_succ_of_todo {r : Run τ} {n : Nat} {step : Step} {rest : List Step}
    (h : (r.ahead n).todo = step :: rest) :
    r.deeds (n + 1) = r.deeds n ++ [.make (r.ahead n).session step] := by
  rw [deeds, deed?, h, Option.toList_some]

theorem events_ahead (r : Run τ) (n : Nat) :
    (r.ahead n).events = r.events ++ (r.deeds n).flatMap Deed.events := by
  induction n with
  | zero => simp [ahead, deeds]
  | succ n ih =>
      rcases r.succ_cases n with ⟨hahead, hdeeds⟩ | ⟨d, hd, hn, hdeeds⟩
      · rw [hahead, hdeeds, ih]
      · rw [events_of_deed? hd hn, hdeeds, ih, List.flatMap_append, List.flatMap_singleton,
          List.append_assoc]

/-- What holds of a run before any move and is carried on by each move holds all along the run. -/
theorem carries_moves {P : List (Deed τ) → Run τ → Prop}
    (hstep : ∀ ds r r' d, r.deed? = some d → r.next? = some r' → P ds r → P (ds ++ [d]) r')
    {r : Run τ} (h0 : P [] r) (n : Nat) : P (r.deeds n) (r.ahead n) := by
  induction n with
  | zero => exact h0
  | succ n ih =>
      rcases r.succ_cases n with ⟨hahead, hdeeds⟩ | ⟨d, hd, hn, hdeeds⟩
      · rw [hahead, hdeeds]
        exact ih
      · rw [hdeeds]
        exact hstep _ _ _ d hd hn ih

/-- What holds of a session before any deed and is carried on by each deed holds all along a run. -/
theorem carries {P : List (Deed τ) → Session τ → Prop}
    (hstep : ∀ ds d, P ds d.before → P (ds ++ [d]) d.after) {r : Run τ} (h0 : P [] r.session)
    (n : Nat) : P (r.deeds n) (r.ahead n).session := by
  refine carries_moves (P := fun ds r => P ds r.session) ?_ h0 n
  intro ds r r' d hd hn h
  rw [← after_of_deed? hd hn]
  rw [← before_of_deed? hd] at h
  exact hstep ds d h

/-- The deeds before any one of a run's deeds are those by which the run gets to it. -/
theorem exists_of_deeds_eq {r : Run τ} {n : Nat} {pre post : List (Deed τ)} {d : Deed τ}
    (h : r.deeds n = pre ++ d :: post) : ∃ m, r.deeds m = pre ∧ (r.ahead m).deed? = some d := by
  induction n generalizing post with
  | zero => simp [deeds] at h
  | succ n ih =>
      rcases r.succ_cases n with ⟨-, hdeeds⟩ | ⟨d', hd, -, hdeeds⟩
      · exact ih (hdeeds ▸ h)
      · rw [hdeeds] at h
        rcases List.eq_nil_or_concat post with rfl | ⟨post, last, rfl⟩
        · obtain ⟨hpre, hlast⟩ := List.append_inj' h rfl
          exact ⟨n, hpre, by rw [hd, List.singleton_inj.1 hlast]⟩
        · -- the last deed is none of those up to `d`
          rw [List.concat_eq_append, ← List.cons_append, ← List.append_assoc] at h
          exact ih (List.append_inj' h rfl).1

/-! ## The end of a run -/

/-- A move keeps the polls that wait, unless it ends the innermost one. -/
theorem waiting_next? {r r' : Run τ} (hn : r.next? = some r') {inner : List Waiting} {w : Waiting}
    {outer : List Waiting} (hwaiting : r.waiting = inner ++ w :: outer) :
    (r.todo = [] ∧ inner = []) ∨ ∃ inner', r'.waiting = inner' ++ w :: outer := by
  rcases r with ⟨session, _ | ⟨step, rest⟩, answers, waiting, events, visits⟩
  · cases inner with
    | nil => exact .inl ⟨rfl, rfl⟩
    | cons v inner =>
        subst hwaiting
        simp only [List.cons_append, next?, Option.some.injEq] at hn
        subst hn
        exact .inr ⟨inner, rfl⟩
  · subst hwaiting
    simp only [next?, Option.some.injEq] at hn
    subst hn
    refine .inr ?_
    cases (session.turn step).turn with
    | answered answer => exact ⟨inner, rfl⟩
    | polling task => exact ⟨_ :: inner, rfl⟩

/-- A poll that waits comes to its end: its task and all that the task polls for are done then. -/
theorem exists_ahead_of_waiting {r : Run τ} {inner : List Waiting} {w : Waiting}
    {outer : List Waiting} (hwaiting : r.waiting = inner ++ w :: outer) :
    ∃ n, (r.ahead n).todo = [] ∧ (r.ahead n).waiting = w :: outer := by
  induction r using finish.induct generalizing inner with
  | case1 r r' hn ih =>
      rcases waiting_next? hn hwaiting with ⟨htodo, rfl⟩ | ⟨inner', hwaiting'⟩
      · exact ⟨0, htodo, hwaiting⟩
      · obtain ⟨n, hdone⟩ := ih hwaiting'
        refine ⟨n + 1, ?_⟩
        rw [ahead_succ hn]
        exact hdone
  | case2 r hn =>
      rcases r with ⟨session, _ | ⟨step, rest⟩, answers, waiting, events, visits⟩
      · cases inner with
        | nil =>
            subst hwaiting
            cases hn
        | cons v inner =>
            subst hwaiting
            cases hn
      · cases hn

/-- A run is over after at most as many moves as its measure says. -/
theorem exists_ahead_over (r : Run τ) : ∃ n ≤ r.measure, (r.ahead n).next? = none := by
  induction r using finish.induct with
  | case1 r r' hn ih =>
      obtain ⟨n, hle, hover⟩ := ih
      have hless : r'.measure < r.measure := measure_next hn
      refine ⟨n + 1, by omega, ?_⟩
      rw [ahead_succ hn]
      exact hover
  | case2 r hn => exact ⟨0, Nat.zero_le _, hn⟩

/-! ## Scripts made step by step

`Session.playAll` makes each step of a script in a run of its own. These runs are stretches of the
one run that makes the whole script. -/

omit [Tracker τ] [Switchable τ] [Pattern.Dialect] in
/-- Puts steps behind the outermost of the scripts that wait, and answers before its own. -/
def widened (rest : List Step) (before : List Answer) : List Waiting → List Waiting
  | [] => []
  | [w] => [{ w with todo := w.todo ++ rest, answers := before ++ w.answers }]
  | w :: w' :: waiting => w :: widened rest before (w' :: waiting)

/-- The run as a stretch of a longer one: steps wait behind its script, and there were answers and
    events before. -/
def amid (rest : List Step) (before : List Answer) (past : List Event) (r : Run τ) : Run τ :=
  match r.waiting with
  | [] => ⟨r.session, r.todo ++ rest, before ++ r.answers, [], past ++ r.events, r.visits⟩
  | w :: waiting => ⟨r.session, r.todo, r.answers, widened rest before (w :: waiting),
      past ++ r.events, r.visits⟩

theorem next?_amid (rest : List Step) (before : List Answer) (past : List Event) {r r' : Run τ}
    (h : r.next? = some r') :
    (r.amid rest before past).next? = some (r'.amid rest before past) := by
  rcases r with ⟨session, _ | ⟨step, todo⟩, answers, waiting, events, visits⟩
  · rcases waiting with _ | ⟨w, _ | ⟨w', waiting⟩⟩
    · simp [next?] at h
    all_goals
      simp only [next?, Option.some.injEq] at h
      subst h
      simp [amid, next?, widened]
  · simp only [next?, Option.some.injEq] at h
    subst h
    cases hturn : (session.turn step).turn <;> rcases waiting with _ | ⟨w, waiting⟩ <;>
      simp [amid, next?, widened, hturn]

theorem finish_of_next? {r r' : Run τ} (h : r.next? = some r') : r.finish = r'.finish := by
  rw [finish]
  split
  · next r'' h' =>
      rw [h, Option.some.injEq] at h'
      rw [h']
  · next h' =>
      rw [h] at h'
      cases h'

theorem finish_of_next?_eq_none {r : Run τ} (h : r.next? = none) : r.finish = r := by
  rw [finish]
  split
  · next r' h' =>
      rw [h] at h'
      cases h'
  · rfl

theorem next?_finish (r : Run τ) : r.finish.next? = none := by
  induction r using finish.induct with
  | case1 r r' h ih =>
      rw [finish_of_next? h]
      exact ih
  | case2 r h =>
      rw [finish_of_next?_eq_none h]
      exact h

theorem amid_of_next?_eq_none (rest : List Step) (before : List Answer) (past : List Event)
    {r : Run τ} (h : r.next? = none) :
    r.amid rest before past =
      ⟨r.session, rest, before ++ r.answers, [], past ++ r.events, r.visits⟩ := by
  rcases r with ⟨session, _ | ⟨step, todo⟩, answers, _ | ⟨w, waiting⟩, events, visits⟩
  · simp [amid]
  all_goals simp [next?] at h

/-- A run that is a stretch of a longer one brings that one to its own end. -/
theorem exists_ahead_amid (rest : List Step) (before : List Answer) (past : List Event)
    (r : Run τ) : ∃ n, (r.amid rest before past).ahead n = r.finish.amid rest before past := by
  induction r using finish.induct with
  | case1 r r' h ih =>
      obtain ⟨n, hn⟩ := ih
      refine ⟨n + 1, ?_⟩
      rw [ahead_succ (next?_amid rest before past h), hn, finish_of_next? h]
  | case2 r h =>
      refine ⟨0, ?_⟩
      rw [finish_of_next?_eq_none h]
      rfl

theorem visits_next? {r r' : Run τ} (h : r.next? = some r') :
    r'.visits = fun n => r.visits (n + 1) := by
  rcases r with ⟨session, _ | ⟨step, todo⟩, answers, waiting, events, visits⟩
  · rcases waiting with _ | ⟨w, waiting⟩
    · simp [next?] at h
    · simp only [next?, Option.some.injEq] at h
      subst h
      rfl
  · simp only [next?, Option.some.injEq] at h
    subst h
    cases (session.turn step).turn <;> rfl

theorem visits_finish {r : Run τ} (h : r.visits = fun _ => .sorted) :
    r.finish.visits = fun _ => .sorted := by
  induction r using finish.induct with
  | case1 r r' hn ih =>
      rw [finish_of_next? hn]
      exact ih (by rw [visits_next? hn, h])
  | case2 r hn => rw [finish_of_next?_eq_none hn, h]

/-- The sessions that a script leaves after each of its steps, made one by one, are sessions that
    the run of the whole script gets to. -/
theorem exists_ahead_of_mem_playAll {s : Session τ} {script : List Step} {r : Run τ}
    (h : r ∈ s.playAll script) : ∃ n, ((Run.start s script).ahead n).session = r.session := by
  -- the answers and the events of the steps before are whatever they are
  suffices go : ∀ (script : List Step) (s : Session τ) (before : List Answer) (past : List Event),
      r ∈ s.playAll script →
        ∃ n, ((⟨s, script, before, [], past, fun _ => .sorted⟩ : Run τ).ahead n).session
          = r.session from
    go script s [] [] h
  intro script
  induction script with
  | nil =>
      intro s before past h
      simp [Session.playAll] at h
  | cons step rest ih =>
      intro s before past h
      -- the first step, made in a run of its own, is a stretch of the run of the script
      have hstart : (Run.start s [step]).amid rest before past
          = ⟨s, step :: rest, before, [], past, fun _ => .sorted⟩ := by
        simp [Run.start, startIn, amid]
      obtain ⟨m, hm⟩ := exists_ahead_amid rest before past (Run.start s [step])
      rw [hstart, amid_of_next?_eq_none rest before past (next?_finish _),
        visits_finish rfl] at hm
      rcases List.mem_cons.1 h with rfl | hrest
      · refine ⟨m, ?_⟩
        rw [hm]
        rfl
      · obtain ⟨n, hn⟩ := ih (s.play step).session _ _ hrest
        refine ⟨m + n, ?_⟩
        rw [ahead_add, hm]
        exact hn

end Run

/-! ## Histories of a new consumer -/

/-- A script about to be run on a new consumer, with the orders of visit of its moves. -/
def Run.freshIn {τ : Type} (visits : Nat → Visiting (List Record)) (tracker : τ)
    (catalog : Catalog) (timeout : Timeout) (script : List Step) : Run τ :=
  Run.startIn visits (Session.start (Consumer.start tracker catalog timeout)) script

/-- A script about to be run on a new consumer, with the order of partitions for every move. -/
def Run.fresh {τ : Type} (tracker : τ) (catalog : Catalog) (timeout : Timeout)
    (script : List Step) : Run τ :=
  Run.freshIn (fun _ => .sorted) tracker catalog timeout script

variable {τ : Type} [Tracker τ] [Switchable τ] [Pattern.Dialect]

/-- The deeds by which some script, made on a new consumer with the given tracker, got to a run, in
    whatever orders the buffer was walked through. -/
def History (tracker : τ) (ds : List (Deed τ)) (r : Run τ) : Prop :=
  ∃ (visits : Nat → Visiting (List Record)) (catalog : Catalog) (timeout : Timeout)
    (script : List Step) (n : Nat),
    ds = (Run.freshIn visits tracker catalog timeout script).deeds n ∧
    r = (Run.freshIn visits tracker catalog timeout script).ahead n

namespace History

variable {tracker : τ} {ds : List (Deed τ)} {r : Run τ}

theorem of_moves (visits : Nat → Visiting (List Record)) (tracker : τ) (catalog : Catalog)
    (timeout : Timeout) (script : List Step) (n : Nat) :
    History tracker ((Run.freshIn visits tracker catalog timeout script).deeds n)
      ((Run.freshIn visits tracker catalog timeout script).ahead n) :=
  ⟨visits, catalog, timeout, script, n, rfl, rfl⟩

theorem exists_before (h : History tracker ds r) {pre post : List (Deed τ)} {d : Deed τ}
    (hds : ds = pre ++ d :: post) : ∃ r', History tracker pre r' ∧ r'.session = d.before := by
  obtain ⟨visits, catalog, timeout, script, n, rfl, -⟩ := h
  obtain ⟨m, hpre, hd⟩ := Run.exists_of_deeds_eq hds
  refine ⟨_, hpre ▸ of_moves visits tracker catalog timeout script m, ?_⟩
  rw [Run.before_of_deed? hd]

/-- Histories get to every session that a script on a new consumer leaves after one of its steps. -/
theorem exists_of_mem_playAll {catalog : Catalog} {timeout : Timeout} {script : List Step}
    {r : Run τ} (h : r ∈ (Session.start (Consumer.start tracker catalog timeout)).playAll script) :
    ∃ ds r', History tracker ds r' ∧ r'.session = r.session := by
  obtain ⟨n, hn⟩ := Run.exists_ahead_of_mem_playAll h
  exact ⟨_, _, of_moves (fun _ => .sorted) tracker catalog timeout script n, hn⟩

/-- What holds of every new consumer and is carried on by each deed holds in every history. -/
theorem carries {P : List (Deed τ) → Session τ → Prop} (h : History tracker ds r)
    (hstart : ∀ catalog timeout, P [] (Session.start (Consumer.start tracker catalog timeout)))
    (hstep : ∀ ds d, P ds d.before → P (ds ++ [d]) d.after) : P ds r.session := by
  obtain ⟨visits, catalog, timeout, script, n, rfl, rfl⟩ := h
  exact Run.carries hstep (hstart catalog timeout) n

/-- What holds of every run about to start and is carried on by each move holds in every history. -/
theorem carries_moves {P : List (Deed τ) → Run τ → Prop} (h : History tracker ds r)
    (hstart : ∀ visits catalog timeout script,
      P [] (Run.freshIn visits tracker catalog timeout script))
    (hstep : ∀ ds r r' d, r.deed? = some d → r.next? = some r' → P ds r → P (ds ++ [d]) r') :
    P ds r := by
  obtain ⟨visits, catalog, timeout, script, n, rfl, rfl⟩ := h
  exact Run.carries_moves hstep (hstart visits catalog timeout script) n

/-- What holds after one deed of a history and is carried on by each later one holds at its end. -/
theorem carries_since {P : Session τ → Prop} {pre post : List (Deed τ)} {d : Deed τ}
    (h : History tracker (pre ++ d :: post) r) (hd : P d.after)
    (hstep : ∀ d' ∈ post, P d'.before → P d'.after) : P r.session := by
  refine h.carries (P := fun ds s => ∀ post, ds = pre ++ d :: post →
    (∀ d' ∈ post, P d'.before → P d'.after) → P s) ?_ ?_ post rfl hstep
  · intro catalog timeout post hds
    simp at hds
  · intro ds last ih post hds hstep
    rcases List.eq_nil_or_concat post with rfl | ⟨post, d', rfl⟩
    · obtain ⟨-, hlast⟩ := List.append_inj' hds rfl
      rw [(List.cons.inj hlast).1]
      exact hd
    · rw [List.concat_eq_append, ← List.cons_append, ← List.append_assoc] at hds
      obtain ⟨hbefore, hlast⟩ := List.append_inj' hds rfl
      obtain rfl := (List.cons.inj hlast).1
      have hmem : last ∈ post.concat last := by simp
      exact hstep last hmem
        (ih post hbefore fun d' hd' => hstep d' (by simp [hd']))

theorem events_eq (h : History tracker ds r) : r.events = ds.flatMap Deed.events := by
  obtain ⟨visits, catalog, timeout, script, n, rfl, rfl⟩ := h
  exact Run.events_ahead _ n

/-- What goes into a store at one end and out at the other: if every deed keeps the two in balance
    as long as `live` holds, then all that went in is all that came out, followed by what is still
    there. -/
theorem balance {α : Type} (live : Session τ → Prop) (store : Session τ → List α)
    {added taken : Deed τ → List α} (h : History tracker ds r)
    (hstart : ∀ catalog timeout,
      store (Session.start (Consumer.start tracker catalog timeout)) = [])
    (hlive : ∀ d : Deed τ, live d.after → live d.before)
    (hstep : ∀ d : Deed τ, live d.after → store d.before ++ added d = taken d ++ store d.after)
    (hr : live r.session) : ds.flatMap added = ds.flatMap taken ++ store r.session := by
  have hone (f : Deed τ → List α) (ds : List (Deed τ)) (d : Deed τ) :
      (ds ++ [d]).flatMap f = ds.flatMap f ++ f d := by
    rw [List.flatMap_append, List.flatMap_singleton]
  refine h.carries (P := fun ds s => live s → ds.flatMap added = ds.flatMap taken ++ store s)
    ?_ ?_ hr
  · intro catalog timeout _
    rw [hstart catalog timeout]
    rfl
  · intro ds d ih hd
    calc (ds ++ [d]).flatMap added
        = ds.flatMap taken ++ (store d.before ++ added d) := by
          rw [hone, ih (hlive d hd), List.append_assoc]
      _ = (ds ++ [d]).flatMap taken ++ store d.after := by
          rw [hstep d hd, hone, List.append_assoc]

end History

/-! ## For examples -/

/-- A partition of one topic. -/
def orders (index : Int32) : Partition := ⟨"orders", index⟩

/-- A record of such a partition. -/
def order (index : Int32) (offset : Int64) : Record :=
  { partition := orders index, offset := offset }

end ScriptedConsumer
