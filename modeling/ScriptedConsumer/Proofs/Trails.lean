import Mathlib.Data.List.Flatten
import Mathlib.Data.List.Forall2
import Mathlib.Data.List.Perm.Subperm
import ScriptedConsumer.Proofs.Balance

set_option autoImplicit false

/-! # Every step at most once

A script is a tree: a step that schedules a task has the steps of the task below it, and these may
schedule tasks again. Its nodes are numbered, parents first. A trail tells of a run by these
numbers: which nodes were made, which tasks were started, and which nodes are left in the script, in
those that wait for it and in the tasks of the queue.

A node that is made leaves what is left, and what a task has left was left of the script that
scheduled it: no number is ever copied. So no node is made twice, and no task started twice. And a
run ends, and with it every poll, since what is left gets less. -/

namespace ScriptedConsumer

/-! ## The nodes of a script -/

mutual

/-- A step, then the steps of the task that it schedules, and those of the tasks in it. -/
def Step.nodes : Step → List Step
  | .schedule party body => .schedule party body :: nodesOf body
  | step => [step]

/-- The nodes of the steps of a script, one step after the other. -/
def nodesOf : List Step → List Step
  | [] => []
  | step :: rest => step.nodes ++ nodesOf rest

end

namespace Step

/-- The steps of the task that a step schedules. -/
def body : Step → List Step
  | .schedule _ body => body
  | _ => []

/-- Whether the step is a poll. -/
def isPoll : Step → Bool
  | .poll => true
  | _ => false

theorem nodes_eq (step : Step) : step.nodes = step :: nodesOf step.body := by
  cases step <;> simp [nodes, nodesOf, body]

theorem weight_eq (step : Step) : step.weight = 1 + weightOf step.body := by
  cases step <;> simp [weight, weightOf, body]

theorem body_of_task? {step : Step} {task : Task} (h : step.task? = some task) :
    task.body = step.body := by
  cases step with
  | schedule | scheduleNop =>
      cases h
      rfl
  | _ => cases h

end Step

theorem length_nodesOf (script : List Step) : (nodesOf script).length = weightOf script := by
  refine weightOf.induct (fun step => step.nodes.length = step.weight)
    (fun script => (nodesOf script).length = weightOf script) ?_ ?_ ?_ ?_ script
  · intro party body ih
    rw [Step.nodes_eq, Step.weight_eq, List.length_cons, Nat.add_comm]
    exact congrArg (1 + ·) ih
  · intro step hother
    cases step with
    | schedule party body => exact absurd rfl (hother party body)
    | _ => rfl
  · rfl
  · intro step rest hstep hrest
    rw [nodesOf, weightOf, List.length_append, hstep, hrest]

/-! ## Trails -/

/-- What is told of a run by the numbers of the nodes of its script. -/
structure Trail where
  /-- The steps made so far, in their order. -/
  made : List Nat
  /-- The steps that scheduled the tasks started so far, in the order of these. -/
  started : List Nat
  /-- What is left of the script that is being made. -/
  todo : List Nat
  /-- What is left of the scripts that wait, innermost first. -/
  waiting : List (List Nat)
  /-- The steps that scheduled the tasks in the queue, each with the nodes of its task. -/
  queue : List (Nat × List Nat)

variable {τ : Type} [Tracker τ] [Switchable τ]

namespace Trail

/-- The trail of a script about to be run. -/
def start (script : List Step) : Trail := ⟨[], [], List.range (nodesOf script).length, [], []⟩

omit [Tracker τ] [Switchable τ] in
/-- The trail of a poll that finds the consumer open: it goes on with the task at the head of the
    queue. -/
def polled (t : Trail) (k : Nat) (rest : List Nat) : Trail where
  made := t.made ++ [k]
  started := t.started ++ t.queue.head?.toList.map (·.1)
  todo := t.queue.head?.elim [] (·.2)
  waiting := rest :: t.waiting
  queue := t.queue.tail

/-- The trail of any other step, made as a node with the given nodes below it. They are queued if it
    schedules a task. -/
def passed (t : Trail) (d : Deed τ) (k : Nat) (below rest : List Nat) : Trail :=
  { t with
    made := t.made ++ [k]
    todo := rest
    queue :=
      if d.after.dropped then []
      else if d.scheduled.isSome then t.queue ++ [(k, below)]
      else t.queue }

/-- The trail after one more deed. -/
def next (t : Trail) : Deed τ → Trail
  | .endPoll .. => { t with todo := t.waiting.head?.getD [], waiting := t.waiting.tail }
  | .make s step =>
      match t.todo with
      | [] => t
      | k :: later =>
          let size := (nodesOf step.body).length
          if (Deed.make s step).entersPoll then t.polled k (later.drop size)
          else t.passed (.make s step) k (later.take size) (later.drop size)

/-- The trail of a script after some deeds. -/
def along (script : List Step) (ds : List (Deed τ)) : Trail := ds.foldl next (start script)

theorem along_concat (script : List Step) (ds : List (Deed τ)) (d : Deed τ) :
    along script (ds ++ [d]) = (along script ds).next d := by
  rw [along, List.foldl_append]
  rfl

theorem along_induction {P : Trail → Prop} {script : List Step} (hstart : P (start script))
    (hnext : ∀ (t : Trail) (d : Deed τ), P t → P (t.next d)) (ds : List (Deed τ)) :
    P (along script ds) := by
  unfold along
  generalize start script = t at hstart
  induction ds generalizing t with
  | nil => exact hstart
  | cons d ds ih => exact ih _ (hnext t d hstart)

/-! ## No number is copied -/

/-- All numbers on a trail: the steps made, and the steps that may be made still. -/
def labels (t : Trail) : List Nat :=
  t.made ++ (t.todo ++ (t.waiting.flatten ++ t.queue.flatMap (·.2)))

omit [Tracker τ] [Switchable τ] in
theorem count_labels_polled (t : Trail) {k : Nat} {later rest : List Nat}
    (htodo : t.todo = k :: later) (hrest : rest.Sublist later) (x : Nat) :
    (t.polled k rest).labels.count x ≤ t.labels.count x := by
  have hle : rest.count x ≤ later.count x := hrest.count_le x
  simp only [labels, polled, htodo, List.count_append, List.count_cons, List.flatten_cons,
    List.count_nil]
  cases t.queue with
  | nil =>
      simp
      omega
  | cons e queue =>
      simp only [List.head?_cons, Option.elim_some, List.tail_cons, List.flatMap_cons,
        List.count_append]
      omega

/-- What is queued by a step that passes is itself, with what is below it, or nothing. -/
theorem queue_passed (t : Trail) (d : Deed τ) (k : Nat) (below rest : List Nat) :
    (t.passed d k below rest).queue.Sublist (t.queue ++ [(k, below)]) := by
  unfold passed
  dsimp only
  split
  · exact List.nil_sublist _
  · split
    · exact List.Sublist.refl _
    · exact List.sublist_append_left _ _

theorem count_labels_passed (t : Trail) (d : Deed τ) {k : Nat} {below rest : List Nat}
    (htodo : t.todo = k :: (below ++ rest)) (x : Nat) :
    (t.passed d k below rest).labels.count x ≤ t.labels.count x := by
  have hqueue := ((t.queue_passed d k below rest).flatMap (·.2)).count_le x
  rw [List.flatMap_append, List.flatMap_singleton, List.count_append] at hqueue
  simp only [labels, htodo, List.count_append, List.count_cons]
  simp only [passed, List.count_append, List.count_cons, List.count_nil] at hqueue ⊢
  omega

theorem count_labels_next (t : Trail) (d : Deed τ) (x : Nat) :
    (t.next d).labels.count x ≤ t.labels.count x := by
  cases d with
  | endPoll s visiting shown =>
      simp only [next, labels, List.count_append]
      cases t.waiting with
      | nil => simp
      | cons ks waiting =>
          simp
          omega
  | make s step =>
      cases htodo : t.todo with
      | nil => simp only [next, htodo, Nat.le_refl]
      | cons k later =>
          simp only [next, htodo]
          split
          · exact t.count_labels_polled htodo (List.drop_sublist _ _) x
          · refine t.count_labels_passed _ ?_ x
            rw [htodo, List.take_append_drop]

/-- **No node is made twice.** -/
theorem nodup_made (script : List Step) (ds : List (Deed τ)) : (along script ds).made.Nodup := by
  have hlabels : ∀ x, (along script ds).labels.count x ≤ 1 := by
    refine along_induction (P := fun t => ∀ x, t.labels.count x ≤ 1) ?_ ?_ ds
    · have hrange : (start script).labels = List.range (nodesOf script).length := by
        simp [labels, start]
      rw [hrange]
      exact List.nodup_iff_count_le_one.1 List.nodup_range
    · intro t d ih x
      exact Nat.le_trans (t.count_labels_next d x) (ih x)
  refine List.nodup_iff_count_le_one.2 fun x => Nat.le_trans ?_ (hlabels x)
  rw [labels, List.count_append]
  exact Nat.le_add_right _ _

/-- Whatever was started or is queued was scheduled by a node of its own. -/
theorem count_started_next (t : Trail) (d : Deed τ) (x : Nat)
    (h : t.started.count x + (t.queue.map (·.1)).count x ≤ t.made.count x) :
    (t.next d).started.count x + ((t.next d).queue.map (·.1)).count x ≤
      (t.next d).made.count x := by
  cases d with
  | endPoll s visiting shown => exact h
  | make s step =>
      cases htodo : t.todo with
      | nil =>
          simp only [next, htodo]
          exact h
      | cons k later =>
          simp only [next, htodo]
          split
          · cases hqueue : t.queue with
            | nil =>
                simp [polled, hqueue] at h ⊢
                omega
            | cons e queue =>
                simp [polled, hqueue, List.count_cons] at h ⊢
                omega
          · have hqueue := ((t.queue_passed (.make s step) k
              (later.take (nodesOf step.body).length)
              (later.drop (nodesOf step.body).length)).map (·.1)).count_le x
            rw [List.map_append, List.count_append] at hqueue
            simp only [passed, List.count_append] at hqueue ⊢
            simp only [List.map_cons, List.map_nil] at hqueue
            omega

/-- **No task is started twice.** -/
theorem nodup_started (script : List Step) (ds : List (Deed τ)) :
    (along script ds).started.Nodup := by
  have hstarted : ∀ x, (along script ds).started.count x
      + ((along script ds).queue.map (·.1)).count x ≤ (along script ds).made.count x := by
    intro x
    refine along_induction (P := fun t => t.started.count x + (t.queue.map (·.1)).count x
      ≤ t.made.count x) ?_ ?_ ds
    · simp [start]
    · intro t d ih
      exact t.count_started_next d x ih
  refine List.nodup_iff_count_le_one.2 fun x => ?_
  have hmade : (along script ds).made.count x ≤ 1 :=
    List.nodup_iff_count_le_one.1 (nodup_made script ds) x
  exact Nat.le_trans (Nat.le_of_add_right_le (hstarted x)) hmade

end Trail

/-! ## The trail and the run -/

/-- The step that is made, if the deed makes one. -/
def Deed.step? {τ : Type} : Deed τ → Option Step
  | .make _ step => some step
  | .endPoll .. => none

/-- The node of a script that has the given number. -/
def NodeAt (script : List Step) (k : Nat) (step : Step) : Prop := (nodesOf script)[k]? = some step

/-- The node with the given number schedules the task. -/
def TaskAt (script : List Step) (k : Nat) (task : Task) : Prop :=
  ∃ step, NodeAt script k step ∧ step.task? = some task

/-- The numbers are those of the nodes of some steps. -/
def NodesAt (script : List Step) (ks : List Nat) (steps : List Step) : Prop :=
  List.Forall₂ (NodeAt script) ks (nodesOf steps)

/-- The numbers are those of the steps that scheduled some tasks, each with those below it. -/
def QueueAt (script : List Step) (queue : List (Nat × List Nat)) (tasks : List Task) : Prop :=
  List.Forall₂ (fun e task => TaskAt script e.1 task ∧ NodesAt script e.2 task.body) queue tasks

/-- A trail tells of a run what is the case. -/
structure Trail.Fits (script : List Step) (t : Trail) (ds : List (Deed τ)) (r : Run τ) : Prop where
  made : List.Forall₂ (NodeAt script) t.made (ds.filterMap Deed.step?)
  started : List.Forall₂ (TaskAt script) t.started (ds.filterMap Deed.started)
  todo : NodesAt script t.todo r.todo
  waiting : List.Forall₂ (fun ks w => NodesAt script ks w.todo) t.waiting r.waiting
  queue : QueueAt script t.queue r.session.consumer.tasks
  /-- With a consumer that was dropped its queue is gone. -/
  gone : r.session.dropped = true → r.session.consumer.tasks = []

namespace Deed

theorem task?_of_scheduled {s : Session τ} {step : Step} {task : Task}
    (h : (make s step).scheduled = some task) : step.task? = some task := by
  cases step with
  | schedule | scheduleNop =>
      simp only [scheduled, Option.ite_none_right_eq_some] at h
      exact h.2
  | _ => cases h

/-- A consumer that is dropped loses its queue. -/
theorem tasks_of_dropped {d : Deed τ} (h : d.after.dropped = true)
    (hgone : d.before.dropped = true → d.before.consumer.tasks = []) :
    d.after.consumer.tasks = [] := by
  cases d with
  | endPoll s visiting shown =>
      show ((Consumer.endPoll visiting).run s.consumer).state.tasks = []
      rw [Consumer.tasks_endPoll]
      exact hgone h
  | make s step =>
      cases hs : s.dropped with
      | true =>
          have htasks : s.consumer.tasks = [] := hgone hs
          simp only [after, Session.turn_of_dropped hs]
          split
          · simp only [Session.effect, Session.attempt, Consumer.run_wakeup]
            split <;> exact htasks
          · simp only [Session.effect, Session.attempt, Consumer.run_inject]
            split <;> exact htasks
          all_goals exact htasks
      | false =>
          -- no step but one drops a consumer
          simp only [after, Session.turn_of_not_dropped hs] at h ⊢
          cases step with
          | drop => rfl
          | subscribePattern text listener =>
              dsimp only at h
              split at h <;> exact absurd (hs.symm.trans h) (by simp)
          | switch fault on => cases fault <;> exact absurd (hs.symm.trans h) (by simp)
          | _ => exact absurd (hs.symm.trans h) (by simp)

end Deed

/-! ## One deed -/

namespace Trail.Fits

variable {script : List Step} {t : Trail} {ds : List (Deed τ)}

theorem of_start (visits : Nat → Visiting (List Record)) (tracker : τ) (catalog : Catalog)
    (timeout : Timeout) (script : List Step) :
    (Trail.start script).Fits script ([] : List (Deed τ))
      (Run.freshIn visits tracker catalog timeout script) where
  made := .nil
  started := .nil
  todo := by
    refine List.forall₂_iff_get.2 ⟨List.length_range, ?_⟩
    intro i _ h
    simp only [Trail.start, NodeAt, List.get_eq_getElem, List.getElem_range]
    exact List.getElem?_eq_getElem h
  waiting := .nil
  queue := .nil
  gone h := by cases h

/-- The trail after the end of a poll. -/
theorem next_endPoll {r r' : Run τ} {s : Session τ} {visiting : Visiting (List Record)}
    {shown : Option (List Answer)} (h : t.Fits script ds r)
    (hd : r.deed? = some (.endPoll s visiting shown)) (hn : r.next? = some r') :
    (t.next (.endPoll s visiting shown)).Fits script (ds ++ [.endPoll s visiting shown]) r' := by
  rcases r with ⟨session, _ | ⟨step, rest⟩, answers, _ | ⟨w, waiting⟩, events, visits⟩
  · cases hd
  · simp only [Run.next?, Option.some.injEq] at hn
    subst hn
    obtain ⟨hmade, hstarted, -, hwaiting, hqueue, hgone⟩ := h
    simp only [Trail.next]
    generalize t.waiting = kss at hwaiting
    cases hwaiting with
    | cons hw hrest =>
        refine ⟨?_, ?_, hw, hrest, ?_, ?_⟩
        · rw [List.filterMap_append, List.filterMap_cons_none rfl, List.filterMap_nil,
            List.append_nil]
          exact hmade
        · rw [List.filterMap_append, List.filterMap_cons_none rfl, List.filterMap_nil,
            List.append_nil]
          exact hstarted
        · show QueueAt script t.queue
            ((Consumer.endPoll (visits 0)).run session.consumer).state.tasks
          rw [Consumer.tasks_endPoll]
          exact hqueue
        · intro hdropped
          show ((Consumer.endPoll (visits 0)).run session.consumer).state.tasks = []
          rw [Consumer.tasks_endPoll]
          exact hgone hdropped
  · cases hd
  · cases hd

/-- The head of the queue is what a poll goes on with. -/
theorem head_of_queue {queue : List (Nat × List Nat)} {tasks : List Task}
    (h : QueueAt script queue tasks) :
    List.Forall₂ (TaskAt script) (queue.head?.toList.map (·.1)) tasks.head?.toList ∧
      NodesAt script (queue.head?.elim [] (·.2)) ((tasks.head?.map Task.body).getD []) ∧
      QueueAt script queue.tail tasks.tail := by
  cases h with
  | nil => exact ⟨.nil, .nil, .nil⟩
  | cons he hrest => exact ⟨.cons he.1 .nil, he.2, hrest⟩

/-- What is queued after a step that enters no poll. -/
theorem queue_passed {s : Session τ} {step : Step} {k : Nat} {below : List Nat} (rest : List Nat)
    (hqueue : QueueAt script t.queue s.consumer.tasks)
    (hgone : s.dropped = true → s.consumer.tasks = [])
    (henters : (Deed.make s step).entersPoll = false) (hk : NodeAt script k step)
    (hbelow : NodesAt script below step.body) :
    QueueAt script (t.passed (.make s step) k below rest).queue
      (Deed.make s step).after.consumer.tasks := by
  unfold Trail.passed
  dsimp only
  cases hdropped : (Deed.make s step).after.dropped with
  | true =>
      rw [Deed.tasks_of_dropped hdropped hgone]
      exact .nil
  | false =>
      have htasks := Deed.tasks_after _ hdropped
      rw [Deed.started_eq, henters] at htasks
      have hafter : s.consumer.tasks ++ (Deed.make s step).scheduled.toList =
          (Deed.make s step).after.consumer.tasks := htasks
      rw [← hafter]
      cases hs : (Deed.make s step).scheduled with
      | none =>
          rw [Option.toList_none, List.append_nil]
          exact hqueue
      | some task =>
          have htask : step.task? = some task := Deed.task?_of_scheduled hs
          have hbody : NodesAt script below task.body := by
            rw [Step.body_of_task? htask]
            exact hbelow
          exact List.rel_append hqueue (.cons ⟨⟨step, hk, htask⟩, hbody⟩ .nil)

/-- The trail after a step. -/
theorem next_make {r r' : Run τ} {s : Session τ} {step : Step} (h : t.Fits script ds r)
    (hd : r.deed? = some (.make s step)) (hn : r.next? = some r') :
    (t.next (.make s step)).Fits script (ds ++ [.make s step]) r' := by
  rcases r with ⟨session, _ | ⟨first, rest⟩, answers, waiting, events⟩
  · cases waiting with
    | nil => cases hd
    | cons w outer => cases hd
  simp only [Run.deed?, Option.some.injEq, Deed.make.injEq] at hd
  obtain ⟨rfl, rfl⟩ := hd
  obtain ⟨hmade, hstarted, htodo, hwaiting, hqueue, hgone⟩ := h
  -- the numbers left are those of the step, of what is below it, and of the rest of the script
  unfold NodesAt at htodo
  rw [nodesOf, Step.nodes_eq, List.cons_append] at htodo
  simp only [Trail.next]
  generalize t.todo = todo at htodo
  cases htodo with
  | @cons k _ later _ hk hlater =>
      have hbelow := List.forall₂_take_append _ _ _ hlater
      have hrest := List.forall₂_drop_append _ _ _ hlater
      have hmade' : List.Forall₂ (NodeAt script) (t.made ++ [k])
          ((ds ++ [Deed.make session first]).filterMap Deed.step?) := by
        rw [List.filterMap_append]
        exact List.rel_append hmade (.cons hk .nil)
      have hstarted' : (ds ++ [Deed.make session first]).filterMap Deed.started =
          ds.filterMap Deed.started ++ (Deed.make session first).started.toList := by
        rw [List.filterMap_append]
        cases hs : (Deed.make session first).started <;> simp [hs]
      dsimp only
      cases henters : (Deed.make session first).entersPoll with
      | true =>
          obtain ⟨_, heq, hs, hopen⟩ := Deed.eq_poll_of_entersPoll henters
          cases heq
          obtain ⟨hturn, hsession⟩ := Session.turn_poll_of_open hs hopen
          obtain ⟨hhead, hbody, htail⟩ := head_of_queue hqueue
          simp only [Run.next?, hturn, hsession, Option.some.injEq] at hn
          subst hn
          rw [Deed.started_eq, henters] at hstarted'
          refine ⟨hmade', ?_, hbody, .cons hrest hwaiting, htail, ?_⟩
          · rw [hstarted']
            exact List.rel_append hstarted hhead
          · intro hdropped
            exact absurd (hs.symm.trans hdropped) (by simp)
      | false =>
          obtain ⟨answer, hturn⟩ := Deed.answered_of_not_entersPoll henters
          simp only [Run.next?, hturn, Option.some.injEq] at hn
          subst hn
          rw [Deed.started_eq, henters] at hstarted'
          refine ⟨hmade', ?_, hrest, hwaiting, queue_passed _ hqueue hgone henters hk hbelow, ?_⟩
          · rw [hstarted']
            exact (List.append_nil _).symm ▸ hstarted
          · intro hdropped
            exact Deed.tasks_of_dropped (d := .make session first) hdropped hgone

end Trail.Fits

/-! ## Counting nodes -/

theorem lt_of_nodeAt {script : List Step} {k : Nat} {step : Step} (h : NodeAt script k step) :
    k < (nodesOf script).length := (List.getElem?_eq_some_iff.1 h).1

/-- Steps that are nodes with different numbers are no more than there are nodes. -/
theorem countP_le_of_nodes {script : List Step} {ks : List Nat} {steps : List Step}
    (hks : ks.Nodup) (h : List.Forall₂ (NodeAt script) ks steps) (p : Step → Bool) :
    steps.countP p ≤ (nodesOf script).countP p := by
  let chosen (k : Nat) : Bool := (nodesOf script)[k]?.any p
  have hsteps : steps.countP p = ks.countP chosen := by
    clear hks
    induction h with
    | nil => rfl
    | @cons k step ks steps hk _ ih =>
        have hchosen : chosen k = p step := by
          simp only [chosen, show (nodesOf script)[k]? = some step from hk, Option.any_some]
        rw [List.countP_cons, List.countP_cons, ih, hchosen]
  have hnumbers : ks.Subperm (List.range (nodesOf script).length) := by
    refine hks.subperm ?_
    clear hks hsteps
    induction h with
    | nil => simp
    | cons hk _ ih => exact List.cons_subset.2 ⟨List.mem_range.2 (lt_of_nodeAt hk), ih⟩
  have hnodes : (List.range (nodesOf script).length).map (fun k => (nodesOf script)[k]?) =
      (nodesOf script).map some := by
    refine List.ext_getElem (by simp) ?_
    intro k hk _
    simp
  calc steps.countP p
      = ks.countP chosen := hsteps
    _ ≤ (List.range (nodesOf script).length).countP chosen := hnumbers.countP_le chosen
    _ = ((nodesOf script).map some).countP (·.any p) := by
        rw [← hnodes, List.countP_map]
        rfl
    _ = (nodesOf script).countP p := by
        rw [List.countP_map]
        rfl

namespace Run

omit [Tracker τ] [Switchable τ] in
theorem measure_freshIn (visits : Nat → Visiting (List Record)) (tracker : τ) (catalog : Catalog)
    (timeout : Timeout) (script : List Step) :
    (freshIn visits tracker catalog timeout script).measure = 2 * (nodesOf script).length := by
  rw [length_nodesOf]
  rfl

/-! ## At most once -/

/-- What is told of a script that is run on a new consumer, at every moment of its run. -/
structure StepsOnce (script : List Step) (r : Run τ) : Prop where
  /-- The run is over after at most two moves for each node. -/
  ends : ∃ n ≤ 2 * (nodesOf script).length, (r.ahead n).next? = none
  /-- Every poll that waits for its task ends, and the script that polled goes on. -/
  polls_end : ∀ n inner w outer, (r.ahead n).waiting = inner ++ w :: outer → ∃ m, n ≤ m ∧
    (r.ahead m).todo = [] ∧ (r.ahead m).waiting = w :: outer ∧
    (r.ahead (m + 1)).todo = w.todo ∧ (r.ahead (m + 1)).waiting = outer
  /-- The steps made are nodes of the script, and no node is made twice. -/
  made : ∀ n, (Trail.along script (r.deeds n)).made.Nodup ∧
    List.Forall₂ (NodeAt script) (Trail.along script (r.deeds n)).made
      ((r.deeds n).filterMap Deed.step?)
  /-- The tasks started are those of nodes of the script, and no node has its task started twice. -/
  started : ∀ n, (Trail.along script (r.deeds n)).started.Nodup ∧
    List.Forall₂ (TaskAt script) (Trail.along script (r.deeds n)).started
      ((r.deeds n).filterMap Deed.started)
  /-- What is left of the script and of the tasks in the queue are nodes of the script. -/
  left : ∀ n, NodesAt script (Trail.along script (r.deeds n)).todo (r.ahead n).todo ∧
    QueueAt script (Trail.along script (r.deeds n)).queue (r.ahead n).session.consumer.tasks
  /-- There are no more tasks started than nodes that schedule one. -/
  tasks_le : ∀ n, ((r.deeds n).filterMap Deed.started).length ≤
    (nodesOf script).countP Step.schedules
  /-- There are no more polls counted than nodes that poll. -/
  polls_le : ∀ n, Counter.polls.total (r.ahead n).events ≤ (nodesOf script).countP Step.isPoll

end Run

theorem Trail.fits_along (visits : Nat → Visiting (List Record)) (tracker : τ) (catalog : Catalog)
    (timeout : Timeout) (script : List Step) (n : Nat) :
    (along script ((Run.freshIn visits tracker catalog timeout script).deeds n)).Fits script
      ((Run.freshIn visits tracker catalog timeout script).deeds n)
      ((Run.freshIn visits tracker catalog timeout script).ahead n) := by
  refine Run.carries_moves (P := fun ds r => (along script ds).Fits script ds r) ?_
    (Fits.of_start visits tracker catalog timeout script) n
  intro ds r r' d hd hn h
  rw [along_concat]
  cases d with
  | make s step => exact h.next_make hd hn
  | endPoll s visiting shown => exact h.next_endPoll hd hn

omit [Tracker τ] [Switchable τ] in
/-- The polls that were entered are among the steps that were made. -/
theorem Deed.countP_entersPoll_le (ds : List (Deed τ)) :
    ds.countP entersPoll ≤ (ds.filterMap step?).countP Step.isPoll := by
  induction ds with
  | nil => exact Nat.le_refl _
  | cons d ds ih =>
      cases d with
      | endPoll s visiting shown => exact ih
      | make s step =>
          show _ ≤ (step :: ds.filterMap step?).countP Step.isPoll
          rw [List.countP_cons, List.countP_cons]
          cases step with
          | poll =>
              refine Nat.add_le_add ih ?_
              split
              · exact Nat.le_refl 1
              · exact Nat.zero_le _
          | _ => exact ih

/-- Every task that was started is the task of a step of its own. -/
theorem exists_steps_of_tasks {script : List Step} {ks : List Nat} {tasks : List Task}
    (h : List.Forall₂ (TaskAt script) ks tasks) :
    ∃ steps, List.Forall₂ (NodeAt script) ks steps ∧
      steps.countP Step.schedules = tasks.length := by
  induction h with
  | nil => exact ⟨[], .nil, rfl⟩
  | cons hk _ ih =>
      obtain ⟨step, hstep, htask⟩ := hk
      obtain ⟨steps, hsteps, hlength⟩ := ih
      refine ⟨step :: steps, .cons hstep hsteps, ?_⟩
      have hschedules : step.schedules = true := by simp [Step.schedules, htask]
      rw [List.countP_cons, hlength, hschedules, List.length_cons]
      rfl

namespace Run

/-- Every poll that waits ends, and the script that polled goes on. -/
theorem exists_return (r : Run τ) (n : Nat) {inner : List Waiting} {w : Waiting}
    {outer : List Waiting} (hwaiting : (r.ahead n).waiting = inner ++ w :: outer) :
    ∃ m, n ≤ m ∧ (r.ahead m).todo = [] ∧ (r.ahead m).waiting = w :: outer ∧
      (r.ahead (m + 1)).todo = w.todo ∧ (r.ahead (m + 1)).waiting = outer := by
  obtain ⟨m, htodo, hw⟩ := exists_ahead_of_waiting hwaiting
  rw [← ahead_add] at htodo hw
  refine ⟨n + m, Nat.le_add_right _ _, htodo, hw, ?_⟩
  simp only [ahead, next?, htodo, hw, Option.getD_some, and_self]

theorem stepsOnce (hT : Tracker.Discreet τ) (visits : Nat → Visiting (List Record)) (tracker : τ)
    (catalog : Catalog) (timeout : Timeout) (script : List Step) :
    (freshIn visits tracker catalog timeout script).StepsOnce script := by
  have hfits := Trail.fits_along visits tracker catalog timeout script
  constructor
  · obtain ⟨n, hle, hover⟩ := exists_ahead_over (freshIn visits tracker catalog timeout script)
    exact ⟨n, measure_freshIn visits tracker catalog timeout script ▸ hle, hover⟩
  · intro n inner w outer hwaiting
    exact exists_return _ n hwaiting
  · intro n
    exact ⟨Trail.nodup_made _ _, (hfits n).made⟩
  · intro n
    exact ⟨Trail.nodup_started _ _, (hfits n).started⟩
  · intro n
    exact ⟨(hfits n).todo, (hfits n).queue⟩
  · intro n
    obtain ⟨steps, hsteps, hlength⟩ := exists_steps_of_tasks (hfits n).started
    rw [← hlength]
    exact countP_le_of_nodes (Trail.nodup_started _ _) hsteps _
  · intro n
    rw [events_ahead, freshIn, startIn, List.nil_append, Deed.sum_begun hT]
    exact Nat.le_trans (Deed.countP_entersPoll_le _)
      (countP_le_of_nodes (Trail.nodup_made _ _) (hfits n).made _)

/-- **A session ends, and makes each step at most once.** Over a subscription, and over a tracker
    with any faults, and whatever its script is: with polls, closes and schedules anywhere, made by
    the owner or through a handle, in tasks nested to any depth. -/
theorem steps_at_most_once :
    (∀ (visits : Nat → Visiting (List Record)) (tracker : Subscription) (catalog : Catalog)
      (timeout : Timeout) (script : List Step),
      (freshIn visits tracker catalog timeout script).StepsOnce script) ∧
    (∀ (visits : Nat → Visiting (List Record)) (tracker : Faulty Subscription) (catalog : Catalog)
      (timeout : Timeout) (script : List Step),
      (freshIn visits tracker catalog timeout script).StepsOnce script) :=
  ⟨stepsOnce Subscription.discreet, stepsOnce (Faulty.discreet Subscription.discreet)⟩

end Run

/-! ## A task in a task -/

/-- A script whose first task schedules another one and polls twice. The last poll comes after the
    consumer was closed. -/
def Step.taskInTask : List Step :=
  [.schedule .owner [.schedule .handle [.poll, .isClosed], .poll, .poll], .poll, .poll,
    .scheduleNop .owner, .close none, .poll]

/-- All of its eleven nodes are made, in another order than they are written in. The tasks of two
    nodes are started, of the three that schedule one, and five polls are counted, of the six. -/
theorem Run.taskInTask_once :
    let r := Run.fresh (Subscription.empty .earliest) .empty ⟨30000⟩ Step.taskInTask
    r.StepsOnce Step.taskInTask ∧
    (Trail.along Step.taskInTask (r.deeds 16)).made = [0, 6, 1, 4, 2, 3, 5, 7, 8, 9, 10] ∧
    (Trail.along Step.taskInTask (r.deeds 16)).started = [0, 1] ∧
    (nodesOf Step.taskInTask).countP Step.schedules = 3 ∧
    Counter.polls.total (r.ahead 16).events = 5 ∧
    (nodesOf Step.taskInTask).countP Step.isPoll = 6 := by
  intro r
  refine ⟨Run.steps_at_most_once.1 _ _ _ _ _, ?_⟩
  decide +kernel

end ScriptedConsumer
