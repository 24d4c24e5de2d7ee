import ScriptedConsumer.Proofs.Announcing
import ScriptedConsumer.Proofs.Recollection

set_option autoImplicit false

/-! # Rebalances

A rebalance is checked as a whole before it takes effect: the assignment must come from rebalances
at all, and each listed partition must be of a subscribed topic. Then the assignment is replaced by
the listed partitions, whatever was assigned, and nothing that was known of a partition stays: no
progress, no record and no pause. Nothing else changes. `History.rebalance_replaces` says so of
every moment of every history, and that what is assigned by a rebalance was subscribed when it was
made; for that it follows the assignment back to the last rebalance that was granted. -/

namespace ScriptedConsumer

/-! ## The check and the effect -/

namespace Client

variable {c : Client Subscription} {ps : List Partition}

/-- The client after a rebalance that is granted. -/
def rebalanced (ps : List Partition) (c : Client Subscription) : Client Subscription :=
  { c with
    tracker := { c.tracker with assignment := Subscription.anew ps }
    buffer := ∅
    paused := ∅ }

theorem rebalanced_congr {ps' : List Partition} (h : ∀ p, p ∈ ps ↔ p ∈ ps') :
    c.rebalanced ps = c.rebalanced ps' := by
  have hanew : Subscription.anew ps = Subscription.anew ps' := by
    refine Std.ExtTreeMap.ext_getElem? ?_
    intro p
    rw [Subscription.getElem?_anew, Subscription.getElem?_anew]
    simp only [h]
  unfold rebalanced
  rw [hanew]

/-- No partition is paused that has just been assigned. -/
theorem syncPaused_rebalanced (ps : List Partition) (c : Client Subscription) :
    syncPaused { c with
      tracker := { c.tracker with assignment := Subscription.anew ps }, buffer := ∅ } =
      c.rebalanced ps := by
  have hnone : c.paused.filter (fun p => (Subscription.anew ps)[p]?.any Progress.paused) = ∅ := by
    refine Std.ExtTreeSet.eq_empty_iff_forall_not_mem.2 ?_
    intro p hp
    obtain ⟨hmem, hpaused⟩ := Std.ExtTreeSet.mem_filter.1 hp
    rw [Std.ExtTreeSet.get_eq, Subscription.getElem?_anew] at hpaused
    split at hpaused <;> cases hpaused
  show ({ c with
    tracker := { c.tracker with assignment := Subscription.anew ps }
    buffer := ∅
    paused := c.paused.filter fun p => (Subscription.anew ps)[p]?.any Progress.paused } :
      Client Subscription) = _
  rw [hnone]
  rfl

theorem not_contains_iff {topics : TopicSet} {topic : String} :
    (!topics.contains topic) = true ↔ topic ∉ topics := by
  rw [Bool.not_eq_true', ← Bool.not_eq_true, Std.ExtTreeSet.contains_iff_mem]

theorem handle_rebalance_of_refused {e : Failure}
    (h : (Subscription.assignFromGroup ps).run c.tracker = ⟨.error e, c.tracker, []⟩) :
    ((handle (.rebalance ps)).run c).result = .error e ∧
      ((handle (.rebalance ps)).run c).state = c := by
  obtain ⟨hres, hstate⟩ := Action.bind_pure (rebalance ps) (fun _ => Reply.done) c
  have hrun := run_rebalance ps c
  rw [show (Tracker.assignFromGroup ps).run c.tracker = _ from h] at hrun
  rw [handle, hres, hstate, hrun]
  exact ⟨rfl, rfl⟩

theorem handle_rebalance_of_not_auto (hauto : c.tracker.isAutoAssigned = false)
    (ps : List Partition) :
    ((handle (.rebalance ps)).run c).result = .error (.notAutoAssigned c.tracker.mode.name) ∧
      ((handle (.rebalance ps)).run c).state = c := by
  refine handle_rebalance_of_refused ?_
  rw [Subscription.run_assignFromGroup, hauto]
  rfl

theorem handle_rebalance_of_other {pre post : List Partition} {p : Partition}
    (hauto : c.tracker.isAutoAssigned = true) (hpre : ∀ q ∈ pre, q.topic ∈ c.tracker.topics)
    (hp : p.topic ∉ c.tracker.topics) :
    ((handle (.rebalance (pre ++ p :: post))).run c).result = .error (.topicNotSubscribed p) ∧
      ((handle (.rebalance (pre ++ p :: post))).run c).state = c := by
  have hfirst : (pre ++ p :: post).find? (fun q => !c.tracker.topics.contains q.topic) =
      some p := by
    refine List.find?_eq_some_iff_append.2 ⟨not_contains_iff.2 hp, pre, post, rfl, ?_⟩
    intro q hq
    simpa using hpre q hq
  refine handle_rebalance_of_refused ?_
  rw [Subscription.run_assignFromGroup, hauto, hfirst]
  rfl

theorem handle_rebalance_of_subscribed (hauto : c.tracker.isAutoAssigned = true)
    (hps : ∀ p ∈ ps, p.topic ∈ c.tracker.topics) :
    ((handle (.rebalance ps)).run c).result = .ok .done ∧
      ((handle (.rebalance ps)).run c).state = c.rebalanced ps := by
  have hnone : ps.find? (fun q => !c.tracker.topics.contains q.topic) = none := by
    refine List.find?_eq_none.2 ?_
    intro q hq
    simpa using hps q hq
  obtain ⟨hres, hstate⟩ := Action.bind_pure (rebalance ps) (fun _ => Reply.done) c
  have hrun := run_rebalance ps c
  have hassign := Subscription.run_assignFromGroup ps c.tracker
  rw [hauto, hnone] at hassign
  rw [show (Tracker.assignFromGroup ps).run c.tracker = _ from hassign] at hrun
  rw [handle, hres, hstate, hrun, ← syncPaused_rebalanced]
  exact ⟨rfl, rfl⟩

/-- A list that is not of subscribed topics only has a first partition of another one. -/
theorem exists_other (h : ¬ ∀ p ∈ ps, p.topic ∈ c.tracker.topics) :
    ∃ pre p post, ps = pre ++ p :: post ∧ (∀ q ∈ pre, q.topic ∈ c.tracker.topics) ∧
      p.topic ∉ c.tracker.topics := by
  cases hfind : ps.find? (fun q => !c.tracker.topics.contains q.topic) with
  | none => exact absurd (fun q hq => by simpa using List.find?_eq_none.1 hfind q hq) h
  | some p =>
      obtain ⟨hp, pre, post, rfl, hpre⟩ := List.find?_eq_some_iff_append.1 hfind
      exact ⟨pre, p, post, rfl, fun q hq => by simpa using hpre q hq, not_contains_iff.1 hp⟩

theorem subscribed_of_rebalance {a : Reply}
    (hok : ((handle (.rebalance ps)).run c).result = .ok a) :
    c.tracker.isAutoAssigned = true ∧ ∀ p ∈ ps, p.topic ∈ c.tracker.topics := by
  cases hauto : c.tracker.isAutoAssigned with
  | false =>
      rw [(handle_rebalance_of_not_auto hauto ps).1] at hok
      cases hok
  | true =>
      refine ⟨rfl, Classical.byContradiction fun hother => ?_⟩
      obtain ⟨pre, p, post, rfl, hpre, hp⟩ := exists_other hother
      rw [(handle_rebalance_of_other hauto hpre hp).1] at hok
      cases hok

theorem state_handle_rebalance_congr {ps' : List Partition} (h : ∀ p, p ∈ ps ↔ p ∈ ps') :
    ((handle (.rebalance ps)).run c).state = ((handle (.rebalance ps')).run c).state := by
  cases hauto : c.tracker.isAutoAssigned with
  | false =>
      rw [(handle_rebalance_of_not_auto hauto ps).2, (handle_rebalance_of_not_auto hauto ps').2]
  | true =>
      have hsame : (∀ p ∈ ps, p.topic ∈ c.tracker.topics) ↔
          ∀ p ∈ ps', p.topic ∈ c.tracker.topics := by simp only [h]
      by_cases hps : ∀ p ∈ ps, p.topic ∈ c.tracker.topics
      · rw [(handle_rebalance_of_subscribed hauto hps).2,
          (handle_rebalance_of_subscribed hauto (hsame.1 hps)).2, rebalanced_congr h]
      · obtain ⟨pre, p, post, rfl, hpre, hp⟩ := exists_other hps
        obtain ⟨pre', p', post', rfl, hpre', hp'⟩ := exists_other (mt hsame.2 hps)
        rw [(handle_rebalance_of_other hauto hpre hp).2,
          (handle_rebalance_of_other hauto hpre' hp').2]

end Client

/-! ## Where an assignment comes from -/

namespace Subscription

variable {s s' : Subscription} {Q : Partition → Prop}

/-- Every partition that a rebalance has assigned is one of `Q`. -/
def Sourced (Q : Partition → Prop) (s : Subscription) : Prop :=
  s.isAutoAssigned = true → ∀ p ∈ s.assignment, Q p

/-- Whoever subscribes to topics or to a pattern has no assignment, or one from a rebalance. -/
theorem Sourced.of_admits (h : s.Sourced Q) (hs : s.Coherent) {m : Mode} (hm : s.Admits m)
    (hauto : m = .topics ∨ m = .pattern) : ∀ p ∈ s.assignment, Q p := by
  rcases hm with hnone | hsame
  · obtain ⟨-, -, -, -, hempty⟩ := hs.of_unsubscribed hnone
    rw [hempty]
    exact fun p hp => absurd hp Std.ExtTreeMap.not_mem_empty
  · exact h (by simpa [isAutoAssigned, hsame] using hauto)

/-- Only a rebalance assigns partitions in such a mode. -/
theorem Sourced.of_granted {call : Tracker.Call} (hs : s.Coherent) (h : s.Sourced Q)
    (hcall : ∀ ps, call ≠ .assignFromGroup ps) (hgrant : s.Granted call s') : s'.Sourced Q := by
  cases hgrant with
  | subscribe topics listener hadmits => exact fun _ => h.of_admits hs hadmits (.inl rfl)
  | subscribePattern pattern listener hadmits => exact fun _ => h.of_admits hs hadmits (.inr rfl)
  | setMatched topics hmode => exact h
  | assignManually ps hadmits => exact fun hauto => by simp [isAutoAssigned] at hauto
  | assignFromGroup ps => exact absurd rfl (hcall ps)
  | unsubscribe => exact fun hauto => by cases hauto
  | edit hedit hp hmove =>
      intro hauto q hq
      rcases Std.ExtTreeMap.mem_insert.1 hq with heq | hq
      · refine h hauto q ?_
        rw [← Std.LawfulEqOrd.eq_of_compare heq, Std.ExtTreeMap.mem_iff_isSome_getElem?, hp]
        rfl
      · exact h hauto q hq

end Subscription

/-- The partitions that the request lists as the outcome of a rebalance, if it does. -/
def Request.rebalances? : Request → Option (List Partition)
  | .rebalance ps => some ps
  | _ => none

/-- The partitions that the deed assigns by a rebalance, if it does. -/
def Deed.rebalances? (d : Deed Subscription) : Option (List Partition) :=
  d.accepted?.bind Request.rebalances?

/-- The last rebalance of a history that succeeded. -/
def lastRebalance? (ds : List (Deed Subscription)) : Option (Deed Subscription) :=
  (ds.filter (·.rebalances?.isSome)).getLast?

theorem lastRebalance?_concat (ds : List (Deed Subscription)) (d : Deed Subscription) :
    lastRebalance? (ds ++ [d]) =
      if d.rebalances?.isSome then some d else lastRebalance? ds := by
  unfold lastRebalance?
  rw [List.filter_append]
  cases h : d.rebalances?.isSome <;> simp [h]

/-- The partition was listed by the last rebalance that succeeded, and its topic was subscribed
    then. -/
def CameFromRebalance (ds : List (Deed Subscription)) (p : Partition) : Prop :=
  ∃ d ps, lastRebalance? ds = some d ∧ d.rebalances? = some ps ∧ p ∈ ps ∧
    p.topic ∈ d.before.consumer.client.tracker.topics

theorem Deed.sourced {d : Deed Subscription} {ds : List (Deed Subscription)}
    (hc : d.before.consumer.client.tracker.Coherent)
    (h : d.before.consumer.client.tracker.Sourced (CameFromRebalance ds)) :
    d.after.consumer.client.tracker.Sourced (CameFromRebalance (ds ++ [d])) := by
  cases hd : d.rebalances? with
  | none =>
      have hsame : CameFromRebalance (ds ++ [d]) = CameFromRebalance ds := by
        funext p
        unfold CameFromRebalance
        rw [lastRebalance?_concat, hd]
        rfl
      rw [hsame]
      refine (d.maintains_granted (I := Subscription.Sourced _) ?_ hc h).2
      intro call hcall s s' hs hI hgrant
      refine hI.of_granted hs ?_ hgrant
      rintro ps rfl
      rcases hcall with ⟨r, hr, hmakes⟩ | ⟨p, offset, hfetch | hfetch⟩
      · unfold rebalances? at hd
        rw [hr] at hd
        cases hmakes
        cases hd
      · cases hfetch
      · cases hfetch
  | some ps =>
      obtain ⟨r, haccepted, hr⟩ := Option.bind_eq_some_iff.1 hd
      have hrebalance : r = .rebalance ps := by
        cases r <;> cases hr
        rfl
      subst hrebalance
      obtain ⟨hstate, a, hok⟩ := client_of_accepted? haccepted
      obtain ⟨hauto, hsubscribed⟩ := Client.subscribed_of_rebalance hok
      intro _ p hp
      rw [hstate, (Client.handle_rebalance_of_subscribed hauto hsubscribed).2,
        Std.ExtTreeMap.mem_iff_isSome_getElem?] at hp
      have hlisted : p ∈ ps := by
        have hanew : ((Subscription.anew ps)[p]?).isSome = true := hp
        rw [Subscription.getElem?_anew] at hanew
        split at hanew
        · assumption
        · cases hanew
      refine ⟨d, ps, ?_, hd, hlisted, hsubscribed p hlisted⟩
      rw [lastRebalance?_concat, hd]
      rfl

namespace History

variable {policy : ResetPolicy} {ds : List (Deed Subscription)} {r : Run Subscription}

theorem sourced (h : History (Subscription.empty policy) ds r) :
    r.session.consumer.client.tracker.Sourced (CameFromRebalance ds) := by
  have hboth := h.carries (P := fun ds s => s.consumer.client.tracker.Coherent ∧
    s.consumer.client.tracker.Sourced (CameFromRebalance ds)) ?_ ?_
  · exact hboth.2
  · exact fun _ _ => ⟨Subscription.coherent_empty policy, nofun⟩
  · rintro ds d ⟨hc, hsourced⟩
    exact ⟨Deed.coherent_after hc, Deed.sourced hc hsourced⟩

/-- **A rebalance replaces the assignment, and nothing else stays of it.** At every moment of every
    history over a subscription at which the consumer is open: if the assignment does not come from
    rebalances, a rebalance fails and names the mode; if it does, but a listed partition is not of a
    subscribed topic, it fails at the first such partition; and nothing changes then. Otherwise it
    succeeds. Exactly the listed partitions are assigned, each of them anew; the buffer and the
    client's pauses are empty, and all else stays. So it does not matter in what order partitions
    are listed and how often. Wherever the assignment comes from rebalances, every assigned
    partition was listed by the last one that succeeded, and its topic was subscribed then. -/
theorem rebalance_replaces (h : History (Subscription.empty policy) ds r)
    (hs : r.session.dropped = false) (hopen : r.session.consumer.isClosed = false) :
    let c := r.session.consumer.client
    let rebalanced (ps : List Partition) := Deed.make r.session (.request (.rebalance ps))
    (c.tracker.isAutoAssigned = false → ∀ ps,
      (rebalanced ps).verdict? = some (.failed (.notAutoAssigned c.tracker.mode.name)) ∧
      (rebalanced ps).after = r.session) ∧
    (c.tracker.isAutoAssigned = true →
      (∀ pre p post, (∀ q ∈ pre, q.topic ∈ c.tracker.topics) → p.topic ∉ c.tracker.topics →
        (rebalanced (pre ++ p :: post)).verdict? = some (.failed (.topicNotSubscribed p)) ∧
        (rebalanced (pre ++ p :: post)).after = r.session) ∧
      (∀ ps, (∀ p ∈ ps, p.topic ∈ c.tracker.topics) →
        (rebalanced ps).verdict? = some (.ok (.reply .done)) ∧
        ∃ assignment : PartitionMap Progress,
          (rebalanced ps).after = r.session.withClient
            { c with tracker := { c.tracker with assignment }, buffer := ∅, paused := ∅ } ∧
          ∀ p : Partition, assignment[p]? = if p ∈ ps then some .fresh else none) ∧
      ∀ p ∈ c.tracker.assignment, ∃ d ps, lastRebalance? ds = some d ∧
        d.rebalances? = some ps ∧ p ∈ ps ∧ p.topic ∈ d.before.consumer.client.tracker.topics) ∧
    (∀ ps ps', (∀ p, p ∈ ps ↔ p ∈ ps') → (rebalanced ps).after = (rebalanced ps').after) := by
  intro c rebalanced
  have hmade (ps : List Partition) : (rebalanced ps).verdict? =
        some (.ofResult .reply ((Client.handle (.rebalance ps)).run c).result) ∧
      (rebalanced ps).after =
        r.session.withClient ((Client.handle (.rebalance ps)).run c).state := by
    obtain ⟨hverdict, hafter, -⟩ :=
      Deed.make_request hs hopen (rfl : (Step.request (.rebalance ps)).request? = some _)
    exact ⟨hverdict, hafter⟩
  refine ⟨?_, ?_, ?_⟩
  · intro hauto ps
    obtain ⟨hres, hstate⟩ := Client.handle_rebalance_of_not_auto hauto ps
    rw [(hmade ps).1, (hmade ps).2, hres, hstate]
    exact ⟨rfl, rfl⟩
  · intro hauto
    refine ⟨?_, ?_, h.sourced hauto⟩
    · intro pre p post hpre hp
      have hother := @Client.handle_rebalance_of_other _ pre post p hauto hpre hp
      rw [(hmade _).1, (hmade _).2, hother.1, hother.2]
      exact ⟨rfl, rfl⟩
    · intro ps hps
      obtain ⟨hres, hstate⟩ := Client.handle_rebalance_of_subscribed hauto hps
      rw [(hmade _).1, (hmade _).2, hres, hstate]
      exact ⟨rfl, Subscription.anew ps, rfl, Subscription.getElem?_anew ps⟩
  · intro ps ps' hsame
    rw [(hmade ps).2, (hmade ps').2, Client.state_handle_rebalance_congr hsame]

end History

/-! ## A run that is rebalanced again -/

/-- A partition of another topic. -/
def refunds : Partition := ⟨"refunds", 0⟩

/-- A run over two topics of which one is given up after a rebalance. One of the assigned partitions
    has a record then, the other one is paused. -/
def Run.topicGivenUp : Run Subscription :=
  Run.fresh (Subscription.empty .earliest) .empty ⟨30000⟩
    [.request (.subscribe {"orders", "refunds"} .silent), .request (.rebalance [orders 0, refunds]),
      .request (.seek (orders 0) 5), .request (.addRecord (order 0 5)),
      .request (.pause [refunds]), .request (.subscribe {"orders"} .silent)]

/-- The partition of the other topic is still assigned, since its topic was subscribed when it was,
    but it cannot be assigned again. Partitions of the first topic can, and start anew. -/
theorem Run.topicGivenUp_replaced :
    (∃ d ps, lastRebalance? (Run.topicGivenUp.deeds 6) = some d ∧ d.rebalances? = some ps ∧
      refunds ∈ ps ∧ refunds.topic ∈ d.before.consumer.client.tracker.topics) ∧
    (Deed.make (Run.topicGivenUp.ahead 6).session
      (.request (.rebalance [orders 0, refunds, ⟨"unknown", 1⟩]))).verdict? =
        some (.failed (.topicNotSubscribed refunds)) ∧
    (Deed.make (Run.topicGivenUp.ahead 6).session
      (.request (.rebalance [orders 0, orders 1, orders 0]))).verdict? =
        some (.ok (.reply .done)) ∧
    (Deed.make (Run.topicGivenUp.ahead 6).session
      (.request (.rebalance [orders 0, orders 1, orders 0]))).after =
        (Deed.make (Run.topicGivenUp.ahead 6).session
          (.request (.rebalance [orders 1, orders 0]))).after := by
  have hhistory : History (Subscription.empty .earliest) (Run.topicGivenUp.deeds 6)
      (Run.topicGivenUp.ahead 6) := .of_moves ..
  have hpresent : (Run.topicGivenUp.ahead 6).session.dropped = false := by decide +kernel
  have hopen : (Run.topicGivenUp.ahead 6).session.consumer.isClosed = false := by decide +kernel
  have hauto :
      (Run.topicGivenUp.ahead 6).session.consumer.client.tracker.isAutoAssigned = true := by
    decide +kernel
  obtain ⟨-, hgranted, hsame⟩ := History.rebalance_replaces hhistory hpresent hopen
  obtain ⟨hother, hsubscribed, hsource⟩ := hgranted hauto
  refine ⟨hsource refunds (by decide +kernel), ?_, ?_, ?_⟩
  · exact (hother [orders 0] refunds [⟨"unknown", 1⟩] (by decide +kernel) (by decide +kernel)).1
  · exact (hsubscribed [orders 0, orders 1, orders 0] (by decide +kernel)).1
  · refine hsame _ _ ?_
    intro p
    simp only [List.mem_cons, List.not_mem_nil, or_false]
    grind

end ScriptedConsumer
