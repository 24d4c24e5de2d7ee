import Mathlib.Data.List.DropRight
import ScriptedConsumer.Proofs.Grants
import ScriptedConsumer.Proofs.Ledger
import ScriptedConsumer.Proofs.Requests

set_option autoImplicit false

/-! # What an unknown position resolves to

An assigned partition without a position starts where its history says. That history begins when the
partition was last assigned afresh. If a reset was asked for since then, and nothing has given the
partition a position afterwards, it starts by the policy of the last one that was asked for; else at
the last commit that was recorded for it; else by the default policy. `resetAsked?` and
`lastCommit?` read the two off a history, without looking at any state, and `History.recalls`
says that the tracker remembers exactly that. A question for the position that fails adds nothing to
it: `History.position_by_history`. -/

namespace ScriptedConsumer

/-! ## What requests are to a partition -/

namespace Request

/-- The policy by which the request asks for a reset of a partition, if it does. -/
def resets? (p : Partition) : Request → Option ResetPolicy
  | .seekToBeginning ps => if p ∈ ps then some .earliest else none
  | .seekToEnd ps => if p ∈ ps then some .latest else none
  | _ => none

/-- The commit that the request records for a partition, if it does, made on the given client. -/
def commits? (c : Client Subscription) (p : Partition) : Request → Option Commit
  | .commitAsync offsets | .commitSyncOffsets offsets => offsets[p]?
  | .commitAsyncConsumed | .commitSync => (Tracker.consumed c.tracker)[p]?
  | _ => none

/-- Whether the request gives a partition its position. -/
def places (p : Partition) : Request → Bool
  | .seek q _ | .position q => p = q
  | _ => false

/-- Whether the request assigns a partition afresh, made on the given client. -/
def renews (c : Client Subscription) (p : Partition) : Request → Bool
  | .assign ps => p ∈ ps && !Tracker.isAssigned c.tracker p
  | .rebalance ps => p ∈ ps
  | _ => false

end Request

/-- Where a partition without a position starts: by the reset that was asked for, else at its
    commit, else by the default policy. -/
def Client.startBy (c : Client Subscription) (policy : ResetPolicy) (p : Partition) :
    Option ResetPolicy → Option Commit → Except Failure Int64
  | some reset, _ => c.scriptedStart p reset
  | none, some commit => .ok commit.offset
  | none, none => c.scriptedStart p policy

theorem Client.resolve_eq_startBy (c : Client Subscription) (p : Partition) (g : Progress) :
    c.resolve p g = c.startBy c.tracker.defaultPolicy p g.pendingReset g.committed := by
  unfold resolve startBy
  cases g.pendingReset <;> cases g.committed <;> rfl

/-- What becomes of the progress on a partition at one event of its history. Either the partition
    is assigned afresh, or it was assigned before; then its commit is the one that was recorded, or
    stays, and its pending reset is the one that was asked for, or stays unless the partition has
    been given a position. -/
inductive Progress.Passes (renewed placed : Bool) (reset? : Option ResetPolicy)
    (commit? : Option Commit) (before : Option Progress) (g' : Progress) : Prop
  | renewed (h : renewed = true) (hg : g' = .fresh)
  | kept (h : renewed = false) (g : Progress) (hg : before = some g)
      (hcommit : g'.committed = commit?.or g.committed)
      (hreset : g'.pendingReset = if placed then none else reset?.or g.pendingReset)

namespace Client

variable {c : Client Subscription} {p : Partition}

theorem committed_settled (c : Client Subscription) (p : Partition) (g : Progress) :
    (c.settled p g).committed = g.committed := by
  unfold settled
  split <;> rfl

theorem committed_polled (c : Client Subscription) (p : Partition) (g : Progress) :
    (c.polled p g).committed = g.committed := by
  unfold polled advanced
  split <;> exact committed_settled c p g

theorem pendingReset_polled (c : Client Subscription) (p : Partition) (g : Progress) :
    (c.polled p g).pendingReset = (c.settled p g).pendingReset := by
  unfold polled advanced
  split <;> rfl

/-- A partition that has a position when it is settled has no pending reset then. -/
theorem pendingReset_settled {g : Progress} (hg : g.Settled)
    (hpos : (c.settled p g).position ≠ none) : (c.settled p g).pendingReset = none := by
  unfold settled at hpos ⊢
  split
  · rfl
  · next h =>
      by_contra hpending
      have hnone : g.position = none := hg hpending
      split at hpos
      · next hr => exact h _ hnone hr
      · exact hpos hnone

theorem committed_consumedUp {g : Progress} (hg : c.tracker.assignment[p]? = some g) :
    (consumedUp g).committed = (Tracker.consumed c.tracker)[p]?.or g.committed := by
  cases hpos : g.position with
  | some offset =>
      have hconsumed : (Tracker.consumed c.tracker)[p]? = some (Commit.ofOffset offset) :=
        Subscription.getElem?_consumed .sorted hg hpos
      rw [consumedUp_of_position hpos, hconsumed]
      rfl
  | none => rw [consumedUp_of_none hpos, getElem?_consumed_of_none hg hpos, Option.none_or]

/-- What a request that records a commit for a partition without a position makes of its
    progress. -/
theorem onProgress_of_commits? {g : Progress} {r : Request} {commit : Commit}
    (hg : c.tracker.assignment[p]? = some g) (hnone : g.position = none)
    (h : r.commits? c p = some commit) :
    r.onProgress c p = some { g with committed := some commit } := by
  cases r with
  | commitAsync offsets | commitSyncOffsets offsets =>
      simp only [Request.commits?] at h
      simp only [Request.onProgress, Request.edited, hg, h, Option.map_some, Option.elim_some]
  | commitAsyncConsumed | commitSync =>
      simp only [Request.commits?, getElem?_consumed_of_none hg hnone] at h
      cases h
  | _ => cases h

theorem position_settled_of_ok {g : Progress} {a : Reply}
    (hg : c.tracker.assignment[p]? = some g)
    (hok : ((handle (.position p)).run c).result = .ok a) : (c.settled p g).position ≠ none := by
  rw [handle, (Action.bind_pure (position p) Reply.offset c).1, (run_position hg).1] at hok
  cases hv : g.position.elim (c.resolve p g) .ok with
  | error e =>
      rw [hv] at hok
      cases hok
  | ok v =>
      rw [position_settled_of_found hv]
      simp

/-- What a request that succeeds is to the history of a partition. -/
theorem passes_handle {r : Request} {a : Reply} (hc : c.tracker.Coherent)
    (hok : ((handle r).run c).result = .ok a) {g' : Progress}
    (hg' : ((handle r).run c).state.tracker.assignment[p]? = some g') :
    g'.Passes (r.renews c p) (r.places p) (r.resets? p) (r.commits? c p)
      c.tracker.assignment[p]? := by
  rw [progress_handle hc hok] at hg'
  -- a request that edits the progress on an assigned partition
  have edits (hr : r.onProgress c p = c.tracker.assignment[p]?.map (r.edited c p))
      (hrenews : r.renews c p = false)
      (h : ∀ g, c.tracker.assignment[p]? = some g →
        (r.edited c p g).committed = (r.commits? c p).or g.committed ∧
        (r.edited c p g).pendingReset =
          if r.places p then none else (r.resets? p).or g.pendingReset) :
      g'.Passes (r.renews c p) (r.places p) (r.resets? p) (r.commits? c p)
        c.tracker.assignment[p]? := by
    rw [hr] at hg'
    obtain ⟨g, hg, rfl⟩ := Option.map_eq_some_iff.1 hg'
    obtain ⟨hcommit, hreset⟩ := h g hg
    exact .kept hrenews g hg hcommit hreset
  cases r with
  | assign ps =>
      simp only [Request.onProgress] at hg'
      rw [Option.ite_none_right_eq_some] at hg'
      obtain ⟨hp, hg'⟩ := hg'
      cases hg : c.tracker.assignment[p]? with
      | none =>
          rw [hg] at hg'
          cases hg'
          refine .renewed ?_ rfl
          simp [Request.renews, hp, Subscription.isAssigned_eq, hg]
      | some g =>
          rw [hg] at hg'
          cases hg'
          refine .kept ?_ g rfl rfl rfl
          simp [Request.renews, Subscription.isAssigned_eq, hg]
  | rebalance ps =>
      simp only [Request.onProgress] at hg'
      rw [Option.ite_none_right_eq_some] at hg'
      obtain ⟨hp, hg'⟩ := hg'
      cases hg'
      exact .renewed (decide_eq_true hp) rfl
  | unsubscribe => cases hg'
  | pause ps | resume ps =>
      refine edits rfl rfl fun g _ => ?_
      simp only [Request.edited]
      split <;> exact ⟨rfl, rfl⟩
  | seekToBeginning ps | seekToEnd ps =>
      refine edits rfl rfl fun g _ => ?_
      simp only [Request.edited, Request.resets?]
      split <;> exact ⟨rfl, rfl⟩
  | seek q offset =>
      refine edits rfl rfl fun g _ => ?_
      simp only [Request.edited, Request.places, decide_eq_true_eq]
      split <;> exact ⟨rfl, rfl⟩
  | position q =>
      refine edits rfl rfl fun g hg => ?_
      simp only [Request.edited, Request.places, decide_eq_true_eq]
      split
      · next hq =>
          subst hq
          exact ⟨committed_settled c p g,
            pendingReset_settled (hc.settled p g hg) (position_settled_of_ok hg hok)⟩
      · exact ⟨rfl, rfl⟩
  | commitAsync offsets | commitSyncOffsets offsets =>
      refine edits rfl rfl fun g _ => ?_
      simp only [Request.edited, Request.commits?]
      cases offsets[p]? <;> exact ⟨rfl, rfl⟩
  | commitAsyncConsumed | commitSync =>
      refine edits rfl rfl fun g hg => ⟨committed_consumedUp hg, ?_⟩
      simp only [Request.edited, consumedUp]
      split <;> rfl
  | _ => exact edits rfl rfl fun g _ => ⟨rfl, rfl⟩

end Client

/-! ## What deeds are to a partition -/

/-- What ending a poll over a subscription does to the client: it sorts out the buffer only if every
    partition has or gets a position, and otherwise it leaves the client alone. -/
theorem Consumer.client_endPoll {κ : Type} (visiting : Visiting (List Record))
    (c : Consumer Subscription κ) :
    match c.sortedBy? with
    | none => ((endPoll visiting).run c).state.client = c.client
    | some _ => (∀ p e, ¬ c.client.Unresolved p e) ∧
        ((endPoll visiting).run c).state.client =
          { c.client with tracker := c.client.tracker.adjust c.client.polled, buffer := ∅ } := by
  unfold sortedBy?
  cases hf : c.fetchesNow with
  | false =>
      obtain ⟨f, -, hstate⟩ := run_endPoll_of_not_fetchesNow visiting hf
      show ((endPoll visiting).run c).state.client = c.client
      rw [hstate]
  | true =>
      obtain ⟨-, hstate⟩ := run_endPoll_of_fetchesNow visiting hf
      have hclient : ((endPoll visiting).run c).state.client =
          ((Client.fetch visiting).run c.client).state := congrArg client hstate
      rw [hclient, if_pos rfl]
      rcases Client.settle_cases c.client with ⟨p, e, -, -, hfail, hsame⟩ | ⟨hall, hok, -⟩
      · rw [hfail]
        exact (Client.run_fetch_of_unsettled visiting hfail).2.trans hsame
      · rw [hok]
        rcases Client.fetch_cases visiting c.client with ⟨p, e, hu, -⟩ | ⟨-, -, hfetched⟩
        · exact absurd hu (hall p e)
        · exact ⟨hall, hfetched⟩

namespace Deed

variable (p : Partition) (d : Deed Subscription)

/-- The policy by which the deed asks for a reset of a partition, if it does. -/
def resets? : Option ResetPolicy := d.accepted?.bind (·.resets? p)

/-- The commit that the deed records for a partition, if it does. -/
def commits? : Option Commit := d.accepted?.bind (·.commits? d.before.consumer.client p)

/-- Whether the deed gives a partition its position: it seeks, it asks for the position and is
    answered, or it is a poll that has found all positions. -/
def places : Bool := d.accepted?.any (·.places p) || d.sortedBy?.isSome

/-- Whether the deed assigns a partition afresh. -/
def renews : Bool := d.accepted?.any (·.renews d.before.consumer.client p)

variable {p d}

/-- What a deed is to the history of a partition that is assigned afterwards. -/
theorem passes (hc : d.before.consumer.client.tracker.Coherent) {g' : Progress}
    (hg' : d.after.consumer.client.tracker.assignment[p]? = some g') :
    g'.Passes (d.renews p) (d.places p) (d.resets? p) (d.commits? p)
      d.before.consumer.client.tracker.assignment[p]? := by
  unfold renews places resets? commits?
  cases d with
  | make s step =>
      have hsorted : (make s step).sortedBy? = none := rfl
      cases haccepted : (make s step).accepted? with
      | some r =>
          obtain ⟨hstate, a, hok⟩ := client_of_accepted? haccepted
          rw [hstate] at hg'
          simpa [hsorted] using Client.passes_handle hc hok hg'
      | none =>
          rw [client_make_of_refused haccepted] at hg'
          exact .kept rfl g' hg' rfl rfl
  | endPoll s visiting shown =>
      have haccepted : (endPoll s visiting shown).accepted? = none := accepted?_of_request? rfl
      have hsorted : (endPoll s visiting shown).sortedBy? = s.consumer.sortedBy? := rfl
      have hclient := Consumer.client_endPoll visiting s.consumer
      rw [haccepted, hsorted]
      cases hs : s.consumer.sortedBy? with
      | none =>
          rw [hs] at hclient
          have hsame : (endPoll s visiting shown).after.consumer.client = s.consumer.client :=
            hclient
          rw [hsame] at hg'
          exact .kept rfl g' hg' rfl rfl
      | some t =>
          rw [hs] at hclient
          obtain ⟨hall, hpolled⟩ := hclient
          have hafter : (endPoll s visiting shown).after.consumer.client.tracker =
              s.consumer.client.tracker.adjust s.consumer.client.polled :=
            congrArg Client.tracker hpolled
          rw [hafter, Subscription.getElem?_adjust] at hg'
          obtain ⟨g, hg, rfl⟩ := Option.map_eq_some_iff.1 hg'
          refine .kept rfl g hg (Client.committed_polled _ p g) ?_
          rw [Client.pendingReset_polled]
          exact Client.pendingReset_settled (hc.settled p g hg) (Client.position_settled hall hg)

end Deed

/-! ## What makes up for a failure -/

namespace Client

variable {c c' : Client Subscription} {p : Partition} {g : Progress} {v : Int64}

/-- A policy that found no offset finds the one that was missing once it is scripted. -/
theorem scriptedStart_of_scripted {policy : ResetPolicy} {e : Failure}
    (h : c.scriptedStart p policy = .error e)
    (hv : e = .missingBeginning p ∧ c'.beginnings[p]? = some v ∨
      e = .missingEnd p ∧ c'.ends[p]? = some v) : c'.scriptedStart p policy = .ok v := by
  unfold scriptedStart at h ⊢
  cases policy with
  | earliest =>
      cases hb : c.beginnings[p]? <;> rw [hb] at h <;> cases h
      rcases hv with ⟨-, hv⟩ | ⟨hother, -⟩
      · rw [hv]
        rfl
      · cases hother
  | latest =>
      cases he : c.ends[p]? <;> rw [he] at h <;> cases h
      rcases hv with ⟨hother, -⟩ | ⟨-, hv⟩
      · cases hother
      · rw [hv]
        rfl
  | none =>
      cases h
      rcases hv with ⟨hother, -⟩ | ⟨hother, -⟩ <;> cases hother

/-- The offset that was missing is where the partition starts once it is scripted. -/
theorem resolve_of_scripted {e : Failure}
    (hpolicy : c'.tracker.defaultPolicy = c.tracker.defaultPolicy) (h : c.resolve p g = .error e)
    (hv : e = .missingBeginning p ∧ c'.beginnings[p]? = some v ∨
      e = .missingEnd p ∧ c'.ends[p]? = some v) : c'.resolve p g = .ok v := by
  unfold resolve at h ⊢
  rw [hpolicy]
  split at h
  · exact scriptedStart_of_scripted h hv
  · cases h
  · exact scriptedStart_of_scripted h hv

theorem resolve_of_committed {commit : Commit} (hreset : g.pendingReset = none) :
    c.resolve p { g with committed := some commit } = .ok commit.offset := by
  unfold resolve
  rw [hreset]

end Client

theorem Session.ok_of_succeeded {s : Session Subscription} (hs : s.dropped = false)
    (hopen : s.consumer.isClosed = false) {r : Request}
    (h : (s.play (.request r)).succeeded = true) :
    ∃ a, ((Client.handle r).run s.consumer.client).result = .ok a := by
  unfold Run.succeeded at h
  rw [(play_request hs hopen r).2, Option.any_some, Verdict.isOk_ofResult] at h
  cases hres : ((Client.handle r).run s.consumer.client).result with
  | ok a => exact ⟨a, rfl⟩
  | error e =>
      rw [hres] at h
      cases h

/-- What an open consumer answers when it is asked for a position right after a request. -/
theorem Session.offset?_after_request {s : Session Subscription} {p : Partition} {g : Progress}
    {v : Int64} (hs : s.dropped = false) (hopen : s.consumer.isClosed = false) {later : Request}
    (hg : ((Client.handle later).run s.consumer.client).state.tracker.assignment[p]? = some g)
    (hnone : g.position = none)
    (hv : ((Client.handle later).run s.consumer.client).state.resolve p g = .ok v) :
    ((s.play (.request later)).session.play (.request (.position p))).offset? = some v := by
  have hs' :
      (s.withClient ((Client.handle later).run s.consumer.client).state).dropped = false := hs
  have hres := (Client.run_position hg).1
  rw [hnone] at hres
  rw [(play_request hs hopen later).1]
  exact (offset?_play_position hs' hopen).2 (hres.trans hv)

/-! ## What a history leaves of a partition -/

/-- The deeds of a history since a partition was last assigned afresh. -/
def tenure (p : Partition) (ds : List (Deed Subscription)) : List (Deed Subscription) :=
  ds.rtakeWhile fun d => !d.renews p

/-- The policy of the last reset that was asked for since a partition was assigned afresh, if
    nothing has given the partition a position afterwards. -/
def resetAsked? (p : Partition) (ds : List (Deed Subscription)) : Option ResetPolicy :=
  (((tenure p ds).rtakeWhile fun d => !d.places p).filterMap (·.resets? p)).getLast?

/-- The last commit that was recorded for a partition since it was assigned afresh. -/
def lastCommit? (p : Partition) (ds : List (Deed Subscription)) : Option Commit :=
  ((tenure p ds).filterMap (·.commits? p)).getLast?

section

variable (p : Partition) (ds : List (Deed Subscription)) (d : Deed Subscription)

theorem tenure_concat : tenure p (ds ++ [d]) = if d.renews p then [] else tenure p ds ++ [d] := by
  unfold tenure
  rw [List.rtakeWhile_concat]
  cases d.renews p <;> simp

theorem resetAsked?_concat :
    resetAsked? p (ds ++ [d]) =
      if d.renews p || d.places p then none else (d.resets? p).or (resetAsked? p ds) := by
  unfold resetAsked?
  rw [tenure_concat]
  cases d.renews p with
  | true => simp
  | false =>
      simp only [Bool.false_eq_true, if_false, Bool.false_or, List.rtakeWhile_concat]
      cases d.places p with
      | true => simp
      | false => cases hr : d.resets? p <;> simp [List.filterMap_append, hr]

theorem lastCommit?_concat :
    lastCommit? p (ds ++ [d]) =
      if d.renews p then none else (d.commits? p).or (lastCommit? p ds) := by
  unfold lastCommit?
  rw [tenure_concat]
  cases d.renews p with
  | true => simp
  | false => cases hr : d.commits? p <;> simp [List.filterMap_append, hr]

end

/-! ## What the tracker remembers of it -/

/-- The tracker remembers of the history of each assigned partition the last commit, and the reset
    that is still to be applied, and no more. -/
structure Session.Recalls (policy : ResetPolicy) (ds : List (Deed Subscription))
    (s : Session Subscription) : Prop where
  coherent : s.consumer.client.tracker.Coherent
  policy : s.consumer.client.tracker.defaultPolicy = policy
  progress : ∀ (p : Partition) (g : Progress), s.consumer.client.tracker.assignment[p]? = some g →
    g.committed = lastCommit? p ds ∧ g.pendingReset = resetAsked? p ds

variable {policy : ResetPolicy} {ds : List (Deed Subscription)}

theorem Session.Recalls.step {d : Deed Subscription} (h : d.before.Recalls policy ds) :
    d.after.Recalls policy (ds ++ [d]) := by
  obtain ⟨hcoherent, hpolicy⟩ := Deed.maintains_granted (I := fun s => s.defaultPolicy = policy)
    (by rintro call - s s' - hs ⟨⟩ <;> exact hs) h.coherent h.policy
  refine ⟨hcoherent, hpolicy, ?_⟩
  intro p g' hg'
  rw [lastCommit?_concat, resetAsked?_concat]
  cases Deed.passes h.coherent hg' with
  | renewed hrenewed hfresh =>
      rw [hrenewed, hfresh]
      exact ⟨rfl, rfl⟩
  | kept hkept g hg hcommit hreset =>
      obtain ⟨hlast, hasked⟩ := h.progress p g hg
      rw [hkept, hcommit, hreset, hlast, hasked]
      exact ⟨rfl, rfl⟩

namespace History

variable {r : Run Subscription}

theorem recalls (h : History (Subscription.empty policy) ds r) : r.session.Recalls policy ds := by
  refine h.carries (P := fun ds s => s.Recalls policy ds) ?_ fun _ _ hd => hd.step
  intro catalog timeout
  refine ⟨Subscription.coherent_empty policy, rfl, ?_⟩
  intro p g hg
  have hempty : (∅ : PartitionMap Progress)[p]? = some g := hg
  rw [Std.ExtTreeMap.getElem?_empty] at hempty
  cases hempty

/-- A partition without a position resolves to what its history says. -/
theorem resolve_eq (h : History (Subscription.empty policy) ds r) {p : Partition} {g : Progress}
    (hg : r.session.consumer.client.tracker.assignment[p]? = some g) :
    r.session.consumer.client.resolve p g =
      r.session.consumer.client.startBy policy p (resetAsked? p ds) (lastCommit? p ds) := by
  have hrecalls := h.recalls
  obtain ⟨hcommit, hreset⟩ := hrecalls.progress p g hg
  rw [Client.resolve_eq_startBy, hcommit, hreset, hrecalls.policy]

/-- **What an unknown position resolves to is determined by the history.** At every moment of every
    history over a subscription an open consumer is asked for the position of an assigned partition
    that has none. The answer is where the partition starts by the last reset that was asked for
    since it was assigned afresh, unless it has been given a position afterwards; else by the last
    commit recorded for it since then; else by the default policy. If there is such an offset, the
    partition is moved there, its pending reset is dropped, and nothing else changes. If there is
    none, the failure names the partition and nothing changes; so a commit that is recorded then is
    what the next answer is, unless a reset was asked for, and an offset that was missing is the
    next answer once it is scripted. -/
theorem position_by_history (h : History (Subscription.empty policy) ds r)
    (hs : r.session.dropped = false) (hopen : r.session.consumer.isClosed = false) {p : Partition}
    {g : Progress} (hg : r.session.consumer.client.tracker.assignment[p]? = some g)
    (hnone : g.position = none) :
    let c := r.session.consumer.client
    let start := c.startBy policy p (resetAsked? p ds) (lastCommit? p ds)
    let asked := r.session.play (.request (.position p))
    let answerAfter (later : Request) :=
      ((asked.session.play (.request later)).session.play (.request (.position p))).offset?
    asked.verdict? = some (.ofResult (fun v => .reply (.offset v)) start) ∧
    (∀ v, start = .ok v → asked.session = r.session.withClient { c with tracker := { c.tracker with
      assignment := c.tracker.assignment.insert p
        { g with position := some v, pendingReset := none } } }) ∧
    (∀ e, start = .error e →
      asked.session = r.session ∧
      (e = .missingBeginning p ∨ e = .missingEnd p ∨ e = .noOffset p) ∧
      (∀ (later : Request) (commit : Commit), resetAsked? p ds = none →
        later.commits? c p = some commit →
        (asked.session.play (.request later)).succeeded = true →
        answerAfter later = some commit.offset) ∧
      (∀ (offsets : PartitionMap Int64) (v : Int64), e = .missingBeginning p →
        offsets[p]? = some v → answerAfter (.scriptBeginnings offsets) = some v) ∧
      (∀ (offsets : PartitionMap Int64) (v : Int64), e = .missingEnd p →
        offsets[p]? = some v → answerAfter (.scriptEnds offsets) = some v)) := by
  intro c start asked answerAfter
  have hstart : start = c.resolve p g := (h.resolve_eq hg).symm
  rw [hstart]
  obtain ⟨hres, hlocated⟩ := Client.run_position hg
  rw [hnone] at hres
  obtain ⟨hsession, hverdict⟩ := Session.play_position (p := p) hs hopen
  rw [hres] at hverdict
  rw [hlocated] at hsession
  refine ⟨hverdict, ?_, ?_⟩
  · intro v hv
    rw [← Client.located_of_resolve hg hnone hv]
    exact hsession
  · intro e he
    have hsame : asked.session = r.session := by
      rw [Client.located_of_unresolved hg hnone he] at hsession
      exact hsession
    have answers {later : Request} {g' : Progress} {v : Int64}
        (hg' : ((Client.handle later).run c).state.tracker.assignment[p]? = some g')
        (hnone' : g'.position = none)
        (hv : ((Client.handle later).run c).state.resolve p g' = .ok v) :
        answerAfter later = some v := by
      show ((asked.session.play _).session.play _).offset? = _
      rw [hsame]
      exact Session.offset?_after_request hs hopen hg' hnone' hv
    refine ⟨hsame, Client.resolve_error he, ?_, ?_, ?_⟩
    · intro later commit hasked hcommits hlater
      rw [hsame] at hlater
      have hrecalls := h.recalls
      have hreset : g.pendingReset = none := (hrecalls.progress p g hg).2.trans hasked
      obtain ⟨a, hok⟩ := Session.ok_of_succeeded hs hopen hlater
      have hafter := Client.progress_handle hrecalls.coherent hok p
      rw [Client.onProgress_of_commits? hg hnone hcommits] at hafter
      exact answers hafter hnone (Client.resolve_of_committed hreset)
    · rintro offsets v rfl hv
      refine answers hg hnone (Client.resolve_of_scripted (c := c) rfl he (.inl ⟨rfl, ?_⟩))
      exact getElem?_insertMany_toList hv
    · rintro offsets v rfl hv
      refine answers hg hnone (Client.resolve_of_scripted (c := c) rfl he (.inr ⟨rfl, ?_⟩))
      exact getElem?_insertMany_toList hv

end History

/-! ## A run with two partitions without a position -/

/-- A run over two partitions of which one has a commit, and is then asked to be reset to its end
    and after that to its beginning. A poll fails at the other one. -/
def Run.resetTwice : Run Subscription :=
  Run.fresh (Subscription.empty .none) .empty ⟨30000⟩
    [.request (.assign {orders 0, orders 1}),
      .request (.commitSyncOffsets {(orders 0, Commit.ofOffset 9)}),
      .request (.scriptBeginnings {(orders 0, 3)}), .request (.seekToEnd [orders 0]),
      .request (.seekToBeginning [orders 0]), .poll]

/-- After the seven deeds the first partition starts at its beginning in spite of its commit. For
    the second one there is no offset, and the question leaves everything as it is; once it has a
    commit, that is the answer. -/
theorem Run.resetTwice_resolved :
    let s := (Run.resetTwice.ahead 7).session
    let asked := s.play (.request (.position (orders 1)))
    let later : Request := .commitAsync {(orders 1, Commit.ofOffset 12)}
    resetAsked? (orders 0) (Run.resetTwice.deeds 7) = some .earliest ∧
    lastCommit? (orders 0) (Run.resetTwice.deeds 7) = some (.ofOffset 9) ∧
    (s.play (.request (.position (orders 0)))).verdict? = some (.ok (.reply (.offset 3))) ∧
    asked.verdict? = some (.failed (.noOffset (orders 1))) ∧ asked.session = s ∧
    ((asked.session.play (.request later)).session.play
      (.request (.position (orders 1)))).offset? = some 12 := by
  have hhistory : History (Subscription.empty .none) (Run.resetTwice.deeds 7)
      (Run.resetTwice.ahead 7) := .of_moves ..
  have hpresent : (Run.resetTwice.ahead 7).session.dropped = false := by decide +kernel
  have hopen : (Run.resetTwice.ahead 7).session.consumer.isClosed = false := by decide +kernel
  have hasked : resetAsked? (orders 0) (Run.resetTwice.deeds 7) = some .earliest := by
    decide +kernel
  have hcommitted : lastCommit? (orders 0) (Run.resetTwice.deeds 7) = some (.ofOffset 9) := by
    decide +kernel
  let c := (Run.resetTwice.ahead 7).session.consumer.client
  have hstart : c.startBy .none (orders 0) (some .earliest) (some (.ofOffset 9)) = .ok 3 := by
    decide +kernel
  have hnowhere : c.startBy .none (orders 1) (resetAsked? (orders 1) (Run.resetTwice.deeds 7))
      (lastCommit? (orders 1) (Run.resetTwice.deeds 7)) = .error (.noOffset (orders 1)) := by
    decide +kernel
  obtain ⟨hfirst, -⟩ := History.position_by_history hhistory hpresent hopen (p := orders 0)
    (g := { Progress.fresh with committed := some (.ofOffset 9), pendingReset := some .earliest })
    (by decide +kernel) rfl
  rw [hasked, hcommitted, hstart] at hfirst
  obtain ⟨hsecond, -, hfails⟩ := History.position_by_history hhistory hpresent hopen
    (p := orders 1) (g := .fresh) (by decide +kernel) rfl
  obtain ⟨hsame, -, hcommits, -⟩ := hfails _ hnowhere
  rw [hnowhere] at hsecond
  intro s asked later
  exact ⟨hasked, hcommitted, hfirst, hsecond, hsame,
    hcommits later (.ofOffset 12) (by decide +kernel) (by decide +kernel) (by decide +kernel)⟩

end ScriptedConsumer
