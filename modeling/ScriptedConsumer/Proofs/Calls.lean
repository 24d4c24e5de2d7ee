import ScriptedConsumer.Client.Fetch
import ScriptedConsumer.Client.Request
import ScriptedConsumer.Proofs.Actions

set_option autoImplicit false

/-! # What requests are made of

A request, and a fetch, comes down to calls of the tracker, to edits of what the client keeps beside
it, and to log entries. `Request.Makes` lists the calls that a request may make, `Request.Edits` the
edits and `Request.Logs` the entries. A property of operations that these parts pass on is one of
the request: `Client.handle_of_parts`. So an invariant of the client that is carried on by each call
and each edit is carried on by the request, which is `Client.maintains_handle`, and all that is to
be said of what requests leave alone comes from it. -/

namespace ScriptedConsumer

/-! ## Calls of a tracker -/

namespace Tracker

/-- An operation of a tracker. -/
inductive Call
  | subscribe (topics : TopicSet) (listener : Listener)
  | subscribePattern (pattern : Pattern) (listener : Listener)
  | setMatched (topics : TopicSet)
  | assignManually (partitions : PartitionSet)
  | assignFromGroup (partitions : List Partition)
  | unsubscribe
  | pause (partition : Partition)
  | resume (partition : Partition)
  | setPosition (partition : Partition) (offset : Int64)
  | setCommitted (partition : Partition) (commit : Commit)
  | needReset (partition : Partition) (policy : ResetPolicy)
  | needDefaultReset (partition : Partition)
  | seek (partition : Partition) (offset : Int64)

variable {τ : Type} [Tracker τ]

/-- What a call does. -/
def Call.perform : Call → Action τ Unit
  | subscribe topics listener => Tracker.subscribe topics listener
  | subscribePattern pattern listener => Tracker.subscribePattern pattern listener
  | setMatched topics => Tracker.setMatched topics
  | assignManually ps => Tracker.assignManually ps
  | assignFromGroup ps => Tracker.assignFromGroup ps
  | unsubscribe => modify Tracker.unsubscribe
  | pause p => Tracker.pause p
  | resume p => Tracker.resume p
  | setPosition p offset => Tracker.setPosition p offset
  | setCommitted p commit => Tracker.setCommitted p commit
  | needReset p policy => Tracker.needReset p policy
  | needDefaultReset p => Tracker.needDefaultReset p
  | seek p offset => Tracker.seek p offset

theorem run_needDefaultReset (p : Partition) (t : τ) :
    (needDefaultReset p).run t = (needReset p (defaultPolicy t)).run t := rfl

/-- The tracker that calls leave behind, made one after the other, whether they succeed or not. -/
def after (t : τ) (calls : List Call) : τ :=
  calls.foldl (fun t call => (call.perform.run t).state) t

/-- What every call carries on holds after any calls. -/
theorem after_induction {I : τ → Prop} (hcall : ∀ call : Call, Action.Maintains I call.perform)
    {t : τ} (h : I t) (calls : List Call) : I (after t calls) := by
  induction calls generalizing t with
  | nil => exact h
  | cons call rest ih =>
      show I (after (call.perform.run t).state rest)
      exact ih (hcall call t h)

end Tracker

/-! ## Calls and edits of a request -/

/-- The calls of the tracker that a request may make. -/
inductive Request.Makes : Request → Tracker.Call → Prop
  | subscribe (topics : TopicSet) (listener : Listener) :
      Makes (.subscribe topics listener) (.subscribe topics listener)
  | subscribePattern (pattern : Pattern) (listener : Listener) :
      Makes (.subscribePattern pattern listener) (.subscribePattern pattern listener)
  | setMatched (pattern : Pattern) (listener : Listener) (topics : TopicSet) :
      Makes (.subscribePattern pattern listener) (.setMatched topics)
  | assign (ps : PartitionSet) : Makes (.assign ps) (.assignManually ps)
  | unsubscribe : Makes .unsubscribe .unsubscribe
  | rebalance (ps : List Partition) : Makes (.rebalance ps) (.assignFromGroup ps)
  | pause {ps : List Partition} {p : Partition} (h : p ∈ ps) : Makes (.pause ps) (.pause p)
  | resume {ps : List Partition} {p : Partition} (h : p ∈ ps) : Makes (.resume ps) (.resume p)
  | seek (p : Partition) (offset : Int64) : Makes (.seek p offset) (.seek p offset)
  | seekToBeginning {ps : List Partition} {p : Partition} (h : p ∈ ps) :
      Makes (.seekToBeginning ps) (.needReset p .earliest)
  | seekToEnd {ps : List Partition} {p : Partition} (h : p ∈ ps) :
      Makes (.seekToEnd ps) (.needReset p .latest)
  | position (p : Partition) (offset : Int64) : Makes (.position p) (.seek p offset)
  | commitAsync {offsets : CommitMap} {e : Partition × Commit} (h : e ∈ offsets.toList) :
      Makes (.commitAsync offsets) (.setCommitted e.1 e.2)
  | commitSyncOffsets {offsets : CommitMap} {e : Partition × Commit} (h : e ∈ offsets.toList) :
      Makes (.commitSyncOffsets offsets) (.setCommitted e.1 e.2)
  | commitAsyncConsumed (p : Partition) (commit : Commit) :
      Makes .commitAsyncConsumed (.setCommitted p commit)
  | commitSync (p : Partition) (commit : Commit) : Makes .commitSync (.setCommitted p commit)

/-- How a request may edit what the client keeps beside its tracker. -/
inductive Request.Edits {τ : Type} [Tracker τ] : Request → (Client τ → Client τ) → Prop
  | assign (ps : PartitionSet) : Edits (.assign ps) Client.syncPaused
  | unsubscribe : Edits .unsubscribe Client.syncPaused
  | rebalance (ps : List Partition) :
      Edits (.rebalance ps) fun c => Client.syncPaused { c with buffer := ∅ }
  | addRecord (r : Record) : Edits (.addRecord r) (Client.buffered r)
  | pause {ps : List Partition} {p : Partition} (h : p ∈ ps) :
      Edits (.pause ps) fun c => { c with paused := c.paused.insert p }
  | resume {ps : List Partition} {p : Partition} (h : p ∈ ps) :
      Edits (.resume ps) fun c => { c with paused := c.paused.erase p }
  | updatePlacements (topic : String) (placements : List Placement) :
      Edits (.updatePlacements topic placements) fun c =>
        { c with catalog := c.catalog.update topic placements }
  | scriptBeginnings (offsets : PartitionMap Int64) :
      Edits (.scriptBeginnings offsets) fun c =>
        { c with beginnings := c.beginnings.insertMany offsets.toList }
  | scriptEnds (offsets : PartitionMap Int64) :
      Edits (.scriptEnds offsets) fun c => { c with ends := c.ends.insertMany offsets.toList }

/-- What a request may write to the log, beside what its calls of the tracker write. -/
inductive Request.Logs : Request → Entry → Prop
  | patternResolved (pattern : Pattern) (listener : Listener) (matched : Nat) :
      Logs (.subscribePattern pattern listener) (.patternResolved pattern.text matched)
  | rebalanced (ps : List Partition) (dropped : Nat) :
      Logs (.rebalance ps) (.rebalanced ps.length dropped)
  | located (p : Partition) (origin : Origin) : Logs (.position p) (origin.entry p)
  | commitAsync (offsets : CommitMap) : Logs (.commitAsync offsets) (.committed offsets.size)
  | commitSyncOffsets (offsets : CommitMap) :
      Logs (.commitSyncOffsets offsets) (.committed offsets.size)
  | commitAsyncConsumed (n : Nat) : Logs .commitAsyncConsumed (.committed n)
  | commitSync (n : Nat) : Logs .commitSync (.committed n)

namespace Client

variable {τ : Type} [Tracker τ]

theorem tracker_of_edits {r : Request} {g : Client τ → Client τ} (h : r.Edits g) (c : Client τ) :
    (g c).tracker = c.tracker := by
  cases h <;> rfl

/-! ## Operations that change nothing -/

theorem keeps_ensureAssigned {γ : Type} (f : Client τ → γ) (ps : List Partition) :
    Action.Keeps f (ensureAssigned ps) := by
  refine .bind .get fun c => ?_
  split
  · exact .throw _
  · exact .pure _

theorem keeps_locate {γ : Type} (f : Client τ → γ) (p : Partition) : Action.Keeps f (locate p) :=
  .bind (.ask _) fun _ => .bind (.log _) fun _ => .pure _

/-! ## Properties of requests -/

section Parts

variable {Q : (α : Type) → Action (Client τ) α → Prop} (hQ : Action.Hereditary Q)

include hQ

theorem ensureAssigned_of_parts (ps : List Partition) : Q Unit (ensureAssigned ps) := by
  refine hQ.bind hQ.get fun c => ?_
  split
  · exact hQ.throw _
  · exact hQ.pure _

theorem subscribePattern_of_parts [Pattern.Dialect] {pattern : Pattern} {listener : Listener}
    (hsubscribe : Q Unit (onTracker (Tracker.subscribePattern pattern listener)))
    (hmatched : ∀ topics, Q Unit (onTracker (Tracker.setMatched topics)))
    (hlog : ∀ n, Q Unit (Action.log (.patternResolved pattern.text n))) :
    Q Unit (subscribePattern pattern listener) := by
  unfold subscribePattern
  split
  · exact hQ.throw _
  · exact hQ.bind hsubscribe fun _ => hQ.bind hQ.get fun _ => hQ.bind (hlog _) fun _ => hmatched _

theorem position_of_parts {p : Partition}
    (hseek : ∀ offset, Q Unit (onTracker (Tracker.seek p offset)))
    (hlog : ∀ origin : Origin, Q Unit (Action.log (origin.entry p))) : Q Int64 (position p) := by
  refine hQ.bind hQ.get fun _ => hQ.checked (hQ.bind (hQ.ask _) fun o => ?_)
  cases o with
  | some offset => exact hQ.pure _
  | none =>
      have hlocate : Q Int64 (locate p) :=
        hQ.bind (hQ.ask _) fun _ => hQ.bind (hlog _) fun _ => hQ.pure _
      exact hQ.bind hlocate fun _ => hQ.bind (hseek _) fun _ => hQ.pure _

theorem requestReset_of_parts {policy : ResetPolicy} {ps : List Partition}
    (hreset : ∀ p ∈ ps, Q Unit (onTracker (Tracker.needReset p policy))) :
    Q Unit (requestReset policy ps) :=
  hQ.bind (ensureAssigned_of_parts hQ ps) fun _ => hQ.each hreset

theorem commit_of_parts {β : Type} {visiting : Visiting Commit} {offsets : CommitMap}
    {callback : Callback τ β}
    (hcommit : ∀ e ∈ visiting.entries offsets, Q Unit (onTracker (Tracker.setCommitted e.1 e.2)))
    (hlog : Q Unit (Action.log (.committed offsets.size)))
    (hcallback : Q β (callback offsets none)) : Q β (commit visiting offsets callback) :=
  hQ.bind (ensureAssigned_of_parts hQ _) fun _ => hQ.bind (hQ.each hcommit) fun _ =>
    hQ.bind hlog fun _ => hcallback

theorem addRecord_of_parts {r : Record} (hadd : Q Unit (modify (buffered r))) :
    Q Unit (addRecord r) := by
  refine hQ.bind hQ.get fun _ => hQ.checked ?_
  split
  · exact hQ.bind (hQ.throw _) fun _ => hadd
  · exact hadd

/-- What the calls, the edits and the log entries of a request pass on, the request has. -/
theorem handle_of_parts [Pattern.Dialect] (r : Request)
    (hcalls : ∀ call : Tracker.Call, r.Makes call → Q Unit (onTracker call.perform))
    (hedits : ∀ g : Client τ → Client τ, r.Edits g → Q Unit (modify g))
    (hlogs : ∀ entry, r.Logs entry → Q Unit (Action.log entry)) : Q Reply (handle r) := by
  have done {act : Action (Client τ) Unit} (h : Q Unit act) :
      Q Reply (do act; return Reply.done) := hQ.bind h fun _ => hQ.pure _
  cases r with
  | assignment | subscription | paused | placements | listTopics =>
      exact hQ.bind hQ.get fun _ => hQ.pure _
  | metrics => exact hQ.pure _
  | offsetsForTimes => exact hQ.throw _
  | beginnings | ends => exact hQ.bind (hQ.ask _) fun _ => hQ.pure _
  | subscribe topics listener => exact done (hcalls _ (.subscribe topics listener))
  | subscribePattern pattern listener =>
      exact done (subscribePattern_of_parts hQ (hcalls _ (.subscribePattern pattern listener))
        (fun topics => hcalls _ (.setMatched pattern listener topics))
        fun n => hlogs _ (.patternResolved pattern listener n))
  | assign ps => exact hQ.bind (hcalls _ (.assign ps)) fun _ => done (hedits _ (.assign ps))
  | unsubscribe =>
      -- the tracker and the pauses change at once, and that is one after the other
      have h : Q Unit (do onTracker Tracker.Call.unsubscribe.perform; modify syncPaused) :=
        hQ.bind (hcalls _ .unsubscribe) fun _ => hedits _ .unsubscribe
      exact done h
  | rebalance ps =>
      exact done (hQ.bind (hcalls _ (.rebalance ps)) fun _ => hQ.bind hQ.get fun _ =>
        hQ.bind (hedits _ (.rebalance ps)) fun _ => hlogs _ (.rebalanced ps _))
  | addRecord r => exact done (addRecord_of_parts hQ (hedits _ (.addRecord r)))
  | pause ps =>
      exact done (hQ.bind (ensureAssigned_of_parts hQ ps) fun _ => hQ.each fun p hp =>
        hQ.bind (hcalls _ (.pause hp)) fun _ => hedits _ (.pause hp))
  | resume ps =>
      exact done (hQ.bind (ensureAssigned_of_parts hQ ps) fun _ => hQ.each fun p hp =>
        hQ.bind (hcalls _ (.resume hp)) fun _ => hedits _ (.resume hp))
  | seek p offset => exact done (hcalls _ (.seek p offset))
  | seekToBeginning ps =>
      exact done (requestReset_of_parts hQ fun p hp => hcalls _ (.seekToBeginning hp))
  | seekToEnd ps => exact done (requestReset_of_parts hQ fun p hp => hcalls _ (.seekToEnd hp))
  | position p =>
      exact hQ.bind (position_of_parts hQ (fun offset => hcalls _ (.position p offset))
        fun origin => hlogs _ (.located p origin)) fun _ => hQ.pure _
  | committed p =>
      refine hQ.bind (hQ.bind hQ.get fun c => ?_) fun _ => hQ.pure _
      split
      · exact hQ.ask _
      · exact hQ.pure _
  | commitAsync offsets =>
      exact commit_of_parts hQ (fun e he => hcalls _ (.commitAsync he))
        (hlogs _ (.commitAsync offsets)) (hQ.pure _)
  | commitSyncOffsets offsets =>
      exact commit_of_parts hQ (fun e he => hcalls _ (.commitSyncOffsets he))
        (hlogs _ (.commitSyncOffsets offsets)) (hQ.pure _)
  | commitAsyncConsumed =>
      exact hQ.bind hQ.get fun _ => commit_of_parts hQ
        (fun e _ => hcalls _ (.commitAsyncConsumed e.1 e.2)) (hlogs _ (.commitAsyncConsumed _))
        (hQ.pure _)
  | commitSync =>
      exact hQ.bind hQ.get fun _ => commit_of_parts hQ
        (fun e _ => hcalls _ (.commitSync e.1 e.2)) (hlogs _ (.commitSync _)) (hQ.pure _)
  | updatePlacements topic placements =>
      exact done (hedits _ (.updatePlacements topic placements))
  | scriptBeginnings offsets => exact done (hedits _ (.scriptBeginnings offsets))
  | scriptEnds offsets => exact done (hedits _ (.scriptEnds offsets))

end Parts

/-! ## Invariants -/

variable {J : Client τ → Prop}

/-- What each call and each edit of a request carries on, the request carries on. -/
theorem maintains_handle [Pattern.Dialect] (r : Request)
    (hcalls : ∀ call : Tracker.Call, r.Makes call → Action.Maintains J (onTracker call.perform))
    (hedits : ∀ g, r.Edits g → ∀ c, J c → J (g c)) : Action.Maintains J (handle r) :=
  handle_of_parts (Action.Maintains.hereditary J) r hcalls (fun g hg => .modify (hedits g hg))
    fun _ _ => .of_keeps (.log _)

theorem maintains_settle
    (hseek : ∀ p offset, Action.Maintains J (onTracker (Tracker.seek p offset))) :
    Action.Maintains J settle := by
  have hlocate (p : Partition) :
      Action.Keeps id (do return (p, ← locate p) : Action (Client τ) (Partition × Int64)) :=
    .bind (keeps_locate id p) fun _ => .pure _
  exact .bind (.of_keeps .get) fun _ => .bind (.of_keeps (.collect hlocate _)) fun _ =>
    .each fun start _ => hseek start.1 start.2

theorem maintains_advance
    (hmove : ∀ p offset, Action.Maintains J (onTracker (Tracker.setPosition p offset)))
    (group : Partition × List Record) : Action.Maintains J (advance group) := by
  refine .bind (.of_keeps .get) fun c => ?_
  split
  · split
    · exact hmove _ _
    · exact .of_keeps (.pure _)
  · exact .of_keeps (.pure _)

/-- What each seek, each move of a position and each change of the buffer carries on, a fetch
    carries on. -/
theorem maintains_fetch {visiting : Visiting (List Record)}
    (hseek : ∀ p offset, Action.Maintains J (onTracker (Tracker.seek p offset)))
    (hmove : ∀ p offset, Action.Maintains J (onTracker (Tracker.setPosition p offset)))
    (hbuffer : ∀ c b, J c → J { c with buffer := b }) : Action.Maintains J (fetch visiting) := by
  have hdiscard : Action.Maintains J discard := by
    have hreport (n : Nat) : Action.Maintains J (do
        if 0 < n then
          Action.log (.discarded n)
          Action.count .discardedRecords n : Action (Client τ) Unit) := by
      split
      · exact .bind (.of_keeps (.log _)) fun _ => .of_keeps (.count _ _)
      · exact .of_keeps (.pure _)
    exact .bind_get fun c hc => hreport _ _ (hbuffer c _ hc)
  have hdeliver : Action.Maintains J deliver := by
    intro c hc
    exact hbuffer c ∅ hc
  exact .bind (maintains_settle hseek) fun _ => .bind hdiscard fun _ =>
    .bind (.of_keeps .get) fun _ =>
      .bind (.each fun group _ => maintains_advance hmove group) fun _ => hdeliver

/-- What each call of a request carries on of the tracker, the request carries on. -/
theorem maintains_handle_tracker [Pattern.Dialect] {I : τ → Prop} (r : Request)
    (hcalls : ∀ call : Tracker.Call, r.Makes call → Action.Maintains I call.perform) :
    Action.Maintains (fun c : Client τ => I c.tracker) (handle r) := by
  refine maintains_handle r ?_ ?_
  · intro call hmakes c hc
    exact hcalls call hmakes c.tracker hc
  · intro g hg c hc
    rw [tracker_of_edits hg]
    exact hc

end Client

end ScriptedConsumer
