import ScriptedConsumer.Proofs.Commits
import ScriptedConsumer.Proofs.Locating
import ScriptedConsumer.Proofs.Polls

set_option autoImplicit false

/-! # Commits in a history

What is acknowledged as processed, at every moment of every history over a subscription. A commit of
given offsets is all or nothing, and it calls back once all of them are recorded or not at all. A
commit of what was consumed always succeeds. The main result is `History.commits_all_or_nothing`. It
also says what is committed right after a poll that delivered a batch: where the poll left each
partition. -/

namespace ScriptedConsumer

namespace Client

variable {c : Client Subscription} {offsets : CommitMap}

/-! ## Commits of given offsets -/

theorem run_commit_of_mem {β : Type} (hassigned : ∀ p ∈ offsets, p ∈ c.tracker.assignment)
    (visiting : Visiting Commit) (callback : Callback Subscription β) :
    (commit visiting offsets callback).run c =
      ((callback offsets none).run (c.recorded offsets)).after
        [.logged (.committed offsets.size)] :=
  run_commit visiting callback fun p hp => Std.ExtTreeMap.contains_iff_mem.2 (hassigned p hp)

theorem run_commit_of_not_mem {β : Type} (h : ∃ p ∈ offsets, p ∉ c.tracker.assignment)
    (visiting : Visiting Commit) (callback : Callback Subscription β) :
    ∃ p ∈ offsets, p ∉ c.tracker.assignment ∧
      (commit visiting offsets callback).run c = ⟨.error (.unassigned p), c, []⟩ := by
  obtain ⟨q, hq, hunassigned⟩ := h
  obtain ⟨p, hp, hfirst, hrun⟩ := run_commit_of_unassigned (c := c) visiting callback
    ⟨q, hq, Bool.eq_false_iff.2 (mt Std.ExtTreeMap.contains_iff_mem.1 hunassigned)⟩
  exact ⟨p, hp, mt Std.ExtTreeMap.contains_iff_mem.2 (Bool.eq_false_iff.1 hfirst), hrun⟩

/-! ## After a poll -/

theorem PollSpec.committed {c' : Client Subscription} {batch : Batch} {p : Partition}
    {g' : Progress} (h : c.PollSpec (.ok (.batch batch)) c')
    (hg' : (c'.recorded (Tracker.consumed c'.tracker)).tracker.assignment[p]? = some g') :
    ∃ g offset, c.tracker.assignment[p]? = some g ∧
      g'.position = some offset ∧ g'.committed = some (.ofOffset offset) ∧
      (∀ last, (batch.groups.getD p []).getLast? = some last → c.paused.contains p = false →
        offset.toInt = last.offset.toInt + 1) ∧
      (batch.groups.getD p [] = [] ∨ c.paused.contains p = true →
        g.position = some offset ∨ g.position = none ∧ c.resolve p g = .ok offset) := by
  have hmap : c'.tracker.assignment[p]?.map (recording (Tracker.consumed c'.tracker) p) =
      some g' := (Subscription.getElem?_adjust ..).symm.trans hg'
  obtain ⟨polled, hpolled, rfl⟩ := Option.map_eq_some_iff.1 hmap
  obtain ⟨g, offset, hg, hadvances, hgroups⟩ := h.exists_advances hpolled
  have hpos : polled.position = some offset := by rw [hadvances.eq]
  have hbuffer : batch.groups.getD p [] = c.buffer.getD p [] := by
    rw [Std.ExtTreeMap.getD_eq_getD_getElem?, Std.ExtTreeMap.getD_eq_getD_getElem?, hgroups]
  have hconsumed : (Tracker.consumed c'.tracker)[p]? = some (.ofOffset offset) :=
    Subscription.getElem?_consumed .sorted hpolled hpos
  rw [recording_of_some hconsumed]
  rw [hbuffer]
  exact ⟨g, offset, hg, hpos, rfl, hadvances.moved, hadvances.stayed⟩

end Client

namespace Deed

variable {s : Session Subscription}

/-! ## Commits of an open consumer -/

/-- A commit of assigned partitions records all of it, and the callback gets all of it. -/
theorem make_commitAsync (hs : s.dropped = false) (hopen : s.consumer.isClosed = false)
    {offsets : CommitMap} (hassigned : ∀ p ∈ offsets, p ∈ s.consumer.client.tracker.assignment) :
    (make s (.request (.commitAsync offsets))).verdict? =
        some (.ok (.reply (.acknowledged offsets none))) ∧
      (make s (.request (.commitAsync offsets))).after =
        s.withClient (s.consumer.client.recorded offsets) := by
  have hrun : (Client.handle (.commitAsync offsets)).run s.consumer.client = _ :=
    Client.run_commit_of_mem hassigned .sorted .acknowledge
  obtain ⟨hverdict, hafter, -⟩ := make_of_run hs hopen hrun
  exact ⟨hverdict, hafter⟩

/-- Any other commit of given offsets names a partition that is not assigned, and does nothing. -/
theorem make_commitAsync_of_not_mem (hs : s.dropped = false)
    (hopen : s.consumer.isClosed = false) {offsets : CommitMap}
    (h : ∃ p ∈ offsets, p ∉ s.consumer.client.tracker.assignment) :
    (∃ p ∈ offsets, p ∉ s.consumer.client.tracker.assignment ∧
      (make s (.request (.commitAsync offsets))).verdict? = some (.failed (.unassigned p))) ∧
      (make s (.request (.commitAsync offsets))).after = s := by
  obtain ⟨p, hp, hunassigned, hfails⟩ := Client.run_commit_of_not_mem h .sorted .acknowledge
  have hrun : (Client.handle (.commitAsync offsets)).run s.consumer.client = _ := hfails
  obtain ⟨hverdict, hafter, -⟩ := make_of_run hs hopen hrun
  exact ⟨⟨p, hp, hunassigned, hverdict⟩, hafter⟩

/-- A commit of what was consumed is never refused, with a callback or without one. -/
theorem make_commitConsumed (hs : s.dropped = false) (hopen : s.consumer.isClosed = false) :
    let consumed := Tracker.consumed s.consumer.client.tracker
    (make s (.request .commitAsyncConsumed)).verdict? =
        some (.ok (.reply (.acknowledged consumed none))) ∧
      (make s (.request .commitSync)).verdict? = some (.ok (.reply .done)) ∧
      (make s (.request .commitAsyncConsumed)).after =
        s.withClient (s.consumer.client.recorded consumed) ∧
      (make s (.request .commitSync)).after =
        s.withClient (s.consumer.client.recorded consumed) := by
  have hasync : (Client.handle .commitAsyncConsumed).run s.consumer.client = _ :=
    Client.run_commitConsumed .sorted .acknowledge s.consumer.client
  have hsync : (Client.handle .commitSync).run s.consumer.client = _ :=
    Client.run_commitConsumed .sorted .ignore s.consumer.client
  obtain ⟨hverdict, hafter, -⟩ := make_of_run hs hopen hasync
  obtain ⟨hverdict', hafter', -⟩ := make_of_run hs hopen hsync
  exact ⟨hverdict, hverdict', hafter, hafter'⟩

/-! ## The poll before -/

/-- A poll that succeeds delivers a batch, and does what a poll is to do. -/
theorem pollSpec_of_succeeded {visiting : Visiting (List Record)} {shown : Option (List Answer)}
    (hroom : ∀ p, ∀ record ∈ s.buffer.getD p [], record.offset ≠ Int64.maxValue)
    (hok : (endPoll s visiting shown).succeeded = true) :
    ∃ batch, (endPoll s visiting shown).batch? = some batch ∧
      s.consumer.client.PollSpec (.ok (.batch batch))
        (endPoll s visiting shown).after.consumer.client := by
  rw [batch?_endPoll]
  have hends : (Verdict.ofResult .batch
      ((Consumer.endPoll visiting).run s.consumer).result).isOk = true := hok
  rw [Verdict.isOk_ofResult] at hends
  have hspec := Client.pollSpec_fetch hroom visiting
  cases hf : s.consumer.fetchesNow with
  | false =>
      obtain ⟨f, hres, -⟩ := Consumer.run_endPoll_of_not_fetchesNow visiting hf
      rw [hres] at hends
      cases hends
  | true =>
      obtain ⟨hres, hstate⟩ := Consumer.run_endPoll_of_fetchesNow visiting hf
      have hafter : (endPoll s visiting shown).after.consumer.client =
          ((Client.fetch visiting).run s.consumer.client).state := congrArg Consumer.client hstate
      rw [hafter, hres]
      rw [hres] at hends
      cases hfetched : ((Client.fetch visiting).run s.consumer.client).result with
      | error e =>
          rw [hfetched] at hends
          cases hends
      | ok batch =>
          rw [hfetched] at hspec
          exact ⟨batch, rfl, hspec⟩

theorem deliveredOf_of_batch? {d : Deed Subscription} {batch : Batch} (h : d.batch? = some batch)
    (p : Partition) : d.deliveredOf p = batch.groups.getD p [] := by
  unfold deliveredOf groupOf?
  rw [h, Option.bind_some, Std.ExtTreeMap.getD_eq_getD_getElem?]

end Deed

namespace History

variable {policy : ResetPolicy} {ds : List (Deed Subscription)} {r : Run Subscription}

theorem session_eq_after {tracker : Subscription} {d : Deed Subscription}
    (h : History tracker (ds ++ [d]) r) : r.session = d.after :=
  h.carries_since (P := fun s => s = d.after) rfl fun _ hd' => absurd hd' List.not_mem_nil

/-- **Commits are all or nothing, and what was consumed can always be committed.** At every moment
    of every history over a subscription at which the consumer is open: a commit of given offsets
    succeeds just if all of their partitions are assigned. It replaces their commits then and
    nothing else, and calls back once, with all of the offsets and no failure, when they are
    recorded. Otherwise it fails at one of them that is not assigned, changes nothing and does not
    call back. A commit of what was consumed succeeds, and what it records is the position of every
    assigned partition that has one. So a commit right after a poll that delivered a batch leaves
    every assigned partition committed where the poll left it: behind the last record that was
    delivered of it, unless it is paused; where nothing was delivered of it or it is paused, at the
    position that it had, or at the offset that it resolved to if it had none. -/
theorem commits_all_or_nothing (h : History (Subscription.empty policy) ds r)
    (hs : r.session.dropped = false) (hopen : r.session.consumer.isClosed = false) :
    let c := r.session.consumer.client
    let asked (request : Request) := Deed.make r.session (.request request)
    (∀ offsets : CommitMap,
      ((∀ p ∈ offsets, p ∈ c.tracker.assignment) →
        (asked (.commitAsync offsets)).verdict? =
          some (.ok (.reply (.acknowledged offsets none))) ∧
        (asked (.commitAsync offsets)).after = r.session.withClient (c.recorded offsets) ∧
        ∀ {β : Type} (visiting : Visiting Commit) (callback : Client.Callback Subscription β),
          (Client.commit visiting offsets callback).run c =
            ((callback offsets none).run (c.recorded offsets)).after
              [.logged (.committed offsets.size)]) ∧
      ((∃ p ∈ offsets, p ∉ c.tracker.assignment) →
        (∃ p ∈ offsets, p ∉ c.tracker.assignment ∧
          (asked (.commitAsync offsets)).verdict? = some (.failed (.unassigned p))) ∧
        (asked (.commitAsync offsets)).after = r.session ∧
        ∀ {β : Type} (visiting : Visiting Commit) (callback : Client.Callback Subscription β),
          ∃ p ∈ offsets, p ∉ c.tracker.assignment ∧
            (Client.commit visiting offsets callback).run c =
              ⟨.error (.unassigned p), c, []⟩)) ∧
    (∃ consumed : CommitMap,
      (∀ p : Partition, consumed[p]? =
        c.tracker.assignment[p]?.bind fun g : Progress => g.position.map Commit.ofOffset) ∧
      (asked .commitAsyncConsumed).verdict? =
        some (.ok (.reply (.acknowledged consumed none))) ∧
      (asked .commitSync).verdict? = some (.ok (.reply .done)) ∧
      (asked .commitAsyncConsumed).after = r.session.withClient (c.recorded consumed) ∧
      (asked .commitSync).after = r.session.withClient (c.recorded consumed) ∧
      ∀ {β : Type} (visiting : Visiting Commit) (callback : Client.Callback Subscription β),
        (Client.commitConsumed visiting callback).run c =
          ((callback consumed none).run (c.recorded consumed)).after
            [.logged (.committed consumed.size)]) ∧
    (∀ (pre : List (Deed Subscription)) (s : Session Subscription)
      (visiting : Visiting (List Record)) (shown : Option (List Answer)),
      let polled := Deed.endPoll s visiting shown
      ds = pre ++ [polled] → polled.succeeded = true → ∀ (p : Partition) (g' : Progress),
        (asked .commitSync).after.consumer.client.tracker.assignment[p]? = some g' →
        ∃ g offset, s.consumer.client.tracker.assignment[p]? = some g ∧
          g'.position = some offset ∧ g'.committed = some (.ofOffset offset) ∧
          (∀ last, (polled.deliveredOf p).getLast? = some last →
            s.consumer.client.paused.contains p = false →
            offset.toInt = last.offset.toInt + 1) ∧
          (polled.deliveredOf p = [] ∨ s.consumer.client.paused.contains p = true →
            g.position = some offset ∨
            g.position = none ∧ s.consumer.client.resolve p g = .ok offset)) := by
  intro c asked
  refine ⟨fun offsets => ⟨?_, ?_⟩, ?_, ?_⟩
  · intro hassigned
    obtain ⟨hverdict, hafter⟩ := Deed.make_commitAsync hs hopen hassigned
    exact ⟨hverdict, hafter, Client.run_commit_of_mem hassigned⟩
  · intro hunassigned
    obtain ⟨hverdict, hafter⟩ := Deed.make_commitAsync_of_not_mem hs hopen hunassigned
    exact ⟨hverdict, hafter, Client.run_commit_of_not_mem hunassigned⟩
  · obtain ⟨hverdict, hverdict', hafter, hafter'⟩ := Deed.make_commitConsumed hs hopen
    exact ⟨Tracker.consumed c.tracker, fun _ => Subscription.getElem?_consumed_eq .sorted,
      hverdict, hverdict', hafter, hafter',
      fun visiting callback => Client.run_commitConsumed visiting callback c⟩
  · rintro pre s visiting shown polled rfl hok p g' hg'
    obtain ⟨r₀, h₀, hr₀⟩ := h.exists_before (rfl : pre ++ [_] = pre ++ _ :: [])
    have hsession : r₀.session = s := hr₀
    have hroom := h₀.room
    rw [hsession] at hroom
    obtain ⟨batch, hbatch, hspec⟩ := Deed.pollSpec_of_succeeded hroom hok
    rw [← h.session_eq_after] at hspec
    obtain ⟨-, -, -, hafter⟩ := Deed.make_commitConsumed hs hopen
    have hclient := congrArg (fun s : Session Subscription => s.consumer.client) hafter
    rw [hclient] at hg'
    rw [Deed.deliveredOf_of_batch? hbatch]
    exact hspec.committed hg'

end History

/-! ## A run that ends with a poll -/

/-- A run over three partitions: of one a poll delivers two records, the second one is paused, and
    the third one has no position before the poll and a commit of its own. -/
def Run.endingWithPoll : Run Subscription :=
  Run.fresh (Subscription.empty .earliest) .empty ⟨30000⟩
    [.request (.assign {orders 0, orders 1, orders 2}),
      .request (.seek (orders 0) 10), .request (.addRecord (order 0 10)),
      .request (.addRecord (order 0 12)),
      .request (.seek (orders 1) 3), .request (.addRecord (order 1 3)),
      .request (.pause [orders 1]),
      .request (.commitSyncOffsets {(orders 2, ⟨40, "by hand"⟩)}), .poll]

/-- After the poll a commit that names another partition is refused as a whole, and one of the third
    partition is acknowledged. What was consumed is committed behind the records of the first
    partition, and where the other two stand. -/
theorem Run.endingWithPoll_acknowledged :
    let s := (Run.endingWithPoll.ahead 10).session
    let other : CommitMap := {(orders 0, .ofOffset 11), (orders 7, .ofOffset 1)}
    let own : CommitMap := {(orders 2, ⟨41, "again"⟩)}
    let synced := Deed.make s (.request .commitSync)
    s.dropped = false ∧ s.consumer.isClosed = false ∧
    (Deed.make s (.request (.commitAsync other))).after = s ∧
    (Deed.make s (.request (.commitAsync own))).verdict? =
      some (.ok (.reply (.acknowledged own none))) ∧
    synced.verdict? = some (.ok (.reply .done)) ∧
    (∀ g', synced.after.consumer.client.tracker.assignment[orders 0]? = some g' →
      ∃ offset, g'.position = some offset ∧ g'.committed = some (.ofOffset offset)) ∧
    synced.after.consumer.client.tracker.assignment.toList.map
        (fun e => (e.1.index, e.2.position, e.2.committed)) =
      [(0, some 13, some (.ofOffset 13)), (1, some 3, some (.ofOffset 3)),
        (2, some 40, some (.ofOffset 40))] := by
  have hhistory : History (Subscription.empty .earliest) (Run.endingWithPoll.deeds 10)
      (Run.endingWithPoll.ahead 10) := .of_moves ..
  have hpresent : (Run.endingWithPoll.ahead 10).session.dropped = false := by decide +kernel
  have hopen : (Run.endingWithPoll.ahead 10).session.consumer.isClosed = false := by decide +kernel
  have hdeed : (Run.endingWithPoll.ahead 9).deed? =
      some (.endPoll (Run.endingWithPoll.ahead 9).session .sorted none) := rfl
  have hds : Run.endingWithPoll.deeds 10 =
      Run.endingWithPoll.deeds 9 ++ [.endPoll (Run.endingWithPoll.ahead 9).session .sorted none] :=
    congrArg (Run.endingWithPoll.deeds 9 ++ Option.toList ·) hdeed
  have hdelivers :
      (Deed.endPoll (Run.endingWithPoll.ahead 9).session .sorted none).succeeded = true := by
    decide +kernel
  obtain ⟨hgiven, ⟨consumed, -, -, hsync, -⟩, hpoll⟩ :=
    hhistory.commits_all_or_nothing hpresent hopen
  have hfirst := hpoll _ _ _ _ hds hdelivers (orders 0)
  beta_reduce at hfirst
  refine ⟨hpresent, hopen, ?_, ?_, hsync, ?_, by decide +kernel⟩
  · exact ((hgiven _).2 ⟨orders 7, by decide +kernel, by decide +kernel⟩).2.1
  · refine ((hgiven _).1 ?_).1
    intro p hp
    rcases Std.ExtTreeMap.mem_insert.1 hp with heq | hnone
    · rw [← Std.LawfulEqOrd.eq_of_compare heq]
      decide +kernel
    · exact absurd hnone Std.ExtTreeMap.not_mem_empty
  · intro g' hg'
    obtain ⟨g, offset, -, hpos, hcommitted, -⟩ := hfirst g' hg'
    exact ⟨offset, hpos, hcommitted⟩

end ScriptedConsumer
