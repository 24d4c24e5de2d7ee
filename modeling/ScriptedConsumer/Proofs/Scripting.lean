import ScriptedConsumer.Proofs.Recollection

set_option autoImplicit false

/-! # Scripted offsets

What a partition holds begins somewhere and ends somewhere, and both edges are scripted. Each edge
has a question of its own, which looks up a list of partitions at once, and a reset of its own,
which looks up one partition when its position is next needed. Both find what the history has
scripted last, and for want of it both fail alike: `History.scripted_offsets_agree`.

The scripts are a part of the client that nothing but a request to script reaches, so that they can
be read off a history over any tracker: `Deed.script_after`. -/

namespace ScriptedConsumer

/-! ## Edges -/

/-- An edge of what a partition holds. -/
inductive Edge
  | beginning
  | ending
deriving DecidableEq, Repr

namespace Edge

variable {τ : Type}

/-- The offsets that are scripted at the edge. -/
def script : Edge → Client τ → PartitionMap Int64
  | beginning, c => c.beginnings
  | ending, c => c.ends

/-- The failure for want of such an offset. -/
def missing : Edge → Partition → Failure
  | beginning => .missingBeginning
  | ending => .missingEnd

/-- The question for the offsets at the edge. -/
def ask : Edge → List Partition → Request
  | beginning => .beginnings
  | ending => .ends

/-- The request to start partitions over at the edge. -/
def seek : Edge → List Partition → Request
  | beginning => .seekToBeginning
  | ending => .seekToEnd

/-- The policy that starts partitions at the edge. -/
def policy : Edge → ResetPolicy
  | beginning => .earliest
  | ending => .latest

/-- The offset of a partition at the edge, or the failure. -/
def found (edge : Edge) (p : Partition) : Option Int64 → Except Failure Int64
  | some offset => .ok offset
  | none => .error (edge.missing p)

end Edge

variable {edge : Edge} {p : Partition}

/-! ## What a history scripts -/

/-- The offset that the request scripts for a partition at an edge, if it does. -/
def Request.scripts? (edge : Edge) (p : Partition) : Request → Option Int64
  | .scriptBeginnings offsets => if edge = .beginning then offsets[p]? else none
  | .scriptEnds offsets => if edge = .ending then offsets[p]? else none
  | _ => none

section

variable {τ : Type} [Tracker τ] [Switchable τ]

/-- The offset that the deed scripts for a partition at an edge, if it makes a request to do so that
    succeeds. -/
def Deed.scripts? (edge : Edge) (p : Partition) (d : Deed τ) : Option Int64 :=
  d.accepted?.bind (·.scripts? edge p)

/-- The last offset that a history scripts for a partition at an edge. -/
def lastScripted? (edge : Edge) (p : Partition) (ds : List (Deed τ)) : Option Int64 :=
  (ds.filterMap (·.scripts? edge p)).getLast?

theorem lastScripted?_concat (edge : Edge) (p : Partition) (ds : List (Deed τ)) (d : Deed τ) :
    lastScripted? edge p (ds ++ [d]) = (d.scripts? edge p).or (lastScripted? edge p ds) := by
  unfold lastScripted?
  rw [List.filterMap_append]
  cases h : d.scripts? edge p <;> simp [h]

theorem lastScripted?_ne_none {ds : List (Deed τ)} :
    lastScripted? edge p ds ≠ none ↔ ∃ d ∈ ds, d.scripts? edge p ≠ none := by
  unfold lastScripted?
  rw [Ne, List.getLast?_eq_none_iff, List.filterMap_eq_nil_iff]
  push Not
  rfl

end

/-! ## Scripts -/

/-- Entries that all agree with one map, inserted into another one. A partition may come more than
    once among them. -/
theorem getElem?_insertMany_of_agree {β : Type} {script m : PartitionMap β}
    {entries : List (Partition × β)} (h : ∀ e ∈ entries, script[e.1]? = some e.2)
    (hp : p ∈ entries.map Prod.fst) : (m.insertMany entries)[p]? = script[p]? := by
  induction entries generalizing m with
  | nil => cases hp
  | cons e rest ih =>
      rw [Std.ExtTreeMap.insertMany_cons]
      by_cases hrest : p ∈ rest.map Prod.fst
      · exact ih (fun e' he' => h e' (List.mem_cons_of_mem _ he')) hrest
      · have hne : ∀ e' ∈ rest, e'.1 ≠ p := fun e' he' heq =>
          hrest (heq ▸ List.mem_map_of_mem he')
        obtain rfl : p = e.1 := (List.mem_cons.1 hp).resolve_right hrest
        rw [getElem?_insertMany_of_ne hne, Std.ExtTreeMap.getElem?_insert_self,
          h e (List.mem_cons_self ..)]

/-- A map that is inserted into another one goes before it. -/
theorem getElem?_insertMany_map {β : Type} (m m' : PartitionMap β) (p : Partition) :
    (m.insertMany m'.toList)[p]? = m'[p]?.or m[p]? := by
  cases h : m'[p]? with
  | some b => exact getElem?_insertMany_toList h
  | none =>
      refine getElem?_insertMany_of_ne fun e he heq => ?_
      rw [← heq, Std.ExtTreeMap.mem_toList_iff_getElem?_eq_some.1 he] at h
      cases h

namespace Client

variable {τ : Type} [Tracker τ]

theorem script_handle (edge : Edge) (p : Partition) (r : Request) (c : Client τ) :
    (edge.script ((handle r).run c).state)[p]? =
      (r.scripts? edge p).or (edge.script c)[p]? := by
  have spared (hedits : ∀ g : Client τ → Client τ, r.Edits g → ∀ c, edge.script (g c) =
      edge.script c) : (edge.script ((handle r).run c).state)[p]? = (edge.script c)[p]? := by
    have hkept : edge.script ((handle r).run c).state = edge.script c := by
      refine maintains_handle (J := fun c' => edge.script c' = edge.script c) r ?_ ?_ c rfl
      · intro call _ c' hc'
        cases edge <;> exact hc'
      · intro g hg c' hc'
        exact (hedits g hg c').trans hc'
    rw [hkept]
  cases r with
  | scriptBeginnings offsets =>
      cases edge with
      | beginning => exact getElem?_insertMany_map c.beginnings offsets p
      | ending => rfl
  | scriptEnds offsets =>
      cases edge with
      | beginning => rfl
      | ending => exact getElem?_insertMany_map c.ends offsets p
  | _ =>
      refine spared fun g hg c => ?_
      cases hg <;> cases edge <;> rfl

theorem script_fetch (edge : Edge) (visiting : Visiting (List Record)) (c : Client τ) :
    edge.script ((fetch visiting).run c).state = edge.script c := by
  refine maintains_fetch (J := fun c' => edge.script c' = edge.script c) ?_ ?_ ?_ c rfl
  · intro p offset c' hc'
    cases edge <;> exact hc'
  · intro p offset c' hc'
    cases edge <;> exact hc'
  · intro c' b hc'
    cases edge <;> exact hc'

/-! ## The question for a list of partitions -/

/-- Looking up one partition in a script. -/
def lookUp (script : PartitionMap Int64) (missing : Partition → Failure) (p : Partition) :
    Except Failure (Partition × Int64) :=
  match script[p]? with
  | some offset => .ok (p, offset)
  | none => .error (missing p)

section

variable {script : PartitionMap Int64} {missing : Partition → Failure}

theorem of_lookUp_ok {e : Partition × Int64} (h : lookUp script missing p = .ok e) :
    e.1 = p ∧ script[p]? = some e.2 := by
  unfold lookUp at h
  cases hv : script[p]? <;> rw [hv] at h <;> cases h
  exact ⟨rfl, rfl⟩

theorem of_lookUp_error {e : Failure} (h : lookUp script missing p = .error e) :
    script[p]? = none ∧ e = missing p := by
  unfold lookUp at h
  cases hv : script[p]? <;> rw [hv] at h <;> cases h
  exact ⟨rfl, rfl⟩

theorem scripted_eq_mapM (ps : List Partition) :
    scripted script missing ps =
      (ps.mapM (lookUp script missing)).map fun entries => Std.ExtTreeMap.ofList entries := by
  show (ps.mapM (lookUp script missing) >>= fun entries => pure (Std.ExtTreeMap.ofList entries)) = _
  cases ps.mapM (lookUp script missing) <;> rfl

/-- Looking up a list of partitions finds all of them, each at the offset that is scripted for it,
    or it fails at the first one for which none is. -/
theorem scripted_cases (script : PartitionMap Int64) (missing : Partition → Failure)
    (ps : List Partition) :
    ((∀ p ∈ ps, script[p]? ≠ none) ∧ ∃ m : PartitionMap Int64, scripted script missing ps = .ok m ∧
      ∀ p, m[p]? = if p ∈ ps then script[p]? else none) ∨
    ∃ pre p post, ps = pre ++ p :: post ∧ (∀ q ∈ pre, script[q]? ≠ none) ∧ script[p]? = none ∧
      scripted script missing ps = .error (missing p) := by
  rw [scripted_eq_mapM]
  rcases Action.mapM_except (lookUp script missing) ps with
    ⟨entries, hok, hmap⟩ | ⟨pre, p, post, e, hps, hpre, hp, herr⟩
  · -- the entries that were found are one for each partition
    have entry_of {p : Partition} (hp : p ∈ ps) : ∃ e ∈ entries, e.1 = p := by
      have hlooked : lookUp script missing p ∈ entries.map .ok := hmap ▸ List.mem_map_of_mem hp
      obtain ⟨e, he, hlook⟩ := List.mem_map.1 hlooked
      exact ⟨e, he, (of_lookUp_ok hlook.symm).1⟩
    have looked {e : Partition × Int64} (he : e ∈ entries) :
        e.1 ∈ ps ∧ script[e.1]? = some e.2 := by
      have hlooked : .ok e ∈ ps.map (lookUp script missing) := hmap ▸ List.mem_map_of_mem he
      obtain ⟨p, hp, hlook⟩ := List.mem_map.1 hlooked
      obtain ⟨rfl, hv⟩ := of_lookUp_ok hlook
      exact ⟨hp, hv⟩
    refine .inl ⟨?_, Std.ExtTreeMap.ofList entries, by rw [hok]; rfl, ?_⟩
    · intro p hp
      obtain ⟨e, he, rfl⟩ := entry_of hp
      simp [(looked he).2]
    · intro p
      rw [Std.ExtTreeMap.ofList_eq_insertMany_empty]
      split
      · next hp =>
          obtain ⟨e, he, rfl⟩ := entry_of hp
          exact getElem?_insertMany_of_agree (fun e he => (looked he).2) (List.mem_map_of_mem he)
      · next hp =>
          rw [getElem?_insertMany_of_ne, Std.ExtTreeMap.getElem?_empty]
          rintro e he rfl
          exact hp (looked he).1
  · obtain ⟨hnone, rfl⟩ := of_lookUp_error hp
    refine .inr ⟨pre, p, post, hps, ?_, hnone, by rw [herr]; rfl⟩
    intro q hq
    obtain ⟨e, he⟩ := hpre q hq
    simp [(of_lookUp_ok he).2]

theorem scripted_singleton (edge : Edge) (script : PartitionMap Int64) (p : Partition) :
    scripted script edge.missing [p] =
      (edge.found p script[p]?).map fun offset => (∅ : PartitionMap Int64).insert p offset := by
  rw [scripted_eq_mapM, List.mapM_cons, List.mapM_nil]
  unfold lookUp
  cases script[p]? <;> rfl

end

theorem run_handle_ask (edge : Edge) (ps : List Partition) (c : Client τ) :
    (handle (edge.ask ps)).run c =
      ⟨(scripted (edge.script c) edge.missing ps).map .offsets, c, []⟩ := by
  cases edge
  · show (Reply.offsets <$> Action.ask (scripted ·.beginnings .missingBeginning ps)).run c = _
    rw [Action.run_map, Action.run_ask]
    rfl
  · show (Reply.offsets <$> Action.ask (scripted ·.ends .missingEnd ps)).run c = _
    rw [Action.run_map, Action.run_ask]
    rfl

/-! ## The reset of a partition -/

theorem scriptedStart_policy (edge : Edge) (c : Client Subscription) (p : Partition) :
    c.scriptedStart p edge.policy = edge.found p (edge.script c)[p]? := by
  cases edge
  · show c.scriptedStart p .earliest = Edge.beginning.found p c.beginnings[p]?
    unfold scriptedStart
    cases c.beginnings[p]? <;> rfl
  · show c.scriptedStart p .latest = Edge.ending.found p c.ends[p]?
    unfold scriptedStart
    cases c.ends[p]? <;> rfl

/-- To start an assigned partition over at an edge takes its position away until it is needed. -/
theorem run_handle_seek (edge : Edge) {c : Client Subscription} {g : Progress}
    (hc : c.tracker.Coherent) (hg : c.tracker.assignment[p]? = some g) :
    ((handle (edge.seek [p])).run c).result = .ok .done ∧
      ((handle (edge.seek [p])).run c).state.tracker.assignment[p]? =
        some (g.awaitReset edge.policy) := by
  have hassigned : ∀ q ∈ [p], Tracker.isAssigned c.tracker q = true := by
    intro q hq
    rw [List.mem_singleton.1 hq, Subscription.isAssigned_eq, hg]
    rfl
  have hreset (policy : ResetPolicy) : ((requestReset policy [p]).run c).result = .ok () :=
    (result_checked_edit (f := (·.awaitReset policy)) (fun _ => .onTracker _) (fun _ => rfl)
      [p] c).trans (by rw [run_ensureAssigned hassigned])
  have hok : ((handle (edge.seek [p])).run c).result = .ok .done := by
    cases edge <;> exact (Action.bind_pure _ _ c).1.trans (by rw [hreset]; rfl)
  refine ⟨hok, ?_⟩
  rw [progress_handle hc hok]
  cases edge <;> simp [Edge.seek, Edge.policy, Request.onProgress, Request.edited, hg]

/-- A partition that was started over at an edge is found there when its position is needed. -/
theorem result_position_of_sought (edge : Edge) {c : Client Subscription} {g : Progress}
    (hc : c.tracker.Coherent) (hg : c.tracker.assignment[p]? = some g) :
    ((position p).run ((handle (edge.seek [p])).run c).state).result =
      edge.found p (edge.script c)[p]? := by
  obtain ⟨-, hawaits⟩ := run_handle_seek edge hc hg
  rw [(run_position hawaits).1]
  show scriptedStart _ p edge.policy = _
  rw [scriptedStart_policy, script_handle]
  cases edge <;> rfl

end Client

/-! ## Deeds and histories -/

section

variable {τ : Type} [Tracker τ] [Switchable τ]

/-- What a request scripts, the deed that makes it scripts. -/
theorem Deed.scripts?_of_verdict? {d : Deed τ} {r : Request} (hr : d.request? = some r)
    (hverdict : d.verdict? =
      some (.ofResult .reply ((Client.handle r).run d.before.consumer.client).result)) :
    d.scripts? edge p = r.scripts? edge p := by
  unfold Deed.scripts?
  rw [accepted?_of_verdict? hr hverdict]
  cases r with
  | scriptBeginnings | scriptEnds => rfl
  | _ => cases ((Client.handle _).run d.before.consumer.client).result <;> rfl

/-- **What a deed makes of the scripts**: it leaves them alone, but for what it scripts itself. -/
theorem Deed.script_after (edge : Edge) (p : Partition) (d : Deed τ) :
    (edge.script d.after.consumer.client)[p]? =
      (d.scripts? edge p).or (edge.script d.before.consumer.client)[p]? := by
  have unscripted (h : d.accepted? = none) : d.scripts? edge p = none := by
    unfold Deed.scripts?
    rw [h]
    rfl
  cases d.onClient with
  | untouched hstate hrefused => rw [hstate, unscripted hrefused, Option.none_or]
  | requested r hr hstate hverdict =>
      rw [hstate, scripts?_of_verdict? hr hverdict, Client.script_handle]
  | fetched s visiting shown hd hstate =>
      subst hd
      rw [hstate, unscripted (accepted?_of_request? rfl), Client.script_fetch, Option.none_or]
  | switched s fault on hd hstate =>
      subst hd
      rw [hstate, unscripted (accepted?_of_request? rfl), Option.none_or]
      cases edge <;> rfl

/-- At every moment of every history the scripts hold what was scripted last. -/
theorem History.script_eq {tracker : τ} {ds : List (Deed τ)} {r : Run τ}
    (h : History tracker ds r) (edge : Edge) (p : Partition) :
    (edge.script r.session.consumer.client)[p]? = lastScripted? edge p ds := by
  refine h.carries (P := fun ds s =>
    (edge.script s.consumer.client)[p]? = lastScripted? edge p ds) ?_ ?_
  · intro catalog timeout
    cases edge <;> exact Std.ExtTreeMap.getElem?_empty
  · intro ds d ih
    rw [Deed.script_after, lastScripted?_concat, ih]

end

/-! ## Sessions -/

namespace Session

variable {s : Session Subscription}

/-- To ask an open consumer for the offsets of a list of partitions. -/
theorem play_ask (hs : s.dropped = false) (hopen : s.consumer.isClosed = false) (edge : Edge)
    (ps : List Partition) :
    (s.play (.request (edge.ask ps))).session = s ∧
      (s.play (.request (edge.ask ps))).verdict? = some (.ofResult (fun m => .reply (.offsets m))
        (Client.scripted (edge.script s.consumer.client) edge.missing ps)) := by
  obtain ⟨hsession, hverdict⟩ := play_request hs hopen (edge.ask ps)
  rw [Client.run_handle_ask] at hsession hverdict
  refine ⟨hsession, hverdict.trans ?_⟩
  cases Client.scripted (edge.script s.consumer.client) edge.missing ps <;> rfl

/-- To start an assigned partition over at an edge and then to ask for its position. -/
theorem play_seek_position (hs : s.dropped = false) (hopen : s.consumer.isClosed = false)
    (hc : s.consumer.client.tracker.Coherent) (edge : Edge)
    (hp : Tracker.isAssigned s.consumer.client.tracker p = true) :
    (s.play (.request (edge.seek [p]))).verdict? = some (.ok (.reply .done)) ∧
      ((s.play (.request (edge.seek [p]))).session.play (.request (.position p))).verdict? =
        some (.ofResult (fun v => .reply (.offset v))
          (edge.found p (edge.script s.consumer.client)[p]?)) := by
  rw [Subscription.isAssigned_eq] at hp
  obtain ⟨g, hg⟩ := Option.isSome_iff_exists.1 hp
  obtain ⟨hok, -⟩ := Client.run_handle_seek edge hc hg
  obtain ⟨hsession, hverdict⟩ := play_request hs hopen (edge.seek [p])
  refine ⟨hverdict.trans (by rw [hok]; rfl), ?_⟩
  let client := ((Client.handle (edge.seek [p])).run s.consumer.client).state
  have hs' : (s.withClient client).dropped = false := hs
  rw [hsession, (play_position hs' hopen).2]
  exact congrArg (fun result => some (Verdict.ofResult _ result))
    (Client.result_position_of_sought edge hc hg)

end Session

/-- **Scripted offsets are found alike, and as they were scripted.** At every moment of every
    history over a subscription, and for either edge, an open consumer is asked for the offsets of a
    list of partitions. It answers just if each of them was scripted at some time, however long ago,
    with those partitions and what was scripted for each of them last; otherwise it fails at the
    first one that never was. The question changes nothing. An assigned partition that is started
    over at the edge and asked for its position answers with the same offset as the question for
    that partition, or with the same failure. -/
theorem History.scripted_offsets_agree {policy : ResetPolicy} {ds : List (Deed Subscription)}
    {r : Run Subscription} (h : History (Subscription.empty policy) ds r)
    (hs : r.session.dropped = false) (hopen : r.session.consumer.isClosed = false) (edge : Edge) :
    let given (p : Partition) : Prop := ∃ d ∈ ds, d.scripts? edge p ≠ none
    let asked (ps : List Partition) := r.session.play (.request (edge.ask ps))
    (∀ ps, (asked ps).session = r.session ∧
      ((asked ps).succeeded = true ↔ ∀ p ∈ ps, given p) ∧
      ((asked ps).succeeded = true → ∃ m : PartitionMap Int64,
        (asked ps).verdict? = some (.ok (.reply (.offsets m))) ∧
        ∀ p, m[p]? = if p ∈ ps then lastScripted? edge p ds else none) ∧
      ((asked ps).succeeded = false → ∃ pre p post, ps = pre ++ p :: post ∧
        (∀ q ∈ pre, given q) ∧ ¬ given p ∧
        (asked ps).verdict? = some (.failed (edge.missing p)))) ∧
    ∀ p, Tracker.isAssigned r.session.consumer.client.tracker p = true →
      let sought := r.session.play (.request (edge.seek [p]))
      let found := edge.found p (lastScripted? edge p ds)
      sought.verdict? = some (.ok (.reply .done)) ∧
      (sought.session.play (.request (.position p))).verdict? =
        some (.ofResult (fun v => .reply (.offset v)) found) ∧
      (asked [p]).verdict? = some (.ofResult
        (fun v => .reply (.offsets ((∅ : PartitionMap Int64).insert p v))) found) := by
  have hscript (p : Partition) := h.script_eq edge p
  intro given asked
  refine ⟨?_, ?_⟩
  · intro ps
    obtain ⟨hsame, hverdict⟩ := Session.play_ask hs hopen edge ps
    have hgiven {p : Partition} : (edge.script r.session.consumer.client)[p]? ≠ none ↔ given p := by
      rw [hscript, lastScripted?_ne_none]
    refine ⟨hsame, ?_⟩
    rcases Client.scripted_cases (edge.script r.session.consumer.client) edge.missing ps with
      ⟨hall, m, hm, hlookup⟩ | ⟨pre, p, post, hps, hpre, hp, herr⟩
    · rw [hm] at hverdict
      have hsucceeded : (asked ps).succeeded = true := congrArg (·.any Verdict.isOk) hverdict
      refine ⟨⟨fun _ p hp => hgiven.1 (hall p hp), fun _ => hsucceeded⟩, fun _ => ⟨m, hverdict, ?_⟩,
        fun hfailed => ?_⟩
      · intro p
        rw [hlookup p, hscript]
      · rw [hsucceeded] at hfailed
        cases hfailed
    · rw [herr] at hverdict
      have hfailed : (asked ps).succeeded = false := congrArg (·.any Verdict.isOk) hverdict
      have hnone : ¬ given p := fun hp' => hgiven.2 hp' hp
      refine ⟨⟨fun hsucceeded => ?_, fun hall => ?_⟩, fun hsucceeded => ?_, fun _ =>
        ⟨pre, p, post, hps, fun q hq => hgiven.1 (hpre q hq), hnone, hverdict⟩⟩
      · rw [hfailed] at hsucceeded
        cases hsucceeded
      · exact absurd (hall p (by simp [hps])) hnone
      · rw [hfailed] at hsucceeded
        cases hsucceeded
  · intro p hp sought found
    obtain ⟨hdone, hposition⟩ := Session.play_seek_position hs hopen h.coherent edge hp
    rw [hscript] at hposition
    refine ⟨hdone, hposition, ?_⟩
    rw [(Session.play_ask hs hopen edge [p]).2, Client.scripted_singleton, hscript]
    show _ = some (Verdict.ofResult _ (edge.found p (lastScripted? edge p ds)))
    cases edge.found p (lastScripted? edge p ds) <;> rfl

/-! ## A run that scripts twice -/

/-- A run over two partitions that scripts the beginning of one of them and scripts it again, drops
    the subscription and takes it up again, and asks in vain for the position of the other one. -/
def Run.scriptTwice : Run Subscription :=
  Run.fresh (Subscription.empty .earliest) .empty ⟨30000⟩
    [.request (.assign {orders 0, orders 1}), .request (.scriptBeginnings {(orders 0, 3)}),
      .request (.scriptBeginnings {(orders 0, 5)}), .request .unsubscribe,
      .request (.assign {orders 0, orders 1}), .request (.position (orders 1))]

/-- After all of that the question finds the offset that was scripted last, for a partition that it
    names twice; it fails at the partition that never was scripted. Started over at its beginning,
    the one has that offset for its position, and the other has none. -/
theorem Run.scriptTwice_found :
    let s := (Run.scriptTwice.ahead 6).session
    let asked (ps : List Partition) := s.play (.request (.beginnings ps))
    let sought (p : Partition) :=
      (s.play (.request (.seekToBeginning [p]))).session.play (.request (.position p))
    (∃ m : PartitionMap Int64,
      (asked [orders 0, orders 0]).verdict? = some (.ok (.reply (.offsets m))) ∧
      m[orders 0]? = some 5 ∧ m[orders 1]? = none) ∧
    (asked [orders 0, orders 1]).succeeded = false ∧
    (sought (orders 0)).verdict? = some (.ok (.reply (.offset 5))) ∧
    (sought (orders 1)).verdict? = some (.failed (.missingBeginning (orders 1))) := by
  have hhistory : History (Subscription.empty .earliest) (Run.scriptTwice.deeds 6)
      (Run.scriptTwice.ahead 6) := .of_moves ..
  obtain ⟨hasked, hsought⟩ := hhistory.scripted_offsets_agree (by decide +kernel)
    (by decide +kernel) .beginning
  have hfirst : lastScripted? .beginning (orders 0) (Run.scriptTwice.deeds 6) = some 5 := by
    decide +kernel
  have hsecond : lastScripted? .beginning (orders 1) (Run.scriptTwice.deeds 6) = none := by
    decide +kernel
  refine ⟨?_, ?_, ?_, ?_⟩
  · obtain ⟨-, -, hanswer, -⟩ := hasked [orders 0, orders 0]
    obtain ⟨m, hverdict, hm⟩ := hanswer (by decide +kernel)
    exact ⟨m, hverdict, (hm (orders 0)).trans hfirst, hm (orders 1)⟩
  · obtain ⟨-, hiff, -⟩ := hasked [orders 0, orders 1]
    refine Bool.eq_false_iff.2 fun hsucceeded => ?_
    exact lastScripted?_ne_none.2 (hiff.1 hsucceeded (orders 1) (by decide)) hsecond
  · have hposition := (hsought (orders 0) (by decide +kernel)).2.1
    rw [hfirst] at hposition
    exact hposition
  · have hposition := (hsought (orders 1) (by decide +kernel)).2.1
    rw [hsecond] at hposition
    exact hposition

end ScriptedConsumer
