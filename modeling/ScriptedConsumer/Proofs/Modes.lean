import Mathlib.Data.List.DropRight
import ScriptedConsumer.Proofs.Effects
import ScriptedConsumer.Proofs.Subscribing

set_option autoImplicit false

/-! # Subscription modes over whole histories

Subscribing to topics, subscribing to a pattern and choosing partitions exclude each other until the
subscription is dropped. What a subscription grants depends on its mode alone, and the mode is what
the history says: the one in which subscribing last succeeded since the subscription was dropped.
`History.mode_recalls` says so; it needs of one deed only how it changes the mode, which is
`Deed.mode_cases`. So whether a call is granted can be read off the history:
`History.modes_exclusive`. -/

namespace ScriptedConsumer

/-! ## Which calls enter a mode -/

/-- The mode in which a call of the tracker subscribes. -/
def Tracker.Call.mode? : Call → Option Mode
  | .subscribe .. => some .topics
  | .subscribePattern .. => some .pattern
  | .assignManually _ => some .manual
  | _ => none

/-- The mode in which a request subscribes. -/
def Request.mode? : Request → Option Mode
  | .subscribe .. => some .topics
  | .subscribePattern .. => some .pattern
  | .assign _ => some .manual
  | _ => none

/-- Whether a request drops the subscription. -/
def Request.unsubscribes : Request → Bool
  | .unsubscribe => true
  | _ => false

theorem Request.of_mode? {r : Request} {m : Mode} (h : r.mode? = some m) :
    r.unsubscribes = false ∧ m ≠ .unsubscribed := by
  cases r with
  | subscribe | subscribePattern | assign =>
      cases h
      exact ⟨rfl, by simp⟩
  | _ => cases h

/-- A pattern can be subscribed to if there is a pattern for the whole of a name that it matches.
    All other requests are in order as they are. -/
def Request.InOrder [Pattern.Dialect] (r : Request) : Prop :=
  ∀ pattern listener, r = .subscribePattern pattern listener → pattern.wholeName? ≠ none

/-! ## Requests and the mode -/

namespace Subscription

/-- Only subscribing and unsubscribing change the mode. -/
theorem mode_of_granted {s s' : Subscription} {call : Tracker.Call} (h : s.Granted call s')
    (hmode : call.mode? = none) (hcall : call ≠ .unsubscribe) : s'.mode = s.mode := by
  cases h with
  | subscribe | subscribePattern | assignManually => cases hmode
  | unsubscribe => exact absurd rfl hcall
  | setMatched | assignFromGroup | edit => rfl

theorem mode_perform {call : Tracker.Call} (hmode : call.mode? = none)
    (hcall : call ≠ .unsubscribe) (s : Subscription) :
    (call.perform.run s).state.mode = s.mode := by
  refine maintains_perform (I := fun s' => s'.mode = s.mode) ?_ s rfl
  intro s₁ s₂ h₁ hgranted
  rw [mode_of_granted hgranted hmode hcall, h₁]

end Subscription

namespace Client

theorem mode_handle_of_other [Pattern.Dialect] {r : Request} (hmode : r.mode? = none)
    (hr : r.unsubscribes = false) (c : Client Subscription) :
    ((handle r).run c).state.tracker.mode = c.tracker.mode := by
  refine maintains_handle_tracker (I := fun s => s.mode = c.tracker.mode) r ?_ c rfl
  intro call hmakes
  have hother : call.mode? = none ∧ call ≠ .unsubscribe := by
    cases hmakes with
    | subscribe | subscribePattern | setMatched | assign => cases hmode
    | unsubscribe => cases hr
    | _ => exact ⟨rfl, by simp⟩
  intro s hs
  rw [Subscription.mode_perform hother.1 hother.2 s, hs]

/-- The operation subscribes in a mode and ends with the given result; where the mode is not
    admitted, it is refused and changes nothing. -/
def Enters {α : Type} (m : Mode) (a : α) (act : Action (Client Subscription) α) : Prop :=
  ∀ c : Client Subscription,
    (c.tracker.Admits m → (act.run c).result = .ok a ∧ (act.run c).state.tracker.mode = m) ∧
    (¬ c.tracker.Admits m → act.run c = ⟨.error .exclusiveSubscription, c, []⟩)

namespace Enters

variable {α β : Type} {m : Mode}

theorem onTracker {act : Action Subscription Unit} {made : Subscription → Subscription}
    {events : Subscription → List Event}
    (hrun : ∀ s, act.run s =
      if s.Admits m then ⟨.ok (), made s, events s⟩ else ⟨.error .exclusiveSubscription, s, []⟩)
    (hmade : ∀ s, (made s).mode = m) : Enters m () (Client.onTracker act) := by
  intro c
  unfold Client.onTracker
  rw [Action.run_within, hrun]
  constructor
  · intro hadmits
    rw [if_pos hadmits]
    exact ⟨rfl, hmade _⟩
  · intro hrefused
    rw [if_neg hrefused]

/-- What is done once the mode was entered must not fail and must not leave it. -/
theorem bind {a : α} {b : β} {act : Action (Client Subscription) α}
    {k : α → Action (Client Subscription) β} (h : Enters m a act)
    (hk : ∀ c, c.tracker.mode = m →
      ((k a).run c).result = .ok b ∧ ((k a).run c).state.tracker.mode = m) :
    Enters m b (act >>= k) := by
  intro c
  constructor
  · intro hadmits
    obtain ⟨hresult, hmode⟩ := (h c).1 hadmits
    rw [(Action.bind_of_ok hresult k).1, (Action.bind_of_ok hresult k).2]
    exact hk _ hmode
  · intro hrefused
    exact Action.run_bind_error ((h c).2 hrefused) k

end Enters

theorem run_onTracker_of {α : Type} {act : Action Subscription α} {c : Client Subscription}
    {o : Outcome Subscription α} (h : act.run c.tracker = o) :
    (onTracker act).run c = ⟨o.result, { c with tracker := o.state }, o.events⟩ := by
  rw [onTracker, Action.run_within, h]

variable [Pattern.Dialect]

/-- The known topics that a pattern is found in. -/
def matching (whole : Pattern) (c : Client Subscription) : TopicSet :=
  Std.ExtTreeSet.ofList (c.catalog.names.filter whole.isMatch)

/-- The client subscribed to a pattern, for the known topics that another one is found in. -/
def resolved (pattern whole : Pattern) (listener : Listener) (c : Client Subscription) :
    Client Subscription :=
  { c with tracker := { c.tracker with
      mode := .pattern
      pattern := some pattern
      topics := c.matching whole
      listener := some listener } }

/-- What subscribing to a pattern does, with the pattern for whole names. Once the mode is entered
    the topics are granted. -/
theorem run_subscribePattern_of_whole {pattern whole : Pattern}
    (hwhole : pattern.wholeName? = some whole) (listener : Listener) (c : Client Subscription) :
    (subscribePattern pattern listener).run c =
      if c.tracker.Admits .pattern then
        ⟨.ok (), c.resolved pattern whole listener,
          .logged (.patternResolved pattern.text (c.matching whole).size) ::
            if c.tracker.topics = c.matching whole then []
            else [.logged (.subscriptionChanged (c.matching whole))]⟩
      else ⟨.error .exclusiveSubscription, c, []⟩ := by
  unfold subscribePattern
  rw [hwhole]
  have hentered := run_onTracker_of (Subscription.run_subscribePattern pattern listener c.tracker)
  by_cases h : c.tracker.Admits .pattern
  · rw [if_pos h] at hentered ⊢
    have hmatched := run_onTracker_of (c := { c with tracker := { c.tracker with
      mode := .pattern, pattern := some pattern, listener := some listener } })
      (Subscription.run_setMatched (c.matching whole) _)
    rw [if_pos rfl] at hmatched
    refine (Action.run_bind_ok hentered _).trans ?_
    exact congrArg
      (Outcome.after · [.logged (.patternResolved pattern.text (c.matching whole).size)]) hmatched
  · rw [if_neg h] at hentered ⊢
    exact Action.run_bind_error hentered _

/-- Without a pattern for whole names nothing is subscribed to. -/
theorem run_subscribePattern_of_none {pattern : Pattern} (hwhole : pattern.wholeName? = none)
    (listener : Listener) (c : Client Subscription) :
    (subscribePattern pattern listener).run c = ⟨.error .invalidPattern, c, []⟩ := by
  unfold subscribePattern
  rw [hwhole]
  rfl

theorem enters_subscribePattern {pattern : Pattern} (hwhole : pattern.wholeName? ≠ none)
    (listener : Listener) : Enters .pattern () (subscribePattern pattern listener) := by
  obtain ⟨whole, hwhole⟩ := Option.ne_none_iff_exists'.1 hwhole
  intro c
  rw [run_subscribePattern_of_whole hwhole]
  constructor
  · intro hadmits
    rw [if_pos hadmits]
    exact ⟨rfl, rfl⟩
  · intro hrefused
    rw [if_neg hrefused]

theorem enters_handle {r : Request} {m : Mode} (hmode : r.mode? = some m) (hr : r.InOrder) :
    Enters m .done (handle r) := by
  have done {act : Action (Client Subscription) Unit} (h : Enters m () act) :
      Enters m Reply.done (do act; return .done) := h.bind fun _ hc => ⟨rfl, hc⟩
  cases r with
  | subscribe topics listener =>
      cases hmode
      exact done (.onTracker (Subscription.run_subscribe topics listener) fun _ => rfl)
  | subscribePattern pattern listener =>
      cases hmode
      exact done (enters_subscribePattern (hr pattern listener rfl) listener)
  | assign ps =>
      cases hmode
      exact .bind (.onTracker (Subscription.run_assignManually ps) fun _ => rfl)
        fun _ hc => ⟨rfl, hc⟩
  | _ => cases hmode

theorem handle_of_not_inOrder {r : Request} (hr : ¬ r.InOrder) (c : Client Subscription) :
    ((handle r).run c).result = .error .invalidPattern ∧ ((handle r).run c).state = c := by
  unfold Request.InOrder at hr
  push Not at hr
  obtain ⟨pattern, listener, rfl, hwhole⟩ := hr
  have hrun := run_subscribePattern_of_none hwhole listener c
  exact ⟨congrArg Outcome.result (Action.run_bind_error hrun _),
    congrArg Outcome.state (Action.run_bind_error hrun _)⟩

omit [Pattern.Dialect] in
theorem mode_fetch (visiting : Visiting (List Record)) (c : Client Subscription) :
    ((fetch visiting).run c).state.tracker.mode = c.tracker.mode := by
  have keeps (call : Tracker.Call) (hmode : call.mode? = none) (hcall : call ≠ .unsubscribe) :
      Action.Maintains (fun c' : Client Subscription => c'.tracker.mode = c.tracker.mode)
        (onTracker call.perform) := by
    intro c' hc'
    exact (Subscription.mode_perform hmode hcall c'.tracker).trans hc'
  refine maintains_fetch (J := fun c' => c'.tracker.mode = c.tracker.mode) ?_ ?_ ?_ c rfl
  · intro p offset
    exact keeps (.seek p offset) rfl (by simp)
  · intro p offset
    exact keeps (.setPosition p offset) rfl (by simp)
  · intro c' _ hc'
    exact hc'

/-- What a request does to the mode: it drops the subscription; or it subscribes in a mode that is
    admitted; or it leaves the mode as it is, since it does neither or is refused. -/
theorem mode_handle_cases (r : Request) (c : Client Subscription) :
    (r.unsubscribes = true ∧ (∃ a, ((handle r).run c).result = .ok a) ∧
      ((handle r).run c).state.tracker.mode = .unsubscribed) ∨
    (∃ m, r.mode? = some m ∧ c.tracker.Admits m ∧ (∃ a, ((handle r).run c).result = .ok a) ∧
      ((handle r).run c).state.tracker.mode = m) ∨
    ((r.unsubscribes = false ∧ r.mode? = none ∨ ∃ e, ((handle r).run c).result = .error e) ∧
      ((handle r).run c).state.tracker.mode = c.tracker.mode) := by
  cases hmode : r.mode? with
  | none =>
      cases hr : r.unsubscribes with
      | true =>
          have hunsubscribe : r = .unsubscribe := by
            cases r <;> simp [Request.unsubscribes] at hr ⊢
          subst hunsubscribe
          exact .inl ⟨rfl, ⟨_, rfl⟩, rfl⟩
      | false => exact .inr (.inr ⟨.inl ⟨rfl, rfl⟩, mode_handle_of_other hmode hr c⟩)
  | some m =>
      by_cases horder : r.InOrder
      · obtain ⟨hgranted, hrefused⟩ := enters_handle hmode horder c
        by_cases hadmits : c.tracker.Admits m
        · obtain ⟨hresult, hentered⟩ := hgranted hadmits
          exact .inr (.inl ⟨m, rfl, hadmits, ⟨_, hresult⟩, hentered⟩)
        · rw [hrefused hadmits]
          exact .inr (.inr ⟨.inr ⟨_, rfl⟩, rfl⟩)
      · obtain ⟨hresult, hsame⟩ := handle_of_not_inOrder horder c
        exact .inr (.inr ⟨.inr ⟨_, hresult⟩, by rw [hsame]⟩)

/-- A rebalance is refused in these words if and only if the assignment does not come from one. -/
theorem rebalance_refused_iff (ps : List Partition) (c : Client Subscription) :
    (∃ name, ((handle (.rebalance ps)).run c).result = .error (.notAutoAssigned name)) ↔
      c.tracker.isAutoAssigned = false := by
  have hrun := Subscription.run_assignFromGroup ps c.tracker
  have hhandle : ((handle (.rebalance ps)).run c).result =
      ((Subscription.assignFromGroup ps).run c.tracker).result.map fun _ => Reply.done := by
    -- nothing can go wrong once the tracker has granted it
    cases hresult : ((Subscription.assignFromGroup ps).run c.tracker).result with
    | error e =>
        have htracker : ((onTracker (Tracker.assignFromGroup ps)).run c).result = .error e :=
          hresult
        have hrebalance : ((rebalance ps).run c).result = .error e :=
          (Action.bind_of_error htracker _).1
        exact (Action.bind_of_error hrebalance _).1
    | ok u =>
        have htracker : ((onTracker (Tracker.assignFromGroup ps)).run c).result = .ok u :=
          hresult
        have hrebalance : ((rebalance ps).run c).result = .ok () :=
          (Action.bind_of_ok htracker _).1
        exact (Action.bind_of_ok hrebalance _).1
  rw [hhandle, hrun]
  cases hauto : c.tracker.isAutoAssigned with
  | false => simp [Except.map]
  | true =>
      cases ps.find? (fun p => !c.tracker.topics.contains p.topic) <;> simp [Except.map]

end Client

/-! ## Deeds and the mode -/

theorem Verdict.ofResult_eq_failed {α : Type} {display : α → Value} {result : Except Failure α}
    {f : Failure} : Verdict.ofResult display result = .failed f ↔ result = .error f := by
  cases result <;> simp [ofResult]

namespace Deed

variable [Pattern.Dialect]

/-- The mode in which the deed subscribes, if it does and is granted. -/
def entered? (d : Deed Subscription) : Option Mode := d.accepted?.bind Request.mode?

/-- Whether the deed drops the subscription. -/
def unsubscribes (d : Deed Subscription) : Bool := d.accepted?.any Request.unsubscribes

theorem ne_unsubscribed_of_entered? {d : Deed Subscription} {m : Mode} (h : d.entered? = some m) :
    m ≠ .unsubscribed := by
  obtain ⟨r, -, hr⟩ := Option.bind_eq_some_iff.1 h
  exact (Request.of_mode? hr).2

/-- What one deed does to the mode: it drops the subscription; or it subscribes in a mode that is
    admitted; or it does neither and leaves the mode as it is. -/
theorem mode_cases (d : Deed Subscription) :
    (d.unsubscribes = true ∧ d.after.consumer.client.tracker.mode = .unsubscribed) ∨
    (∃ m, d.unsubscribes = false ∧ d.entered? = some m ∧
      d.before.consumer.client.tracker.Admits m ∧ d.after.consumer.client.tracker.mode = m) ∨
    (d.unsubscribes = false ∧ d.entered? = none ∧
      d.after.consumer.client.tracker.mode = d.before.consumer.client.tracker.mode) := by
  have quiet (haccepted : d.accepted? = none) : d.unsubscribes = false ∧ d.entered? = none := by
    simp [unsubscribes, entered?, haccepted]
  cases d.onClient with
  | untouched hstate hrefused =>
      obtain ⟨hun, hen⟩ := quiet hrefused
      exact .inr (.inr ⟨hun, hen, by rw [hstate]⟩)
  | fetched s visiting shown hd hstate =>
      obtain ⟨hun, hen⟩ := quiet (accepted?_of_request? (by rw [hd]; rfl))
      exact .inr (.inr ⟨hun, hen, by rw [hstate, Client.mode_fetch]⟩)
  | switched s fault on hd hstate =>
      obtain ⟨hun, hen⟩ := quiet (accepted?_of_request? (by rw [hd]; rfl))
      exact .inr (.inr ⟨hun, hen, by rw [hstate]; rfl⟩)
  | requested r hr hstate hverdict =>
      have haccepted := accepted?_of_verdict? hr hverdict
      rw [hstate]
      rcases Client.mode_handle_cases r d.before.consumer.client with
        ⟨hun, ⟨a, ha⟩, hmode⟩ | ⟨m, hm, hadmits, ⟨a, ha⟩, hmode⟩ | ⟨hother | ⟨e, he⟩, hmode⟩
      · rw [ha] at haccepted
        exact .inl ⟨by simp [unsubscribes, haccepted, Except.toOption, hun], hmode⟩
      · rw [ha] at haccepted
        obtain ⟨hun, -⟩ := Request.of_mode? hm
        refine .inr (.inl ⟨m, ?_, ?_, hadmits, hmode⟩)
        · simp [unsubscribes, haccepted, Except.toOption, hun]
        · simp [entered?, haccepted, Except.toOption, hm]
      · obtain ⟨hun, hm⟩ := hother
        refine .inr (.inr ⟨?_, ?_, hmode⟩)
        · simp [unsubscribes, haccepted, Option.any_map, hun]
        · simp [entered?, haccepted, hm]
      · rw [he] at haccepted
        obtain ⟨hun, hen⟩ := quiet haccepted
        exact .inr (.inr ⟨hun, hen, hmode⟩)

end Deed

/-! ## Histories and the mode -/

/-- The deeds since the subscription was dropped last, or all of them if it never was. -/
def sinceUnsubscribed [Pattern.Dialect] (ds : List (Deed Subscription)) :
    List (Deed Subscription) :=
  ds.rtakeWhile fun d => !d.unsubscribes

/-- The modes in which subscribing has succeeded since. -/
def modesEntered [Pattern.Dialect] (ds : List (Deed Subscription)) : List Mode :=
  (sinceUnsubscribed ds).filterMap Deed.entered?

theorem modesEntered_concat [Pattern.Dialect] (ds : List (Deed Subscription))
    (d : Deed Subscription) :
    modesEntered (ds ++ [d]) =
      if d.unsubscribes then [] else modesEntered ds ++ d.entered?.toList := by
  unfold modesEntered sinceUnsubscribed
  rw [List.rtakeWhile_concat]
  cases d.unsubscribes with
  | true => rfl
  | false =>
      simp only [Bool.not_false, if_true, Bool.false_eq_true, if_false, List.filterMap_append]
      cases hd : d.entered? <;> simp [hd]

/-- The mode is the one that was entered, or there is none and none was entered. -/
def Mode.Recalls (mode : Mode) (entered : List Mode) : Prop :=
  (∀ m ∈ entered, m = mode) ∧ (mode = .unsubscribed ↔ entered = [])

/-- A mode was entered if the subscription is in it, and only then. -/
theorem Mode.Recalls.mem_iff {entered : List Mode} {mode m : Mode} (h : mode.Recalls entered)
    (hm : m ≠ .unsubscribed) : m ∈ entered ↔ mode = m := by
  obtain ⟨hall, hnone⟩ := h
  constructor
  · intro hmem
    exact (hall m hmem).symm
  · rintro rfl
    cases hentered : entered with
    | nil => exact absurd (hnone.2 hentered) hm
    | cons m' rest =>
        have hm' : m' ∈ entered := by simp [hentered]
        rw [hall m' hm']
        exact List.mem_cons_self ..

namespace History

variable [Pattern.Dialect] {policy : ResetPolicy} {ds : List (Deed Subscription)}
  {r : Run Subscription}

theorem mode_recalls (h : History (Subscription.empty policy) ds r) :
    r.session.consumer.client.tracker.mode.Recalls (modesEntered ds) := by
  refine h.carries
    (P := fun ds s => s.consumer.client.tracker.mode.Recalls (modesEntered ds)) ?_ ?_
  · intro catalog timeout
    have hnone : modesEntered [] = [] := rfl
    rw [hnone]
    exact ⟨by simp, iff_of_true rfl rfl⟩
  · rintro ds d ⟨hall, hnone⟩
    rw [modesEntered_concat]
    rcases d.mode_cases with ⟨hun, hmode⟩ | ⟨m, hun, hen, hadmits, hmode⟩ | ⟨hun, hen, hmode⟩
    · rw [hun, if_pos rfl, hmode]
      exact ⟨by simp, by simp⟩
    · -- the call was admitted, so whatever was entered before is the mode that it enters
      rw [hun, hen, if_neg Bool.false_ne_true, hmode, Option.toList_some]
      have hm : m ≠ .unsubscribed := Deed.ne_unsubscribed_of_entered? hen
      refine ⟨?_, by simp [hm]⟩
      intro m' hm'
      rcases List.mem_append.1 hm' with hbefore | hlast
      · rcases hadmits with hnew | hsame
        · rw [hnone.1 hnew] at hbefore
          cases hbefore
        · rw [hall m' hbefore, hsame]
      · exact List.mem_singleton.1 hlast
    · rw [hun, hen, if_neg Bool.false_ne_true, hmode, Option.toList_none, List.append_nil]
      exact ⟨hall, hnone⟩

/-- A mode is admitted if no other one was entered. -/
theorem admits_iff (h : History (Subscription.empty policy) ds r) {m : Mode} :
    r.session.consumer.client.tracker.Admits m ↔ ∀ m' ∈ modesEntered ds, m' = m := by
  obtain ⟨hall, hnone⟩ := h.mode_recalls
  constructor
  · rintro (hnew | hsame) m' hm'
    · rw [hnone.1 hnew] at hm'
      cases hm'
    · rw [hall m' hm', hsame]
  · intro honly
    cases hentered : modesEntered ds with
    | nil => exact .inl (hnone.2 hentered)
    | cons m' rest =>
        have hm' : m' ∈ modesEntered ds := by simp [hentered]
        exact .inr (by rw [← hall m' hm', honly m' hm'])

theorem isAutoAssigned_iff (h : History (Subscription.empty policy) ds r) :
    r.session.consumer.client.tracker.isAutoAssigned = true ↔
      .topics ∈ modesEntered ds ∨ .pattern ∈ modesEntered ds := by
  rw [Subscription.isAutoAssigned_iff, h.mode_recalls.mem_iff (by simp),
    h.mode_recalls.mem_iff (by simp)]

/-- **Subscription modes exclude each other over whole histories.** On an open consumer, at any
    moment of any run and whatever was called before, a call that subscribes in a mode succeeds if
    no call has succeeded in another mode since the subscription was dropped last; else it is
    refused for that reason and changes nothing. And a rebalance is refused, since the assignment
    does not come from one, if and only if no call has subscribed to topics or to a pattern
    since. -/
theorem modes_exclusive (h : History (Subscription.empty policy) ds r)
    (hpresent : r.session.dropped = false) (hopen : r.session.consumer.isClosed = false)
    {step : Step} {request : Request} (hstep : step.request? = some request) :
    let d := Deed.make r.session step
    (∀ m, request.mode? = some m → request.InOrder →
      ((∀ m' ∈ modesEntered ds, m' = m) → d.verdict? = some (.ok (.reply .done))) ∧
      ((∃ m' ∈ modesEntered ds, m' ≠ m) →
        d.verdict? = some (.failed .exclusiveSubscription) ∧ d.after = d.before ∧
          d.events = [])) ∧
    (∀ ps, request = .rebalance ps →
      ((∃ name, d.verdict? = some (.failed (.notAutoAssigned name))) ↔
        .topics ∉ modesEntered ds ∧ .pattern ∉ modesEntered ds)) := by
  intro d
  obtain ⟨hverdict, hafter, hevents⟩ := Deed.make_request hpresent hopen hstep
  constructor
  · intro m hmode horder
    obtain ⟨hgranted, hrefused⟩ :=
      Client.enters_handle hmode horder r.session.consumer.client
    constructor
    · intro honly
      obtain ⟨hresult, -⟩ := hgranted (h.admits_iff.2 honly)
      rw [hverdict, hresult]
      rfl
    · rintro ⟨m', hm', hother⟩
      have hrun := hrefused fun hadmits => hother (h.admits_iff.1 hadmits m' hm')
      rw [hverdict, hafter, hevents, hrun]
      exact ⟨rfl, rfl, rfl⟩
  · rintro ps rfl
    rw [← not_or, ← h.isAutoAssigned_iff, Bool.not_eq_true,
      ← Client.rebalance_refused_iff ps r.session.consumer.client, hverdict]
    simp only [Option.some.injEq, Verdict.ofResult_eq_failed]

end History

/-! ## A run that changes its mode -/

/-- A run that chooses partitions, subscribes to topics in vain, drops the subscription, subscribes
    to no topic at all, drops that too, and subscribes to a pattern. -/
def Run.throughModes : Run Subscription :=
  Run.fresh (Subscription.empty .latest) .empty ⟨30000⟩
    [.request (.assign {orders 0}), .request (.subscribe {"orders"} .silent), .poll,
      .request .unsubscribe, .request (.subscribe ∅ .silent), .request .unsubscribe,
      .subscribePattern "orders?" .silent]

/-- After six deeds choosing partitions is refused, even none at all, and subscribing to topics is
    granted; after eight subscribing to topics is refused, and subscribing to another pattern is
    granted. Neither time a rebalance is refused for the mode. -/
theorem Run.throughModes_exclusive :
    modesEntered (Run.throughModes.deeds 6) = [.topics] ∧
    (Deed.make (Run.throughModes.ahead 6).session (.request (.assign ∅))).verdict? =
      some (.failed .exclusiveSubscription) ∧
    (Deed.make (Run.throughModes.ahead 6).session
      (.request (.subscribe {"orders"} .silent))).verdict? = some (.ok (.reply .done)) ∧
    (¬ ∃ name, (Deed.make (Run.throughModes.ahead 6).session (.request (.rebalance []))).verdict? =
      some (.failed (.notAutoAssigned name))) ∧
    modesEntered (Run.throughModes.deeds 8) = [.pattern] ∧
    (Deed.make (Run.throughModes.ahead 8).session (.request (.subscribe ∅ .silent))).verdict? =
      some (.failed .exclusiveSubscription) ∧
    (Deed.make (Run.throughModes.ahead 8).session
      (.subscribePattern "refunds" .silent)).verdict? = some (.ok (.reply .done)) ∧
    ¬ ∃ name, (Deed.make (Run.throughModes.ahead 8).session (.request (.rebalance []))).verdict? =
      some (.failed (.notAutoAssigned name)) := by
  have hhistory (n : Nat) : History (Subscription.empty .latest) (Run.throughModes.deeds n)
      (Run.throughModes.ahead n) := History.of_moves _ _ _ _ _ n
  have hsix : modesEntered (Run.throughModes.deeds 6) = [.topics] := by decide +kernel
  have height : modesEntered (Run.throughModes.deeds 8) = [.pattern] := by decide +kernel
  have atSix (step : Step) {request : Request} (hstep : step.request? = some request) :=
    History.modes_exclusive (hhistory 6) (by decide +kernel) (by decide +kernel) hstep
  have atEight (step : Step) {request : Request} (hstep : step.request? = some request) :=
    History.modes_exclusive (hhistory 8) (by decide +kernel) (by decide +kernel) hstep
  refine ⟨hsix, ?_, ?_, ?_, height, ?_, ?_, ?_⟩
  · have hassign := (atSix (.request (.assign ∅)) rfl).1 .manual rfl (by rintro _ _ ⟨⟩)
    exact (hassign.2 ⟨.topics, hsix ▸ List.mem_singleton_self _, by simp⟩).1
  · have hsubscribe := (atSix (.request (.subscribe {"orders"} .silent)) rfl).1 .topics rfl
      (by rintro _ _ ⟨⟩)
    exact hsubscribe.1 fun m hm => List.mem_singleton.1 (hsix ▸ hm)
  · intro hrefused
    have hnone := ((atSix (.request (.rebalance [])) rfl).2 [] rfl).1 hrefused
    exact hnone.1 (hsix ▸ List.mem_singleton_self _)
  · have hsubscribe := (atEight (.request (.subscribe ∅ .silent)) rfl).1 .topics rfl
      (by rintro _ _ ⟨⟩)
    exact (hsubscribe.2 ⟨.pattern, height ▸ List.mem_singleton_self _, by simp⟩).1
  · obtain ⟨pattern, hpattern⟩ : ∃ pattern, Pattern.compile? "refunds" = some pattern :=
      Option.isSome_iff_exists.1 (by decide +kernel)
    have hwhole : (Pattern.compile? "refunds").all (·.wholeName?.isSome) = true := by
      decide +kernel
    rw [hpattern, Option.all_some] at hwhole
    have hrequest : (Step.subscribePattern "refunds" .silent).request? =
        some (.subscribePattern pattern .silent) := congrArg (Option.map _) hpattern
    have hsubscribe := (atEight _ hrequest).1 .pattern rfl (by
      rintro _ _ ⟨⟩
      exact Option.isSome_iff_ne_none.1 hwhole)
    exact hsubscribe.1 fun m hm => List.mem_singleton.1 (height ▸ hm)
  · intro hrefused
    have hnone := ((atEight (.request (.rebalance [])) rfl).2 [] rfl).1 hrefused
    exact hnone.2 (height ▸ List.mem_singleton_self _)

end ScriptedConsumer
