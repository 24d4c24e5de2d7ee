import ScriptedConsumer.Proofs.Anchoring
import ScriptedConsumer.Proofs.Grants
import ScriptedConsumer.Proofs.Locating
import ScriptedConsumer.Proofs.Modes

set_option autoImplicit false

/-! # Topics of a pattern

To subscribe to a pattern is to subscribe to the topics known at the time whose whole name the
pattern spans, `History.pattern_spans_topics`. They are found with the pattern between anchors, and
if that is no pattern, nothing is subscribed to. Topics that become known later are not subscribed
to, and known ones stay subscribed: what is subscribed to a pattern changes only when a pattern is
subscribed to again or the subscription is dropped. -/

namespace ScriptedConsumer

namespace Client

variable {c : Client Subscription} {pattern whole : Pattern}

/-- Where a pattern may be subscribed to, it is if it can be put between anchors. -/
theorem handle_subscribePattern (h : c.tracker.Admits .pattern)
    (hwhole : pattern.wholeName? = some whole) (listener : Listener) :
    ((handle (.subscribePattern pattern listener)).run c).result = .ok .done ∧
      ((handle (.subscribePattern pattern listener)).run c).state =
        c.resolved pattern whole listener := by
  have hrun := run_subscribePattern_of_whole hwhole listener c
  rw [if_pos h] at hrun
  obtain ⟨hres, hstate⟩ := Action.bind_pure (subscribePattern pattern listener)
    (fun _ => Reply.done) c
  rw [handle, hres, hstate, hrun]
  exact ⟨rfl, rfl⟩

/-- The topics that are subscribed to are the known ones that the pattern spans. -/
theorem mem_topics_resolved {text : String} (hpattern : Pattern.compile? text = some pattern)
    (hwhole : pattern.wholeName? = some whole) (listener : Listener) (c : Client Subscription)
    (topic : String) :
    topic ∈ (c.resolved pattern whole listener).tracker.topics ↔
      topic ∈ c.catalog.topics ∧ pattern.Spans topic := by
  rw [← Pattern.isMatch_wholeName hpattern hwhole]
  show topic ∈ Std.ExtTreeSet.ofList (c.catalog.topics.keys.filter whole.isMatch) ↔ _
  rw [Std.ExtTreeSet.mem_ofList, List.contains_iff_mem, List.mem_filter,
    Std.ExtTreeMap.mem_keys]

end Client

/-! ## What changes the topics -/

/-- Whether a call of the tracker may change the topics that are subscribed to a pattern. -/
def Tracker.Call.resolves : Call → Bool
  | .subscribePattern .. | .setMatched _ | .unsubscribe => true
  | _ => false

/-- Whether a request may change the topics that are subscribed to a pattern. -/
def Request.resolves : Request → Bool
  | .subscribePattern .. | .unsubscribe => true
  | _ => false

theorem Request.resolves_of_makes {r : Request} {call : Tracker.Call} (h : r.Makes call)
    (hcall : call.resolves = true) : r.resolves = true := by
  cases h <;> first | rfl | cases hcall

/-- Whether the deed subscribes to a pattern or drops the subscription. -/
def Deed.resolves (d : Deed Subscription) : Bool := d.accepted?.any Request.resolves

namespace Subscription

/-- The subscription is to a pattern, for the given topics. -/
def Matched (topics : TopicSet) (s : Subscription) : Prop := s.mode = .pattern ∧ s.topics = topics

/-- All other calls leave the topics of a pattern as they are, or are refused. -/
theorem Matched.of_granted {topics : TopicSet} {s s' : Subscription} {call : Tracker.Call}
    (h : s.Matched topics) (hcall : call.resolves = false) (hgrant : s.Granted call s') :
    s'.Matched topics := by
  obtain ⟨hmode, htopics⟩ := h
  cases hgrant with
  | subscribe _ _ hadmits | assignManually _ hadmits => simp [Admits, hmode] at hadmits
  | subscribePattern | setMatched | unsubscribe => cases hcall
  | assignFromGroup | edit => exact ⟨hmode, htopics⟩

end Subscription

/-- The topics of a pattern stay as they are unless the deed subscribes to a pattern or drops the
    subscription. -/
theorem Deed.matched {d : Deed Subscription} {topics : TopicSet} (hd : d.resolves = false)
    (h : d.before.consumer.client.tracker.Coherent ∧
      d.before.consumer.client.tracker.Matched topics) :
    d.after.consumer.client.tracker.Coherent ∧ d.after.consumer.client.tracker.Matched topics := by
  refine d.maintains_granted (I := Subscription.Matched topics) ?_ h.1 h.2
  intro call hcall s s' _ hs hgrant
  refine hs.of_granted ?_ hgrant
  rcases hcall with ⟨r, haccepted, hmakes⟩ | ⟨p, offset, rfl | rfl⟩
  · cases hresolves : call.resolves with
    | false => rfl
    | true =>
        rw [resolves, haccepted] at hd
        rw [← hd]
        exact (Request.resolves_of_makes hmakes hresolves).symm
  · rfl
  · rfl

namespace History

variable {policy : ResetPolicy} {ds : List (Deed Subscription)} {r : Run Subscription}

/-- **A subscription to a pattern is to the known topics that the pattern spans.** At every moment
    of every history over a subscription at which the consumer is open and a pattern may be
    subscribed to: if the pattern between anchors is no pattern, subscribing fails for that reason
    and changes nothing. Otherwise it succeeds. Exactly those known topics are subscribed then whose
    whole name the pattern itself matches, whatever was subscribed before, and nothing else changes
    but what tells of the subscription. They stay subscribed, whatever else becomes known of topics,
    until a pattern is subscribed to again or the subscription is dropped. -/
theorem pattern_spans_topics (h : History (Subscription.empty policy) ds r)
    (hs : r.session.dropped = false) (hopen : r.session.consumer.isClosed = false)
    (hadmits : r.session.consumer.client.tracker.Admits .pattern) {text : String}
    {pattern : Pattern} (hpattern : Pattern.compile? text = some pattern) (listener : Listener) :
    let c := r.session.consumer.client
    let d := Deed.make r.session (.subscribePattern text listener)
    (Pattern.compile? ("^(?:" ++ text ++ ")$") = none →
      d.verdict? = some (.failed .invalidPattern) ∧ d.after = r.session ∧ d.events = []) ∧
    (Pattern.compile? ("^(?:" ++ text ++ ")$") ≠ none →
      d.verdict? = some (.ok (.reply .done)) ∧
      ∃ topics : TopicSet,
        d.after = r.session.withClient { c with tracker := { c.tracker with
          mode := .pattern, pattern := some pattern, topics, listener := some listener } } ∧
        (∀ topic, topic ∈ topics ↔ topic ∈ c.catalog.topics ∧ pattern.Spans topic) ∧
        ∀ post r', History (Subscription.empty policy) (ds ++ d :: post) r' →
          (∀ d' ∈ post, d'.resolves = false) →
          r'.session.consumer.client.tracker.topics = topics) := by
  intro c d
  have hwritten : pattern.wholeName? = Pattern.compile? ("^(?:" ++ text ++ ")$") := by
    rw [Pattern.wholeName?, (Pattern.compile?_eq_some hpattern).1]
  have hrequest : (Step.subscribePattern text listener).request? =
      some (.subscribePattern pattern listener) := by
    rw [Step.request?, hpattern, Option.map_some]
  obtain ⟨hverdict, hafter, hevents⟩ := Deed.make_request hs hopen hrequest
  rw [← hwritten]
  constructor
  · intro hnone
    have hrefused : (Client.handle (.subscribePattern pattern listener)).run c =
        ⟨.error .invalidPattern, c, []⟩ :=
      Action.run_bind_error (Client.run_subscribePattern_of_none hnone listener c) _
    rw [hrefused] at hverdict hafter hevents
    exact ⟨hverdict, hafter, hevents⟩
  · intro hsome
    obtain ⟨whole, hwhole⟩ := Option.ne_none_iff_exists'.1 hsome
    obtain ⟨hres, hstate⟩ := Client.handle_subscribePattern hadmits hwhole listener
    have hafter' : d.after = r.session.withClient (c.resolved pattern whole listener) :=
      hafter.trans (by rw [hstate]; rfl)
    refine ⟨hverdict.trans (by rw [hres]; rfl), _, hafter',
      Client.mem_topics_resolved hpattern hwhole listener c, ?_⟩
    intro post r' h' hpost
    have hmatched : d.after.consumer.client.tracker.Matched
        (c.resolved pattern whole listener).tracker.topics := by
      rw [hafter']
      exact ⟨rfl, rfl⟩
    have hboth := h'.carries_since (P := fun s => s.consumer.client.tracker.Coherent ∧
        s.consumer.client.tracker.Matched (c.resolved pattern whole listener).tracker.topics)
      ⟨Deed.coherent_after (d := d) h.coherent, hmatched⟩
      fun d' hd' => Deed.matched (hpost d' hd')
    exact hboth.2.2

end History

/-! ## A run that subscribes to a pattern -/

/-- A run over two topics whose names both hold the same word, that is subscribed to one of them
    when it subscribes to another pattern, and that comes to know of a third topic after that. -/
def Run.twoPatterns : Run Subscription :=
  Run.fresh (Subscription.empty .latest) .empty ⟨30000⟩
    [.request (.updatePlacements "orders" []), .request (.updatePlacements "preorders" []),
      .subscribePattern "pre.*" .silent, .subscribePattern "orders?|refunds" .silent,
      .request (.updatePlacements "refunds" [])]

/-- The topic that the pattern spans is subscribed then, and not the one that it is only found in,
    though that one was; and the third topic stays unsubscribed when it is known. A pattern that
    ends in a comment is refused. -/
theorem Run.twoPatterns_spanned :
    let s := (Run.twoPatterns.ahead 3).session
    let d := Deed.make s (.subscribePattern "orders?|refunds" .silent)
    let later := (Run.twoPatterns.ahead 5).session.consumer.client
    d.verdict? = some (.ok (.reply .done)) ∧
    "orders" ∈ d.after.consumer.client.tracker.topics ∧
    "preorders" ∈ s.consumer.client.tracker.topics ∧
    "preorders" ∉ d.after.consumer.client.tracker.topics ∧
    "refunds" ∈ later.catalog.topics ∧ "refunds" ∉ later.tracker.topics ∧
    (Deed.make s (.subscribePattern "(?x)orders # all" .silent)).verdict? =
      some (.failed .invalidPattern) := by
  have hhistory : History (Subscription.empty .latest) (Run.twoPatterns.deeds 3)
      (Run.twoPatterns.ahead 3) := .of_moves ..
  have hpresent : (Run.twoPatterns.ahead 3).session.dropped = false := by decide +kernel
  have hopen : (Run.twoPatterns.ahead 3).session.consumer.isClosed = false := by decide +kernel
  have hadmits : (Run.twoPatterns.ahead 3).session.consumer.client.tracker.Admits .pattern := by
    decide +kernel
  let pattern := (Pattern.compile? "orders?|refunds").getD default
  have hpattern : Pattern.compile? "orders?|refunds" = some pattern := by decide +kernel
  let whole := pattern.wholeName?.getD default
  have hwhole : pattern.wholeName? = some whole := by decide +kernel
  have hspans (topic : String) : whole.isMatch topic = true ↔ pattern.Spans topic :=
    Pattern.isMatch_wholeName hpattern hwhole topic
  have htodo {n : Nat} (hn : n ≤ 5) :
      (Run.twoPatterns.ahead n).todo = Run.twoPatterns.todo.drop n :=
    Run.todo_ahead hn fun step hstep => by
      have hmem := List.mem_of_mem_take hstep
      simp only [Run.twoPatterns, Run.fresh, Run.freshIn, Run.startIn, List.mem_cons,
        List.not_mem_nil, or_false] at hmem
      rcases hmem with rfl | rfl | rfl | rfl | rfl <;> simp
  have hlater : History (Subscription.empty .latest) (Run.twoPatterns.deeds 3 ++
      .make (Run.twoPatterns.ahead 3).session (.subscribePattern "orders?|refunds" .silent) ::
        [.make (Run.twoPatterns.ahead 4).session (.request (.updatePlacements "refunds" []))])
      (Run.twoPatterns.ahead 5) := by
    rw [List.append_cons, ← Run.deeds_succ_of_todo (htodo (n := 3) (by decide)),
      ← Run.deeds_succ_of_todo (htodo (n := 4) (by decide))]
    exact .of_moves ..
  have hquiet : (Deed.make (Run.twoPatterns.ahead 4).session
      (.request (.updatePlacements "refunds" []))).resolves = false := by decide +kernel
  obtain ⟨-, hgranted⟩ := hhistory.pattern_spans_topics hpresent hopen hadmits hpattern .silent
  obtain ⟨hok, topics, hafter, hmem, hstays⟩ := hgranted (by decide +kernel)
  have htopics : (Run.twoPatterns.ahead 5).session.consumer.client.tracker.topics = topics :=
    hstays _ _ hlater fun d' hd' => List.mem_singleton.1 hd' ▸ hquiet
  refine ⟨hok, ?_, by decide +kernel, ?_, by decide +kernel, ?_, ?_⟩
  · rw [hafter]
    exact (hmem "orders").2 ⟨by decide +kernel, (hspans "orders").1 (by decide +kernel)⟩
  · rw [hafter]
    exact fun h => absurd ((hspans "preorders").2 ((hmem "preorders").1 h).2) (by decide +kernel)
  · rw [htopics]
    exact fun h => absurd ((hmem "refunds").1 h).1 (by decide +kernel)
  · let comment := (Pattern.compile? "(?x)orders # all").getD default
    have hcomment : Pattern.compile? "(?x)orders # all" = some comment := by decide +kernel
    exact ((hhistory.pattern_spans_topics hpresent hopen hadmits hcomment .silent).1
      (by decide +kernel)).1

end ScriptedConsumer
