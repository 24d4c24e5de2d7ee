import ScriptedConsumer.Pattern
import ScriptedConsumer.Proofs.Matching

set_option autoImplicit false

/-! # Patterns between anchors

To be matched against whole names, a pattern is put between anchors, as text. A pattern so anchored
is found in a name exactly if the pattern itself spans the name (`isMatch_wholeName`). That is so
because a pattern is read inside a group as it is read alone (`Reader.lifts_feed`): alternatives,
flags and repetitions in it end with the group. Only the closing of a group looks at the groups
around it, and a pattern that can be read alone closes none but its own.

A pattern may be read alone and yet not between anchors: if it ends in a comment, the closing
parenthesis is part of the comment, and the anchors may exceed what a pattern may take up. -/

namespace ScriptedConsumer.Pattern

namespace Reader

/-! ## Reading inside groups -/

/-- The reader with more open groups around it. -/
def above (p : Reader) (base : List Level) : Reader := { p with outer := p.outer ++ base }

/-- What one reading leads to, if it leads to anything, the other leads to inside more groups. -/
def Lifts (base : List Level) (alone inside : Option Reader) : Prop :=
  ∀ p, alone = some p → inside = some (p.above base)

variable {base : List Level}

theorem Lifts.none {inside : Option Reader} : Lifts base none inside := fun _ h => nomatch h

theorem Lifts.some {p : Reader} : Lifts base (some p) (some (p.above base)) := fun _ h =>
  Option.some.inj h ▸ rfl

theorem Lifts.ite {P : Prop} {hP hP' : Decidable P} {x x' y y' : Option Reader}
    (yes : Lifts base x x') (no : Lifts base y y') :
    Lifts base (@ite _ P hP x y) (@ite _ P hP' x' y') := by
  by_cases h : P
  · simpa only [if_pos h] using yes
  · simpa only [if_neg h] using no

section
variable (p : Reader) (base : List Level) (c : Char)

@[simp] theorem above_mode : (p.above base).mode = p.mode := rfl
@[simp] theorem above_inComment : (p.above base).inComment = p.inComment := rfl
@[simp] theorem above_level : (p.above base).level = p.level := rfl
@[simp] theorem above_names : (p.above base).names = p.names := rfl
@[simp] theorem above_classes : (p.above base).classes = p.classes := rfl

theorem lifts_repeatLast? (mode : Mode) (least : Nat) (most : Option Nat) :
    Lifts base (p.repeatLast? mode least most) ((p.above base).repeatLast? mode least most) := by
  simp only [repeatLast?, above_level]
  cases p.level.repeatLast? least most with
  | none => exact .none
  | some l => exact .some

/-- The one step that needs a group around the reader has it either way. -/
theorem lifts_closeGroup? : Lifts base p.closeGroup? (p.above base).closeGroup? := by
  cases houter : p.outer with
  | nil => simp only [closeGroup?, houter, Lifts.none]
  | cons l rest =>
      simp only [closeGroup?, houter, above, List.cons_append]
      exact .some

theorem lifts_feedPlain : Lifts base (p.feedPlain c) ((p.above base).feedPlain c) := by
  simp only [feedPlain]
  split
  case h_2 => exact lifts_closeGroup? p base
  case h_5 | h_6 | h_7 => exact lifts_repeatLast? p base _ _ _
  case h_8 =>
    rw [above_level]
    cases p.level.repeatLast? 0 none with
    | none => exact .none
    | some l => exact .some
  all_goals exact .some

theorem lifts_feedEscape (e : Escape) :
    Lifts base (p.feedEscape e c) ((p.above base).feedEscape e c) := by
  simp only [feedEscape, above_level]
  split
  · exact .some
  · exact .some
  · cases e.read? c with
    | none => exact .none
    | some next => cases next <;> exact .some

theorem lifts_feedGroupOpen :
    Lifts base (p.feedGroupOpen c) ((p.above base).feedGroupOpen c) := by
  simp only [feedGroupOpen]
  exact .ite .some (lifts_feedPlain (p.openGroup p.level.flags true) base c)

theorem lifts_feedGroupFlags (seen : List Char) :
    Lifts base (p.feedGroupFlags seen c) ((p.above base).feedGroupFlags seen c) := by
  simp only [feedGroupFlags, above_level]
  exact .ite (.ite .none .some) (.ite (.ite .none .some) (.ite .some .none))

theorem lifts_feedGroupName (name : List Char) :
    Lifts base (p.feedGroupName name c) ((p.above base).feedGroupName name c) := by
  simp only [feedGroupName, above_names]
  exact .ite (.ite .none .some) (.ite .some .none)

theorem lifts_feedLeast (b : Bound) :
    Lifts base (p.feedLeast b c) ((p.above base).feedLeast b c) := by
  simp only [feedLeast]
  split
  · cases b.value? with
    | none => exact .none
    | some n => exact .some
  · cases b.value? with
    | none => exact .none
    | some n => exact lifts_repeatLast? p base .counted n (some n)
  · cases b.read? _ with
    | none => exact .none
    | some b => exact .some

theorem lifts_feedMost (least : Nat) (b : Bound) :
    Lifts base (p.feedMost least b c) ((p.above base).feedMost least b c) := by
  simp only [feedMost]
  refine .ite (.ite (lifts_repeatLast? p base .counted least none) ?_) ?_
  · cases b.value? with
    | none => exact .none
    | some most => exact .ite (lifts_repeatLast? p base .counted least (some most)) .none
  · cases b.read? c with
    | none => exact .none
    | some b => exact .some

theorem lifts_feedBoundaryName (name : List Char) :
    Lifts base (p.feedBoundaryName name c) ((p.above base).feedBoundaryName name c) := by
  simp only [feedBoundaryName]
  refine .ite .some (.ite (lifts_feedLeast p base c {}) (.ite ?_ .none))
  cases Look.named.lookup (String.ofList name.reverse) with
  | none => exact .none
  | some look => exact .some

theorem closeClass_above (k : OpenClass) :
    (p.above base).closeClass k = (p.closeClass k).above base := by
  simp only [closeClass, above_level, above_classes]
  split <;> rfl

theorem feedClassBody_above (k : OpenClass) :
    (p.above base).feedClassBody k c = (p.feedClassBody k c).above base := by
  simp only [feedClassBody]
  split
  case h_2 => exact closeClass_above p base k
  all_goals rfl

theorem feedClassStart_above (k : OpenClass) :
    (p.above base).feedClassStart k c = (p.feedClassStart k c).above base := by
  simp only [feedClassStart]
  split
  · rfl
  · rfl
  · exact feedClassBody_above p base _ k

theorem feedClassMember_above (k : OpenClass) (m : Member) :
    (p.above base).feedClassMember k m c = (p.feedClassMember k m c).above base := by
  simp only [feedClassMember]
  split
  · rfl
  · exact feedClassBody_above p base c _

theorem lifts_addRange? (k : OpenClass) (m n : Member) :
    Lifts base (p.addRange? k m n) ((p.above base).addRange? k m n) := by
  cases m with
  | named => exact .none
  | char first =>
      cases n with
      | named => exact .none
      | char last => exact .ite .some .none

theorem lifts_feedClass (k : OpenClass) (mode : ClassMode) :
    Lifts base (p.feedClass k c mode) ((p.above base).feedClass k c mode) := by
  cases mode with
  | opened =>
      simp only [feedClass, feedClassStart_above]
      split <;> exact .some
  | afterCaret =>
      simp only [feedClass, feedClassStart_above]
      exact .some
  | hyphens =>
      simp only [feedClass, feedClassBody_above]
      split <;> exact .some
  | body =>
      simp only [feedClass, feedClassBody_above]
      exact .some
  | member m =>
      simp only [feedClass, feedClassMember_above]
      exact .some
  | escape e =>
      simp only [feedClass]
      cases e.read? c with
      | none => exact .none
      | some next => cases next <;> exact .some
  | rangeEnd m =>
      simp only [feedClass]
      exact .ite .some (lifts_addRange? p base k m (.char c))
  | rangeEscape m e =>
      simp only [feedClass]
      cases e.read? c with
      | none => exact .none
      | some next =>
          cases next with
          | inl e => exact .some
          | inr n => exact lifts_addRange? p base k m n
  | single | bracket | hyphen => exact .none

theorem lifts_feedPart : Lifts base (p.feedPart c) ((p.above base).feedPart c) := by
  simp only [feedPart, above_mode]
  cases p.mode with
  | plain | repeated | boundary => exact lifts_feedPlain p base c
  | escape e => exact lifts_feedEscape p base c e
  | boundaryName name => exact lifts_feedBoundaryName p base c name
  | counted => exact .ite .some (lifts_feedPlain p base c)
  | least b => exact lifts_feedLeast p base c b
  | most least b => exact lifts_feedMost p base c least b
  | groupOpen => exact lifts_feedGroupOpen p base c
  | groupKind =>
      simp only
      split
      · exact .some
      · exact .some
      · exact lifts_feedGroupFlags p base _ []
  | groupP => exact .ite .some .none
  | groupAngle => exact lifts_feedGroupName p base c []
  | groupName name => exact lifts_feedGroupName p base c name
  | groupFlags seen => exact lifts_feedGroupFlags p base c seen
  | inClass mode k => exact lifts_feedClass p base c k mode

theorem lifts_feedSkipping : Lifts base (p.feedSkipping c) ((p.above base).feedSkipping c) := by
  have hskips : (p.above base).skips = p.skips := rfl
  simp only [feedSkipping, above_level, hskips]
  exact .ite .some (.ite .some (lifts_feedPart p base c))

theorem lifts_feedBracket (k : OpenClass) (seen : List Char) :
    Lifts base (p.feedBracket k seen c) ((p.above base).feedBracket k seen c) := by
  simp only [feedBracket]
  split
  · exact .some
  · exact .ite .some (lifts_feedSkipping (p.openClass k (ClassMode.ofBracket seen)) base c)

theorem lifts_feedSettled : Lifts base (p.feedSettled c) ((p.above base).feedSettled c) := by
  simp only [feedSettled, above_inComment, above_mode]
  refine .ite ?_ ?_
  · split <;> exact .some
  · split
    · exact .ite .some (lifts_feedSkipping { p with mode := .plain } base c)
    · exact .ite .some (lifts_feedSkipping { p with mode := .plain } base c)
    · exact .ite .some (lifts_feedSkipping (p.inClass _ _) base c)
    · exact lifts_feedBracket p base c _ _
    · exact lifts_feedSkipping p base c

theorem settleHyphen_above (k : OpenClass) (m : Member) (gap : Gap) :
    (p.above base).settleHyphen k m gap c = (p.settleHyphen k m gap c).above base := by
  simp only [settleHyphen]
  split <;> rfl

/-- **A character is read inside groups as it is read without them.** -/
theorem lifts_feed : Lifts base (p.feed c) ((p.above base).feed c) := by
  simp only [feed, above_mode]
  split
  next m gap k _ =>
    have hsettled := lifts_feedSettled (p.settleHyphen k m gap c) base c
    rw [← settleHyphen_above] at hsettled
    by_cases hverbose : p.level.flags.verbose
    · have hinside : (p.above base).level.flags.verbose = true := hverbose
      rw [if_pos hverbose, if_pos hinside]
      cases gap.extend? c with
      | none => exact hsettled
      | some gap => exact .some
    · have hinside : ¬(p.above base).level.flags.verbose = true := hverbose
      rw [if_neg hverbose, if_neg hinside]
      exact hsettled
  · exact lifts_feedSettled p base c

end

theorem lifts_foldlM_feed (text : List Char) (p : Reader) (base : List Level) :
    Lifts base (text.foldlM feed p) (text.foldlM feed (p.above base)) := by
  induction text generalizing p with
  | nil => exact .some
  | cons c text ih =>
      intro p' h
      rw [List.foldlM_cons] at h ⊢
      obtain ⟨next, hnext, hrest⟩ := Option.bind_eq_some_iff.1 h
      rw [lifts_feed p base c next hnext]
      exact ih next p' hrest

/-! ## The end of a pattern -/

/-- Between parts of a pattern, where it may end. -/
def BetweenParts (p : Reader) : Prop :=
  p.mode = .plain ∨ p.mode = .repeated ∨ p.mode = .counted ∨ p.mode = .boundary

theorem finish?_eq_some {p : Reader} {r : Regex} :
    p.finish? = some r ↔
      p.BetweenParts ∧ p.outer = [] ∧ p.level.node.depth ≤ nestLimit ∧ p.level.node.regex = r := by
  obtain ⟨mode, inComment, level, outer, classes, names⟩ := p
  simp only [finish?, BetweenParts]
  split
  case h_5 => grind
  all_goals simp

/-- In a comment, all but the end of the line is passed over. -/
theorem feed_of_inComment {p : Reader} (hmode : p.BetweenParts) (hcomment : p.inComment = true)
    {c : Char} (hc : c ≠ '\n') : p.feed c = some p := by
  obtain h | h | h | h := hmode <;> simp [feed, feedSettled, h, hcomment, hc]

theorem feed_close {p : Reader} (hmode : p.BetweenParts) (hcomment : p.inComment = false) :
    p.feed ')' = p.closeGroup? := by
  have hblank : Text.isBlank ')' = false := by decide
  obtain h | h | h | h := hmode <;>
    simp [feed, feedSettled, feedSkipping, feedPart, feedPlain, closeGroup?, h, hcomment, hblank]

end Reader

/-! ## Patterns between anchors -/

theorem spans_closed (l : Level) (text : Array Char) (i j : Nat) :
    Regex.Spans text l.closed.regex i j ↔ Regex.Spans text l.node.regex i j := by
  simp only [Level.closed]
  split <;> rfl

/-- The group that a pattern between anchors is read in stands behind the first anchor. -/
def behindAnchor : Level := { items := [.node ⟨.look .textStart, 0⟩] }

namespace Reader

/-- The closing parenthesis and the anchor behind it, where a pattern between anchors has ended. -/
theorem foldlM_feed_closing {p : Reader} (hmode : p.BetweenParts) (hcomment : p.inComment = false)
    (houter : p.outer = [behindAnchor]) :
    [')', '$'].foldlM feed p = some { p with
      mode := .plain
      level := (behindAnchor.push p.level.closed).push ⟨.look .textEnd, 0⟩
      outer := [] } := by
  have hclose : p.feed ')' = some { p with
      mode := .plain, level := behindAnchor.push p.level.closed, outer := [] } := by
    rw [feed_close hmode hcomment]
    simp only [closeGroup?, houter]
  rw [List.foldlM_cons, hclose, hcomment]
  rfl

/-- If it has ended in a comment, they are part of the comment. -/
theorem foldlM_feed_closing_of_inComment {p : Reader} (hmode : p.BetweenParts)
    (hcomment : p.inComment = true) : [')', '$'].foldlM feed p = some p := by
  have hfeed {c : Char} (hc : c ≠ '\n') : p.feed c = some p :=
    feed_of_inComment hmode hcomment hc
  simp [hfeed]

end Reader

theorem read?_anchored {pattern : List Char} {r whole : Regex} (halone : read? pattern = some r)
    (hwhole : read? ("^(?:".toList ++ pattern ++ ")$".toList) = some whole) :
    ∃ inner, whole = .seq (.look .textStart) (.seq inner (.look .textEnd))
      ∧ ∀ text i j, Regex.Spans text inner i j ↔ Regex.Spans text r i j := by
  obtain ⟨p, hread, hfinish⟩ := Option.bind_eq_some_iff.1 halone
  obtain ⟨hmode, houter, -, rfl⟩ := Reader.finish?_eq_some.1 hfinish
  let inside := p.above [behindAnchor]
  have hinsideMode : inside.BetweenParts := hmode
  have hinsideOuter : inside.outer = [behindAnchor] := by
    simp only [inside, Reader.above, houter, List.nil_append]
  have hopen : "^(?:".toList.foldlM Reader.feed {} = some (Reader.above {} [behindAnchor]) := rfl
  have hinside : pattern.foldlM Reader.feed (Reader.above {} [behindAnchor]) = some inside :=
    Reader.lifts_foldlM_feed pattern {} [behindAnchor] p hread
  have hrest : ([')', '$'].foldlM Reader.feed inside).bind Reader.finish? = some whole := by
    rw [read?, List.foldlM_append, List.foldlM_append, hopen] at hwhole
    simp only [Option.bind_eq_bind, Option.bind_some, hinside] at hwhole
    exact hwhole
  cases hcomment : inside.inComment with
  | true =>
      -- the group stays open, and no pattern may end in one
      rw [Reader.foldlM_feed_closing_of_inComment hinsideMode hcomment, Option.bind_some,
        Reader.finish?_eq_some, hinsideOuter] at hrest
      exact absurd hrest.2.1 (List.cons_ne_nil _ _)
  | false =>
      rw [Reader.foldlM_feed_closing hinsideMode hcomment hinsideOuter, Option.bind_some,
        Reader.finish?_eq_some] at hrest
      obtain ⟨-, -, -, rfl⟩ := hrest
      exact ⟨p.level.closed.regex, rfl, spans_closed p.level⟩

theorem compile?_eq_some {text : String} {p : Pattern} (h : compile? text = some p) :
    p.text = text ∧ read? text.toList = some p.regex := by
  obtain ⟨regex, hregex, rfl⟩ := Option.map_eq_some_iff.1 h
  exact ⟨rfl, (Option.filter_eq_some_iff.1 hregex).1⟩

/-- The pattern matches all of a text, from its first character to its last. -/
def Spans (p : Pattern) (text : String) : Prop :=
  Regex.Spans text.toList.toArray p.regex 0 text.toList.toArray.size

/-- **A pattern between anchors is found in a text exactly if the pattern spans the text.** -/
theorem isMatch_wholeName {text : String} {p whole : Pattern} (hp : compile? text = some p)
    (hwhole : p.wholeName? = some whole) (name : String) :
    whole.isMatch name = true ↔ p.Spans name := by
  obtain ⟨htext, halone⟩ := compile?_eq_some hp
  have hanchored := (compile?_eq_some hwhole).2
  rw [String.toList_append, String.toList_append, htext] at hanchored
  obtain ⟨inner, hregex, hinner⟩ := read?_anchored halone hanchored
  show whole.regex.isMatch name.toList.toArray = true ↔ _
  rw [hregex, Regex.isMatch_iff, Spans]
  simp only [Regex.Spans, Look.holds, beq_iff_eq, hinner]
  constructor
  · rintro ⟨i, j, -, _, ⟨rfl, rfl⟩, k, hspan, rfl, rfl⟩
    exact hspan
  · intro hspan
    exact ⟨0, _, Nat.zero_le _, 0, ⟨rfl, rfl⟩, _, hspan, rfl, rfl⟩

-- neither the alternatives nor the flag reach the anchors
example :
    (compile? "(?m)^a|[[:lower:]&&[^a]]$").map (fun p =>
      (p.isMatch "a\nb", p.wholeName?.map (·.isMatch "a\nb"), p.wholeName?.map (·.isMatch "b"))) =
        some (true, some false, some true) := by
  decide +kernel

end ScriptedConsumer.Pattern
