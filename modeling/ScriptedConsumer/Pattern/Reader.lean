import ScriptedConsumer.Pattern.Bracket
import ScriptedConsumer.Pattern.Regex

set_option autoImplicit false

/-! # Reading patterns

The written form of regular expressions: literal characters, `.`, the repetitions `*`, `+`, `?`
and `{m,n}` with an optional `?` behind them, alternatives, groups, inline flags, classes, escapes
and assertions. A pattern is read character by character. What has been read is kept as a stack of
open groups, and `Mode` says in the middle of what the reader is; so reading a pattern inside a
group does the same as reading it alone, only on a deeper stack.

Of the flags, `i` makes case not matter, `m` lets `^` and `$` stand for the ends of lines, `s` lets
`.` stand for what parts lines as well, `R` makes a carriage return part lines too, and `x` allows
blank characters and comments between the parts of a pattern, also between those of a class. The
flag `U` tells which repetitions are the lazy ones, which does not matter for what a pattern spans,
and `u` is set from the start. A flag that is set holds to the end of the group it is set in.

A pattern nested more than 250 deep is refused. Patterns that clear the flag `u` are refused too,
and so are the classes of Unicode properties, `\p` and `\P`. -/

namespace ScriptedConsumer.Pattern

/-! ## What has been read -/

/-- The flags in force. -/
structure Flags where
  foldCase : Bool := false
  multiLine : Bool := false
  dotAll : Bool := false
  crlf : Bool := false
  verbose : Bool := false
deriving DecidableEq, Repr

/-- A regular expression with the depth to which its written form is nested. -/
structure Node where
  regex : Regex
  depth : Nat
deriving DecidableEq, Repr

/-- A part of a sequence: something to match, or a change of flags. -/
inductive Item
  | node (n : Node)
  | flags
deriving DecidableEq, Repr

/-- What has been read of an open group: the finished alternatives and the parts of the current
    one, both latest first, and the flags now in force. The match of a group may be kept apart. -/
structure Level where
  branches : List Node := []
  items : List Item := []
  flags : Flags := {}
  keptApart : Bool := false
deriving DecidableEq, Repr

/-- The greatest depth among nodes. -/
def depthOf (nodes : List Node) : Nat := (nodes.map (·.depth)).foldl max 0

/-- The nodes among the parts of a sequence. -/
def nodesOf (items : List Item) : List Node :=
  items.filterMap fun
    | .node n => some n
    | .flags => none

namespace Level

/-- The current alternative. Two parts or more are one deeper than the deepest of them. -/
def branch (l : Level) : Node :=
  let nodes := nodesOf l.items
  ⟨Regex.seqAll (nodes.reverse.map (·.regex)),
    depthOf nodes + if l.items.length < 2 then 0 else 1⟩

/-- The alternatives read so far. Two or more are one deeper than the deepest of them. -/
def node (l : Level) : Node :=
  let nodes := l.branch :: l.branches
  ⟨Regex.altAll (nodes.reverse.map (·.regex)),
    depthOf nodes + if l.branches.isEmpty then 0 else 1⟩

/-- The group as read so far, one deeper than what is in it. -/
def closed (l : Level) : Node :=
  let n := l.node
  ⟨if l.keptApart then .group n.regex else n.regex, n.depth + 1⟩

/-- The group with one more part. -/
def push (l : Level) (n : Node) : Level := { l with items := .node n :: l.items }

/-- The group with the last part repeated. There must be one, and a change of flags is none. -/
def repeatLast? (l : Level) (least : Nat) (most : Option Nat) : Option Level :=
  match l.items with
  | .node n :: rest =>
      some { l with items := .node ⟨.repeated n.regex least most, n.depth + 1⟩ :: rest }
  | _ => none

/-- The group with an assertion for the last part. -/
def assertLast (l : Level) (look : Look) : Level :=
  { l with items := .node ⟨.look look, 0⟩ :: l.items.tail }

end Level

/-! ## In the middle of what -/

/-- One bound of a repetition as read so far, and whether a blank stood in it. -/
structure Bound where
  value : Option Nat := none
  spaced : Bool := false
deriving DecidableEq, Repr

/-- In the middle of what the reader is. -/
inductive Mode
  | plain
  | escape (e : Escape)
  /-- Behind the escape of a word boundary: a brace may begin the name of another one. -/
  | boundary
  /-- In a brace behind a word boundary and in the name there, latest character first. -/
  | boundaryName (name : List Char)
  /-- Behind `*`, `+` or `?`: a question mark directly behind does not matter. -/
  | repeated
  /-- Behind a repetition in braces: a question mark behind does not matter. -/
  | counted
  | least (bound : Bound)
  | most (least : Nat) (bound : Bound)
  /-- Behind an opening parenthesis. -/
  | groupOpen
  /-- Behind `(?`. -/
  | groupKind
  /-- Behind `(?P`. -/
  | groupP
  /-- Behind `(?<`. -/
  | groupAngle
  /-- In the name of a group, latest character first. -/
  | groupName (name : List Char)
  /-- Among the flags of `(?`, latest first. -/
  | groupFlags (seen : List Char)
  | inClass (mode : ClassMode) (k : OpenClass)
deriving DecidableEq, Repr

/-- A reader in the middle of a pattern: the innermost open group and the groups around it, the open
    classes around the one that it may be in, and the names of groups so far. -/
structure Reader where
  mode : Mode := .plain
  inComment : Bool := false
  level : Level := {}
  outer : List Level := []
  classes : List OpenClass := []
  names : List (List Char) := []
deriving DecidableEq, Repr

/-! ## Characters with a meaning -/

/-- Whether a character may stand in the name of a group; the first one may not be a numeral or a
    punctuation mark other than the underscore. -/
def isNameChar (first : Bool) (c : Char) : Bool :=
  c == '_' || Text.isAlphabetic c
    || (!first && (c == '.' || c == '[' || c == ']' || Text.isNumeral c))

/-- The flags after the given flag letters, in order; those behind a hyphen are cleared. -/
def Flags.apply (flags : Flags) (on : Bool) : List Char → Flags
  | [] => flags
  | 'i' :: rest => { flags with foldCase := on }.apply on rest
  | 'm' :: rest => { flags with multiLine := on }.apply on rest
  | 's' :: rest => { flags with dotAll := on }.apply on rest
  | 'R' :: rest => { flags with crlf := on }.apply on rest
  | 'x' :: rest => { flags with verbose := on }.apply on rest
  | '-' :: rest => flags.apply false rest
  | _ :: rest => flags.apply on rest

/-- The flag letters. -/
def flagLetters : List Char := ['i', 'm', 's', 'R', 'U', 'u', 'x']

/-- The assertion that `^` stands for. -/
def Flags.start (flags : Flags) : Look :=
  if flags.multiLine then .lineStart flags.crlf else .textStart

/-- The assertion that `$` stands for. -/
def Flags.finish (flags : Flags) : Look :=
  if flags.multiLine then .lineEnd flags.crlf else .textEnd

/-- A bound with one more character: a digit, or a blank that is not followed by further digits. -/
def Bound.read? (b : Bound) (c : Char) : Option Bound :=
  if Text.isDigit c then
    if b.value.isSome && b.spaced then none
    else some ⟨some (10 * b.value.getD 0 + Text.digitValue c), false⟩
  else if Text.isBlank c then some { b with spaced := true }
  else none

/-- The value of a bound, which must be given and be below 2³². -/
def Bound.value? (b : Bound) : Option Nat := b.value.filter (· < UInt32.size)

/-! ## One character -/

namespace Reader

/-- The reader with a part added, ready for the next one. -/
def add (p : Reader) (n : Node) : Reader := { p with mode := .plain, level := p.level.push n }

/-- The reader with a set of characters added. -/
def addSet (p : Reader) (set : Text.Ranges) : Reader := p.add ⟨.chars set, 0⟩

/-- The reader with an assertion added. -/
def addLook (p : Reader) (look : Look) : Reader := p.add ⟨.look look, 0⟩

/-- The reader in a class in brackets. -/
def inClass (p : Reader) (mode : ClassMode) (k : OpenClass) : Reader :=
  { p with mode := .inClass mode k }

/-- The reader in a class inside the given one. -/
def openClass (p : Reader) (k : OpenClass) (inner : ClassMode × OpenClass) : Reader :=
  { p with mode := .inClass inner.1 inner.2, classes := k :: p.classes }

/-- The reader after a class in brackets has been closed. -/
def closeClass (p : Reader) (k : OpenClass) : Reader :=
  let n := k.closed p.level.flags.foldCase
  match p.classes with
  | [] => p.add ⟨.chars n.set, n.depth⟩
  | k :: rest => { p with mode := .inClass .body (k.nest n), classes := rest }

/-- The reader inside a new group. -/
def openGroup (p : Reader) (flags : Flags) (keptApart : Bool) : Reader :=
  { p with
    mode := .plain
    level := { flags := flags, keptApart := keptApart }
    outer := p.level :: p.outer }

/-- The reader after the innermost group has been closed. -/
def closeGroup? (p : Reader) : Option Reader :=
  match p.outer with
  | [] => none
  | l :: rest => some { p with mode := .plain, level := l.push p.level.closed, outer := rest }

/-- The reader after the last part has been repeated. -/
def repeatLast? (p : Reader) (mode : Mode) (least : Nat) (most : Option Nat) : Option Reader :=
  (p.level.repeatLast? least most).map fun l => { p with mode := mode, level := l }

/-- Reads a character between parts. -/
def feedPlain (p : Reader) (c : Char) : Option Reader :=
  match c with
  | '(' => some { p with mode := .groupOpen }
  | ')' => p.closeGroup?
  | '|' =>
      some { p with
        mode := .plain
        level := { p.level with branches := p.level.branch :: p.level.branches, items := [] } }
  | '[' => some (p.inClass .opened {})
  | '?' => p.repeatLast? .repeated 0 (some 1)
  | '*' => p.repeatLast? .repeated 0 none
  | '+' => p.repeatLast? .repeated 1 none
  | '{' =>
      -- the repetition is checked here and made when its bounds are known
      (p.level.repeatLast? 0 none).map fun _ => { p with mode := .least {} }
  | '\\' => some { p with mode := .escape .letter }
  | '.' => some (p.addSet (CharSet.wildcard p.level.flags.dotAll p.level.flags.crlf))
  | '^' => some (p.addLook p.level.flags.start)
  | '$' => some (p.addLook p.level.flags.finish)
  | c => some (p.addSet (CharSet.literal p.level.flags.foldCase c))

/-- Reads a character of an escape, which may also be that of an assertion. -/
def feedEscape (p : Reader) (e : Escape) (c : Char) : Option Reader :=
  match if e = .letter then Look.ofEscape? c else none with
  | some .wordBoundary => some { p.addLook .wordBoundary with mode := .boundary }
  | some look => some (p.addLook look)
  | none => (e.read? c).map fun
      | .inl e => { p with mode := .escape e }
      | .inr m => p.addSet (m.set p.level.flags.foldCase)

/-- Reads a character behind an opening parenthesis: a question mark begins a special group. -/
def feedGroupOpen (p : Reader) (c : Char) : Option Reader :=
  if c == '?' then some { p with mode := .groupKind }
  else (p.openGroup p.level.flags true).feedPlain c

/-- Reads a character among the flags of a group. A flag is given once, and a hyphen stands before
    a flag. The flag `u` cannot be cleared. -/
def feedGroupFlags (p : Reader) (seen : List Char) (c : Char) : Option Reader :=
  let flags := p.level.flags.apply true seen.reverse
  if c == ')' then
    if seen.isEmpty || seen.head? == some '-' then none
    else some { p with
      mode := .plain
      level := { p.level with items := .flags :: p.level.items, flags := flags } }
  else if c == ':' then
    if seen.head? == some '-' then none else some (p.openGroup flags false)
  else if (c == '-' || c ∈ flagLetters) && c ∉ seen && !(c == 'u' && '-' ∈ seen) then
    some { p with mode := .groupFlags (c :: seen) }
  else none

/-- Reads a character of the name of a group. Two groups have different names. -/
def feedGroupName (p : Reader) (name : List Char) (c : Char) : Option Reader :=
  if c == '>' then
    if name.isEmpty || name ∈ p.names then none
    else some { p.openGroup p.level.flags true with names := name :: p.names }
  else if isNameChar name.isEmpty c then some { p with mode := .groupName (c :: name) }
  else none

/-- Reads a character of the lower bound of a repetition in braces. -/
def feedLeast (p : Reader) (b : Bound) (c : Char) : Option Reader :=
  match c with
  | ',' => b.value?.map fun n => { p with mode := .most n {} }
  | '\x7d' => do p.repeatLast? .counted (← b.value?) b.value?
  | c => (b.read? c).map fun b => { p with mode := .least b }

/-- Reads a character of the upper bound of a repetition in braces. There is no upper bound if the
    brace is closed at once, and otherwise it is not less than the lower one. -/
def feedMost (p : Reader) (least : Nat) (b : Bound) (c : Char) : Option Reader :=
  if c == '\x7d' then
    if b = {} then p.repeatLast? .counted least none
    else do
      let most ← b.value?
      if least ≤ most then p.repeatLast? .counted least (some most) else none
  else (b.read? c).map fun b => { p with mode := .most least b }

/-- Reads a character of the name of a word boundary. Where no name begins, the brace is that of a
    repetition. -/
def feedBoundaryName (p : Reader) (name : List Char) (c : Char) : Option Reader :=
  if c.isAlpha || c == '-' then some { p with mode := .boundaryName (c :: name) }
  else if name.isEmpty then p.feedLeast {} c
  else if c == '\x7d' then
    (Look.named.lookup (String.ofList name.reverse)).map fun look =>
      { p with mode := .plain, level := p.level.assertLast look }
  else none

/-- Reads a character in the body of a class. -/
def feedClassBody (p : Reader) (k : OpenClass) (c : Char) : Reader :=
  match c with
  | '[' => p.inClass (.bracket []) k
  | ']' => p.closeClass k
  | '\\' => p.inClass (.escape .letter) k
  | '&' | '~' | '-' => p.inClass (.single c) k
  | c => p.inClass (.member (.char c)) k

/-- Reads the first character of a class behind the caret, if there is one: the class may begin
    with hyphens, or with a bracket that does not close it. -/
def feedClassStart (p : Reader) (k : OpenClass) (c : Char) : Reader :=
  match c with
  | '-' => p.inClass .hyphens (k.push (.range '-' '-'))
  | ']' => p.inClass .body (k.push (.range ']' ']'))
  | c => p.feedClassBody k c

/-- Reads a character behind a member of a class: a hyphen may make it the start of a range. -/
def feedClassMember (p : Reader) (k : OpenClass) (m : Member) (c : Char) : Reader :=
  if c == '-' then p.inClass (.hyphen m .nothing) k else p.feedClassBody (k.push m.toClass) c

/-- The reader after a range in a class. Its ends are characters, the first not above the last. -/
def addRange? (p : Reader) (k : OpenClass) : Member → Member → Option Reader
  | .char first, .char last =>
      if first ≤ last then some (p.inClass .body (k.push (.range first last))) else none
  | _, _ => none

/-- Reads a character of a class in brackets. -/
def feedClass (p : Reader) (k : OpenClass) (c : Char) : ClassMode → Option Reader
  | .opened =>
      some (if c == '^' then p.inClass .afterCaret { k with negated := true }
        else p.feedClassStart k c)
  | .afterCaret => some (p.feedClassStart k c)
  | .hyphens =>
      some (if c == '-' then p.inClass .hyphens (k.push (.range '-' '-')) else p.feedClassBody k c)
  | .body => some (p.feedClassBody k c)
  | .escape e => (e.read? c).map fun
      | .inl e => p.inClass (.escape e) k
      | .inr m => p.inClass (.member m) k
  | .member m => some (p.feedClassMember k m c)
  | .rangeEnd m =>
      if c == '\\' then some (p.inClass (.rangeEscape m .letter) k) else p.addRange? k m (.char c)
  | .rangeEscape m e => (e.read? c).bind fun
      | .inl e => some (p.inClass (.rangeEscape m e) k)
      | .inr n => p.addRange? k m n
  -- `feed` settles what these are before a character is read here
  | .single _ | .bracket _ | .hyphen .. => none

/-- Whether blanks and comments may stand where the reader is, if the flags allow them. -/
def skips (p : Reader) : Bool :=
  match p.mode with
  | .plain | .counted | .least _ | .most .. | .groupOpen | .boundaryName _ => true
  | .escape e => e.skips
  | .inClass mode _ => mode.skips
  | .repeated | .boundary | .groupKind | .groupP | .groupAngle | .groupName _
  | .groupFlags _ => false

/-- Reads a character that is not skipped. -/
def feedPart (p : Reader) (c : Char) : Option Reader :=
  match p.mode with
  | .plain | .repeated | .boundary => p.feedPlain c
  | .escape e => p.feedEscape e c
  | .boundaryName name => p.feedBoundaryName name c
  | .counted => if c == '?' then some { p with mode := .plain } else p.feedPlain c
  | .least b => p.feedLeast b c
  | .most least b => p.feedMost least b c
  | .groupOpen => p.feedGroupOpen c
  | .groupKind =>
      match c with
      | 'P' => some { p with mode := .groupP }
      | '<' => some { p with mode := .groupAngle }
      | c => p.feedGroupFlags [] c
  | .groupP => if c == '<' then some { p with mode := .groupName [] } else none
  | .groupAngle => p.feedGroupName [] c
  | .groupName name => p.feedGroupName name c
  | .groupFlags seen => p.feedGroupFlags seen c
  | .inClass mode k => p.feedClass k c mode

/-- Reads a character where blanks and comments may be skipped. -/
def feedSkipping (p : Reader) (c : Char) : Option Reader :=
  if p.level.flags.verbose && p.skips && Text.isBlank c then some p
  else if p.level.flags.verbose && p.skips && c == '#' then some { p with inComment := true }
  else p.feedPart c

/-- Reads a character behind an inner bracket: that of a POSIX class, or the first one that tells
    that it is none. -/
def feedBracket (p : Reader) (k : OpenClass) (seen : List Char) (c : Char) : Option Reader :=
  let form := seen ++ [c]
  match posixForms.lookup form with
  | some m => some (p.inClass .body (k.push m))
  | none =>
      if posixForms.any fun f => form.isPrefixOf f.1 then some (p.inClass (.bracket form) k)
      else (p.openClass k (ClassMode.ofBracket seen)).feedSkipping c

/-- Reads a character, or passes over it in a comment. Directly behind a repetition a question mark
    is part of it, directly behind a word boundary a brace may begin a name, and a sign in a class
    is an operator if it is doubled; any other character is read as if these were behind the
    reader. -/
def feedSettled (p : Reader) (c : Char) : Option Reader :=
  if p.inComment then some (if c == '\n' then { p with inComment := false } else p)
  else match p.mode with
    | .repeated =>
        if c == '?' then some { p with mode := .plain }
        else { p with mode := .plain }.feedSkipping c
    | .boundary =>
        if c == '{' then some { p with mode := .boundaryName [] }
        else { p with mode := .plain }.feedSkipping c
    | .inClass (.single d) k =>
        if c == d then some (p.inClass .body (k.operate (.ofSign d) p.level.flags.foldCase))
        else (p.inClass (.member (.char d)) k).feedSkipping c
    | .inClass (.bracket seen) k => p.feedBracket k seen c
    | _ => p.feedSkipping c

/-- The reader once the hyphen behind a member stands for itself or makes a range, which is told by
    the first character behind it that is neither blank nor the sign that begins a comment, even if
    it is in that comment. Before a bracket or another hyphen it stands for itself. -/
def settleHyphen (p : Reader) (k : OpenClass) (m : Member) (gap : Gap) (c : Char) : Reader :=
  let p := { p with inComment := gap == Gap.openComment }
  if c == ']' || c == '-' then
    p.inClass (if gap = .nothing then .single '-' else .member (.char '-')) (k.push m.toClass)
  else p.inClass (.rangeEnd m) k

/-- Reads a character. -/
def feed (p : Reader) (c : Char) : Option Reader :=
  match p.mode with
  | .inClass (.hyphen m gap) k =>
      match (if p.level.flags.verbose then gap.extend? c else none) with
      | some gap => some (p.inClass (.hyphen m gap) k)
      | none => (p.settleHyphen k m gap c).feedSettled c
  | _ => p.feedSettled c

/-- The nesting up to which patterns are accepted. -/
def nestLimit : Nat := 250

/-- What has been read, if the pattern may end here. -/
def finish? (p : Reader) : Option Regex :=
  match p.mode, p.outer with
  | .plain, [] | .repeated, [] | .counted, [] | .boundary, [] =>
      let n := p.level.node
      if n.depth ≤ nestLimit then some n.regex else none
  | _, _ => none

end Reader

/-! ## Whole patterns -/

/-- The regular expression that a text writes. -/
def read? (pattern : List Char) : Option Regex :=
  (pattern.foldlM Reader.feed {}).bind Reader.finish?

end ScriptedConsumer.Pattern
