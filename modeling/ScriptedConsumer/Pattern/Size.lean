import ScriptedConsumer.Pattern.Regex
import ScriptedConsumer.Text.ByteForm
import ScriptedConsumer.Text.Utf8

set_option autoImplicit false

/-! # Size of patterns

A pattern is matched by two automata on bytes, one that reads a text forward and one that reads it
backward, and a pattern is refused if either takes up more than ten mebibytes. `Regex.fits` tells
whether it does, from what the parts of the pattern take up: a part that is repeated is built once
for each of its repetitions.

What an expression stands for decides how it is built. A text is a row of states, one for each
byte. A set of characters is a state that branches on bytes, with more states behind it for
characters of several bytes; a choice between single characters or between sets is one set, and a
choice between texts is built so that those that begin alike share their beginning. -/

namespace ScriptedConsumer.Pattern

open Text (Ranges ByteForm)

/-! ## States -/

/-- What a state takes up. -/
def stateSize : Nat := 32

/-- What a state takes up that branches on bytes, with a number of byte ranges. -/
def branchSize (ranges : Nat) : Nat := stateSize + 8 * ranges

/-- What a state takes up that reads nothing, with a number of ways on. -/
def choiceSize (ways : Nat) : Nat := stateSize + 4 * ways

/-- What two automata for the same thing take up: the one that reads forward, and the one that
    reads backward. -/
structure Size where
  ahead : Nat
  back : Nat
deriving DecidableEq, Repr

namespace Size

/-- The same size both ways. -/
def both (n : Nat) : Size := ⟨n, n⟩

/-- The sizes together. -/
def add (s t : Size) : Size := ⟨s.ahead + t.ahead, s.back + t.back⟩

/-- A number of copies of a size. -/
def times (n : Nat) (s : Size) : Size := ⟨n * s.ahead, n * s.back⟩

end Size

/-! ## Sequences that begin alike -/

/-- What sequences begin with, each beginning once. -/
def beginnings {α : Type} [BEq α] (seqs : List (List α)) : List α :=
  (seqs.filterMap List.head?).eraseDups

/-- What goes on behind a beginning. -/
def behind {α : Type} [BEq α] (a : α) (seqs : List (List α)) : List (List α) :=
  seqs.filterMap fun
    | b :: rest => if b == a then some rest else none
    | [] => none

/-- The places among byte forms, each as the forms that go on from it. No form is longer than
    `depth`. -/
def placesOf : Nat → List ByteForm → List (List ByteForm)
  | 0, _ => []
  | depth + 1, forms => forms :: (beginnings forms).flatMap fun r =>
      let rest := behind r forms
      if rest == [[]] then [] else placesOf depth rest

/-- The number of beginnings of byte forms. No form is longer than `depth`. -/
def countBeginnings : Nat → List ByteForm → Nat
  | 0, _ => 0
  | depth + 1, forms =>
      ((beginnings forms).map fun r => 1 + countBeginnings depth (behind r forms)).foldr (· + ·) 0

/-- What a set of characters takes up. Forward, places that go on alike are one state. Backward,
    forms that begin alike share the states of their beginning, unless the set is all ASCII. -/
def setSize (set : Ranges) : Size :=
  let forms := Text.byteForms set
  let ahead := stateSize
    + (((placesOf 4 forms).eraseDups).map fun rest => branchSize (beginnings rest).length).foldr
        (· + ·) 0
  let back := choiceSize forms.length + stateSize + stateSize * countBeginnings 4 forms
  ⟨ahead, if set.all fun r => r.2 < 0x80 then ahead else back⟩

/-- What a choice between texts takes up behind a beginning that they share. A text that ends there
    stands between those before it and those behind it. No text is longer than `depth`. -/
def textsSizeFrom : Nat → List (List UInt8) → Nat
  | 0, _ => 0
  | depth + 1, texts =>
      let runs := texts.splitOn []
      let ways := (runs.filter fun run => !run.isEmpty).length + (runs.length - 1)
      let branches := runs.map fun run =>
        let bytes := beginnings run
        (if bytes.length ≤ 1 then stateSize * bytes.length else branchSize bytes.length)
          + (bytes.map fun b =>
              let rest := behind b run
              if rest.all List.isEmpty then 0 else textsSizeFrom depth rest).foldr (· + ·) 0
      branches.foldr (· + ·) 0 + if ways = 1 then 0 else choiceSize ways

/-- What a choice between texts takes up. -/
def textsSize (texts : List (List UInt8)) : Size :=
  let size (texts : List (List UInt8)) : Nat :=
    stateSize + textsSizeFrom ((texts.map List.length).foldl max 0 + 1) texts
  ⟨size texts, size (texts.map List.reverse)⟩

/-! ## Expressions -/

/-- What an expression stands for, as far as it decides how the expression is built. -/
inductive Shape
  | nothing
  | text (chars : List Char)
  | set (ranges : Ranges)
  | other
deriving DecidableEq, Repr

/-- What an expression stands for and takes up, the fewest and the most bytes of its matches, and
    whether its matches are only at the start or only at the end of a text. There are no fewest
    bytes if nothing matches, and no most if there is no limit or nothing matches. -/
structure Extent where
  shape : Shape
  size : Size
  least : Option Nat
  most : Option Nat
  atStart : Bool := false
  atEnd : Bool := false
deriving DecidableEq, Repr

namespace Extent

/-- The extent of nothing. Beside other parts it takes up nothing. -/
def nothing : Extent := ⟨.nothing, .both stateSize, some 0, some 0, false, false⟩

/-- The extent of a text. -/
def ofText (chars : List Char) : Extent :=
  let bytes := (Text.encode (String.ofList chars)).length
  ⟨.text chars, .both (stateSize * bytes), some bytes, some bytes, false, false⟩

/-- The extent of a set of characters. The set of one character is a text. -/
def ofSet (set : Ranges) : Extent :=
  let bytes (n : Nat) : Nat := (Char.ofNat n).utf8Size
  let whole : Extent :=
    ⟨.set set, setSize set, set.head?.map (bytes ·.1), set.getLast?.map (bytes ·.2), false, false⟩
  match set with
  | [(first, last)] => if first = last then ofText [Char.ofNat first] else whole
  | _ => whole

/-- The extent of an assertion. -/
def ofLook (l : Look) : Extent :=
  ⟨.other, .both stateSize, some 0, some 0, l = .textStart, l = .textEnd⟩

/-- The extent of one expression behind another. -/
def andThen (e f : Extent) : Extent :=
  match e.shape, f.shape with
  | .nothing, _ => f
  | _, .nothing => e
  | .text chars, .text more => ofText (chars ++ more)
  | _, _ =>
      { shape := .other
        size := e.size.add f.size
        least := do return (← e.least) + (← f.least)
        most := do return (← e.most) + (← f.most)
        atStart := e.atStart || (e.most == some 0 && f.atStart)
        atEnd := f.atEnd || (f.most == some 0 && e.atEnd) }

/-- The characters of texts, if each text is a single one. -/
def singles? (choices : List Extent) : Option (List Char) :=
  choices.mapM fun e => match e.shape with
    | .text [c] => some c
    | _ => none

/-- The characters of sets, if each choice is one. -/
def sets? (choices : List Extent) : Option (List Ranges) :=
  choices.mapM fun e => match e.shape with
    | .set set => some set
    | _ => none

/-- The bytes of texts, if each choice is one. -/
def texts? (choices : List Extent) : Option (List (List UInt8)) :=
  choices.mapM fun e => match e.shape with
    | .text chars => some (Text.encode (String.ofList chars))
    | _ => none

/-- The extent of a choice. -/
def choice (choices : List Extent) : Extent :=
  match choices with
  | [] => nothing
  | [e] => e
  | choices =>
      match singles? choices, sets? choices with
      | some chars, _ => ofSet (Ranges.normal (chars.map fun c => (c.toNat, c.toNat)))
      | none, some sets => ofSet (Ranges.normal sets.flatten)
      | none, none =>
          { shape := .other
            size := match texts? choices with
              | some texts => textsSize texts
              | none => (choices.map (·.size)).foldl Size.add
                  (.both (choiceSize choices.length + stateSize))
            least := (choices.mapM Extent.least).bind List.min?
            most := (choices.mapM Extent.most).bind List.max?
            atStart := choices.all (·.atStart)
            atEnd := choices.all (·.atEnd) }

/-- What an expression takes up that is repeated. Each repetition beyond the least number may be
    left out; without a limit, the last one is gone back to. -/
def repeatedSize (e : Extent) (least : Nat) (most : Option Nat) : Size :=
  match least, most with
  | 0, some 1 => e.size.add (.both (choiceSize 2 + stateSize))
  | 0, none =>
      if e.least.any (0 < ·) then e.size.add (.both (choiceSize 2))
      else e.size.add (.both (2 * choiceSize 2 + stateSize))
  | least, none => (e.size.times least).add (.both (choiceSize 2))
  | least, some most =>
      let required := if least = 0 then .both stateSize else e.size.times least
      if most ≤ least then required
      else required.add
        (((e.size.add (.both (choiceSize 2))).times (most - least)).add (.both stateSize))

/-- The extent of a repetition. To match nothing more than once is to match it once, and what is
    repeated no times is nothing. -/
def repeated (e : Extent) (least : Nat) (most : Option Nat) : Extent :=
  let void := e.most == some 0
  let least := if void then min least 1 else least
  let most := if void then some (min (most.getD 1) 1) else most
  if most = some 0 then nothing
  else if least = 1 ∧ most = some 1 then e
  else
    { shape := .other
      size := e.repeatedSize least most
      least := e.least.map (least * ·)
      most := do return (← most) * (← e.most)
      atStart := 0 < least && e.atStart
      atEnd := 0 < least && e.atEnd }

/-- The extent of a group whose match is kept apart: forward, a state stands at either end. -/
def keptApart (e : Extent) : Extent :=
  { e with shape := .other, size := e.size.add ⟨2 * stateSize, 0⟩ }

/-- What the automata for an expression take up as a whole. The whole match is kept apart, and
    unless matches are only at the one end of a text, a loop in front passes over what is before
    them. -/
def total (e : Extent) : Size :=
  let skipping := choiceSize 2 + stateSize + branchSize 1
  ⟨(if e.atStart then stateSize else skipping) + 2 * stateSize + e.size.ahead + stateSize,
    (if e.atEnd then stateSize else skipping) + e.size.back + stateSize⟩

end Extent

namespace Regex

/-- The extents of the alternatives of an expression. -/
def choices : Regex → List Extent
  | .empty => [.nothing]
  | .chars set => [.ofSet set]
  | .look l => [.ofLook l]
  | .seq r s => [(Extent.choice r.choices).andThen (Extent.choice s.choices)]
  | .alt r s => r.choices ++ s.choices
  | .repeated r least most => [(Extent.choice r.choices).repeated least most]
  | .group r => [(Extent.choice r.choices).keptApart]

/-- The extent of an expression. -/
def extent (r : Regex) : Extent := Extent.choice r.choices

/-- What an automaton may take up. -/
def sizeLimit : Nat := 10 * 1024 * 1024

/-- Whether both automata for an expression are within the limit. -/
def fits (r : Regex) : Bool :=
  let size := r.extent.total
  size.ahead ≤ sizeLimit && size.back ≤ sizeLimit

end Regex

end ScriptedConsumer.Pattern
