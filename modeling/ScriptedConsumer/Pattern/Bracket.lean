import ScriptedConsumer.Pattern.Escape

set_option autoImplicit false

/-! # Classes in brackets

A class in brackets is read member by member. Its members are taken together, or combined by the
operators between them, from the left; a class of its own may be a member. `OpenClass` is what has
been read of a class, and `ClassMode` says in the middle of what the reader is. -/

namespace ScriptedConsumer.Pattern

open Text (Ranges)

/-! ## What has been read -/

/-- A set of characters with the depth to which its written form is nested. -/
structure ClassSet where
  set : Ranges
  depth : Nat
deriving DecidableEq, Repr

/-- What has been read of a class in brackets: what stands before the last operator, if there is
    one, and the members behind it, latest first. The depth is that of the deepest of them. -/
structure OpenClass where
  negated : Bool := false
  left : Option (SetOp × ClassSet) := none
  members : List CharClass := []
  depth : Nat := 0
deriving DecidableEq, Repr

namespace OpenClass

/-- The class with one more member. -/
def push (k : OpenClass) (m : CharClass) : OpenClass := { k with members := m :: k.members }

/-- The class with another one in it. -/
def nest (k : OpenClass) (inner : ClassSet) : OpenClass :=
  { k.push (.nested inner.set) with depth := max k.depth inner.depth }

/-- The members behind the last operator. Two or more are one deeper than the deepest of them. -/
def operand (k : OpenClass) (foldCase : Bool) : ClassSet :=
  ⟨CharSet.ofClasses k.members.reverse foldCase,
    k.depth + if k.members.length < 2 then 0 else 1⟩

/-- All that has been read. An operator is one deeper than the deeper of its sides. -/
def combined (k : OpenClass) (foldCase : Bool) : ClassSet :=
  let right := k.operand foldCase
  match k.left with
  | none => right
  | some (op, left) => ⟨op.apply left.set right.set, max left.depth right.depth + 1⟩

/-- The class behind an operator. -/
def operate (k : OpenClass) (op : SetOp) (foldCase : Bool) : OpenClass :=
  { negated := k.negated, left := some (op, k.combined foldCase) }

/-- The class when it is closed, one deeper than what is in it. -/
def closed (k : OpenClass) (foldCase : Bool) : ClassSet :=
  let all := k.combined foldCase
  ⟨if k.negated then Ranges.complement all.set else all.set, all.depth + 1⟩

end OpenClass

/-! ## In the middle of what -/

/-- What stands between a hyphen and the place of the reader. -/
inductive Gap
  | nothing
  | blanks
  | openComment
  | closedComment
deriving DecidableEq, Repr

/-- What stands behind a hyphen with one more character, if it does not yet tell what the hyphen is:
    blanks, and the sign that begins a comment. -/
def Gap.extend? (gap : Gap) (c : Char) : Option Gap :=
  match gap with
  | .nothing | .blanks =>
      if c == '#' then some .openComment else if Text.isBlank c then some .blanks else none
  | .openComment =>
      if c == '\n' then some .closedComment else if Text.isBlank c then some .openComment else none
  | .closedComment => if Text.isBlank c then some .closedComment else none

/-- Where the reader is in a class in brackets. -/
inductive ClassMode
  /-- Behind the bracket: a caret complements the class. -/
  | opened
  /-- Behind the bracket and its caret. -/
  | afterCaret
  /-- Among the hyphens that the class begins with. -/
  | hyphens
  | body
  /-- Behind a character that is an operator if it is doubled. -/
  | single (c : Char)
  /-- Behind a bracket and what may yet be a POSIX class. -/
  | bracket (seen : List Char)
  | escape (e : Escape)
  /-- Behind a member that may begin a range. -/
  | member (m : Member)
  /-- Behind a member and a hyphen, which may stand for itself or make a range. -/
  | hyphen (m : Member) (gap : Gap)
  /-- Behind a member and a hyphen that makes a range. -/
  | rangeEnd (m : Member)
  | rangeEscape (m : Member) (e : Escape)
deriving DecidableEq, Repr

namespace ClassMode

/-- Whether blanks and comments may stand where the reader is. -/
def skips : ClassMode → Bool
  | opened | afterCaret | hyphens | body | member _ | rangeEnd _ => true
  | escape e | rangeEscape _ e => e.skips
  | single _ | bracket _ | hyphen .. => false

/-- What an inner bracket and the characters behind it begin, if it is no POSIX class: a class with
    these as its members, the last of which may begin a range. -/
def ofBracket (seen : List Char) : ClassMode × OpenClass :=
  match seen.reverse with
  | [] => (opened, {})
  | last :: before => (member (.char last), { members := before.map fun c => .range c c })

end ClassMode

end ScriptedConsumer.Pattern
