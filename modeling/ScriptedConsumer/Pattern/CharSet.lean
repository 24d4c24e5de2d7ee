import ScriptedConsumer.Text.Blank
import ScriptedConsumer.Text.CaseFold
import ScriptedConsumer.Text.Word

set_option autoImplicit false

/-! # Character sets

The sets of characters that one place of a pattern may stand for: ranges and named classes, taken
together, possibly complemented, and combined by operators. Where case does not matter, a range also
holds the characters that differ from its own in case only, and so does a POSIX class; the other
classes are closed under that already. -/

namespace ScriptedConsumer.Pattern

open Text (Ranges)

/-- One member of a character set. -/
inductive CharClass
  | range (first last : Char)
  | digit
  | space
  | word
  | notDigit
  | notSpace
  | notWord
  /-- A POSIX class, or the characters that are not in it. -/
  | posix (set : Ranges) (negated : Bool)
  /-- A class in brackets of its own. -/
  | nested (set : Ranges)
deriving DecidableEq, Repr

/-- A set with the case variants of its characters, if case does not matter. -/
def CharSet.folded (foldCase : Bool) (set : Ranges) : Ranges :=
  if foldCase then Ranges.withCaseVariants set else set

/-- The characters of a member. -/
def CharClass.ranges (foldCase : Bool) : CharClass → Ranges
  | range first last => CharSet.folded foldCase [(first.toNat, last.toNat)]
  | digit => Text.decimalDigitRanges
  | space => Text.blankRanges
  | word => Text.wordRanges
  | notDigit => Ranges.complement Text.decimalDigitRanges
  | notSpace => Ranges.complement Text.blankRanges
  | notWord => Ranges.complement Text.wordRanges
  | posix set negated =>
      let own := CharSet.folded foldCase set
      if negated then Ranges.complement own else own
  | nested set => set

/-- The POSIX classes with their names. -/
def posixClasses : List (String × Ranges) :=
  [("alnum", [(0x30, 0x39), (0x41, 0x5A), (0x61, 0x7A)]), ("alpha", [(0x41, 0x5A), (0x61, 0x7A)]),
   ("ascii", [(0, 0x7F)]), ("blank", [(0x09, 0x09), (0x20, 0x20)]),
   ("cntrl", [(0, 0x1F), (0x7F, 0x7F)]), ("digit", [(0x30, 0x39)]), ("graph", [(0x21, 0x7E)]),
   ("lower", [(0x61, 0x7A)]), ("print", [(0x20, 0x7E)]),
   ("punct", [(0x21, 0x2F), (0x3A, 0x40), (0x5B, 0x60), (0x7B, 0x7E)]),
   ("space", [(0x09, 0x0D), (0x20, 0x20)]), ("upper", [(0x41, 0x5A)]),
   ("word", [(0x30, 0x39), (0x41, 0x5A), (0x5F, 0x5F), (0x61, 0x7A)]),
   ("xdigit", [(0x30, 0x39), (0x41, 0x46), (0x61, 0x66)])]

/-- What stands for a POSIX class behind a bracket inside a class, up to the bracket that closes it,
    with the class. -/
def posixForms : List (List Char × CharClass) :=
  posixClasses.flatMap fun (name, set) =>
    [((":" ++ name ++ ":]").toList, .posix set false),
     ((":^" ++ name ++ ":]").toList, .posix set true)]

/-- An operator between the sets of a class. -/
inductive SetOp
  | inter
  | diff
  | symmDiff
deriving DecidableEq, Repr

namespace SetOp

/-- The operator that is written by a sign twice. -/
def ofSign (sign : Char) : SetOp :=
  if sign = '&' then inter else if sign = '-' then diff else symmDiff

/-- What an operator makes of two sets. -/
def apply (r s : Ranges) : SetOp → Ranges
  | inter => r.inter s
  | diff => r.diff s
  | symmDiff => Ranges.diff (r ++ s) (r.inter s)

end SetOp

namespace CharSet

/-- The characters of some members together. -/
def ofClasses (members : List CharClass) (foldCase : Bool) : Ranges :=
  Ranges.normal (members.flatMap (·.ranges foldCase))

/-- The set of one character, with its case variants if case does not matter. -/
def literal (foldCase : Bool) (c : Char) : Ranges :=
  if foldCase then Ranges.normal ((Text.caseVariants c.toNat).map fun n => (n, n))
  else [(c.toNat, c.toNat)]

/-- Every character, or every character that does not part lines. -/
def wildcard (dotAll crlf : Bool) : Ranges :=
  Ranges.complement <|
    if dotAll then [] else if crlf then [(0x0A, 0x0A), (0x0D, 0x0D)] else [(0x0A, 0x0A)]

end CharSet

end ScriptedConsumer.Pattern
