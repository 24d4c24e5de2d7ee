import ScriptedConsumer.Pattern.Reader
import ScriptedConsumer.Pattern.Size

set_option autoImplicit false

/-! # Patterns

A pattern is a text that could be read as a regular expression of acceptable size, together with
that expression. A subscription to a pattern is to the topics whose whole name matches it; for
that, the text is put between anchors and read again. Putting a text between anchors can fail even
if the text itself is a pattern: it may end in a comment, or be nested too deep.

What can be read, and in which texts an expression is found, is up to a `Dialect`, so that what does
not look into patterns can be told of any dialect. The one of this library is `standard`. -/

namespace ScriptedConsumer

/-- A text that has been read as a regular expression. -/
structure Pattern where
  text : String
  regex : Pattern.Regex
deriving DecidableEq, Repr, Inhabited

namespace Pattern

/-- A way to read texts as expressions, and to look for what an expression matches. The expression
    stands for whatever was read; only the dialect itself gives it a meaning. -/
class Dialect where
  read? : String → Option Regex
  isFoundIn : Regex → String → Bool

/-- The dialect of this library: an expression must be of acceptable size, and it is found in a text
    if some stretch of the text matches it. -/
instance standard : Dialect where
  read? text := (read? text.toList).filter (·.fits)
  isFoundIn regex text := regex.isMatch text.toList.toArray

variable [Dialect]

/-- The pattern that a text writes, if it can be read. -/
def compile? (text : String) : Option Pattern :=
  (Dialect.read? text).map fun regex => ⟨text, regex⟩

/-- The pattern whose matches span a whole text. -/
def wholeName? (p : Pattern) : Option Pattern := compile? ("^(?:" ++ p.text ++ ")$")

/-- Whether a pattern is found in a text. -/
def isMatch (p : Pattern) (text : String) : Bool := Dialect.isFoundIn p.regex text

end Pattern

end ScriptedConsumer
