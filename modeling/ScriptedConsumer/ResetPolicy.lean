import ScriptedConsumer.Failure
import ScriptedConsumer.Text.Blank

set_option autoImplicit false

/-! # Reset policies

How a partition without a position and without a commit gets its starting offset, and the words
that name a policy in a configuration. -/

namespace ScriptedConsumer

/-- The rule that picks a starting offset: the scripted beginning, the scripted end, or none. -/
inductive ResetPolicy
  | earliest
  | latest
  | none
deriving DecidableEq, Repr, Inhabited

namespace ResetPolicy

/-- The policies. -/
def all : List ResetPolicy := [earliest, latest, none]

/-- The name under which a policy is shown. -/
def name : ResetPolicy → String
  | earliest => "earliest"
  | latest => "latest"
  | none => "none"

/-- The words that name a policy, its own name first. -/
def aliases : ResetPolicy → List String
  | earliest => ["earliest", "smallest", "beginning"]
  | latest => ["latest", "largest", "end"]
  | none => ["none", "error"]

/-- The policy with the given name. -/
def ofName? (name : String) : Option ResetPolicy := all.find? (·.name == name)

/-- The policy that a word names. -/
def ofAlias? (word : List Char) : Option ResetPolicy :=
  all.find? fun policy => policy.aliases.any (·.toList == word)

/-- The policy that a text names: blank characters around the word and the case of ASCII letters
    do not matter. A text that names none is refused as it was given. -/
def parse (text : String) : Except Failure ResetPolicy :=
  match ofAlias? ((Text.trim text.toList).map Char.toLower) with
  | some policy => .ok policy
  | Option.none => .error (.invalidPolicy text)

end ResetPolicy

end ScriptedConsumer
