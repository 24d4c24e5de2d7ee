import ScriptedConsumer.Text.Word

set_option autoImplicit false

/-! # Assertions

What a pattern can ask about a place in a text without reading a character: whether the text, a line
or a word begins or ends there. Lines are parted by line feeds. With `crlf` a carriage return parts
them too, and one with a line feed behind it is a single mark. -/

namespace ScriptedConsumer.Pattern

/-- An assertion about a place in a text. The last two ask for one side of it only. -/
inductive Look
  | textStart
  | textEnd
  | lineStart (crlf : Bool)
  | lineEnd (crlf : Bool)
  | wordBoundary
  | notWordBoundary
  | wordStart
  | wordEnd
  | noWordBefore
  | noWordBehind
deriving DecidableEq, Repr

namespace Look

/-- The character before a place, if there is one. -/
def before? (text : Array Char) (i : Nat) : Option Char := if i = 0 then none else text[i - 1]?

/-- Whether there is a character and it is a word character. -/
def isWord (c : Option Char) : Bool := c.any Text.wordRanges.covers

/-- Whether an assertion holds at a place. -/
def holds (text : Array Char) (i : Nat) : Look → Bool
  | textStart => i == 0
  | textEnd => i == text.size
  | lineStart crlf =>
      i == 0 || before? text i == some '\n'
        || crlf && before? text i == some '\r' && text[i]? != some '\n'
  | lineEnd crlf =>
      i == text.size || crlf && text[i]? == some '\r'
        || text[i]? == some '\n' && !(crlf && before? text i == some '\r')
  | wordBoundary => isWord (before? text i) != isWord text[i]?
  | notWordBoundary => isWord (before? text i) == isWord text[i]?
  | wordStart => !isWord (before? text i) && isWord text[i]?
  | wordEnd => isWord (before? text i) && !isWord text[i]?
  | noWordBefore => !isWord (before? text i)
  | noWordBehind => !isWord text[i]?

/-- The assertion that a backslash and a character behind it stand for. -/
def ofEscape? : Char → Option Look
  | 'A' => some textStart
  | 'z' => some textEnd
  | 'b' => some wordBoundary
  | 'B' => some notWordBoundary
  | '<' => some wordStart
  | '>' => some wordEnd
  | _ => none

/-- The assertions that have names in braces. -/
def named : List (String × Look) :=
  [("start", wordStart), ("end", wordEnd), ("start-half", noWordBefore), ("end-half", noWordBehind)]

end Look

end ScriptedConsumer.Pattern
