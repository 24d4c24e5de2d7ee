import ScriptedConsumer.Text.Ranges

set_option autoImplicit false

/-! # Blank characters

The characters with the Unicode property White_Space, and trimming a text of them at both ends. -/

namespace ScriptedConsumer.Text

/-- The ranges of the Unicode property White_Space. -/
def blankRanges : Ranges :=
  [(0x9, 0xD), (0x20, 0x20), (0x85, 0x85), (0xA0, 0xA0), (0x1680, 0x1680), (0x2000, 0x200A),
   (0x2028, 0x2029), (0x202F, 0x202F), (0x205F, 0x205F), (0x3000, 0x3000)]

/-- Whether a character has the Unicode property White_Space. -/
def isBlank (c : Char) : Bool := blankRanges.covers c

/-- A text without the blank characters at its two ends. -/
def trim (cs : List Char) : List Char :=
  ((cs.dropWhile isBlank).reverse.dropWhile isBlank).reverse

end ScriptedConsumer.Text
