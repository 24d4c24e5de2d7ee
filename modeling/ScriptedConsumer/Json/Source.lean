import ScriptedConsumer.Text.Decimal
import ScriptedConsumer.Text.Utf8

set_option autoImplicit false

/-! # Sources of JSON documents

What a document is read from: characters, with a gap for each byte that is part of none. A gap
does no harm where the reader only passes over it. -/

namespace ScriptedConsumer.Json

/-- The characters of a document, with gaps for bytes that are part of none. -/
abbrev Source := List (Option Char)

namespace Source

/-- The source that holds the characters of a text. -/
def ofChars (cs : List Char) : Source := cs.map some

/-- The source that a text is. -/
def ofString (text : String) : Source := ofChars text.toList

/-- The source that bytes are. -/
def ofBytes (bytes : List UInt8) : Source := Text.decode bytes

/-- Whether a character may stand between the parts of a document. -/
def isBlank (c : Char) : Bool := c == ' ' || c == '\t' || c == '\n' || c == '\r'

/-- The source from its first part on. -/
def skipBlanks : Source → Source
  | [] => []
  | none :: rest => none :: rest
  | some c :: rest => if isBlank c then skipBlanks rest else some c :: rest

/-- The digits that a source begins with, and what follows them. -/
def takeDigits : Source → List Char × Source
  | [] => ([], [])
  | none :: rest => ([], none :: rest)
  | some c :: rest =>
      if Text.isDigit c then (c :: (takeDigits rest).1, (takeDigits rest).2)
      else ([], some c :: rest)

/-! ## What is left is no longer -/

theorem length_skipBlanks_le (s : Source) : (skipBlanks s).length ≤ s.length := by
  induction s with
  | nil => exact Nat.le_refl _
  | cons c rest ih =>
      cases c with
      | none => exact Nat.le_refl _
      | some c =>
          rw [skipBlanks]
          split
          · exact Nat.le_succ_of_le ih
          · exact Nat.le_refl _

theorem length_takeDigits (s : Source) :
    (takeDigits s).1.length + (takeDigits s).2.length = s.length := by
  induction s with
  | nil => rfl
  | cons c rest ih =>
      cases c with
      | none => exact Nat.zero_add _
      | some c =>
          rw [takeDigits]
          split
          · rw [List.length_cons, List.length_cons, ← ih, Nat.add_right_comm]
          · exact Nat.zero_add _

end Source

end ScriptedConsumer.Json
