import ScriptedConsumer.Pattern.CharSet
import ScriptedConsumer.Text.Decimal

set_option autoImplicit false

/-! # Escapes

What a backslash and the characters behind it stand for: a character, or a named class. Letters and
digits without a meaning of their own are refused, and so are non-ASCII characters. A character can
also be written by its number, in hexadecimal: in braces, or with as many digits as the letter
before them says. -/

namespace ScriptedConsumer.Pattern

/-- A member of a class, as it may begin or end a range. -/
inductive Member
  | char (c : Char)
  | named (k : CharClass)
deriving DecidableEq, Repr

/-- The class that a member stands for by itself. -/
def Member.toClass : Member → CharClass
  | char c => .range c c
  | named k => k

/-- The set of a member that stands outside a class. -/
def Member.set (foldCase : Bool) : Member → Text.Ranges
  | char c => CharSet.literal foldCase c
  | named k => CharSet.ofClasses [k] foldCase

/-- What a backslash and a single character behind it stand for. -/
def escape? (c : Char) : Option Member :=
  match c with
  | 'd' => some (.named .digit)
  | 's' => some (.named .space)
  | 'w' => some (.named .word)
  | 'D' => some (.named .notDigit)
  | 'S' => some (.named .notSpace)
  | 'W' => some (.named .notWord)
  | 'a' => some (.char '\x07')
  | 'f' => some (.char '\x0c')
  | 't' => some (.char '\t')
  | 'n' => some (.char '\n')
  | 'r' => some (.char '\r')
  | 'v' => some (.char '\x0b')
  | '<' => none
  | '>' => none
  | c => if c.toNat < 128 && !c.isAlphanum then some (.char c) else none

/-- Where the reader is in an escape. -/
inductive Escape
  /-- Behind the backslash. -/
  | letter
  /-- Behind the letter of a number that has one more digit than this if it has no braces. -/
  | number (more : Nat)
  /-- Among digits, with one to come and this many more. -/
  | digits (more : Nat) (value : Nat)
  | braces (value : Option Nat)
deriving DecidableEq, Repr

/-- The character with the given number. -/
def charOf? (n : Nat) : Option Char := if n.isValidChar then some (Char.ofNat n) else none

namespace Escape

/-- What an escape is after one more digit: the digits to come, or the character that they give. -/
def readDigit? (more value : Nat) (c : Char) : Option (Escape ⊕ Member) :=
  (Text.hexValue? c).bind fun d =>
    match more with
    | 0 => (charOf? (16 * value + d)).map fun c => .inr (.char c)
    | more + 1 => some (.inl (.digits more (16 * value + d)))

/-- What an escape is after one more character: an escape that goes on, or what it stands for. -/
def read? (e : Escape) (c : Char) : Option (Escape ⊕ Member) :=
  match e with
  | letter =>
      match c with
      | 'x' => some (.inl (.number 1))
      | 'u' => some (.inl (.number 3))
      | 'U' => some (.inl (.number 7))
      | c => (escape? c).map .inr
  | number more => if c == '{' then some (.inl (.braces none)) else readDigit? more 0 c
  | digits more value => readDigit? more value c
  | braces value =>
      if c == '\x7d' then (value.bind charOf?).map fun c => .inr (.char c)
      else (Text.hexValue? c).map fun d => .inl (.braces (some (16 * value.getD 0 + d)))

/-- Whether blanks and comments may stand where the reader is. -/
def skips (e : Escape) : Bool := e != letter

end Escape

end ScriptedConsumer.Pattern
