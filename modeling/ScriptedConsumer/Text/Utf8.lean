set_option autoImplicit false

/-! # UTF-8

Decoding bytes as UTF-8. A byte that starts no well-formed sequence is kept as a gap in the text, so
that a reader may still pass over it where the text does not matter. -/

namespace ScriptedConsumer.Text

/-- Whether a byte continues a sequence. -/
def isTail (b : UInt8) : Bool := 0x80 ≤ b && b ≤ 0xBF

/-- The code point of a sequence: the low bits of its first byte, then six bits of each other
    one. -/
def codePoint (first : Nat) (tails : List UInt8) : Nat :=
  tails.foldl (fun n b => 64 * n + b.toNat % 64) first

/-- The character of a well-formed sequence of two bytes. -/
def pair? (a b : UInt8) : Option Char :=
  if 0xC2 ≤ a && a ≤ 0xDF && isTail b then some (Char.ofNat (codePoint (a.toNat % 32) [b]))
  else none

/-- The character of a well-formed sequence of three bytes: neither one that two bytes could
    write, nor a surrogate. -/
def triple? (a b c : UInt8) : Option Char :=
  let n := codePoint (a.toNat % 16) [b, c]
  if 0xE0 ≤ a && a ≤ 0xEF && isTail b && isTail c && 0x800 ≤ n && (n < 0xD800 || 0xDFFF < n) then
    some (Char.ofNat n)
  else none

/-- The character of a well-formed sequence of four bytes: neither one that three bytes could
    write, nor beyond the last code point. -/
def quadruple? (a b c d : UInt8) : Option Char :=
  let n := codePoint (a.toNat % 8) [b, c, d]
  if 0xF0 ≤ a && a ≤ 0xF4 && isTail b && isTail c && isTail d && 0x10000 ≤ n && n ≤ 0x10FFFF then
    some (Char.ofNat n)
  else none

/-- The characters that bytes write, with a gap for each byte that starts no sequence. -/
def decode : List UInt8 → List (Option Char)
  | [] => []
  | a :: rest =>
      if a < 0x80 then some (Char.ofNat a.toNat) :: decode rest
      else match rest with
        | [] => [none]
        | b :: rest₁ =>
            match pair? a b with
            | some ch => some ch :: decode rest₁
            | none => match rest₁ with
              | [] => none :: decode (b :: [])
              | c :: rest₂ =>
                  match triple? a b c with
                  | some ch => some ch :: decode rest₂
                  | none => match rest₂ with
                    | [] => none :: decode (b :: c :: [])
                    | d :: rest₃ =>
                        match quadruple? a b c d with
                        | some ch => some ch :: decode rest₃
                        | none => none :: decode (b :: c :: d :: rest₃)

/-- The text that bytes write, if all of them are well-formed. -/
def decode? (bytes : List UInt8) : Option String :=
  ((decode bytes).mapM id).map String.ofList

/-- The bytes that write a text. -/
def encode (text : String) : List UInt8 := text.toUTF8.toList

end ScriptedConsumer.Text
