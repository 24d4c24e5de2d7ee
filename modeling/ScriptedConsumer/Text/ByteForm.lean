import ScriptedConsumer.Text.Ranges

set_option autoImplicit false

/-! # Byte forms

UTF-8 writes the characters of a range as byte sequences. A byte form is a sequence of byte ranges
and stands for all byte sequences that take one byte of each; `byteForms` gives the forms that
together write the characters of some ranges, in ascending order. A range that begins or ends in
the middle of a block of tails has forms of its own for that block. -/

namespace ScriptedConsumer.Text

/-- A sequence of byte ranges, first and last byte. -/
abbrev ByteForm := List (Nat × Nat)

/-- The forms of the numbers from `first` to `last`, written as a byte that counts from `lead` and
    a number of tails of six bits each. The leading bytes whose tails are all needed share one
    form, and one at either end whose tails are not has forms of its own. -/
def formsFrom (lead : Nat) : Nat → Nat → Nat → List ByteForm
  | 0, first, last => [[(lead + first, lead + last)]]
  | tails + 1, first, last =>
      let block := 64 ^ (tails + 1)
      let within (digit low high : Nat) : List ByteForm :=
        (formsFrom 0x80 tails low high).map ((lead + digit, lead + digit) :: ·)
      let start := if first % block = 0 then first / block else first / block + 1
      let upTo := if last % block = block - 1 then last / block + 1 else last / block
      if first / block = last / block then within (first / block) (first % block) (last % block)
      else
        (if first / block < start then within (first / block) (first % block) (block - 1) else [])
          ++ (if start < upTo then
                [(lead + start, lead + upTo - 1) :: List.replicate (tails + 1) (0x80, 0xBF)]
              else [])
          ++ (if upTo ≤ last / block then within (last / block) 0 (last % block) else [])

/-- The code points that are written alike, as first, last, leading byte and number of tails. The
    surrogates are not written at all. -/
def formBands : List (Nat × Nat × Nat × Nat) :=
  [(0x0, 0x7F, 0x0, 0), (0x80, 0x7FF, 0xC0, 1), (0x800, 0xD7FF, 0xE0, 2), (0xE000, 0xFFFF, 0xE0, 2),
   (0x10000, 0x10FFFF, 0xF0, 3)]

/-- The forms of the characters of some ranges. -/
def byteForms (ranges : Ranges) : List ByteForm :=
  ranges.flatMap fun (first, last) => formBands.flatMap fun (bandFirst, bandLast, lead, tails) =>
    let low := max first bandFirst
    let high := min last bandLast
    if low ≤ high then formsFrom lead tails low high else []

end ScriptedConsumer.Text
