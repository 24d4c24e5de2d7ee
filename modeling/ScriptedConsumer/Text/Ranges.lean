set_option autoImplicit false

/-! # Ranges of characters

A set of characters given as ranges of code points, both ends included. `Ranges.normal` puts the
ranges of a set in order and makes one of those that overlap or touch, and `Ranges.complement`
gives the ranges between them. -/

namespace ScriptedConsumer.Text

/-- Ranges of code points, first and last. -/
abbrev Ranges := List (Nat × Nat)

namespace Ranges

/-- The greatest code point. -/
def lastCode : Nat := 0x10FFFF

/-- Whether a code point lies in one of the ranges. -/
def has (ranges : Ranges) (n : Nat) : Bool := ranges.any fun r => r.1 ≤ n && n ≤ r.2

/-- Whether a character lies in one of the ranges. -/
def covers (ranges : Ranges) (c : Char) : Bool := ranges.has c.toNat

/-! ## Normal form -/

/-- Adds a range to ascending ones, as one with those that it overlaps or touches. -/
def insert (r : Nat × Nat) : Ranges → Ranges
  | [] => [r]
  | s :: rest =>
      if r.2 + 1 < s.1 then r :: s :: rest
      else if s.2 + 1 < r.1 then s :: insert r rest
      else insert (min r.1 s.1, max r.2 s.2) rest

/-- The same characters in ascending ranges, none of them empty, that neither overlap nor touch. -/
def normal (ranges : Ranges) : Ranges :=
  (ranges.filter fun r => r.1 ≤ r.2).foldr insert []

/-! ## Complement -/

/-- The ranges from a code point on that lie between the given ascending ones. -/
def gaps (start : Nat) : Ranges → Ranges
  | [] => [(start, lastCode)]
  | r :: rest =>
      if start < r.1 then (start, r.1 - 1) :: gaps (r.2 + 1) rest else gaps (r.2 + 1) rest

/-- The characters that lie in none of the ranges. -/
def complement (ranges : Ranges) : Ranges := (gaps 0 ranges.normal).normal

/-- The characters that lie in both. -/
def inter (r s : Ranges) : Ranges := complement (r.complement ++ s.complement)

/-- The characters that lie in the first and not in the second. -/
def diff (r s : Ranges) : Ranges := complement (r.complement ++ s)

end Ranges

end ScriptedConsumer.Text
