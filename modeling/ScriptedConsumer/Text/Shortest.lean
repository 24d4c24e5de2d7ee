import ScriptedConsumer.Text.Decimal

set_option autoImplicit false

/-! # Shortest decimals

The decimal with the fewest digits that reads back as a given binary floating-point number. All
decimals nearer to the number than to its neighbours read back as it, and so do those exactly
between if its significand is even. Grid by grid, from one digit to seventeen, the two decimals
next to the number are tried; the first grid with one that reads back has the shortest. Of two on
one grid the nearer is taken, and of two equally near the even one. -/

namespace ScriptedConsumer.Text

/-- A positive binary number, a significand times a power of two. Where the significand is the
    least of its length, the next number below is only half as far as the next one above. -/
structure Dyadic where
  significand : Nat
  exponent : Int
  closeBelow : Bool
deriving DecidableEq, Repr

/-- A decimal number, digits times a power of ten. -/
structure Decimal where
  digits : Nat
  exponent : Int
deriving DecidableEq, Repr

namespace Dyadic

/-- The magnitude of a finite 64-bit floating-point number. -/
def ofBits (bits : UInt64) : Dyadic :=
  let field : Nat := bits.toNat / Nat.pow 2 52 % Nat.pow 2 11
  let fraction : Nat := bits.toNat % Nat.pow 2 52
  if field = 0 then ⟨fraction, -1074, false⟩
  else ⟨Nat.pow 2 52 + fraction, field - 1075, fraction = 0 && 1 < field⟩

/-- A fourth of the last binary place, in steps of `10 ^ k`: numerator and denominator. -/
def quarter (x : Dyadic) (k : Int) : Nat × Nat :=
  (Nat.pow 2 (x.exponent - 2).toNat * Nat.pow 10 (-k).toNat,
    Nat.pow 2 (2 - x.exponent).toNat * Nat.pow 10 k.toNat)

/-- Whether `d * 10 ^ k` reads back as the number. -/
def readsBack (x : Dyadic) (k : Int) (d : Nat) : Bool :=
  let (num, den) := x.quarter k
  let low := (4 * x.significand - if x.closeBelow then 1 else 2) * num
  let high := (4 * x.significand + 2) * num
  if x.significand % 2 = 0 then low ≤ d * den && d * den ≤ high
  else low < d * den && d * den < high

/-- The decimal of the form `d * 10 ^ k` that reads back as the number, if there is one. -/
def onGrid? (x : Dyadic) (k : Int) : Option Nat :=
  let (num, den) := x.quarter k
  let value := 4 * x.significand * num
  let d := value / den
  match x.readsBack k d, x.readsBack k (d + 1) with
  | true, true =>
      let below := value - d * den
      let above := (d + 1) * den - value
      some (if below < above || below = above && d % 2 = 0 then d else d + 1)
  | true, false => some d
  | false, true => some (d + 1)
  | false, false => none

/-- The power of ten of the first digit. The smallest number is greater than `10 ^ (-324)`. -/
def leading (x : Dyadic) : Int :=
  let (num, den) := x.quarter (-324)
  (natText (4 * x.significand * num / den)).length - 325

/-- The shortest decimal that reads back as the number. -/
def shortest (x : Dyadic) : Decimal :=
  let found := (List.range 17).findSome? fun (n : Nat) =>
    let k := x.leading - n
    (x.onGrid? k).map fun d => (⟨d, k⟩ : Decimal)
  found.getD ⟨0, 0⟩

end Dyadic

end ScriptedConsumer.Text
