import ScriptedConsumer.Json.Source
import ScriptedConsumer.Text.Shortest

set_option autoImplicit false

/-! # Numbers

A numeral is a number as it is written; a number is what it stands for: an integer that fits in 64
bits, with or without a sign, or else a floating-point number. -/

namespace ScriptedConsumer.Json

/-! ## Numerals -/

/-- The exponent of a numeral. -/
structure Exponent where
  negative : Bool
  digits : List Char
deriving DecidableEq, Repr

/-- A number as it is written. -/
structure Numeral where
  negative : Bool
  whole : List Char
  fraction : Option (List Char) := none
  exponent : Option Exponent := none
deriving DecidableEq, Repr

namespace Numeral

/-- How a numeral is written. The exponent always has a sign. -/
def text (n : Numeral) : List Char :=
  (if n.negative then ['-'] else []) ++ n.whole
    ++ (n.fraction.elim [] ('.' :: ·))
    ++ (n.exponent.elim [] fun e => 'e' :: (if e.negative then '-' else '+') :: e.digits)

/-- The digits before the point: a single zero, or digits that do not begin with one. -/
def whole? : Source → Option (List Char × Source)
  | some '0' :: rest => some (['0'], rest)
  | s => match s.takeDigits with
    | ([], _) => none
    | found => some found

/-- The point and the digits behind it. If there is a point, there must be a digit. -/
def fraction? : Source → Option (Option (List Char) × Source)
  | some '.' :: rest => match Source.takeDigits rest with
    | ([], _) => none
    | (ds, rest) => some (some ds, rest)
  | s => some (none, s)

/-- The sign of an exponent: whether there is a minus. -/
def sign : Source → Bool × Source
  | some '+' :: rest => (false, rest)
  | some '-' :: rest => (true, rest)
  | s => (false, s)

/-- The letter, the sign and the digits of an exponent. If there is a letter, there must be a
    digit. -/
def exponent? : Source → Option (Option Exponent × Source)
  | some c :: rest =>
      if c = 'e' ∨ c = 'E' then
        match (sign rest).2.takeDigits with
        | ([], _) => none
        | (ds, after) => some (some ⟨(sign rest).1, ds⟩, after)
      else some (none, some c :: rest)
  | s => some (none, s)

/-- The numeral without its sign. -/
def unsigned? (negative : Bool) (s : Source) : Option (Numeral × Source) := do
  let (whole, s) ← whole? s
  let (fraction, s) ← fraction? s
  let (exponent, s) ← exponent? s
  return (⟨negative, whole, fraction, exponent⟩, s)

/-- The numeral that a source begins with, and what follows it. -/
def read? : Source → Option (Numeral × Source)
  | some '-' :: rest => unsigned? true rest
  | s => unsigned? false s

/-! ## What is left is shorter -/

theorem length_of_whole? {s rest : Source} {ds : List Char} (h : whole? s = some (ds, rest)) :
    rest.length < s.length := by
  unfold whole? at h
  split at h
  · simp_all
  · have := s.length_takeDigits
    split at h
    · simp at h
    · next hne =>
      injection h with h
      cases ds with
      | nil => exact absurd h (hne rest)
      | cons => simp [h] at this; omega

theorem length_of_fraction? {s rest : Source} {ds : Option (List Char)}
    (h : fraction? s = some (ds, rest)) : rest.length ≤ s.length := by
  unfold fraction? at h
  split at h
  · next rest' =>
    have := Source.length_takeDigits rest'
    split at h <;> simp_all; omega
  · simp_all

theorem length_sign_le (s : Source) : (sign s).2.length ≤ s.length := by
  unfold sign
  split <;> simp

theorem length_of_exponent? {s rest : Source} {e : Option Exponent}
    (h : exponent? s = some (e, rest)) : rest.length ≤ s.length := by
  unfold exponent? at h
  split at h
  · next rest' =>
    have h₁ := Source.length_takeDigits (sign rest').2
    have h₂ := length_sign_le rest'
    split at h
    · split at h <;> simp_all; omega
    · simp_all
  · simp_all

theorem length_of_unsigned? {negative : Bool} {s rest : Source} {n : Numeral}
    (h : unsigned? negative s = some (n, rest)) : rest.length < s.length := by
  simp only [unsigned?, Option.bind_eq_bind, Option.bind_eq_some_iff, Prod.exists] at h
  obtain ⟨_, _, hw, _, _, hf, _, _, he, h⟩ := h
  have := length_of_whole? hw
  have := length_of_fraction? hf
  have := length_of_exponent? he
  simp_all; omega

theorem length_of_read? {s rest : Source} {n : Numeral} (h : read? s = some (n, rest)) :
    rest.length < s.length := by
  unfold read? at h
  split at h
  · have := length_of_unsigned? h; simp; omega
  · exact length_of_unsigned? h

end Numeral

/-! ## What a numeral stands for -/

/-- A number. -/
inductive Number
  | int (n : Int)
  | float (x : Float)
deriving Repr

namespace Numeral

/-- The integer of a numeral that is a plain integer. Minus zero is none. -/
def int? (n : Numeral) : Option Int :=
  if n.fraction = none ∧ n.exponent = none then
    let magnitude := Text.natOfDigits 0 n.whole
    if n.negative then if magnitude = 0 then none else some (-magnitude) else some magnitude
  else none

/-- Reads digits on from `acc` as long as the number fits in 64 bits, and gives the digits that do
    not fit any more. -/
def gather (acc : Nat) : List Char → Nat × List Char
  | [] => (acc, [])
  | d :: ds =>
      let next := 10 * acc + Text.digitValue d
      if next < UInt64.size then gather next ds else (acc, d :: ds)

/-- A power of ten, as near as a floating-point number gets. -/
def powerOfTen (n : Nat) : Float := Float.ofScientific 1 false n

/-- A number divided by `10 ^ n`, in steps of at most `10 ^ 308`. -/
def shrink (x : Float) (n : Nat) : Float :=
  if n ≤ 308 then x / powerOfTen n
  else if x == 0 then x
  else shrink (x / powerOfTen 308) (n - 308)
termination_by n

/-- A number times `10 ^ e`. There is none where that is too great for a floating-point number. -/
def scale? (x : Float) (e : Int) : Option Float :=
  if e < 0 then some (shrink x e.natAbs)
  else if e.natAbs ≤ 308 then
    let y := x * powerOfTen e.natAbs
    if y.isInf then none else some y
  else if x == 0 then some x
  else none

/-- The magnitude of a numeral as a floating-point number: as many digits as fit in 64 bits, scaled
    by a power of ten. An exponent that does not fit in 32 bits makes zero or is refused. -/
def float? (n : Numeral) : Option Float :=
  let (acc, more) := gather 0 n.whole
  let fraction := n.fraction.getD []
  let (significand, unread) := gather acc fraction
  let place : Int := more.length - (fraction.length - unread.length : Nat)
  let x := (UInt64.ofNat significand).toFloat
  match n.exponent with
  | none => scale? x place
  | some e =>
      let power := Text.natOfDigits 0 e.digits
      if power < Nat.pow 2 31 then scale? x (if e.negative then place - power else place + power)
      else if significand = 0 ∨ e.negative then some 0
      else none

/-- The number that a numeral stands for. A plain integer that fits in 64 bits stays one. -/
def number? (n : Numeral) : Option Number :=
  let float := n.float?.map fun x => Number.float (if n.negative then -x else x)
  match n.int? with
  | some i => if Int64.minValue.toInt ≤ i ∧ i < UInt64.size then some (.int i) else float
  | none => float

/-! ## How a number is written -/

/-- The numeral of an integer. -/
def ofInt (i : Int) : Numeral := { negative := i < 0, whole := Text.natText i.natAbs }

/-- A decimal without the zeros at its end. -/
def trimZeros (ds : List Char) : List Char := (ds.reverse.dropWhile (· == '0')).reverse

/-- The numeral of a decimal: without an exponent from `10 ^ (-5)` on and below `10 ^ 16`, with at
    least one digit behind the point; else with one digit before the point and an exponent. -/
def ofDecimal (negative : Bool) (d : Text.Decimal) : Numeral :=
  let all := Text.natText d.digits
  let ds := trimZeros all
  let point := all.length + d.exponent
  if 0 < point ∧ point ≤ 16 then
    let places := point.toNat
    let fraction := ds.drop places
    { negative
      whole := ds.take places ++ List.replicate (places - ds.length) '0'
      fraction := some (if fraction.isEmpty then ['0'] else fraction) }
  else if -5 < point ∧ point ≤ 0 then
    { negative, whole := ['0'], fraction := some (List.replicate (-point).toNat '0' ++ ds) }
  else
    { negative
      whole := ds.take 1
      fraction := if ds.length ≤ 1 then none else some (ds.drop 1)
      exponent := some ⟨point - 1 < 0, Text.natText (point - 1).natAbs⟩ }

/-- The numeral of a finite floating-point number. -/
def ofFloat (x : Float) : Numeral :=
  let bits := x.toBits
  let negative := Nat.pow 2 63 ≤ bits.toNat
  if x == 0 then { negative, whole := ['0'], fraction := some ['0'] }
  else ofDecimal negative (Text.Dyadic.ofBits bits).shortest

end Numeral

/-- How a number is written. -/
def Number.numeral : Number → Numeral
  | int n => Numeral.ofInt n
  | float x => Numeral.ofFloat x

end ScriptedConsumer.Json
