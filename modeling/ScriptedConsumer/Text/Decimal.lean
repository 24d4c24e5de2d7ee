set_option autoImplicit false

/-! # Digits and numerals

Writing natural numbers and integers in decimal, and reading a run of digits. Reading what was
written gives the number back: `natOfDigits_natText`. -/

namespace ScriptedConsumer.Text

/-- The decimal digits of a number, without leading zeros. -/
def natText (n : Nat) : List Char := Nat.toDigits 10 n

/-- The decimal form of an integer: a minus sign if it is negative, and its digits. -/
def intText (i : Int) : List Char :=
  if i < 0 then '-' :: natText i.natAbs else natText i.natAbs

/-- The decimal form of an integer, as a string. -/
def intString (i : Int) : String := String.ofList (intText i)

/-- Whether a character is one of the ten ASCII digits. -/
def isDigit (c : Char) : Bool := 48 ≤ c.toNat && c.toNat ≤ 57

/-- The value of an ASCII digit. -/
def digitValue (c : Char) : Nat := c.toNat - 48

/-- The value of a hexadecimal digit, in either case. -/
def hexValue? (c : Char) : Option Nat :=
  if isDigit c then some (digitValue c)
  else if 'a' ≤ c && c ≤ 'f' then some (c.toNat - 87)
  else if 'A' ≤ c && c ≤ 'F' then some (c.toNat - 55)
  else none

/-- The number that a run of digits stands for, read on from `acc`. -/
def natOfDigits (acc : Nat) (cs : List Char) : Nat :=
  cs.foldl (fun n c => 10 * n + digitValue c) acc

/-- The number that a text of one or more digits, and nothing else, stands for. -/
def readNat? (cs : List Char) : Option Nat :=
  if cs ≠ [] ∧ cs.all isDigit then some (natOfDigits 0 cs) else none

/-! ## Reading what was written -/

theorem digitChar_spec {d : Nat} (h : d < 10) :
    isDigit d.digitChar = true ∧ digitValue d.digitChar = d := by
  have : ∀ d : Fin 10, isDigit d.val.digitChar = true ∧ digitValue d.val.digitChar = d.val := by
    decide
  exact this ⟨d, h⟩

theorem hexValue?_digitChar {d : Nat} (h : d < 16) : hexValue? d.digitChar = some d := by
  have all : ∀ d : Fin 16, hexValue? d.val.digitChar = some d.val := by decide
  exact all ⟨d, h⟩

theorem natText_eq (n : Nat) :
    natText n = if n < 10 then [n.digitChar] else natText (n / 10) ++ [(n % 10).digitChar] :=
  Nat.toDigits_eq_if (by decide)

theorem natText_ne_nil (n : Nat) : natText n ≠ [] := by
  rw [natText_eq]
  split <;> simp

theorem all_isDigit_natText (n : Nat) : (natText n).all isDigit = true := by
  induction n using Nat.strongRecOn with
  | ind n ih =>
      rw [natText_eq]
      split
      · next h => simp [(digitChar_spec h).1]
      · next h =>
        have hd := (digitChar_spec (Nat.mod_lt n (y := 10) (by decide))).1
        simp [ih (n / 10) (Nat.div_lt_self (by omega) (by decide)), hd]

theorem natOfDigits_natText (n : Nat) : natOfDigits 0 (natText n) = n := by
  induction n using Nat.strongRecOn with
  | ind n ih =>
      rw [natText_eq]
      split
      · next h => simp [natOfDigits, (digitChar_spec h).2]
      · next h =>
        have hd := (digitChar_spec (Nat.mod_lt n (y := 10) (by decide))).2
        have hq := ih (n / 10) (Nat.div_lt_self (by omega) (by decide))
        simp only [natOfDigits] at hq
        simp only [natOfDigits, List.foldl_append, hq, List.foldl_cons, List.foldl_nil, hd]
        omega

end ScriptedConsumer.Text
