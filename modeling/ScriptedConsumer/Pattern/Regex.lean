import ScriptedConsumer.Pattern.Look

set_option autoImplicit false

/-! # Regular expressions

The meaning of a pattern: which stretches of a text it spans. `Regex.Spans` says it by rules, one
for each form; `Regex.reach` computes it, for many starts at once: the places where the matches
that start at some of the given places may end. -/

namespace ScriptedConsumer.Pattern

/-- A regular expression. The upper bound of a repetition may be absent. -/
inductive Regex
  | empty
  | chars (set : Text.Ranges)
  | look (l : Look)
  | seq (r s : Regex)
  | alt (r s : Regex)
  | repeated (r : Regex) (least : Nat) (most : Option Nat)
  /-- An expression whose match is kept apart; it matches the same stretches. -/
  | group (r : Regex)
deriving DecidableEq, Repr, Inhabited

namespace Regex

/-! ## Meaning -/

/-- A chain of `n` stretches, each of which stands in the given relation. -/
inductive Chain (span : Nat → Nat → Prop) : Nat → Nat → Nat → Prop
  | none (i : Nat) : Chain span 0 i i
  | more {n i j k : Nat} : span i j → Chain span n j k → Chain span (n + 1) i k

/-- The stretches of a text, from one place to another, that a regular expression matches. -/
def Spans (text : Array Char) : Regex → Nat → Nat → Prop
  | .empty, i, j => i = j
  | .chars set, i, j => j = i + 1 ∧ ∃ c, text[i]? = some c ∧ set.covers c = true
  | .look l, i, j => i = j ∧ l.holds text i = true
  | .seq r s, i, k => ∃ j, Spans text r i j ∧ Spans text s j k
  | .alt r s, i, j => Spans text r i j ∨ Spans text s i j
  | .repeated r least most, i, j =>
      ∃ n, least ≤ n ∧ (∀ m, most = some m → n ≤ m) ∧ Chain (Spans text r) n i j
  | .group r, i, j => Spans text r i j

/-! ## Sets of places

A set of places is a list without repetitions, latest place first. -/

/-- The places of either set. -/
def join : List Nat → List Nat → List Nat
  | [], ys => ys
  | x :: xs, ys =>
      ys.takeWhile (x < ·) ++ x :: join xs ((ys.dropWhile (x < ·)).dropWhile (· == x))

/-- The places of the first set that are not in the second. -/
def without : List Nat → List Nat → List Nat
  | [], _ => []
  | x :: xs, ys =>
      let rest := ys.dropWhile (x < ·)
      if rest.head? = some x then without xs rest else x :: without xs rest

theorem mem_join {x : Nat} {xs ys : List Nat} : x ∈ join xs ys ↔ x ∈ xs ∨ x ∈ ys := by
  induction xs generalizing ys with
  | nil => simp [join]
  | cons y xs ih =>
      have hys : x ∈ ys ↔ x ∈ ys.takeWhile (y < ·) ∨ x ∈ ys.dropWhile (y < ·) := by
        rw [← List.mem_append, List.takeWhile_append_dropWhile]
      have hrest : x ∈ ys.dropWhile (y < ·) ↔
          x ∈ (ys.dropWhile (y < ·)).takeWhile (· == y)
            ∨ x ∈ (ys.dropWhile (y < ·)).dropWhile (· == y) := by
        rw [← List.mem_append, List.takeWhile_append_dropWhile]
      have heq : x ∈ (ys.dropWhile (y < ·)).takeWhile (· == y) → x = y := fun h =>
        eq_of_beq (List.all_eq_true.1 (List.all_takeWhile (p := (· == y))) x h)
      rw [join, List.mem_append, List.mem_cons, ih, List.mem_cons, hys, hrest]
      grind

theorem mem_without {x : Nat} {xs ys : List Nat} (hxs : xs.Pairwise (· > ·))
    (hys : ys.Pairwise (· > ·)) : x ∈ without xs ys ↔ x ∈ xs ∧ x ∉ ys := by
  induction xs generalizing ys with
  | nil => simp [without]
  | cons y xs ih =>
      obtain ⟨hy, hxs⟩ := List.pairwise_cons.1 hxs
      have hrest : (ys.dropWhile (y < ·)).Pairwise (· > ·) :=
        hys.sublist (List.dropWhile_sublist _)
      have hsplit : x ∈ ys ↔ x ∈ ys.takeWhile (y < ·) ∨ x ∈ ys.dropWhile (y < ·) := by
        rw [← List.mem_append, List.takeWhile_append_dropWhile]
      have htake : x ∈ ys.takeWhile (y < ·) → y < x := fun h =>
        of_decide_eq_true (List.all_eq_true.1 (List.all_takeWhile (p := (y < ·))) x h)
      have hle : x ∈ xs → x < y := fun h => hy x h
      rw [without]
      cases hd : ys.dropWhile (y < ·) with
      | nil =>
          rw [hd] at hsplit hrest
          simp only [List.head?_nil, reduceCtorEq, if_false, List.mem_cons, ih hxs hrest]
          grind
      | cons z rest =>
          have hz : ¬y < z := by
            have := List.head?_dropWhile_not (y < ·) ys
            rw [hd] at this
            simpa using this
          rw [hd] at hsplit hrest
          have hlt : x ∈ rest → x < z := fun h => (List.pairwise_cons.1 hrest).1 x h
          simp only [List.head?_cons, Option.some.injEq]
          split <;> simp only [List.mem_cons, ih hxs hrest] <;> grind

/-- Applies a function a number of times. -/
def iterate {α : Type} (f : α → α) : Nat → α → α
  | 0, x => x
  | n + 1, x => iterate f n (f x)

/-- Adds to some places those that one to the given number of steps lead to from the latest of the
    places seen so far. A place that has been seen is not stepped from again. -/
def within (step : List Nat → List Nat) : Nat → List Nat → List Nat → List Nat → List Nat
  | 0, reached, _, _ => reached
  | n + 1, reached, seen, latest =>
      let next := step latest
      let fresh := without next seen
      let reached := join next reached
      if fresh.isEmpty then reached else within step n reached (join fresh seen) fresh

/-! ## Matching -/

/-- The places where a match that starts at one of the given places may end. A chain that is longer
    than the text has places comes back to one of them, so no more rounds than that are needed. -/
def reach (text : Array Char) : Regex → List Nat → List Nat
  | .empty, places => places
  | .chars set, places => places.filterMap fun i =>
      match text[i]? with
      | some c => if set.covers c then some (i + 1) else none
      | none => none
  | .look l, places => places.filter fun i => l.holds text i
  | .seq r s, places => reach text s (reach text r places)
  | .alt r s, places => join (reach text r places) (reach text s places)
  | .repeated r least most, places =>
      let rounds := text.size + 1
      match least with
      | 0 => within (reach text r) (min (most.getD rounds) rounds) places places places
      | n + 1 =>
          let starts := iterate (reach text r) (min n rounds) places
          within (reach text r) (min (most.getD (n + rounds) - n) rounds) [] starts starts
  | .group r, places => reach text r places

/-- Whether some stretch of the text matches. -/
def isMatch (r : Regex) (text : Array Char) : Bool :=
  !(reach text r (List.range (text.size + 1)).reverse).isEmpty

/-! ## Building -/

/-- A sequence of regular expressions. -/
def seqAll : List Regex → Regex
  | [] => .empty
  | [r] => r
  | r :: rest => .seq r (seqAll rest)

/-- The alternatives of regular expressions. -/
def altAll : List Regex → Regex
  | [] => .empty
  | [r] => r
  | r :: rest => .alt r (altAll rest)

end Regex

end ScriptedConsumer.Pattern
