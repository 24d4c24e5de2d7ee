import ScriptedConsumer.Json.Codec
import ScriptedConsumer.Proofs.Lexing

set_option autoImplicit false

/-! # Reading what was written

The tokens of a value, wherever a value is due, come to the tree of the value and leave what is open
around it as it was. That is `Tree.Parses`, and it carries the induction: an array or an object
parses because its parts do, on a stack that is deeper by one frame. With the tokens of a compact
text from `Value.Integral.readAll?_render`, every document that is written of integers, texts, lists
and records is read as its form, `Tree.read?_render`; and from its form each of the value types gets
its value back: `value_types_round_trip`. -/

namespace ScriptedConsumer.Json

/-! ## Trees of values -/

namespace Value

mutual

/-- The form of a value's document. -/
def tree : Value → Tree
  | null => .null
  | bool b => .bool b
  | number n => .number n.numeral
  | text s => .text (some s)
  | array items => .array (itemTrees items)
  | object fields => .object (fieldTrees fields)

/-- The forms of the items of an array. -/
def itemTrees : List Value → List Tree
  | [] => []
  | v :: rest => v.tree :: itemTrees rest

/-- The forms of the fields of an object. -/
def fieldTrees : List (String × Value) → List (Option String × Tree)
  | [] => []
  | (name, v) :: rest => (some name, v.tree) :: fieldTrees rest

end

end Value

namespace Tree

open State

/-- Where a value is due, the tokens come to the tree. -/
def Parses (ts : List Token) (t : Tree) : Prop :=
  ∀ place frames, place = .value ∨ place = .item →
    ts.foldlM step (within place frames) = put t frames

theorem parses_leaf {token : Token} {t : Tree} (h : leaf? token = some t) : Parses [token] t := by
  rintro place frames (rfl | rfl) <;> cases token <;> cases h <;>
    simp [step, open?, leaf?]

/-- How parts between brackets are read: which tokens open and close them, what holds them on the
    stack, and where the first part and each further one is due. -/
structure Brackets (β : Type) where
  opening : Token
  closing : Token
  hold : List β → Frame
  whole : List β → Tree
  opened : Place
  again : Place
  opens : ∀ place frames, place = .value ∨ place = .item →
    step (within place frames) opening = some (within opened (hold [] :: frames))
  separates : ∀ parts frames, step (within .next (hold parts :: frames)) .comma =
    some (within again (hold parts :: frames))
  closes : ∀ place parts frames, place = opened ∨ place = .next →
    step (within place (hold parts :: frames)) closing = put (whole parts.reverse) frames

namespace Brackets

/-- The brackets of an array, around its items. -/
def array : Brackets Tree where
  opening := .openArray
  closing := .closeArray
  hold := .array
  whole := .array
  opened := .item
  again := .value
  opens := by rintro place frames (rfl | rfl) <;> rfl
  separates _ _ := rfl
  closes := by rintro place parts frames (rfl | rfl) <;> rfl

/-- The braces of an object, around its fields. -/
def object : Brackets (Option String × Tree) where
  opening := .openObject
  closing := .closeObject
  hold := .object
  whole := .object
  opened := .field
  again := .name
  opens := by rintro place frames (rfl | rfl) <;> rfl
  separates _ _ := rfl
  closes := by rintro place parts frames (rfl | rfl) <;> rfl

variable {β : Type} (b : Brackets β)

/-- Where a part is due, the tokens come to the part. -/
def Adds (ts : List Token) (part : β) : Prop :=
  ∀ place parts frames, place = b.opened ∨ place = b.again →
    ts.foldlM step (within place (b.hold parts :: frames)) =
      some (within .next (b.hold (part :: parts) :: frames))

variable {b}

theorem foldlM_commas {tss : List (List Token)} {added : List β} (h : List.Forall₂ b.Adds tss added)
    (hne : added ≠ []) {place : Place} (hplace : place = b.opened ∨ place = b.again)
    (parts : List β) (frames : List Frame) :
    ([Token.comma].intercalate tss).foldlM step (within place (b.hold parts :: frames)) =
      some (within .next (b.hold (added.reverse ++ parts) :: frames)) := by
  induction h generalizing place parts with
  | nil => exact absurd rfl hne
  | @cons ts part tss rest hfirst hrest ih =>
      cases hrest with
      | nil =>
          rw [List.intercalate_singleton, hfirst place parts frames hplace]
          rfl
      | cons =>
          rw [List.intercalate_cons_cons, List.foldlM_append, List.foldlM_append,
            hfirst place parts frames hplace]
          show
            ([Token.comma].foldlM step (within .next (b.hold (part :: parts) :: frames))).bind _ = _
          rw [List.foldlM_cons, b.separates, Option.bind_eq_bind, Option.bind_some]
          show List.foldlM step (within b.again (b.hold (part :: parts) :: frames)) _ = _
          rw [ih (List.cons_ne_nil _ _) (.inr rfl)]
          simp only [List.reverse_cons, List.append_assoc, List.cons_append, List.nil_append]

/-- Parts with commas between them, in brackets, are a value. -/
theorem parses {tss : List (List Token)} {parts : List β} (h : List.Forall₂ b.Adds tss parts) :
    Parses (b.opening :: ([.comma].intercalate tss ++ [b.closing])) (b.whole parts) := by
  intro place frames hplace
  -- where the closing bracket is read, all the parts are there
  have hparts : ∃ place, (place = b.opened ∨ place = .next) ∧
      ([Token.comma].intercalate tss).foldlM step (within b.opened (b.hold [] :: frames)) =
        some (within place (b.hold parts.reverse :: frames)) := by
    rcases eq_or_ne parts [] with rfl | hne
    · cases h
      exact ⟨b.opened, .inl rfl, rfl⟩
    · have hadded := foldlM_commas h hne (.inl rfl) [] frames
      rw [List.append_nil] at hadded
      exact ⟨.next, .inr rfl, hadded⟩
  obtain ⟨place', hplace', hrun⟩ := hparts
  rw [List.foldlM_cons, b.opens place frames hplace, Option.bind_eq_bind, Option.bind_some,
    List.foldlM_append, hrun, Option.bind_eq_bind, Option.bind_some, List.foldlM_cons,
    b.closes place' _ frames hplace', List.reverse_reverse]
  exact bind_pure _

end Brackets

theorem adds_item {ts : List Token} {item : Tree} (h : Parses ts item) :
    Brackets.array.Adds ts item :=
  fun place _ _ hplace => h place _ hplace.symm

theorem adds_field {ts : List Token} {v : Tree} (name : String) (h : Parses ts v) :
    Brackets.object.Adds (.text name :: .colon :: ts) (some name, v) := by
  rintro place parts frames (rfl | rfl) <;> exact h .value _ (.inl rfl)

/-! ## Documents -/

theorem adds_items {items : List Value} (h : ∀ v ∈ items, Parses v.tokens v.tree) :
    List.Forall₂ Brackets.array.Adds (Value.itemTokens items) (Value.itemTrees items) := by
  induction items with
  | nil => exact .nil
  | cons v rest ih =>
      exact .cons (adds_item (h v (List.mem_cons_self ..)))
        (ih fun v' hv' => h v' (List.mem_cons_of_mem _ hv'))

theorem adds_fields {fields : List (String × Value)}
    (h : ∀ f ∈ fields, Parses f.2.tokens f.2.tree) :
    List.Forall₂ Brackets.object.Adds (Value.fieldTokens fields) (Value.fieldTrees fields) := by
  induction fields with
  | nil => exact .nil
  | cons f rest ih =>
      exact .cons (adds_field f.1 (h f (List.mem_cons_self ..)))
        (ih fun f' hf' => h f' (List.mem_cons_of_mem _ hf'))

theorem parses_value {v : Value} (h : v.Integral) : Parses v.tokens v.tree := by
  induction h with
  | null | bool | int | text => exact parses_leaf rfl
  | array h ih => exact Brackets.array.parses (adds_items ih)
  | object h ih => exact Brackets.object.parses (adds_fields ih)

/-- **A value that was written is read in its form**, if all its numbers are integers. -/
theorem read?_render {v : Value} (h : v.Integral) :
    read? (Source.ofString v.render) = some v.tree := by
  rw [read?, h.readAll?_render, Option.bind_some, ofTokens?, State.start,
    parses_value h .value [] (.inl rfl)]
  rfl

/-! ## Numbers of a fixed size -/

theorem int?_ofInt (i : Int) : (Tree.number (.ofInt i)).int? = some i := by
  show Numeral.int? (.ofInt i) = some i
  unfold Numeral.int? Numeral.ofInt
  simp only [and_self, if_true, Text.natOfDigits_natText, decide_eq_true_eq]
  split
  · rw [if_neg (by omega)]
    congr 1
    omega
  · congr 1
    omega

theorem int32?_ofInt (x : Int32) : (Tree.number (.ofInt x.toInt)).int32? = some x := by
  rw [int32?, int?_ofInt, Option.bind_eq_bind, Option.bind_some,
    if_pos ⟨x.minValue_le_toInt, x.toInt_le⟩, Int32.ofInt_toInt]

theorem int64?_ofInt (x : Int64) : (Tree.number (.ofInt x.toInt)).int64? = some x := by
  rw [int64?, int?_ofInt, Option.bind_eq_bind, Option.bind_some,
    if_pos ⟨x.minValue_le_toInt, x.toInt_le⟩, Int64.ofInt_toInt]

theorem list?_int32 (xs : List Int32) :
    (Value.list (.int ·.toInt) xs).tree.list? Tree.int32? = some xs := by
  show (Value.itemTrees (xs.map (Value.int ·.toInt))).mapM Tree.int32? = some xs
  induction xs with
  | nil => rfl
  | cons x rest ih =>
      rw [List.map_cons, Value.itemTrees, List.mapM_cons, ih]
      show ((Tree.number (.ofInt x.toInt)).int32? >>= _) = _
      rw [int32?_ofInt]
      rfl

end Tree

/-! ## The value types -/

namespace Value

@[simp]
theorem integral_int (n : Int) : (Value.int n).Integral := .int n

@[simp]
theorem integral_text (s : String) : (Value.text s).Integral := .text s

@[simp]
theorem integral_list_int32 (xs : List Int32) : (Value.list (.int ·.toInt) xs).Integral := by
  refine .array fun v hv => ?_
  obtain ⟨x, -, rfl⟩ := List.mem_map.1 hv
  exact .int x.toInt

end Value

/-- What is read back from its form is read back from its document. -/
theorem read?_render_of_ofTree? {α : Type} [Codec α] {a : α} {v : Value} (h : v.Integral)
    (ha : Codec.ofTree? v.tree = some a) : read? α (Source.ofString v.render) = some a := by
  rw [read?, Tree.read?_render h, Option.bind_some, ha]

theorem read?_write_partition (p : Partition) :
    read? Partition (Source.ofString (write p)) = some p := by
  refine read?_render_of_ofTree? (.object (by simp)) ?_
  show ((Tree.number (.ofInt p.index.toInt)).int32?.bind fun index => some ⟨p.topic, index⟩) =
    some p
  rw [Tree.int32?_ofInt, Option.bind_some]

theorem read?_write_commit (c : Commit) : read? Commit (Source.ofString (write c)) = some c := by
  refine read?_render_of_ofTree? (.object (by simp)) ?_
  show ((Tree.number (.ofInt c.offset.toInt)).int64?.bind fun offset => some ⟨offset, c.metadata⟩) =
    some c
  rw [Tree.int64?_ofInt, Option.bind_some]

/-- Of a commit the metadata may be left out of the document. -/
theorem read?_offset (n : Int64) :
    read? Commit (Source.ofString (Value.object [("offset", .int n.toInt)]).render) =
      some (.ofOffset n) := by
  refine read?_render_of_ofTree? (.object (by simp)) ?_
  show ((Tree.number (.ofInt n.toInt)).int64?.bind fun offset => some (Commit.ofOffset offset)) = _
  rw [Tree.int64?_ofInt, Option.bind_some]

theorem leader?_tree (leader : Option Int32) :
    leader? (match leader with
      | some broker => Value.int broker.toInt
      | none => .null).tree = some leader := by
  cases leader with
  | none => rfl
  | some broker =>
      show (Tree.number (.ofInt broker.toInt)).int32?.map some = _
      rw [Tree.int32?_ofInt, Option.map_some]

theorem read?_write_placement (p : Placement) :
    read? Placement (Source.ofString (write p)) = some p := by
  refine read?_render_of_ofTree? (.object ?_) ?_
  · cases hleader : p.leader <;> simp [Value.Integral.null]
  · show ((Tree.number (.ofInt p.index.toInt)).int32?.bind fun index =>
      (leader? (match p.leader with
        | some broker => Value.int broker.toInt
        | none => .null).tree).bind fun leader =>
      ((Value.list (.int ·.toInt) p.replicas).tree.list? Tree.int32?).bind fun replicas =>
      ((Value.list (.int ·.toInt) p.inSync).tree.list? Tree.int32?).bind fun inSync =>
        some ⟨p.topic, index, leader, replicas, inSync⟩) = some p
    rw [Tree.int32?_ofInt, leader?_tree, Tree.list?_int32, Tree.list?_int32]
    rfl

theorem read?_write_resetPolicy (policy : ResetPolicy) :
    read? ResetPolicy (Source.ofString (write policy)) = some policy := by
  refine read?_render_of_ofTree? (.text _) ?_
  cases policy <;> rfl

/-- **The value types are read back as they were written**, whatever texts, integers and lists they
    are made of; and a document of a single offset is read as the commit of that offset without
    metadata. -/
theorem value_types_round_trip :
    (∀ p : Partition, read? Partition (Source.ofString (write p)) = some p) ∧
      (∀ c : Commit, read? Commit (Source.ofString (write c)) = some c) ∧
      (∀ p : Placement, read? Placement (Source.ofString (write p)) = some p) ∧
      (∀ policy : ResetPolicy,
        read? ResetPolicy (Source.ofString (write policy)) = some policy) ∧
      ∀ n : Int64, read? Commit (Source.ofString
        (Value.object [("offset", .int n.toInt)]).render) = some (.ofOffset n) :=
  ⟨read?_write_partition, read?_write_commit, read?_write_placement, read?_write_resetPolicy,
    read?_offset⟩

example : write (⟨"a\"b", -1⟩ : Partition) =
    "\x7b\"topic\":\"a\\\"b\",\"partition\":-1\x7d" := by decide +kernel

end ScriptedConsumer.Json
