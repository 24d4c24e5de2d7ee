import ScriptedConsumer.Json.Tree

set_option autoImplicit false

/-! # Values

What a document says, and its compact text: no blanks, and the fields of an object in the order in
which they are held. A value read from a document holds the fields of an object by name, each name
once. -/

namespace ScriptedConsumer.Json

/-- What a document says. -/
inductive Value
  | null
  | bool (b : Bool)
  | number (n : Number)
  | text (s : String)
  | array (items : List Value)
  | object (fields : List (String × Value))
deriving Repr

namespace Value

/-- The value of an integer. -/
def int (n : Int) : Value := number (.int n)

/-- The value of a list. -/
def list {α : Type} (item : α → Value) (xs : List α) : Value := array (xs.map item)

/-! ## Writing -/

/-- Texts with commas between them. -/
def commas (texts : List (List Char)) : List Char := [','].intercalate texts

mutual

/-- The compact text of a value. -/
def chars : Value → List Char
  | null => ['n', 'u', 'l', 'l']
  | bool true => ['t', 'r', 'u', 'e']
  | bool false => ['f', 'a', 'l', 's', 'e']
  | number n => n.numeral.text
  | text s => quote s.toList
  | array items => '[' :: (commas (itemChars items) ++ [']'])
  | object fields => '{' :: (commas (fieldChars fields) ++ ['\x7d'])

/-- The compact texts of the items of an array. -/
def itemChars : List Value → List (List Char)
  | [] => []
  | v :: rest => v.chars :: itemChars rest

/-- The compact texts of the fields of an object. -/
def fieldChars : List (String × Value) → List (List Char)
  | [] => []
  | (name, v) :: rest => (quote name.toList ++ ':' :: v.chars) :: fieldChars rest

end

/-- The compact text of a value, as a string. -/
def render (v : Value) : String := String.ofList v.chars

/-! ## Reading -/

/-- Fields by name, and one more, unless there is one of that name. -/
def insertNew (name : String) (v : Value) : List (String × Value) → List (String × Value)
  | [] => [(name, v)]
  | (name', v') :: rest =>
      match compare name name' with
      | .lt => (name, v) :: (name', v') :: rest
      | .eq => (name', v') :: rest
      | .gt => (name', v') :: insertNew name v rest

mutual

/-- What a tree says, if it is nested no deeper than `depth`. Of several fields of one name the
    last one counts. -/
def ofTree? (depth : Nat) : Tree → Option Value
  | .null => some null
  | .bool b => some (bool b)
  | .number n => n.number?.map number
  | .text s => s.map text
  | .array items =>
      if depth = 0 then none else (ofTrees? (depth - 1) items).map array
  | .object fields =>
      if depth = 0 then none else (ofFields? (depth - 1) fields).map object

/-- What the items of an array say. -/
def ofTrees? (depth : Nat) : List Tree → Option (List Value)
  | [] => some []
  | t :: rest => do
      let v ← ofTree? depth t
      let vs ← ofTrees? depth rest
      return v :: vs

/-- What the fields of an object say, by name. -/
def ofFields? (depth : Nat) : List (Option String × Tree) → Option (List (String × Value))
  | [] => some []
  | (name, t) :: rest => do
      let name ← name
      let v ← ofTree? depth t
      let fields ← ofFields? depth rest
      return insertNew name v fields

end

end Value

end ScriptedConsumer.Json
