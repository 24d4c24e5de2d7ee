import ScriptedConsumer.Json.Token

set_option autoImplicit false

/-! # Syntax trees

A document by its form alone: numerals and texts as they are written, the fields of an object in
their order and with all repetitions. A tree is made token by token. What has been read is kept as
a stack of open arrays and objects, and `Place` says what may come next; so a value within others
is read as it would be alone, only on a deeper stack, and nesting has no limit here. -/

namespace ScriptedConsumer.Json

/-- The form of a document. -/
inductive Tree
  | null
  | bool (b : Bool)
  | number (n : Numeral)
  | text (s : Option String)
  | array (items : List Tree)
  | object (fields : List (Option String × Tree))
deriving Repr

namespace Tree

/-- The tree of a token that is a whole value. -/
def leaf? : Token → Option Tree
  | .null => some .null
  | .bool b => some (.bool b)
  | .number n => some (.number n)
  | .text s => some (.text s)
  | _ => none

/-! ## Reading -/

/-- An open array or object, its finished parts latest first. -/
inductive Frame
  | array (items : List Tree)
  | object (fields : List (Option String × Tree))
  /-- An object in the middle of a field. -/
  | field (fields : List (Option String × Tree)) (name : Option String)

/-- What may come next. -/
inductive Place
  /-- A value must come. -/
  | value
  /-- Behind an opening bracket: a value, or the end of the array. -/
  | item
  /-- Behind a comma in an object: the name of a field. -/
  | name
  /-- Behind an opening brace: the name of a field, or the end of the object. -/
  | field
  /-- Behind the name of a field: a colon. -/
  | colon (name : Option String)
  /-- Behind a value: a comma, or the end of what it stands in. -/
  | next

/-- How far a document has been read. -/
inductive State
  | within (place : Place) (frames : List Frame)
  | done (t : Tree)

namespace State

/-- At the beginning of a document. -/
def start : State := within .value []

/-- A value has been read where one was due. -/
def put (t : Tree) : List Frame → Option State
  | [] => some (done t)
  | .array items :: frames => some (within .next (.array (t :: items) :: frames))
  | .field fields name :: frames => some (within .next (.object ((name, t) :: fields) :: frames))
  | .object _ :: _ => none

/-- The array on top of the stack is at its end. -/
def closeArray : List Frame → Option State
  | .array items :: frames => put (.array items.reverse) frames
  | _ => none

/-- The object on top of the stack is at its end. -/
def closeObject : List Frame → Option State
  | .object fields :: frames => put (.object fields.reverse) frames
  | _ => none

/-- The value of the named field comes next. -/
def openField (name : Option String) : List Frame → Option State
  | .object fields :: frames => some (within .value (.field fields name :: frames))
  | _ => none

/-- Another part of what is on top of the stack comes next. -/
def another : List Frame → Option State
  | .array items :: frames => some (within .value (.array items :: frames))
  | .object fields :: frames => some (within .name (.object fields :: frames))
  | _ => none

/-- A value begins with the token. -/
def open? (frames : List Frame) : Token → Option State
  | .openArray => some (within .item (.array [] :: frames))
  | .openObject => some (within .field (.object [] :: frames))
  | token => do put (← leaf? token) frames

/-- One token on. -/
def step : State → Token → Option State
  | done _, _ => none
  | within place frames, token =>
      match place, token with
      | .item, .closeArray | .next, .closeArray => closeArray frames
      | .field, .closeObject | .next, .closeObject => closeObject frames
      | .field, .text name | .name, .text name => some (within (.colon name) frames)
      | .colon name, .colon => openField name frames
      | .next, .comma => another frames
      | .value, token | .item, token => open? frames token
      | _, _ => none

/-- The tree, at the end of a document. -/
def result? : State → Option Tree
  | done t => some t
  | within _ _ => none

end State

/-- The tree of the tokens of a document. -/
def ofTokens? (tokens : List Token) : Option Tree :=
  (tokens.foldlM State.step State.start).bind State.result?

/-- The tree of a document. -/
def read? (s : Source) : Option Tree := (Token.readAll? s).bind ofTokens?

/-! ## Texts, integers and lists -/

/-- The text that a tree is. -/
def string? : Tree → Option String
  | .text s => s
  | _ => none

/-- The integer that a tree is. -/
def int? : Tree → Option Int
  | .number n => n.int?
  | _ => none

/-- The integer of 32 bits that a tree is. -/
def int32? (t : Tree) : Option Int32 := do
  let i ← t.int?
  if Int32.minValue.toInt ≤ i ∧ i ≤ Int32.maxValue.toInt then some (Int32.ofInt i) else none

/-- The integer of 64 bits that a tree is. -/
def int64? (t : Tree) : Option Int64 := do
  let i ← t.int?
  if Int64.minValue.toInt ≤ i ∧ i ≤ Int64.maxValue.toInt then some (Int64.ofInt i) else none

/-- The list that an array is. -/
def list? {α : Type} (item? : Tree → Option α) : Tree → Option (List α)
  | .array items => items.mapM item?
  | _ => none

/-! ## Fields -/

/-- The one field with the given name: there may be none, but there may not be two. -/
def field? (fields : List (String × Tree)) (name : String) : Option (Option Tree) :=
  match fields.filter (·.1 == name) with
  | [] => some none
  | [(_, t)] => some (some t)
  | _ => none

/-- The named parts of a record, each where there is one. A record is an object, whose fields may
    come in any order and with others among them, or the array of its parts in order, of which
    only the last may be left out. -/
def parts? (names : List String) : Tree → Option (List (Option Tree))
  | .object fields => do
      let fields ← fields.mapM fun (name, t) => name.map (·, t)
      names.mapM (field? fields)
  | .array items =>
      if items.length ≤ names.length then
        some (items.map some ++ List.replicate (names.length - items.length) none)
      else none
  | _ => none

end Tree

end ScriptedConsumer.Json
