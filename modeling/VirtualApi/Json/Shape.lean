import VirtualApi.Json.Raw

/-!
# What is expected of a value

A `Shape` says what a reader expects of what is written, in JSON or another notation. Reading by a
shape leaves out what the reader does not know, and gives the JSON value that the readers of records
go on from. In JSON an unknown field is only passed over: what it holds need not stand for anything.
-/

namespace VirtualApi

/-- What is expected of a value. -/
inductive Shape where
  /-- Anything. -/
  | any
  | text
  | bool
  | int
  /-- One of a set of names. -/
  | choice
  /-- What is expected, and a test that its value passes. -/
  | checked (shape : Shape) (test : Json → Bool)
  /-- What is expected, in a wrapping that may count as a level of its own. -/
  | wrapped (shape : Shape)
  /-- Nothing, or what is expected. -/
  | optional (shape : Shape)
  | list (item : Shape)
  | map (value : Shape)
  /-- Named fields, each with its spellings; a field given twice is an error. -/
  | record (fields : List (List String × Shape))
  /-- Named fields; of a field given twice the last counts, and a null field is absent. -/
  | object (fields : List (String × Shape))
deriving Inhabited

namespace Shape

/-- The shape of fields that may be absent or null. -/
def optionalFields (fields : List (String × Shape)) : List (String × Shape) :=
  fields.map fun (name, shape) => (name, .optional shape)

/-- Exactly this text. -/
def exactly (text : String) : Shape := .checked .text (· = .str text)

/-- The shape of a field by one of its spellings. -/
def field? (fields : List (List String × Shape)) (key : String) : Option Shape :=
  (fields.find? fun (spellings, _) => spellings.contains key).map (·.2)

/-- A field is given more than once under its spellings. -/
def repeats (fields : List (List String × Shape)) (keys : List String) : Bool :=
  fields.any fun (spellings, _) => 1 < (keys.filter (spellings.contains ·)).length

/-- Read what is written in JSON; `room` is how many more levels may open. A record may also be
written as an array of its fields in their order, and a choice as an object that maps it to null. -/
def ofRaw? : Nat → Shape → RawJson → Option Json
  | room, .any, raw => raw.value? room
  | _, .text, .str s => s.map .str
  | _, .bool, .bool b => some (.bool b)
  | _, .int, .num (some (.int n)) => some (.int n)
  | _, .choice, .str s => s.map .str
  | _ + 1, .choice, .obj [(s, .null)] => s.map .str
  | room, .checked shape test, raw => (ofRaw? room shape raw).filter test
  | room, .wrapped shape, raw => ofRaw? room shape raw
  | _, .optional _, .null => some .null
  | room, .optional shape, raw => ofRaw? room shape raw
  | room + 1, .list item, .arr items => (items.mapM (ofRaw? room item)).map .arr
  | room + 1, .map value, .obj given => do
      let fields ← given.mapM fun field => do
        let key ← field.1
        pure (key, ← ofRaw? room value field.2)
      some (.object fields)
  | room + 1, .record fields, .obj given => do
      let read ← given.mapM fun field => do
        let key ← field.1
        match field? fields key with
        | some shape => pure (some (key, ← ofRaw? room shape field.2))
        | none => pure none
      let read := read.filterMap id
      if repeats fields (read.map (·.1)) then none else some (.object read)
  | room + 1, .record fields, .arr items => do
      if fields.length < items.length then none
      let values ← (fields.zip items).mapM fun field => ofRaw? room field.1.2 field.2
      some (.arr values)
  | room + 1, .object fields, .obj given => do
      let read ← given.mapM fun field => do
        let key ← field.1
        match fields.lookup key with
        | some shape => pure (some (key, ← ofRaw? room shape field.2))
        | none => pure none
      some (.object (read.filterMap id))
  | _, _, _ => none
termination_by room shape => (room, sizeOf shape)

/-- Read what is written in a shape, and then go on with the value. -/
def reader {α : Type} (shape : Shape) (read : Json → Option α) : RawReader α := fun room raw =>
  (shape.ofRaw? room raw).bind read

end Shape

end VirtualApi
