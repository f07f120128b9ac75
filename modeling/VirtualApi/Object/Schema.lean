import VirtualApi.Json.Record
import VirtualApi.Json.Shape
import VirtualApi.Time.Timestamp

/-!
# Schemas of object fields

A schema says what a field of a host object may hold. `Schema.read?` checks a value against it and
gives the value in its written form: unknown and null fields are left out, fields that are always
written take their default, and times are brought to UTC.
-/

namespace VirtualApi

/-- The form of a value. -/
inductive Schema where
  | any
  | text
  | bool
  | int32
  | int64
  | time
  | intOrText
  | list (item : Schema)
  | map (value : Schema)
  /-- Named fields; a field is either always written or left out when it is absent. -/
  | record (fields : List (String × Bool × Schema))
deriving Repr, Inhabited

namespace Schema

/-- A record whose fields may all be absent. -/
def optionalFields (fields : List (String × Schema)) : List (String × Bool × Schema) :=
  fields.map fun (name, schema) => (name, false, schema)

/-- Fields that are always written. -/
def alwaysFields (fields : List (String × Schema)) : List (String × Bool × Schema) :=
  fields.map fun (name, schema) => (name, true, schema)

mutual

/-- The value an always written field has when it is not given. -/
def default : Schema → Json
  | .any => .null
  | .text => .str ""
  | .bool => .bool false
  | .int32 | .int64 | .intOrText => .int 0
  | .time => .str Timestamp.epoch.text
  | .list _ => .arr []
  | .map _ => .obj []
  | .record fields => .obj (defaultFields fields)

/-- The fields of a record that is not given. -/
def defaultFields : List (String × Bool × Schema) → List (String × Json)
  | [] => []
  | (name, always, schema) :: rest =>
      if always then Entries.set name schema.default (defaultFields rest) else defaultFields rest

end

mutual

/-- The written form of a value, when it fits the schema. -/
def read? : Schema → Json → Option Json
  | .any, v => some v
  | .text, .str s => some (.str s)
  | .bool, .bool b => some (.bool b)
  | .int32, v => (Json.int32? v).map .int
  | .int64, v => (Json.intBetween? (-(2 ^ 63)) (2 ^ 63 - 1) v).map .int
  | .time, .str s => (Timestamp.parseRelaxed? s).map fun t => .str t.text
  | .intOrText, .str s => some (.str s)
  | .intOrText, v => (Json.int32? v).map .int
  | .list item, .arr items => (items.mapM (read? item)).map .arr
  | .map value, .obj entries =>
      (entries.mapM fun entry => (read? value entry.2).map fun w => (entry.1, w)).map .obj
  | .record fields, .obj entries => (readFields? entries fields).map .obj
  | _, _ => none

/-- The written form of the fields of a record. -/
def readFields? (entries : List (String × Json)) :
    List (String × Bool × Schema) → Option (List (String × Json))
  | [] => some []
  | (name, always, schema) :: rest =>
      match readFields? entries rest with
      | none => none
      | some written =>
          match Entries.get? name entries with
          | none | some .null =>
              some (if always then Entries.set name schema.default written else written)
          | some v => (schema.read? v).map fun w => Entries.set name w written

end

/-- The value is the text of a time. -/
def isTime (value : Json) : Bool := (value.str?.bind Timestamp.parseRelaxed?).isSome

mutual

/-- What a schema expects of a value. -/
def shape : Schema → Shape
  | .any => .wrapped .any
  | .intOrText => .checked .any fun v => (Schema.intOrText.read? v).isSome
  | .text => .text
  | .time => .checked .text isTime
  | .bool => .bool
  | .int32 => .checked .int fun v => (Schema.int32.read? v).isSome
  | .int64 => .checked .int fun v => (Schema.int64.read? v).isSome
  | .list item => .list item.shape
  | .map value => .map value.shape
  | .record fields => .object (fieldShapes fields)

/-- What the fields of a record are expected to be; every one may be absent or null. -/
def fieldShapes : List (String × Bool × Schema) → List (String × Shape)
  | [] => []
  | (name, _, schema) :: rest => (name, .optional schema.shape) :: fieldShapes rest

end

end Schema

end VirtualApi
