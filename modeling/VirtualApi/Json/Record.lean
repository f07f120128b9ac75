import VirtualApi.Json.Basic

/-!
# Records in JSON

A record is written as an object of its fields, or as an array of them in declaration order. A
field may have further spellings; a field given twice makes the record unreadable, and unknown
fields are ignored. The readers return `none` for a value of the wrong form; `null` stands for an
absent value only where the field is optional.
-/

namespace VirtualApi.Json

/-- The fields of a record that were given, under their first spelling. -/
structure Record where
  given : List (String × Json)

namespace Record

/-- The value given for a field under any of its spellings. Two values are an error. -/
def pick? (entries : List (String × Json)) (spellings : List String) :
    Option (Option (String × Json)) :=
  match entries.filter fun (k, _) => k ∈ spellings with
  | [] => some none
  | [(_, v)] => some (some (spellings.headD "", v))
  | _ => none

/-- Read a value as a record whose fields have these spellings, in declaration order. -/
def ofJson? (fields : List (List String)) : Json → Option Record
  | .obj entries => (fields.mapM (pick? entries)).map fun given => ⟨given.filterMap id⟩
  | .arr items =>
      if items.length ≤ fields.length
      then some ⟨(fields.map fun spellings => spellings.headD "").zip items⟩
      else none
  | _ => none

/-- Read a value as a record whose fields have one spelling each. -/
def named? (fields : List String) (value : Json) : Option Record :=
  ofJson? (fields.map ([·])) value

variable {α : Type}

/-- The value given for a field. -/
def get? (record : Record) (field : String) : Option Json := Entries.get? field record.given

/-- A field that has to be given. -/
def required (record : Record) (field : String) (read : Json → Option α) : Option α :=
  (record.get? field).bind read

/-- A field that stands for a default value when it is not given. -/
def withDefault (record : Record) (field : String) (default : α) (read : Json → Option α) :
    Option α :=
  match record.get? field with
  | none => some default
  | some v => read v

/-- A field that may be absent or null. -/
def optional (record : Record) (field : String) (read : Json → Option α) : Option (Option α) :=
  match record.get? field with
  | none => some none
  | some .null => some none
  | some v => (read v).map some

end Record

variable {α : Type}

/-- Read every item of an array. -/
def list? (read : Json → Option α) : Json → Option (List α)
  | .arr items => items.mapM read
  | _ => none

/-- Read every value of an object. -/
def map? (read : Json → Option α) : Json → Option (Entries α)
  | .obj fields => fields.mapM fun (k, v) => (read v).map fun a => (k, a)
  | _ => none

/-- Read a list of texts. -/
def texts? : Json → Option (List String) := list? str?

/-- Read a map of texts. -/
def textMap? : Json → Option (Entries String) := map? str?

/-- Read an integer between two bounds. -/
def intBetween? (low high : Int) : Json → Option Int
  | .num (.int n) => if low ≤ n ∧ n ≤ high then some n else none
  | _ => none

/-- Read an integer of the signed 32-bit range. -/
def int32? : Json → Option Int := intBetween? (-(2 ^ 31)) (2 ^ 31 - 1)

/-- Read a natural number below `2 ^ 64`. -/
def uint64? (value : Json) : Option Nat := (intBetween? 0 (2 ^ 64 - 1) value).map Int.toNat

/-- Read a natural number below `2 ^ 16`. -/
def uint16? (value : Json) : Option Nat := (intBetween? 0 (2 ^ 16 - 1) value).map Int.toNat

/-- Read one of a set of names: a text, or an object that maps the name to null. -/
def variant? (names : List (String × α)) : Json → Option α
  | .str s => names.lookup s
  | .obj [(s, .null)] => names.lookup s
  | _ => none

/-- A field that is written only when it has a value. -/
def field? (name : String) (write : α → Json) : Option α → List (String × Json)
  | none => []
  | some a => [(name, write a)]

/-- A text field that is written only when it is not empty. -/
def textField? (name : String) (text : String) : List (String × Json) :=
  if text = "" then [] else [(name, .str text)]

/-- A list field that is written only when it is not empty. -/
def listField? (name : String) (write : α → Json) (items : List α) : List (String × Json) :=
  if items.isEmpty then [] else [(name, .arr (items.map write))]

end VirtualApi.Json
