import VirtualApi.Object.Meta

/-!
# Objects of any kind

An object of any kind has metadata and names its kind, or does not; all other fields are free. A
list of objects has metadata of its own.
-/

namespace VirtualApi.Dynamic

/-- The fields of an object as they are written. -/
def fields? : RawJson → Option (List (String × RawJson))
  | .obj fields => fields.mapM fun field => field.1.map fun key => (key, field.2)
  | _ => none

/-- The field of a name, which may not be given twice. -/
def single? (name : String) (fields : List (String × RawJson)) : Option (Option RawJson) :=
  match fields.filter (·.1 = name) with
  | [] => some none
  | [(_, raw)] => some (some raw)
  | _ => none

/-- The values of the fields other than these. -/
def others? (names : List String) (room : Nat) (fields : List (String × RawJson)) :
    Option (List (String × Json)) :=
  (fields.filter (!names.contains ·.1)).mapM fun (key, raw) => do
    pure (key, ← raw.value? room)

/-- A field that names the kind of an object. -/
def isTypeField (key : String) : Bool := key = "apiVersion" || key = "kind"

/-- Take the fields that name the kind, in the order they are written; the other fields come with
them. At one that is no text or is given again they are given up, and those that follow are fields
like others. -/
def takeTypes (taken : List (String × Json)) :
    List (String × Json) → List (String × Json) × List (String × Json)
  | [] => (taken, [])
  | (key, value) :: rest =>
      if isTypeField key then
        if value.str?.isNone || taken.any (·.1 = key) then ([], rest)
        else takeTypes ((key, value) :: taken) rest
      else
        let (types, others) := takeTypes taken rest
        (types, (key, value) :: others)

/-- Read an object of any kind: its metadata is brought to its written form, and it names its kind
in full or not at all. -/
def object? : RawReader Json
  | 0, _ => none
  | room + 1, raw => do
      let given ← fields? raw
      let metadata ← match ← single? "metadata" given with
        | some raw => ObjectMeta.shape.reader ObjectMeta.ofJson? room raw
        | none => some {}
      let (types, others) := takeTypes [] (← others? ["metadata"] room given)
      let types := if types.length = 2 then types else []
      some (.object (others ++ types ++ [("metadata", metadata.toJson)]))

/-- The fields of the metadata of a list. -/
def listMeta : Schema :=
  .record (Schema.optionalFields [("continue", .text), ("remainingItemCount", .int64),
    ("resourceVersion", .text), ("selfLink", .text)])

/-- Read the items of a list, which has to have metadata; null stands for no items. -/
def items? {α : Type} (read : RawReader α) : RawReader (List α)
  | 0, _ => none
  | room + 1, raw => do
      let given ← fields? raw
      let _ ← listMeta.shape.ofRaw? room (← ← single? "metadata" given)
      let _ ← others? ["metadata", "items"] room given
      match room, ← ← single? "items" given with
      | _, .null => some []
      | room + 1, .arr items => items.mapM (read room)
      | _, _ => none

/-- An object without the record of who manages its fields. -/
def stripManagedFields (value : Json) : Json :=
  match value.get? "metadata" with
  | some (.obj metadata) => value.set "metadata" (.obj (Entries.erase "managedFields" metadata))
  | _ => value

end VirtualApi.Dynamic
