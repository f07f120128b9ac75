import VirtualApi.Object.Schema

/-!
# Object metadata

The metadata of an object: the fields this library works with have types of their own, every other
field of the schema is kept in its written form.
-/

namespace VirtualApi

/-- The metadata of an object. -/
structure ObjectMeta where
  name : Option String := none
  namespaceName : Option String := none
  uid : Option String := none
  labels : Option (Entries String) := none
  annotations : Option (Entries String) := none
  creationTimestamp : Option Timestamp := none
  /-- The other fields, in their written form. -/
  other : Entries Json := []
deriving DecidableEq, Repr, Inhabited

namespace ObjectMeta

/-- An owner of an object. -/
def ownerReference : Schema :=
  .record (Schema.alwaysFields
    [("apiVersion", .text), ("kind", .text), ("name", .text), ("uid", .text)] ++
    Schema.optionalFields [("blockOwnerDeletion", .bool), ("controller", .bool)])

/-- A record of which fields an agent manages. -/
def managedFields : Schema :=
  .record (Schema.optionalFields [("apiVersion", .text), ("fieldsType", .text), ("fieldsV1", .any),
    ("manager", .text), ("operation", .text), ("subresource", .text), ("time", .time)])

/-- The fields that have no type of their own. -/
def otherFields : List (String × Bool × Schema) :=
  Schema.optionalFields [("deletionGracePeriodSeconds", .int64), ("deletionTimestamp", .time),
    ("finalizers", .list .text), ("generateName", .text), ("generation", .int64),
    ("managedFields", .list managedFields), ("ownerReferences", .list ownerReference),
    ("resourceVersion", .text), ("selfLink", .text)]

/-- Read a time. -/
def time? (value : Json) : Option Timestamp := value.str?.bind Timestamp.parseRelaxed?

/-- Read metadata from an object. -/
def ofJson? (value : Json) : Option ObjectMeta :=
  match value with
  | .obj given => do
      let record : Json.Record := ⟨given⟩
      pure {
        name := ← record.optional "name" Json.str?
        namespaceName := ← record.optional "namespace" Json.str?
        uid := ← record.optional "uid" Json.str?
        labels := ← record.optional "labels" Json.textMap?
        annotations := ← record.optional "annotations" Json.textMap?
        creationTimestamp := ← record.optional "creationTimestamp" time?
        other := ← Schema.readFields? given otherFields }
  | _ => none

/-- What is expected of metadata. -/
def shape : Shape :=
  .object (Shape.optionalFields [("name", .text), ("namespace", .text), ("uid", .text),
    ("labels", .map .text), ("annotations", .map .text),
    ("creationTimestamp", Schema.time.shape)] ++ Schema.fieldShapes otherFields)

/-- Metadata as an object. -/
def toJson (metadata : ObjectMeta) : Json :=
  .object (metadata.other ++
    Json.field? "name" .str metadata.name ++
    Json.field? "namespace" .str metadata.namespaceName ++
    Json.field? "uid" .str metadata.uid ++
    Json.field? "labels" Json.textMap metadata.labels ++
    Json.field? "annotations" Json.textMap metadata.annotations ++
    Json.field? "creationTimestamp" (fun t => .str t.text) metadata.creationTimestamp)

end ObjectMeta

end VirtualApi
