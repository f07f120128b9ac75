import VirtualApi.Object.Meta
import VirtualApi.Proofs.Json.Record

/-!
# What metadata says of an object

Metadata keeps its name and its labels in fields of their own, and all fields that have no type
together in their written form. Where these are what was read, they do not stand in for a field
with a type, so that an object with the metadata shows its name and its labels: `object_name_eq`
and `labels_eq`.
-/

namespace VirtualApi

namespace Schema

/-- Only fields of the schema are read. -/
theorem mem_of_read_fields {given : Entries Json} {fields : List (String × Bool × Schema)}
    {written : Entries Json} (h : readFields? given fields = some written)
    {entry : String × Json} (hentry : entry ∈ written) : entry.1 ∈ fields.map (·.1) := by
  induction fields generalizing written with
  | nil =>
      cases h
      cases hentry
  | cons field rest ih =>
      obtain ⟨name, always, schema⟩ := field
      unfold readFields? at h
      split at h
      · cases h
      · next others hothers =>
          -- what is set for the field itself, and what was written for the others
          have hset {value : Json} (hmem : entry ∈ Entries.set name value others) :
              entry.1 ∈ name :: rest.map (·.1) := by
            rcases Entries.mem_set hmem with rfl | hold
            · exact List.mem_cons_self
            · exact List.mem_cons_of_mem _ (ih hothers hold)
          have hother (hmem : entry ∈ others) : entry.1 ∈ name :: rest.map (·.1) :=
            List.mem_cons_of_mem _ (ih hothers hmem)
          split at h
          · cases h
            split at hentry
            · exact hset hentry
            · exact hother hentry
          · cases h
            split at hentry
            · exact hset hentry
            · exact hother hentry
          · obtain ⟨value, -, rfl⟩ := Option.map_eq_some_iff.mp h
            exact hset hentry

end Schema

namespace ObjectMeta

/-- What is kept in its written form are fields that have no type of their own. -/
def Proper (metadata : ObjectMeta) : Prop :=
  ∀ entry ∈ metadata.other, entry.1 ∈ otherFields.map (·.1)

/-- Metadata may keep nothing at all in its written form. -/
theorem proper_of_other {metadata : ObjectMeta} (h : metadata.other = []) : metadata.Proper := by
  intro entry hentry
  rw [h] at hentry
  cases hentry

/-- Metadata that is read keeps nothing else in its written form. -/
theorem proper_of_json {value : Json} {metadata : ObjectMeta} (h : ofJson? value = some metadata) :
    metadata.Proper := by
  unfold ofJson? at h
  cases value with
  | obj given =>
      simp only [Option.bind_eq_bind, Option.bind_eq_some_iff, Option.pure_def] at h
      obtain ⟨_, -, _, -, _, -, _, -, _, -, _, -, other, hother, hmetadata⟩ := h
      cases hmetadata
      exact fun _ hentry => Schema.mem_of_read_fields hother hentry
  | _ => cases h

/-- The fields that have a type of their own, with their values. -/
def ownFields (metadata : ObjectMeta) : List (String × Option Json) :=
  [("name", metadata.name.map .str), ("namespace", metadata.namespaceName.map .str),
    ("uid", metadata.uid.map .str), ("labels", metadata.labels.map .textMap),
    ("annotations", metadata.annotations.map .textMap),
    ("creationTimestamp", metadata.creationTimestamp.map fun t => .str t.text)]

/-- Metadata is written as the other fields, and then its own. -/
theorem to_json_eq (metadata : ObjectMeta) :
    metadata.toJson = .object (metadata.other ++ Json.entriesOf metadata.ownFields) := by
  have hfield {α : Type} (name : String) (write : α → Json) (a : Option α) :
      Json.field? name write a = ((a.map write).map (name, ·)).toList := by cases a <;> rfl
  simp [toJson, ownFields, Json.entriesOf, hfield]

/-- Each of its own fields is written with its value, and only then. -/
theorem get_own_field {metadata : ObjectMeta} (h : metadata.Proper) {field : String × Option Json}
    (hfield : field ∈ metadata.ownFields) : metadata.toJson.get? field.1 = field.2 := by
  have hnames : metadata.ownFields.map (·.1) =
      ["name", "namespace", "uid", "labels", "annotations", "creationTimestamp"] := rfl
  have hother : (Entries.ofList metadata.other).get? field.1 = none := by
    have hapart : ∀ name ∈ metadata.ownFields.map (·.1), name ∉ otherFields.map (·.1) := by
      rw [hnames]
      decide
    refine Entries.get_eq_none_iff.mpr fun entry hentry heq => ?_
    exact hapart _ (List.mem_map_of_mem hfield) (heq ▸ h entry (Entries.mem_of_list hentry))
  rw [to_json_eq]
  show (Entries.ofList _).get? field.1 = field.2
  rw [Entries.get_of_list_append, hother, Option.or_none]
  exact Json.get_entries (by rw [hnames]; decide) hfield

variable {object : Json} {metadata : ObjectMeta}

/-- A path into the metadata of an object. -/
theorem at_metadata (h : object.get? "metadata" = some metadata.toJson) (field : String) :
    object.at? ["metadata", field] = metadata.toJson.get? field := by
  have hobject : object.isObject = true := by
    cases object with
    | obj => rfl
    | _ => cases h
  rw [Json.at_cons_eq hobject, h, Option.bind_some, Json.at_cons_eq (by rfl)]
  cases metadata.toJson.get? field <;> rfl

/-- An object that is written as its type, its metadata and its specification has the metadata. -/
theorem get_metadata (apiVersion kind metadata spec : Json) :
    (Json.object [("apiVersion", apiVersion), ("kind", kind), ("metadata", metadata),
      ("spec", spec)]).get? "metadata" = some metadata := by
  show (Entries.ofList _).get? "metadata" = _
  rw [Entries.get_of_list_eq_find]
  rfl

/-- The name of the metadata is the name that the object shows. -/
theorem object_name_eq (hproper : metadata.Proper)
    (h : object.get? "metadata" = some metadata.toJson) :
    objectName object = metadata.name.getD "" := by
  have hfield : ("name", metadata.name.map .str) ∈ metadata.ownFields := by simp [ownFields]
  have hname : metadata.toJson.get? "name" = metadata.name.map .str :=
    get_own_field hproper hfield
  unfold objectName Json.textAt
  rw [at_metadata h, hname]
  cases metadata.name <;> rfl

/-- The labels of the metadata are the labels that the object shows. -/
theorem labels_eq (hproper : metadata.Proper)
    (h : object.get? "metadata" = some metadata.toJson) :
    object.labels = metadata.labels.getD [] := by
  have hfield : ("labels", metadata.labels.map .textMap) ∈ metadata.ownFields := by
    simp [ownFields]
  have hlabels : metadata.toJson.get? "labels" = metadata.labels.map .textMap :=
    get_own_field hproper hfield
  unfold Json.labels
  rw [at_metadata h, hlabels]
  cases metadata.labels with
  | none => rfl
  | some labels =>
      show (labels.mapValues Json.str).filterMap _ = labels
      rw [Entries.mapValues, List.filterMap_map]
      exact List.filterMap_some

end ObjectMeta

end VirtualApi
