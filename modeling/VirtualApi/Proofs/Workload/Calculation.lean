import VirtualApi.Proofs.Json.Record
import VirtualApi.Proofs.Workload.Totals
import VirtualApi.Workload.Calculation

/-!
# Calculations are read as they were written

A calculation leaves out what is empty or zero, and is read as it was before all the same:
`Calculation.reads_back` says so wherever the numbers of pods are in the range that is read, and
`of_manifest_counted` that those of a manifest are.
-/

namespace VirtualApi

open Json (entriesOf unlessDefault)

/-- A resource is read as it was written. -/
theorem ResourceId.reads_back (resource : ResourceId) :
    ResourceId.ofJson? resource.toJson = some resource := by
  obtain ⟨group, version, name, kind, scope⟩ := resource
  cases scope <;> rfl

namespace ResourceAmounts

/-- A list of resources is written unless it is empty. -/
theorem list_field_eq (name : String) (list : ResourceList) :
    listField? name list = ((unlessDefault [] ResourceList.toJson list).map (name, ·)).toList := by
  unfold listField? unlessDefault
  cases list <;> rfl

/-- Amounts are written unless there are none. -/
theorem field_eq (name : String) (amounts : ResourceAmounts) :
    amounts.field? name = ((unlessDefault {} toJson amounts).map (name, ·)).toList := by
  obtain ⟨requests, limits⟩ := amounts
  unfold field? unlessDefault isEmpty
  cases requests <;> cases limits <;> rfl

/-- The fields of amounts. -/
def fields (amounts : ResourceAmounts) : List (String × Option Json) :=
  [("requests", unlessDefault [] ResourceList.toJson amounts.requests),
    ("limits", unlessDefault [] ResourceList.toJson amounts.limits)]

/-- Amounts are written with their fields. -/
theorem to_json_eq (amounts : ResourceAmounts) :
    amounts.toJson = .object (entriesOf amounts.fields) := by
  simp only [toJson, list_field_eq, fields, entriesOf, List.flatMap_cons, List.flatMap_nil,
    List.append_nil]

/-- Amounts are read as they were written. -/
theorem reads_back (amounts : ResourceAmounts) : ofJson? amounts.toJson = some amounts := by
  obtain ⟨record, hrecord, hget⟩ :=
    Json.Record.named_entries amounts.fields ["requests", "limits"] rfl (by decide)
  simp only [fields, List.forall_mem_cons] at hget
  obtain ⟨hrequests, hlimits, -⟩ := hget
  have hlist := Json.text_map_reads_back
  rw [ofJson?, to_json_eq, hrecord]
  simp [Json.Record.with_default_unless hrequests (hlist _),
    Json.Record.with_default_unless hlimits (hlist _)]

end ResourceAmounts

namespace RoleValues

variable {α : Type} {read : Json → Option α} {write : α → Json} {values : RoleValues α}

/-- The values by role as they are written. -/
def toJson (write : α → Json) (values : RoleValues α) : Json :=
  .object (Json.field? "default" write values.default ++ Json.field? "init" write values.init)

/-- Values by role are written unless there are none. -/
theorem field_eq [DecidableEq α] (name : String) (write : α → Json) (values : RoleValues α) :
    values.field? name write = ((unlessDefault {} (toJson write) values).map (name, ·)).toList := by
  obtain ⟨default, init⟩ := values
  unfold field? unlessDefault
  cases default <;> cases init <;> rfl

/-- Values by role are read as they were written when each of the values is. -/
theorem reads_back
    (h : ∀ a, values.default = some a ∨ values.init = some a → read (write a) = some a) :
    ofJson? read (toJson write values) = some values := by
  obtain ⟨default, init⟩ := values
  have hdefault (a : α) (ha : default = some a) : read (write a) = some a := h a (Or.inl ha)
  have hinit (a : α) (ha : init = some a) : read (write a) = some a := h a (Or.inr ha)
  cases default with
  | none =>
      cases init with
      | none => rfl
      | some i =>
          show (Option.bind (some none) fun default =>
            ((some (write i)).mapM read).bind fun init => some (RoleValues.mk default init)) = _
          simp [hinit i rfl]
  | some d =>
      cases init with
      | none =>
          show (Option.bind ((some (write d)).mapM read) fun default =>
            some (RoleValues.mk default none)) = _
          simp [hdefault d rfl]
      | some i =>
          show (Option.bind ((some (write d)).mapM read) fun default =>
            ((some (write i)).mapM read).bind fun init => some (RoleValues.mk default init)) = _
          simp [hdefault d rfl, hinit i rfl]

end RoleValues

namespace Calculation

variable {c : Calculation} {metrics : MetricsRegistry} {manifest : Json} {apiType : ResourceId}
  {version : String}

/-- The fields of a calculation. -/
def fields (c : Calculation) : List (String × Option Json) :=
  [("apiType", some c.apiType.toJson), ("version", unlessDefault "" .str c.version),
    ("replicas", unlessDefault 0 .int c.replicas),
    ("roleReplicas", unlessDefault {} (RoleValues.toJson .int) c.roleReplicas),
    ("mode", unlessDefault "" .str c.mode),
    ("totalResource", unlessDefault {} ResourceAmounts.toJson c.total),
    ("appResource", unlessDefault {} ResourceAmounts.toJson c.app),
    ("roleResourceRequests",
      unlessDefault {} (RoleValues.toJson ResourceList.toJson) c.roleRequests),
    ("roleResourceLimits",
      unlessDefault {} (RoleValues.toJson ResourceList.toJson) c.roleLimits)]

/-- The fields have different names. -/
theorem distinct_fields (c : Calculation) : (c.fields.map (·.1)).Nodup := by
  show ["apiType", "version", "replicas", "roleReplicas", "mode", "totalResource", "appResource",
    "roleResourceRequests", "roleResourceLimits"].Nodup
  decide

/-- A calculation is written with its fields. -/
theorem to_json_eq (c : Calculation) : c.toJson = .object (entriesOf c.fields) := by
  have hreplicas : (if c.replicas = 0 then [] else [("replicas", Json.int c.replicas)]) =
      ((unlessDefault 0 .int c.replicas).map ("replicas", ·)).toList := by
    unfold unlessDefault
    split <;> rfl
  simp only [toJson, hreplicas, Json.text_field_eq, RoleValues.field_eq, ResourceAmounts.field_eq,
    fields, entriesOf, List.flatMap_cons, List.flatMap_nil, List.append_nil, List.append_assoc]
  rfl

/-- The resource of a calculation is written. -/
theorem to_json_api_type (c : Calculation) :
    c.toJson.at? ["apiType"] = some c.apiType.toJson := by
  rw [to_json_eq, Json.at_cons_eq rfl]
  show ((Entries.ofList (entriesOf c.fields)).get? "apiType").bind _ = _
  rw [Json.get_entries c.distinct_fields List.mem_cons_self]
  rfl

/-- The numbers of pods in a calculation are numbers that can be read. -/
structure Counted (c : Calculation) : Prop where
  replicas : count? (.int c.replicas) = some c.replicas
  roleReplicas : ∀ n, c.roleReplicas.default = some n ∨ c.roleReplicas.init = some n →
    count? (.int n) = some n

/-- A calculation is read as it was written. -/
theorem reads_back (h : c.Counted) : ofJson? c.toJson = some c := by
  obtain ⟨record, hrecord, hget⟩ := Json.Record.named_entries c.fields _ rfl c.distinct_fields
  simp only [fields, List.forall_mem_cons] at hget
  obtain ⟨hapiType, hversion, hreplicas, hroleReplicas, hmode, htotal, happ, hroleRequests,
    hroleLimits, -⟩ := hget
  have htext (text : String) : Json.str? (.str text) = some text := rfl
  have hroles (lists : RoleValues ResourceList) :
      RoleValues.ofJson? Json.textMap? (lists.toJson ResourceList.toJson) = some lists :=
    RoleValues.reads_back fun list _ => Json.text_map_reads_back list
  -- the fields are read in the order in which they are listed
  rw [ofJson?, to_json_eq]
  show ((Json.Record.named? (c.fields.map (·.1)) _).bind _) = _
  rw [hrecord]
  simp [Json.Record.required_eq_some_iff.mpr ⟨_, hapiType, c.apiType.reads_back⟩,
    Json.Record.with_default_unless hversion (htext _),
    Json.Record.with_default_unless hreplicas h.replicas,
    Json.Record.with_default_unless hroleReplicas (RoleValues.reads_back h.roleReplicas),
    Json.Record.with_default_unless hmode (htext _),
    Json.Record.with_default_unless htotal (ResourceAmounts.reads_back _),
    Json.Record.with_default_unless happ (ResourceAmounts.reads_back _),
    Json.Record.with_default_unless hroleRequests (hroles _),
    Json.Record.with_default_unless hroleLimits (hroles _)]

/-- A number of pods is read as it was written. -/
theorem count_reads_back {w : Workload} {n : Int} (h : w.replicas manifest = .ok n) :
    count? (.int n) = some n := by
  have hnonneg := Workload.replicas_nonneg h
  have hlt := Workload.replicas_lt h
  exact if_pos ⟨by omega, by omega⟩

/-- What was measured has such numbers of pods. -/
theorem measure_counted {w : Workload} (h : measure w manifest apiType version = .ok c) :
    c.Counted := by
  unfold measure at h
  simp only [result_bind_eq_ok_iff] at h
  obtain ⟨replicas, hreplicas, roles, hroles, _, _, _, _, _, _, _, _, _, _, _, _, h⟩ := h
  cases h
  obtain ⟨n, hn, hroles⟩ := result_bind_eq_ok_iff.mp hroles
  obtain ⟨init, -, hroles⟩ := result_bind_eq_ok_iff.mp hroles
  cases hroles
  refine ⟨count_reads_back hreplicas, fun m hm => ?_⟩
  -- the number for each role is that of all pods
  have hsame : m = n := by
    rcases hm with hm | hm
    · exact (Option.some.inj hm).symm
    · cases init <;> simp_all [RoleValues.ofRoles]
  exact hsame ▸ count_reads_back hn

/-- So has what is known of a manifest. -/
theorem of_manifest_counted (h : ofManifest metrics manifest apiType = .ok c) : c.Counted := by
  unfold ofManifest at h
  dsimp only at h
  split at h
  · cases h
    exact ⟨rfl, by simp⟩
  · split at h
    · next hmeasure =>
        cases h
        exact measure_counted hmeasure
    · cases h

end Calculation

end VirtualApi
