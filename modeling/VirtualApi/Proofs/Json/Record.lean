import Mathlib.Data.List.Nodup
import VirtualApi.Json.Record
import VirtualApi.Proofs.Json.Entries

/-!
# Reading the fields of a record

A record that is read from an object has the object's own values. `named_get` says so for every
field of a record whose fields have one spelling each, and `named_of_ordered` that such a record can
always be read when the keys of the object are in order. What a field reads then depends on the
value that is found for it, and on nothing else. Where the object was written for the fields, they
have their values again (`named_entries`), and a default that was left out is read as well
(`with_default_unless`).
-/

namespace VirtualApi.Json

namespace Record

/-- A field of one spelling that can be picked has the value that the entries hold for it. -/
theorem pick_singleton {entries : Entries Json} {field : String}
    {picked : Option (String × Json)} (h : pick? entries [field] = some picked) :
    picked = (entries.get? field).map (field, ·) := by
  rw [Entries.get_eq_filter]
  unfold pick? at h
  -- A field that is given twice cannot be picked, so that the first entry for it is the only one.
  split at h
  · next hnone =>
      have hfilter : entries.filter (fun entry => decide (entry.1 = field)) = [] :=
        (List.filter_congr fun _ _ => by simp).trans hnone
      cases h
      rw [hfilter]
      rfl
  · next key value hone =>
      have hfilter : entries.filter (fun entry => decide (entry.1 = field)) = [(key, value)] :=
        (List.filter_congr fun _ _ => by simp).trans hone
      cases h
      rw [hfilter]
      rfl
  · cases h

/-- What was picked for the fields is what the entries hold for each of them. -/
theorem map_pick_eq {entries : Entries Json} {fields : List String}
    {given : List (Option (String × Json))}
    (h : (fields.map ([·])).mapM (pick? entries) = some given) :
    given = fields.map fun field => (entries.get? field).map (field, ·) := by
  induction fields generalizing given with
  | nil =>
      cases h
      rfl
  | cons field rest ih =>
      rw [List.map_cons, List.mapM_cons] at h
      obtain ⟨picked, hpicked, h⟩ := Option.bind_eq_some_iff.mp h
      obtain ⟨others, hothers, h⟩ := Option.bind_eq_some_iff.mp h
      cases h
      rw [List.map_cons, ← pick_singleton hpicked, ← ih hothers]

/-- Of the values that were found for some fields, each field has its own. -/
theorem get_filter_map (entries : Entries Json) (field : String) (fields : List String) :
    Entries.get? field (fields.filterMap fun name => (entries.get? name).map (name, ·)) =
      if field ∈ fields then entries.get? field else none := by
  induction fields with
  | nil => rfl
  | cons head rest ih =>
      rw [List.filterMap_cons]
      by_cases hhead : head = field
      · subst hhead
        cases hget : entries.get? head with
        | some v => simp [Entries.get?]
        | none => simp [ih, hget]
      · have hmem : field ∈ head :: rest ↔ field ∈ rest := by
          simp [List.mem_cons, Ne.symm hhead]
        simp only [hmem]
        cases entries.get? head with
        | some v => simpa [Entries.get?, hhead] using ih
        | none => simpa using ih

/-- A record that is read from an object has the values of the object's fields. -/
theorem named_get {entries : Entries Json} {fields : List String} {record : Record}
    {field : String} (h : named? fields (.obj entries) = some record) (hfield : field ∈ fields) :
    record.get? field = entries.get? field := by
  unfold named? ofJson? at h
  obtain ⟨given, hgiven, hrecord⟩ := Option.map_eq_some_iff.mp h
  subst hrecord
  rw [map_pick_eq hgiven]
  unfold get?
  rw [List.filterMap_map]
  exact (get_filter_map entries field fields).trans (if_pos hfield)

/-- In order, a field is not given twice. -/
theorem pick_of_ordered {entries : Entries Json} (h : entries.Ordered) (field : String) :
    pick? entries [field] = some ((entries.get? field).map (field, ·)) := by
  have hfilter : (entries.filter fun entry => decide (entry.1 ∈ [field])) =
      entries.filter fun entry => decide (entry.1 = field) :=
    List.filter_congr fun _ _ => by simp
  have hkeys : ∀ entry ∈ entries.filter (fun entry => decide (entry.1 = field)),
      entry.1 = field := fun entry hentry => by simpa using (List.mem_filter.mp hentry).2
  have hordered : (entries.filter fun entry => decide (entry.1 = field)).Pairwise
      fun first second => first.1 < second.1 := h.sublist List.filter_sublist
  rw [Entries.get_eq_filter]
  unfold pick?
  rw [hfilter]
  cases hfound : entries.filter (fun entry => decide (entry.1 = field)) with
  | nil => rfl
  | cons first rest =>
      rw [hfound] at hkeys hordered
      cases rest with
      | nil => rfl
      | cons second others =>
          -- two entries for the field are not in increasing order
          have hlt : first.1 < second.1 := (List.pairwise_cons.mp hordered).1 _ List.mem_cons_self
          rw [hkeys first List.mem_cons_self,
            hkeys second (List.mem_cons_of_mem _ List.mem_cons_self)] at hlt
          exact absurd hlt (String.lt_irrefl field)

/-- An object whose keys are in order is a record of any fields, which have its values. -/
theorem named_of_ordered {entries : Entries Json} (h : entries.Ordered) (fields : List String) :
    ∃ record, named? fields (.obj entries) = some record ∧
      ∀ field ∈ fields, record.get? field = entries.get? field := by
  have hpicks : ∃ given, (fields.map ([·])).mapM (pick? entries) = some given := by
    induction fields with
    | nil => exact ⟨[], rfl⟩
    | cons field rest ih =>
        obtain ⟨given, hgiven⟩ := ih
        refine ⟨(entries.get? field).map (field, ·) :: given, ?_⟩
        rw [List.map_cons, List.mapM_cons, pick_of_ordered h, hgiven]
        rfl
  obtain ⟨given, hgiven⟩ := hpicks
  have hrecord : named? fields (.obj entries) = some ⟨given.filterMap id⟩ := by
    show ((fields.map ([·])).mapM (pick? entries)).map
      (fun given => Record.mk (given.filterMap id)) = _
    rw [hgiven]
    rfl
  exact ⟨_, hrecord, fun field hfield => named_get hrecord hfield⟩

/-! ## Which fields can be read -/

variable {α : Type} {record : Record} {field : String} {read : Json → Option α} {default : α}

/-- A field that has to be given is read when it holds a value that can be read. -/
theorem required_eq_some_iff {a : α} :
    record.required field read = some a ↔ ∃ value, record.get? field = some value ∧
      read value = some a :=
  Option.bind_eq_some_iff

/-- A field with a default is read when it holds no value that cannot be read. -/
theorem with_default_isSome_iff :
    (record.withDefault field default read).isSome ↔
      ∀ value, record.get? field = some value → (read value).isSome := by
  unfold withDefault
  cases record.get? field <;> simp

/-- So is an optional field, which may also be null. -/
theorem optional_isSome_iff :
    (record.optional field read).isSome ↔
      ∀ value, record.get? field = some value → value ≠ .null → (read value).isSome := by
  unfold optional
  cases hget : record.get? field with
  | none => simp
  | some value => cases value <;> simp

/-- An optional field is read as a value when it holds one that is not null. -/
theorem optional_eq_some_iff {a : α} :
    record.optional field read = some (some a) ↔
      ∃ value, record.get? field = some value ∧ value ≠ .null ∧ read value = some a := by
  unfold optional
  cases hget : record.get? field with
  | none => simp
  | some value => cases value <;> simp

end Record

/-! ## What is written for fields -/

/-- The entries that are written for fields: those of the fields that have a value. -/
def entriesOf (fields : List (String × Option Json)) : List (String × Json) :=
  fields.flatMap fun field => (field.2.map (field.1, ·)).toList

/-- A value that is written unless it is the default. -/
def unlessDefault {α : Type} [DecidableEq α] (default : α) (write : α → Json) (a : α) :
    Option Json :=
  if a = default then none else some (write a)

/-- A text field is written unless it is empty. -/
theorem text_field_eq (name text : String) :
    textField? name text = ((unlessDefault "" .str text).map (name, ·)).toList := by
  unfold textField? unlessDefault
  split <;> rfl

variable {fields : List (String × Option Json)} {field : String × Option Json}

/-- What is written is the value of a field. -/
theorem exists_of_mem_entries {name : String} {value : Json}
    (h : (name, value) ∈ entriesOf fields) : (name, some value) ∈ fields := by
  obtain ⟨⟨key, held⟩, hfield, hvalue⟩ := List.mem_flatMap.mp h
  obtain ⟨found, hheld, heq⟩ := Option.map_eq_some_iff.mp (Option.mem_toList.mp hvalue)
  cases heq
  exact hheld ▸ hfield

/-- Of fields with different names, each is found with its value. -/
theorem get_entries (hnames : (fields.map (·.1)).Nodup) (h : field ∈ fields) :
    (Entries.ofList (entriesOf fields)).get? field.1 = field.2 := by
  obtain ⟨name, held⟩ := field
  -- an entry of this name can only be that of the field itself
  have hsame (value : Json) (hvalue : (name, value) ∈ entriesOf fields) : held = some value :=
    congrArg Prod.snd (List.inj_on_of_nodup_map hnames h (exists_of_mem_entries hvalue) rfl)
  cases hget : (Entries.ofList (entriesOf fields)).get? name with
  | some value => exact (hsame value (Entries.mem_of_list (Entries.mem_of_get hget))).symm
  | none =>
      cases held with
      | none => rfl
      | some value =>
          have hmem : (name, value) ∈ entriesOf fields :=
            List.mem_flatMap.mpr ⟨_, h, List.mem_singleton.mpr rfl⟩
          obtain ⟨found, hfound⟩ := Entries.exists_get_of_list hmem
          rw [hget] at hfound
          cases hfound

namespace Record

/-- A record is read from what was written for its fields, and has their values. -/
theorem named_entries (fields : List (String × Option Json)) (names : List String)
    (hnames : fields.map (·.1) = names) (hdistinct : names.Nodup) :
    ∃ record, named? names (.object (entriesOf fields)) = some record ∧
      ∀ field ∈ fields, record.get? field.1 = field.2 := by
  obtain ⟨record, hrecord, hget⟩ :=
    named_of_ordered (Entries.ordered_of_list (entriesOf fields)) names
  refine ⟨record, hrecord, fun field hfield => ?_⟩
  have hname : field.1 ∈ names := hnames ▸ List.mem_map_of_mem hfield
  exact (hget field.1 hname).trans (get_entries (hnames ▸ hdistinct) hfield)

/-- A value that was written unless it is the default is read again. -/
theorem with_default_unless {α : Type} [DecidableEq α] {record : Record} {field : String}
    {default a : α} {read : Json → Option α} {write : α → Json}
    (h : record.get? field = unlessDefault default write a) (hread : read (write a) = some a) :
    record.withDefault field default read = some a := by
  unfold withDefault
  rw [h, unlessDefault]
  by_cases hdefault : a = default
  · rw [if_pos hdefault, hdefault]
  · rw [if_neg hdefault]
    exact hread

end Record

/-- A map of texts is read as it was written. -/
theorem text_map_reads_back (entries : Entries String) :
    textMap? (textMap entries) = some entries := by
  show (entries.mapValues Json.str).mapM _ = some entries
  induction entries with
  | nil => rfl
  | cons entry rest ih =>
      show ((entry.1, Json.str entry.2) :: Entries.mapValues Json.str rest).mapM _ = _
      rw [List.mapM_cons, ih]
      rfl

end VirtualApi.Json
