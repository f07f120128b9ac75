import VirtualApi.Json.Raw
import VirtualApi.Proofs.Json.Record

/-!
# Values whose objects are in order

The fields of an object are kept in increasing key order. `Ordered` says that they are, in every
object of a value. It holds of everything that is read from JSON text (`ordered_of_read`) and of
every part of a value that it holds of (`Ordered.at`). A map that is read from such a value is in
order itself (`ordered_of_map`).
-/

namespace VirtualApi.Json

/-- In every object of the value the keys are in increasing order, so that each occurs once. -/
inductive Ordered : Json → Prop
  | null : Ordered .null
  | bool (value : Bool) : Ordered (.bool value)
  | num (value : Number) : Ordered (.num value)
  | str (value : String) : Ordered (.str value)
  | arr {items : List Json} (hitems : ∀ item ∈ items, Ordered item) : Ordered (.arr items)
  | obj {fields : Entries Json} (hkeys : fields.Ordered)
      (hvalues : ∀ entry ∈ fields, Ordered entry.2) : Ordered (.obj fields)

/-- An array is in order when its items are. -/
@[simp] theorem ordered_arr_iff {items : List Json} :
    Ordered (.arr items) ↔ ∀ item ∈ items, Ordered item := by
  constructor
  · intro h
    cases h with
    | arr hitems => exact hitems
  · exact .arr

/-- An object is in order when its keys are and its values are. -/
@[simp] theorem ordered_obj_iff {fields : Entries Json} :
    Ordered (.obj fields) ↔ fields.Ordered ∧ ∀ entry ∈ fields, Ordered entry.2 := by
  constructor
  · intro h
    cases h with
    | obj hkeys hvalues => exact ⟨hkeys, hvalues⟩
  · rintro ⟨hkeys, hvalues⟩
    exact .obj hkeys hvalues

/-- An object that is put together from values in order is in order. -/
theorem ordered_object {entries : List (String × Json)} (h : ∀ entry ∈ entries, Ordered entry.2) :
    Ordered (object entries) :=
  .obj (Entries.ordered_of_list entries) fun entry hentry => h entry (Entries.mem_of_list hentry)

/-! ## Parts of a value -/

/-- A field or an item of a value in order is in order. -/
theorem Ordered.step {token : String} {value part : Json} (h : value.Ordered)
    (hstep : step? token value = some part) : part.Ordered := by
  cases h with
  | obj hkeys hvalues => exact hvalues _ (Entries.mem_of_get hstep)
  | arr hitems =>
      obtain ⟨index, -, hitem⟩ := Option.bind_eq_some_iff.mp hstep
      exact hitems _ (List.mem_of_getElem? hitem)
  | _ => cases hstep

/-- A field of an object in order is in order. -/
theorem Ordered.get {key : String} {value part : Json} (h : value.Ordered)
    (hget : value.get? key = some part) : part.Ordered := by
  cases h with
  | obj hkeys hvalues => exact hvalues _ (Entries.mem_of_get hget)
  | _ => cases hget

/-- Every part of a value in order is in order. -/
theorem Ordered.at {path : List String} {value part : Json} (h : value.Ordered)
    (hpart : value.at? path = some part) : part.Ordered := by
  induction path generalizing value with
  | nil =>
      cases hpart
      exact h
  | cons token path ih =>
      obtain ⟨next, hstep, hnext⟩ := Option.bind_eq_some_iff.mp hpart
      exact ih (h.step hstep) hnext

/-- A path goes on from where its beginning leads. -/
theorem at_append (first second : List String) (value : Json) :
    value.at? (first ++ second) = (value.at? first).bind (at? second) := by
  induction first generalizing value with
  | nil => rfl
  | cons token path ih =>
      show (step? token value).bind (at? (path ++ second)) =
        ((step? token value).bind (at? path)).bind (at? second)
      rw [Option.bind_assoc]
      exact Option.bind_congr fun next _ => ih next

end VirtualApi.Json

namespace VirtualApi.RawJson

open Json

/-- Every result of a reader on a list is that of one of its items. -/
theorem exists_of_mem_read {α β : Type} {read : α → Option β} {items : List α} {results : List β}
    (h : items.mapM read = some results) {b : β} (hb : b ∈ results) :
    ∃ a ∈ items, read a = some b := by
  induction items generalizing results with
  | nil =>
      cases h
      cases hb
  | cons item rest ih =>
      rw [List.mapM_cons] at h
      obtain ⟨first, hfirst, h⟩ := Option.bind_eq_some_iff.mp h
      obtain ⟨others, hothers, h⟩ := Option.bind_eq_some_iff.mp h
      cases h
      rcases List.mem_cons.mp hb with rfl | hb
      · exact ⟨item, List.mem_cons_self, hfirst⟩
      · obtain ⟨a, ha, hread⟩ := ih hothers hb
        exact ⟨a, List.mem_cons_of_mem _ ha, hread⟩

/-- What is written stands for a value in order: an object is put together from its fields. -/
theorem ordered_of_value {room : Nat} {raw : RawJson} {value : Json}
    (h : value? room raw = some value) : value.Ordered := by
  induction room generalizing raw value with
  | zero =>
      cases raw with
      | null => cases h; exact .null
      | bool b => cases h; exact .bool b
      | num n => obtain ⟨n, -, rfl⟩ := Option.map_eq_some_iff.mp h; exact .num n
      | str s => obtain ⟨s, -, rfl⟩ := Option.map_eq_some_iff.mp h; exact .str s
      | arr items => cases h
      | obj fields => cases h
  | succ room ih =>
      cases raw with
      | null => cases h; exact .null
      | bool b => cases h; exact .bool b
      | num n => obtain ⟨n, -, rfl⟩ := Option.map_eq_some_iff.mp h; exact .num n
      | str s => obtain ⟨s, -, rfl⟩ := Option.map_eq_some_iff.mp h; exact .str s
      | arr items =>
          obtain ⟨results, hresults, rfl⟩ := Option.map_eq_some_iff.mp h
          refine .arr fun item hitem => ?_
          obtain ⟨raw, -, hraw⟩ := exists_of_mem_read hresults hitem
          exact ih hraw
      | obj fields =>
          obtain ⟨results, hresults, h⟩ := Option.bind_eq_some_iff.mp h
          cases h
          refine ordered_object fun entry hentry => ?_
          obtain ⟨field, -, hfield⟩ := exists_of_mem_read hresults hentry
          obtain ⟨key, -, hfield⟩ := Option.bind_eq_some_iff.mp hfield
          obtain ⟨value, hvalue, hfield⟩ := Option.bind_eq_some_iff.mp hfield
          cases hfield
          exact ih hvalue

end VirtualApi.RawJson

namespace VirtualApi.Json

/-- Whatever is read from JSON text is in order. -/
theorem ordered_of_read {text : List Char} {value : Json} (h : read? text = some value) :
    value.Ordered := by
  obtain ⟨raw, -, hraw⟩ := Option.bind_eq_some_iff.mp h
  exact RawJson.ordered_of_value hraw

/-! ## What is read from a value in order -/

/-- A map that is read from a value in order is in order. -/
theorem ordered_of_map {α : Type} {read : Json → Option α} {value : Json} {entries : Entries α}
    (hvalue : value.Ordered) (h : map? read value = some entries) : entries.Ordered := by
  cases value with
  | obj fields =>
      have hmatching : Entries.Matching (fun _ _ _ => True) fields entries := by
        unfold map? at h
        clear hvalue
        induction fields generalizing entries with
        | nil =>
            cases h
            exact .nil
        | cons field rest ih =>
            simp only [List.mapM_cons, Option.bind_eq_bind, Option.bind_eq_some_iff,
              Option.map_eq_some_iff, Option.pure_def, Option.some.injEq] at h
            obtain ⟨entry, ⟨a, -, rfl⟩, others, hothers, rfl⟩ := h
            exact .cons ⟨rfl, trivial⟩ (ih hothers)
      exact hmatching.ordered (ordered_obj_iff.mp hvalue).1
  | _ => cases h

/-- What an optional field of a value in order is read as is read from a value in order. -/
theorem ordered_of_optional {α : Type} {given : Entries Json} {field : String}
    {read : Json → Option α} {a : α} (hgiven : (Json.obj given).Ordered)
    (h : Record.optional ⟨given⟩ field read = some (some a)) :
    ∃ value : Json, value.Ordered ∧ read value = some a := by
  obtain ⟨value, hget, -, hread⟩ := Record.optional_eq_some_iff.mp h
  exact ⟨value, hgiven.get hget, hread⟩

end VirtualApi.Json
