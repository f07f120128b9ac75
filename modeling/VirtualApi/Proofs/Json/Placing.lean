import VirtualApi.Proofs.Json.Ordered

/-!
# Values that are put in place

`Json.put` writes a value at a path of fields. It gets there where there is room (`at_put_of_room`),
and it leaves what stands at every path that goes another way (`at_put_of_diverging`).
-/

namespace VirtualApi.Json

variable {path other : List String} {key token : String} {fields : Entries Json}

/-- The object with a value at a path of fields. Parents that are absent become objects, and nothing
changes where a parent is not an object. -/
def put : List String → Json → Json → Json
  | [], _, value => value
  | key :: path, .obj fields, value =>
      .obj (Entries.set key (((Entries.get? key fields).getD empty).put path value) fields)
  | _ :: _, object, _ => object

/-- A value can be put at a path: every parent is absent or an object. -/
def HasRoom : List String → Json → Prop
  | [], _ => True
  | key :: path, .obj fields => ∀ next, Entries.get? key fields = some next → HasRoom path next
  | _ :: _, _ => False

/-- Neither of two paths goes on from where the other one ends. -/
abbrev Diverging (path other : List String) : Prop := ¬ path <+: other ∧ ¬ other <+: path

/-- Two paths from the same value diverge at their first tokens or after them. -/
theorem diverging_cons_iff :
    Diverging (key :: path) (token :: other) ↔ key ≠ token ∨ Diverging path other := by
  unfold Diverging
  rw [List.cons_prefix_cons, List.cons_prefix_cons]
  by_cases h : key = token
  · simp [h]
  · simp [h, Ne.symm h]

/-- What stands below a field of an object stands below the field. -/
theorem at_obj_cons : (Json.obj fields).at? (key :: path) =
    (Entries.get? key fields).bind (at? path) := rfl

/-- What stands below a field that was put in place. -/
theorem at_put_cons (fields : Entries Json) (value : Json) (path other : List String) :
    ((Json.obj fields).put (key :: path) value).at? (key :: other) =
      (((Entries.get? key fields).getD empty).put path value).at? other := by
  show (Entries.get? key (Entries.set key _ fields)).bind (at? other) = _
  rw [Entries.get_set_self, Option.bind_some]

/-- Where there is room, the value that is put in place stands there. -/
theorem at_put_of_room {object : Json} (h : HasRoom path object) (value : Json) :
    (object.put path value).at? path = some value := by
  induction path generalizing object with
  | nil => rfl
  | cons key path ih =>
      cases object with
      | obj fields =>
          rw [at_put_cons]
          cases hfield : Entries.get? key fields with
          | some next => exact ih (h next hfield)
          | none =>
              cases path with
              | nil => rfl
              | cons token path => exact ih (fun next hnext => nomatch hnext)
      | _ => exact absurd h id

/-- Where there is no room, what stands at the path stays. -/
theorem at_put_of_no_room {object : Json} (h : ¬ HasRoom path object) (value : Json) :
    (object.put path value).at? path = object.at? path := by
  induction path generalizing object with
  | nil => exact absurd trivial h
  | cons key path ih =>
      cases object with
      | obj fields =>
          have hinner : ∃ next, Entries.get? key fields = some next ∧ ¬ HasRoom path next := by
            simpa only [HasRoom, not_forall, exists_prop] using h
          obtain ⟨next, hnext, hno⟩ := hinner
          rw [at_put_cons, at_obj_cons, hnext]
          exact ih hno
      | _ => rfl

/-- There is room where something stands, unless the path goes through the items of an array. -/
theorem has_room_of_at {object value : Json} (hfields : ∀ key ∈ path, indexOfToken? key = none)
    (h : object.at? path = some value) : HasRoom path object := by
  induction path generalizing object with
  | nil => trivial
  | cons key path ih =>
      obtain ⟨hkey, hrest⟩ := List.forall_mem_cons.mp hfields
      cases object with
      | obj fields =>
          intro next hnext
          rw [at_obj_cons, hnext] at h
          exact ih hrest h
      | arr items =>
          rw [at?, step?, hkey] at h
          cases h
      | _ => cases h

/-- What is put in place leaves what stands at a path that goes another way. -/
theorem at_put_of_diverging (h : Diverging path other) (object value : Json) :
    (object.put path value).at? other = object.at? other := by
  induction path generalizing object other with
  | nil => exact absurd List.nil_prefix h.1
  | cons key path ih =>
      cases other with
      | nil => exact absurd List.nil_prefix h.2
      | cons token other =>
          cases object with
          | obj fields =>
              by_cases hkey : key = token
              · subst hkey
                have hrest : Diverging path other :=
                  (diverging_cons_iff.mp h).resolve_left fun hne => hne rfl
                rw [at_put_cons, at_obj_cons, ih hrest]
                cases Entries.get? key fields with
                | some next => rfl
                | none =>
                    cases other with
                    | nil => exact absurd List.nil_prefix hrest.2
                    | cons token other => rfl
              · show (Entries.get? token (Entries.set key _ fields)).bind (at? other) =
                  (Entries.get? token fields).bind (at? other)
                rw [Entries.get_set_of_ne (Ne.symm hkey)]
          | _ => rfl

/-- A field of what a path leads to stands at the path to the field, unless the field is called like
an index. -/
theorem bind_get_eq_at (h : indexOfToken? key = none) (path : List String) (object : Json) :
    (object.at? path).bind (get? key) = object.at? (path ++ [key]) := by
  rw [at_append]
  refine Option.bind_congr fun value _ => ?_
  cases value with
  | obj fields => exact (Option.bind_fun_some _).symm
  | arr items => rw [at?, step?, h]; rfl
  | _ => rfl

end VirtualApi.Json
