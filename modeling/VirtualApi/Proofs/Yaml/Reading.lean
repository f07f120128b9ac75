import VirtualApi.Yaml.Reader

/-!
# What a node is read as

One equation for each kind of shape that is read from a node: what is read depends on the parts of
the node alone.
-/

namespace VirtualApi.Yaml

variable {document : Document} {room : Nat} {text : String} {style : ScalarStyle}
  {tag : Option String} {entries : List (Node × Node)}

/-- A text is read as its characters. -/
theorem read_text : read? document room .text (.scalar text style tag) = pure (.str text) := by
  funext n
  rw [read?.eq_def]
  rfl

/-- Where something is optional, a text that does not stand for nothing is read as what it is. -/
theorem read_optional {shape : Shape} (h : isAbsent? text style tag = some false) :
    read? document room (.optional shape) (.scalar text style tag) =
      read? document room shape (.scalar text style tag) := by
  funext n
  rw [read?.eq_def]
  simp only [resolve?, pure_bind, h]

/-- A record is read entry by entry. -/
theorem read_record {fields : List (List String × Shape)} :
    read? document (room + 1) (.record fields) (.mapping entries tag) = (do
      let given ← entries.mapM fun (k, v) => do
        let key ← keyText? document k
        match Shape.field? fields key with
        | some shape => pure (some (key, ← read? document room shape v))
        | none => pure none
      let given := given.filterMap id
      if Shape.repeats fields (given.map (·.1)) then failure else pure (.object given)) := by
  funext n
  rw [read?.eq_def]
  rfl

/-- So is an object. -/
theorem read_object {fields : List (String × Shape)} :
    read? document (room + 1) (.object fields) (.mapping entries tag) = (do
      let given ← entries.mapM fun (k, v) => do
        let key ← keyText? document k
        match fields.lookup key with
        | some shape => pure (some (key, ← read? document room shape v))
        | none => pure none
      pure (.object (given.filterMap id))) := by
  funext n
  rw [read?.eq_def]
  rfl

end VirtualApi.Yaml
