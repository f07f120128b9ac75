import VirtualApi.Json.Shape
import VirtualApi.Yaml.Node
import VirtualApi.Yaml.Plain

/-!
# Reading YAML as JSON

What a node means depends on what is expected of it: where a text is expected, a plain scalar is its
characters; where a list or record is, a blank is an empty one. `Shape.ofYaml?` gives the JSON value
that a text has in a shape. Nodes nest at most 128 levels deep, and aliases are followed at most a
hundred times for each start or end of a node of the document.
-/

namespace VirtualApi.Yaml

/-- Count one alias that is followed; there are only so many. -/
def follow? : StateT Nat Option Unit := do
  match ← get with
  | 0 => failure
  | left + 1 => set left

/-- The node that a node stands for. -/
def resolve? (document : Document) : Node → StateT Nat Option Node
  | .alias anchor => do
      follow?
      match document.target? anchor with
      | some node => pure node
      | none => failure
  | node => pure node

/-- The text of a key. -/
def keyText? (document : Document) (key : Node) : StateT Nat Option String := do
  match ← resolve? document key with
  | .scalar s _ _ => pure s
  | _ => failure

/-- A node that stands where nothing is written. -/
def isBlank : Node → Bool
  | .scalar "" .plain _ => true
  | _ => false

/-- A scalar that stands for nothing where something is optional; none when its tag says that it
does and it does not. -/
def isAbsent? (text : String) (style : ScalarStyle) (tag : Option String) : Option Bool :=
  if style ≠ .plain then some false
  else if tag = some Tag.null then
    if Plain.isNullWord text.toList then some true else none
  else some (tag = none && Plain.isNull text.toList)

/-- A scalar may be read as what a tag stands for: it is plain, or a literal block with the tag. -/
def mayBe (expected : String) (style : ScalarStyle) (tag : Option String) : Bool :=
  style = .plain || (style = .literal && tag = some expected)

/-- The value of a scalar of which nothing is expected. A tag for another kind of value than a text
has to fit. -/
def scalar? (text : String) (style : ScalarStyle) (tag : Option String) : Option Json :=
  match tag with
  | none => if style = .plain then Plain.json? text.toList else some (.str text)
  | some tag =>
      if tag = Tag.bool then (Plain.bool? text.toList).map .bool
      else if tag = Tag.int then (Plain.int? text.toList).bind Plain.wholeJson?
      else if tag = Tag.float then Plain.realJson? text.toList
      else if tag = Tag.null then if Plain.isNullWord text.toList then some .null else none
      else some (.str text)

/-- The value that a node has in a shape. `room` is how many more levels may open, and the state how
many more aliases may be followed. -/
def read? (document : Document) : Nat → Shape → Node → StateT Nat Option Json
  | room, .checked shape test, node => do
      let value ← read? document room shape node
      if test value then pure value else failure
  | 0, .wrapped _, _ => failure
  | room + 1, .wrapped shape, node => read? document room shape node
  | room, .optional shape, node => do
      let node ← resolve? document node
      match node with
      | .scalar s style tag =>
          match isAbsent? s style tag with
          | some true => pure .null
          | some false => read? document room shape node
          | none => failure
      | _ => read? document room shape node
  | room, shape, node => do
      let node ← resolve? document node
      match shape, node, room with
      | .any, .scalar s style tag, _ =>
          if (Tag.localName? tag).isSome then failure else liftM (scalar? s style tag)
      | .any, .sequence items tag, room + 1 => do
          if (Tag.localName? tag).isSome then failure
          pure (.arr (← items.mapM (read? document room .any)))
      | .any, .mapping entries tag, room + 1 => do
          if (Tag.localName? tag).isSome then failure
          let fields ← entries.mapM fun (k, v) => do
            let key ← keyText? document k
            pure (key, ← read? document room .any v)
          pure (.object fields)
      | .text, .scalar s _ _, _ => pure (.str s)
      | .bool, .scalar s style tag, _ =>
          if mayBe Tag.bool style tag then liftM ((Plain.bool? s.toList).map Json.bool) else failure
      | .int, .scalar s style tag, _ =>
          if mayBe Tag.int style tag then liftM ((Plain.int? s.toList).map Json.int) else failure
      | .choice, .scalar s style tag, _ =>
          match Tag.localName? tag with
          | some name =>
              if style = .plain && Plain.isNull s.toList then pure (.str name) else failure
          | none => pure (.str s)
      | .list item, .sequence items _, room + 1 => do
          pure (.arr (← items.mapM (read? document room item)))
      | .list _, node, _ => if isBlank node then pure (.arr []) else failure
      | .map value, .mapping entries _, room + 1 => do
          let fields ← entries.mapM fun (k, v) => do
            let key ← keyText? document k
            pure (key, ← read? document room value v)
          pure (.object fields)
      | .map _, node, _ => if isBlank node then pure .empty else failure
      | .record fields, .mapping entries _, room + 1 => do
          let given ← entries.mapM fun (k, v) => do
            let key ← keyText? document k
            match Shape.field? fields key with
            | some shape => pure (some (key, ← read? document room shape v))
            | none => pure none
          let given := given.filterMap id
          if Shape.repeats fields (given.map (·.1)) then failure else pure (.object given)
      | .record _, node, _ => if isBlank node then pure .empty else failure
      | .object fields, .mapping entries _, room + 1 => do
          let given ← entries.mapM fun (k, v) => do
            let key ← keyText? document k
            match fields.lookup key with
            | some shape => pure (some (key, ← read? document room shape v))
            | none => pure none
          pure (.object (given.filterMap id))
      | .object _, node, _ => if isBlank node then pure .empty else failure
      | _, _, _ => failure
termination_by room shape => (room, sizeOf shape)

/-- How many levels a document may nest. -/
def maxLevels : Nat := 128

/-- How many aliases may be followed for each start or end of a node. -/
def aliasesPerEvent : Nat := 100

/-- The value of a document that holds nothing at all. -/
def ofNothing? : Shape → Option Json
  | .any | .optional _ => some .null
  | .list _ => some (.arr [])
  | .map _ | .record _ | .object _ => some .empty
  | .wrapped shape => ofNothing? shape
  | .checked shape test => (ofNothing? shape).filter test
  | .text | .bool | .int | .choice => none

end VirtualApi.Yaml

namespace VirtualApi

/-- The value that a YAML text has in a shape. -/
def Shape.ofYaml? (shape : Shape) (text : List Char) : Option Json := do
  let document ← Yaml.Document.ofText? text
  match document.root with
  | none => Yaml.ofNothing? shape
  | some node =>
      let (value, _) ← Yaml.read? document Yaml.maxLevels shape node
        (document.events * Yaml.aliasesPerEvent)
      some value

end VirtualApi
