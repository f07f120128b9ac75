import VirtualApi.Catalog.Outline

/-!
# Resource layouts

A layout is an outline whose references are replaced by the resources they name, with their columns.
`ResourceLayout.ofOutline` replaces the header first, then block by block; the first block that
cannot be replaced decides the error.
-/

namespace VirtualApi

/-- A block with the resource that it shows. -/
structure BlockLayout where
  kind : BlockKind
  name : String := ""
  fieldPath : String := ""
  resource : Option ResourceId := none
  columns : List ResourceColumn := []
deriving DecidableEq, Repr, Inhabited

/-- A block as JSON. -/
def BlockLayout.toJson (block : BlockLayout) : Json :=
  .object ([("kind", .str block.kind.name)] ++ Json.textField? "name" block.name ++
    Json.textField? "fieldPath" block.fieldPath ++
    Json.field? "resource" ResourceId.toJson block.resource ++
    Json.listField? "columns" ResourceColumn.toJson block.columns)

/-- An arrangement whose blocks carry the resources that they show. -/
structure ResourceLayout where
  metadata : ObjectMeta
  spec : Arrangement BlockLayout
deriving DecidableEq, Repr, Inhabited

namespace ResourceLayout

/-- The kind of layouts. -/
def kind : String := "ResourceLayout"

/-- A layout as JSON. -/
def toJson (layout : ResourceLayout) : Json :=
  .object [("apiVersion", .str metaApiVersion), ("kind", .str kind),
    ("metadata", layout.metadata.toJson), ("spec", layout.spec.toJson BlockLayout.toJson)]

/-- The first descriptor of a group and kind. -/
def descriptor? (descriptors : Catalog ResourceDescriptor) (group kind : String) :
    Option ResourceDescriptor :=
  descriptors.entries.find? (·.describes group kind)

/-- A block of an outline with the resource that it shows. -/
def resolveBlock (descriptors : Catalog ResourceDescriptor) (outline : ResourceOutline)
    (block : BlockOutline) : Except CatalogError BlockLayout :=
  let plain : BlockLayout :=
    { kind := block.kind, name := block.name, fieldPath := block.fieldPath }
  match block.reference, block.kind with
  | some g, _ =>
      match descriptor? descriptors g.group g.kind with
      | some d => .ok { plain with resource := some d.resource, columns := d.columns }
      | none => .error (.unresolved outline.name g.group g.kind)
  | none, .own =>
      let own := outline.spec.resource
      .ok { plain with
        resource := some own
        columns := ((descriptor? descriptors own.group own.kind).map (·.columns)).getD [] }
  | none, .block => .ok plain
  | none, .subTable | none, .connection => .error (.missingReference outline.name block.name)

/-- Replace the blocks of a section. -/
def resolveSection (resolve : BlockOutline → Except CatalogError BlockLayout)
    (part : Section BlockOutline) : Except CatalogError (Section BlockLayout) := do
  pure ⟨part.name, ← part.blocks.mapM resolve⟩

/-- Replace the blocks of a page. -/
def resolvePage (resolve : BlockOutline → Except CatalogError BlockLayout)
    (page : Page BlockOutline) : Except CatalogError (Page BlockLayout) := do
  pure ⟨page.name, ← page.sections.mapM (resolveSection resolve)⟩

/-- The layout of an outline. It keeps the outline's name and labels. -/
def ofOutline (descriptors : Catalog ResourceDescriptor) (outline : ResourceOutline) :
    Except CatalogError ResourceLayout := do
  let resolve := resolveBlock descriptors outline
  let header ← outline.spec.header.mapM resolve
  let pages ← outline.spec.pages.mapM (resolvePage resolve)
  pure {
    metadata := { name := outline.metadata.name, labels := outline.metadata.labels }
    spec := {
      resource := outline.spec.resource
      defaultLayout := outline.spec.defaultLayout
      header := header
      pages := pages } }

end ResourceLayout

end VirtualApi
