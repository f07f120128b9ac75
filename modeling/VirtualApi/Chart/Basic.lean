import VirtualApi.Resource
import VirtualApi.Yaml.Reader

/-!
# Editor charts

A chart names the kind that an editor opens and the kinds of the components that belong to it.
-/

namespace VirtualApi

/-- A chart: a primary kind and the kinds of its components. -/
structure EditorChart where
  name : String
  resource : GroupVersionKind
  components : List GroupVersionKind := []
deriving DecidableEq, Repr, Inhabited

namespace EditorChart

/-- Read a chart from JSON. -/
def ofJson? (value : Json) : Option EditorChart := do
  let record ← Json.Record.named? ["name", "resource", "components"] value
  pure {
    name := ← record.required "name" Json.str?
    resource := ← record.required "resource" GroupVersionKind.ofJson?
    components := ← record.withDefault "components" [] (Json.list? GroupVersionKind.ofJson?) }

/-- A chart as JSON. -/
def toJson (chart : EditorChart) : Json :=
  .object [("name", .str chart.name), ("resource", chart.resource.toJson),
    ("components", .arr (chart.components.map GroupVersionKind.toJson))]

/-- What is expected of a chart. -/
def shape : Shape :=
  .record [(["name"], .text), (["resource"], GroupVersionKind.shape),
    (["components"], .list GroupVersionKind.shape)]

/-- Read a chart from YAML. -/
def ofText? (text : String) : Option EditorChart := (shape.ofYaml? text.toList).bind ofJson?

end EditorChart

end VirtualApi
