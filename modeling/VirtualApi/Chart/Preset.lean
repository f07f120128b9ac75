import VirtualApi.Chart.Editor
import VirtualApi.Label.Structured

/-!
# Presets

A preset holds values for a chart. Presets live in a namespace or in the whole cluster. One is
found by its name, first in the namespace and then in the cluster; without a name all that satisfy
a selector are found, those of the cluster first, so that those of the namespace can be laid over
them.
-/

namespace VirtualApi

/-- What presets are asked for. -/
structure PresetQuery where
  namespaceName : String := ""
  name : String := ""
  selector : Option LabelSelector := none
deriving DecidableEq, Repr

/-- Where a preset comes from. -/
structure PresetSource where
  kind : String
  namespaceName : String := ""
  name : String
deriving DecidableEq, Repr, Inhabited

/-- A preset: where it comes from and its values. -/
structure Preset where
  source : PresetSource
  values : Json := .null
deriving DecidableEq, Repr, Inhabited

namespace PresetQuery

/-- Read a query from JSON. -/
def ofJson? (value : Json) : Option PresetQuery := do
  let record ← Json.Record.named? ["namespace", "name", "selector"] value
  pure {
    namespaceName := ← record.withDefault "namespace" "" Json.str?
    name := ← record.withDefault "name" "" Json.str?
    selector := ← record.optional "selector" LabelSelector.ofJson? }

/-- The selector of a query; none selects everything. -/
def toSelector (query : PresetQuery) : ApiResult Selector :=
  match query.selector with
  | none => .ok .everything
  | some s =>
      match s.toSelector with
      | .ok selector => .ok selector
      | .error e => .error (.badRequest e.message)

end PresetQuery

namespace PresetSource

/-- Read a source from JSON. -/
def ofJson? (value : Json) : Option PresetSource := do
  let record ← Json.Record.named? ["kind", "namespace", "name"] value
  pure {
    kind := ← record.required "kind" Json.str?
    namespaceName := ← record.withDefault "namespace" "" Json.str?
    name := ← record.required "name" Json.str? }

/-- A source as JSON. -/
def toJson (source : PresetSource) : Json :=
  .object ([("kind", .str source.kind), ("name", .str source.name)] ++
    Json.textField? "namespace" source.namespaceName)

end PresetSource

namespace Preset

/-- The group of presets. -/
def group : String := "charts.x-helm.dev"

/-- The kind of presets that live in a namespace. -/
def namespacedKind : String := "ChartPreset"

/-- The kind of presets that live in the cluster. -/
def clusterKind : String := "ClusterChartPreset"

/-- Read a preset from JSON. -/
def ofJson? (value : Json) : Option Preset := do
  let record ← Json.Record.named? ["source", "values"] value
  pure {
    source := ← record.required "source" PresetSource.ofJson?
    values := ← record.withDefault "values" .null some }

/-- A preset as JSON. -/
def toJson (preset : Preset) : Json :=
  .object [("source", preset.source.toJson), ("values", preset.values)]

/-- The preset that an object holds. -/
def ofObject (object : Json) : Preset where
  source := {
    kind := object.textAt ["kind"]
    namespaceName := object.textAt ["metadata", "namespace"]
    name := objectName object }
  values := (object.at? ["spec", "values"]).getD .null

/-- Read presets from JSON. -/
def listOfJson? (value : Json) : Option (List Preset) := do
  let record ← Json.Record.named? ["presets"] value
  record.withDefault "presets" [] (Json.list? ofJson?)

/-- Presets as JSON. -/
def listToJson (presets : List Preset) : Json :=
  .object [("presets", .arr (presets.map toJson))]

/-- The resource of a kind of presets, if it is served. -/
def resource? (cluster : Cluster) (ctx : RequestContext) (kind : String) :
    Action (Option ResourceId) :=
  cluster.resolveKind ctx group kind

/-- The object of a name, unless there is none. -/
def getObject? (cluster : Cluster) (ctx : RequestContext) (resource : ResourceId)
    (ns : String) (name : String) : Action (Option Json) := fun w =>
  match cluster.getObject ctx resource (some ns) name w with
  | (.ok object, w) => (.ok (some object), w)
  | (.error e, w) => if e.isNotFound then (.ok none, w) else (.error e, w)

/-- The preset of a name in a namespace. The kind is resolved even when no namespace is given. -/
def inNamespace? (cluster : Cluster) (ctx : RequestContext) (name : String)
    (ns : Option String) : Action (Option Json) := do
  match ns, ← resource? cluster ctx namespacedKind with
  | some ns, some resource => getObject? cluster ctx resource ns name
  | _, _ => pure none

/-- The preset of a name in the cluster. -/
def inCluster (cluster : Cluster) (ctx : RequestContext) (name : String) : Action Json := do
  match ← resource? cluster ctx clusterKind with
  | some resource => cluster.getObject ctx resource none name
  | none => throw (.notFound group "clusterchartpresets" name)

/-- Find a preset by its name. -/
def byName (cluster : Cluster) (ctx : RequestContext) (ns : Option String) (name : String) :
    Action (List Preset) := do
  match ← inNamespace? cluster ctx name ns with
  | some object => pure [ofObject object]
  | none => pure [ofObject (← inCluster cluster ctx name)]

/-- The objects of a resource of presets, by name. -/
def selected (cluster : Cluster) (ctx : RequestContext) (resource : ResourceId)
    (ns : Option String) (selector : Selector) : Action (List Json) := do
  pure (sortByName (← cluster.listObjects ctx resource ns selector))

/-- The presets of the cluster that satisfy a selector. -/
def selectedInCluster (cluster : Cluster) (ctx : RequestContext) (selector : Selector) :
    Action (List Json) := do
  match ← resource? cluster ctx clusterKind with
  | some resource => selected cluster ctx resource none selector
  | none => pure []

/-- The presets of a namespace that satisfy a selector. The kind is resolved even when no namespace
is given. -/
def selectedInNamespace (cluster : Cluster) (ctx : RequestContext) (selector : Selector)
    (ns : Option String) : Action (List Json) := do
  match ns, ← resource? cluster ctx namespacedKind with
  | some ns, some resource => selected cluster ctx resource (some ns) selector
  | _, _ => pure []

/-- Find presets by a selector. -/
def bySelector (cluster : Cluster) (ctx : RequestContext) (ns : Option String)
    (selector : Selector) : Action (List Preset) := do
  let shared ← selectedInCluster cluster ctx selector
  let own ← selectedInNamespace cluster ctx selector ns
  pure ((shared ++ own).map ofObject)

/-- Find the presets that are asked for. -/
def load (cluster : Cluster) (ctx : RequestContext) (query : PresetQuery) :
    Action (List Preset) := do
  let ns := nonEmpty? query.namespaceName
  match nonEmpty? query.name with
  | some name => byName cluster ctx ns name
  | none => do
      let selector ← Action.ofResult query.toSelector
      bySelector cluster ctx ns selector

end Preset

end VirtualApi
