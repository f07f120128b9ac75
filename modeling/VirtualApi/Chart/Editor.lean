import VirtualApi.Chart.Registry
import VirtualApi.Cluster.Basic

/-!
# The objects behind a chart

An editor opens one object together with the objects that belong to it: those of the chart's
component kinds that carry the object's name as their instance label. Component kinds that the
cluster does not serve are left out.
-/

namespace VirtualApi

/-- The object that an editor is opened on. -/
structure EditedModel where
  resource : GroupVersionKind
  namespaceName : String := ""
  name : String
deriving DecidableEq, Repr, Inhabited

/-- Objects in the order of their names; equal names keep their order. -/
def sortByName (objects : List Json) : List Json :=
  objects.mergeSort fun a b => objectName a ≤ objectName b

/-- The text that tells objects apart. -/
def objectId (object : Json) : String :=
  let gvk := (GroupVersionKind.ofObject? object).getD {}
  "G=" ++ gvk.group ++ ",K=" ++ gvk.kind ++ ",NS=" ++ object.textAt ["metadata", "namespace"] ++
    ",N=" ++ objectName object

/-- A requirement that a label has a value; a value that no label can have is the caller's error. -/
def labelEquals (key value : String) : ApiResult Label.Requirement :=
  match Label.Requirement.make key .equals [value] with
  | .ok requirement => .ok requirement
  | .error e => .error (.badRequest e.message)

namespace ChartEditor

/-- The label that says which instance an object belongs to. -/
def instanceLabel : String := "app.kubernetes.io/instance"

/-- The resource of a component, unless its kind is not served. -/
def componentResource? (cluster : Cluster) (ctx : RequestContext) (gvk : GroupVersionKind) :
    Action (Option ResourceId) := fun w =>
  match cluster.resolve ctx gvk w with
  | (.ok resource, w) => (.ok (some resource), w)
  | (.error e, w) => if e.code = 400 then (.ok none, w) else (.error e, w)

/-- The objects of one component. -/
def loadComponent (cluster : Cluster) (ctx : RequestContext) (ns : Option String)
    (selector : Selector) (gvk : GroupVersionKind) : Action (List Json) := do
  match ← componentResource? cluster ctx gvk with
  | none => pure []
  | some resource => pure (sortByName (← cluster.listObjects ctx resource ns selector))

/-- The objects of several components, one component after the other. -/
def loadComponents (cluster : Cluster) (ctx : RequestContext) (ns : Option String)
    (selector : Selector) : List GroupVersionKind → Action (List Json)
  | [] => pure []
  | gvk :: rest => do
      let first ← loadComponent cluster ctx ns selector gvk
      let others ← loadComponents cluster ctx ns selector rest
      pure (first ++ others)

/-- The object that is edited, followed by the objects of every component. -/
def load (registry : ChartRegistry) (cluster : Cluster) (ctx : RequestContext)
    (model : EditedModel) : Action (List Json) := do
  let chart ← registry.chartFor model.resource.group model.resource.kind
  let ns := nonEmpty? model.namespaceName
  let resource ← cluster.resolve ctx model.resource
  let primary ← cluster.getObject ctx resource ns model.name
  let requirement ← Action.ofResult (labelEquals instanceLabel model.name)
  let selector := Selector.everything.push requirement
  let components ← loadComponents cluster ctx ns selector chart.components
  pure (primary :: components)

end ChartEditor

end VirtualApi
