import VirtualApi.Cluster.Basic
import VirtualApi.Label.Structured
import VirtualApi.Options

/-!
# Rendering live objects

A rendering reads one object of the cluster by its name, or with a selector all objects that
satisfy it.
-/

namespace VirtualApi

/-- What is rendered. -/
structure RenderingRequest where
  resource : GroupVersionKind
  namespaceName : String := ""
  name : String := ""
  /-- With a selector objects are listed. -/
  selector : Option LabelSelector := none
deriving DecidableEq, Repr

namespace RenderingRequest

/-- Read the reference to an object: its namespace and its name. -/
def referenceOfJson? (value : Json) : Option (String × String) := do
  let record ← Json.Record.named? ["namespace", "name"] value
  pure (← record.withDefault "namespace" "" Json.str?, ← record.withDefault "name" "" Json.str?)

/-- Read a request from JSON. -/
def ofJson? (value : Json) : Option RenderingRequest := do
  let record ← Json.Record.named? ["resource", "ref", "selector"] value
  let resource ← record.required "resource" GroupVersionKind.ofJson?
  let (ns, name) ← record.required "ref" referenceOfJson?
  let selector ← record.optional "selector" LabelSelector.ofJson?
  pure { resource := resource, namespaceName := ns, name := name, selector := selector }

end RenderingRequest

/-- Read the object, or list the objects, that are asked for. -/
def renderObjects (cluster : Cluster) (ctx : RequestContext) (request : RenderingRequest) :
    Action Json := do
  let resource ← cluster.resolve ctx request.resource
  let ns := nonEmpty? request.namespaceName
  match request.selector with
  | none => cluster.getObject ctx resource ns request.name
  | some structured =>
      match structured.toSelector with
      | .error e => throw (.badRequest e.message)
      | .ok selector => do
          let items ← cluster.listObjects ctx resource ns selector
          let list : ObjectList := { apiVersion := "v1", kind := "List", items := items }
          pure list.toJson

end VirtualApi
