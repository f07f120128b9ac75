import VirtualApi.Chart.Editor

/-!
# The manifests behind an object

Asked for one object, this answers all objects that its chart brings together, by their object ids.
-/

namespace VirtualApi

/-- The object whose manifests are asked for. -/
structure ManifestsRequest where
  group : String := ""
  version : String
  kind : String
  name : String
  namespaceName : String := ""
deriving DecidableEq, Repr, Inhabited

namespace ManifestsRequest

/-- Read a request from JSON. -/
def ofJson? (value : Json) : Option ManifestsRequest := do
  let record ← Json.Record.named? ["group", "version", "kind", "name", "namespace"] value
  pure {
    group := ← record.withDefault "group" "" Json.str?
    version := ← record.required "version" Json.str?
    kind := ← record.required "kind" Json.str?
    name := ← record.required "name" Json.str?
    namespaceName := ← record.withDefault "namespace" "" Json.str? }

/-- The object as it is edited. -/
def model (request : ManifestsRequest) : EditedModel :=
  { resource := ⟨request.group, request.version, request.kind⟩
    namespaceName := request.namespaceName
    name := request.name }

end ManifestsRequest

/-- Objects by their ids. -/
structure ManifestsResponse where
  objects : Entries Json := []
deriving DecidableEq, Repr, Inhabited

namespace ManifestsResponse

/-- Read a response from JSON. -/
def ofJson? (value : Json) : Option ManifestsResponse := do
  let record ← Json.Record.named? ["objects"] value
  pure { objects := ← record.withDefault "objects" [] Json.obj? }

/-- A response as JSON. -/
def toJson (response : ManifestsResponse) : Json := .object [("objects", .obj response.objects)]

/-- Objects by their ids; of several with one id the last counts. -/
def ofObjects (objects : List Json) : ManifestsResponse :=
  ⟨Entries.ofList (objects.map fun object => (objectId object, object))⟩

end ManifestsResponse

/-- Load the manifests behind an object. -/
def loadManifests (registry : ChartRegistry) (cluster : Cluster) (ctx : RequestContext)
    (request : ManifestsRequest) : Action ManifestsResponse := do
  pure (.ofObjects (← ChartEditor.load registry cluster ctx request.model))

end VirtualApi
