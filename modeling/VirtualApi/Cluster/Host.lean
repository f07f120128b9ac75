import VirtualApi.Cluster.Discovery
import VirtualApi.Cluster.Mapper
import VirtualApi.Object.Dynamic
import VirtualApi.Object.Host

/-!
# A host cluster behind a transport

Objects are asked for under the paths of their resource; the resource of a kind is found by a mapper
over the kinds that the cluster lists.
-/

namespace VirtualApi.HostCluster

/-- The error of a request for objects that cannot be built. -/
def unbuildable (e : UriError) : String :=
  "Failed to build request: failed to build request: " ++ e.message

/-- The path of a resource, in a namespace where one is given. -/
def path (group version plural : String) (ns : Option String) : String :=
  let root := if group = "" then "/api/" else "/apis/" ++ group ++ "/"
  let within := match ns with
    | some ns => "namespaces/" ++ ns ++ "/"
    | none => ""
  root ++ version ++ "/" ++ within ++ plural

/-- The path of a resource; only one whose objects live in namespaces is asked for in one. -/
def resourcePath (resource : ResourceId) (ns : Option String) : String :=
  path resource.group resource.version resource.name
    (if resource.isNamespaced then ns else none)

/-- The resource of a kind. -/
def resolve (transport : Transport) (ctx : RequestContext) (gvk : GroupVersionKind) :
    Action ResourceId :=
  Mapper.resolve (Discovery.ask transport) ctx gvk

/-- The resource of a group and kind in its preferred version, if it is served. -/
def resolveKind (transport : Transport) (ctx : RequestContext) (group kind : String) :
    Action (Option ResourceId) :=
  Mapper.resolveKind (Discovery.ask transport) ctx group kind

/-- Ask for something at a path. -/
def ask {α : Type} (transport : Transport) (ctx : RequestContext) (text : String)
    (read : RawReader α) : Action α :=
  ctx.run (transport.get unbuildable text read)

/-- An object by its name. -/
def getObject (transport : Transport) (ctx : RequestContext) (resource : ResourceId)
    (ns : Option String) (name : String) : Action Json := do
  let object ← ask transport ctx (resourcePath resource ns ++ "/" ++ name) Dynamic.object?
  pure (Dynamic.stripManagedFields object)

/-- The objects whose labels satisfy a selector. -/
def listObjects (transport : Transport) (ctx : RequestContext) (resource : ResourceId)
    (ns : Option String) (selector : Selector) : Action (List Json) := do
  let items ← ask transport ctx (resourcePath resource ns ++ Uri.listQuery selector)
    (Dynamic.items? Dynamic.object?)
  pure (items.map Dynamic.stripManagedFields)

/-- The nodes. -/
def nodes (transport : Transport) (ctx : RequestContext) : Action (List Node) :=
  ask transport ctx (path "" "v1" "nodes" none ++ Uri.listQuery .everything)
    (Dynamic.items? (Node.shape.reader Node.ofJson?))

/-- The namespaces whose labels satisfy a selector. -/
def namespaces (transport : Transport) (ctx : RequestContext) (selector : Selector) :
    Action (List Namespace) :=
  ask transport ctx (path "" "v1" "namespaces" none ++ Uri.listQuery selector)
    (Dynamic.items? (Namespace.shape.reader Namespace.ofJson?))

/-- The services in a namespace whose labels satisfy a selector. -/
def services (transport : Transport) (ctx : RequestContext) (ns : Option String)
    (selector : Selector) : Action (List Service) :=
  ask transport ctx (path "" "v1" "services" ns ++ Uri.listQuery selector)
    (Dynamic.items? (Service.shape.reader Service.ofJson?))

/-- The version of the cluster. -/
def version (transport : Transport) (ctx : RequestContext) : Action VersionInfo :=
  ask transport ctx "/version" (VersionInfo.shape.reader VersionInfo.ofJson?)

end VirtualApi.HostCluster
