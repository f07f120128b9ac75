import VirtualApi.Cluster.Mapper
import VirtualApi.Object.Host

/-!
# A cluster held in memory

A memory cluster answers from lists: the resources it serves, objects as JSON, and typed nodes,
namespaces and services. Every answer takes the same time.
-/

namespace VirtualApi

/-- The resources that a memory cluster serves to begin with. -/
def builtinResources : List ResourceId :=
  let core (name kind : String) (scope : ResourceScope) : ResourceId :=
    ⟨"", "v1", name, kind, scope⟩
  let apps (name kind : String) : ResourceId := ⟨"apps", "v1", name, kind, .namespaced⟩
  [core "pods" "Pod" .namespaced, core "services" "Service" .namespaced,
    core "configmaps" "ConfigMap" .namespaced, core "secrets" "Secret" .namespaced,
    core "namespaces" "Namespace" .cluster, core "nodes" "Node" .cluster,
    apps "deployments" "Deployment", apps "replicasets" "ReplicaSet",
    apps "statefulsets" "StatefulSet", apps "daemonsets" "DaemonSet",
    ⟨"batch", "v1", "jobs", "Job", .namespaced⟩]

/-- The resource whose presence says that a cluster is managed in projects. -/
def managedProjects : ResourceId :=
  ⟨"management.cattle.io", "v3", "projects", "Project", .namespaced⟩

/-- The resource of gateway classes. -/
def gatewayClasses : ResourceId :=
  ⟨"gateway.networking.k8s.io", "v1", "gatewayclasses", "GatewayClass", .cluster⟩

/-- A cluster held in memory. -/
structure MemoryCluster where
  resources : List ResourceId := builtinResources
  objects : List Json := []
  nodes : List Node := []
  namespaces : List Namespace := []
  services : List Service := []
  version : VersionInfo := { major := "1", minor := "29", gitVersion := "v1.29.0" }
  /-- The milliseconds that every answer takes. -/
  latency : Nat := 0
deriving DecidableEq, Repr, Inhabited

namespace MemoryCluster

/-- Read a list that may be missing. -/
def list? {α : Type} (value : Json) (field : String) (read : Json → Option α) :
    Option (List α) :=
  match value.get? field with
  | none => some []
  | some items => do (← items.arr?).mapM read

/-- Read a cluster from JSON: what it serves besides the built-in resources, and what it holds. -/
def ofJson? (value : Json) : Option MemoryCluster := do
  let given (field : String) : Bool := ((value.get? field).bind Json.bool?).getD false
  let served ← list? value "resources" ResourceId.ofJson?
  pure {
    resources := (if given "noBuiltins" then [] else builtinResources) ++
      (if given "rancher" then [managedProjects] else []) ++
      (if given "gatewayApi" then [gatewayClasses] else []) ++ served
    objects := ← list? value "objects" some
    nodes := ← list? value "nodes" Node.ofJson?
    namespaces := ← list? value "namespaces" Namespace.ofJson?
    services := ← list? value "services" Service.ofJson?
    version := ← match value.get? "version" with
      | none => some ({} : MemoryCluster).version
      | some version => VersionInfo.ofJson? version
    latency := ((value.get? "latencyMs").bind Json.uint64?).getD 0 }

/-- Ask the cluster a question whose answer is this. -/
def answer {α : Type} (cluster : MemoryCluster) (ctx : RequestContext) (question : ClusterQuestion)
    (result : ApiResult α) : Action α :=
  ctx.run do
    Call.emit (.clusterAsked question)
    Call.wait cluster.latency
    Call.answer result

/-- The resource that is served for a kind. -/
def findKind (cluster : MemoryCluster) (gvk : GroupVersionKind) : ApiResult ResourceId :=
  match cluster.resources.find? fun r => r.gvk = gvk with
  | some r => .ok r
  | none => .error (noMatch gvk)

/-- An object is of a resource and lives in a namespace, where one is given that matters. -/
def isOf (resource : ResourceId) (ns : Option String) (object : Json) : Bool :=
  object.textAt ["apiVersion"] = resource.apiVersion && object.textAt ["kind"] = resource.kind &&
    match ns with
    | some ns => !resource.isNamespaced || object.textAt ["metadata", "namespace"] = ns
    | none => true

/-- The first object of a resource with a name. -/
def findObject (cluster : MemoryCluster) (resource : ResourceId) (ns : Option String)
    (name : String) : ApiResult Json :=
  match cluster.objects.find? fun o =>
      isOf resource ns o && o.textAt ["metadata", "name"] = name with
  | some object => .ok object
  | none => .error (.hostStatus 404 "NotFound" (resource.name ++ " \"" ++ name ++ "\" not found"))

/-- The objects of a resource whose labels satisfy a selector. -/
def selectObjects (cluster : MemoryCluster) (resource : ResourceId) (ns : Option String)
    (selector : Selector) : List Json :=
  cluster.objects.filter fun o => isOf resource ns o && selector.holds o.labels

/-- The namespaces whose labels satisfy a selector. -/
def selectNamespaces (cluster : MemoryCluster) (selector : Selector) : List Namespace :=
  cluster.namespaces.filter fun n => selector.holdsOpt n.metadata.labels

/-- The services in a namespace whose labels satisfy a selector. -/
def selectServices (cluster : MemoryCluster) (ns : Option String) (selector : Selector) :
    List Service :=
  cluster.services.filter fun s =>
    ns.all (s.metadata.namespaceName = some ·) && selector.holdsOpt s.metadata.labels

end MemoryCluster

end VirtualApi
