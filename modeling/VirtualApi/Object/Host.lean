import VirtualApi.Object.Meta
import VirtualApi.Quantity.ResourceList

/-!
# Host objects

The objects of the host cluster that are read with types: nodes with their resources, namespaces,
services with the addresses they are reachable at, and what the cluster says of its version. Only
objects read; one that gives itself another API version or kind than its own is refused.
-/

namespace VirtualApi

/-- The API version and the kind that an object gives itself, where it gives any, are these. -/
def namesItself (apiVersion kind : String) (record : Json.Record) : Bool :=
  (record.get? "apiVersion").all (· = .str apiVersion) && (record.get? "kind").all (· = .str kind)

/-- What is expected of an object of a kind, besides its metadata. -/
def objectShape (apiVersion kind : String) (fields : List (String × Shape)) : Shape :=
  .object ([("apiVersion", .exactly apiVersion), ("kind", .exactly kind)] ++
    Shape.optionalFields (("metadata", ObjectMeta.shape) :: fields))

/-- The fields that every written object has. -/
def objectFields (apiVersion kind : String) (metadata : ObjectMeta) : List (String × Json) :=
  [("apiVersion", .str apiVersion), ("kind", .str kind), ("metadata", metadata.toJson)]

/-! ## Nodes -/

/-- What a node reports about itself. -/
structure NodeStatus where
  capacity : Option ResourceList := none
  allocatable : Option ResourceList := none
  /-- The other fields, in their written form. -/
  other : Entries Json := []
deriving DecidableEq, Repr, Inhabited

/-- A node of the host cluster. -/
structure Node where
  metadata : ObjectMeta := {}
  spec : Option Json := none
  status : Option NodeStatus := none
deriving DecidableEq, Repr, Inhabited

namespace Node

/-- Where the configuration of a node comes from. -/
def configSource : Schema :=
  .record (Schema.optionalFields [("configMap", .record (
    Schema.alwaysFields [("kubeletConfigKey", .text), ("name", .text), ("namespace", .text)] ++
    Schema.optionalFields [("resourceVersion", .text), ("uid", .text)]))])

/-- The fields of a node's specification. -/
def specSchema : Schema :=
  .record (Schema.optionalFields [("configSource", configSource), ("externalID", .text),
    ("podCIDR", .text), ("podCIDRs", .list .text), ("providerID", .text),
    ("taints", .list (.record (Schema.alwaysFields [("effect", .text), ("key", .text)] ++
      Schema.optionalFields [("timeAdded", .time), ("value", .text)]))),
    ("unschedulable", .bool)])

/-- What a node says of the software it runs. -/
def systemInfo : Schema :=
  .record (Schema.alwaysFields [("architecture", .text), ("bootID", .text),
    ("containerRuntimeVersion", .text), ("kernelVersion", .text), ("kubeProxyVersion", .text),
    ("kubeletVersion", .text), ("machineID", .text), ("operatingSystem", .text),
    ("osImage", .text), ("systemUUID", .text)])

/-- The fields of a node's status that have no type of their own. -/
def otherStatusFields : List (String × Bool × Schema) :=
  Schema.optionalFields [
    ("addresses", .list (.record (Schema.alwaysFields [("address", .text), ("type", .text)]))),
    ("conditions", .list (.record (Schema.alwaysFields [("status", .text), ("type", .text)] ++
      Schema.optionalFields [("lastHeartbeatTime", .time), ("lastTransitionTime", .time),
        ("message", .text), ("reason", .text)]))),
    ("config", .record (Schema.optionalFields [("active", configSource), ("assigned", configSource),
      ("error", .text), ("lastKnownGood", configSource)])),
    ("daemonEndpoints", .record (Schema.optionalFields [("kubeletEndpoint",
      .record (Schema.alwaysFields [("Port", .int32)]))])),
    ("images", .list (.record (Schema.optionalFields [("names", .list .text),
      ("sizeBytes", .int64)]))),
    ("nodeInfo", systemInfo), ("phase", .text),
    ("volumesAttached", .list (.record (Schema.alwaysFields [("devicePath", .text),
      ("name", .text)]))),
    ("volumesInUse", .list .text)]

/-- Read a node's status. -/
def statusOfJson? : Json → Option NodeStatus
  | .obj given => do
      let record : Json.Record := ⟨given⟩
      pure {
        capacity := ← record.optional "capacity" Json.textMap?
        allocatable := ← record.optional "allocatable" Json.textMap?
        other := ← Schema.readFields? given otherStatusFields }
  | _ => none

/-- A node's status as an object. -/
def statusToJson (status : NodeStatus) : Json :=
  .object (status.other ++ Json.field? "capacity" ResourceList.toJson status.capacity ++
    Json.field? "allocatable" ResourceList.toJson status.allocatable)

/-- Read a node. -/
def ofJson? : Json → Option Node
  | .obj given => do
      let record : Json.Record := ⟨given⟩
      if !namesItself "v1" "Node" record then none
      pure {
        metadata := (← record.optional "metadata" ObjectMeta.ofJson?).getD {}
        spec := ← record.optional "spec" specSchema.read?
        status := ← record.optional "status" statusOfJson? }
  | _ => none

/-- What is expected of a node. -/
def shape : Shape :=
  objectShape "v1" "Node" [("spec", specSchema.shape), ("status", .object (
    Shape.optionalFields [("capacity", .map .text), ("allocatable", .map .text)] ++
    Schema.fieldShapes otherStatusFields))]

/-- A node as an object. -/
def toJson (node : Node) : Json :=
  .object (objectFields "v1" "Node" node.metadata ++ Json.field? "spec" id node.spec ++
    Json.field? "status" statusToJson node.status)

end Node

/-! ## Namespaces -/

/-- A namespace of the host cluster. -/
structure Namespace where
  metadata : ObjectMeta := {}
  spec : Option Json := none
  status : Option Json := none
deriving DecidableEq, Repr, Inhabited

namespace Namespace

/-- The fields of a namespace's specification. -/
def specSchema : Schema := .record (Schema.optionalFields [("finalizers", .list .text)])

/-- The fields of a namespace's status. -/
def statusSchema : Schema :=
  .record (Schema.optionalFields [
    ("conditions", .list (.record (Schema.alwaysFields [("status", .text), ("type", .text)] ++
      Schema.optionalFields [("lastTransitionTime", .time), ("message", .text),
        ("reason", .text)]))),
    ("phase", .text)])

/-- Read a namespace. -/
def ofJson? : Json → Option Namespace
  | .obj given => do
      let record : Json.Record := ⟨given⟩
      if !namesItself "v1" "Namespace" record then none
      pure {
        metadata := (← record.optional "metadata" ObjectMeta.ofJson?).getD {}
        spec := ← record.optional "spec" specSchema.read?
        status := ← record.optional "status" statusSchema.read? }
  | _ => none

/-- What is expected of a namespace. -/
def shape : Shape :=
  objectShape "v1" "Namespace" [("spec", specSchema.shape), ("status", statusSchema.shape)]

/-- A namespace as an object. -/
def toJson (ns : Namespace) : Json :=
  .object (objectFields "v1" "Namespace" ns.metadata ++ Json.field? "spec" id ns.spec ++
    Json.field? "status" id ns.status)

end Namespace

/-! ## Services -/

/-- An address a load balancer gives to a service. -/
structure Ingress where
  ip : Option String := none
  hostname : Option String := none
  /-- The other fields, in their written form. -/
  other : Entries Json := []
deriving DecidableEq, Repr, Inhabited

/-- How a service is exposed. -/
structure ServiceSpec where
  type : Option String := none
  /-- The other fields, in their written form. -/
  other : Entries Json := []
deriving DecidableEq, Repr, Inhabited

/-- What a load balancer reports: the addresses it gave out. -/
structure LoadBalancer where
  ingress : Option (List Ingress) := none
deriving DecidableEq, Repr, Inhabited

/-- What is known of a service. -/
structure ServiceStatus where
  loadBalancer : Option LoadBalancer := none
  /-- The other fields, in their written form. -/
  other : Entries Json := []
deriving DecidableEq, Repr, Inhabited

/-- A service of the host cluster. -/
structure Service where
  metadata : ObjectMeta := {}
  spec : Option ServiceSpec := none
  status : Option ServiceStatus := none
deriving DecidableEq, Repr, Inhabited

namespace Service

/-- The fields of an address that have no type of their own. -/
def otherIngressFields : List (String × Bool × Schema) :=
  Schema.optionalFields [("ipMode", .text),
    ("ports", .list (.record (Schema.alwaysFields [("port", .int32), ("protocol", .text)] ++
      Schema.optionalFields [("error", .text)])))]

/-- The fields of a service's specification that have no type of their own. -/
def otherSpecFields : List (String × Bool × Schema) :=
  Schema.optionalFields [("allocateLoadBalancerNodePorts", .bool), ("clusterIP", .text),
    ("clusterIPs", .list .text), ("externalIPs", .list .text), ("externalName", .text),
    ("externalTrafficPolicy", .text), ("healthCheckNodePort", .int32),
    ("internalTrafficPolicy", .text), ("ipFamilies", .list .text), ("ipFamilyPolicy", .text),
    ("loadBalancerClass", .text), ("loadBalancerIP", .text),
    ("loadBalancerSourceRanges", .list .text),
    ("ports", .list (.record (Schema.alwaysFields [("port", .int32)] ++
      Schema.optionalFields [("appProtocol", .text), ("name", .text), ("nodePort", .int32),
        ("protocol", .text), ("targetPort", .intOrText)]))),
    ("publishNotReadyAddresses", .bool), ("selector", .map .text), ("sessionAffinity", .text),
    ("sessionAffinityConfig", .record (Schema.optionalFields [("clientIP",
      .record (Schema.optionalFields [("timeoutSeconds", .int32)]))]))]

/-- The fields of a service's status that have no type of their own. -/
def otherStatusFields : List (String × Bool × Schema) :=
  Schema.optionalFields [("conditions", .list (.record (
    Schema.alwaysFields [("lastTransitionTime", .time), ("message", .text), ("reason", .text),
      ("status", .text), ("type", .text)] ++
    Schema.optionalFields [("observedGeneration", .int64)])))]

/-- Read an address. -/
def ingressOfJson? : Json → Option Ingress
  | .obj given => do
      let record : Json.Record := ⟨given⟩
      pure {
        ip := ← record.optional "ip" Json.str?
        hostname := ← record.optional "hostname" Json.str?
        other := ← Schema.readFields? given otherIngressFields }
  | _ => none

/-- An address as an object. -/
def ingressToJson (ingress : Ingress) : Json :=
  .object (ingress.other ++ Json.field? "ip" .str ingress.ip ++
    Json.field? "hostname" .str ingress.hostname)

/-- Read a specification. -/
def specOfJson? : Json → Option ServiceSpec
  | .obj given => do
      let record : Json.Record := ⟨given⟩
      pure {
        type := ← record.optional "type" Json.str?
        other := ← Schema.readFields? given otherSpecFields }
  | _ => none

/-- A specification as an object. -/
def specToJson (spec : ServiceSpec) : Json :=
  .object (spec.other ++ Json.field? "type" .str spec.type)

/-- Read the report of a load balancer. -/
def loadBalancerOfJson? : Json → Option LoadBalancer
  | .obj given => do
      let record : Json.Record := ⟨given⟩
      pure { ingress := ← record.optional "ingress" (Json.list? ingressOfJson?) }
  | _ => none

/-- The report of a load balancer as an object. -/
def loadBalancerToJson (balancer : LoadBalancer) : Json :=
  .object (Json.field? "ingress" (fun items => .arr (items.map ingressToJson)) balancer.ingress)

/-- Read a status. -/
def statusOfJson? : Json → Option ServiceStatus
  | .obj given => do
      let record : Json.Record := ⟨given⟩
      pure {
        loadBalancer := ← record.optional "loadBalancer" loadBalancerOfJson?
        other := ← Schema.readFields? given otherStatusFields }
  | _ => none

/-- A status as an object. -/
def statusToJson (status : ServiceStatus) : Json :=
  .object (status.other ++ Json.field? "loadBalancer" loadBalancerToJson status.loadBalancer)

/-- Read a service. -/
def ofJson? : Json → Option Service
  | .obj given => do
      let record : Json.Record := ⟨given⟩
      if !namesItself "v1" "Service" record then none
      pure {
        metadata := (← record.optional "metadata" ObjectMeta.ofJson?).getD {}
        spec := ← record.optional "spec" specOfJson?
        status := ← record.optional "status" statusOfJson? }
  | _ => none

/-- What is expected of the report of a load balancer. -/
def loadBalancerShape : Shape :=
  .object (Shape.optionalFields [("ingress", .list (.object (
    Shape.optionalFields [("ip", .text), ("hostname", .text)] ++
    Schema.fieldShapes otherIngressFields)))])

/-- What is expected of a service. -/
def shape : Shape :=
  objectShape "v1" "Service" [
    ("spec", .object (("type", .optional .text) :: Schema.fieldShapes otherSpecFields)),
    ("status", .object (("loadBalancer", .optional loadBalancerShape) ::
      Schema.fieldShapes otherStatusFields))]

/-- A service as an object. -/
def toJson (service : Service) : Json :=
  .object (objectFields "v1" "Service" service.metadata ++
    Json.field? "spec" specToJson service.spec ++
    Json.field? "status" statusToJson service.status)

end Service

/-! ## Version -/

/-- What a cluster says of its version. -/
structure VersionInfo where
  buildDate : String := ""
  compiler : String := ""
  gitCommit : String := ""
  gitTreeState : String := ""
  gitVersion : String := ""
  goVersion : String := ""
  major : String := ""
  minor : String := ""
  platform : String := ""
deriving DecidableEq, Repr, Inhabited

namespace VersionInfo

/-- Read a version; absent texts are empty. -/
def ofJson? : Json → Option VersionInfo
  | .obj given => do
      let record : Json.Record := ⟨given⟩
      let text (field : String) : Option String := do
        pure ((← record.optional field Json.str?).getD "")
      pure {
        buildDate := ← text "buildDate"
        compiler := ← text "compiler"
        gitCommit := ← text "gitCommit"
        gitTreeState := ← text "gitTreeState"
        gitVersion := ← text "gitVersion"
        goVersion := ← text "goVersion"
        major := ← text "major"
        minor := ← text "minor"
        platform := ← text "platform" }
  | _ => none

/-- What is expected of a version. -/
def shape : Shape :=
  .object (["buildDate", "compiler", "gitCommit", "gitTreeState", "gitVersion", "goVersion",
    "major", "minor", "platform"].map fun name => (name, .optional .text))

/-- A version as an object. -/
def toJson (v : VersionInfo) : Json :=
  .object [("buildDate", .str v.buildDate), ("compiler", .str v.compiler),
    ("gitCommit", .str v.gitCommit), ("gitTreeState", .str v.gitTreeState),
    ("gitVersion", .str v.gitVersion), ("goVersion", .str v.goVersion), ("major", .str v.major),
    ("minor", .str v.minor), ("platform", .str v.platform)]

end VersionInfo

end VirtualApi
