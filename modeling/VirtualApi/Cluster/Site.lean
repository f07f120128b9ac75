import VirtualApi.Cluster.Basic

/-!
# Site information

A site is a cluster as it was found at the start, under a uid and a creation time that stay,
together with what its nodes have at the time of asking. The snapshot of the start never changes.
-/

namespace VirtualApi

/-- The API version of the kinds that identify a site. -/
def identityApiVersion : String := "identity.kubeui.dev/v1alpha1"

/-- A product that runs the site. -/
structure ProductInfo where
  name : String
  version : String := ""
deriving DecidableEq, Repr, Inhabited

namespace ProductInfo

/-- Read a product from JSON. -/
def ofJson? (value : Json) : Option ProductInfo := do
  let record ← Json.Record.named? ["name", "version"] value
  pure {
    name := ← record.required "name" Json.str?
    version := ← record.withDefault "version" "" Json.str? }

/-- A product as JSON. -/
def toJson (product : ProductInfo) : Json :=
  .object [("name", .str product.name), ("version", .str product.version)]

end ProductInfo

/-- What the nodes of a site have together. -/
structure NodeStats where
  count : Int := 0
  capacity : ResourceList := []
  allocatable : ResourceList := []
deriving DecidableEq, Repr, Inhabited

namespace NodeStats

/-- Read statistics from JSON. -/
def ofJson? (value : Json) : Option NodeStats := do
  let record ← Json.Record.named? ["count", "capacity", "allocatable"] value
  pure {
    count := ← record.required "count" Json.int32?
    capacity := ← record.withDefault "capacity" [] Json.textMap?
    allocatable := ← record.withDefault "allocatable" [] Json.textMap? }

/-- Statistics as JSON. -/
def toJson (stats : NodeStats) : Json :=
  .object [("count", .int stats.count), ("capacity", stats.capacity.toJson),
    ("allocatable", stats.allocatable.toJson)]

/-- Add a resource list that may be absent. -/
def addList (total : ResourceList) : Option ResourceList → Except Quantity.Failure ResourceList
  | none => .ok total
  | some list => total.add list

/-- Add what a node reports. -/
def addNode (stats : NodeStats) (node : Node) : Except Quantity.Failure NodeStats := do
  match node.status with
  | none => pure stats
  | some status =>
      let capacity ← addList stats.capacity status.capacity
      let allocatable ← addList stats.allocatable status.allocatable
      pure { stats with capacity := capacity, allocatable := allocatable }

/-- The number of nodes, as a signed number of 32 bits: more of them wrap around. -/
def countOf (nodes : List Node) : Int := Int.bmod nodes.length 4294967296

/-- Add what nodes report, and count them. -/
def addNodes (stats : NodeStats) (nodes : List Node) : Except Quantity.Failure NodeStats :=
  nodes.foldlM addNode { stats with count := countOf nodes }

end NodeStats

/-- What is known of the cluster of a site. -/
structure KubernetesInfo where
  clusterName : String := ""
  /-- The uid of the system namespace, which stays as long as the cluster does. -/
  clusterUid : String := ""
  version : Option VersionInfo := none
  nodeStats : NodeStats := {}
deriving DecidableEq, Repr, Inhabited

namespace KubernetesInfo

/-- Read what is known of a cluster from JSON. -/
def ofJson? (value : Json) : Option KubernetesInfo := do
  let record ← Json.Record.named? ["clusterName", "clusterUid", "version", "nodeStats"] value
  pure {
    clusterName := ← record.withDefault "clusterName" "" Json.str?
    clusterUid := ← record.withDefault "clusterUid" "" Json.str?
    version := ← record.optional "version" VersionInfo.ofJson?
    nodeStats := ← record.withDefault "nodeStats" {} NodeStats.ofJson? }

/-- What is known of a cluster as JSON. -/
def toJson (info : KubernetesInfo) : Json :=
  .object ([("clusterName", .str info.clusterName), ("clusterUid", .str info.clusterUid),
    ("nodeStats", info.nodeStats.toJson)] ++ Json.field? "version" VersionInfo.toJson info.version)

end KubernetesInfo

/-- A site. -/
structure SiteInfo where
  apiVersion : String := identityApiVersion
  kind : String := "SiteInfo"
  metadata : ObjectMeta := {}
  product : Option ProductInfo := none
  kubernetes : KubernetesInfo := {}
deriving DecidableEq, Repr, Inhabited

namespace SiteInfo

/-- Read a site from JSON. -/
def ofJson? (value : Json) : Option SiteInfo := do
  let record ←
    Json.Record.named? ["apiVersion", "kind", "metadata", "product", "kubernetes"] value
  pure {
    apiVersion := ← record.required "apiVersion" Json.str?
    kind := ← record.required "kind" Json.str?
    metadata := ← record.withDefault "metadata" {} ObjectMeta.ofJson?
    product := ← record.optional "product" ProductInfo.ofJson?
    kubernetes := ← record.withDefault "kubernetes" {} KubernetesInfo.ofJson? }

/-- A site as JSON. -/
def toJson (site : SiteInfo) : Json :=
  .object ([("apiVersion", .str site.apiVersion), ("kind", .str site.kind),
    ("metadata", site.metadata.toJson), ("kubernetes", site.kubernetes.toJson)] ++
    Json.field? "product" ProductInfo.toJson site.product)

end SiteInfo

/-- What a site is stamped with when it is captured. -/
structure SiteStamp where
  uid : String
  created : Timestamp
deriving DecidableEq, Repr, Inhabited

namespace SiteInfo

/-- A snapshot with its stamp, without details of a product. -/
def stamped (snapshot : SiteInfo) (stamp : SiteStamp) : SiteInfo :=
  { snapshot with
    metadata := { snapshot.metadata with
      uid := some stamp.uid
      creationTimestamp := some stamp.created }
    product := none }

/-- The uid of the system namespace among these. -/
def clusterUidOf (namespaces : List Namespace) : String :=
  ((namespaces.find? (·.metadata.name = some "kube-system")).bind (·.metadata.uid)).getD ""

/-- Take the snapshot of a cluster. -/
def capture (cluster : Cluster) (ctx : RequestContext) (clusterName : String) (stamp : SiteStamp) :
    Action SiteInfo := do
  let version ← cluster.version ctx
  let namespaces ← cluster.namespaces ctx .everything
  let snapshot : SiteInfo := {
    kubernetes := {
      clusterName := clusterName
      clusterUid := clusterUidOf namespaces
      version := some version } }
  pure (snapshot.stamped stamp)

/-- The snapshot with what these nodes have. -/
def withNodes (snapshot : SiteInfo) (nodes : List Node) : ApiResult SiteInfo :=
  match snapshot.kubernetes.nodeStats.addNodes nodes with
  | .ok stats => .ok { snapshot with kubernetes := { snapshot.kubernetes with nodeStats := stats } }
  | .error failure => .error (.internal failure.message)

/-- The site as it is now. -/
def create (cluster : Cluster) (snapshot : SiteInfo) (ctx : RequestContext) : Action SiteInfo := do
  Action.ofResult (snapshot.withNodes (← cluster.nodes ctx))

end SiteInfo

end VirtualApi
