import VirtualApi.Catalog.Layout
import VirtualApi.Catalog.Standard
import VirtualApi.Chart.Manifests
import VirtualApi.Chart.Preset
import VirtualApi.Cluster.Gateway
import VirtualApi.Cluster.Project
import VirtualApi.Cluster.Site
import VirtualApi.Kind.Computation
import VirtualApi.Kind.Registry
import VirtualApi.Object.Rendering
import VirtualApi.Workload.Calculation

/-!
# The standard kinds

The kinds that a server has: what describes resources, the computations on manifests and charts, and
what is looked up in the cluster.
-/

namespace VirtualApi

/-- What the standard kinds work with. -/
structure Surroundings where
  cluster : Cluster
  /-- The snapshot of the site. -/
  site : SiteInfo
  charts : ChartRegistry
  metrics : MetricsRegistry := .builtin

namespace Surroundings

/-- Capture the site of a cluster. -/
def capture (cluster : Cluster) (ctx : RequestContext) (clusterName chartRoot : String)
    (stamp : SiteStamp) : Action Surroundings := do
  let site ← SiteInfo.capture cluster ctx clusterName stamp
  pure { cluster := cluster, site := site, charts := ⟨chartRoot⟩ }

end Surroundings

namespace Kind

/-- A kind of the group that describes resources. -/
def metaGvk (kind : String) : GroupVersionKind := .ofApiVersion metaApiVersion kind

/-- A column of texts. -/
def textColumn (name pointer description : String) : Column where
  definition := { name := name, type := "string", description := description }
  pointer := pointer

/-- The columns of what describes a resource. -/
def resourceColumns : List Column :=
  [textColumn "Group" "/spec/resource/group" "API group of the described resource",
    textColumn "Version" "/spec/resource/version" "API version of the described resource",
    textColumn "Kind" "/spec/resource/kind" "Kind of the described resource"]

/-- A kind with further columns in its tables. -/
def withColumns (kind : Kind) (columns : List Column) : Kind :=
  { kind with
    table := { group := kind.gvk.group, resource := kind.plural, extra := columns } }

/-! ## Catalogs -/

/-- The descriptors of a catalog. -/
def descriptorSource (catalog : Catalog ResourceDescriptor) : CatalogSource :=
  .ofEntries catalog

/-- The outlines of a catalog. -/
def outlineSource (catalog : Catalog ResourceOutline) : CatalogSource := .ofEntries catalog

/-- The layouts of the outlines of a catalog. -/
def layoutSource (descriptors : Catalog ResourceDescriptor) (catalog : Catalog ResourceOutline) :
    CatalogSource :=
  .ofCatalog catalog fun outline =>
    (ResourceLayout.ofOutline descriptors outline).map ResourceLayout.toJson

/-- The kind of descriptors. -/
def resourceDescriptor : Kind :=
  withColumns {
    gvk := metaGvk "ResourceDescriptor"
    plural := "resourcedescriptors"
    backend := .catalog (descriptorSource standardDescriptors) } resourceColumns

/-- The kind of outlines. -/
def resourceOutline : Kind :=
  withColumns {
    gvk := metaGvk "ResourceOutline"
    plural := "resourceoutlines"
    backend := .catalog (outlineSource standardOutlines) } resourceColumns

/-- The kind of layouts. -/
def resourceLayout : Kind :=
  withColumns {
    gvk := metaGvk "ResourceLayout"
    plural := "resourcelayouts"
    backend := .catalog (layoutSource standardDescriptors standardOutlines) } resourceColumns

/-! ## Computations -/

/-- Calculate what a manifest asks for. -/
def calculation (cluster : Cluster) (metrics : MetricsRegistry) :
    Computation Json Calculation where
  readRequest := Calculation.requestOfJson?
  readResponse := Calculation.ofJson?
  writeResponse := Calculation.toJson
  accessTarget ctx manifest := do
    pure (some (← Calculation.accessTarget cluster ctx manifest))
  compute := Calculation.compute cluster metrics

/-- The kind of calculations. -/
def resourceCalculator (cluster : Cluster) (metrics : MetricsRegistry) : Kind where
  gvk := metaGvk "ResourceCalculator"
  plural := "resourcecalculators"
  backend := .compute (calculation cluster metrics).create

/-- Render live objects. -/
def rendering (cluster : Cluster) : Computation RenderingRequest Json where
  readRequest := RenderingRequest.ofJson?
  readResponse := some
  writeResponse := id
  compute := renderObjects cluster

/-- The kind of renderings. -/
def renderAPI (cluster : Cluster) : Kind where
  gvk := metaGvk "RenderAPI"
  plural := "renderapis"
  backend := .compute (rendering cluster).create

/-- Load the manifests behind an object. -/
def manifests (charts : ChartRegistry) (cluster : Cluster) :
    Computation ManifestsRequest ManifestsResponse where
  readRequest := ManifestsRequest.ofJson?
  readResponse := ManifestsResponse.ofJson?
  writeResponse := ManifestsResponse.toJson
  compute := loadManifests charts cluster

/-- The kind of manifests. -/
def resourceManifests (charts : ChartRegistry) (cluster : Cluster) : Kind where
  gvk := metaGvk "ResourceManifests"
  plural := "resourcemanifests"
  backend := .compute (manifests charts cluster).create

/-- Find presets. -/
def presets (cluster : Cluster) : Computation PresetQuery (List Preset) where
  readRequest := PresetQuery.ofJson?
  readResponse := Preset.listOfJson?
  writeResponse := Preset.listToJson
  compute := Preset.load cluster

/-- The kind of preset queries. -/
def chartPresetQuery (cluster : Cluster) : Kind where
  gvk := metaGvk "ChartPresetQuery"
  plural := "chartpresetqueries"
  backend := .compute (presets cluster).create

/-- Answer with the request. -/
def echo : Computation Json Json where
  readRequest := some
  readResponse := some
  writeResponse := id
  compute _ request := pure request

/-- The kind of sections. -/
def renderSection : Kind where
  gvk := metaGvk "RenderSection"
  plural := "rendersections"
  backend := .compute echo.create

/-- The kind of sites: whatever is sent, the answer is the site as it is now. -/
def siteInfo (cluster : Cluster) (site : SiteInfo) : Kind where
  gvk := .ofApiVersion identityApiVersion "SiteInfo"
  plural := "siteinfos"
  backend := .compute fun gvk _ ctx body => do
    Action.ofResult (gvk.checkSent body)
    pure (← SiteInfo.create cluster site ctx).toJson

/-! ## Lookups -/

/-- How gateway classes are exposed. -/
def gatewaySource (cluster : Cluster) : LookupSource where
  get ctx name := do pure (← GatewayInfo.get cluster ctx name).toJson

/-- The kind of gateway information; it is not listed. -/
def gatewayInfo (cluster : Cluster) : Kind :=
  withColumns {
    gvk := metaGvk "GatewayInfo"
    plural := "gatewayinfos"
    backend := .lookup (gatewaySource cluster)
    verbs := [.get] }
    [textColumn "Service-Type" "/spec/serviceType" "Type of the envoy service",
      textColumn "Host" "/spec/hostName" "Host name the gateway is reachable at",
      textColumn "IP" "/spec/ip" "Load balancer address"]

/-- The projects of a cluster. -/
def projectSource (cluster : Cluster) : LookupSource where
  get ctx name := do pure (← Project.get cluster ctx name).toJson
  list ctx := do pure ((← Project.list cluster ctx).map Project.toJson)

/-- The kind of projects. -/
def project (cluster : Cluster) : Kind :=
  withColumns {
    gvk := metaGvk "Project"
    plural := "projects"
    backend := .lookup (projectSource cluster) }
    [textColumn "Type" "/spec/type" "Default, System or User",
      textColumn "Namespaces" "/spec/namespaces" "Namespaces in the project"]

/-- The standard kinds, in the order in which they are registered. -/
def standard (s : Surroundings) : List Kind :=
  [resourceDescriptor, resourceOutline, resourceLayout,
    resourceCalculator s.cluster s.metrics, renderAPI s.cluster,
    resourceManifests s.charts s.cluster, chartPresetQuery s.cluster, renderSection,
    gatewayInfo s.cluster, project s.cluster, siteInfo s.cluster s.site]

end Kind

/-- The registry of the standard kinds. -/
def Registry.standard (s : Surroundings) : ApiResult Registry :=
  (Kind.standard s).foldlM Registry.register {}

end VirtualApi
