import VirtualApi.Catalog.Outline

/-!
# The descriptors and outlines that come with the library

The standard catalogs describe the common workload kinds and what belongs to them.
-/

namespace VirtualApi

/-- The metadata of what describes a resource: a name and labels made from the resource. -/
def describingMetadata (r : ResourceId) : ObjectMeta :=
  let group := if r.group = "" then "core" else r.group
  { name := some (group ++ "-" ++ r.version ++ "-" ++ r.name)
    labels := some (Entries.ofList [("k8s.io/group", group), ("k8s.io/version", r.version),
      ("k8s.io/resource", r.name), ("k8s.io/kind", r.kind)]) }

/-- The path of what describes a resource. -/
def describingPath (r : ResourceId) : String :=
  (if r.group = "" then "core" else r.group) ++ "/" ++ r.version ++ "-" ++ r.name ++ ".yaml"

/-- The descriptor of a resource with these columns, each a name, a type and a pointer. -/
def standardDescriptor (r : ResourceId) (columns : List (String × String × String)) :
    String × ResourceDescriptor :=
  (describingPath r, {
    apiVersion := metaApiVersion
    kind := "ResourceDescriptor"
    metadata := describingMetadata r
    resource := r
    columns := columns.map fun (name, type, pointer) =>
      { name := name, type := type, pointer := pointer }
    icons := [⟨"icons/" ++ (if r.group = "" then "core" else r.group) ++ "/" ++ r.name ++ ".svg",
      "image/svg+xml"⟩] })

/-- The outline of a resource, which is its default layout. -/
def standardOutline (r : ResourceId) (pages : List (Page BlockOutline)) :
    String × ResourceOutline :=
  (describingPath r, {
    apiVersion := metaApiVersion
    kind := "ResourceOutline"
    metadata := describingMetadata r
    spec := {
      resource := r
      defaultLayout := true
      header := some { kind := .own, name := r.kind }
      pages := pages } })

/-- A namespaced resource in version `v1` of a group. -/
def namespacedV1 (group name kind : String) : ResourceId := ⟨group, "v1", name, kind, .namespaced⟩

/-- The descriptors that come with the library. -/
def standardDescriptors : Catalog ResourceDescriptor where
  located := [
    standardDescriptor (namespacedV1 "apps" "deployments" "Deployment") [
      ("Ready", "integer", "/status/readyReplicas"),
      ("Up-to-date", "integer", "/status/updatedReplicas"),
      ("Available", "integer", "/status/availableReplicas")],
    standardDescriptor (namespacedV1 "apps" "statefulsets" "StatefulSet") [
      ("Ready", "integer", "/status/readyReplicas"),
      ("Service", "string", "/spec/serviceName")],
    standardDescriptor (namespacedV1 "batch" "jobs" "Job") [
      ("Succeeded", "integer", "/status/succeeded"),
      ("Parallelism", "integer", "/spec/parallelism")],
    standardDescriptor (namespacedV1 "" "configmaps" "ConfigMap") [
      ("Immutable", "boolean", "/immutable")],
    standardDescriptor (namespacedV1 "" "pods" "Pod") [
      ("Status", "string", "/status/phase"),
      ("Node", "string", "/spec/nodeName"),
      ("IP", "string", "/status/podIP")],
    standardDescriptor (namespacedV1 "" "services" "Service") [
      ("Type", "string", "/spec/type"),
      ("Cluster-IP", "string", "/spec/clusterIP")]]

/-- The outlines that come with the library. -/
def standardOutlines : Catalog ResourceOutline where
  located := [
    standardOutline (namespacedV1 "apps" "deployments" "Deployment") [
      { name := "Overview", sections := [
        { name := "Pods", blocks := [
          { kind := .subTable, name := "Pods", fieldPath := ".spec.selector",
            reference := some ⟨"core", "Pod"⟩ }] },
        { name := "Exposed by", blocks := [
          { kind := .connection, name := "Services", reference := some ⟨"core", "Service"⟩ }] }] },
      { name := "Configuration", sections := [
        { name := "Config maps", blocks := [
          { kind := .connection, name := "ConfigMaps", reference := some ⟨"core", "ConfigMap"⟩ },
          { kind := .block, name := "Volumes", fieldPath := ".spec.template.spec.volumes" }] }] }],
    standardOutline (namespacedV1 "" "pods" "Pod") [
      { name := "Overview", sections := [
        { name := "Owner", blocks := [
          { kind := .connection, name := "Workload",
            reference := some ⟨"apps", "Deployment"⟩ }] },
        { name := "Containers", blocks := [
          { kind := .block, name := "Containers", fieldPath := ".spec.containers" }] }] }]]

end VirtualApi
