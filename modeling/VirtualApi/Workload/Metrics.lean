import VirtualApi.Json.Printer
import VirtualApi.Quantity.ResourceList
import VirtualApi.Resource

/-!
# Metrics of workloads

What a pod, or a controller of pods, asks of the cluster. Every metric is read from the manifest:
the number of replicas, the resources of the app containers of one pod, the largest of its init
containers, and for stateful sets the storage claims. `Workload.total` puts them together.
-/

namespace VirtualApi

/-- Why a metric cannot be read. -/
inductive MetricsError where
  | malformed (field message : String)
  | quantity (failure : Quantity.Failure)
deriving DecidableEq, Repr

/-- The wording of each error. -/
def MetricsError.message : MetricsError → String
  | .malformed field message => "malformed " ++ field ++ ": " ++ message
  | .quantity failure => failure.message

/-- The name of each cause. -/
def MetricsError.name : MetricsError → String
  | .malformed .. => "Malformed"
  | .quantity failure => failure.name

/-- The outcome of reading a metric. -/
abbrev MetricsResult (α : Type) := Except MetricsError α

/-- A failure of a quantity as an error of a metric. -/
def MetricsResult.ofQuantity {α : Type} : Except Quantity.Failure α → MetricsResult α
  | .ok a => .ok a
  | .error failure => .error (.quantity failure)

/-- The workload kinds. -/
inductive Workload where
  | pod
  | deployment
  | replicaSet
  | statefulSet
  | daemonSet
  | job
deriving DecidableEq, Repr, Inhabited

/-- The two resource fields of a container. -/
inductive ResourceField where
  | requests
  | limits
deriving DecidableEq, Repr

/-- A value for the app containers, and one for the init containers when there are any. -/
structure ByRole (α : Type) where
  default : α
  init : Option α
deriving DecidableEq, Repr

/-- Values by role as an object. -/
def ByRole.toJson {α : Type} (write : α → Json) (roles : ByRole α) : Json :=
  .object (("default", write roles.default) :: Json.field? "init" write roles.init)

/-- The name of a resource field. -/
def ResourceField.name : ResourceField → String
  | .requests => "requests"
  | .limits => "limits"

namespace Workload

open MetricsResult (ofQuantity)

/-- All workload kinds. -/
def all : List Workload := [.pod, .deployment, .replicaSet, .statefulSet, .daemonSet, .job]

/-- The name of each kind. -/
def name : Workload → String
  | .pod => "Pod"
  | .deployment => "Deployment"
  | .replicaSet => "ReplicaSet"
  | .statefulSet => "StatefulSet"
  | .daemonSet => "DaemonSet"
  | .job => "Job"

/-- The group that serves each kind. -/
def group : Workload → String
  | .pod => ""
  | .deployment | .replicaSet | .statefulSet | .daemonSet => "apps"
  | .job => "batch"

/-- The kind of objects that each workload is. -/
def gvk (w : Workload) : GroupVersionKind := ⟨w.group, "v1", w.name⟩

/-! ## Reading the manifest -/

/-- The text of a quantity: a text, or the notation of a number. -/
def quantityText (field : String) : Json → MetricsResult String
  | .str s => .ok s
  | .num n => .ok n.text
  | other => .error (.malformed field ("expected a quantity, got " ++ other.compact))

/-- One entry of a resource list, which has to be a quantity. -/
def resourceEntry (field : String) (entry : String × Json) : MetricsResult (String × String) := do
  let text ← quantityText field entry.2
  let _ ← ofQuantity (Quantity.parse text)
  pure (entry.1, text)

/-- Read a resource list; an absent one is empty. -/
def resourceList (field : String) : Option Json → MetricsResult ResourceList
  | none => .ok []
  | some (.obj entries) => entries.mapM (resourceEntry field)
  | some _ => .error (.malformed field "expected a map of quantities")

/-- The containers in a field of a pod's specification; an absent field or null has none. -/
def containers (podSpec : Option Json) (key : String) : MetricsResult (List Json) :=
  match podSpec.bind (Json.get? key) with
  | none | some .null => .ok []
  | some (.arr items) => .ok items
  | some _ => .error (.malformed key "expected a list of containers")

/-- The integer at a path; absent and null are none. -/
def integerAt (object : Json) (path : List String) : MetricsResult (Option Int) :=
  match object.at? path with
  | none | some .null => .ok none
  | some v =>
      match v.int64? with
      | some n => .ok (some n)
      | none => .error (.malformed ("/" ++ Text.join "/" path) "expected an integer")

/-- Where a manifest says how its pods look. -/
def podSpecPath : Workload → List String
  | .pod => ["spec"]
  | _ => ["spec", "template", "spec"]

/-- How the pods of a manifest look. -/
def podSpec (w : Workload) (object : Json) : Option Json := object.at? w.podSpecPath

/-- The field of every container under a key. -/
def perContainer (w : Workload) (object : Json) (key : String) (field : ResourceField) :
    MetricsResult (List ResourceList) := do
  let items ← containers (w.podSpec object) key
  items.mapM fun c =>
    resourceList (key ++ ".resources." ++ field.name) (c.at? ["resources", field.name])

/-! ## Counts -/

/-- Where a manifest says how many pods it asks for. -/
def countPath? : Workload → Option (List String)
  | .pod => none
  | .deployment | .replicaSet | .statefulSet => some ["spec", "replicas"]
  | .daemonSet => some ["status", "desiredNumberScheduled"]
  | .job => some ["spec", "parallelism"]

/-- The number of pods; one when nothing is said. -/
def replicas (w : Workload) (object : Json) : MetricsResult Int := do
  let given ← match w.countPath? with
    | none => pure none
    | some path => integerAt object path
  let n := given.getD 1
  if n < 0 then throw (.malformed "replicas" ("negative count " ++ Decimal.ofInt n))
  pure n

/-- The pods have init containers. -/
def hasInit (w : Workload) (object : Json) : MetricsResult Bool := do
  let items ← containers (w.podSpec object) "initContainers"
  pure !items.isEmpty

/-- The number of pods, for the app containers and for the init containers. -/
def roleReplicas (w : Workload) (object : Json) : MetricsResult (ByRole Int) := do
  let n ← w.replicas object
  let init ← w.hasInit object
  pure ⟨n, if init then some n else none⟩

/-- How the pods of each kind run. -/
def mode : Workload → String
  | .pod => "Standalone"
  | .deployment | .replicaSet => "Replicated"
  | .statefulSet => "Stateful"
  | .daemonSet => "PerNode"
  | .job => "Batch"

/-! ## Resources -/

/-- What the app containers of one pod ask for together. -/
def app (w : Workload) (object : Json) (field : ResourceField) : MetricsResult ResourceList := do
  ofQuantity (ResourceList.sum (← w.perContainer object "containers" field))

/-- What the largest of the init containers asks for: they run one at a time. -/
def init (w : Workload) (object : Json) (field : ResourceField) : MetricsResult ResourceList := do
  ofQuantity (ResourceList.maximum (← w.perContainer object "initContainers" field))

/-- What one pod asks for: the larger of its app containers and its init containers. -/
def effective (w : Workload) (object : Json) (field : ResourceField) :
    MetricsResult ResourceList := do
  let app ← w.app object field
  let init ← w.init object field
  ofQuantity (ResourceList.maximum [app, init])

/-- What the storage claims of one pod of a stateful set ask for. -/
def claims (w : Workload) (object : Json) (field : ResourceField) : MetricsResult ResourceList :=
  if w ≠ .statefulSet then .ok []
  else match object.at? ["spec", "volumeClaimTemplates"] with
    | none | some .null => .ok []
    | some (.arr templates) => do
        let lists ← templates.mapM fun t =>
          resourceList "volumeClaimTemplates" (t.at? ["spec", "resources", field.name])
        ofQuantity (ResourceList.sum lists)
    | some _ => .error (.malformed "volumeClaimTemplates" "expected a list")

/-- What all pods and their storage claims ask for. -/
def total (w : Workload) (object : Json) (field : ResourceField) : MetricsResult ResourceList := do
  let n ← w.replicas object
  let pods ← ofQuantity ((← w.effective object field).scale n)
  let storage ← ofQuantity ((← w.claims object field).scale n)
  ofQuantity (ResourceList.sum [pods, storage])

/-- What all pods ask for, for the app containers and for the init containers. -/
def byRole (w : Workload) (object : Json) (field : ResourceField) :
    MetricsResult (ByRole ResourceList) := do
  let n ← w.replicas object
  let app ← ofQuantity ((← w.app object field).scale n)
  if ← w.hasInit object then
    let init ← ofQuantity ((← w.init object field).scale n)
    pure ⟨app, some init⟩
  else pure ⟨app, none⟩

end Workload

/-! ## Which kinds have metrics -/

/-- The kinds that have metrics, by the text that stands for the kind. -/
abbrev MetricsRegistry := List (String × Workload)

namespace MetricsRegistry

/-- The registry with the metrics of one more kind; the last registration counts. -/
def register (registry : MetricsRegistry) (gvk : GroupVersionKind) (w : Workload) :
    MetricsRegistry :=
  (gvk.key, w) :: registry

/-- The metrics of a kind. -/
def get? (registry : MetricsRegistry) (gvk : GroupVersionKind) : Option Workload :=
  registry.lookup gvk.key

/-- The kind has metrics. -/
def isRegistered (registry : MetricsRegistry) (gvk : GroupVersionKind) : Bool :=
  (registry.get? gvk).isSome

/-- The metrics of the workload kinds. -/
def builtin : MetricsRegistry :=
  Workload.all.foldl (fun registry w => registry.register w.gvk w) []

end MetricsRegistry

end VirtualApi
