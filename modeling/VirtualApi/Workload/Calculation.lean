import VirtualApi.Cluster.Basic
import VirtualApi.Workload.Metrics

/-!
# Calculating what a manifest asks for

A calculation resolves the kind of a manifest and measures it where the kind has metrics. Who asks
for it has to be allowed to create the manifest; `Calculation.accessTarget` says what that means.
-/

namespace VirtualApi

/-- Requests and limits. -/
structure ResourceAmounts where
  requests : ResourceList := []
  limits : ResourceList := []
deriving DecidableEq, Repr, Inhabited

namespace ResourceAmounts

/-- A resource list that is written only when it is not empty. -/
def listField? (name : String) (list : ResourceList) : List (String × Json) :=
  if list.isEmpty then [] else [(name, list.toJson)]

/-- There are neither requests nor limits. -/
def isEmpty (amounts : ResourceAmounts) : Bool :=
  amounts.requests.isEmpty && amounts.limits.isEmpty

/-- Read amounts from JSON. -/
def ofJson? (value : Json) : Option ResourceAmounts := do
  let record ← Json.Record.named? ["requests", "limits"] value
  pure {
    requests := ← record.withDefault "requests" [] Json.textMap?
    limits := ← record.withDefault "limits" [] Json.textMap? }

/-- Amounts as JSON. -/
def toJson (amounts : ResourceAmounts) : Json :=
  .object (listField? "requests" amounts.requests ++ listField? "limits" amounts.limits)

/-- A field with amounts that is written only when there are any. -/
def field? (name : String) (amounts : ResourceAmounts) : List (String × Json) :=
  if amounts.isEmpty then [] else [(name, amounts.toJson)]

end ResourceAmounts

/-- Values that may be given for the app containers and for the init containers. -/
structure RoleValues (α : Type) where
  default : Option α := none
  init : Option α := none
deriving DecidableEq, Repr, Inhabited

namespace RoleValues

variable {α : Type}

/-- The values of both roles. -/
def ofRoles (roles : ByRole α) : RoleValues α := ⟨some roles.default, roles.init⟩

/-- Read values by role from JSON; there are no other roles. -/
def ofJson? (read : Json → Option α) : Json → Option (RoleValues α)
  | .obj entries => do
      if entries.any fun (role, _) => role ≠ "default" ∧ role ≠ "init" then none
      pure {
        default := ← (Entries.get? "default" entries).mapM read
        init := ← (Entries.get? "init" entries).mapM read }
  | _ => none

/-- A field with values by role that is written only when there are any. -/
def field? (name : String) (write : α → Json) (values : RoleValues α) : List (String × Json) :=
  match Json.field? "default" write values.default ++ Json.field? "init" write values.init with
  | [] => []
  | fields => [(name, .object fields)]

end RoleValues

/-- What a manifest asks for. A kind without metrics has its resource and version alone. -/
structure Calculation where
  apiType : ResourceId
  version : String := ""
  replicas : Int := 0
  roleReplicas : RoleValues Int := {}
  mode : String := ""
  total : ResourceAmounts := {}
  app : ResourceAmounts := {}
  roleRequests : RoleValues ResourceList := {}
  roleLimits : RoleValues ResourceList := {}
deriving DecidableEq, Repr, Inhabited

namespace Calculation

/-- Read an integer of the signed 64-bit range. -/
def count? : Json → Option Int := Json.intBetween? (-(2 ^ 63)) (2 ^ 63 - 1)

/-- Read a calculation from JSON. -/
def ofJson? (value : Json) : Option Calculation := do
  let record ← Json.Record.named? ["apiType", "version", "replicas", "roleReplicas", "mode",
    "totalResource", "appResource", "roleResourceRequests", "roleResourceLimits"] value
  pure {
    apiType := ← record.required "apiType" ResourceId.ofJson?
    version := ← record.withDefault "version" "" Json.str?
    replicas := ← record.withDefault "replicas" 0 count?
    roleReplicas := ← record.withDefault "roleReplicas" {} (RoleValues.ofJson? count?)
    mode := ← record.withDefault "mode" "" Json.str?
    total := ← record.withDefault "totalResource" {} ResourceAmounts.ofJson?
    app := ← record.withDefault "appResource" {} ResourceAmounts.ofJson?
    roleRequests := ←
      record.withDefault "roleResourceRequests" {} (RoleValues.ofJson? Json.textMap?)
    roleLimits := ←
      record.withDefault "roleResourceLimits" {} (RoleValues.ofJson? Json.textMap?) }

/-- A calculation as JSON; what is empty or zero is left out. -/
def toJson (c : Calculation) : Json :=
  .object ([("apiType", c.apiType.toJson)] ++ Json.textField? "version" c.version ++
    (if c.replicas = 0 then [] else [("replicas", .int c.replicas)]) ++
    c.roleReplicas.field? "roleReplicas" .int ++ Json.textField? "mode" c.mode ++
    c.total.field? "totalResource" ++ c.app.field? "appResource" ++
    c.roleRequests.field? "roleResourceRequests" ResourceList.toJson ++
    c.roleLimits.field? "roleResourceLimits" ResourceList.toJson)

/-- Read the manifest that a request carries, under either of its names. -/
def requestOfJson? (value : Json) : Option Json := do
  let record ← Json.Record.ofJson? [["resource", "raw"]] value
  record.required "resource" some

/-- Measure a manifest. The first metric that cannot be read decides the error. -/
def measure (w : Workload) (manifest : Json) (apiType : ResourceId) (version : String) :
    MetricsResult Calculation := do
  let replicas ← w.replicas manifest
  let roleReplicas ← w.roleReplicas manifest
  let totalRequests ← w.total manifest .requests
  let totalLimits ← w.total manifest .limits
  let appRequests ← w.app manifest .requests
  let appLimits ← w.app manifest .limits
  let roleRequests ← w.byRole manifest .requests
  let roleLimits ← w.byRole manifest .limits
  pure {
    apiType := apiType
    version := version
    replicas := replicas
    roleReplicas := .ofRoles roleReplicas
    mode := w.mode
    total := ⟨totalRequests, totalLimits⟩
    app := ⟨appRequests, appLimits⟩
    roleRequests := .ofRoles roleRequests
    roleLimits := .ofRoles roleLimits }

/-- What is known of a manifest of a resource: its measures where its kind has metrics. -/
def ofManifest (metrics : MetricsRegistry) (manifest : Json) (apiType : ResourceId) :
    ApiResult Calculation :=
  let version := manifest.textAt ["spec", "version"]
  match metrics.get? apiType.gvk with
  | none => .ok { apiType := apiType, version := version }
  | some w =>
      match measure w manifest apiType version with
      | .ok c => .ok c
      | .error e => .error (.badRequest e.message)

/-- An error of the cluster as one of the calculation: only a request that is over keeps its own. -/
def resolveError (e : ApiError) : ApiError := if e.isAbort then e else .internal e.message

/-- The resource of a manifest. -/
def resolve (cluster : Cluster) (ctx : RequestContext) (manifest : Json) : Action ResourceId :=
  if !manifest.isObject then throw (.internal "resource is not an object")
  else match GroupVersionKind.ofObject? manifest with
    | none => throw (.internal "resource has no apiVersion or kind")
    | some gvk => (cluster.resolve ctx gvk).mapError resolveError

/-- The namespace that a manifest of a resource is created in. -/
def namespaceOf (ctx : RequestContext) (resource : ResourceId) (manifest : Json) : String :=
  if resource.isNamespaced then
    ((nonEmpty? (manifest.textAt ["metadata", "namespace"])).or ctx.namespaceName).getD ""
  else ""

/-- What the caller must be allowed to do: create the manifest. -/
def accessTarget (cluster : Cluster) (ctx : RequestContext) (manifest : Json) :
    Action AccessTarget := do
  let resource ← resolve cluster ctx manifest
  pure {
    verb := "create"
    group := resource.group
    version := resource.version
    resource := resource.name
    namespaceName := namespaceOf ctx resource manifest
    name := objectName manifest }

/-- Calculate what a manifest asks for. -/
def compute (cluster : Cluster) (metrics : MetricsRegistry) (ctx : RequestContext)
    (manifest : Json) : Action Calculation := do
  let resource ← resolve cluster ctx manifest
  Action.ofResult (ofManifest metrics manifest resource)

end Calculation

end VirtualApi
