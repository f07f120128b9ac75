import VirtualApi.Json.Record
import VirtualApi.Json.Shape

/-!
# Kinds and resources

A kind is named by group, version and kind; the core group is empty. A resource is a kind as a
cluster serves it, with its plural name and its scope.
-/

namespace VirtualApi

/-- A kind of objects. -/
structure GroupVersionKind where
  group : String := ""
  version : String := ""
  kind : String := ""
deriving DecidableEq, Repr, Inhabited

/-- The text that stands for a kind: `version/Kind`, or `group/version/Kind`. -/
def gvkKey (group version kind : String) : String :=
  if group = "" then version ++ "/" ++ kind else group ++ "/" ++ version ++ "/" ++ kind

namespace GroupVersionKind

/-- Cut an API version at its first slash into group and version. -/
def ofApiVersion (apiVersion kind : String) : GroupVersionKind :=
  match Text.splitOnce '/' apiVersion.toList with
  | some (group, version) => ⟨String.ofList group, String.ofList version, kind⟩
  | none => ⟨"", apiVersion, kind⟩

/-- The kind an object names itself, unless its API version or its kind is missing or empty. -/
def ofObject? (object : Json) : Option GroupVersionKind := do
  let apiVersion ← (object.get? "apiVersion").bind Json.str?
  let kind ← (object.get? "kind").bind Json.str?
  if kind = "" ∨ apiVersion = "" then none else some (ofApiVersion apiVersion kind)

/-- Group and version as one text. -/
def apiVersion (gvk : GroupVersionKind) : String :=
  if gvk.group = "" then gvk.version else gvk.group ++ "/" ++ gvk.version

/-- The text that stands for the kind. -/
def key (gvk : GroupVersionKind) : String := gvkKey gvk.group gvk.version gvk.kind

/-- The order by group, then version, then kind. -/
def le (a b : GroupVersionKind) : Bool :=
  a.group < b.group ||
    (a.group = b.group &&
      (a.version < b.version || (a.version = b.version && (a.kind < b.kind || a.kind = b.kind))))

/-- Read a kind from JSON. -/
def ofJson? (value : Json) : Option GroupVersionKind := do
  let record ← Json.Record.named? ["group", "version", "kind"] value
  pure {
    group := ← record.withDefault "group" "" Json.str?
    version := ← record.required "version" Json.str?
    kind := ← record.required "kind" Json.str? }

/-- What is expected of a kind. -/
def shape : Shape := .record [(["group"], .text), (["version"], .text), (["kind"], .text)]

/-- A kind as JSON. -/
def toJson (gvk : GroupVersionKind) : Json :=
  .object [("group", .str gvk.group), ("version", .str gvk.version), ("kind", .str gvk.kind)]

end GroupVersionKind

/-- Whether objects of a resource live in namespaces. -/
inductive ResourceScope where
  | cluster
  | namespaced
deriving DecidableEq, Repr, Inhabited

namespace ResourceScope

/-- The name of a scope. -/
def name : ResourceScope → String
  | .cluster => "Cluster"
  | .namespaced => "Namespaced"

/-- Read a scope from JSON. -/
def ofJson? : Json → Option ResourceScope :=
  Json.variant? [("Cluster", .cluster), ("Namespaced", .namespaced)]

end ResourceScope

/-- A kind as a cluster serves it. -/
structure ResourceId where
  group : String := ""
  version : String := ""
  /-- The plural name, for instance `deployments`. -/
  name : String := ""
  kind : String := ""
  scope : ResourceScope := .namespaced
deriving DecidableEq, Repr, Inhabited

namespace ResourceId

/-- The kind of a resource. -/
def gvk (r : ResourceId) : GroupVersionKind := ⟨r.group, r.version, r.kind⟩

/-- Objects of the resource live in namespaces. -/
def isNamespaced (r : ResourceId) : Bool := r.scope = .namespaced

/-- Group and version as one text. -/
def apiVersion (r : ResourceId) : String := r.gvk.apiVersion

/-- Read a resource from JSON. -/
def ofJson? (value : Json) : Option ResourceId := do
  let record ← Json.Record.named? ["group", "version", "name", "kind", "scope"] value
  pure {
    group := ← record.withDefault "group" "" Json.str?
    version := ← record.required "version" Json.str?
    name := ← record.required "name" Json.str?
    kind := ← record.required "kind" Json.str?
    scope := ← record.withDefault "scope" .namespaced ResourceScope.ofJson? }

/-- What is expected of a resource. -/
def shape : Shape :=
  .record [(["group"], .text), (["version"], .text), (["name"], .text), (["kind"], .text),
    (["scope"], .choice)]

/-- A resource as JSON. -/
def toJson (r : ResourceId) : Json :=
  .object [("group", .str r.group), ("version", .str r.version), ("name", .str r.name),
    ("kind", .str r.kind), ("scope", .str r.scope.name)]

end ResourceId

end VirtualApi
