import VirtualApi.Catalog.Descriptor
import VirtualApi.Cluster.Basic

/-!
# Projects

On a cluster that is managed in projects, a namespace is labelled with the project it belongs to.
The projects are found by grouping the namespaces; a project is as old as its oldest namespace.
-/

namespace VirtualApi

/-- What a project is for. -/
inductive ProjectType where
  | default
  | system
  | user
deriving DecidableEq, Repr, Inhabited

/-- The name of each type. -/
def ProjectType.name : ProjectType → String
  | .default => "Default"
  | .system => "System"
  | .user => "User"

/-- A project. -/
structure Project where
  id : String
  type : ProjectType
  /-- The names of its namespaces, sorted. -/
  namespaces : List String
  created : Option Timestamp
deriving DecidableEq, Repr, Inhabited

/-- What is known of a project while namespaces are grouped. -/
structure ProjectMembers where
  namespaces : List String := []
  created : Option Timestamp := none
deriving DecidableEq, Repr, Inhabited

namespace ProjectMembers

/-- The earlier of two times, where both are given. -/
def earlier : Option Timestamp → Option Timestamp → Option Timestamp
  | none, t => t
  | some s, none => some s
  | some s, some t => if t.before s then some t else some s

/-- The members with one more namespace. -/
def insert (members : ProjectMembers) (ns : Namespace) : ProjectMembers where
  namespaces := members.namespaces ++ ns.metadata.name.toList
  created := earlier members.created ns.metadata.creationTimestamp

end ProjectMembers

namespace Project

/-- The label that says which project a namespace belongs to. -/
def idLabel : String := "field.cattle.io/projectId"

/-- A project as JSON. -/
def toJson (project : Project) : Json :=
  let metadata : ObjectMeta := {
    name := some project.id
    labels := some [(idLabel, project.id)]
    creationTimestamp := project.created }
  .object [("apiVersion", .str metaApiVersion), ("kind", .str "Project"),
    ("metadata", metadata.toJson),
    ("spec", .object [("type", .str project.type.name),
      ("namespaces", .texts project.namespaces)])]

/-- The type of a project with these namespaces. -/
def typeOf (namespaces : List String) : ProjectType :=
  if "default" ∈ namespaces then .default
  else if "kube-system" ∈ namespaces then .system else .user

/-- The project of an id with its members. -/
def ofMembers (id : String) (members : ProjectMembers) : Project where
  id := id
  type := typeOf members.namespaces
  namespaces := members.namespaces.mergeSort (· ≤ ·)
  created := members.created

/-- The project id that a namespace is labelled with. -/
def idOf? (ns : Namespace) : Option String := ns.metadata.labels.bind (Entries.get? idLabel)

/-- Put a namespace to the others of its project. -/
def collect (groups : Entries ProjectMembers) (ns : Namespace) : Entries ProjectMembers :=
  match idOf? ns with
  | none => groups
  | some id => Entries.set id (((Entries.get? id groups).getD {}).insert ns) groups

/-- The projects of namespaces, in the order of their ids. -/
def ofNamespaces (namespaces : List Namespace) : List Project :=
  (namespaces.foldl collect []).map fun (id, members) => ofMembers id members

/-- The cluster is managed in projects. -/
def isManaged (cluster : Cluster) (ctx : RequestContext) : Action Bool := do
  pure (← cluster.resolveKind ctx managedProjects.group managedProjects.kind).isSome

/-- The selector of the namespaces that belong to a project. -/
def selector : ApiResult Selector :=
  match Label.Requirement.make idLabel .exists [] with
  | .ok requirement => .ok (Selector.everything.push requirement)
  | .error e => .error (.internal e.message)

/-- The projects of a managed cluster. -/
def load (cluster : Cluster) (ctx : RequestContext) : Action (List Project) := do
  let selector ← Action.ofResult selector
  pure (ofNamespaces (← cluster.namespaces ctx selector))

/-- All projects; a cluster that is not managed has none. -/
def list (cluster : Cluster) (ctx : RequestContext) : Action (List Project) := do
  if ← isManaged cluster ctx then load cluster ctx else pure []

/-- The project of an id. -/
def get (cluster : Cluster) (ctx : RequestContext) (id : String) : Action Project := do
  let missing : ApiError := .notFound "meta.kubeui.dev" "projects" id
  if ← isManaged cluster ctx then
    match (← load cluster ctx).find? (·.id = id) with
    | some project => pure project
    | none => throw missing
  else throw missing

end Project

end VirtualApi
