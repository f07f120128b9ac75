import VirtualApi.Cluster.Transport

/-!
# Asking a host cluster for its kinds

A host cluster lists its groups, the versions of each group, and the resources of each version; the
core group comes last. The versions of a group are ordered by preference: stable ones first, then
beta and alpha, each from the highest number down, and at last those named otherwise.
-/

namespace VirtualApi.Discovery

/-- What kind of version a name says. -/
inductive Stability where
  | other
  | alpha
  | beta
  | stable
deriving DecidableEq, Repr

/-- The rank of a stability; a higher one is preferred. -/
def Stability.rank : Stability → Nat
  | .other => 0
  | .alpha => 1
  | .beta => 2
  | .stable => 3

/-- How much a version is preferred. -/
structure Preference where
  stability : Stability
  major : Nat := 0
  minor : Option Nat := none
  /-- The name of a version that is named otherwise; an earlier one is preferred. -/
  name : String := ""
deriving DecidableEq, Repr

/-- A number of the 32-bit range. -/
def number? (text : List Char) : Option Nat :=
  (Decimal.readUnsigned (2 ^ 32 - 1) text).toOption

/-- The number after a word, which may be missing. -/
def afterWord? (word : String) (text : List Char) : Option (Option Nat) :=
  match Text.stripPrefix word.toList text with
  | some [] => some none
  | some rest => (number? rest).map some
  | none => none

/-- The preference of a version that is named by the rules: `v1`, `v1beta2` or `v1alpha1`. -/
def conformant? : List Char → Option Preference
  | 'v' :: rest => do
      let (digits, word) := rest.span Text.isDigit
      let major ← number? digits
      if word = [] then some { stability := .stable, major := major }
      else
        match afterWord? "alpha" word, afterWord? "beta" word with
        | some minor, _ => some { stability := .alpha, major := major, minor := minor }
        | none, some minor => some { stability := .beta, major := major, minor := minor }
        | none, none => none
  | _ => none

/-- The preference of a version. -/
def preference (version : String) : Preference :=
  (conformant? version.toList).getD { stability := .other, name := version }

/-- An optional number as a number: nothing comes before zero. -/
def order : Option Nat → Nat
  | none => 0
  | some n => n + 1

/-- The first version is preferred at least as much as the second. -/
def preferred (a b : Preference) : Bool :=
  let left := (a.stability.rank, a.major, order a.minor)
  let right := (b.stability.rank, b.major, order b.minor)
  if left = right then !(b.name < a.name)
  else
    right.1 < left.1 || (right.1 = left.1 &&
      (right.2.1 < left.2.1 || (right.2.1 = left.2.1 && right.2.2 < left.2.2)))

/-! ## Replies -/

/-- A version of a group. -/
structure GroupVersion where
  groupVersion : String
  version : String

/-- A group with its versions. -/
structure Group where
  name : String
  versions : List GroupVersion

/-- A resource of a version. -/
structure ServedResource where
  name : String
  kind : String
  namespaced : Bool
  group : Option String
  version : Option String

/-- What is expected of a reply that names its kind, or does not. -/
def replyShape (kind : String) (fields : List (String × Shape)) : Shape :=
  .object ([("apiVersion", .exactly "v1"), ("kind", .exactly kind)] ++
    Shape.optionalFields fields)

/-- A text field that may be absent. -/
def text? (record : Json.Record) (field : String) : Option String := do
  pure ((← record.optional field Json.str?).getD "")

/-- What is expected of a version of a group. -/
def groupVersionShape : Shape :=
  .object (Shape.optionalFields [("groupVersion", .text), ("version", .text)])

/-- Read a version of a group. -/
def groupVersion? : Json → Option GroupVersion
  | .obj given => do
      let record : Json.Record := ⟨given⟩
      pure ⟨← text? record "groupVersion", ← text? record "version"⟩
  | _ => none

/-- What is expected of the addresses that serve clients. -/
def addressesShape : Shape :=
  .list (.object (Shape.optionalFields [("clientCIDR", .text), ("serverAddress", .text)]))

/-- What is expected of a group. -/
def groupShape : Shape :=
  replyShape "APIGroup" [("name", .text), ("preferredVersion", groupVersionShape),
    ("serverAddressByClientCIDRs", addressesShape), ("versions", .list groupVersionShape)]

/-- Read a group. -/
def group? : Json → Option Group
  | .obj given => do
      let record : Json.Record := ⟨given⟩
      pure ⟨← text? record "name",
        (← record.optional "versions" (Json.list? groupVersion?)).getD []⟩
  | _ => none

/-- What is expected of the list of groups. -/
def groupsShape : Shape := replyShape "APIGroupList" [("groups", .list groupShape)]

/-- Read the list of groups. -/
def groups? : Json → Option (List Group)
  | .obj given => do
      let record : Json.Record := ⟨given⟩
      pure ((← record.optional "groups" (Json.list? group?)).getD [])
  | _ => none

/-- What is expected of the versions of the core group. -/
def coreVersionsShape : Shape :=
  replyShape "APIVersions"
    [("serverAddressByClientCIDRs", addressesShape), ("versions", .list .text)]

/-- Read the versions of the core group. -/
def coreVersions? : Json → Option (List String)
  | .obj given => do
      let record : Json.Record := ⟨given⟩
      pure ((← record.optional "versions" Json.texts?).getD [])
  | _ => none

/-- What is expected of a resource of a version. -/
def servedResourceShape : Shape :=
  .object (Shape.optionalFields [("categories", .list .text), ("group", .text), ("kind", .text),
    ("name", .text), ("namespaced", .bool), ("shortNames", .list .text), ("singularName", .text),
    ("storageVersionHash", .text), ("verbs", .list .text), ("version", .text)])

/-- Read a resource of a version. -/
def servedResource? : Json → Option ServedResource
  | .obj given => do
      let record : Json.Record := ⟨given⟩
      pure {
        name := ← text? record "name"
        kind := ← text? record "kind"
        namespaced := (← record.optional "namespaced" Json.bool?).getD false
        group := ← record.optional "group" Json.str?
        version := ← record.optional "version" Json.str? }
  | _ => none

/-- What is expected of the resources of a version. -/
def resourceListShape : Shape :=
  replyShape "APIResourceList"
    [("groupVersion", .text), ("resources", .list servedResourceShape)]

/-- Read the resources of a version. -/
def resourceList? : Json → Option (String × List ServedResource)
  | .obj given => do
      let record : Json.Record := ⟨given⟩
      pure (← text? record "groupVersion",
        (← record.optional "resources" (Json.list? servedResource?)).getD [])
  | _ => none

/-- The resources of a version without their subresources. Of several with one name the first says
whether objects live in namespaces. -/
def resourcesOf (list : String × List ServedResource) : List ResourceId :=
  let gv := GroupVersionKind.ofApiVersion list.1 ""
  let served := list.2.filter fun r => !r.name.toList.contains '/'
  served.map fun r => {
    group := r.group.getD gv.group
    version := r.version.getD gv.version
    name := r.name
    kind := r.kind
    scope :=
      if ((list.2.find? (·.name = r.name)).map (·.namespaced)).getD false then .namespaced
      else .cluster }

/-! ## Asking -/

/-- The error of a request for kinds that cannot be built. -/
def unbuildable (e : UriError) : String := "HttpError: " ++ e.message

/-- Ask for each version of a group and put the versions in order of preference. -/
def askVersions (transport : Transport) (name : String) (versions : List (String × String)) :
    Call (List ResourceId) := do
  if versions = [] then
    Call.answer (.error (.internal ("Error from discovery: Empty Api Group: " ++ name)))
  else
    let lists ← versions.mapM fun (version, uri) => do
      let list ← transport.get unbuildable uri (resourceListShape.reader resourceList?)
      pure (version, resourcesOf list)
    let ordered := lists.mergeSort fun a b => preferred (preference a.1) (preference b.1)
    pure (ordered.flatMap fun (version, _) =>
      ((lists.find? (·.1 = version)).map (·.2)).getD [])

/-- The resources of groups; of several groups with one name the last counts. -/
def lastOfEach (groups : List (String × List ResourceId)) : List ResourceId :=
  match groups with
  | [] => []
  | (name, resources) :: rest =>
      if rest.any (·.1 = name) then lastOfEach rest else resources ++ lastOfEach rest

/-- Ask for each group. -/
def askGroups (transport : Transport) (groups : List Group) :
    Call (List (String × List ResourceId)) :=
  groups.mapM fun g => do
    let versions := g.versions.map fun v => (v.version, "/apis/" ++ v.groupVersion)
    pure (g.name, ← askVersions transport g.name versions)

/-- Ask for all resources: those of the groups, then those of the core group. -/
def ask (transport : Transport) : Call (List ResourceId) := do
  Call.emit .discovery
  let groups ← transport.get unbuildable "/apis" (groupsShape.reader groups?)
  let named ← askGroups transport groups
  let versions ← transport.get unbuildable "/api" (coreVersionsShape.reader coreVersions?)
  let core ← askVersions transport "" (versions.map fun v => (v, "/api/" ++ v))
  pure (lastOfEach (named ++ [("", core)]))

end VirtualApi.Discovery
