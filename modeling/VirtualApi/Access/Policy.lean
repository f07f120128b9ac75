import VirtualApi.Access.Verdict
import VirtualApi.FileTree
import VirtualApi.Yaml.Reader

/-!
# Local policies

A policy is a list of rules that allow or deny. A rule names callers, verbs and what they may do it
to; `*` stands for everything in most of its lists. `Policy.evaluate` lets a rule that denies win
over rules that allow, and members of one group pass without any rule.
-/

namespace VirtualApi

/-- What a rule does to the requests it applies to. -/
inductive Effect where
  | allow
  | deny
deriving DecidableEq, Repr, Inhabited

namespace Effect

/-- The name of each effect. -/
def name : Effect → String
  | .allow => "Allow"
  | .deny => "Deny"

/-- Read an effect from JSON. -/
def ofJson? : Json → Option Effect := Json.variant? [("Allow", .allow), ("Deny", .deny)]

end Effect

/-- A rule of a policy. -/
structure PolicyRule where
  effect : Effect
  users : List String := []
  groups : List String := []
  verbs : List String := []
  apiGroups : List String := []
  resources : List String := []
  resourceNames : List String := []
  nonResourceURLs : List String := []
deriving DecidableEq, Repr, Inhabited

namespace PolicyRule

/-- The list names the text, or everything. -/
def names (list : List String) (text : String) : Bool := list.any fun x => x = "*" || x = text

/-- The entry of a rule matches a resource and its subresource. The entry is a resource, or a
resource and a subresource around a slash. -/
def resourceMatches (entry resource subresource : String) : Bool :=
  if entry = "*" then true
  else
    let (r, s) := (Text.splitOnce '/' entry.toList).getD (entry.toList, [])
    if subresource = "" then s = [] && r = resource.toList
    else (r = ['*'] || r = resource.toList) && (s = ['*'] || s = subresource.toList)

/-- The entry of a rule matches a path: it is the path, or the path's beginning before a star. -/
def pathMatches (entry path : String) : Bool :=
  match entry.toList.reverse with
  | '*' :: beginning => (Text.stripPrefix beginning.reverse path.toList).isSome
  | _ => entry = path

/-- The rule names the caller, by the user's name or by a group. -/
def matchesUser (rule : PolicyRule) (user : UserInfo) : Bool :=
  names rule.users user.name || user.groups.any (names rule.groups)

/-- The rule names the resource that is asked for. -/
def matchesResource (rule : PolicyRule) (a : Attributes) : Bool :=
  names rule.apiGroups a.group &&
    rule.resources.any (resourceMatches · a.resource a.subresource) &&
    (rule.resourceNames = [] || rule.resourceNames.contains a.name)

/-- The rule applies to a request. -/
def appliesTo (rule : PolicyRule) (a : Attributes) : Bool :=
  rule.matchesUser a.user && names rule.verbs a.verb &&
    if a.isResourceRequest then rule.matchesResource a
    else rule.nonResourceURLs.any (pathMatches · a.path)

/-- Read a rule from JSON. -/
def ofJson? (value : Json) : Option PolicyRule := do
  let record ← Json.Record.named? ["effect", "users", "groups", "verbs", "apiGroups", "resources",
    "resourceNames", "nonResourceURLs"] value
  let texts (field : String) : Option (List String) := record.withDefault field [] Json.texts?
  pure {
    effect := ← record.required "effect" Effect.ofJson?
    users := ← texts "users"
    groups := ← texts "groups"
    verbs := ← texts "verbs"
    apiGroups := ← texts "apiGroups"
    resources := ← texts "resources"
    resourceNames := ← texts "resourceNames"
    nonResourceURLs := ← texts "nonResourceURLs" }

/-- A rule as JSON. -/
def toJson (rule : PolicyRule) : Json :=
  .object [("effect", .str rule.effect.name), ("users", .texts rule.users),
    ("groups", .texts rule.groups), ("verbs", .texts rule.verbs),
    ("apiGroups", .texts rule.apiGroups), ("resources", .texts rule.resources),
    ("resourceNames", .texts rule.resourceNames),
    ("nonResourceURLs", .texts rule.nonResourceURLs)]

/-- What is expected of a rule. -/
def shape : Shape :=
  .record ((["effect"], .choice) :: ["users", "groups", "verbs", "apiGroups", "resources",
    "resourceNames", "nonResourceURLs"].map fun name => ([name], .list .text))

end PolicyRule

/-- A policy: rules in order. -/
structure Policy where
  rules : List PolicyRule := []
deriving DecidableEq, Repr, Inhabited

namespace Policy

/-- The group whose members may do everything. -/
def superuserGroup : String := "system:masters"

/-- What the rules decide; the rules are counted from a number on, and one of them may have allowed
the request already. -/
def evaluateFrom (a : Attributes) : Nat → Option Nat → List PolicyRule → Verdict
  | _, some allowedBy, [] => .allow ("allowed by local rule #" ++ Decimal.ofNat allowedBy)
  | _, none, [] => .noOpinion
  | number, allowedBy, rule :: rules =>
      if rule.appliesTo a then
        match rule.effect with
        | .deny => .deny ("denied by local rule #" ++ Decimal.ofNat number)
        | .allow => evaluateFrom a (number + 1) (some (allowedBy.getD number)) rules
      else evaluateFrom a (number + 1) allowedBy rules

/-- What the policy decides about a request. -/
def evaluate (policy : Policy) (a : Attributes) : Verdict :=
  if a.user.groups.contains superuserGroup then .allow ("member of " ++ superuserGroup)
  else evaluateFrom a 0 none policy.rules

/-- Read a policy from JSON. -/
def ofJson? (value : Json) : Option Policy := do
  let record ← Json.Record.named? ["rules"] value
  pure { rules := ← record.withDefault "rules" [] (Json.list? PolicyRule.ofJson?) }

/-- A policy as JSON. -/
def toJson (policy : Policy) : Json :=
  .object [("rules", .arr (policy.rules.map PolicyRule.toJson))]

/-- What is expected of a policy. -/
def shape : Shape := .record [(["rules"], .list PolicyRule.shape)]

/-- Read a policy from YAML. -/
def parse (text : String) : Except AccessError Policy :=
  match (shape.ofYaml? text.toList).bind ofJson? with
  | some policy => .ok policy
  | none => .error (.policy "")

/-- Read a policy from a file. -/
def ofFile (files : FileTree) (path : String) : Except AccessError Policy :=
  match files.read path with
  | .ok text => parse text
  | .error e => .error (.policy (path ++ ": " ++ e.message))

end Policy

end VirtualApi
