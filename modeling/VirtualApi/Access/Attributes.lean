import VirtualApi.Request.Context

/-!
# What an access decision is made from

An access target says what a caller must be allowed to do; `Attributes` are a target together with
the caller, or a request for a path that is no resource.
-/

namespace VirtualApi

/-- What a caller must be allowed to do. -/
structure AccessTarget where
  verb : String
  group : String
  version : String
  resource : String
  subresource : String := ""
  namespaceName : String := ""
  name : String := ""
deriving DecidableEq, Repr, Inhabited

namespace AccessTarget

/-- Read a target from JSON. -/
def ofJson? (value : Json) : Option AccessTarget := do
  let record ← Json.Record.named?
    ["verb", "group", "version", "resource", "subresource", "namespace", "name"] value
  pure {
    verb := ← record.required "verb" Json.str?
    group := ← record.required "group" Json.str?
    version := ← record.required "version" Json.str?
    resource := ← record.required "resource" Json.str?
    subresource := ← record.withDefault "subresource" "" Json.str?
    namespaceName := ← record.withDefault "namespace" "" Json.str?
    name := ← record.withDefault "name" "" Json.str? }

/-- A target as JSON. -/
def toJson (t : AccessTarget) : Json :=
  .object [("verb", .str t.verb), ("group", .str t.group), ("version", .str t.version),
    ("resource", .str t.resource), ("subresource", .str t.subresource),
    ("namespace", .str t.namespaceName), ("name", .str t.name)]

end AccessTarget

/-- Everything an access decision is made from. -/
structure Attributes where
  user : UserInfo := {}
  verb : String := ""
  group : String := ""
  version : String := ""
  resource : String := ""
  subresource : String := ""
  namespaceName : String := ""
  name : String := ""
  /-- The path, for a request that is not for a resource. -/
  path : String := ""
deriving DecidableEq, Repr, Inhabited

namespace Attributes

/-- The attributes of a caller who wants to reach a target. -/
def forTarget (user : UserInfo) (t : AccessTarget) : Attributes where
  user := user
  verb := t.verb
  group := t.group
  version := t.version
  resource := t.resource
  subresource := t.subresource
  namespaceName := t.namespaceName
  name := t.name

/-- The attributes of a caller who asks for a path. -/
def nonResource (user : UserInfo) (verb path : String) : Attributes :=
  { user := user, verb := verb, path := path }

/-- Read attributes from JSON; what is missing is empty. -/
def ofJson? (value : Json) : Option Attributes := do
  let record ← Json.Record.named? ["user", "verb", "group", "version", "resource", "subresource",
    "namespace", "name", "path"] value
  pure {
    user := ← record.withDefault "user" {} UserInfo.ofJson?
    verb := ← record.withDefault "verb" "" Json.str?
    group := ← record.withDefault "group" "" Json.str?
    version := ← record.withDefault "version" "" Json.str?
    resource := ← record.withDefault "resource" "" Json.str?
    subresource := ← record.withDefault "subresource" "" Json.str?
    namespaceName := ← record.withDefault "namespace" "" Json.str?
    name := ← record.withDefault "name" "" Json.str?
    path := ← record.withDefault "path" "" Json.str? }

/-- Attributes as one entry of a log. -/
def toJson (a : Attributes) : Json :=
  .object [("user", .str a.user.name), ("verb", .str a.verb),
    ("resource", .str (Text.join "|" [a.group, a.version, a.resource, a.subresource])),
    ("namespace", .str a.namespaceName), ("name", .str a.name), ("path", .str a.path)]

/-- The request is for a resource. -/
def isResourceRequest (a : Attributes) : Bool := a.path = ""

end Attributes

end VirtualApi
