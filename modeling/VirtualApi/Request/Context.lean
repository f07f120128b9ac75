import VirtualApi.ApiError

/-!
# Request contexts

Who makes a request, in which namespace, and until when it may run. Times are milliseconds of a
virtual clock. `RequestContext.abort?` says whether a request may still make calls at a time, and
`RequestContext.horizon?` when a call under way is cut off; the two agree.
-/

namespace VirtualApi

/-- The authenticated identity of a caller. -/
structure UserInfo where
  name : String := ""
  uid : String := ""
  groups : List String := []
  extra : Entries (List String) := []
deriving DecidableEq, Repr, Inhabited

namespace UserInfo

/-- The identity of a caller who did not authenticate. -/
def anonymous : UserInfo := { name := "system:anonymous", groups := ["system:unauthenticated"] }

/-- Read an identity from JSON. -/
def ofJson? (value : Json) : Option UserInfo := do
  let record ← Json.Record.named? ["name", "uid", "groups", "extra"] value
  pure {
    name := ← record.required "name" Json.str?
    uid := ← record.withDefault "uid" "" Json.str?
    groups := ← record.withDefault "groups" [] Json.texts?
    extra := ← record.withDefault "extra" [] (Json.map? Json.texts?) }

/-- An identity as JSON. -/
def toJson (user : UserInfo) : Json :=
  .object [("name", .str user.name), ("uid", .str user.uid), ("groups", .texts user.groups),
    ("extra", .obj (user.extra.mapValues .texts))]

end UserInfo

/-- What is known of a request while it is served. -/
structure RequestContext where
  user : UserInfo := .anonymous
  namespaceName : Option String := none
  /-- The time at which the request runs out of time. -/
  deadline : Option Nat := none
  /-- The time at which the caller gives the request up. -/
  cancelAt : Option Nat := none
deriving DecidableEq, Repr, Inhabited

namespace RequestContext

/-- The context with a namespace; an empty name is none. -/
def withNamespace (ctx : RequestContext) (ns : Option String) : RequestContext :=
  { ctx with namespaceName := ns.filter (· ≠ "") }

/-- Read a context that starts at this time from JSON. -/
def ofJson? (now : Nat) (value : Json) : Option RequestContext := do
  let record ← Json.Record.named? ["user", "namespace", "timeoutMs", "cancelled", "cancelAfterMs"]
    value
  let user ← record.withDefault "user" .anonymous UserInfo.ofJson?
  let ns ← record.optional "namespace" Json.str?
  let timeout ← record.optional "timeoutMs" Json.uint64?
  let cancelled ← record.withDefault "cancelled" false Json.bool?
  let cancelAfter ← record.optional "cancelAfterMs" Json.uint64?
  let ctx : RequestContext := {
    user := user
    deadline := timeout.map (now + ·)
    cancelAt := if cancelled then some now else cancelAfter.map (now + ·) }
  pure (ctx.withNamespace ns)

/-- The caller has given up at this time. -/
def isCancelledAt (ctx : RequestContext) (now : Nat) : Bool := ctx.cancelAt.any (· ≤ now)

/-- The request has run out of time at this time. -/
def isExpiredAt (ctx : RequestContext) (now : Nat) : Bool := ctx.deadline.any (· ≤ now)

/-- The error of a request that ran out of time. -/
def deadlineExceeded : ApiError := .timeout "request deadline exceeded"

/-- Why no call may run at this time, if so. Having given up comes before running out of time. -/
def abort? (ctx : RequestContext) (now : Nat) : Option ApiError :=
  if ctx.isCancelledAt now then some .cancelled
  else if ctx.isExpiredAt now then some deadlineExceeded else none

/-- The time at which a call that is still under way is cut off. -/
def horizon? (ctx : RequestContext) : Option Nat :=
  match ctx.cancelAt, ctx.deadline with
  | some c, some d => some (min c d)
  | some c, none => some c
  | none, d => d

end RequestContext

end VirtualApi
