import VirtualApi.Access.Authorizer

/-!
# The access gate

A computation that acts for its caller is run only behind the gate. Only a verdict that allows
passes it; every other one is forbidden, except that a review cut short by the request keeps its
own error.
-/

namespace VirtualApi.Gate

/-- What the caller may not do. -/
def describe (user : String) (t : AccessTarget) : String :=
  let resource := if t.subresource = "" then t.resource else t.resource ++ "/" ++ t.subresource
  "User " ++ Text.quoted user ++ " cannot " ++ t.verb ++ " resource " ++ Text.quoted resource ++
    " in API group " ++ Text.quoted t.group ++
    (if t.namespaceName = "" then "" else " in the namespace " ++ Text.quoted t.namespaceName)

/-- Whether a verdict on a target lets the caller pass. -/
def pass (user : String) (t : AccessTarget) (verdict : Verdict) : ApiResult Unit :=
  match verdict.decision, verdict.error with
  | .allow, _ => .ok ()
  | .deny, _ =>
      .error (.forbidden (describe user t ++
        (if verdict.reason = "" then "" else ": " ++ verdict.reason)))
  | .noOpinion, some (.aborted e) => .error e
  | .noOpinion, some e => .error (.forbidden (describe user t ++ ": " ++ e.message))
  | .noOpinion, none => .error (.forbidden (describe user t))

/-- Ask an authorizer whether the caller may reach a target. -/
def checkAccess (authorizer : Authorizer) (ctx : RequestContext) (t : AccessTarget) :
    Action Unit := do
  let verdict ← (authorizer.authorize ctx (Attributes.forTarget ctx.user t) : StateM World Verdict)
  Action.ofResult (pass ctx.user.name t verdict)

end VirtualApi.Gate
