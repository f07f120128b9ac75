import VirtualApi.Access.Review

/-!
# Verdicts

A verdict is a decision with its reason. A verdict without an opinion may carry the error that kept
it from one.
-/

namespace VirtualApi

/-- What is decided about a request. -/
inductive Decision where
  | allow
  | deny
  | noOpinion
deriving DecidableEq, Repr, Inhabited

namespace Decision

/-- The name of each decision. -/
def name : Decision → String
  | .allow => "Allow"
  | .deny => "Deny"
  | .noOpinion => "NoOpinion"

/-- The decision of a name. -/
def ofName? (text : String) : Option Decision :=
  [Decision.allow, .deny, .noOpinion].find? fun decision => decision.name = text

end Decision

/-- Why no decision could be made. -/
inductive AccessError where
  | review (text : String)
  | evaluation (text : String)
  | policy (text : String)
  /-- The request was given up or ran out of time while the decision was pending. -/
  | aborted (error : ApiError)
deriving DecidableEq, Repr

namespace AccessError

/-- The wording of each error. -/
def message : AccessError → String
  | .review text => "subject access review failed: " ++ text
  | .evaluation text => "authorization evaluation error: " ++ text
  | .policy text => "invalid authorization policy: " ++ text
  | .aborted error => error.message

/-- The name of each cause. -/
def name : AccessError → String
  | .review _ => "Review"
  | .evaluation _ => "Evaluation"
  | .policy _ => "Policy"
  | .aborted _ => "Aborted"

/-- Read an error from JSON. -/
def ofJson? (value : Json) : Option AccessError := do
  let record ← Json.Record.named? ["kind", "text", "api"] value
  let text ← record.withDefault "text" "" Json.str?
  match ← record.required "kind" Json.str? with
  | "Review" => pure (.review text)
  | "Evaluation" => pure (.evaluation text)
  | "Policy" => pure (.policy text)
  | "Aborted" => (record.required "api" ApiError.ofJson?).map .aborted
  | _ => none

/-- An error as JSON: its cause and its wording. -/
def toJson (e : AccessError) : Json :=
  .object [("error", .str e.name), ("message", .str e.message)]

end AccessError

/-- A decision with its reason. -/
structure Verdict where
  decision : Decision
  reason : String := ""
  error : Option AccessError := none
deriving DecidableEq, Repr

namespace Verdict

/-- Read a verdict from JSON. -/
def ofJson? (value : Json) : Option Verdict := do
  let record ← Json.Record.named? ["decision", "reason", "error"] value
  pure {
    decision := ← (record.required "decision" Json.str?).bind Decision.ofName?
    reason := ← record.withDefault "reason" "" Json.str?
    error := ← record.optional "error" AccessError.ofJson? }

/-- A verdict as JSON. -/
def toJson (verdict : Verdict) : Json :=
  .object [("decision", .str verdict.decision.name), ("reason", .str verdict.reason),
    ("error", (verdict.error.map AccessError.toJson).getD .null)]

/-- The request is allowed. -/
def allow (reason : String) : Verdict := { decision := .allow, reason := reason }

/-- The request is denied. -/
def deny (reason : String) : Verdict := { decision := .deny, reason := reason }

/-- There is no opinion on the request. -/
def noOpinion : Verdict := { decision := .noOpinion }

/-- An error kept the verdict from an opinion. -/
def failed (error : AccessError) : Verdict := { decision := .noOpinion, error := some error }

/-- What the answer to a review decides. Having been allowed comes before having been denied, and an
evaluation error counts only where neither is said. -/
def ofStatus (status : ReviewStatus) : Verdict :=
  let reason := status.reason.getD ""
  if status.allowed then allow reason
  else if status.denied.getD false then deny reason
  else match status.evaluationError.bind nonEmpty? with
    | some text => { failed (.evaluation text) with reason := reason }
    | none => { noOpinion with reason := reason }

end Verdict

end VirtualApi
