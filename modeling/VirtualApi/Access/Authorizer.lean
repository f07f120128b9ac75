import VirtualApi.Access.Policy
import VirtualApi.Cluster.Transport

/-!
# Authorizers

An authorizer gives a verdict on a request. A local policy decides at once; a remote authorizer
submits a review to the host cluster; the tiered authorizer asks a second one only when the first
has no opinion and met no error. Any other authorizer may be plugged in as well: what it says may
depend on everything that is known of a request.
-/

namespace VirtualApi

/-- Who answers access reviews. -/
inductive Reviewer where
  /-- A fixed answer after some milliseconds. -/
  | fixed (answer : Except AccessError ReviewStatus) (latency : Nat)
  /-- The host cluster behind a transport. -/
  | host (transport : Transport)

namespace Reviewer

/-- Where reviews are submitted. -/
def reviewUri : String := "/apis/authorization.k8s.io/v1/subjectaccessreviews?"

/-- The answer that a reply to a review carries. -/
def statusOfReply (reply : Reply) : Except AccessError ReviewStatus :=
  match Transport.readReply (ReviewStatus.reviewShape.reader ReviewStatus.ofReview?) reply with
  | .error e => .error (.review e.text)
  | .ok none => .error (.review "response carried no status")
  | .ok (some status) => .ok status

/-- Submit a review and wait for the answer. -/
def submit (reviewer : Reviewer) (review : AccessReview) :
    Call (Except AccessError ReviewStatus) := do
  match reviewer with
  | .fixed answer latency =>
      Call.emit (.reviewed review)
      Call.wait latency
      pure answer
  | .host transport =>
      let reply ← transport.send "POST" reviewUri (some review.toJson)
      pure (statusOfReply reply)

end Reviewer

/-- Something that decides about requests. -/
inductive Authorizer where
  | policy (policy : Policy)
  /-- Someone else, who decides by the context and the attributes of a request, and takes some
  milliseconds for it. That they were asked can be seen under their tag. -/
  | custom (tag : String) (latency : Nat) (verdict : RequestContext → Attributes → Verdict)
  | remote (reviewer : Reviewer)
  | tiered (first second : Authorizer)

namespace Authorizer

/-- Always the same verdict, at once. -/
def constant (tag : String) (verdict : Verdict) : Authorizer := .custom tag 0 fun _ _ => verdict

/-- The verdict of a review that ended so. -/
def verdictOfReview : ApiResult (Except AccessError ReviewStatus) → Verdict
  | .ok (.ok status) => Verdict.ofStatus status
  | .ok (.error e) => Verdict.failed e
  | .error e => Verdict.failed (.aborted e)

/-- Decide about a request. -/
def authorize (ctx : RequestContext) (a : Attributes) : Authorizer → StateM World Verdict
  | .policy p => pure (p.evaluate a)
  | .custom tag latency verdict => do
      modify fun w => { w.emit (.authorizerAsked tag a) with now := w.now + latency }
      pure (verdict ctx a)
  | .remote reviewer => do
      let outcome ← (ctx.run (reviewer.submit (AccessReview.ofAttributes a))).attempt
      pure (verdictOfReview outcome)
  | .tiered first second => do
      let verdict ← authorize ctx a first
      if verdict.decision = .noOpinion ∧ verdict.error = none then authorize ctx a second
      else pure verdict

/-- The first authorizer, and a second one behind it where there is one. -/
def withFallback (first : Authorizer) : Option Authorizer → Authorizer
  | none => first
  | some second => .tiered first second

end Authorizer

end VirtualApi
