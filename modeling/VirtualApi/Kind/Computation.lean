import VirtualApi.Envelope
import VirtualApi.Kind.Basic

/-!
# Computations behind an envelope

A computation answers the request of an envelope. What is sent is read as an envelope, the caller
passes the gate where the computation acts for them, and the response is put into the object that
was sent; nothing else of it changes, but that it names its kind.
-/

namespace VirtualApi

/-- A computation on requests. -/
structure Computation (Request Response : Type) where
  readRequest : Json → Option Request
  readResponse : Json → Option Response
  writeResponse : Response → Json
  /-- What the caller must be allowed to do, where the computation acts for them. -/
  accessTarget : RequestContext → Request → Action (Option AccessTarget) := fun _ _ => pure none
  compute : RequestContext → Request → Action Response

namespace Computation

variable {Request Response : Type}

/-- Read the request of what is sent as a kind. -/
def readBody (c : Computation Request Response) (gvk : GroupVersionKind) (body : Json) :
    ApiResult Request := do
  gvk.checkSent body
  match Envelope.ofJson? c.readRequest c.readResponse body with
  | none => .error (.badRequest ("decode " ++ gvk.kind ++ ": "))
  | some envelope =>
      match envelope.request with
      | some request => .ok request
      | none => .error (.badRequest "missing apirequest")

/-- Let the caller pass: without a target, or without an authorizer, everyone does. -/
def letPass (ctx : RequestContext) : Option AccessTarget → Option Authorizer → Action Unit
  | some target, some authorizer => Gate.checkAccess authorizer ctx target
  | _, _ => pure ()

/-- What was sent, with the response in it. -/
def respond (gvk : GroupVersionKind) (body response : Json) : Json :=
  (gvk.stamp body).set "response" response

/-- Answer what is sent as a kind. -/
def create (c : Computation Request Response) : Creator := fun gvk authorizer ctx body => do
  let request ← Action.ofResult (c.readBody gvk body)
  let target ← c.accessTarget ctx request
  letPass ctx target authorizer
  let response ← c.compute ctx request
  pure (respond gvk body (c.writeResponse response))

end Computation

end VirtualApi
