import VirtualApi.Cluster.Uri
import VirtualApi.Json.Printer
import VirtualApi.Json.Record
import VirtualApi.Json.Shape
import VirtualApi.Request.Action

/-!
# Requests to the host cluster

A host cluster is reached through a transport, which replies to a method and a URI. A reply with an
error status becomes the error it carries, and one that cannot be read is an internal error.
-/

namespace VirtualApi

/-- The reply to a request. -/
structure Reply where
  status : Nat := 200
  text : String := ""
  /-- The milliseconds that the reply takes. -/
  latency : Nat := 0
deriving DecidableEq, Repr, Inhabited

/-- What a host cluster replies to a method and a URI. -/
abbrev Transport := String → String → Reply

namespace Reply

/-- Read a reply from JSON; a body is sent as its text. -/
def ofJson? (value : Json) : Option Reply := do
  let record ← Json.Record.named? ["status", "text", "latencyMs"] value
  let text ← record.withDefault "text" "" Json.str?
  pure {
    status := ← record.withDefault "status" 200 Json.uint64?
    text := ((value.get? "body").map Json.compact).getD text
    latency := ← record.withDefault "latencyMs" 0 Json.uint64? }

/-- The reply to a request for what is not there. -/
def notFound : Reply where
  status := 404
  text := (Json.object [("kind", .str "Status"), ("status", .str "Failure"),
    ("reason", .str "NotFound"), ("code", .nat 404),
    ("message", .str "the server could not find the requested resource")]).compact

end Reply

/-- The transport that gives each request, a method and a URI with a space between, its reply. -/
def Transport.ofReplies (replies : Entries Reply) : Transport := fun method uri =>
  (Entries.get? (method ++ " " ++ uri) replies).getD .notFound

/-- Why a request to the host cluster fails. -/
inductive TransportError where
  /-- The cluster replied with an error status. -/
  | status (code : Nat) (reason message : String)
  /-- The reply cannot be read. -/
  | unreadable
  /-- The request cannot be built. -/
  | unbuildable (text : String)
deriving DecidableEq, Repr

namespace TransportError

/-- The wording of an error that is not a status. -/
def text : TransportError → String
  | .status .. => "ApiError: "
  | .unreadable => "Error deserializing response"
  | .unbuildable text => text

/-- The error that is reported to the client. -/
def toApiError : TransportError → ApiError
  | .status code reason message => .hostStatus code reason message
  | e => .internal e.text

end TransportError

namespace Transport

/-- What is expected of an error reply. -/
def statusShape : Shape :=
  .record [(["status"], .text), (["message"], .text), (["reason"], .text), (["code"], .int)]

/-- Read the status of an error reply. -/
def status? (value : Json) : Option TransportError := do
  let record ← Json.Record.named? ["status", "message", "reason", "code"] value
  let _ ← record.required "status" Json.str?
  pure (.status (← record.required "code" Json.uint16?)
    (← record.withDefault "reason" "" Json.str?) (← record.withDefault "message" "" Json.str?))

/-- The value that a reply carries, read with a reader. -/
def readReply {α : Type} (read : RawReader α) (reply : Reply) : Except TransportError α :=
  if 400 ≤ reply.status ∧ reply.status < 600 then
    .error (((statusShape.reader status?).ofText? reply.text.toList).getD
      (.status reply.status "Failed to parse error data" (Text.quoted reply.text)))
  else
    match read.ofText? reply.text.toList with
    | some a => .ok a
    | none => .error .unreadable

/-- Send a request and wait for the reply. -/
def send (transport : Transport) (method uri : String) (body : Option Json) : Call Reply := do
  Call.emit (.sent method uri body)
  Call.wait (transport method uri).latency
  pure (transport method uri)

/-- Ask for a value; `unbuildable` words the error of a request that cannot be built. -/
def get (transport : Transport) {α : Type} (unbuildable : UriError → String) (text : String)
    (read : RawReader α) : Call α :=
  match Uri.ofText text with
  | .error e => Call.answer (.error (TransportError.unbuildable (unbuildable e)).toApiError)
  | .ok uri => do
      let reply ← transport.send "GET" uri none
      Call.answer ((readReply read reply).mapError TransportError.toApiError)

end Transport

end VirtualApi
