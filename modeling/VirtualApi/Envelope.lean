import VirtualApi.Object.Meta

/-!
# Request envelopes

A computed kind is asked through an envelope: the caller fills in the request, and the answer puts
the response beside it. Request and response are read by their own readers.
-/

namespace VirtualApi

/-- An object that carries a request and, once answered, a response. -/
structure Envelope (Request Response : Type) where
  apiVersion : String := ""
  kind : String := ""
  metadata : ObjectMeta := {}
  request : Option Request := none
  response : Option Response := none
deriving DecidableEq, Repr

namespace Envelope

variable {Request Response : Type}

/-- Read an envelope from JSON with the readers of its parts. -/
def ofJson? (readRequest : Json → Option Request) (readResponse : Json → Option Response)
    (value : Json) : Option (Envelope Request Response) := do
  let record ←
    Json.Record.named? ["apiVersion", "kind", "metadata", "request", "response"] value
  pure {
    apiVersion := ← record.withDefault "apiVersion" "" Json.str?
    kind := ← record.withDefault "kind" "" Json.str?
    metadata := ← record.withDefault "metadata" {} ObjectMeta.ofJson?
    request := ← record.optional "request" readRequest
    response := ← record.optional "response" readResponse }

/-- An envelope as JSON with the writers of its parts. -/
def toJson (writeRequest : Request → Json) (writeResponse : Response → Json)
    (envelope : Envelope Request Response) : Json :=
  .object ([("apiVersion", .str envelope.apiVersion), ("kind", .str envelope.kind),
    ("metadata", envelope.metadata.toJson)] ++
    Json.field? "request" writeRequest envelope.request ++
    Json.field? "response" writeResponse envelope.response)

end Envelope

end VirtualApi
