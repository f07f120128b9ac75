import VirtualApi.Json.Record

/-!
# Errors of the API

Every error that reaches a client is one of these causes. Each has a status code, a reason and a
message, and renders as a failure status object. `hostStatus` is a status of the host cluster,
passed on as it came.
-/

namespace VirtualApi

/-- An error that is reported to the client. -/
inductive ApiError where
  | badRequest (message : String)
  | notFound (group resource name : String)
  | forbidden (message : String)
  | methodNotSupported (group resource verb : String)
  | requestEntityTooLarge (message : String)
  | timeout (message : String)
  | cancelled
  | internal (message : String)
  | hostStatus (code : Nat) (reason message : String)
deriving DecidableEq, Repr

namespace ApiError

/-- A resource name, followed by its group when it has one. -/
def qualified (group resource : String) : String :=
  if group = "" then resource else resource ++ "." ++ group

/-- The wording of each error. -/
def message : ApiError → String
  | .badRequest m => m
  | .notFound group resource name => qualified group resource ++ " \"" ++ name ++ "\" not found"
  | .forbidden m => m
  | .methodNotSupported group resource verb =>
      "the server does not allow this method on the requested resource: " ++ verb ++ " " ++
        qualified group resource
  | .requestEntityTooLarge m => "request entity too large: " ++ m
  | .timeout m => "Timeout: " ++ m
  | .cancelled => "request cancelled"
  | .internal m => "Internal error occurred: " ++ m
  | .hostStatus _ _ m => m

/-- The status code of each error. -/
def code : ApiError → Nat
  | .badRequest _ => 400
  | .notFound .. => 404
  | .forbidden _ => 403
  | .methodNotSupported .. => 405
  | .requestEntityTooLarge _ => 413
  | .timeout _ => 504
  | .cancelled | .internal _ => 500
  | .hostStatus code _ _ => code

/-- The reason each error is reported with. -/
def reason : ApiError → String
  | .badRequest _ => "BadRequest"
  | .notFound .. => "NotFound"
  | .forbidden _ => "Forbidden"
  | .methodNotSupported .. => "MethodNotAllowed"
  | .requestEntityTooLarge _ => "RequestEntityTooLarge"
  | .timeout _ => "Timeout"
  | .cancelled | .internal _ => "InternalError"
  | .hostStatus _ reason _ => reason

/-- The error says that something does not exist. -/
def isNotFound (e : ApiError) : Bool := e.code = 404

/-- The error says that the request ran out of time or was given up. -/
def isAbort : ApiError → Bool
  | .timeout _ | .cancelled => true
  | _ => false

/-- The name of each cause. -/
def name : ApiError → String
  | .badRequest _ => "BadRequest"
  | .notFound .. => "NotFound"
  | .forbidden _ => "Forbidden"
  | .methodNotSupported .. => "MethodNotSupported"
  | .requestEntityTooLarge _ => "RequestEntityTooLarge"
  | .timeout _ => "Timeout"
  | .cancelled => "Cancelled"
  | .internal _ => "Internal"
  | .hostStatus .. => "Upstream"

/-- What the error is about, where it names a resource. -/
def details : ApiError → Option Json
  | .notFound group resource name =>
      some (.object [("group", .str group), ("kind", .str resource), ("name", .str name)])
  | .methodNotSupported group resource _ =>
      some (.object [("group", .str group), ("kind", .str resource)])
  | _ => none

/-- The failure status object of an error. -/
def status (e : ApiError) : Json :=
  .object ([("apiVersion", .str "v1"), ("kind", .str "Status"), ("code", .nat e.code),
    ("message", .str e.message), ("metadata", .empty), ("reason", .str e.reason),
    ("status", .str "Failure")] ++ Json.field? "details" id e.details)

/-- An error as JSON: its name, with what it carries when it carries anything. -/
def toJson : ApiError → Json
  | .cancelled => .str "Cancelled"
  | .badRequest m => .object [("BadRequest", .str m)]
  | .forbidden m => .object [("Forbidden", .str m)]
  | .requestEntityTooLarge m => .object [("RequestEntityTooLarge", .str m)]
  | .timeout m => .object [("Timeout", .str m)]
  | .internal m => .object [("Internal", .str m)]
  | .notFound group resource name =>
      .object [("NotFound", .object [("group", .str group), ("resource", .str resource),
        ("name", .str name)])]
  | .methodNotSupported group resource verb =>
      .object [("MethodNotSupported", .object [("group", .str group), ("resource", .str resource),
        ("verb", .str verb)])]
  | .hostStatus code reason message =>
      .object [("Upstream", .object [("code", .nat code), ("reason", .str reason),
        ("message", .str message)])]

/-- Read what a named cause carries. -/
def ofPayload? (name : String) (payload : Json) : Option ApiError :=
  match name with
  | "BadRequest" => payload.str?.map .badRequest
  | "Forbidden" => payload.str?.map .forbidden
  | "RequestEntityTooLarge" => payload.str?.map .requestEntityTooLarge
  | "Timeout" => payload.str?.map .timeout
  | "Internal" => payload.str?.map .internal
  | "Cancelled" => if payload = .null then some .cancelled else none
  | "NotFound" => do
      let record ← Json.Record.named? ["group", "resource", "name"] payload
      pure (.notFound (← record.required "group" Json.str?) (← record.required "resource" Json.str?)
        (← record.required "name" Json.str?))
  | "MethodNotSupported" => do
      let record ← Json.Record.named? ["group", "resource", "verb"] payload
      pure (.methodNotSupported (← record.required "group" Json.str?)
        (← record.required "resource" Json.str?) (← record.required "verb" Json.str?))
  | "Upstream" => do
      let record ← Json.Record.named? ["code", "reason", "message"] payload
      pure (.hostStatus (← record.required "code" Json.uint16?)
        (← record.required "reason" Json.str?) (← record.required "message" Json.str?))
  | _ => none

/-- Read an error from JSON. -/
def ofJson? : Json → Option ApiError
  | .str "Cancelled" => some .cancelled
  | .obj [(name, payload)] => ofPayload? name payload
  | _ => none

end ApiError

/-- The outcome of an operation of the API. -/
abbrev ApiResult (α : Type) := Except ApiError α

end VirtualApi
