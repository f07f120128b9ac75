import VirtualApi.ApiError
import VirtualApi.Yaml.Reader

/-!
# Request bodies

A body is JSON, or YAML when it is not JSON. Its size in bytes and the number of nodes it decodes to
are limited: every text, number, truth value, null, array and object is one node.
-/

namespace VirtualApi

/-- The limits of a body. -/
structure BodyLimits where
  maxBytes : Nat := 2 ^ 20
  maxNodes : Nat := 100000
deriving DecidableEq, Repr

namespace BodyLimits

/-- The greatest limit that can be set. -/
def maxSetting : Nat := 2 ^ 64 - 1

/-- The value of a setting; one that is absent or no number keeps the default. -/
def setting (text : Option String) (default : Nat) : Nat :=
  match text with
  | none => default
  | some text =>
      match Decimal.readUnsigned maxSetting text.toList with
      | .ok n => n
      | .error _ => default

/-- The limits with the settings for bytes and for nodes. -/
def ofSettings (bytes nodes : Option String) : BodyLimits where
  maxBytes := setting bytes ({} : BodyLimits).maxBytes
  maxNodes := setting nodes ({} : BodyLimits).maxNodes

end BodyLimits

namespace Json

/-- The values directly inside a value. -/
def children : Json → List Json
  | .arr items => items
  | .obj fields => fields.map (·.2)
  | _ => []

/-- Count the nodes of pending values, on top of those counted already, until more than `room` of
them are found. -/
def countFrom : Nat → Nat → List Json → Nat
  | _, counted, [] => counted
  | 0, counted, _ :: _ => counted + 1
  | room + 1, counted, value :: pending =>
      countFrom room (counted + 1) (value.children ++ pending)

/-- The number of nodes of a value, counted to one beyond the budget. -/
def countNodes (value : Json) (budget : Nat) : Nat := countFrom budget 0 [value]

end Json

namespace Body

/-- The value that a text holds, as JSON or else as YAML. -/
def value? (text : List Char) : Option Json :=
  match Json.read? text with
  | some value => some value
  | none => Shape.any.ofYaml? text

/-- The value that bytes hold; they have to be UTF-8. -/
def valueOfBytes? (bytes : ByteArray) : Option Json :=
  (String.fromUTF8? bytes).bind fun text => value? text.toList

/-- Decode a body within limits. -/
def decode (bytes : ByteArray) (limits : BodyLimits) : ApiResult Json :=
  if limits.maxBytes < bytes.size then
    .error (.requestEntityTooLarge ("body is " ++ Decimal.ofNat bytes.size ++
      " bytes, limit is " ++ Decimal.ofNat limits.maxBytes))
  else
    match valueOfBytes? bytes with
    | none => .error (.badRequest "unable to decode body: ")
    | some value =>
        if limits.maxNodes < value.countNodes limits.maxNodes then
          .error (.requestEntityTooLarge
            ("body has more than " ++ Decimal.ofNat limits.maxNodes ++ " nodes"))
        else .ok value

end Body

end VirtualApi
