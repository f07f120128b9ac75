import VirtualApi.Kind.Basic

/-!
# The registry of kinds

Kinds are registered one after the other and found by any of their spellings, in letters of either
case. The kind that was registered first keeps a spelling; a kind is registered only once.
-/

namespace VirtualApi

/-- The registered kinds in order, and the kind that each spelling stands for. -/
structure Registry where
  kinds : List Kind := []
  names : List (String × Kind) := []

namespace Registry

/-- The number of kinds. -/
def size (registry : Registry) : Nat := registry.kinds.length

/-- The kind of a text is registered. -/
def contains (registry : Registry) (key : String) : Bool :=
  registry.kinds.any fun kind => kind.gvk.key = key

/-- Let a spelling stand for a kind, unless it stands for one already. -/
def addName (kind : Kind) (names : List (String × Kind)) (spelling : String) :
    List (String × Kind) :=
  if (names.lookup spelling).isSome then names else names ++ [(spelling, kind)]

/-- Register a kind. -/
def register (registry : Registry) (kind : Kind) : ApiResult Registry :=
  if registry.contains kind.gvk.key then
    .error (.internal ("kind " ++ kind.gvk.key ++ " registered twice"))
  else
    .ok {
      kinds := registry.kinds ++ [kind]
      names := kind.spellings.foldl (addName kind) registry.names }

/-- Register kinds one after the other; each one is accepted or refused with an error. -/
def registerEach (registry : Registry) : List Kind → List (ApiResult Unit) × Registry
  | [] => ([], registry)
  | kind :: rest =>
      match registry.register kind with
      | .ok next =>
          let (outcomes, final) := next.registerEach rest
          (.ok () :: outcomes, final)
      | .error e =>
          let (outcomes, final) := registry.registerEach rest
          (.error e :: outcomes, final)

/-- The kind that a name stands for. -/
def lookup (registry : Registry) (name : String) : ApiResult Kind :=
  match registry.names.lookup (Text.asciiLower name) with
  | some kind => .ok kind
  | none =>
      .error (.badRequest ("the server doesn't have a resource type " ++ Text.quoted name))

end Registry

end VirtualApi
