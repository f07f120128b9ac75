import VirtualApi.ApiError
import VirtualApi.Label.Reader

/-!
# Options of requests

What a caller can ask of `get`, `list` and `create`, and the envelope of a list. A continue token is
the offset of the next entry in decimal notation.
-/

namespace VirtualApi

/-- The options of `list`. -/
structure ListOptions where
  labelSelector : Option String := none
  fieldSelector : Option String := none
  continueToken : Option String := none
  limit : Option Nat := none
  watch : Bool := false
deriving DecidableEq, Repr

/-- The greatest offset a continue token can carry. -/
def maxOffset : Nat := 2 ^ 64 - 1

/-- The token for an offset. -/
def encodeContinue (offset : Nat) : String := Decimal.ofNat offset

/-- The offset a token stands for. -/
def decodeContinue (token : String) : ApiResult Nat :=
  match Decimal.readUnsigned maxOffset token.toList with
  | .ok offset => .ok offset
  | .error e =>
      .error (.badRequest ("invalid continue option " ++ Text.quoted token ++ ": " ++ e.message))

namespace ListOptions

/-- The options with a label selector. -/
def withLabels (options : ListOptions) (selector : String) : ListOptions :=
  { options with labelSelector := some selector }

/-- The options with a limit. -/
def withLimit (options : ListOptions) (limit : Nat) : ListOptions :=
  { options with limit := some limit }

/-- The options with a continue token. -/
def withContinue (options : ListOptions) (token : String) : ListOptions :=
  { options with continueToken := some token }

/-- A field selector that is not blank was given. -/
def hasFieldSelector (options : ListOptions) : Bool :=
  options.fieldSelector.any fun s => Text.trim s.toList ≠ []

/-- The label selector; none selects everything. -/
def selector (options : ListOptions) : ApiResult Selector :=
  match options.labelSelector with
  | none => .ok .everything
  | some s =>
      match Selector.parse s with
      | .ok selector => .ok selector
      | .error e => .error (.badRequest ("invalid label selector: " ++ e.message))

/-- The offset to start from; an absent or empty token starts at zero. -/
def start (options : ListOptions) : ApiResult Nat :=
  match options.continueToken with
  | none | some "" => .ok 0
  | some token => decodeContinue token

/-- The page size; zero stands for no limit. -/
def pageSize (options : ListOptions) : Nat := options.limit.getD 0

/-- Read options from JSON. -/
def ofJson? (value : Json) : Option ListOptions := do
  let record ←
    Json.Record.named? ["labelSelector", "fieldSelector", "continue", "limit", "watch"] value
  pure {
    labelSelector := ← record.optional "labelSelector" Json.str?
    fieldSelector := ← record.optional "fieldSelector" Json.str?
    continueToken := ← record.optional "continue" Json.str?
    limit := ← record.optional "limit" Json.uint64?
    watch := ← record.withDefault "watch" false Json.bool? }

/-- Options as JSON. -/
def toJson (options : ListOptions) : Json :=
  .object (Json.field? "labelSelector" .str options.labelSelector ++
    Json.field? "fieldSelector" .str options.fieldSelector ++
    Json.field? "continue" .str options.continueToken ++
    Json.field? "limit" .nat options.limit ++ [("watch", .bool options.watch)])

end ListOptions

/-- The options of `get`. -/
structure GetOptions where
  resourceVersion : Option String := none
deriving DecidableEq, Repr

namespace GetOptions

/-- Read options from JSON. -/
def ofJson? (value : Json) : Option GetOptions := do
  let record ← Json.Record.named? ["resourceVersion"] value
  pure { resourceVersion := ← record.optional "resourceVersion" Json.str? }

/-- Options as JSON. -/
def toJson (options : GetOptions) : Json :=
  .object (Json.field? "resourceVersion" .str options.resourceVersion)

end GetOptions

/-- The options of `create`. -/
structure CreateOptions where
  dryRun : List String := []
  fieldManager : Option String := none
deriving DecidableEq, Repr

namespace CreateOptions

/-- Read options from JSON. -/
def ofJson? (value : Json) : Option CreateOptions := do
  let record ← Json.Record.named? ["dryRun", "fieldManager"] value
  pure {
    dryRun := ← record.withDefault "dryRun" [] Json.texts?
    fieldManager := ← record.optional "fieldManager" Json.str? }

/-- Options as JSON. -/
def toJson (options : CreateOptions) : Json :=
  .object ((if options.dryRun = [] then [] else [("dryRun", Json.texts options.dryRun)]) ++
    Json.field? "fieldManager" .str options.fieldManager)

end CreateOptions

/-- What a list says about itself. -/
structure ListMeta where
  continueToken : Option String := none
  resourceVersion : Option String := none
deriving DecidableEq, Repr

namespace ListMeta

/-- Read list metadata from JSON. -/
def ofJson? (value : Json) : Option ListMeta := do
  let record ← Json.Record.named? ["continue", "resourceVersion"] value
  pure {
    continueToken := ← record.optional "continue" Json.str?
    resourceVersion := ← record.optional "resourceVersion" Json.str? }

/-- List metadata as JSON. -/
def toJson (metadata : ListMeta) : Json :=
  .object (Json.field? "continue" .str metadata.continueToken ++
    Json.field? "resourceVersion" .str metadata.resourceVersion)

end ListMeta

/-- A list of objects of one kind. -/
structure ObjectList where
  apiVersion : String
  kind : String
  metadata : ListMeta := {}
  items : List Json := []
deriving DecidableEq, Repr

namespace ObjectList

/-- `metadata.name` of every item that has one, in order. -/
def names (list : ObjectList) : List String :=
  list.items.filterMap fun item => (item.at? ["metadata", "name"]).bind Json.str?

/-- Read a list from JSON. -/
def ofJson? (value : Json) : Option ObjectList := do
  let record ← Json.Record.named? ["apiVersion", "kind", "metadata", "items"] value
  pure {
    apiVersion := ← record.required "apiVersion" Json.str?
    kind := ← record.required "kind" Json.str?
    metadata := ← record.required "metadata" ListMeta.ofJson?
    items := ← record.required "items" Json.arr? }

/-- A list as JSON. -/
def toJson (list : ObjectList) : Json :=
  .object [("apiVersion", .str list.apiVersion), ("kind", .str list.kind),
    ("metadata", list.metadata.toJson), ("items", .arr list.items)]

end ObjectList

end VirtualApi
