import VirtualApi.Access.Gate
import VirtualApi.Catalog.Paging
import VirtualApi.Table.Convertor

/-!
# Kinds and what is behind them

A kind is served with some verbs and has something behind it that answers: a catalog, a
computation, or a lookup in the cluster. A kind knows its empty object and list, and the names it
is addressed by.
-/

namespace VirtualApi

/-- What can be asked of a kind. -/
inductive Verb where
  | get
  | list
  | create
  | watch
deriving DecidableEq, Repr, Inhabited

namespace Verb

/-- All verbs. -/
def all : List Verb := [.get, .list, .create, .watch]

/-- The name of each verb. -/
def name : Verb → String
  | .get => "get"
  | .list => "list"
  | .create => "create"
  | .watch => "watch"

end Verb

/-- A catalog whose entries are served as objects. -/
structure CatalogSource where
  list : ListOptions → Selector → ApiResult (ListPart Json)
  /-- The object of a name, if there is one. -/
  get : String → ApiResult (Option Json)

/-- Objects that are looked up in the cluster at each request. -/
structure LookupSource where
  get : RequestContext → String → Action Json
  list : RequestContext → Action (List Json) := fun _ => pure []

/-- Objects that never change. -/
def LookupSource.ofObjects (objects : List Json) : LookupSource where
  get _ name :=
    match objects.find? fun object => object.at? ["metadata", "name"] = some (.str name) with
    | some object => pure object
    | none => throw (.notFound "" "objects" name)
  list _ := pure objects

/-- A computation on the object that is sent; the authorizer decides whether the caller may have
it. -/
abbrev Creator := GroupVersionKind → Option Authorizer → RequestContext → Json → Action Json

/-- What answers for a kind. -/
inductive Backend where
  | catalog (source : CatalogSource)
  | compute (creator : Creator)
  | lookup (source : LookupSource)

/-- The verbs that a backend implies. -/
def Backend.verbs : Backend → List Verb
  | .catalog _ | .lookup _ => [.get, .list]
  | .compute _ => [.create]

/-- A kind that is served. -/
structure Kind where
  gvk : GroupVersionKind
  plural : String
  /-- The name of one object: the kind in lower-case letters, unless another one is given. -/
  singular : String := Text.asciiLower gvk.kind
  backend : Backend
  namespaced : Bool := false
  verbs : List Verb := backend.verbs
  table : TableConvertor := { group := gvk.group, resource := plural }

namespace Kind

/-- The names that a kind is addressed by. -/
def spellings (kind : Kind) : List String :=
  [kind.plural, kind.singular] ++
    if kind.gvk.group = "" then [] else [kind.plural ++ "." ++ kind.gvk.group]

/-- The kind is served with a verb. -/
def supports (kind : Kind) (verb : Verb) : Bool := kind.verbs.contains verb

/-- The kind as a resource. -/
def resourceId (kind : Kind) : ResourceId where
  group := kind.gvk.group
  version := kind.gvk.version
  name := kind.plural
  kind := kind.gvk.kind
  scope := if kind.namespaced then .namespaced else .cluster

/-- An object that says nothing but its kind. -/
def emptyObject (kind : Kind) : Json :=
  .object [("apiVersion", .str kind.gvk.apiVersion), ("kind", .str kind.gvk.kind),
    ("metadata", .empty)]

/-- A list without items. -/
def emptyList (kind : Kind) : ObjectList :=
  { apiVersion := kind.gvk.apiVersion, kind := kind.gvk.kind ++ "List" }

/-- The error of a verb that the kind is not served with. -/
def notSupported (kind : Kind) (verb : Verb) : ApiError :=
  .methodNotSupported kind.gvk.group kind.plural verb.name

end Kind

namespace GroupVersionKind

/-- Set a text field of an object that is absent, empty or no text. -/
def fill (field value : String) (object : Json) : Json :=
  if object.textAt [field] = "" then object.set field (.str value) else object

/-- An object that names its kind: where it does not, it is given this one. -/
def stamp (gvk : GroupVersionKind) (object : Json) : Json :=
  fill "kind" gvk.kind (fill "apiVersion" gvk.apiVersion object)

/-- Refuse what is sent as this kind and is no object, or names another kind. -/
def checkSent (gvk : GroupVersionKind) (body : Json) : ApiResult Unit :=
  if !body.isObject then .error (.badRequest ("expected a " ++ gvk.kind ++ " object"))
  else
    let apiVersion := body.textAt ["apiVersion"]
    let kind := body.textAt ["kind"]
    if (apiVersion ≠ "" ∧ apiVersion ≠ gvk.apiVersion) ∨ (kind ≠ "" ∧ kind ≠ gvk.kind) then
      .error (.badRequest ("expected " ++ gvk.apiVersion ++ " " ++ gvk.kind ++ ", got " ++
        apiVersion ++ " " ++ kind))
    else .ok ()

end GroupVersionKind

/-! ## Catalogs as backends -/

namespace CatalogSource

variable {α : Type} [CatalogEntry α]

/-- Write an entry as an object; a failure is an internal error. -/
def rendered (render : α → Except CatalogError Json) (entry : α) : ApiResult Json :=
  (render entry).mapError CatalogError.toApiError

/-- A catalog whose entries are written with a function. -/
def ofCatalog (catalog : Catalog α) (render : α → Except CatalogError Json) : CatalogSource where
  list options selector := do
    let part ← paginate catalog.entries options selector
    pure ⟨← part.items.mapM (rendered render), part.continueToken⟩
  get name :=
    match catalog.byName name with
    | .ok entry => (rendered render entry).map some
    | .error e => if e.isNotFound then .ok none else .error e.toApiError

/-- A catalog whose entries are written as they are. -/
def ofEntries (catalog : Catalog α) : CatalogSource :=
  ofCatalog catalog fun entry => .ok (CatalogEntry.toJson entry)

end CatalogSource

end VirtualApi
