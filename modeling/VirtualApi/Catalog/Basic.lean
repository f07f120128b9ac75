import VirtualApi.ApiError
import VirtualApi.Label.Basic

/-!
# Catalogs

A catalog holds named entries in the order of the paths of their documents. `Catalog.ofDocuments`
reads documents in any order; the first document in path order that does not read, or that repeats
a name, decides the error. Entries are found by name or by path.
-/

namespace VirtualApi

/-- Why a catalog or something in it is not there. -/
inductive CatalogError where
  | notFound (name : String)
  | fileNotFound (path : String)
  | undecodable (path : String)
  | duplicate (name first second : String)
  | unresolved (outline group kind : String)
  | missingReference (outline block : String)
deriving DecidableEq, Repr

namespace CatalogError

/-- The wording of each error. -/
def message : CatalogError → String
  | .notFound name => "catalog entry " ++ Text.quoted name ++ " not found"
  | .fileNotFound path => "catalog file " ++ Text.quoted path ++ " not found"
  | .undecodable path => "failed to decode " ++ path ++ ": "
  | .duplicate name first second =>
      "duplicate catalog entry " ++ Text.quoted name ++ " in " ++ first ++ " and " ++ second
  | .unresolved outline group kind =>
      "outline " ++ Text.quoted outline ++ " references " ++ group ++ "/" ++ kind ++
        ", which has no resource descriptor"
  | .missingReference outline block =>
      "outline " ++ Text.quoted outline ++ " block " ++ Text.quoted block ++
        " needs a resource reference"

/-- The name of each cause. -/
def name : CatalogError → String
  | .notFound _ => "NotFound"
  | .fileNotFound _ => "FileNotFound"
  | .undecodable _ => "Decode"
  | .duplicate .. => "Duplicate"
  | .unresolved .. => "Unresolved"
  | .missingReference .. => "MissingRef"

/-- The error says that an entry does not exist. -/
def isNotFound : CatalogError → Bool
  | .notFound _ | .fileNotFound _ => true
  | _ => false

/-- The error as it is reported to the client. -/
def toApiError (e : CatalogError) : ApiError := .internal e.message

end CatalogError

/-- Something that a catalog can hold. -/
class CatalogEntry (α : Type) where
  /-- The name of an entry, empty when it has none. -/
  name : α → String
  labels : α → Labels
  ofText? : String → Option α
  toJson : α → Json

/-- A document that an entry is read from. -/
structure CatalogDocument where
  path : String
  text : String
deriving DecidableEq, Repr, Inhabited

/-- Entries with the paths of their documents, in path order. -/
structure Catalog (α : Type) where
  located : List (String × α) := []
deriving Repr

namespace Catalog

variable {α : Type}

/-- All entries. -/
def entries (catalog : Catalog α) : List α := catalog.located.map (·.2)

/-- The paths of all entries. -/
def paths (catalog : Catalog α) : List String := catalog.located.map (·.1)

/-- The number of entries. -/
def size (catalog : Catalog α) : Nat := catalog.located.length

/-- The catalog holds nothing. -/
def isEmpty (catalog : Catalog α) : Bool := catalog.located.isEmpty

variable [CatalogEntry α]

/-- The path and the entry that has a name. -/
def locate? (catalog : Catalog α) (name : String) : Option (String × α) :=
  catalog.located.find? fun (_, entry) => CatalogEntry.name entry = name

/-- Read one more document, whose path comes after all others. -/
def insert (catalog : Catalog α) (document : CatalogDocument) : Except CatalogError (Catalog α) :=
  match CatalogEntry.ofText? document.text with
  | none => .error (.undecodable document.path)
  | some entry =>
      match catalog.locate? (CatalogEntry.name entry) with
      | some (first, _) => .error (.duplicate (CatalogEntry.name entry) first document.path)
      | none => .ok ⟨catalog.located ++ [(document.path, entry)]⟩

/-- Documents in the order of their paths. -/
def inPathOrder (documents : List CatalogDocument) : List CatalogDocument :=
  documents.mergeSort fun a b => a.path ≤ b.path

/-- Read documents in any order. -/
def ofDocuments (documents : List CatalogDocument) : Except CatalogError (Catalog α) :=
  (inPathOrder documents).foldlM insert ⟨[]⟩

/-- The entry that has a name. -/
def byName (catalog : Catalog α) (name : String) : Except CatalogError α :=
  match catalog.locate? name with
  | some (_, entry) => .ok entry
  | none => .error (.notFound name)

/-- A path without the `./` it begins with, however often. -/
def trimHere : List Char → List Char
  | '.' :: '/' :: rest => trimHere rest
  | path => path

omit [CatalogEntry α] in
/-- The entry of a path; of several the last counts. -/
def byFile (catalog : Catalog α) (path : String) : Except CatalogError α :=
  let path := String.ofList (trimHere path.toList)
  match catalog.located.reverse.lookup path with
  | some entry => .ok entry
  | none => .error (.fileNotFound path)

end Catalog

/-! ## Directories of documents -/

/-- A directory of documents: each name is a document or a directory. -/
inductive DocumentTree where
  | document (text : String)
  | directory (entries : List (String × DocumentTree))
deriving Inhabited

namespace DocumentTree

mutual

/-- Read a tree from JSON: objects are directories and texts are documents. -/
def ofJson? : Json → Option DocumentTree
  | .str text => some (.document text)
  | .obj fields => (entriesOfJson? fields).map .directory
  | _ => none

/-- Read the entries of a directory from JSON. -/
def entriesOfJson? : List (String × Json) → Option (List (String × DocumentTree))
  | [] => some []
  | (name, value) :: rest => do
      let tree ← ofJson? value
      let trees ← entriesOfJson? rest
      pure ((name, tree) :: trees)

end

/-- The file of a path is read: it is a YAML or a JSON document. -/
def isRead (path : String) : Bool :=
  [".yaml", ".yml", ".json"].any fun ending => ending.toList.isSuffixOf path.toList

/-- A path with slashes between its names. -/
def slashed (path : String) : String :=
  String.ofList (path.toList.map fun c => if c = '\\' then '/' else c)

mutual

/-- The documents of a tree that lies at a path. -/
def documentsAt (path : String) : DocumentTree → List CatalogDocument
  | .document text => if isRead (slashed path) then [⟨slashed path, text⟩] else []
  | .directory entries => documentsBelow path entries

/-- The documents of the entries of a directory at a path; the top has the empty path. -/
def documentsBelow (path : String) : List (String × DocumentTree) → List CatalogDocument
  | [] => []
  | (name, tree) :: rest =>
      documentsAt (if path = "" then name else path ++ "/" ++ name) tree ++ documentsBelow path rest

end

/-- The documents of a tree. -/
def documents (tree : DocumentTree) : List CatalogDocument := documentsAt "" tree

end DocumentTree

end VirtualApi
