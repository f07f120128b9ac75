import VirtualApi.Text.Split

/-!
# A tree of files

Files and directories by their place, which is the list of names on the way from the top. A path
text is walked name by name: an empty name and `.` stay, `..` goes up, and every place on the way
has to be a directory, also the last one where a slash follows it. Reading a file or making it fails
with one of a few causes.
-/

namespace VirtualApi

/-- The names on the way to a file or directory. -/
abbrev Place := List String

/-- What a place holds. -/
inductive FileEntry where
  | directory
  | file (text : String)
deriving DecidableEq, Repr, Inhabited

/-- The files and directories that exist, apart from the top directory, which always does. Nothing
in a tree is a link to another place. -/
structure FileTree where
  entries : List (Place × FileEntry) := []
  /-- Files and directories can be made. -/
  writable : Bool := true
deriving DecidableEq, Repr, Inhabited

/-- Why a file cannot be reached. -/
inductive FileError where
  | notFound
  | notADirectory
  | isADirectory
  | nulInName
  | nameTooLong
  | readOnly
deriving DecidableEq, Repr

/-- The wording of each error. -/
def FileError.message : FileError → String
  | .notFound => "No such file or directory (os error 2)"
  | .notADirectory => "Not a directory (os error 20)"
  | .isADirectory => "Is a directory (os error 21)"
  | .nulInName => "file name contained an unexpected NUL byte"
  | .nameTooLong => "File name too long (os error 36)"
  | .readOnly => "Read-only file system (os error 30)"

namespace FileTree

/-- What a place holds; the top is a directory. -/
def lookup (tree : FileTree) : Place → Option FileEntry
  | [] => some .directory
  | place => tree.entries.lookup place

/-- A path below another one; a path that begins with a slash stays as it is. -/
def joinPath (base path : String) : String :=
  if path.toList.head? = some '/' ∨ base = "" then path
  else if base.toList.getLast? = some '/' then base ++ path
  else base ++ "/" ++ path

/-- The names of a path text, without the empty ones. A slash at the end stands for the place itself
as a directory. -/
def names (path : String) : List String :=
  let all := (Text.splitOn '/' path.toList).map String.ofList
  all.filter (· ≠ "") ++ if all.getLast? = some "" then ["."] else []

/-- The greatest number of bytes of a name. -/
def maxNameBytes : Nat := 255

/-- The greatest number of bytes of a path text. -/
def maxPathBytes : Nat := 4095

/-- Go from a place along names. Every place that is left has to be a directory. -/
def walk (tree : FileTree) : Place → List String → Except FileError Place
  | place, [] => .ok place
  | place, name :: rest =>
      match tree.lookup place with
      | none => .error .notFound
      | some (.file _) => .error .notADirectory
      | some .directory =>
          if name = "." then walk tree place rest
          else if name = ".." then walk tree place.dropLast rest
          else if maxNameBytes < name.utf8ByteSize then .error .nameTooLong
          else walk tree (place ++ [name]) rest

/-- The place a path text leads to. -/
def resolve (tree : FileTree) (path : String) : Except FileError Place :=
  if path.toList.contains '\x00' then .error .nulInName
  else if maxPathBytes < path.utf8ByteSize then .error .nameTooLong
  else walk tree [] (names path)

/-- The text of the file at a path. -/
def read (tree : FileTree) (path : String) : Except FileError String := do
  let place ← tree.resolve path
  match tree.lookup place with
  | none => .error .notFound
  | some .directory => .error .isADirectory
  | some (.file text) => .ok text

/-- The tree with an entry at a place, in place of what was there. -/
def insert (tree : FileTree) (place : Place) (entry : FileEntry) : FileTree :=
  { tree with entries := (place, entry) :: tree.entries.filter (·.1 ≠ place) }

/-- The tree without what is at a place. -/
def erase (tree : FileTree) (place : Place) : FileTree :=
  { tree with entries := tree.entries.filter (·.1 ≠ place) }

/-- Remove the file at a path. -/
def remove (tree : FileTree) (path : String) : Except FileError FileTree := do
  let place ← tree.resolve path
  match tree.lookup place with
  | none => .error .notFound
  | some .directory => .error .isADirectory
  | some (.file _) => .ok (tree.erase place)

/-- Make every directory on the way along names. -/
def makeDirectories (tree : FileTree) : Place → List String → Except FileError FileTree
  | _, [] => .ok tree
  | place, name :: rest =>
      let next :=
        if name = "." then place else if name = ".." then place.dropLast else place ++ [name]
      match tree.lookup next with
      | some .directory => makeDirectories tree next rest
      | some (.file _) => .error .notADirectory
      | none =>
          if tree.writable then makeDirectories (tree.insert next .directory) next rest
          else .error .readOnly

/-- Write a file, making the directories it lies in. A directory is never replaced. -/
def write (tree : FileTree) (path text : String) : Except FileError FileTree := do
  let all := names path
  let tree ← tree.makeDirectories [] all.dropLast
  let place ← tree.walk [] all
  match tree.lookup place with
  | some .directory => .error .isADirectory
  | _ => if tree.writable then .ok (tree.insert place (.file text)) else .error .readOnly

/-- A directory with files and directories in it, each path with its text or with none. -/
def ofDirectory (top : String) (contents : List (String × Option String)) : FileTree :=
  contents.foldl (fun tree (path, text) =>
    let result := match text with
      | some text => tree.write (joinPath top path) text
      | none => tree.makeDirectories [] (names (joinPath top path))
    match result with
    | .ok tree => tree
    | .error _ => tree) (({} : FileTree).insert [top] .directory)

/-- The places of all files below a place, as texts of what follows it. -/
def filesBelow (tree : FileTree) (place : Place) : List String :=
  tree.entries.filterMap fun (p, entry) =>
    match entry with
    | .file _ =>
        if place.isPrefixOf p ∧ p ≠ place then some (Text.join "/" (p.drop place.length)) else none
    | .directory => none

end FileTree

end VirtualApi
