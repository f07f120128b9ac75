import VirtualApi.Json.Basic
import VirtualApi.Quantity.Printer
import VirtualApi.Quantity.Reader

/-!
# Resource lists

A resource list names quantities, each kept as its text. Lists are added and compared name by name;
a name that only the first list has keeps its text, every other quantity is written anew. A result
out of range is reported under the resource's name.
-/

namespace VirtualApi

/-- Quantity texts by resource name. -/
abbrev ResourceList := Entries String

namespace ResourceList

open Quantity

/-- The quantity under a name, combined with the one to be merged in. -/
def mergeOne (pick : Quantity → Quantity → Option Quantity) (base : ResourceList)
    (name text : String) : Except Failure Quantity := do
  let right ← parse text
  match Entries.get? name base with
  | none => pure right
  | some own =>
      let left ← parse own
      match pick left right with
      | some merged => pure merged
      | none => throw (.overflow name)

/-- Merge the entries of a second list into a first one, in name order. -/
def merge (pick : Quantity → Quantity → Option Quantity) (a b : ResourceList) :
    Except Failure ResourceList :=
  b.foldlM (fun out (name, text) => do
    let merged ← mergeOne pick a name text
    pure (Entries.set name merged.text out)) a

/-- The sum, name by name. -/
def add (a b : ResourceList) : Except Failure ResourceList := merge Quantity.add? a b

/-- The maximum, name by name. -/
def max (a b : ResourceList) : Except Failure ResourceList :=
  merge (fun x y => some (Quantity.max x y)) a b

/-- Every quantity times an integer. -/
def scale (list : ResourceList) (factor : Int) : Except Failure ResourceList :=
  list.mapM fun (name, text) => do
    let q ← parse text
    match q.scale? factor with
    | some scaled => pure (name, scaled.text)
    | none => throw (.overflow name)

/-- The sum of several lists. -/
def sum (lists : List ResourceList) : Except Failure ResourceList := lists.foldlM add []

/-- The maximum of several lists. -/
def maximum (lists : List ResourceList) : Except Failure ResourceList := lists.foldlM max []

/-- A resource list as a JSON object. -/
def toJson (list : ResourceList) : Json := Json.textMap list

end ResourceList

end VirtualApi
