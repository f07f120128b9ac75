import VirtualApi.Catalog.Basic
import VirtualApi.Options

/-!
# Paging through a catalog

A page starts at the offset of its continue token and holds at most as many entries as the limit;
only then are its entries filtered by their labels. The token of the next page is an offset into
all entries, so that a page may be empty and still not be the last one.
-/

namespace VirtualApi

/-- A part of a list, with the token of the next part if there is one. -/
structure ListPart (α : Type) where
  items : List α := []
  continueToken : Option String := none
deriving DecidableEq, Repr

variable {α : Type} [CatalogEntry α]

/-- The page of a list of entries that starts at an offset. -/
def pageFrom (entries : List α) (start limit : Nat) : List α × Option String :=
  let rest := entries.drop start
  if 0 < limit ∧ limit < rest.length then (rest.take limit, some (encodeContinue (start + limit)))
  else (rest, none)

/-- The page that is asked for, filtered by labels. A page after the end is empty. -/
def paginate (entries : List α) (options : ListOptions) (selector : Selector) :
    ApiResult (ListPart α) := do
  let start ← options.start
  let (page, next) := pageFrom entries start options.pageSize
  pure ⟨page.filter fun entry => selector.holds (CatalogEntry.labels entry), next⟩

end VirtualApi
