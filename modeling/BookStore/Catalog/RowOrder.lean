import BookStore.Catalog.Listing

/-!
# Rows in any order

A `findMany` without `orderBy` may return its rows in any order.  `RowOrder` is such an
order for the two queries of the catalog that a ranking is looked up with, and
`runCatalogIn` answers the queries in this order.  With the order of the table it is
`runCatalog`.
-/

namespace BookStore

open Async Program

/-- An order of rows for each of two queries without `orderBy` -/
structure RowOrder where
  byIds : List Book → List Book
  alike : List Book → List Book
  byIds_perm : ∀ l, (byIds l).Perm l
  alike_perm : ∀ l, (alike l).Perm l

namespace CatalogDb

variable (db : CatalogDb) (o : RowOrder)

/-- A row of `findBooksByIds` -/
def idRow (languageId : Nat) (b : Book) : BookRow :=
  { db.listRow languageId b with
    variants := (orderBy (fun v v' => decide (v'.price.getD 0 < v.price.getD 0))
      (db.activeVariants b)).take 1 }

/-- The books that `findBooksByIds` selects, without its page -/
def booksByIds (bookIds : List Nat) : List Book :=
  db.books.filter fun b => decide (b.id ∈ bookIds) && db.visible b

/-- `findBooksByIds` with its default page and limit -/
def findBooksByIdsIn (bookIds : List Nat) (languageId : Nat) : List BookRow :=
  (pageOf 1 20 (o.byIds (db.booksByIds bookIds))).map (db.idRow languageId)

/-- The categories of a book, as `findBookAlikeCategory` selects them -/
def categoryIdsOf (bookId : Nat) : List Nat :=
  (db.bookCategories.filter fun bc => decide (bc.1 = bookId)).map Prod.snd

/-- The books that `findBookAlikeCategory` selects -/
def alikeBooks (bookId : Nat) (categoriesIds : List Nat) : List Book :=
  db.books.filter fun b => decide (b.id ≠ bookId) && db.visible b &&
    db.bookCategories.any fun bc => decide (bc.1 = b.id) && decide (bc.2 ∈ categoriesIds)

def findBookAlikeCategoryIn (bookId : Nat) (categoriesIds : List Nat) :
    List (Nat × List Nat) :=
  (o.alike (db.alikeBooks bookId categoriesIds)).map fun b => (b.id, db.categoryIdsOf b.id)

end CatalogDb

/-- The keys of the tables of the catalog -/
structure CatalogKeys (db : CatalogDb) : Prop where
  books : (db.books.map Book.id).Nodup
  translations : (db.translations.map fun t => (t.bookId, t.languageId)).Nodup
  bookCategories : db.bookCategories.Nodup
  categories : ∀ bc, bc ∈ db.bookCategories → bc.2 ∈ db.categories.map Category.id

instance (db : CatalogDb) : Decidable (CatalogKeys db) :=
  decidable_of_iff
    ((db.books.map Book.id).Nodup ∧
      (db.translations.map fun t => (t.bookId, t.languageId)).Nodup ∧
      db.bookCategories.Nodup ∧
      ∀ bc, bc ∈ db.bookCategories → bc.2 ∈ db.categories.map Category.id)
    ⟨fun h => ⟨h.1, h.2.1, h.2.2.1, h.2.2.2⟩,
      fun h => ⟨h.books, h.translations, h.bookCategories, h.categories⟩⟩

/-- The answers of the queries, with the rows in this order -/
def runCatalogIn (o : RowOrder) (sql : SqlText) : (q : CatalogQuery) → CatalogDb →
    Except Failure (CatalogDb × CatalogResponse q)
  | .findBooksByIds bookIds languageId, db =>
      .ok (db, db.findBooksByIdsIn o bookIds languageId)
  | .findBookAlikeCategory bookId categoriesIds, db =>
      .ok (db, db.findBookAlikeCategoryIn o bookId categoriesIds)
  | q, db => runCatalog sql q db

namespace RowOrder

/-- The order of the table -/
def table : RowOrder where
  byIds := id
  alike := id
  byIds_perm := fun _ => .refl _
  alike_perm := fun _ => .refl _

/-- One list of books comes in another order. -/
def placing (l l' : List Book) (h : l'.Perm l) : RowOrder where
  byIds := fun m => if m = l then l' else m
  alike := id
  byIds_perm := by
    intro m
    split
    · rename_i heq
      rw [heq]
      exact h
    · exact .refl _
  alike_perm := fun _ => .refl _

/-- Every order of a list of books is the one of some `RowOrder`. -/
theorem forall_byIds_iff {l : List Book} {P : List Book → Prop} :
    (∀ o : RowOrder, P (o.byIds l)) ↔ ∀ l', l'.Perm l → P l' := by
  constructor
  · intro h l' hl'
    have hplaced : (placing l l' hl').byIds l = l' := if_pos rfl
    exact hplaced ▸ h (placing l l' hl')
  · exact fun h o => h _ (o.byIds_perm l)

end RowOrder

theorem runCatalogIn_table (sql : SqlText) :
    runCatalogIn .table sql = runCatalog sql := by
  funext q db
  cases q <;> rfl

/-- The books that are looked up are those of the ids, in some order. -/
theorem perm_booksByIds
    {db : CatalogDb} (hdb : CatalogKeys db) {ids : List Nat}
    (hids : ids.Nodup)
    (hbooks : ∀ id, id ∈ ids → ∃ b, b ∈ db.books ∧ db.visible b = true ∧ b.id = id) :
    ((db.booksByIds ids).map Book.id).Perm ids := by
  refine (List.perm_ext_iff_of_nodup ((List.filter_sublist.map _).nodup hdb.books) hids).mpr
    fun id => ⟨fun h => ?_, fun h => ?_⟩
  · obtain ⟨b, hb, rfl⟩ := List.mem_map.mp h
    have := (List.mem_filter.mp hb).2
    rw [Bool.and_eq_true, decide_eq_true_eq] at this
    exact this.1
  · obtain ⟨b, hb, hvisible, rfl⟩ := hbooks id h
    refine List.mem_map_of_mem (List.mem_filter.mpr ⟨hb, ?_⟩)
    rw [Bool.and_eq_true, decide_eq_true_eq]
    exact ⟨h, hvisible⟩

section Reads

variable {o : RowOrder} {sql : SqlText}

/-- What only reads the catalog does so in every order of the rows. -/
theorem ReadsCatalog.inOrder {α : Type} {p : CatalogService α} (h : ReadsCatalog sql p) :
    ReadsDb (runCatalogIn o sql) .database p := by
  refine h.mono fun s hs => ?_
  cases s with
  | query q =>
      cases q with
      | findBooksByIds bookIds languageId =>
          exact readsOnly_query fun _ => rfl
      | findBookAlikeCategory bookId categoriesIds =>
          exact readsOnly_query fun _ => rfl
      | _ =>
          exact ⟨hs.kept, hs.answer⟩
  | _ =>
      exact ⟨hs.kept, hs.answer⟩

end Reads

end BookStore
