import BookStore.Catalog.Selects
import BookStore.Catalog.Visibility

/-!
# The lists of the administration

`AdminBookService.getBooks` counts books with a filter and reads its rows with a raw query:
translations joined with their books and authors, grouped, and without `ORDER BY`.
`AdminBookVariantsService.getBookVariants` counts variants and reads books, with a `select`
that the client of the database may refuse.

* `TotalsMatch`: the pages up to `totalPages` have as many rows as the total says, with every
  book that matches once.
* `adminTotalsMatch_iff`: when both lists do this, for any client.
* `adminTotalsMatch_never`: with the client that is generated from the schema they never do.
-/

namespace BookStore

open BookCreation (BookAuthor Named)

/-- What `buildPaginatedResult` makes of some items -/
structure PaginatedResult (α : Type) where
  page : Nat
  limit : Nat
  total : Nat
  totalPages : Nat
  items : List α
  deriving DecidableEq

def PaginatedResult.build {α : Type} (items : List α) (total page limit : Nat) :
    PaginatedResult α where
  page := page
  limit := limit
  total := total
  totalPages := Pages.pageCount total limit
  items := items

/-- `AdminBookListItemResponseDto` -/
structure AdminBookListItem where
  id : Nat
  title : String
  description : Option String
  slug : Option String
  authors : String
  deriving DecidableEq

/-- A book as `buildAdminBookVariantListSelect` selects it -/
structure AdminBookVariantListItem where
  id : Nat
  coverImageUrl : Option String
  isActive : Bool
  translations : List BookTranslation
  authors : List BookAuthor
  variants : List CatalogVariant
  deriving DecidableEq

namespace ShelfDb

variable (db : ShelfDb) (sql : SqlText)

/-! ### `AdminBookRepository` -/

/-- `buildBookListWhere` of the administration; the empty phrase is falsy -/
def adminBookWhere (languageId : Nat) (searchPhrase : Option String) (b : Book) : Bool :=
  b.deletedAt.isNone &&
    match searchPhrase with
    | none => true
    | some phrase =>
        decide (phrase = "") ||
          (db.translationsOf b languageId).any fun t => sql.contains t.title phrase

/-- The books that match the search -/
def matchingBooks (languageId : Nat) (searchPhrase : Option String) : List Book :=
  db.books.filter (db.adminBookWhere sql languageId searchPhrase)

def countBooks (languageId : Nat) (searchPhrase : Option String) : Nat :=
  (db.matchingBooks sql languageId searchPhrase).length

/-- `MATCH … AGAINST` on the translation or on the author's name, if there is a phrase -/
def rawMatch (searchPhrase : Option String) (t : BookTranslation) (a : Named) : Bool :=
  match searchPhrase with
  | none => true
  | some phrase =>
      decide (phrase = "") || decide (sql.relevance t.title t.description phrase ≠ 0) ||
        decide (sql.relevance a.defaultName none phrase ≠ 0)

/-- The joined rows of the raw query, as far as its columns come from them -/
def joinedRows (languageId : Nat) (searchPhrase : Option String) : List (BookTranslation × Named) :=
  (db.translations.filter fun t => decide (t.languageId = languageId)).flatMap fun t =>
    (db.books.filter fun b => decide (b.id = t.bookId)).flatMap fun b =>
      (db.bookAuthors.filter fun link => decide (link.bookId = b.id)).flatMap fun link =>
        (db.authors.filter fun a =>
          decide (a.id = link.authorId) && rawMatch sql searchPhrase t a).map fun a => (t, a)

/-- A row of a group, `GROUP_CONCAT` with its authors -/
def groupRow (rows : List (BookTranslation × Named)) (t : BookTranslation) : AdminBookListItem where
  id := t.bookId
  title := t.title
  description := t.description
  slug := t.slug
  authors := ", ".intercalate ((rows.filter fun r => decide (r.1 = t)).map fun r => r.2.defaultName)

/-- `GROUP BY b.id, bt.title, bt.description, bt.slug`: all rows of a translation -/
def groupedRows (languageId : Nat) (searchPhrase : Option String) : List AdminBookListItem :=
  let rows := db.joinedRows sql languageId searchPhrase
  (rows.map Prod.fst).dedup.map (groupRow rows)

/-- The rows of a page, in an order that the database chooses -/
def findBooks (order : Arrangement AdminBookListItem) (page limit languageId : Nat)
    (searchPhrase : Option String) : List AdminBookListItem :=
  pageOf page limit (order.rows (db.groupedRows sql languageId searchPhrase))

/-! ### `AdminBookVariantsRepository` -/

def countBookVariants : Nat :=
  (db.variants.filter fun v =>
    db.books.any fun b => decide (b.id = v.bookId) && b.deletedAt.isNone).length

def adminVariantRow (languageId : Nat) (b : Book) : AdminBookVariantListItem where
  id := b.id
  coverImageUrl := b.coverImageUrl
  isActive := b.isActive
  translations := (db.translationsOf b languageId).take 1
  authors := db.bookAuthors.filter fun link => decide (link.bookId = b.id)
  variants := orderBy (fun v v' => decide (v.id < v'.id)) (db.variantsOf b)

def findBookVariants (page limit languageId : Nat) : List AdminBookVariantListItem :=
  (pageOf page limit (orderBy newer (db.books.filter fun b => b.deletedAt.isNone))).map
    (db.adminVariantRow languageId)

/-! ### The services -/

def getBooks (order : Arrangement AdminBookListItem) (page limit languageId : Nat)
    (searchPhrase : Option String) : PaginatedResult AdminBookListItem :=
  .build (db.findBooks sql order page limit languageId searchPhrase)
    (db.countBooks sql languageId searchPhrase) page limit

/-- The pages of `getBookVariants`; the search phrase of the query is not passed on. -/
def variantPage (page limit languageId : Nat) : PaginatedResult AdminBookVariantListItem :=
  .build (db.findBookVariants page limit languageId) db.countBookVariants page limit

/-- A select with an unknown field is refused. -/
def getBookVariants (client : Client) (page limit languageId : Nat) :
    Except Failure (PaginatedResult AdminBookVariantListItem) :=
  if client.Knows adminBookVariantListSelect then .ok (db.variantPage page limit languageId)
  else .error .database

end ShelfDb

/-- The rows of all pages, up to the `totalPages` of the first one -/
def allPages {α : Type} (result : Nat → PaginatedResult α) : List α :=
  (List.range (result 1).totalPages).flatMap fun i => (result (i + 1)).items

/-- As many rows as the total says, each of the books in one of them -/
structure TotalsMatch {α : Type} (result : Nat → PaginatedResult α) (id : α → Nat)
    (books : List Book) : Prop where
  total : (allPages result).length = (result 1).total
  books : ((allPages result).map id).Perm (books.map Book.id)

namespace ShelfDb

/-- Both lists, with any order of the rows of the raw query for each page -/
structure AdminTotalsMatch (db : ShelfDb) (client : Client) (sql : SqlText)
    (languageId limit : Nat) (searchPhrase : Option String) : Prop where
  getBooks : ∀ orders : Nat → Arrangement AdminBookListItem,
    TotalsMatch
      (fun page => db.getBooks sql (orders page) page limit languageId searchPhrase)
      AdminBookListItem.id (db.matchingBooks sql languageId searchPhrase)
  getBookVariants : ∃ result,
    (∀ page, db.getBookVariants client page limit languageId = .ok (result page)) ∧
      TotalsMatch result AdminBookVariantListItem.id
        (db.books.filter fun b => b.deletedAt.isNone)

/-- The raw query has a row for the book. -/
def RawListed (db : ShelfDb) (sql : SqlText) (languageId : Nat) (searchPhrase : Option String)
    (b : Book) : Prop :=
  ∃ t link a, t ∈ db.translationsOf b languageId ∧
    link ∈ db.bookAuthors ∧ link.bookId = b.id ∧ a ∈ db.authors ∧ a.id = link.authorId ∧
    rawMatch sql searchPhrase t a = true

section Totals

variable {db : ShelfDb} {sql : SqlText} {languageId limit : Nat} {searchPhrase : Option String}

theorem mem_translationsOf {b : Book} {t : BookTranslation} :
    t ∈ db.translationsOf b languageId ↔
      t ∈ db.translations ∧ t.bookId = b.id ∧ t.languageId = languageId := by
  simp [CatalogDb.translationsOf]

theorem mem_joinedRows {t : BookTranslation} {a : Named} :
    (t, a) ∈ db.joinedRows sql languageId searchPhrase ↔
      ∃ b link, b ∈ db.books ∧ t ∈ db.translationsOf b languageId ∧
        link ∈ db.bookAuthors ∧ link.bookId = b.id ∧ a ∈ db.authors ∧ a.id = link.authorId ∧
        rawMatch sql searchPhrase t a = true := by
  simp only [joinedRows, List.mem_flatMap, List.mem_map, List.mem_filter, Bool.and_eq_true,
    decide_eq_true_eq, Prod.mk.injEq, mem_translationsOf]
  constructor
  · rintro ⟨_, ⟨ht, hlanguage⟩, b, ⟨hb, hbook⟩, link, ⟨hlink, hof⟩, _, ⟨ha, hauthor, hmatch⟩, rfl,
      rfl⟩
    exact ⟨b, link, hb, ⟨ht, hbook.symm, hlanguage⟩, hlink, hof, ha, hauthor, hmatch⟩
  · rintro ⟨b, link, hb, ⟨ht, hbook, hlanguage⟩, hlink, hof, ha, hauthor, hmatch⟩
    exact ⟨t, ⟨ht, hlanguage⟩, b, ⟨hb, hbook.symm⟩, link, ⟨hlink, hof⟩, a, ⟨ha, hauthor, hmatch⟩,
      rfl, rfl⟩

theorem map_id_groupedRows :
    (db.groupedRows sql languageId searchPhrase).map AdminBookListItem.id =
      ((db.joinedRows sql languageId searchPhrase).map Prod.fst).dedup.map
        BookTranslation.bookId := by
  rw [groupedRows, List.map_map]
  rfl

theorem mem_groups {t : BookTranslation} :
    t ∈ ((db.joinedRows sql languageId searchPhrase).map Prod.fst).dedup ↔
      ∃ b, b ∈ db.books ∧ t ∈ db.translationsOf b languageId ∧
        ∃ link a, link ∈ db.bookAuthors ∧ link.bookId = b.id ∧ a ∈ db.authors ∧
          a.id = link.authorId ∧ rawMatch sql searchPhrase t a = true := by
  rw [List.mem_dedup, List.mem_map]
  constructor
  · rintro ⟨⟨t, a⟩, hrow, rfl⟩
    obtain ⟨b, link, hb, ht, hlink⟩ := mem_joinedRows.mp hrow
    exact ⟨b, hb, ht, link, a, hlink⟩
  · rintro ⟨b, hb, ht, link, a, hlink⟩
    exact ⟨(t, a), mem_joinedRows.mpr ⟨b, link, hb, ht, hlink⟩, rfl⟩

/-- The groups are those of different books. -/
theorem nodup_groupedRows
    (htranslations : (db.translations.map fun t => (t.bookId, t.languageId)).Nodup) :
    ((db.groupedRows sql languageId searchPhrase).map AdminBookListItem.id).Nodup := by
  rw [map_id_groupedRows]
  refine (List.nodup_dedup _).map_on fun t ht t' ht' hid => ?_
  obtain ⟨b, -, ht, -⟩ := mem_groups.mp ht
  obtain ⟨b', -, ht', -⟩ := mem_groups.mp ht'
  rw [mem_translationsOf] at ht ht'
  refine List.inj_on_of_nodup_map htranslations ht.1 ht'.1 ?_
  rw [hid, ht.2.2, ht'.2.2]

theorem mem_groupedRows {id : Nat} :
    id ∈ (db.groupedRows sql languageId searchPhrase).map AdminBookListItem.id ↔
      ∃ b, b ∈ db.books ∧ b.id = id ∧ db.RawListed sql languageId searchPhrase b := by
  rw [map_id_groupedRows, List.mem_map]
  constructor
  · rintro ⟨t, ht, rfl⟩
    obtain ⟨b, hb, ht, link, a, hlink⟩ := mem_groups.mp ht
    exact ⟨b, hb, (mem_translationsOf.mp ht).2.1.symm, t, link, a, ht, hlink⟩
  · rintro ⟨b, hb, rfl, t, link, a, ht, hlink⟩
    exact ⟨t, mem_groups.mpr ⟨b, hb, ht, link, a, hlink⟩, (mem_translationsOf.mp ht).2.1⟩

theorem mem_matchingBooks {id : Nat} :
    id ∈ (db.matchingBooks sql languageId searchPhrase).map Book.id ↔
      ∃ b, b ∈ db.books ∧ b.id = id ∧ db.adminBookWhere sql languageId searchPhrase b = true := by
  simp only [matchingBooks, List.mem_map, List.mem_filter, and_comm, and_left_comm]

/-- The groups are those of the matching books just if the two queries agree on every book. -/
theorem perm_groupedRows_iff
    (hbooks : (db.books.map Book.id).Nodup)
    (htranslations : (db.translations.map fun t => (t.bookId, t.languageId)).Nodup) :
    ((db.groupedRows sql languageId searchPhrase).map AdminBookListItem.id).Perm
        ((db.matchingBooks sql languageId searchPhrase).map Book.id) ↔
      ∀ b, b ∈ db.books → (db.RawListed sql languageId searchPhrase b ↔
        db.adminBookWhere sql languageId searchPhrase b = true) := by
  have hmatching : ((db.matchingBooks sql languageId searchPhrase).map Book.id).Nodup :=
    hbooks.sublist (List.filter_sublist.map _)
  rw [List.perm_ext_iff_of_nodup (nodup_groupedRows htranslations) hmatching]
  simp only [mem_groupedRows, mem_matchingBooks]
  constructor
  · intro h b hb
    have heq : ∀ b', b' ∈ db.books → b'.id = b.id → b' = b := fun b' hb' hid =>
      List.inj_on_of_nodup_map hbooks hb' hb hid
    constructor
    · intro hlisted
      obtain ⟨b', hb', hid, hwhere⟩ := (h b.id).mp ⟨b, hb, rfl, hlisted⟩
      exact heq b' hb' hid ▸ hwhere
    · intro hwhere
      obtain ⟨b', hb', hid, hlisted⟩ := (h b.id).mpr ⟨b, hb, rfl, hwhere⟩
      exact heq b' hb' hid ▸ hlisted
  · exact fun h id => exists_congr fun b => and_congr_right fun hb => and_congr_right fun _ =>
      h b hb

/-- The pages of `getBooks`, each in its order -/
theorem allPages_getBooks (orders : Nat → Arrangement AdminBookListItem) :
    allPages (fun page => db.getBooks sql (orders page) page limit languageId searchPhrase) =
      Pages.shown (fun i => orders (i + 1))
        (Pages.pageCount (db.matchingBooks sql languageId searchPhrase).length limit) limit
        (db.groupedRows sql languageId searchPhrase) :=
  rfl

/-- The totals of `getBooks` match just if there are none or one page has all of them. -/
theorem getBooks_totalsMatch_iff
    (hlimit : 0 < limit)
    (hbooks : (db.books.map Book.id).Nodup)
    (htranslations : (db.translations.map fun t => (t.bookId, t.languageId)).Nodup) :
    (∀ orders : Nat → Arrangement AdminBookListItem,
      TotalsMatch
        (fun page => db.getBooks sql (orders page) page limit languageId searchPhrase)
        AdminBookListItem.id (db.matchingBooks sql languageId searchPhrase)) ↔
      db.matchingBooks sql languageId searchPhrase = [] ∨
        (db.matchingBooks sql languageId searchPhrase).length ≤ limit ∧
          ∀ b, b ∈ db.books → (db.RawListed sql languageId searchPhrase b ↔
            db.adminBookWhere sql languageId searchPhrase b = true) := by
  have hpages := @Pages.perm_pages_iff _ _ AdminBookListItem.id
    (db.groupedRows sql languageId searchPhrase)
    ((db.matchingBooks sql languageId searchPhrase).map Book.id) limit hlimit
    (nodup_groupedRows htranslations) (hbooks.sublist (List.filter_sublist.map _))
  rw [List.length_map, List.map_eq_nil_iff, perm_groupedRows_iff hbooks htranslations] at hpages
  rw [← hpages]
  constructor
  · intro h orders
    exact (h fun page => orders (page - 1)).books
  · intro h orders
    have hperm := h fun i => orders (i + 1)
    refine ⟨?_, hperm⟩
    rw [allPages_getBooks, ← List.length_map AdminBookListItem.id, hperm.length_eq,
      List.length_map]
    rfl

theorem allPages_variantPage :
    allPages (fun page => db.variantPage page limit languageId) =
      ((orderBy newer (db.books.filter fun b => b.deletedAt.isNone)).take
        (Pages.pageCount db.countBookVariants limit * limit)).map
          (db.adminVariantRow languageId) := by
  rw [← Pages.flatMap_page, List.map_flatMap]
  rfl

/-- The totals of `getBookVariants` match just if there are as many variants as books. -/
theorem variantPage_totalsMatch_iff (languageId : Nat) (hlimit : 0 < limit) :
    TotalsMatch (fun page => db.variantPage page limit languageId)
      AdminBookVariantListItem.id (db.books.filter fun b => b.deletedAt.isNone) ↔
      db.countBookVariants = (db.books.filter fun b => b.deletedAt.isNone).length := by
  constructor
  · intro h
    have htotal := h.total
    rw [← List.length_map AdminBookVariantListItem.id, h.books.length_eq, List.length_map]
      at htotal
    exact htotal.symm
  · intro h
    have hperm := perm_orderBy newer (db.books.filter fun b => b.deletedAt.isNone)
    have hall : db.countBookVariants ≤ Pages.pageCount db.countBookVariants limit * limit :=
      Pages.le_pageCount_mul hlimit
    have hlength := hperm.length_eq
    have hpages : allPages (fun page => db.variantPage page limit languageId) = _ :=
      allPages_variantPage
    rw [List.take_of_length_le (by omega)] at hpages
    constructor
    · rw [hpages, List.length_map, hlength, ← h]
      rfl
    · rw [hpages, List.map_map]
      exact hperm.map Book.id

/-- The call has to be answered. -/
theorem getBookVariants_totalsMatch_iff
    (client : Client) (languageId : Nat) (hlimit : 0 < limit) :
    (∃ result,
      (∀ page, db.getBookVariants client page limit languageId = .ok (result page)) ∧
        TotalsMatch result AdminBookVariantListItem.id
          (db.books.filter fun b => b.deletedAt.isNone)) ↔
      client.Knows adminBookVariantListSelect ∧
        db.countBookVariants = (db.books.filter fun b => b.deletedAt.isNone).length := by
  rw [← variantPage_totalsMatch_iff languageId hlimit]
  constructor
  · rintro ⟨result, hanswers, hmatch⟩
    by_cases hknows : client.Knows adminBookVariantListSelect
    · have hresult : result = fun page => db.variantPage page limit languageId := by
        funext page
        have hanswer := hanswers page
        rw [getBookVariants, if_pos hknows] at hanswer
        exact (Except.ok.inj hanswer).symm
      exact ⟨hknows, hresult ▸ hmatch⟩
    · have hanswer := hanswers 1
      rw [getBookVariants, if_neg hknows] at hanswer
      cases hanswer
  · rintro ⟨hknows, hmatch⟩
    exact ⟨_, fun page => if_pos hknows, hmatch⟩

/--
Both totals match their pages, in every order, just if no book matches or the matching ones fit
on one page and are those with a translation and an author that the raw query finds, and the
client knows what it selects and there are as many variants as books.
-/
theorem adminTotalsMatch_iff
    (db : ShelfDb) (client : Client) (sql : SqlText) (languageId limit : Nat)
    (searchPhrase : Option String)
    (hlimit : 0 < limit)
    (hbooks : (db.books.map Book.id).Nodup)
    (htranslations : (db.translations.map fun t => (t.bookId, t.languageId)).Nodup) :
    db.AdminTotalsMatch client sql languageId limit searchPhrase ↔
      (db.matchingBooks sql languageId searchPhrase = [] ∨
        (db.matchingBooks sql languageId searchPhrase).length ≤ limit ∧
          ∀ b, b ∈ db.books → (db.RawListed sql languageId searchPhrase b ↔
            db.adminBookWhere sql languageId searchPhrase b = true)) ∧
      client.Knows adminBookVariantListSelect ∧
      db.countBookVariants = (db.books.filter fun b => b.deletedAt.isNone).length := by
  rw [← getBooks_totalsMatch_iff hlimit hbooks htranslations,
    ← getBookVariants_totalsMatch_iff client languageId hlimit]
  exact ⟨fun h => ⟨h.getBooks, h.getBookVariants⟩, fun h => ⟨h.1, h.2⟩⟩

/--
With the client that is generated from the schema `getBookVariants` is never answered.  The
totals of `getBooks` match their pages just if no book matches or the matching ones fit on one
page and are those with a translation and an author that the raw query finds.
-/
theorem adminTotalsMatch_never
    (db : ShelfDb) (sql : SqlText) (languageId limit : Nat) (searchPhrase : Option String)
    (hlimit : 0 < limit)
    (hbooks : (db.books.map Book.id).Nodup)
    (htranslations : (db.translations.map fun t => (t.bookId, t.languageId)).Nodup) :
    ¬ db.AdminTotalsMatch schema sql languageId limit searchPhrase ∧
      (∀ page, db.getBookVariants schema page limit languageId = .error .database) ∧
      ((∀ orders : Nat → Arrangement AdminBookListItem,
        TotalsMatch
          (fun page => db.getBooks sql (orders page) page limit languageId searchPhrase)
          AdminBookListItem.id (db.matchingBooks sql languageId searchPhrase)) ↔
        db.matchingBooks sql languageId searchPhrase = [] ∨
          (db.matchingBooks sql languageId searchPhrase).length ≤ limit ∧
            ∀ b, b ∈ db.books → (db.RawListed sql languageId searchPhrase b ↔
              db.adminBookWhere sql languageId searchPhrase b = true)) :=
  ⟨fun h => not_knows_adminBookVariantListSelect
      ((adminTotalsMatch_iff db schema sql languageId limit searchPhrase hlimit hbooks
        htranslations).mp h).2.1,
    fun _ => if_neg not_knows_adminBookVariantListSelect,
    getBooks_totalsMatch_iff hlimit hbooks htranslations⟩

end Totals

/-- Book 1 of author 1, translated and with one variant -/
def oneBookShelf : ShelfDb :=
  { bareShelf with variants := [sampleVariant 7 1] }

/-- The book is listed, and its variant is not. -/
theorem adminTotalsMatch_never_oneBookShelf :
    ¬ oneBookShelf.AdminTotalsMatch schema sampleSql 1 20 none ∧
      oneBookShelf.getBookVariants schema 1 20 1 = .error .database ∧
      ∀ orders : Nat → Arrangement AdminBookListItem,
        TotalsMatch (fun page => oneBookShelf.getBooks sampleSql (orders page) page 20 1 none)
          AdminBookListItem.id (oneBookShelf.matchingBooks sampleSql 1 none) := by
  obtain ⟨hnever, hrefused, hbooks⟩ := adminTotalsMatch_never oneBookShelf sampleSql 1 20 none
    (by decide) (by decide) (by decide)
  refine ⟨hnever, hrefused 1, hbooks.mpr (.inr ⟨by decide, fun b hb => ?_⟩)⟩
  rw [List.mem_singleton.mp hb]
  exact iff_of_true
    ⟨_, _, _, List.mem_singleton_self _, List.mem_singleton_self _, rfl, List.mem_singleton_self _,
      rfl, rfl⟩ rfl

/-- Book 1 with two variants, and a deleted book with its translation and author -/
def deletedShelf : ShelfDb :=
  { oneBookShelf with
    books := [sampleBook 1, { sampleBook 2 with deletedAt := some 1 }]
    variants := [sampleVariant 7 1, sampleVariant 8 1]
    translations := oneBookShelf.translations ++ oneBookShelf.translations.map fun t =>
      { t with bookId := 2 }
    bookAuthors := oneBookShelf.bookAuthors ++ oneBookShelf.bookAuthors.map fun link =>
      { link with bookId := 2 } }

/-- The total is 1 and the page has two books, one of them deleted; no variants are listed. -/
theorem getBooks_lists_deleted :
    ¬ (∀ orders : Nat → Arrangement AdminBookListItem,
        TotalsMatch (fun page => deletedShelf.getBooks sampleSql (orders page) page 20 1 none)
          AdminBookListItem.id (deletedShelf.matchingBooks sampleSql 1 none)) ∧
      ¬ deletedShelf.AdminTotalsMatch schema sampleSql 1 20 none := by
  have hlists : ¬ ∀ orders : Nat → Arrangement AdminBookListItem,
      TotalsMatch (fun page => deletedShelf.getBooks sampleSql (orders page) page 20 1 none)
        AdminBookListItem.id (deletedShelf.matchingBooks sampleSql 1 none) :=
    fun h => absurd (h fun _ => .table).total (by decide +kernel)
  exact ⟨hlists, fun h => hlists h.getBooks⟩

end ShelfDb

end BookStore
