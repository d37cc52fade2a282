import BookStore.Schema
import Mathlib.Algebra.Order.Ring.Rat
import Mathlib.Data.List.Dedup
import Mathlib.Data.List.Sort

/-!
# The catalog: tables and queries

The tables of `prisma/schema.prisma` that the public catalog reads, and the queries of
`CatalogRepository`.  A row keeps the columns some modelled function uses.  A query
without `orderBy` answers in the order of the table.

`SqlText` is what the database engine decides about texts: equality and `LIKE` under its
collation, and the relevance of a full-text search.
-/

namespace BookStore

inductive Badge
  | new
  | limited
  | bestseller
  | edition
  deriving DecidableEq, Repr

/-- `book_specs` -/
structure BookSpec where
  widthCm : Option ℚ
  heightCm : Option ℚ
  thicknessCm : Option ℚ
  packaging : Option String
  deriving DecidableEq

/-- `books`, with the publisher's name, the specs and the badges by id -/
structure Book where
  id : Nat
  publicationYear : Option Nat
  weightGrams : Option Nat
  pageCount : Option Nat
  coverImageUrl : Option String
  isActive : Bool
  createdAt : Nat
  deletedAt : Option Nat
  publisherName : Option String
  specs : Option BookSpec
  badges : List Badge
  deriving DecidableEq

/-- `book_translations`; a book has one for each language -/
structure BookTranslation where
  bookId : Nat
  languageId : Nat
  title : String
  description : Option String
  slug : Option String
  deriving DecidableEq

/-- `book_variants`, with the currency -/
structure CatalogVariant extends BookVariant where
  currencyCode : String
  deriving DecidableEq

/-- `categories` -/
structure Category where
  id : Nat
  parentId : Option Nat
  isActive : Bool
  sortOrder : Int
  deletedAt : Option Nat
  deriving DecidableEq

/-- `category_translations`; a category has one for each language -/
structure CategoryTranslation where
  categoryId : Nat
  languageId : Nat
  name : String
  slug : Option String
  deriving DecidableEq

/-- `languages` -/
structure Language where
  id : Nat
  isActive : Bool
  deriving DecidableEq

/-- `purchase_order_items`, as far as a price is read from it -/
structure PricedItem where
  id : String
  bookVariantId : Nat
  unitPrice : ℚ
  deriving DecidableEq

structure CatalogDb where
  books : List Book
  variants : List CatalogVariant
  translations : List BookTranslation
  /-- `book_categories`: a book and one of its categories -/
  bookCategories : List (Nat × Nat)
  categories : List Category
  categoryTranslations : List CategoryTranslation
  languages : List Language
  purchaseOrderItems : List PricedItem
  deriving DecidableEq

/-- What the engine decides about texts. -/
structure SqlText where
  /-- `=` under the collation -/
  eq : String → String → Bool
  /-- `text LIKE '%keyword%'`, the keyword escaped -/
  contains : String → String → Bool
  /-- `MATCH(title, description) AGAINST (keyword IN BOOLEAN MODE)` -/
  relevance : String → Option String → String → ℚ

inductive CatalogKeywordSearchMode
  | fulltext
  | like
  deriving DecidableEq

structure CatalogKeywordSearch where
  keyword : String
  mode : CatalogKeywordSearchMode
  deriving DecidableEq

/-! ### Rows as they are selected -/

structure CategoryRow where
  id : Nat
  parentId : Option Nat
  sortOrder : Int
  categoryTranslation : List CategoryTranslation
  deriving DecidableEq

/-- A book with the rows that belong to it. -/
structure BookRow where
  book : Book
  translations : List BookTranslation
  categories : List CategoryRow
  variants : List CatalogVariant
  deriving DecidableEq

/-- `orderBy`: a stable sort by `before`. -/
def orderBy {α : Type} (before : α → α → Bool) (l : List α) : List α :=
  l.insertionSort fun a b => before b a = false

theorem perm_orderBy {α : Type} (before : α → α → Bool) (l : List α) :
    (orderBy before l).Perm l :=
  List.perm_insertionSort _ l

theorem orderBy_map
    {α : Type} {before : α → α → Bool} {f : α → α}
    (hf : ∀ a b, before (f a) (f b) = before a b)
    (l : List α) :
    orderBy before (l.map f) = (orderBy before l).map f :=
  (List.map_insertionSort _ _ f l fun a _ b _ => by rw [hf]).symm

/-- No later element of a sorted list is before an earlier one. -/
theorem pairwise_orderBy
    {α : Type} {before : α → α → Bool}
    (htotal : ∀ a b, before b a = false ∨ before a b = false)
    (htrans : ∀ a b c, before b a = false → before c b = false → before c a = false)
    (l : List α) :
    (orderBy before l).Pairwise fun a b => before b a = false := by
  have : Std.Total fun a b => before b a = false := ⟨htotal⟩
  have : IsTrans α fun a b => before b a = false := ⟨htrans⟩
  exact List.pairwise_insertionSort _ l

/-- `desc` by a key -/
theorem pairwise_orderBy_desc
    {α β : Type} [LinearOrder β]
    (value : α → β)
    (l : List α) :
    (orderBy (fun a b => decide (value b < value a)) l).Pairwise
      fun a b => value b ≤ value a := by
  have : Std.Total fun a b => decide (value a < value b) = false :=
    ⟨fun a b => by simp [le_total]⟩
  have : IsTrans α fun a b => decide (value a < value b) = false :=
    ⟨fun a b c hab hbc => by simp at hab hbc ⊢; exact hbc.trans hab⟩
  exact (List.pairwise_insertionSort _ l).imp fun h => by simpa using h

/-- `skip` and `take` -/
def pageOf {α : Type} (page limit : Nat) (l : List α) : List α :=
  (l.drop ((page - 1) * limit)).take limit

/-- `[{ price: 'asc' }, { id: 'asc' }]` -/
def cheaper (v v' : CatalogVariant) : Bool :=
  decide (v.price.getD 0 < v'.price.getD 0) ||
    decide (v.price = v'.price) && decide (v.id < v'.id)

/-- `[{ createdAt: 'desc' }, { id: 'desc' }]` -/
def newer (b b' : Book) : Bool :=
  decide (b'.createdAt < b.createdAt) ||
    decide (b.createdAt = b'.createdAt) && decide (b'.id < b.id)

namespace CatalogDb

variable (db : CatalogDb)

/-- The variants of a book that are on sale. -/
def activeVariants (b : Book) : List CatalogVariant :=
  db.variants.filter fun v =>
    decide (v.bookId = b.id) && v.isActive && v.price.any fun p => decide (0 < p)

/-- `isActive`, not deleted, with a variant on sale -/
def visible (b : Book) : Bool :=
  b.isActive && b.deletedAt.isNone && !(db.activeVariants b).isEmpty

def translationsOf (b : Book) (languageId : Nat) : List BookTranslation :=
  db.translations.filter fun t =>
    decide (t.bookId = b.id) && decide (t.languageId = languageId)

/-- The category rows of a book. -/
def categoriesOf (b : Book) (languageId : Nat) : List CategoryRow :=
  (db.bookCategories.filter fun bc => decide (bc.1 = b.id)).flatMap fun bc =>
    (db.categories.filter fun c => decide (c.id = bc.2)).map fun c =>
      { id := c.id
        parentId := c.parentId
        sortOrder := c.sortOrder
        categoryTranslation := db.categoryTranslations.filter fun t =>
          decide (t.categoryId = c.id) && decide (t.languageId = languageId) }

/-- `buildBookListWhere`; a category id 0 is falsy -/
def buildBookListWhere (languageId : Nat) (categoryId : Option Nat) (b : Book) : Bool :=
  db.visible b && !(db.translationsOf b languageId).isEmpty &&
    match categoryId with
    | none => true
    | some 0 => true
    | some c => decide ((b.id, c) ∈ db.bookCategories)

/-- A row with the cheapest variant on sale. -/
def listRow (languageId : Nat) (b : Book) : BookRow where
  book := b
  translations := db.translationsOf b languageId
  categories := db.categoriesOf b languageId
  variants := (orderBy cheaper (db.activeVariants b)).take 1

/-! ### `CatalogRepository` -/

variable (sql : SqlText)

def findCategoryBySlug (slug : String) (languageId : Nat) : Option Nat :=
  (db.categories.find? fun c =>
    c.isActive && c.deletedAt.isNone && db.categoryTranslations.any fun t =>
      decide (t.categoryId = c.id) && decide (t.languageId = languageId) &&
        t.slug.any (sql.eq slug)).map Category.id

def findBooksForListByFilter (languageId : Nat) (categoryId : Option Nat) (page limit : Nat) :
    List BookRow :=
  (pageOf page limit
    (orderBy newer (db.books.filter (db.buildBookListWhere languageId categoryId)))).map
      (db.listRow languageId)

/-- `countBooksForList` and `countBooksForListByCategory` -/
def countBooksForList (languageId : Nat) (categoryId : Option Nat) : Nat :=
  (db.books.filter (db.buildBookListWhere languageId categoryId)).length

/-- `buildBookTranslationKeywordCondition` -/
def keywordCondition (search : CatalogKeywordSearch) (t : BookTranslation) : Bool :=
  let like := sql.contains t.title search.keyword ||
    t.description.any fun d => sql.contains d search.keyword
  match search.mode with
  | .like => like
  | .fulltext => decide (sql.relevance t.title t.description search.keyword ≠ 0) || like

/-- `buildBookTranslationScoreSelect` -/
def score (search : CatalogKeywordSearch) (t : BookTranslation) : ℚ :=
  match search.mode with
  | .like => 0
  | .fulltext => sql.relevance t.title t.description search.keyword

/-- The rows of the raw keyword queries: a book and its score. -/
def keywordRows (categoryId : Option Nat) (languageId : Nat) (search : CatalogKeywordSearch) :
    List (Book × ℚ) :=
  (db.books.filter fun b => db.visible b &&
    categoryId.all fun c => decide ((b.id, c) ∈ db.bookCategories)).flatMap fun b =>
      ((db.translationsOf b languageId).filter (keywordCondition sql search)).map fun t =>
        (b, score sql search t)

/-- `ORDER BY score DESC, b.created_at DESC, b.id DESC` -/
def moreRelevant (r r' : Book × ℚ) : Bool :=
  decide (r'.2 < r.2) || decide (r.2 = r'.2) && newer r.1 r'.1

/-- `findBookIncludeCategory` and, without a category, `findBookNeIncludeCategory` -/
def findBookByKeyword (categoryId : Option Nat) (languageId : Nat)
    (search : CatalogKeywordSearch) (page limit : Nat) : List Nat :=
  (pageOf page limit
    (orderBy moreRelevant (db.keywordRows sql categoryId languageId search))).map (·.1.id)

/-- `countBookIncludeCategory` and, without a category, `countBookNeIncludeCategory` -/
def countBookByKeyword (categoryId : Option Nat) (languageId : Nat)
    (search : CatalogKeywordSearch) : Nat :=
  ((db.keywordRows sql categoryId languageId search).map (·.1.id)).dedup.length

/-- `findBooksByIds` with its default page and limit -/
def findBooksByIds (bookIds : List Nat) (languageId : Nat) : List BookRow :=
  (pageOf 1 20 (db.books.filter fun b => decide (b.id ∈ bookIds) && db.visible b)).map fun b =>
    { db.listRow languageId b with
      variants := (orderBy (fun v v' => decide (v'.price.getD 0 < v.price.getD 0))
        (db.activeVariants b)).take 1 }

/-- A row with all the variants on sale. -/
def detailRow (languageId : Nat) (b : Book) : BookRow :=
  { db.listRow languageId b with variants := orderBy cheaper (db.activeVariants b) }

def findBookDetailById (bookId languageId : Nat) : Option BookRow :=
  (db.books.find? fun b => decide (b.id = bookId) && db.visible b).map (db.detailRow languageId)

def findBookDetailBySlug (slug : String) (languageId : Nat) : Option BookRow :=
  let translations (b : Book) : List BookTranslation :=
    (db.translationsOf b languageId).filter fun t => t.slug.any (sql.eq slug)
  (db.books.find? fun b => db.visible b && !(translations b).isEmpty).map fun b =>
    { db.detailRow languageId b with translations := translations b }

/-- The other books that share a category, with their categories. -/
def findBookAlikeCategory (bookId : Nat) (categoriesIds : List Nat) : List (Nat × List Nat) :=
  (db.books.filter fun b => decide (b.id ≠ bookId) && db.visible b &&
    db.bookCategories.any fun bc => decide (bc.1 = b.id) && decide (bc.2 ∈ categoriesIds)).map
      fun b => (b.id, (db.bookCategories.filter fun bc => decide (bc.1 = b.id)).map Prod.snd)

def findCatalogHomeBooks (languageId take : Nat) : List BookRow :=
  ((db.books.filter fun b => db.visible b && !(db.translationsOf b languageId).isEmpty).take
    take).map (db.listRow languageId)

def findActiveLanguages : List Nat :=
  (db.languages.filter Language.isActive).map Language.id

end CatalogDb

end BookStore
