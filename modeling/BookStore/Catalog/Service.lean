import BookStore.Cache.Entries
import BookStore.Catalog.Queries

/-!
# The catalog: the service

`CatalogService` with the mapper of its rows and the keys of its cache.  The public
reads are written once for any way of caching; `listBooks` is the way of the code and
`listBooksUncached` the same with caching switched off.
-/

namespace BookStore

open Async Program

/-! ### What the service returns -/

structure CatalogCategoryDto where
  id : Nat
  parentId : Option Nat
  name : String
  slug : Option String
  sortOrder : Int
  deriving DecidableEq

/-- A price stands for its text. -/
structure CatalogBookCardDto where
  id : Nat
  title : String
  slug : Option String
  coverImageUrl : Option String
  price : Option ℚ
  currencyCode : Option String
  description : Option String
  soldCount : Option Nat
  isOutOfStock : Bool
  bookVariantId : Option Nat
  format : Option BookFormat
  categories : List CatalogCategoryDto
  badges : List Badge
  createdAt : Nat
  deriving DecidableEq

structure CatalogBookVariantDto where
  id : Nat
  format : BookFormat
  edition : Nat
  isbn : String
  price : Option ℚ
  currencyCode : String
  available : Int
  deriving DecidableEq

structure CatalogBookDetailDto where
  id : Nat
  title : String
  slug : Option String
  description : Option String
  coverImageUrl : Option String
  publicationYear : Option Nat
  pageCount : Option Nat
  weightGrams : Option Nat
  publisherName : Option String
  variants : List CatalogBookVariantDto
  categories : List CatalogCategoryDto
  specs : Option BookSpec
  badges : List Badge
  createdAt : Nat
  recommend : List CatalogBookCardDto
  deriving DecidableEq

structure CatalogBookListResponseDto where
  page : Nat
  limit : Nat
  total : Nat
  totalPages : Nat
  items : List CatalogBookCardDto
  deriving DecidableEq

/-- A value of the cache; all of them are objects or arrays, which are truthy. -/
inductive CatalogValue
  | list (response : CatalogBookListResponseDto)
  | home (cards : List CatalogBookCardDto)
  | detail (book : CatalogBookDetailDto)
  deriving DecidableEq

structure CatalogBookListQueryDto where
  page : Option Int
  limit : Option Int
  slugCategory : Option String
  keyword : Option String
  deriving DecidableEq

/-! ### The mapper -/

def BookRow.title (row : BookRow) : String :=
  match row.translations with
  | t :: _ => t.title
  | [] => "Book " ++ toString row.book.id

def toCatalogBookCategories (categories : List CategoryRow) : List CatalogCategoryDto :=
  categories.map fun c =>
    { id := c.id
      parentId := c.parentId.filter fun p => decide (p ≠ 0)
      sortOrder := c.sortOrder
      name := (c.categoryTranslation.head?.map CategoryTranslation.name).getD
        ("Category " ++ toString c.id)
      slug := c.categoryTranslation.head?.bind CategoryTranslation.slug }

def toCatalogListBookCard (row : BookRow) : CatalogBookCardDto :=
  let cheapestVariant := row.variants.head?
  { id := row.book.id
    title := row.title
    slug := row.translations.head?.bind BookTranslation.slug
    coverImageUrl := row.book.coverImageUrl
    price := cheapestVariant.bind fun v => v.price
    currencyCode := cheapestVariant.map CatalogVariant.currencyCode
    description := none
    soldCount := none
    isOutOfStock := decide ((cheapestVariant.map fun v => v.stock).getD 0 ≤ 0)
    bookVariantId := cheapestVariant.map fun v => v.id
    format := cheapestVariant.map fun v => v.format
    categories := toCatalogBookCategories row.categories
    badges := row.book.badges
    createdAt := row.book.createdAt }

/-- `toCatalogBookCard` and `toCatalogHomeBookCard` -/
def toCatalogBookCard (row : BookRow) : CatalogBookCardDto :=
  { toCatalogListBookCard row with
    currencyCode := some ((row.variants.head?.map CatalogVariant.currencyCode).getD "VND")
    description := row.translations.head?.bind BookTranslation.description
    soldCount := some 0
    categories := [] }

def toCatalogBookDetail
    (row : BookRow) (slugFallback : Option String) (recommend : List CatalogBookCardDto) :
    CatalogBookDetailDto where
  id := row.book.id
  title := row.title
  slug := (row.translations.head?.bind BookTranslation.slug).or slugFallback
  description := row.translations.head?.bind BookTranslation.description
  coverImageUrl := row.book.coverImageUrl
  publicationYear := row.book.publicationYear
  pageCount := row.book.pageCount
  weightGrams := row.book.weightGrams
  publisherName := row.book.publisherName
  variants := row.variants.map fun v =>
    { id := v.id
      format := v.format
      edition := v.edition
      isbn := v.isbn
      price := v.price
      currencyCode := v.currencyCode
      available := v.available }
  categories := toCatalogBookCategories row.categories
  specs := row.book.specs
  badges := row.book.badges
  createdAt := row.book.createdAt
  recommend := recommend

/-! ### Keys -/

/-- The namespaces of the cache that the catalog uses. -/
inductive CatalogKey
  | home (langId limit : Nat)
  | bookList (langId page limit : Nat)
  | bookListByCategory (langId page limit : Nat) (slug : String)
  | bookDetail (bookId langId : Nat)
  | bookDetailBySlug (slug : String) (langId : Nat)
  deriving DecidableEq

/-- `cacheKey.catalog` -/
def CatalogKey.text : CatalogKey → String
  | .home langId limit => "catalog:home:" ++ toString langId ++ ":" ++ toString limit
  | .bookList langId page limit =>
      "catalog:books:langId=" ++ toString langId ++ ":p" ++ toString page ++ ":l" ++
        toString limit
  | .bookListByCategory langId page limit slug =>
      "catalog:books:langId=" ++ toString langId ++ ":p" ++ toString page ++ ":l" ++
        toString limit ++ ":cat=" ++ slug
  | .bookDetail bookId langId => "catalog:detail:" ++ toString bookId ++ ":" ++ toString langId
  | .bookDetailBySlug slug langId =>
      "catalog:detail:slug:" ++ slug ++ ":" ++ toString langId

/-! ### `CatalogService` -/

abbrev CatalogService (α : Type) : Type :=
  CacheService CatalogResponse Failure CatalogValue α

def catalogQuery (q : CatalogQuery) : CatalogService (CatalogResponse q) :=
  command (.query q)

/-- `await Promise.all([q, r])` -/
def bothQueries (q r : CatalogQuery) :
    CatalogService (CatalogResponse q × CatalogResponse r) :=
  alongside (CacheStmt.query q) (catalogQuery r)

namespace CatalogMessage

def categoryNotFound : String := "Không tìm thấy danh mục"
def bookNotFound : String := "Không tìm thấy sách"
def slugRequired : String := "Slug là bắt buộc"

end CatalogMessage

/-- `CATALOG_CACHE_TTL_SECONDS`, the time to live of every value of the catalog -/
def catalogCacheTtlSeconds : Nat := 300

/-- The white space that `trim` removes. -/
def isWhiteSpace (c : Char) : Bool :=
  decide (9 ≤ c.toNat ∧ c.toNat ≤ 13 ∨ 0x2000 ≤ c.toNat ∧ c.toNat ≤ 0x200A) ||
    decide (c.toNat ∈ [0x20, 0xA0, 0x1680, 0x2028, 0x2029, 0x202F, 0x205F, 0x3000, 0xFEFF])

/-- `s.trim()` -/
def trim (s : String) : String :=
  String.ofList ((s.toList.dropWhile isWhiteSpace).reverse.dropWhile isWhiteSpace).reverse

/-- `s.length`, in UTF-16 code units -/
def utf16Length (s : String) : Nat :=
  (s.toList.map fun c => if 0x10000 ≤ c.toNat then 2 else 1).sum

/-- `getPaginationParams` -/
def positiveOr (default : Nat) (n : Option Int) : Nat :=
  match n with
  | some n => if 0 < n then n.toNat else default
  | none => default

def buildPaginatedResult (items : List CatalogBookCardDto) (total page limit : Nat) :
    CatalogValue :=
  .list
    { page := page
      limit := limit
      total := total
      totalPages := if 0 < total then (total + limit - 1) / limit else 0
      items := items }

def buildKeywordSearch (keyword : String) : CatalogKeywordSearch where
  keyword := keyword
  mode := if 3 < utf16Length keyword then .fulltext else .like

/-- `calculateJaccard`, on lists without duplicates -/
def calculateJaccard (currentCategories targetCategories : List Nat) : ℚ :=
  let setA := currentCategories.dedup
  let setB := targetCategories.dedup
  ((setA.filter fun x => decide (x ∈ setB)).length : ℚ) / ((setA ++ setB).dedup.length : ℚ)

/-- The four books that share most categories. -/
def recommendIds (bookIds : List Nat) (bookSame : List (Nat × List Nat)) : List Nat :=
  let scored := bookSame.map fun b => (b.1, calculateJaccard bookIds b.2)
  ((orderBy (fun a b => decide (b.2 < a.2)) scored).take 4).map Prod.fst

/-- `pickCards` from the map of `buildCardMap` -/
def pickCards (ids : List Nat) (rows : List BookRow) : List CatalogBookCardDto :=
  ids.filterMap fun id =>
    (rows.find? fun row => decide (row.book.id = id)).map toCatalogBookCard

/-- `[items[i], items[j]] = [items[j], items[i]]` -/
def swap {α : Type} (items : List α) (i j : Nat) : List α :=
  match items[i]?, items[j]? with
  | some a, some b => (items.set i b).set j a
  | _, _ => items

/-- The loop of `shuffle` from index `i` down; `Math.random` picks the partner. -/
def shuffleFrom {α : Type} : Nat → List α → CatalogService (List α)
  | 0, items => ret items
  | i + 1, items => pick (i + 2) fun j => shuffleFrom i (swap items (i + 1) j)

def shuffle {α : Type} (items : List α) : CatalogService (List α) :=
  shuffleFrom (items.length - 1) items

/-! The computations behind the cache. -/

def homeFactory (langId limit : Nat) : CatalogService CatalogValue := do
  let books : List BookRow ← catalogQuery (.findCatalogHomeBooks langId (limit * 5))
  let shuffled ← shuffle books
  ret (.home ((shuffled.take limit).map toCatalogBookCard))

/-- Without a category, or with one that has been looked up. -/
def plainListFactory (langId : Nat) (categoryId : Option Nat) (page limit : Nat) :
    CatalogService CatalogValue := do
  let r ← bothQueries (.findBooksForListByFilter langId categoryId page limit)
    (.countBooksForList langId categoryId)
  ret (buildPaginatedResult (r.1.map toCatalogListBookCard) r.2 page limit)

/-- The books that a keyword finds. -/
def keywordListFactory (langId : Nat) (categoryId : Option Nat) (keyword : String)
    (page limit : Nat) : CatalogService CatalogValue := do
  let search := buildKeywordSearch keyword
  let r ← bothQueries (.findBookByKeyword categoryId langId search page limit)
    (.countBookByKeyword categoryId langId search)
  let rows : List BookRow ← catalogQuery (.findBooksByIds r.1 langId)
  ret (buildPaginatedResult (rows.map toCatalogListBookCard) r.2 page limit)

def categoryListFactory (langId page limit : Nat) (slugCategory : String)
    (keyword : Option String) : CatalogService CatalogValue := do
  let category : Option Nat ← catalogQuery (.findCategoryBySlug slugCategory langId)
  match category with
  | none => raise (.notFound CatalogMessage.categoryNotFound)
  | some categoryId =>
      match keyword with
      | some keyword => keywordListFactory langId (some categoryId) keyword page limit
      | none => plainListFactory langId (some categoryId) page limit

def bookDetailFactory (bookId langId : Nat) : CatalogService CatalogValue := do
  let book : Option BookRow ← catalogQuery (.findBookDetailById bookId langId)
  match book with
  | none => raise (.notFound CatalogMessage.bookNotFound)
  | some book => ret (.detail (toCatalogBookDetail book none []))

def bookDetailBySlugFactory (normalizedSlug : String) (langId : Nat) :
    CatalogService CatalogValue := do
  let book : Option BookRow ← catalogQuery (.findBookDetailBySlug normalizedSlug langId)
  match book with
  | none => raise (.notFound CatalogMessage.bookNotFound)
  | some book => do
      let bookIds := (book.categories.map CategoryRow.id).dedup
      let bookSame : List (Nat × List Nat) ←
        catalogQuery (.findBookAlikeCategory book.book.id bookIds)
      let ids := recommendIds bookIds bookSame
      let rows : List BookRow ← catalogQuery (.findBooksByIds ids langId)
      ret (.detail (toCatalogBookDetail book (some normalizedSlug) (pickCards ids rows)))

section Reads

-- what is done with a key and the computation behind it
variable (cached : CatalogKey → CatalogService CatalogValue → CatalogService CatalogValue)

def getCatalogHomeWith (limit : Option Nat) (langId : Nat) : CatalogService CatalogValue :=
  cached (.home langId (limit.getD 12)) (homeFactory langId (limit.getD 12))

/-- A text that is missing or empty after `trim` is falsy. -/
def trimmed (s : Option String) : Option String :=
  (s.map trim).filter fun t => decide (t ≠ "")

def listBooksWith (query : CatalogBookListQueryDto) (langId : Nat) :
    CatalogService CatalogValue :=
  let page := positiveOr 1 query.page
  let limit := positiveOr 20 query.limit
  match trimmed query.slugCategory, trimmed query.keyword with
  | some slugCategory, keyword =>
      cached (.bookListByCategory langId page limit slugCategory)
        (categoryListFactory langId page limit slugCategory keyword)
  | none, some keyword => keywordListFactory langId none keyword page limit
  | none, none =>
      cached (.bookList langId page limit) (plainListFactory langId none page limit)

def getBookDetailWith (bookId langId : Nat) : CatalogService CatalogValue :=
  cached (.bookDetail bookId langId) (bookDetailFactory bookId langId)

def getBookDetailBySlugWith (slug : String) (langId : Nat) : CatalogService CatalogValue :=
  let normalizedSlug := trim slug
  if normalizedSlug = "" then
    raise (.badRequest CatalogMessage.slugRequired)
  else
    cached (.bookDetailBySlug normalizedSlug langId)
      (bookDetailBySlugFactory normalizedSlug langId)

end Reads

/-- `CacheVersionService.withCache` -/
def catalogCached (key : CatalogKey) (factory : CatalogService CatalogValue) :
    CatalogService CatalogValue :=
  withCache (fun _ => true) key.text catalogCacheTtlSeconds factory

/-- Caching switched off. -/
def catalogUncached (_ : CatalogKey) (factory : CatalogService CatalogValue) :
    CatalogService CatalogValue :=
  factory

def listBooks : CatalogBookListQueryDto → Nat → CatalogService CatalogValue :=
  listBooksWith catalogCached

def listBooksUncached : CatalogBookListQueryDto → Nat → CatalogService CatalogValue :=
  listBooksWith catalogUncached

end BookStore
