import BookStore.Catalog.Tables
import BookStore.Requests
import BookStore.Sql

/-!
# The catalog: queries and transactions

The statements that the catalog and its administration send to the database.  A
transaction is one statement: it is rolled back when it throws.

The raw queries of a search by keyword have texts of their own, with `?` for a value.  As they
are sent, the backslash of `ESCAPE` escapes the quote after it.
-/

namespace BookStore

/-- The columns that `updateBook` may change; `undefined` is `none`. -/
structure UpdateAdminBookTranslation where
  languageId : Nat
  title : Option String
  description : Option String
  deriving DecidableEq

structure UpdateAdminBookVariant where
  id : Nat
  costPrice : ℚ
  price : ℚ
  isActive : Option Bool
  deriving DecidableEq

structure UpdateAdminBookRequestDto where
  pageCount : Option Nat
  weightGrams : Option Nat
  coverImageUrl : Option String
  isActive : Option Bool
  translations : List UpdateAdminBookTranslation
  variants : List UpdateAdminBookVariant
  deriving DecidableEq

/-- The queries and transactions of the catalog and of its administration. -/
inductive CatalogQuery
  | findCategoryBySlug (slug : String) (languageId : Nat)
  | findBooksForListByFilter (languageId : Nat) (categoryId : Option Nat) (page limit : Nat)
  | countBooksForList (languageId : Nat) (categoryId : Option Nat)
  | findBookByKeyword (categoryId : Option Nat) (languageId : Nat)
      (search : CatalogKeywordSearch) (page limit : Nat)
  | countBookByKeyword (categoryId : Option Nat) (languageId : Nat)
      (search : CatalogKeywordSearch)
  | findBooksByIds (bookIds : List Nat) (languageId : Nat)
  | findCatalogHomeBooks (languageId take : Nat)
  | findBookDetailById (bookId languageId : Nat)
  | findBookDetailBySlug (slug : String) (languageId : Nat)
  | findBookAlikeCategory (bookId : Nat) (categoriesIds : List Nat)
  | findActiveLanguages
  -- the administration
  | findBookById (bookId : Nat)
  | findPurchaseOrderItem (variantId : Nat) (purchaseOrderItemId : String)
  | updateBook (bookId : Nat) (body : UpdateAdminBookRequestDto)
  | deleteBook (bookId : Nat) (now : Nat)
  | updatePriceVariant (variantId : Nat) (price : Option ℚ)
  deriving DecidableEq

abbrev CatalogResponse : CatalogQuery → Type
  | .findCategoryBySlug _ _ => Option Nat
  | .findBooksForListByFilter _ _ _ _ => List BookRow
  | .countBooksForList _ _ => Nat
  | .findBookByKeyword _ _ _ _ _ => List Nat
  | .countBookByKeyword _ _ _ => Nat
  | .findBooksByIds _ _ => List BookRow
  | .findCatalogHomeBooks _ _ => List BookRow
  | .findBookDetailById _ _ => Option BookRow
  | .findBookDetailBySlug _ _ => Option BookRow
  | .findBookAlikeCategory _ _ => List (Nat × List Nat)
  | .findActiveLanguages => List Nat
  | .findBookById _ => Option Book
  | .findPurchaseOrderItem _ _ => Option PricedItem
  | .updatePriceVariant _ _ => Nat
  | _ => Unit

namespace AdminBookMessage

def bookNotFound : String := "Không tìm thấy sách"
def variantPriceCannotBeLessThanCostPrice : String :=
  "Giá bán của biến thể không được nhỏ hơn giá nhập"

end AdminBookMessage

/-! ### Transactions -/

section Transactions

/-- `updateTranslationBook` -/
def updateTranslationBook (bookId : Nat) (params : UpdateAdminBookTranslation)
    (db : CatalogDb) : Except Failure CatalogDb :=
  let hit (t : BookTranslation) : Bool :=
    decide (t.bookId = bookId) && decide (t.languageId = params.languageId)
  if db.translations.any hit then
    .ok { db with
      translations := db.translations.map fun t =>
        if hit t then
          { t with
            title := params.title.getD t.title
            description := params.description.or t.description }
        else t }
  else
    .error .database

/-- One row of `updateVariantById`: the book of the variant is not looked at. -/
def updateVariantById (variant : UpdateAdminBookVariant) (db : CatalogDb) :
    Except Failure CatalogDb :=
  if db.variants.any fun v => decide (v.id = variant.id) then
    .ok { db with
      variants := db.variants.map fun v =>
        if v.id = variant.id then
          { v with price := some variant.price, isActive := variant.isActive.getD v.isActive }
        else v }
  else
    .error .database

/-- `update` of the row of a book -/
def updateBookRow (bookId : Nat) (f : Book → Book) (db : CatalogDb) : Except Failure CatalogDb :=
  if db.books.any fun b => decide (b.id = bookId) then
    .ok { db with books := db.books.map fun b => if b.id = bookId then f b else b }
  else
    .error .database

/-- The transaction of `updateBook`. -/
def updateBookTransaction (bookId : Nat) (body : UpdateAdminBookRequestDto) (db : CatalogDb) :
    Except Failure CatalogDb := do
  let db ← body.translations.foldlM (fun db t => updateTranslationBook bookId t db) db
  if body.variants.any fun v => decide (v.price < v.costPrice) then
    throw (.badRequest AdminBookMessage.variantPriceCannotBeLessThanCostPrice)
  let db ← body.variants.foldlM (fun db v => updateVariantById v db) db
  let db ← updateBookRow bookId (fun b =>
    { b with
      pageCount := body.pageCount.or b.pageCount
      weightGrams := body.weightGrams.or b.weightGrams
      coverImageUrl := body.coverImageUrl.or b.coverImageUrl
      isActive := body.isActive.getD b.isActive }) db
  -- `item.price.toString()`
  if db.variants.any fun v => decide (v.bookId = bookId) && v.price.isNone then
    throw .typeError
  return db

/-- The transaction of `deleteBook`. -/
def deleteBookTransaction (bookId now : Nat) (db : CatalogDb) : Except Failure CatalogDb :=
  match db.books.find? fun b => decide (b.id = bookId) with
  | none => .error (.notFound AdminBookMessage.bookNotFound)
  | some before =>
      if before.deletedAt.isSome then
        .error (.notFound AdminBookMessage.bookNotFound)
      else
        updateBookRow bookId (fun b => { b with isActive := false, deletedAt := some now }) db

/-- `updatePriceVariant`; the answer is the book of the variant. -/
def updatePriceVariantRow (variantId : Nat) (price : Option ℚ) (db : CatalogDb) :
    Except Failure (CatalogDb × Nat) :=
  match db.variants.find? fun v => decide (v.id = variantId) with
  | none => .error .database
  | some variant =>
      .ok ({ db with
        variants := db.variants.map fun v =>
          if v.id = variantId then { v with price := price } else v }, variant.bookId)

end Transactions

/-! ### Raw queries -/

/-- `buildBookTranslationKeywordCondition`, as it is sent -/
def buildBookTranslationKeywordCondition : CatalogKeywordSearchMode → String
  | .like => "(bt.title LIKE ? ESCAPE '\\' OR bt.description LIKE ? ESCAPE '\\')"
  | .fulltext =>
      "(MATCH(bt.title, bt.description) AGAINST (? IN BOOLEAN MODE) " ++
        "OR bt.title LIKE ? ESCAPE '\\' OR bt.description LIKE ? ESCAPE '\\')"

def buildBookTranslationScoreSelect : CatalogKeywordSearchMode → String
  | .like => "0 AS score"
  | .fulltext => "MATCH(bt.title, bt.description) AGAINST (? IN BOOLEAN MODE) AS score"

def buildPublicBookPriceVisibilitySql : String :=
  "EXISTS (SELECT 1 FROM book_variants bv_price_visibility " ++
    "WHERE bv_price_visibility.book_id = b.id AND bv_price_visibility.is_active = 1 " ++
    "AND bv_price_visibility.price > 0)"

/-- The tables and the conditions of a search, with or without a category -/
def keywordFromWhere (inCategory : Bool) (mode : CatalogKeywordSearchMode) : String :=
  " FROM books b JOIN book_translations bt ON bt.book_id = b.id AND bt.language_id = ? " ++
    (if inCategory then
      "JOIN book_categories bc ON bc.book_id = b.id AND bc.category_id = ? "
    else "") ++
    "WHERE b.is_active = 1 AND b.deleted_at IS NULL AND " ++
    buildPublicBookPriceVisibilitySql ++ " AND " ++ buildBookTranslationKeywordCondition mode

/-- The text of `findBookIncludeCategory` and `findBookNeIncludeCategory` -/
def findByKeywordSql (inCategory : Bool) (mode : CatalogKeywordSearchMode) : String :=
  "SELECT b.id, " ++ buildBookTranslationScoreSelect mode ++ keywordFromWhere inCategory mode ++
    " ORDER BY score DESC, b.created_at DESC, b.id DESC LIMIT ? OFFSET ?"

/-- The text of `countBookIncludeCategory` and `countBookNeIncludeCategory` -/
def countByKeywordSql (inCategory : Bool) (mode : CatalogKeywordSearchMode) : String :=
  "SELECT COUNT(DISTINCT b.id) AS total" ++ keywordFromWhere inCategory mode

/-- `$queryRaw`: a text with an open literal is refused. -/
@[irreducible] def queryRaw {α : Type} (text : String) (db : CatalogDb) (answer : α) :
    Except Failure (CatalogDb × α) :=
  if Sql.WellQuoted text then .ok (db, answer) else .error .database

/-- The answers of the queries. -/
def runCatalog (sql : SqlText) : (q : CatalogQuery) → CatalogDb →
    Except Failure (CatalogDb × CatalogResponse q)
  | .findCategoryBySlug slug languageId, db =>
      .ok (db, db.findCategoryBySlug sql slug languageId)
  | .findBooksForListByFilter languageId categoryId page limit, db =>
      .ok (db, db.findBooksForListByFilter languageId categoryId page limit)
  | .countBooksForList languageId categoryId, db =>
      .ok (db, db.countBooksForList languageId categoryId)
  | .findBookByKeyword categoryId languageId search page limit, db =>
      queryRaw (findByKeywordSql categoryId.isSome search.mode) db
        (db.findBookByKeyword sql categoryId languageId search page limit)
  | .countBookByKeyword categoryId languageId search, db =>
      queryRaw (countByKeywordSql categoryId.isSome search.mode) db
        (db.countBookByKeyword sql categoryId languageId search)
  | .findBooksByIds bookIds languageId, db => .ok (db, db.findBooksByIds bookIds languageId)
  | .findCatalogHomeBooks languageId take, db =>
      .ok (db, db.findCatalogHomeBooks languageId take)
  | .findBookDetailById bookId languageId, db =>
      .ok (db, db.findBookDetailById bookId languageId)
  | .findBookDetailBySlug slug languageId, db =>
      .ok (db, db.findBookDetailBySlug sql slug languageId)
  | .findBookAlikeCategory bookId categoriesIds, db =>
      .ok (db, db.findBookAlikeCategory bookId categoriesIds)
  | .findActiveLanguages, db => .ok (db, db.findActiveLanguages)
  | .findBookById bookId, db => .ok (db, db.books.find? fun b => decide (b.id = bookId))
  | .findPurchaseOrderItem variantId purchaseOrderItemId, db =>
      .ok (db, db.purchaseOrderItems.find? fun i =>
        decide (i.bookVariantId = variantId) && decide (i.id = purchaseOrderItemId))
  | .updateBook bookId body, db =>
      (updateBookTransaction bookId body db).map fun db => (db, ())
  | .deleteBook bookId now, db =>
      (deleteBookTransaction bookId now db).map fun db => (db, ())
  | .updatePriceVariant variantId price, db => updatePriceVariantRow variantId price db

/-! ### An open literal -/

section Texts

open Sql (Place)

theorem after_visibilitySql : Place.code.after buildPublicBookPriceVisibilitySql = .code := by
  refine Place.after_append .code (Place.after_append .code ?_ ?_) ?_ <;>
    exact Place.after_ofList rfl

theorem after_scoreSelect (mode : CatalogKeywordSearchMode) :
    Place.code.after (buildBookTranslationScoreSelect mode) = .code := by
  cases mode <;> exact Place.after_ofList rfl

/-- The quote before the first backslash is closed by the third one. -/
theorem after_keywordCondition (mode : CatalogKeywordSearchMode) :
    Place.code.after (buildBookTranslationKeywordCondition mode) = .literal := by
  cases mode with
  | like =>
      exact Place.after_ofList rfl
  | fulltext =>
      exact Place.after_append .code (Place.after_ofList rfl) (Place.after_ofList rfl)

theorem after_keywordFromWhere (inCategory : Bool) (mode : CatalogKeywordSearchMode) :
    Place.code.after (keywordFromWhere inCategory mode) = .literal := by
  refine Place.after_append .code (Place.after_append .code (Place.after_append .code
    (Place.after_append .code (Place.after_append .code ?_ ?_) ?_) ?_) ?_) ?_
  · exact Place.after_ofList rfl
  · cases inCategory <;> exact Place.after_ofList rfl
  · exact Place.after_ofList rfl
  · exact after_visibilitySql
  · exact Place.after_ofList rfl
  · exact after_keywordCondition mode

theorem not_wellQuoted_findByKeywordSql (inCategory : Bool) (mode : CatalogKeywordSearchMode) :
    ¬ Sql.WellQuoted (findByKeywordSql inCategory mode) := by
  have hend : Place.code.after (findByKeywordSql inCategory mode) = .literal := by
    refine Place.after_append .literal (Place.after_append .code (Place.after_append .code
      ?_ ?_) ?_) ?_
    · exact Place.after_ofList rfl
    · exact after_scoreSelect mode
    · exact after_keywordFromWhere inCategory mode
    · exact Place.after_ofList rfl
  rw [Sql.WellQuoted, hend]
  decide

theorem not_wellQuoted_countByKeywordSql (inCategory : Bool) (mode : CatalogKeywordSearchMode) :
    ¬ Sql.WellQuoted (countByKeywordSql inCategory mode) := by
  have hend : Place.code.after (countByKeywordSql inCategory mode) = .literal :=
    Place.after_append .code (Place.after_ofList rfl) (after_keywordFromWhere inCategory mode)
  rw [Sql.WellQuoted, hend]
  decide

end Texts

theorem queryRaw_refused
    {α : Type} {text : String} (h : ¬ Sql.WellQuoted text) (db : CatalogDb) (answer : α) :
    queryRaw text db answer = .error .database := by
  unfold queryRaw
  exact if_neg h

section KeywordQueries

variable {sql : SqlText} {categoryId : Option Nat} {languageId : Nat}
  {search : CatalogKeywordSearch} {db : CatalogDb}

theorem run_findBookByKeyword {page limit : Nat} :
    runCatalog sql (.findBookByKeyword categoryId languageId search page limit) db =
      .error .database :=
  queryRaw_refused (not_wellQuoted_findByKeywordSql _ _) db _

theorem run_countBookByKeyword :
    runCatalog sql (.countBookByKeyword categoryId languageId search) db = .error .database :=
  queryRaw_refused (not_wellQuoted_countByKeywordSql _ _) db _

end KeywordQueries

end BookStore
