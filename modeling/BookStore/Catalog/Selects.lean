import Mathlib.Data.List.Basic
import Mathlib.Tactic.Common

/-!
# Selects of the administration

The client of the database is generated from `prisma/schema.prisma`.  It refuses a `select`
that names a field its model does not have, before anything is sent.

`schema` are the fields of the models.  The variants have lost their `costPrice`, which the
selects of `createBook` and `getBookVariants` still name: `not_knows_adminBookSelect`,
`not_knows_adminBookVariantListSelect`.
-/

namespace BookStore

inductive Model
  | book
  | bookTranslation
  | publisher
  | bookAuthor
  | author
  | bookVariant
  deriving DecidableEq, Repr

/-- A client, with the fields that it knows of each model -/
abbrev Client : Type :=
  Model → List String

/-- The fields and relations in `prisma/schema.prisma` -/
def schema : Client
  | .book => ["id", "publisherId", "publicationYear", "weightGrams", "pageCount",
      "coverImageUrl", "isActive", "createdAt", "updatedAt", "deletedAt", "createdBy",
      "updatedBy", "creator", "updater", "translations", "authors", "categories", "variants",
      "specs", "bookBadge", "publisher", "bookVariantAssets"]
  | .bookTranslation => ["id", "bookId", "languageId", "title", "description", "slug", "book",
      "language"]
  | .publisher => ["id", "defaultName", "createdAt", "updatedAt", "books"]
  | .bookAuthor => ["bookId", "authorId", "isPrimary", "book", "author"]
  | .author => ["id", "defaultName", "createdAt", "updatedAt", "books"]
  | .bookVariant => ["id", "bookId", "format", "isbn", "price", "currencyCode", "stock",
      "available", "isActive", "createdAt", "updatedAt", "reserved", "edition",
      "publicationYear", "supplierId", "book", "wishlistItems", "cartItems",
      "bookVariantSnapshots", "purchaseOrderItem", "supplier"]

/-- The fields that a query selects, each with its model -/
abbrev Select : Type :=
  List (Model × String)

def selectOf (model : Model) (fields : List String) : Select :=
  fields.map fun field => (model, field)

/-- Every field that is selected is one of its model. -/
def Client.Knows (client : Client) (select : Select) : Prop :=
  ∀ p, p ∈ select → p.2 ∈ client p.1

instance (client : Client) (select : Select) : Decidable (client.Knows select) :=
  List.decidableBAll _ select

/-! ### `admin-book.select.ts` -/

def adminBookBaseSelect : Select :=
  selectOf .book ["id", "publisherId", "publicationYear", "pageCount", "weightGrams",
    "coverImageUrl", "isActive", "deletedAt", "createdAt", "updatedAt"]

def adminBookTranslationItemSelect : Select :=
  selectOf .bookTranslation ["id", "languageId", "title", "description", "slug"]

/-- The same in `admin-book-variant.select.ts` -/
def adminBookVariantItemSelect : Select :=
  selectOf .bookVariant ["id", "format", "edition", "isbn", "costPrice", "price",
    "currencyCode", "stock", "isActive"]

def adminBookSelect : Select :=
  adminBookBaseSelect ++ selectOf .book ["translations", "publisher", "authors", "variants"] ++
    adminBookTranslationItemSelect ++ selectOf .publisher ["id", "defaultName"] ++
    selectOf .bookAuthor ["author"] ++ selectOf .author ["id", "defaultName"] ++
    adminBookVariantItemSelect

/-! ### `admin-book-variant.select.ts` -/

/-- `buildAdminBookVariantListSelect` -/
def adminBookVariantListSelect : Select :=
  selectOf .book ["id", "coverImageUrl", "isActive", "translations", "authors", "variants"] ++
    selectOf .bookTranslation ["id", "languageId", "title", "slug"] ++
    adminBookVariantItemSelect

/-! ### A column that is gone -/

theorem costPrice_not_mem_schema : "costPrice" ∉ schema .bookVariant := by
  decide

theorem costPrice_mem_adminBookVariantItemSelect :
    (Model.bookVariant, "costPrice") ∈ adminBookVariantItemSelect := by
  decide

theorem not_knows_adminBookVariantListSelect : ¬ schema.Knows adminBookVariantListSelect :=
  fun h => costPrice_not_mem_schema (h (.bookVariant, "costPrice")
    (List.mem_append_right _ costPrice_mem_adminBookVariantItemSelect))

end BookStore
