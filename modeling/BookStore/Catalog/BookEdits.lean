import BookStore.Catalog.Mutations
import BookStore.Procurement.Statements
import BookStore.RowUpdates
import BookStore.Async.Outcomes

/-!
# Editing a book

`AdminBookService.updateBook` with every column that it writes, for bodies as they are
sent.  The translations are found by the book and the language, the variants by their id
alone.

* `OnlyBook bookId db db'`: between `db` and `db'` nothing has happened to other books.
* `accepted_iff`: which calls go through.
* `onlyBook_iff`: when a transaction that is committed has kept to its book.
* `ends_updateBook`: what a call does to the database.
-/

namespace BookStore

open Async Program

/-- A property of a JSON body -/
inductive Sent (α : Type)
  | absent
  | null
  | value (a : α)
  deriving DecidableEq

/-- What a column that is `NOT NULL` is set to -/
def Sent.required {α : Type} : Sent α → α → Option α
  | .absent, a => some a
  | .null, _ => none
  | .value a, _ => some a

/-- What a column that may be `NULL` is set to -/
def Sent.optional {α : Type} : Sent α → Option α → Option α
  | .absent, a => a
  | .null, _ => none
  | .value a, _ => some a

def Sent.value? {α : Type} : Sent α → Option α
  | .value a => some a
  | _ => none

namespace AdminBook

/-! ### Tables -/

/-- `books`, with the columns that an edit stamps -/
structure BookRecord extends Book where
  updatedBy : Option Nat
  updatedAt : Nat
  deriving DecidableEq

/-- `book_variants`, with the column that an edit stamps -/
structure VariantRecord extends CatalogVariant where
  updatedAt : Nat
  deriving DecidableEq

/-- The book with its translations and its variants: `adminBookDetailSelect`. -/
structure BookDetail where
  book : BookRecord
  translations : List BookTranslation
  variants : List VariantRecord
  deriving DecidableEq

/-- `audit_logs` -/
structure AuditLog where
  actorUserId : Nat
  action : String
  entityType : String
  entityId : String
  before : BookDetail
  after : BookDetail
  ip : Option String
  deriving DecidableEq

structure BookAdminDb where
  users : List Nat
  languages : List Language
  books : List BookRecord
  translations : List BookTranslation
  variants : List VariantRecord
  auditLogs : List AuditLog
  deriving DecidableEq

/-! ### Bodies -/

structure UpdateAdminBookTranslationRequestDto where
  languageId : Sent ℚ
  title : Sent String
  description : Sent String
  deriving DecidableEq

structure UpdateAdminBookVariantRequestDto where
  id : ℚ
  costPrice : ℚ
  price : ℚ
  isActive : Sent Bool
  deriving DecidableEq

/-- Lists that are not sent are empty. -/
structure UpdateAdminBookRequestDto where
  pageCount : Sent Nat
  weightGrams : Sent Nat
  coverImageUrl : Sent String
  isActive : Sent Bool
  translations : List UpdateAdminBookTranslationRequestDto
  variants : List UpdateAdminBookVariantRequestDto
  deriving DecidableEq

/-- The call: the id of the path, the body, the user, the address and the clock, which an
update of the transaction reads by its number. -/
structure EditCall where
  bookId : Nat
  body : UpdateAdminBookRequestDto
  actorUserId : Nat
  ip : Option String
  clock : Nat → Nat

/-! ### The transaction -/

/-- The number can be stored in the `@db.Decimal(12, 2)` column. -/
def FitsPrice (x : ℚ) : Prop :=
  |toDecimal x| < 10 ^ 10

instance (x : ℚ) : Decidable (FitsPrice x) := by
  unfold FitsPrice
  infer_instance

/-- A number that is sent can be stored in an `Int` column. -/
def FitsColumn (sent : Sent Nat) : Prop :=
  ∀ n, sent = .value n → n < 2 ^ 31

instance (sent : Sent Nat) : Decidable (FitsColumn sent) :=
  match sent with
  | .absent => isTrue fun _ h => (by cases h)
  | .null => isTrue fun _ h => (by cases h)
  | .value n => decidable_of_iff (n < 2 ^ 31)
      ⟨fun hn m h => (by cases h; exact hn), fun h => h n rfl⟩

/-- `bookId_languageId` -/
def UpdateAdminBookTranslationRequestDto.names (bookId : Nat)
    (params : UpdateAdminBookTranslationRequestDto) (t : BookTranslation) : Bool :=
  decide (t.bookId = bookId) && decide (params.languageId = .value (t.languageId : ℚ))

def UpdateAdminBookTranslationRequestDto.write
    (params : UpdateAdminBookTranslationRequestDto) (t : BookTranslation) :
    Option BookTranslation :=
  (params.title.required t.title).map fun title =>
    { t with title := title, description := params.description.optional t.description }

/-- `{ id: variant.id }`: the book is not part of it. -/
def UpdateAdminBookVariantRequestDto.names
    (variant : UpdateAdminBookVariantRequestDto) (v : VariantRecord) : Bool :=
  decide ((v.id : ℚ) = variant.id)

def UpdateAdminBookVariantRequestDto.write
    (variant : UpdateAdminBookVariantRequestDto) (now : Nat) (v : VariantRecord) :
    Option VariantRecord :=
  if FitsPrice variant.price then
    (variant.isActive.required v.isActive).map fun isActive =>
      { v with
        price := some (toDecimal variant.price), isActive := isActive, updatedAt := now }
  else
    none

/-- The columns of `books`, with `updatedBy` -/
def UpdateAdminBookRequestDto.write
    (params : UpdateAdminBookRequestDto) (actorUserId now : Nat) (b : BookRecord) :
    Option BookRecord :=
  if FitsColumn params.pageCount ∧ FitsColumn params.weightGrams then
    (params.isActive.required b.isActive).map fun isActive =>
      { b with
        pageCount := params.pageCount.optional b.pageCount
        weightGrams := params.weightGrams.optional b.weightGrams
        coverImageUrl := params.coverImageUrl.optional b.coverImageUrl
        isActive := isActive
        updatedBy := some actorUserId
        updatedAt := now }
  else
    none

def updateTranslationBook (bookId : Nat) (params : UpdateAdminBookTranslationRequestDto)
    (translations : List BookTranslation) : Option (List BookTranslation) :=
  updateWhere (params.names bookId) params.write translations

/-- The variants of the body, each with the number of its update -/
def UpdateAdminBookRequestDto.edits (body : UpdateAdminBookRequestDto) :
    List (UpdateAdminBookVariantRequestDto × Nat) :=
  body.variants.zipIdx

/-- `updateVariantById` -/
def updateVariants (clock : Nat → Nat) (edits : List (UpdateAdminBookVariantRequestDto × Nat))
    (variants : List VariantRecord) : Option (List VariantRecord) :=
  edits.foldlM (fun variants u => updateWhere u.1.names (u.1.write (clock u.2)) variants)
    variants

def BookAdminDb.findBookById (db : BookAdminDb) (bookId : Nat) : Option BookDetail :=
  (db.books.find? fun b => decide (b.id = bookId)).map fun b =>
    { book := b
      translations := db.translations.filter fun t => decide (t.bookId = bookId)
      variants := db.variants.filter fun v => decide (v.bookId = bookId) }

/-- `VarChar(64)` -/
def FitsIp (ip : Option String) : Prop :=
  ∀ s, s ∈ ip → s.length ≤ 64

instance (ip : Option String) : Decidable (FitsIp ip) := by
  unfold FitsIp
  infer_instance

/-- The value, or the error without one -/
def orThrow {α : Type} (e : Failure) : Option α → Except Failure α
  | some a => .ok a
  | none => .error e

def throwIf (p : Prop) [Decidable p] (e : Failure) : Except Failure Unit :=
  if p then .error e else .ok ()

def EditCall.auditLog (edit : EditCall) (before updatedBook : BookDetail) : AuditLog where
  actorUserId := edit.actorUserId
  action := "ADMIN_BOOK_UPDATE"
  entityType := "BOOK"
  entityId := toString updatedBook.book.id
  before := before
  after := updatedBook
  ip := edit.ip

/-- The transaction of `updateBook`; the answer is what `toMapperUpdateBook` is given. -/
def updateBookTransaction (edit : EditCall) (before : BookDetail) (db : BookAdminDb) :
    Except Failure (BookAdminDb × BookDetail) := do
  let body := edit.body
  let translations ← orThrow .database <| body.translations.foldlM
    (fun translations params => updateTranslationBook edit.bookId params translations)
    db.translations
  throwIf (∃ variant ∈ body.variants, variant.price < variant.costPrice)
    (.badRequest AdminBookMessage.variantPriceCannotBeLessThanCostPrice)
  let variants ← orThrow .database (updateVariants edit.clock body.edits db.variants)
  throwIf (edit.actorUserId ∉ db.users) .database
  let books ← orThrow .database <| updateWhere (fun b => decide (b.id = edit.bookId))
    (body.write edit.actorUserId (edit.clock body.variants.length)) db.books
  let db := { db with translations := translations, variants := variants, books := books }
  let updatedBook ← orThrow .typeError (db.findBookById edit.bookId)
  throwIf (¬ FitsIp edit.ip) .database
  -- `item.price.toString()`
  throwIf (∃ v ∈ updatedBook.variants, v.price = none) .typeError
  .ok ({ db with auditLogs := db.auditLogs ++ [edit.auditLog before updatedBook] }, updatedBook)

/-! ### The service -/

inductive BookAdminQuery
  | findBookById (bookId : Nat)
  | updateBook (edit : EditCall) (before : BookDetail)
  | findActiveLanguages

abbrev BookAdminResponse : BookAdminQuery → Type
  | .findBookById _ => Option BookDetail
  | .updateBook _ _ => BookDetail
  | .findActiveLanguages => List Nat

def runBookAdmin : (q : BookAdminQuery) → BookAdminDb →
    Except Failure (BookAdminDb × BookAdminResponse q)
  | .findBookById bookId, db => .ok (db, db.findBookById bookId)
  | .updateBook edit before, db => updateBookTransaction edit before db
  | .findActiveLanguages, db => .ok (db, (db.languages.filter (·.isActive)).map (·.id))

abbrev BookAdminService := CacheService BookAdminResponse Failure CatalogValue

def bookAdminQuery (q : BookAdminQuery) : BookAdminService (BookAdminResponse q) :=
  command (.query q)

def bumpCatalogBookDetailCache (bookId : Nat) : BookAdminService Unit := do
  let languages : List Nat ← bookAdminQuery .findActiveLanguages
  promiseAll (languages.map fun langId =>
    .incr (createVersionKey (CatalogKey.bookDetail bookId langId).text))

/-- `AdminBookService.updateBook`; the response is read off the row. -/
def updateBook (edit : EditCall) : BookAdminService BookDetail := do
  let before : Option BookDetail ← bookAdminQuery (.findBookById edit.bookId)
  match before with
  | none => raise (.notFound AdminBookMessage.bookNotFound)
  | some before =>
      if before.book.deletedAt.isSome then
        raise (.notFound AdminBookMessage.bookNotFound)
      else do
        let updated : BookDetail ← bookAdminQuery (.updateBook edit before)
        bumpCatalogBookDetailCache edit.bookId
        ret updated

/-! ### What the transaction does -/

section Transaction

theorem bind_eq_ok_iff {ε α β : Type} {x : Except ε α} {f : α → Except ε β} {b : β} :
    (x >>= f) = .ok b ↔ ∃ a, x = .ok a ∧ f a = .ok b := by
  cases x with
  | error e =>
      exact ⟨fun h => (by cases h), fun ⟨_, h, _⟩ => (by cases h)⟩
  | ok a =>
      exact ⟨fun h => ⟨a, rfl, h⟩, fun ⟨_, h, hf⟩ => (by cases h; exact hf)⟩

@[simp] theorem orThrow_eq_ok_iff {α : Type} {e : Failure} {o : Option α} {a : α} :
    orThrow e o = .ok a ↔ o = some a := by
  cases o <;> simp [orThrow]

@[simp] theorem throwIf_eq_ok_iff {p : Prop} [Decidable p] {e : Failure} {u : Unit} :
    throwIf p e = .ok u ↔ ¬ p := by
  by_cases hp : p <;> simp [throwIf, hp]

/-- The steps of the transaction, all of them done -/
structure Edited (edit : EditCall) (before : BookDetail) (db db' : BookAdminDb)
    (updated : BookDetail) : Prop where
  translations : edit.body.translations.foldlM
    (fun translations params => updateTranslationBook edit.bookId params translations)
    db.translations = some db'.translations
  costs : ∀ variant, variant ∈ edit.body.variants → variant.costPrice ≤ variant.price
  variants : updateVariants edit.clock edit.body.edits db.variants = some db'.variants
  actor : edit.actorUserId ∈ db.users
  books : updateWhere (fun b => decide (b.id = edit.bookId))
    (edit.body.write edit.actorUserId (edit.clock edit.body.variants.length)) db.books =
      some db'.books
  found : db'.findBookById edit.bookId = some updated
  ip : FitsIp edit.ip
  prices : ∀ v, v ∈ updated.variants → v.price ≠ none
  users : db'.users = db.users
  languages : db'.languages = db.languages
  auditLogs : db'.auditLogs = db.auditLogs ++ [edit.auditLog before updated]

theorem updateBookTransaction_eq_ok_iff
    {edit : EditCall} {before : BookDetail} {db db' : BookAdminDb} {updated : BookDetail} :
    updateBookTransaction edit before db = .ok (db', updated) ↔
      Edited edit before db db' updated := by
  unfold updateBookTransaction
  simp only [bind_eq_ok_iff, orThrow_eq_ok_iff, throwIf_eq_ok_iff, not_exists, not_and,
    not_lt, not_not, exists_const, Except.ok.injEq, Prod.mk.injEq]
  constructor
  · rintro ⟨translations, htranslations, hcosts, variants, hvariants, hactor, books, hbooks,
      updated', hfound, hip, hprices, rfl, rfl⟩
    exact ⟨htranslations, hcosts, hvariants, hactor, hbooks, hfound, hip, hprices, rfl, rfl,
      rfl⟩
  · intro h
    refine ⟨_, h.translations, h.costs, _, h.variants, h.actor, _, h.books, updated, h.found,
      h.ip, h.prices, ?_, rfl⟩
    rw [← h.users, ← h.languages, ← h.auditLogs]

/-! ### Other books -/

/-- Rows stay rows of their book, and those of other books stay as they are. -/
def KeptOutside {α : Type} (ofBook : α → Nat) (bookId : Nat) (rows rows' : List α) : Prop :=
  List.Forall₂ (fun row row' =>
    ofBook row' = ofBook row ∧ (ofBook row ≠ bookId → row' = row)) rows rows'

structure OnlyBook (bookId : Nat) (db db' : BookAdminDb) : Prop where
  books : KeptOutside (fun b => b.id) bookId db.books db'.books
  translations : KeptOutside (fun t => t.bookId) bookId db.translations db'.translations
  variants : KeptOutside (fun v => v.bookId) bookId db.variants db'.variants
  users : db'.users = db.users
  languages : db'.languages = db.languages
  auditLogs : db.auditLogs <+: db'.auditLogs

theorem KeptOutside.refl {α : Type} (ofBook : α → Nat) (bookId : Nat) (rows : List α) :
    KeptOutside ofBook bookId rows rows :=
  List.forall₂_same.mpr fun _ _ => ⟨rfl, fun _ => rfl⟩

theorem OnlyBook.refl (bookId : Nat) (db : BookAdminDb) : OnlyBook bookId db db :=
  ⟨.refl .., .refl .., .refl .., rfl, rfl, List.prefix_rfl⟩

/-! ### The updates of rows -/

theorem write_translation_eq_some_iff
    {params : UpdateAdminBookTranslationRequestDto} {t t' : BookTranslation} :
    params.write t = some t' ↔ ∃ title, params.title.required t.title = some title ∧
      { t with title := title, description := params.description.optional t.description } =
        t' :=
  Option.map_eq_some_iff

theorem write_variant_eq_some_iff
    {variant : UpdateAdminBookVariantRequestDto} {now : Nat} {v v' : VariantRecord} :
    variant.write now v = some v' ↔ FitsPrice variant.price ∧
      ∃ isActive, variant.isActive.required v.isActive = some isActive ∧
        { v with
          price := some (toDecimal variant.price), isActive := isActive, updatedAt := now } =
            v' := by
  rw [UpdateAdminBookVariantRequestDto.write, Option.ite_none_right_eq_some,
    Option.map_eq_some_iff]

theorem write_book_eq_some_iff
    {body : UpdateAdminBookRequestDto} {actorUserId now : Nat} {b b' : BookRecord} :
    body.write actorUserId now b = some b' ↔
      (FitsColumn body.pageCount ∧ FitsColumn body.weightGrams) ∧
        ∃ isActive, body.isActive.required b.isActive = some isActive ∧
          { b with
            pageCount := body.pageCount.optional b.pageCount
            weightGrams := body.weightGrams.optional b.weightGrams
            coverImageUrl := body.coverImageUrl.optional b.coverImageUrl
            isActive := isActive
            updatedBy := some actorUserId
            updatedAt := now } = b' := by
  rw [UpdateAdminBookRequestDto.write, Option.ite_none_right_eq_some, Option.map_eq_some_iff]

/-- An update of the variants names the variants that its entry of the body names. -/
abbrev namesVariant (u : UpdateAdminBookVariantRequestDto × Nat) (v : VariantRecord) : Bool :=
  u.1.names v

abbrev writeVariant (clock : Nat → Nat) (u : UpdateAdminBookVariantRequestDto × Nat)
    (v : VariantRecord) : Option VariantRecord :=
  u.1.write (clock u.2) v

theorem hitsKept_translations (bookId : Nat) :
    HitsKept (UpdateAdminBookTranslationRequestDto.names bookId)
      UpdateAdminBookTranslationRequestDto.write := by
  intro params t t' h params'
  obtain ⟨title, -, rfl⟩ := write_translation_eq_some_iff.mp h
  rfl

theorem hitsKept_variants (clock : Nat → Nat) :
    HitsKept namesVariant (writeVariant clock) := by
  intro u v v' h u'
  obtain ⟨-, isActive, -, rfl⟩ := write_variant_eq_some_iff.mp h
  rfl

theorem bookId_edited
    {clock : Nat → Nat} {us : List (UpdateAdminBookVariantRequestDto × Nat)}
    {v v' : VariantRecord} (h : edited namesVariant (writeVariant clock) us v = some v') :
    v'.bookId = v.bookId := by
  refine edited_keeps (k := fun v => v.bookId) (fun u v v' hwrite => ?_) h
  obtain ⟨-, isActive, -, rfl⟩ := write_variant_eq_some_iff.mp hwrite
  rfl

/-- Translations are found by their book. -/
theorem keptOutside_translations
    {bookId : Nat} {us : List UpdateAdminBookTranslationRequestDto}
    {rows rows' : List BookTranslation}
    (h : us.foldlM (fun rows params => updateTranslationBook bookId params rows) rows =
      some rows') :
    KeptOutside (fun t => t.bookId) bookId rows rows' := by
  refine ((foldlM_updateWhere (hitsKept_translations bookId)).mp h).2.imp fun t t' ht => ?_
  refine ⟨edited_keeps (fun params t t' hwrite => ?_) ht, fun hbook => ?_⟩
  · obtain ⟨title, -, rfl⟩ := write_translation_eq_some_iff.mp hwrite
    rfl
  · rw [edited_of_not_hit fun params _ => by
      simp [UpdateAdminBookTranslationRequestDto.names, hbook]] at ht
    exact (Option.some.inj ht).symm

theorem keptOutside_books
    {body : UpdateAdminBookRequestDto} {bookId actorUserId now : Nat}
    {rows rows' : List BookRecord}
    (h : updateWhere (fun b => decide (b.id = bookId)) (body.write actorUserId now) rows =
      some rows') :
    KeptOutside (fun b => b.id) bookId rows rows' := by
  refine (updateWhere_eq_some_iff.mp h).2.imp fun b b' hb => ?_
  by_cases hbook : b.id = bookId
  · rw [if_pos (decide_eq_true hbook)] at hb
    obtain ⟨-, isActive, -, rfl⟩ := write_book_eq_some_iff.mp hb
    exact ⟨rfl, fun hne => absurd hbook hne⟩
  · rw [if_neg (by simpa using hbook)] at hb
    cases hb
    exact ⟨rfl, fun _ => rfl⟩

/-! ### Variants -/

/-- The variants are found by their id: one of another book stays if it already is what its
updates make of it. -/
theorem keptOutside_variants_iff
    {clock : Nat → Nat} {us : List (UpdateAdminBookVariantRequestDto × Nat)} {bookId : Nat}
    {rows rows' : List VariantRecord}
    (h : updateVariants clock us rows = some rows') :
    KeptOutside (fun v => v.bookId) bookId rows rows' ↔
      ∀ v, v ∈ rows → v.bookId ≠ bookId →
        edited namesVariant (writeVariant clock) us v = some v := by
  refine forall₂_iff_of_forall₂ ((foldlM_updateWhere (hitsKept_variants clock)).mp h).2
    fun v v' hedited => ?_
  rw [hedited, Option.some.injEq, and_iff_right (bookId_edited hedited)]

/-- The updates that name a variant -/
def editsOf (us : List (UpdateAdminBookVariantRequestDto × Nat)) (v : VariantRecord) :
    List (UpdateAdminBookVariantRequestDto × Nat) :=
  us.filter fun u => namesVariant u v

/-- What is sent for `isActive`, the last of it -/
def lastActive (us : List (UpdateAdminBookVariantRequestDto × Nat)) : Option Bool :=
  (us.filterMap fun u => u.1.isActive.value?).getLast?

/-- A variant is already as the last update that names it would have it. -/
structure AsSent (clock : Nat → Nat) (us : List (UpdateAdminBookVariantRequestDto × Nat))
    (v : VariantRecord) : Prop where
  last : ∀ u, u ∈ (editsOf us v).getLast? →
    v.price = some (toDecimal u.1.price) ∧ v.updatedAt = clock u.2
  isActive : ∀ isActive, isActive ∈ lastActive (editsOf us v) → v.isActive = isActive

/-- What updates that can be stored make of a variant -/
theorem edited_variant
    {clock : Nat → Nat} {us : List (UpdateAdminBookVariantRequestDto × Nat)}
    {v : VariantRecord}
    (h : ∀ u, u ∈ us → FitsPrice u.1.price ∧ u.1.isActive ≠ .null) :
    edited namesVariant (writeVariant clock) us v = some
      { v with
        price := ((editsOf us v).getLast?.map fun u => toDecimal u.1.price).or v.price
        updatedAt := ((editsOf us v).getLast?.map fun u => clock u.2).getD v.updatedAt
        isActive := (lastActive (editsOf us v)).getD v.isActive } := by
  induction us using List.reverseRecOn with
  | nil =>
      rfl
  | append_singleton us u ih =>
      obtain ⟨hprice, hactive⟩ := h u (by simp)
      rw [edited_concat, ih fun u hmem => h u (by simp [hmem]), Option.bind_some]
      cases hnames : namesVariant u v with
      | false =>
          have hedits : editsOf (us ++ [u]) v = editsOf us v := by
            simp [editsOf, List.filter_append, hnames]
          rw [hedits]
          exact if_neg (by simpa [UpdateAdminBookVariantRequestDto.names] using hnames)
      | true =>
          have hedits : editsOf (us ++ [u]) v = editsOf us v ++ [u] := by
            simp [editsOf, List.filter_append, hnames]
          rw [hedits, if_pos (by simpa [UpdateAdminBookVariantRequestDto.names] using hnames),
            write_variant_eq_some_iff]
          refine ⟨hprice, ?_⟩
          cases hsent : u.1.isActive with
          | absent =>
              simp [Sent.required, lastActive, List.filterMap_append, hsent, Sent.value?]
          | null =>
              exact absurd hsent hactive
          | value a =>
              simp [Sent.required, lastActive, List.filterMap_append, hsent, Sent.value?]

theorem edited_variant_eq_self_iff
    {clock : Nat → Nat} {us : List (UpdateAdminBookVariantRequestDto × Nat)}
    {v : VariantRecord}
    (h : ∀ u, u ∈ us → FitsPrice u.1.price ∧ u.1.isActive ≠ .null) :
    edited namesVariant (writeVariant clock) us v = some v ↔ AsSent clock us v := by
  rw [edited_variant h, Option.some.injEq]
  constructor
  · intro hsame
    refine ⟨fun u hu => ?_, fun isActive hactive => ?_⟩
    · rw [Option.mem_def] at hu
      rw [hu] at hsame
      exact ⟨(congrArg (fun v => v.price) hsame).symm,
        (congrArg VariantRecord.updatedAt hsame).symm⟩
    · rw [Option.mem_def] at hactive
      rw [hactive] at hsame
      exact (congrArg (fun v => v.isActive) hsame).symm
  · rintro ⟨hlast, hactive⟩
    have hisActive : (lastActive (editsOf us v)).getD v.isActive = v.isActive := by
      cases ha : lastActive (editsOf us v) with
      | none =>
          rfl
      | some a =>
          exact (hactive a ha).symm
    rw [hisActive]
    cases hu : (editsOf us v).getLast? with
    | none =>
        rfl
    | some u =>
        obtain ⟨hprice, hstamp⟩ := hlast u hu
        simp [← hprice, ← hstamp]

/-! ### Transactions that are committed -/

/-- The call has a book to edit, and nothing in it is refused. -/
structure Accepted (edit : EditCall) (db : BookAdminDb) : Prop where
  found : ∃ before, db.findBookById edit.bookId = some before ∧
    before.book.deletedAt = none
  actor : edit.actorUserId ∈ db.users
  translations : ∀ params, params ∈ edit.body.translations →
    params.title ≠ .null ∧ ∃ t, t ∈ db.translations ∧ params.names edit.bookId t
  variants : ∀ variant, variant ∈ edit.body.variants →
    (FitsPrice variant.price ∧ variant.isActive ≠ .null) ∧
      ∃ v, v ∈ db.variants ∧ variant.names v
  costs : ∀ variant, variant ∈ edit.body.variants → variant.costPrice ≤ variant.price
  columns : (FitsColumn edit.body.pageCount ∧ FitsColumn edit.body.weightGrams) ∧
    edit.body.isActive ≠ .null
  prices : ∀ v, v ∈ db.variants → v.bookId = edit.bookId → v.price = none →
    ∃ variant, variant ∈ edit.body.variants ∧ variant.names v
  ip : FitsIp edit.ip

theorem isSome_required {α : Type} {sent : Sent α} {a : α} :
    (sent.required a).isSome ↔ sent ≠ .null := by
  cases sent <;> simp [Sent.required]

theorem isSome_translations {edit : EditCall} {rows : List BookTranslation} :
    (edit.body.translations.foldlM
      (fun rows params => updateTranslationBook edit.bookId params rows) rows).isSome ↔
      ∀ params, params ∈ edit.body.translations →
        params.title ≠ .null ∧ ∃ t, t ∈ rows ∧ params.names edit.bookId t :=
  isSome_foldlM_updateWhere (hitsKept_translations edit.bookId) fun params t => by
    rw [UpdateAdminBookTranslationRequestDto.write, Option.isSome_map, isSome_required]

theorem isSome_variants
    {clock : Nat → Nat} {us : List (UpdateAdminBookVariantRequestDto × Nat)}
    {rows : List VariantRecord} :
    (updateVariants clock us rows).isSome ↔ ∀ u, u ∈ us →
      (FitsPrice u.1.price ∧ u.1.isActive ≠ .null) ∧ ∃ v, v ∈ rows ∧ u.1.names v :=
  isSome_foldlM_updateWhere (hitsKept_variants clock) fun u v => by
    unfold writeVariant UpdateAdminBookVariantRequestDto.write
    by_cases hprice : FitsPrice u.1.price <;> simp [hprice, isSome_required]

theorem isSome_books
    {body : UpdateAdminBookRequestDto} {bookId actorUserId now : Nat} {rows : List BookRecord} :
    (updateWhere (fun b => decide (b.id = bookId)) (body.write actorUserId now) rows).isSome ↔
      (∃ b, b ∈ rows ∧ b.id = bookId) ∧
        (FitsColumn body.pageCount ∧ FitsColumn body.weightGrams) ∧ body.isActive ≠ .null := by
  rw [isSome_updateWhere]
  simp only [decide_eq_true_eq]
  refine and_congr_right fun ⟨b, hb, hbook⟩ => ?_
  have hwrite : ∀ b, (body.write actorUserId now b).isSome ↔
      (FitsColumn body.pageCount ∧ FitsColumn body.weightGrams) ∧ body.isActive ≠ .null := by
    intro b
    unfold UpdateAdminBookRequestDto.write
    by_cases hcolumns : FitsColumn body.pageCount ∧ FitsColumn body.weightGrams <;>
      simp [hcolumns, isSome_required]
  simp only [hwrite]
  exact ⟨fun h => h b hb hbook, fun h _ _ _ => h⟩

theorem forall_edits {body : UpdateAdminBookRequestDto}
    {q : UpdateAdminBookVariantRequestDto → Prop} :
    (∀ u, u ∈ body.edits → q u.1) ↔ ∀ variant, variant ∈ body.variants → q variant := by
  rw [← List.forall_mem_map, UpdateAdminBookRequestDto.edits, List.zipIdx_map_fst]

/-- A variant has no price afterwards if it had none and is not named. -/
theorem price_edited_eq_none_iff
    {clock : Nat → Nat} {body : UpdateAdminBookRequestDto} {v v' : VariantRecord}
    (hstored : ∀ u, u ∈ body.edits → FitsPrice u.1.price ∧ u.1.isActive ≠ .null)
    (h : edited namesVariant (writeVariant clock) body.edits v = some v') :
    v'.price = none ↔
      v.price = none ∧ ¬ ∃ variant, variant ∈ body.variants ∧ variant.names v := by
  rw [edited_variant hstored, Option.some.injEq] at h
  subst h
  have hnone : editsOf body.edits v = [] ↔
      ¬ ∃ variant, variant ∈ body.variants ∧ variant.names v := by
    rw [editsOf, List.filter_eq_nil_iff]
    refine (forall_edits (q := fun variant => ¬ variant.names v = true)).trans ?_
    simp
  simp only [Option.or_eq_none_iff, Option.map_eq_none_iff, List.getLast?_eq_none_iff, hnone]
  exact and_comm

theorem findBookById_eq_some_iff {db : BookAdminDb} {bookId : Nat} :
    (∃ detail, db.findBookById bookId = some detail) ↔ ∃ b, b ∈ db.books ∧ b.id = bookId := by
  rw [← Option.isSome_iff_exists, BookAdminDb.findBookById, Option.isSome_map,
    List.find?_isSome]
  simp

theorem mem_variants_of_findBookById
    {db : BookAdminDb} {bookId : Nat} {detail : BookDetail} {v : VariantRecord}
    (h : db.findBookById bookId = some detail) :
    v ∈ detail.variants ↔ v ∈ db.variants ∧ v.bookId = bookId := by
  rw [BookAdminDb.findBookById, Option.map_eq_some_iff] at h
  obtain ⟨b, -, rfl⟩ := h
  simp

/-- A call whose book is found goes through exactly if nothing in it is refused. -/
theorem accepted_iff {edit : EditCall} {db : BookAdminDb} :
    Accepted edit db ↔ ∃ before, db.findBookById edit.bookId = some before ∧
      before.book.deletedAt = none ∧ ∃ db' updated, Edited edit before db db' updated := by
  constructor
  · intro h
    obtain ⟨before, hbefore, hdeleted⟩ := h.found
    refine ⟨before, hbefore, hdeleted, ?_⟩
    obtain ⟨translations, htranslations⟩ :=
      Option.isSome_iff_exists.mp (isSome_translations.mpr h.translations)
    have hedits := forall_edits.mpr h.variants
    obtain ⟨variants, hvariants⟩ :
        ∃ variants, updateVariants edit.clock edit.body.edits db.variants = some variants :=
      Option.isSome_iff_exists.mp (isSome_variants.mpr hedits)
    obtain ⟨books, hbooks⟩ : ∃ books, updateWhere (fun b => decide (b.id = edit.bookId))
        (edit.body.write edit.actorUserId (edit.clock edit.body.variants.length)) db.books =
          some books :=
      Option.isSome_iff_exists.mp
        (isSome_books.mpr ⟨findBookById_eq_some_iff.mp ⟨before, hbefore⟩, h.columns⟩)
    -- the row of the book is still there
    obtain ⟨b, hb, hbook⟩ := findBookById_eq_some_iff.mp ⟨before, hbefore⟩
    obtain ⟨b', hb', hkept, -⟩ := exists_of_forall₂ (keptOutside_books hbooks) hb
    obtain ⟨updated, hupdated⟩ : ∃ updated, { db with
        translations := translations, variants := variants, books := books }.findBookById
          edit.bookId = some updated :=
      findBookById_eq_some_iff.mpr ⟨b', hb', hkept.trans hbook⟩
    refine ⟨{ db with
      translations := translations, variants := variants, books := books
      auditLogs := db.auditLogs ++ [edit.auditLog before updated] }, updated, htranslations,
      h.costs, hvariants, h.actor, hbooks, hupdated, h.ip, ?_, rfl, rfl, rfl⟩
    intro v' hv'
    obtain ⟨hmem, hof⟩ := (mem_variants_of_findBookById hupdated).mp hv'
    obtain ⟨v, hv, hedited⟩ :=
      exists_of_forall₂ ((foldlM_updateWhere (hitsKept_variants _)).mp hvariants).2.flip hmem
    rw [Ne, price_edited_eq_none_iff (fun u hu => (hedits u hu).1) hedited]
    rintro ⟨hprice, hnamed⟩
    exact hnamed (h.prices v hv ((bookId_edited hedited).symm.trans hof) hprice)
  · rintro ⟨before, hbefore, hdeleted, db', updated, h⟩
    have hedits := isSome_variants.mp (Option.isSome_of_eq_some h.variants)
    refine
      { found := ⟨before, hbefore, hdeleted⟩
        actor := h.actor
        translations := isSome_translations.mp (Option.isSome_of_eq_some h.translations)
        variants := forall_edits.mp hedits
        costs := h.costs
        columns := (isSome_books.mp (Option.isSome_of_eq_some h.books)).2
        prices := fun v hv hof hprice => ?_
        ip := h.ip }
    obtain ⟨v', hv', hedited⟩ :=
      exists_of_forall₂ ((foldlM_updateWhere (hitsKept_variants _)).mp h.variants).2 hv
    by_contra hnamed
    have hnone : v'.price = none :=
      (price_edited_eq_none_iff (fun u hu => (hedits u hu).1) hedited).mpr ⟨hprice, hnamed⟩
    have hof' : v'.bookId = edit.bookId := (bookId_edited hedited).trans hof
    exact h.prices v' ((mem_variants_of_findBookById h.found).mpr ⟨hv', hof'⟩) hnone

/-- A transaction that is committed has kept to its book exactly if the variants of other
books that it names were as it would have them. -/
theorem onlyBook_iff
    {edit : EditCall} {before updated : BookDetail} {db db' : BookAdminDb}
    (h : Edited edit before db db' updated) :
    OnlyBook edit.bookId db db' ↔
      ∀ v, v ∈ db.variants → v.bookId ≠ edit.bookId → AsSent edit.clock edit.body.edits v := by
  have hstored : ∀ u, u ∈ edit.body.edits → FitsPrice u.1.price ∧ u.1.isActive ≠ .null :=
    fun u hu => (isSome_variants.mp (Option.isSome_of_eq_some h.variants) u hu).1
  have hvariants : KeptOutside (fun v => v.bookId) edit.bookId db.variants db'.variants ↔ _ :=
    keptOutside_variants_iff h.variants
  simp only [edited_variant_eq_self_iff hstored] at hvariants
  rw [← hvariants]
  refine ⟨OnlyBook.variants, fun hkept => ?_⟩
  exact ⟨keptOutside_books h.books, keptOutside_translations h.translations, hkept, h.users,
    h.languages, h.auditLogs ▸ List.prefix_append _ _⟩

end Transaction

/-! ### Two books -/

/-- Two books with a variant each, and a user -/
def sampleBooks : BookAdminDb where
  users := [1]
  languages := []
  books := [⟨sampleBook 1, none, 0⟩, ⟨sampleBook 2, none, 0⟩]
  translations := [⟨1, 1, "Lean", none, some "lean"⟩, ⟨2, 1, "Rust", none, some "rust"⟩]
  variants := [⟨sampleVariant 1 1, 0⟩, ⟨sampleVariant 2 2, 0⟩]
  auditLogs := []

/-- The first book is edited, and one variant is set to a price. -/
def sampleEdit (variantId : ℚ) : EditCall where
  bookId := 1
  body := ⟨.absent, .absent, .absent, .absent, [], [⟨variantId, 5, 50, .absent⟩]⟩
  actorUserId := 1
  ip := none
  clock := fun n => n + 1

theorem accepted_sampleEdit (variantId : Nat)
    (h : ∃ v, v ∈ sampleBooks.variants ∧ v.id = variantId) :
    Accepted (sampleEdit variantId) sampleBooks where
  found := ⟨_, rfl, rfl⟩
  actor := List.mem_singleton.mpr rfl
  translations := fun params hparams => by cases hparams
  variants := by
    obtain ⟨v, hv, hid⟩ := h
    have hprice : FitsPrice 50 := by decide +kernel
    simp only [sampleEdit, List.forall_mem_singleton]
    exact ⟨⟨hprice, by decide⟩, v, hv, by
      simp [UpdateAdminBookVariantRequestDto.names, hid]⟩
  costs := by
    simp only [sampleEdit, List.forall_mem_singleton]
    norm_num
  columns := ⟨⟨fun _ h => (by cases h), fun _ h => (by cases h)⟩, fun h => by cases h⟩
  prices := by
    simp [sampleBooks, sampleVariant]
  ip := fun _ h => by cases h

/-! ### The call -/

section Calls

variable {edit : EditCall} {w w' : CacheWorld BookAdminDb CatalogValue}
variable {faults : CacheStmt BookAdminQuery CatalogValue → Outcome}
variable {x : Except Failure BookDetail}

/-- The statements up to the commit are executed. -/
structure Executed (faults : CacheStmt BookAdminQuery CatalogValue → Outcome)
    (edit : EditCall) (db : BookAdminDb) : Prop where
  read : faults (.query (.findBookById edit.bookId)) = .ok
  commit : ∀ before, db.findBookById edit.bookId = some before →
    faults (.query (.updateBook edit before)) ≠ .fail

theorem db_attempt {s : CacheStmt BookAdminQuery CatalogValue} {o : Outcome}
    (h : ∀ w v r, cacheExec runBookAdmin s w = .ok (v, r) → v.db = w.db)
    (w : CacheWorld BookAdminDb CatalogValue) :
    (attempt (cacheExec runBookAdmin) .database s o w).1.db = w.db := by
  cases hexec : cacheExec runBookAdmin s w with
  | ok vr =>
      cases o <;> simp [attempt, hexec, h w vr.1 vr.2 hexec]
  | error e =>
      cases o <;> simp [attempt, hexec]

/-- Bumping the cache leaves the database as it is. -/
theorem db_bumpCatalogBookDetailCache
    {bookId : Nat} {x : Except Failure Unit}
    (h : (bumpCatalogBookDetailCache bookId).Ends (cacheExec runBookAdmin) .database faults
      w w' x) :
    w'.db = w.db := by
  refine h.of_all (T := fun w w' => w'.db = w.db) (fun _ => rfl)
    (fun u v w (huv : v.db = u.db) (hvw : w.db = v.db) => hvw.trans huv)
    (All.bind (All.await ?_) fun languages => ?_)
  · refine db_attempt fun w v r hexec => ?_
    cases hexec
    rfl
  · refine All.promiseAll fun s hs => db_attempt fun w v r hexec => ?_
    obtain ⟨langId, -, rfl⟩ := List.mem_map.mp hs
    cases hexec
    rfl

theorem live_updateBook (edit : EditCall) : (updateBook edit).Live := by
  refine Live.bind (.await _) fun before => ?_
  cases before with
  | none =>
      trivial
  | some before =>
      dsimp only
      split
      · trivial
      · refine Live.bind (.await _) fun updated => Live.bind ?_ fun _ => trivial
        exact Live.bind (.await _) fun languages => .promiseAll _

/-- What is done once the book has been found -/
theorem ends_commit
    {before : BookDetail}
    (h : ((bookAdminQuery (.updateBook edit before)).bind fun updated : BookDetail =>
      (bumpCatalogBookDetailCache edit.bookId).bind fun _ => ret updated).Ends
        (cacheExec runBookAdmin) .database faults w w' x) :
    (faults (.query (.updateBook edit before)) ≠ .fail ∧
        ∃ updated, Edited edit before w.db w'.db updated) ∨
      (∃ e, x = .error e) ∧ w'.db = w.db ∧
        ¬ (faults (.query (.updateBook edit before)) ≠ .fail ∧
          ∃ db' updated, Edited edit before w.db db' updated) := by
  cases hcommit : updateBookTransaction edit before w.db with
  | error e =>
      have hexec : cacheExec runBookAdmin (.query (.updateBook edit before)) w = .error e := by
        simp [cacheExec, runBookAdmin, hcommit]
      obtain ⟨rfl, rfl⟩ := (ends_bind_await_of_error hexec).mp h
      refine .inr ⟨⟨_, rfl⟩, rfl, ?_⟩
      rintro ⟨-, db', updated, hedited⟩
      cases hcommit.symm.trans (updateBookTransaction_eq_ok_iff.mpr hedited)
  | ok r =>
      have hedited := updateBookTransaction_eq_ok_iff.mp hcommit
      have hexec : cacheExec runBookAdmin (.query (.updateBook edit before)) w =
          .ok ({ w with db := r.1 }, r.2) := by
        simp [cacheExec, runBookAdmin, hcommit]
      rcases (ends_bind_await_of_ok hexec).mp h with
        ⟨hok, h⟩ | ⟨hfail, rfl, rfl⟩ | ⟨hlost, rfl, rfl⟩
      · refine .inl ⟨by simp [hok], r.2, ?_⟩
        have hdb : w'.db = r.1 := by
          rcases ends_bind.mp h with ⟨v, _, hbump, rfl, -⟩ | ⟨e, hbump, -⟩
          · exact db_bumpCatalogBookDetailCache hbump
          · exact db_bumpCatalogBookDetailCache hbump
        rwa [hdb]
      · exact .inr ⟨⟨_, rfl⟩, rfl, fun h => h.1 hfail⟩
      · exact .inl ⟨by simp [hlost], r.2, hedited⟩

/-- What a call does to the database -/
theorem ends_updateBook
    (h : (updateBook edit).Ends (cacheExec runBookAdmin) .database faults w w' x) :
    (Executed faults edit w.db ∧ Accepted edit w.db ∧
        ∃ before updated, Edited edit before w.db w'.db updated) ∨
      (∃ e, x = .error e) ∧ w'.db = w.db ∧
        ¬ (Executed faults edit w.db ∧ Accepted edit w.db) := by
  have hread : cacheExec runBookAdmin (.query (.findBookById edit.bookId)) w =
      .ok (w, w.db.findBookById edit.bookId) := rfl
  rcases (ends_bind_await_of_ok hread).mp h with ⟨hok, h⟩ | ⟨hfail, rfl, rfl⟩ | ⟨hlost, rfl, rfl⟩
  · rw [accepted_iff]
    cases hbefore : w.db.findBookById edit.bookId with
    | none =>
        rw [hbefore] at h
        obtain ⟨rfl, rfl⟩ := h
        exact .inr ⟨⟨_, rfl⟩, rfl, by simp⟩
    | some before =>
        rw [hbefore] at h
        dsimp only at h
        by_cases hdeleted : before.book.deletedAt.isSome
        · rw [if_pos hdeleted] at h
          obtain ⟨rfl, rfl⟩ := h
          refine .inr ⟨⟨_, rfl⟩, rfl, ?_⟩
          rintro ⟨-, before', hfound, hnone, -⟩
          cases hfound
          rw [hnone] at hdeleted
          cases hdeleted
        · rw [if_neg hdeleted] at h
          have hnone : before.book.deletedAt = none := by simpa using hdeleted
          rcases ends_commit h with ⟨hdone, updated, hedited⟩ | ⟨hx, hdb, hnot⟩
          · refine .inl ⟨⟨hok, fun before' hfound => ?_⟩,
              ⟨before, rfl, hnone, _, updated, hedited⟩, before, updated, hedited⟩
            cases hbefore.symm.trans hfound
            exact hdone
          · refine .inr ⟨hx, hdb, ?_⟩
            rintro ⟨hexecuted, before', hfound, -, hedited⟩
            cases hfound
            exact hnot ⟨hexecuted.commit before hbefore, hedited⟩
  · refine .inr ⟨⟨_, rfl⟩, rfl, fun ⟨hexecuted, _⟩ => ?_⟩
    cases hfail.symm.trans hexecuted.read
  · refine .inr ⟨⟨_, rfl⟩, rfl, fun ⟨hexecuted, _⟩ => ?_⟩
    cases hlost.symm.trans hexecuted.read

/--
However its statements end: a call has thrown and changed nothing, or changed only its
book, exactly if it is not committed or every variant of another book that the body names
already was as the body has it.
-/
theorem updateBook_onlyBook_iff
    (hends : (updateBook edit).Ends (cacheExec runBookAdmin) .database faults w w' x) :
    ((∃ e, x = .error e) ∧ w'.db = w.db ∨ OnlyBook edit.bookId w.db w'.db) ↔
      (Executed faults edit w.db ∧ Accepted edit w.db →
        ∀ v, v ∈ w.db.variants → v.bookId ≠ edit.bookId →
          AsSent edit.clock edit.body.edits v) := by
  rcases ends_updateBook hends with
    ⟨hexecuted, haccepted, before, updated, hedited⟩ | ⟨hx, hdb, hnot⟩
  · rw [imp_iff_right ⟨hexecuted, haccepted⟩, ← onlyBook_iff hedited]
    refine or_iff_right_of_imp fun ⟨_, hdb⟩ => ?_
    rw [hdb]
    exact .refl _ _
  · exact iff_of_true (.inl ⟨hx, hdb⟩) fun h => absurd h hnot

/-- The variant of the book itself is edited. -/
theorem updateBook_onlyBook_ownVariant :
    ∃ w' x, (updateBook (sampleEdit 1)).Ends (cacheExec runBookAdmin) .database (fun _ => .ok)
        (.blank sampleBooks) w' x ∧
      ((∃ e, x = .error e) ∧ w'.db = sampleBooks ∨ OnlyBook 1 sampleBooks w'.db) := by
  obtain ⟨w', x, hends⟩ : ∃ w' x, (updateBook (sampleEdit 1)).Ends (cacheExec runBookAdmin)
      .database (fun _ => .ok) (.blank sampleBooks) w' x :=
    exists_ends (live_updateBook _) _
  refine ⟨w', x, hends, (updateBook_onlyBook_iff hends).mpr fun _ v hv hbook => ?_⟩
  have hother : v = ⟨sampleVariant 2 2, 0⟩ := by
    rcases List.mem_pair.mp hv with rfl | rfl
    · exact absurd rfl hbook
    · rfl
  subst hother
  exact ⟨fun u hu => (by cases hu), fun a ha => (by cases ha)⟩

/-- The variant of the other book is edited. -/
theorem foreign_variant_edited :
    ∃ w' x, (updateBook (sampleEdit 2)).Ends (cacheExec runBookAdmin) .database (fun _ => .ok)
        (.blank sampleBooks) w' x ∧
      ¬ ((∃ e, x = .error e) ∧ w'.db = sampleBooks ∨ OnlyBook 1 sampleBooks w'.db) := by
  have haccepted : Accepted (sampleEdit 2) sampleBooks :=
    accepted_sampleEdit 2 ⟨⟨sampleVariant 2 2, 0⟩, by decide, rfl⟩
  obtain ⟨w', x, hends⟩ : ∃ w' x, (updateBook (sampleEdit 2)).Ends (cacheExec runBookAdmin)
      .database (fun _ => .ok) (.blank sampleBooks) w' x :=
    exists_ends (live_updateBook _) _
  refine ⟨w', x, hends, fun hkept => ?_⟩
  rcases ends_updateBook hends with ⟨-, -, before, updated, hedited⟩ | ⟨-, -, hnot⟩
  · have honly : OnlyBook 1 sampleBooks w'.db := by
      rcases hkept with ⟨-, hdb⟩ | honly
      · rw [hdb]
        exact .refl _ _
      · exact honly
    have hsent := (onlyBook_iff hedited).mp honly ⟨sampleVariant 2 2, 0⟩ (by decide) (by decide)
    cases (hsent.last _ rfl).2
  · exact hnot ⟨⟨rfl, fun _ _ h => (by cases h)⟩, haccepted⟩

end Calls

end AdminBook

end BookStore
