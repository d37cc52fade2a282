import BookStore.Async.Gather
import BookStore.Catalog.Mutations
import BookStore.Catalog.Selects
import BookStore.Maps
import BookStore.Procurement.Statements

/-!
# New books and new translations

`AdminBookService.createBook` and `createBookTranslation`, with `AuthorService` and the
search for a slug that is not taken.

A transaction reads rows that are committed.  What it writes nobody else sees before it
commits, so its writes are one statement, `commitBook` or `commitTranslation`; what it
reads is read statement by statement.  `time` is the number of searches a transaction has
time for.

`JsText` is what the runtime decides about texts.  `createBook` is written for any generated
client; the one of the server is generated from `schema` and refuses its `select`.
-/

namespace BookStore

open Async Program

/-- Full Unicode mappings -/
structure JsText where
  /-- `s.normalize('NFD')` -/
  nfd : String → String
  toLowerCase : String → String

namespace BookCreation

inductive CreationFailure
  | badRequest (message : String)
  | notFound (message : String)
  | conflict (message : String)
  /-- A statement was refused, or it failed. -/
  | database
  deriving DecidableEq, Repr

namespace CreationMessage

def publisherNameRequired : String := "Tên nhà xuất bản là bắt buộc"
def invalidPublisherId : String := "ID nhà xuất bản không hợp lệ"
def bookTranslationAlreadyExistsInThisLanguage : String :=
  "Bản dịch sách cho ngôn ngữ này đã tồn tại"
def noActiveLanguageFound : String := "Không có ngôn ngữ đang hoạt động"

end CreationMessage

/-! ### Slugs -/

def isCombining (c : Char) : Bool :=
  decide (0x300 ≤ c.toNat ∧ c.toNat ≤ 0x36F)

/-- `[a-z0-9]` -/
def isSlugChar (c : Char) : Bool :=
  decide ('a' ≤ c ∧ c ≤ 'z') || c.isDigit

/-- `.replace(/c/g, 'd')` -/
def replaced (c d : Char) (cs : List Char) : List Char :=
  cs.map fun x => if x = c then d else x

/-- `.replace(/[^a-z0-9]+/g, '-')` -/
def dashed : List Char → List Char
  | [] => []
  | c :: cs =>
      if isSlugChar c then c :: dashed cs
      else
        match dashed cs with
        | '-' :: rest => '-' :: rest
        | rest => '-' :: rest

/-- Every `-{2,}` becomes one `-`. -/
def collapseDashes : List Char → List Char
  | [] => []
  | c :: cs =>
      if c = '-' ∧ cs.head? = some '-' then collapseDashes cs
      else c :: collapseDashes cs

/-- `^-+` and `-+$` are taken off. -/
def stripDashes (cs : List Char) : List Char :=
  ((cs.dropWhile fun c => decide (c = '-')).reverse.dropWhile fun c => decide (c = '-')).reverse

def generateSlug (js : JsText) (value : String) : String :=
  let unmarked := (js.nfd (trim value)).toList.filter fun c => !isCombining c
  let letters := replaced 'Đ' 'D' (replaced 'đ' 'd' unmarked)
  let lower := (js.toLowerCase (String.ofList letters)).toList
  String.ofList (stripDashes (collapseDashes (dashed lower)))

/-! ### Tables -/

structure LanguageRow where
  id : Nat
  code : String
  isActive : Bool
  deriving DecidableEq

/-- `publishers` and `authors` -/
structure Named where
  id : Nat
  defaultName : String
  deriving DecidableEq

structure BookAuthor where
  bookId : Nat
  authorId : Nat
  isPrimary : Bool
  deriving DecidableEq

structure NewBook where
  id : Nat
  publisherId : Nat
  pageCount : Option Nat
  coverImageUrl : Option String
  isActive : Bool
  createdBy : Nat
  updatedBy : Nat
  deletedAt : Option Nat
  deriving DecidableEq

structure NewVariant where
  bookId : Nat
  format : BookFormat
  isbn : String
  edition : Nat
  publicationYear : Nat
  deriving DecidableEq

/-- `book_translations` with their ids -/
structure TranslationRecord extends BookTranslation where
  id : Nat
  deriving DecidableEq

structure AuditLog where
  actorUserId : Nat
  action : String
  entityType : String
  entityId : String
  after : TranslationRecord
  ip : Option String
  deriving DecidableEq

structure CreationDb where
  users : List Nat
  languages : List LanguageRow
  publishers : List Named
  authors : List Named
  books : List NewBook
  translations : List TranslationRecord
  bookAuthors : List BookAuthor
  specs : List (Nat × BookSpec)
  variants : List NewVariant
  auditLogs : List AuditLog
  /-- `AUTO_INCREMENT`: the last ids that were given -/
  lastPublisherId : Nat
  lastAuthorId : Nat
  lastBookId : Nat
  lastTranslationId : Nat
  deriving DecidableEq

/-! ### Bodies -/

structure CreateBookAuthorDto where
  authorName : String
  isPrimary : Option Bool
  deriving DecidableEq

structure CreateBookVariantItemDto where
  format : BookFormat
  isbn : String
  publicationYear : Nat
  edition : Nat
  deriving DecidableEq

structure CreateAdminBookRequestDto where
  title : String
  description : String
  publisherName : String
  authors : List CreateBookAuthorDto
  spec : Option BookSpec
  pageCount : Option Nat
  coverImageUrl : Option String
  bookVariantItems : List CreateBookVariantItemDto
  deriving DecidableEq

structure CreateAdminBookTranslationRequestDto where
  lang : Option String
  title : String
  description : Option String
  deriving DecidableEq

/-- What is written for a translation; `seen` is bookkeeping, the number of translations
there were when its slug was found free. -/
structure CreateAdminBookTranslationParams where
  bookId : Nat
  languageId : Nat
  title : String
  description : Option String
  slug : String
  seen : Nat
  deriving DecidableEq

structure CreateBookAuthorLinkInput where
  authorId : Nat
  isPrimary : Bool
  deriving DecidableEq

/-- The writes of the transaction of `createBook` -/
structure BookWrites where
  bookId : Nat
  publisherId : Nat
  pageCount : Option Nat
  coverImageUrl : Option String
  actorUserId : Nat
  translation : CreateAdminBookTranslationParams
  authors : List CreateBookAuthorLinkInput
  spec : Option BookSpec
  bookVariantItems : List CreateBookVariantItemDto
  deriving DecidableEq

/-- The writes of the transaction of `createBookTranslation` -/
structure TranslationWrites where
  translation : CreateAdminBookTranslationParams
  actorUserId : Nat
  ip : Option String
  deriving DecidableEq

/-! ### Statements -/

inductive CreationStmt
  | resolveLanguage (lang : Option String)
  | upsertPublisher (defaultName : String)
  | upsertAuthor (defaultName : String)
  /-- `INSERT` into `books`: the row is given its id. -/
  | drawBookId
  | findBookById (bookId : Nat)
  | findBookTranslationByBookIdAndLanguage (bookId languageId : Nat)
  | findBookTranslationByLanguageAndSlug (languageId : Nat) (slug : String)
  | commitBook (writes : BookWrites)
  | commitTranslation (writes : TranslationWrites)

/-- What a search for a slug answers; `seen` is bookkeeping, the number of translations. -/
structure SlugSearch where
  existed : Option TranslationRecord
  seen : Nat
  deriving DecidableEq

/-- What `toAdminBookItem` is given -/
structure AdminBookItem where
  book : NewBook
  translation : Option TranslationRecord
  variants : List NewVariant
  deriving DecidableEq

abbrev CreationResponse : CreationStmt → Type
  | .resolveLanguage _ => Option LanguageRow
  | .upsertPublisher _ => Named
  | .upsertAuthor _ => Named
  | .drawBookId => Nat
  | .findBookById _ => Option NewBook
  | .findBookTranslationByBookIdAndLanguage _ _ => Option TranslationRecord
  | .findBookTranslationByLanguageAndSlug _ _ => SlugSearch
  | .commitBook _ => AdminBookItem
  | .commitTranslation _ => TranslationRecord

section Statements

variable (sql : SqlText)

/-- `resolveLanguage`: the active language with this code, or the first active one.  No
language changes, so its cache answers the same. -/
def CreationDb.resolveLanguage (db : CreationDb) (lang : String) : Option LanguageRow :=
  ((db.languages.filter (·.isActive)).find? fun l => sql.eq l.code lang).or
    (orderBy (fun l l' => decide (l.id < l'.id)) (db.languages.filter (·.isActive))).head?

/-- The slug of a translation is this one, in this language. -/
def hasSlug (languageId : Nat) (slug : String) (t : TranslationRecord) : Bool :=
  decide (t.languageId = languageId) && t.slug.any (sql.eq slug)

/-- `upsert({ where: { defaultName }, update: {} })` -/
def upsertNamed (wanted created : String) (lastId : Nat) (rows : List Named) :
    List Named × Named × Nat :=
  match rows.find? fun row => sql.eq row.defaultName wanted with
  | some row => (rows, row, lastId)
  | none => (rows ++ [⟨lastId + 1, created⟩], ⟨lastId + 1, created⟩, lastId + 1)

def CreateAdminBookTranslationParams.record (params : CreateAdminBookTranslationParams)
    (id : Nat) : TranslationRecord where
  id := id
  bookId := params.bookId
  languageId := params.languageId
  title := params.title
  description := params.description
  slug := some params.slug

/-- `createBookTranslation`; the columns are `VarChar(500)` and `Text`. -/
def insertTranslation (params : CreateAdminBookTranslationParams) (db : CreationDb) :
    Option (CreationDb × TranslationRecord) :=
  if params.languageId ∈ db.languages.map LanguageRow.id ∧
      params.bookId ∈ db.books.map NewBook.id ∧
      (∀ t ∈ db.translations, t.bookId = params.bookId → t.languageId ≠ params.languageId) ∧
      params.slug.length ≤ 500 ∧
      ∀ description ∈ params.description, description.utf8ByteSize < 2 ^ 16 then
    let created := params.record (db.lastTranslationId + 1)
    some ({ db with
      translations := db.translations ++ [created]
      lastTranslationId := db.lastTranslationId + 1 }, created)
  else
    none

/-- `createMany({ skipDuplicates: true })`: what is refused is skipped. -/
def insertAuthors (bookId : Nat) (links : List CreateBookAuthorLinkInput) (db : CreationDb) :
    CreationDb :=
  links.foldl (fun db link =>
    if link.authorId ∈ db.authors.map Named.id ∧
        ∀ row ∈ db.bookAuthors, row.bookId = bookId → row.authorId ≠ link.authorId then
      { db with bookAuthors := db.bookAuthors ++ [⟨bookId, link.authorId, link.isPrimary⟩] }
    else db) db

def insertVariants (bookId : Nat) (items : List CreateBookVariantItemDto) (db : CreationDb) :
    CreationDb :=
  items.foldl (fun db item =>
    if ∀ v ∈ db.variants, sql.eq v.isbn item.isbn = false ∧
        ¬ (v.bookId = bookId ∧ v.format = item.format ∧ v.edition = item.edition) then
      { db with variants := db.variants ++
        [⟨bookId, item.format, item.isbn, item.edition, item.publicationYear⟩] }
    else db) db

/-- The number fits `@db.Decimal(6, 2)`. -/
def FitsCm (x : Option ℚ) : Prop :=
  ∀ cm ∈ x, |toDecimal cm| < 10 ^ 4

instance (x : Option ℚ) : Decidable (FitsCm x) := by
  unfold FitsCm
  infer_instance

def insertSpec (bookId : Nat) (spec : Option BookSpec) (db : CreationDb) : Option CreationDb :=
  match spec with
  | none => some db
  | some spec =>
      if FitsCm spec.widthCm ∧ FitsCm spec.heightCm ∧ FitsCm spec.thicknessCm then
        some { db with specs := db.specs ++ [(bookId, spec)] }
      else
        none

def BookWrites.book (writes : BookWrites) : NewBook where
  id := writes.bookId
  publisherId := writes.publisherId
  pageCount := writes.pageCount
  coverImageUrl := writes.coverImageUrl
  isActive := false
  createdBy := writes.actorUserId
  updatedBy := writes.actorUserId
  deletedAt := none

/-- The transaction of `createBook`; the answer is read off the rows of the book. -/
def commitBook (writes : BookWrites) (db : CreationDb) :
    Option (CreationDb × AdminBookItem) := do
  guard (writes.actorUserId ∈ db.users ∧ writes.publisherId ∈ db.publishers.map Named.id ∧
    ∀ n ∈ writes.pageCount, n < 2 ^ 31)
  let (db, created) ← insertTranslation writes.translation
    { db with books := db.books ++ [writes.book] }
  let db ← insertSpec writes.bookId writes.spec (insertAuthors writes.bookId writes.authors db)
  let db := insertVariants sql writes.bookId writes.bookVariantItems db
  some (db,
    { book := writes.book
      translation := some created
      variants := db.variants.filter fun v => decide (v.bookId = writes.bookId) })

/-- The transaction of `createBookTranslation` -/
def commitTranslation (writes : TranslationWrites) (db : CreationDb) :
    Option (CreationDb × TranslationRecord) := do
  let (db, created) ← insertTranslation writes.translation db
  guard (writes.actorUserId ∈ db.users ∧ ∀ ip ∈ writes.ip, ip.length ≤ 64)
  some ({ db with
    auditLogs := db.auditLogs ++
      [{ actorUserId := writes.actorUserId
         action := "ADMIN_BOOK_TRANSLATION_CREATE"
         entityType := "BOOK_TRANSLATION"
         entityId := toString created.id
         after := created
         ip := writes.ip }] }, created)

/-- The effect and the answer of a statement -/
def creationExec (js : JsText) : (s : CreationStmt) → CreationDb →
    Except CreationFailure (CreationDb × CreationResponse s)
  | .resolveLanguage lang, db =>
      .ok (db, db.resolveLanguage sql (js.toLowerCase (trim (lang.getD "vi"))))
  | .upsertPublisher defaultName, db =>
      let r := upsertNamed sql (js.toLowerCase defaultName) defaultName db.lastPublisherId
        db.publishers
      .ok ({ db with publishers := r.1, lastPublisherId := r.2.2 }, r.2.1)
  | .upsertAuthor defaultName, db =>
      let r := upsertNamed sql defaultName defaultName db.lastAuthorId db.authors
      .ok ({ db with authors := r.1, lastAuthorId := r.2.2 }, r.2.1)
  | .drawBookId, db => .ok ({ db with lastBookId := db.lastBookId + 1 }, db.lastBookId + 1)
  | .findBookById bookId, db => .ok (db, db.books.find? fun b => decide (b.id = bookId))
  | .findBookTranslationByBookIdAndLanguage bookId languageId, db =>
      .ok (db, db.translations.find? fun t =>
        decide (t.bookId = bookId) && decide (t.languageId = languageId))
  | .findBookTranslationByLanguageAndSlug languageId slug, db =>
      .ok (db, ⟨db.translations.find? (hasSlug sql languageId slug), db.translations.length⟩)
  | .commitBook writes, db =>
      match commitBook sql writes db with
      | some r => .ok r
      | none => .error .database
  | .commitTranslation writes, db =>
      match commitTranslation writes db with
      | some r => .ok r
      | none => .error .database

end Statements

/-! ### `AuthorService` -/

abbrev CreationService := Program CreationStmt CreationResponse CreationFailure

abbrev creationQuery (s : CreationStmt) : CreationService (CreationResponse s) :=
  await s

section Services

variable (js : JsText)

/-- The names of `createAuthorMany`, one for each in lower case, the last one -/
def normalizedNames (defaultNames : List String) : List String :=
  (JsMap.ofEntries (((defaultNames.map trim).filter fun name => decide (name ≠ "")).map fun name =>
    (js.toLowerCase name, name))).map Prod.snd

/-- The answers in the order of the names -/
def inOrder {γ : Type} (answers : List ((String × Nat) × γ)) : List γ :=
  (orderBy (fun a b => decide (a.1.2 < b.1.2)) answers).map Prod.snd

def createAuthorMany (defaultNames : List String) : CreationService (List Named) :=
  if (normalizedNames js defaultNames).isEmpty then
    ret []
  else do
    let createdAuthors ←
      gather (fun name : String × Nat => CreationStmt.upsertAuthor name.1)
        (fun _ (author : Named) => author) (normalizedNames js defaultNames).zipIdx
    ret (inOrder createdAuthors)

/-! ### `AdminBookService` -/

structure NormalizedAuthor where
  name : String
  isPrimary : Bool
  deriving DecidableEq

/-- One step of the loop over the authors of the body -/
def addAuthor (m : List (String × NormalizedAuthor)) (author : CreateBookAuthorDto) :
    List (String × NormalizedAuthor) :=
  let normalizedAuthorName := trim author.authorName
  if normalizedAuthorName = "" then
    m
  else
    let key := js.toLowerCase normalizedAuthorName
    let isPrimary := author.isPrimary.getD false
    match JsMap.get m key with
    | some existed => JsMap.set m key ⟨existed.name, existed.isPrimary || isPrimary⟩
    | none => JsMap.set m key ⟨normalizedAuthorName, isPrimary⟩

def normalizedAuthors (authors : List CreateBookAuthorDto) : List NormalizedAuthor :=
  (authors.foldl (addAuthor js) []).map Prod.snd

/-- `authorIdByName` -/
def authorIdByName (createdAuthors : List Named) : List (String × Nat) :=
  JsMap.ofEntries (createdAuthors.map fun a => (js.toLowerCase (trim a.defaultName), a.id))

/-- The links of the authors whose name is found; an id 0 is falsy. -/
def authorLinks (authors : List NormalizedAuthor) (createdAuthors : List Named) :
    List CreateBookAuthorLinkInput :=
  authors.filterMap fun author =>
    ((JsMap.get (authorIdByName js createdAuthors) (js.toLowerCase author.name)).filter
      fun id => decide (id ≠ 0)).map fun authorId => ⟨authorId, author.isPrimary⟩

def bookAuthorsPayload (authors : List CreateBookAuthorDto) :
    CreationService (List CreateBookAuthorLinkInput) :=
  let normalized := normalizedAuthors js authors
  if normalized.isEmpty then
    ret []
  else do
    let createdAuthors ← createAuthorMany js (normalized.map NormalizedAuthor.name)
    ret (authorLinks js normalized createdAuthors)

/-- The first candidate that no translation has, with what `seen` was then -/
def buildUniqueSlug (languageId : Nat) (baseSlug : String) :
    (time : Nat) → (candidate : String) → (index : Nat) → CreationService (String × Nat)
  -- the transaction has timed out
  | 0, _, _ => raise .database
  | time + 1, candidate, index => do
      let search : SlugSearch ←
        creationQuery (.findBookTranslationByLanguageAndSlug languageId candidate)
      match search.existed with
      | none => ret (candidate, search.seen)
      | some _ =>
          buildUniqueSlug languageId baseSlug time (baseSlug ++ "-" ++ toString index)
            (index + 1)

/-- `generateSlug(title) || book-…` -/
def baseSlugOf (title : String) (bookId : Nat) : String :=
  if generateSlug js title = "" then "book-" ++ toString bookId else generateSlug js title

def createBook (client : Client) (time : Nat) (body : CreateAdminBookRequestDto)
    (langId actorUserId : Nat) : CreationService AdminBookItem :=
  let normalizedPublisherName := trim body.publisherName
  if normalizedPublisherName = "" then
    raise (.badRequest CreationMessage.publisherNameRequired)
  else do
    let publisher : Named ← creationQuery (.upsertPublisher normalizedPublisherName)
    if publisher.id = 0 then
      raise (.badRequest CreationMessage.invalidPublisherId)
    else do
      let authors ← bookAuthorsPayload js body.authors
      -- `book.create`: a select with an unknown field is refused before anything is sent
      if client.Knows adminBookSelect then do
        let bookId : Nat ← creationQuery .drawBookId
        let baseSlug := baseSlugOf js body.title bookId
        let slug ← buildUniqueSlug langId baseSlug time baseSlug 2
        creationQuery (.commitBook
          { bookId := bookId
            publisherId := publisher.id
            pageCount := body.pageCount
            coverImageUrl := body.coverImageUrl
            actorUserId := actorUserId
            translation :=
              { bookId := bookId
                languageId := langId
                title := body.title
                description := some body.description
                slug := slug.1
                seen := slug.2 }
            authors := authors
            spec := body.spec
            bookVariantItems := body.bookVariantItems })
      else
        raise .database

def createBookTranslation (time bookId : Nat) (body : CreateAdminBookTranslationRequestDto)
    (actorUserId : Nat) (ip : Option String) : CreationService TranslationRecord := do
  let language : Option LanguageRow ← creationQuery (.resolveLanguage body.lang)
  match language with
  | none => raise (.notFound CreationMessage.noActiveLanguageFound)
  | some language => do
      let book : Option NewBook ← creationQuery (.findBookById bookId)
      if book.all fun b => b.deletedAt.isSome then
        raise (.notFound AdminBookMessage.bookNotFound)
      else do
        let existed : Option TranslationRecord ←
          creationQuery (.findBookTranslationByBookIdAndLanguage bookId language.id)
        if existed.isSome then
          raise (.conflict CreationMessage.bookTranslationAlreadyExistsInThisLanguage)
        else do
          let baseSlug := baseSlugOf js body.title bookId
          let slug ← buildUniqueSlug language.id baseSlug time baseSlug 2
          creationQuery (.commitTranslation
            { translation :=
                { bookId := bookId
                  languageId := language.id
                  title := body.title
                  description := body.description
                  slug := slug.1
                  seen := slug.2 }
              actorUserId := actorUserId
              ip := ip })

end Services

/-! ### The server -/

inductive CreationRequest
  | createBook (body : CreateAdminBookRequestDto) (langId actorUserId : Nat)
  | createBookTranslation (bookId : Nat) (body : CreateAdminBookTranslationRequestDto)
      (actorUserId : Nat) (ip : Option String)
  deriving DecidableEq

inductive CreationAnswer
  | book (item : AdminBookItem)
  | translation (created : TranslationRecord)
  /-- A statement that was abandoned by its sender -/
  | none
  deriving DecidableEq

def CreationRequest.handler (js : JsText) (time : Nat) :
    CreationRequest → CreationService CreationAnswer
  | .createBook body langId actorUserId => do
      let item ← BookCreation.createBook js schema time body langId actorUserId
      ret (.book item)
  | .createBookTranslation bookId body actorUserId ip => do
      let created ← BookCreation.createBookTranslation js time bookId body actorUserId ip
      ret (.translation created)

/-- A request arrives, and its transaction will have time for some searches. -/
structure CreationEvent where
  request : CreationRequest
  time : Nat
  deriving DecidableEq

def creationServer (sql : SqlText) (js : JsText) :
    System CreationStmt CreationResponse CreationFailure CreationAnswer CreationDb
      CreationEvent where
  exec := creationExec sql js
  fault := .database
  idle := .none
  env := fun e db => some (db, some (e.request.handler js e.time))

end BookCreation

end BookStore
