import BookStore.AnyOrder
import BookStore.Async.Expiring
import BookStore.Cache.SharedKeys
import BookStore.Catalog.RowOrder
import BookStore.Maps

/-!
# Semantic search: the services

`SearchService.searchBooks` asks the vector index for as many books as a page has, and looks
them up one page at a time.

* `SearchDb` are the catalog and the vector index; `VectorIndex` is what the index promises.
* `searchServer` runs searches in any order, while books and the index change and other services
  use the cache.
-/

namespace BookStore
namespace Search

open Async Program

/-! ### The catalog and the index -/

/-- A match of the index, as far as it is read -/
structure IndexMatch where
  id : String
  score : Option ℚ
  /-- `metadata?.bookId` -/
  bookId : Option String
  deriving DecidableEq

/-- `match.metadata?.bookId ?? match.id` -/
def IndexMatch.book (m : IndexMatch) : String :=
  m.bookId.getD m.id

/-- The index: it finds at most `topK` of the records that were upserted. -/
structure VectorIndex where
  query : List ℚ → Nat → Except Unit (List IndexMatch)
  length_le : ∀ vector topK matched, query vector topK = .ok matched → matched.length ≤ topK
  /-- `PineconeMapper.toMetadata` writes `row.id.toString()`. -/
  ids : ∀ vector topK matched, query vector topK = .ok matched →
    ∃ ids : List Nat, matched.map IndexMatch.book = ids.map fun id => toString id

structure SearchDb where
  catalog : CatalogDb
  keys : CatalogKeys catalog
  index : VectorIndex

/-- What is given: the embedder, the numbers of the language, and the order of rows -/
structure SearchServices where
  embedText : String → Except Unit (List ℚ)
  /-- `Number` of the text of an id; `none` is no id. -/
  number : String → Option Int
  number_toString : ∀ n : Nat, number (toString n) = some (n : Int)
  /-- The order of the rows of `findBooksByIds` -/
  byIds : Arrangement Book

inductive SearchQuery
  | embedText (text : String)
  | queryIndex (vector : List ℚ) (topK : Nat)
  | countBooksForList (languageId : Nat)
  | findBooksByIds (bookIds : List (Option Int)) (languageId page limit : Nat)
  deriving DecidableEq

abbrev SearchAnswerOf : SearchQuery → Type
  | .embedText _ => Except Unit (List ℚ)
  | .queryIndex _ _ => Except Unit (List IndexMatch)
  | .countBooksForList _ => Nat
  -- a list with something that is no number is refused
  | .findBooksByIds _ _ _ _ => Option (List BookRow)

/-- The books that `findBooksByIds` selects -/
def booksIn (db : CatalogDb) (bookIds : List (Option Int)) : List Book :=
  db.books.filter fun b => bookIds.contains (some (b.id : Int)) && db.visible b

def answer (services : SearchServices) : (q : SearchQuery) → SearchDb → SearchAnswerOf q
  | .embedText text, _ => services.embedText text
  | .queryIndex vector topK, db => db.index.query vector topK
  | .countBooksForList languageId, db => db.catalog.countBooksForList languageId none
  | .findBooksByIds bookIds languageId page limit, db =>
      if bookIds = [] then some []
      else if bookIds.contains none then none
      else some ((pageOf page limit (services.byIds.rows (booksIn db.catalog bookIds))).map
        (db.catalog.idRow languageId))

/-! ### `SearchService` -/

inductive SearchFailure
  | badRequest (message : String)
  | internalServerError (message : String)
  /-- What the embedder throws -/
  | embedding
  | database
  deriving DecidableEq

/-- The answer of `searchBooks`, and what the cache has -/
inductive SearchValue
  /-- `[]` -/
  | none
  | page (response : CatalogBookListResponseDto)
  /-- What other services keep -/
  | other (json : String)
  deriving DecidableEq

abbrev SearchStmt : Type :=
  ExpiringStmt String SearchValue SearchQuery

abbrev SearchResponse : SearchStmt → Type :=
  ExpiringResponse SearchAnswerOf

abbrev SearchProgram : Type → Type :=
  Program SearchStmt SearchResponse SearchFailure

namespace SearchMessage

def qRequired : String := "Từ khóa tìm kiếm là bắt buộc"

end SearchMessage

namespace PineconeMessage

def queryRequired : String := "Từ khóa tìm kiếm là bắt buộc"
def groqEmbeddingReturnedEmptyVector : String := "Groq trả về vector rỗng"
def queryBooksFailed : String := "Truy vấn sách từ Pinecone thất bại"

end PineconeMessage

structure SearchBooksQueryDto where
  q : Option String
  page : Option Int
  limit : Option Int
  deriving DecidableEq

structure QueryBookVariantResult where
  bookId : String
  score : ℚ
  deriving DecidableEq

def query (q : SearchQuery) : SearchProgram (SearchAnswerOf q) :=
  await (ExpiringStmt.query q)

/-- `PineconeService.queryBooks` -/
def queryBooks (text : Option String) (topK : Int) :
    SearchProgram (List QueryBookVariantResult) :=
  match trimmed text with
  | none => raise (.badRequest PineconeMessage.queryRequired)
  | some text =>
      (query (.embedText text)).bind fun vector =>
        match vector with
        | .error _ => raise .embedding
        | .ok [] => raise (.internalServerError PineconeMessage.groqEmbeddingReturnedEmptyVector)
        | .ok (x :: xs) =>
            (query (.queryIndex (x :: xs) (positiveOr 10 (some topK)))).bind fun matched =>
              match matched with
              | .error _ => raise (.internalServerError PineconeMessage.queryBooksFailed)
              | .ok matched => ret (matched.map fun m =>
                  { bookId := m.book, score := m.score.getD 0 })

/-- `buildPaginatedResult`, as an object -/
def paginated (items : List CatalogBookCardDto) (total page limit : Nat) :
    CatalogBookListResponseDto where
  page := page
  limit := limit
  total := total
  totalPages := if 0 < total then (total + limit - 1) / limit else 0
  items := items

/-- `CatalogService.queryListBook` -/
def queryListBook (page limit : Int) (ids : List (Option Int)) (langId : Nat) :
    SearchProgram CatalogBookListResponseDto :=
  let page := positiveOr 1 (some page)
  let limit := positiveOr 20 (some limit)
  (alongside (ExpiringStmt.query (.countBooksForList langId))
    (query (.findBooksByIds ids langId page limit))).bind fun r =>
      match r.2 with
      | none => raise .database
      | some rows => ret (paginated (rows.map toCatalogListBookCard) r.1 page limit)

/-- `rankByBookId.get(id) ?? Number.MAX_SAFE_INTEGER` -/
def rankOf (orderedBookIds : List (Option Int)) (id : Nat) : Nat :=
  (JsMap.get (JsMap.ofEntries orderedBookIds.zipIdx) (some (id : Int))).getD 9007199254740991

/-- The computation of `searchBooks` that follows the look into the cache -/
def searchedBooks (number : String → Option Int) (q : String) (page limit : Int)
    (langId : Nat) : SearchProgram SearchValue :=
  (queryBooks (some q) limit).bind fun matched =>
    if matched = [] then ret .none
    else
      let orderedBookIds := (JsMap.newSet (matched.map QueryBookVariantResult.bookId)).map number
      (queryListBook page limit orderedBookIds langId).bind fun cartBooks =>
        ret (.page { cartBooks with
          items := orderBy (fun a b =>
            decide (rankOf orderedBookIds a.id < rankOf orderedBookIds b.id)) cartBooks.items })

/-- `SearchService.searchBooks` -/
def searchBooks (number : String → Option Int) (params : SearchBooksQueryDto) (langId : Nat) :
    SearchProgram SearchValue :=
  match trimmed params.q with
  | none => raise (.badRequest SearchMessage.qRequired)
  | some q =>
      let page := params.page.getD 1
      let limit := params.limit.getD 10
      -- an object is truthy, and so is an array
      readThrough (fun _ => true) (SharedKey.semantic q langId page limit).text
        (searchedBooks number q page limit langId)

/-! ### The server -/

inductive SearchAnswer
  /-- The answer to a search; when it arrived is bookkeeping. -/
  | found (arrivedAt : Nat) (params : SearchBooksQueryDto) (langId : Nat) (value : SearchValue)
  /-- A statement that was abandoned by its sender. -/
  | none
  deriving DecidableEq

/-- A step of the environment. -/
inductive SearchEvent
  | arrive (params : SearchBooksQueryDto) (langId : Nat)
  /-- Books are edited, or the index is. -/
  | edit (f : SearchDb → SearchDb)
  | tick (ms : Nat)
  | drop (key : String)
  /-- Another service keeps a value: none of them has a key of a search. -/
  | setOther (key : SharedKey) (json : String) (ttl : Option Nat)

/-- `cacheKey.search.semantic` -/
def isSemantic : SharedKey → Bool
  | .semantic _ _ _ _ => true
  | _ => false

abbrev SearchWorld : Type :=
  ExpiringWorld String SearchValue SearchDb

/-- The running server. -/
def searchServer (services : SearchServices) :
    System SearchStmt SearchResponse SearchFailure SearchAnswer SearchWorld SearchEvent where
  exec := expiringExec (answer services)
  fault := .database
  idle := .none
  env := fun e w =>
    match e with
    | .arrive params langId =>
        some (w, some ((searchBooks services.number params langId).bind fun value =>
          ret (.found w.now params langId value)))
    | .edit f => some ({ w with db := f w.db }, none)
    | .tick ms => some ({ w with now := w.now + ms }, none)
    | .drop key => some ({ w with entries := Function.update w.entries key none }, none)
    | .setOther key json ttl =>
        if isSemantic key then none
        else some ({ w with
          entries := Function.update w.entries key.text
            (some ⟨.other json, w.now, ttl, w.now⟩) }, none)

/-- The server's state: the catalog, the index, the cache and the handlers under way. -/
abbrev SearchState :=
  Config SearchStmt SearchResponse SearchFailure SearchAnswer SearchWorld

end Search
end BookStore
