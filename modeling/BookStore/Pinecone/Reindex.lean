import BookStore.Catalog.BookCreation
import BookStore.Loops

/-!
# Reindexing the books

`PineconeService.fullReindexBooks` cuts the active books into batches, asks for their
embeddings and upserts one record for each book with an embedding and a price.

`reindexesOnce_iff`: every book is visited exactly once and the call returns unless the
embedder or the index refuses a batch, except if the size of the batches is a fraction below 1,
which is rounded down to 0.
-/

namespace BookStore
namespace Pinecone

/-- A number of the language -/
inductive JsNumber
  | nan
  | posInfinity
  | negInfinity
  | finite (x : ℚ)
  deriving DecidableEq

/-! ### Rows, texts and records -/

structure SourceTranslation where
  title : String
  description : Option String
  languageCode : String
  deriving DecidableEq

structure SourceVariant where
  /-- `Number(price)` -/
  price : JsNumber
  currencyCode : String
  deriving DecidableEq

structure SourceCategory where
  id : Nat
  names : List String
  deriving DecidableEq

/-- A row of `findActiveBookFirstVariant`; of its variants only the first is read. -/
structure SourceRow where
  id : Nat
  translations : List SourceTranslation
  firstVariant : SourceVariant
  categories : List SourceCategory
  deriving DecidableEq

/-- `Array.from(new Set(items))` -/
def setOf (items : List String) : List String :=
  items.foldl (fun set item => if item ∈ set then set else set ++ [item]) []

/-- The texts that are not empty after `trim`. -/
def trimmedTexts (items : List String) : List String :=
  (items.map trim).filter fun item => decide (item ≠ "")

structure EmbeddingSource where
  titles : List String
  descriptions : List String
  publisherName : Option String
  categoryNames : List String
  deriving DecidableEq

/-- `PineconeMapper.toEmbeddingSource`; it names no publisher. -/
def toEmbeddingSource (row : SourceRow) : EmbeddingSource where
  titles := setOf (trimmedTexts (row.translations.map (·.title)))
  descriptions := setOf (trimmedTexts (row.translations.filterMap (·.description)))
  publisherName := none
  categoryNames := setOf (trimmedTexts (row.categories.flatMap (·.names)))

def uniqueNonEmpty (items : List String) : List String :=
  setOf (trimmedTexts items)

/-- A line that is left out without items. -/
def textLine (label separator : String) (items : List String) : String :=
  if items = [] then "" else label ++ separator.intercalate items

def buildBookVariantEmbeddingText (source : EmbeddingSource) : String :=
  "\n".intercalate
    ([textLine "Titles: " " | " (uniqueNonEmpty source.titles),
      textLine "Descriptions: " " | " (uniqueNonEmpty source.descriptions),
      textLine "Publisher: " "" (source.publisherName.toList.filter fun p => decide (p ≠ "")),
      textLine "Categories: " ", " (uniqueNonEmpty source.categoryNames)].filter
        fun line => decide (line ≠ ""))

structure BookVariantPineconeMetadata where
  bookId : String
  variantId : String
  price : ℚ
  categoryIds : List String
  langHints : List String
  title : String
  currencyCode : Option String
  deriving DecidableEq

/-- `PineconeMapper.toMetadata` -/
def toMetadata (js : JsText) (row : SourceRow) (numericPrice : ℚ) :
    BookVariantPineconeMetadata where
  bookId := toString row.id
  variantId := toString row.id
  price := numericPrice
  categoryIds := setOf (row.categories.map fun c => toString c.id)
  langHints :=
    setOf ((row.translations.map fun t => js.toLowerCase (trim t.languageCode)).filter
      fun code => decide (code ≠ ""))
  title :=
    ((row.translations.find? fun t => decide (trim t.title ≠ "")).map (·.title)).getD
      ("Book " ++ toString row.id)
  currencyCode :=
    if row.firstVariant.currencyCode = "" then none else some row.firstVariant.currencyCode

structure PineconeRecord where
  id : String
  values : List ℚ
  metadata : BookVariantPineconeMetadata
  deriving DecidableEq

/-- The record of a row, unless its vector is missing or its price is no number. -/
def recordOf (js : JsText) (row : SourceRow) (values : Option (List ℚ)) :
    Option PineconeRecord :=
  match values, row.firstVariant.price with
  | some (x :: xs), .finite numericPrice =>
      some ⟨toString row.id, x :: xs, toMetadata js row numericPrice⟩
  | _, _ => none

/-- The records of a chunk and how many of its rows are skipped. -/
def collectRecords (js : JsText) :
    List SourceRow → List (List ℚ) → List PineconeRecord × Nat
  | [], _ => ([], 0)
  | row :: chunk, embeddings =>
      let rest := collectRecords js chunk embeddings.tail
      match recordOf js row embeddings.head? with
      | some record => (record :: rest.1, rest.2)
      | none => (rest.1, rest.2 + 1)

/-! ### `PineconeService` -/

namespace PineconeMessage

def reindexBooksFailed : String := "Đồng bộ lại sách lên Pinecone thất bại"

end PineconeMessage

inductive PineconeFailure
  | internalServerError (message : String)
  deriving DecidableEq

def defaultBatchSize : Nat := 200

def normalizeBatchSize : JsNumber → Nat
  | .finite batchSize => if 0 < batchSize then ⌊batchSize⌋.toNat else defaultBatchSize
  | _ => defaultBatchSize

/-- What the other services answer to their first, second, … call. -/
structure ReindexCalls where
  getEmbedding : Nat → List String → Except Unit (List (List ℚ))
  upsert : Nat → List PineconeRecord → Except Unit Unit

structure ReindexState where
  i : Nat
  indexed : Nat
  skipped : Nat
  /-- The chunks whose texts were handed to the embedder (bookkeeping). -/
  handed : List (List SourceRow)
  /-- The records of each upsert (bookkeeping). -/
  upserted : List (List PineconeRecord)

def ReindexState.start : ReindexState :=
  ⟨0, 0, 0, [], []⟩

structure ReindexResult where
  namespaceName : String
  totalSource : Nat
  indexed : Nat
  skipped : Nat
  deriving DecidableEq

/-- The texts of a chunk -/
def embeddingTexts (chunk : List SourceRow) : List String :=
  chunk.map fun row => buildBookVariantEmbeddingText (toEmbeddingSource row)

section Service

variable (js : JsText) (calls : ReindexCalls) (safeBatchSize : Nat) (rows : List SourceRow)

/-- One chunk, or the end of the loop; `error` is an exception. -/
def reindexChunk (s : ReindexState) : ReindexState ⊕ Except ReindexState ReindexState :=
  if s.i < rows.length then
    let chunk := (rows.drop s.i).take safeBatchSize
    let s := { s with handed := s.handed ++ [chunk] }
    match calls.getEmbedding s.handed.length (embeddingTexts chunk) with
    | .error _ => .inr (.error s)
    | .ok embeddings =>
        let (records, missed) := collectRecords js chunk embeddings
        let s := { s with skipped := s.skipped + missed }
        if records = [] then
          .inl { s with i := s.i + safeBatchSize }
        else
          match calls.upsert (s.upserted.length + 1) records with
          | .error _ => .inr (.error s)
          | .ok _ =>
              .inl { s with
                i := s.i + safeBatchSize
                indexed := s.indexed + records.length
                upserted := s.upserted ++ [records] }
  else
    .inr (.ok s)

/-- What is returned or thrown after the loop. -/
def reindexEnd : Except ReindexState ReindexState →
    ReindexState × Except PineconeFailure ReindexResult
  | .ok s => (s, .ok ⟨"book-store", rows.length, s.indexed, s.skipped⟩)
  | .error s => (s, .error (.internalServerError PineconeMessage.reindexBooksFailed))

/-- `fullReindexBooks`, cut off after `fuel` chunks -/
def fullReindexBooks (batchSize : JsNumber) (fuel : Nat) :
    Option (ReindexState × Except PineconeFailure ReindexResult) :=
  (loop (reindexChunk js calls (normalizeBatchSize batchSize) rows) fuel .start).map
    (reindexEnd rows)

end Service

/-! ### One chunk -/

theorem length_collectRecords
    (js : JsText) (chunk : List SourceRow) (embeddings : List (List ℚ)) :
    (collectRecords js chunk embeddings).1.length + (collectRecords js chunk embeddings).2 =
      chunk.length := by
  induction chunk generalizing embeddings with
  | nil =>
      rfl
  | cons row chunk ih =>
      have hrest := ih embeddings.tail
      simp only [collectRecords, List.length_cons]
      cases recordOf js row embeddings.head? with
      | some record =>
          simp only [List.length_cons]
          omega
      | none =>
          dsimp only
          omega

/-- The rows of the chunk that starts at `i` -/
def chunkAt (safeBatchSize : Nat) (rows : List SourceRow) (i : Nat) : List SourceRow :=
  (rows.drop i).take safeBatchSize

section Chunk

variable {js : JsText} {calls : ReindexCalls} {safeBatchSize : Nat} {rows : List SourceRow}
variable {s s' : ReindexState} {x : Except ReindexState ReindexState}

/-- What a chunk does that the loop goes on after. -/
structure GoesOn (safeBatchSize : Nat) (rows : List SourceRow) (s s' : ReindexState) :
    Prop where
  before : s.i < rows.length
  next : s'.i = s.i + safeBatchSize
  handed : s'.handed = s.handed ++ [chunkAt safeBatchSize rows s.i]
  counts : ∃ (records : List PineconeRecord) (missed : Nat),
    records.length + missed = (chunkAt safeBatchSize rows s.i).length ∧
      s'.indexed = s.indexed + records.length ∧ s'.skipped = s.skipped + missed ∧
      s'.upserted.flatten = s.upserted.flatten ++ records

theorem reindexChunk_inl (h : reindexChunk js calls safeBatchSize rows s = .inl s') :
    GoesOn safeBatchSize rows s s' := by
  unfold reindexChunk at h
  split at h
  · rename_i hbefore
    dsimp only at h
    split at h
    · cases h
    · rename_i embeddings _
      have hlength := length_collectRecords js (chunkAt safeBatchSize rows s.i) embeddings
      split at h
      · rename_i hnone
        cases h
        exact ⟨hbefore, rfl, rfl, [], _, by rw [← hlength, chunkAt, hnone], rfl, rfl,
          (List.append_nil _).symm⟩
      · split at h <;> cases h
        exact ⟨hbefore, rfl, rfl, _, _, hlength, rfl, rfl, by simp [chunkAt]⟩
  · cases h

/-- The embedder refuses the texts of the last batch handed over, or the index refuses its
records. -/
inductive Refused (js : JsText) (calls : ReindexCalls) (s : ReindexState)
    (batch : List SourceRow) : Prop
  | texts
      (h : calls.getEmbedding s.handed.length (embeddingTexts batch) = .error ())
  | records (embeddings : List (List ℚ))
      (h : calls.getEmbedding s.handed.length (embeddingTexts batch) = .ok embeddings)
      (hrecords : (collectRecords js batch embeddings).1 ≠ [])
      (hupsert : calls.upsert (s.upserted.length + 1) (collectRecords js batch embeddings).1 =
        .error ())

/-- The loop ends after the last row, or because a service has refused the chunk. -/
theorem reindexChunk_inr (h : reindexChunk js calls safeBatchSize rows s = .inr x) :
    rows.length ≤ s.i ∧ x = .ok s ∨
      s.i < rows.length ∧ ∃ s', x = .error s' ∧
        s'.handed = s.handed ++ [chunkAt safeBatchSize rows s.i] ∧
        Refused js calls s' (chunkAt safeBatchSize rows s.i) := by
  unfold reindexChunk at h
  split at h
  · rename_i hbefore
    refine .inr ⟨hbefore, ?_⟩
    dsimp only at h
    split at h
    · rename_i hembedding
      cases h
      exact ⟨_, rfl, rfl, .texts hembedding⟩
    · rename_i embeddings hembedding
      split at h
      · cases h
      · rename_i hrecords
        split at h
        · rename_i hupsert
          cases h
          exact ⟨_, rfl, rfl, .records embeddings hembedding hrecords hupsert⟩
        · cases h
  · rename_i hafter
    cases h
    exact .inl ⟨not_lt.mp hafter, rfl⟩

theorem chunkAt_ne_nil (hsize : 0 < safeBatchSize) {i : Nat} (hi : i < rows.length) :
    chunkAt safeBatchSize rows i ≠ [] := by
  rw [← List.length_pos_iff, chunkAt, List.length_take, List.length_drop]
  omega

/-! ### The loop -/

/-- The rows before `i` have been handed over and counted. -/
structure Visiting (rows : List SourceRow) (s : ReindexState) : Prop where
  handed : s.handed.flatten = rows.take s.i
  counted : s.indexed + s.skipped = (rows.take s.i).length
  upserted : s.indexed = s.upserted.flatten.length

theorem visiting_start : Visiting rows .start :=
  ⟨rfl, rfl, rfl⟩

theorem flatten_handed
    (hs : Visiting rows s)
    (hhanded : s'.handed = s.handed ++ [chunkAt safeBatchSize rows s.i]) :
    s'.handed.flatten = rows.take (s.i + safeBatchSize) := by
  rw [hhanded, List.flatten_concat, hs.handed, chunkAt, ← List.take_add]

/-- **One chunk** -/
theorem Visiting.goesOn (hs : Visiting rows s) (h : GoesOn safeBatchSize rows s s') :
    Visiting rows s' := by
  obtain ⟨records, missed, hlength, hindexed, hskipped, hupserted⟩ := h.counts
  refine ⟨h.next ▸ flatten_handed hs h.handed, ?_, ?_⟩
  · have hcounted := hs.counted
    rw [h.next, List.take_add, List.length_append, hindexed, hskipped]
    unfold chunkAt at hlength
    omega
  · rw [hindexed, hupserted, List.length_append, ← hs.upserted]

/-- What is expected of a reindexing that ends: every row in one batch and in order, unless a
service refuses a batch, and the numbers returned add up. -/
structure VisitsOnce (js : JsText) (calls : ReindexCalls) (rows : List SourceRow)
    (s : ReindexState) (x : Except PineconeFailure ReindexResult) : Prop where
  inOrder : s.handed.flatten <+: rows
  refused : ∀ e, x = .error e →
    ∃ batch, s.handed.getLast? = some batch ∧ batch ≠ [] ∧ Refused js calls s batch
  all : ∀ r, x = .ok r → s.handed.flatten = rows ∧ r.totalSource = rows.length ∧
    r.indexed + r.skipped = r.totalSource ∧ r.indexed = s.upserted.flatten.length

/-- The reindexing ends, and does what is expected of it. -/
def ReindexesOnce (js : JsText) (calls : ReindexCalls) (rows : List SourceRow)
    (batchSize : JsNumber) : Prop :=
  ∃ fuel s x, fullReindexBooks js calls rows batchSize fuel = some (s, x) ∧
    VisitsOnce js calls rows s x

/-- Every batch has a row, so the loop comes to its end. -/
theorem reindex_ends (hsize : 0 < safeBatchSize) :
    ∃ x, LoopEnds (reindexChunk js calls safeBatchSize rows) .start x ∧
      VisitsOnce js calls rows (reindexEnd rows x).1 (reindexEnd rows x).2 := by
  have hround : ∀ s s', True → reindexChunk js calls safeBatchSize rows s = .inl s' →
      True ∧ rows.length - s'.i < rows.length - s.i := by
    intro s s' _ h
    have hgoes := reindexChunk_inl h
    have := hgoes.before
    have := hgoes.next
    exact ⟨trivial, by omega⟩
  obtain ⟨x, hx⟩ : ∃ x, LoopEnds (reindexChunk js calls safeBatchSize rows) .start x :=
    loopEnds_of_measure (fun s => rows.length - s.i) hround trivial
  refine ⟨x, hx, hx.invariant (I := Visiting rows)
    (Q := fun x => VisitsOnce js calls rows (reindexEnd rows x).1 (reindexEnd rows x).2)
    (fun s s' hs h => hs.goesOn (reindexChunk_inl h)) (fun s x hs h => ?_) visiting_start⟩
  rcases reindexChunk_inr h with ⟨hafter, rfl⟩ | ⟨hbefore, s', rfl, hhanded, hrefused⟩
  · have htake : rows.take s.i = rows := List.take_of_length_le hafter
    have hflatten := hs.handed
    have hcounted := hs.counted
    rw [htake] at hflatten hcounted
    refine ⟨hflatten ▸ List.prefix_refl _, fun e he => (by cases he), fun r hr => ?_⟩
    cases hr
    exact ⟨hflatten, rfl, hcounted, hs.upserted⟩
  · refine ⟨?_, fun e _ => ⟨chunkAt safeBatchSize rows s.i, ?_, chunkAt_ne_nil hsize hbefore,
      hrefused⟩, fun r hr => (by cases hr)⟩
    · exact flatten_handed hs hhanded ▸ List.take_prefix _ _
    · exact hhanded ▸ List.getLast?_concat

/-- Without progress nothing is handed over: the loop ends by a refusal of nothing, if ever. -/
theorem reindex_stuck (hrows : rows ≠ []) (hsize : safeBatchSize = 0)
    (h : LoopEnds (reindexChunk js calls safeBatchSize rows) .start x) :
    ¬ VisitsOnce js calls rows (reindexEnd rows x).1 (reindexEnd rows x).2 := by
  subst hsize
  refine h.invariant (I := fun s => s.i = 0)
    (Q := fun x => ¬ VisitsOnce js calls rows (reindexEnd rows x).1 (reindexEnd rows x).2)
    (fun s s' hs h => ?_) (fun s x hs h hvisits => ?_) rfl
  · rw [(reindexChunk_inl h).next, hs]
  · rcases reindexChunk_inr h with ⟨hafter, -⟩ | ⟨-, s', rfl, hhanded, -⟩
    · have := List.length_pos_iff.mpr hrows
      omega
    · obtain ⟨batch, hlast, hne, -⟩ := hvisits.refused _ rfl
      change s'.handed.getLast? = some batch at hlast
      rw [hhanded, List.getLast?_concat, Option.some.injEq] at hlast
      exact hne (hlast ▸ List.take_zero)

end Chunk

/-- A fraction below 1 -/
def JsNumber.BelowOne : JsNumber → Prop
  | .finite x => 0 < x ∧ x < 1
  | _ => False

theorem normalizeBatchSize_eq_zero {batchSize : JsNumber} :
    normalizeBatchSize batchSize = 0 ↔ batchSize.BelowOne := by
  cases batchSize with
  | finite x =>
      simp only [normalizeBatchSize, JsNumber.BelowOne, defaultBatchSize]
      split_ifs with hx
      · have hfloor : ⌊x⌋.toNat = 0 ↔ ⌊x⌋ < 1 := by omega
        rw [hfloor, Int.floor_lt, Int.cast_one, and_iff_right hx]
      · exact iff_of_false (by decide) fun h => hx h.1
  | _ =>
      exact iff_of_false (by decide) id

/--
A reindexing ends and visits every book once exactly if there is no book or the size of the
batches is not a fraction below 1.
-/
theorem reindexesOnce_iff
    (js : JsText) (calls : ReindexCalls) (rows : List SourceRow) (batchSize : JsNumber) :
    ReindexesOnce js calls rows batchSize ↔ rows = [] ∨ ¬ batchSize.BelowOne := by
  rw [← normalizeBatchSize_eq_zero]
  constructor
  · rintro ⟨fuel, s, x, hrun, hvisits⟩
    obtain ⟨e, he, hend⟩ := Option.map_eq_some_iff.mp hrun
    by_contra hcond
    obtain ⟨hrows, hsize⟩ := not_or.mp hcond
    refine reindex_stuck hrows (not_not.mp hsize) ⟨fuel, he⟩ ?_
    rwa [hend]
  · intro hcond
    suffices h : ∃ x, LoopEnds (reindexChunk js calls (normalizeBatchSize batchSize) rows)
        .start x ∧ VisitsOnce js calls rows (reindexEnd rows x).1 (reindexEnd rows x).2 by
      obtain ⟨x, ⟨fuel, hrun⟩, hvisits⟩ := h
      exact ⟨fuel, _, _, by rw [fullReindexBooks, hrun]; rfl, hvisits⟩
    rcases hcond with rfl | hsize
    · exact ⟨.ok .start, .done rfl, List.prefix_refl _, fun e he => (by cases he),
        fun r hr => by cases hr; exact ⟨rfl, rfl, rfl, rfl⟩⟩
    · exact reindex_ends (Nat.pos_of_ne_zero hsize)

/-- One book, and services that answer -/
def sampleRows : List SourceRow :=
  [⟨1, [⟨"Lean", none, "en"⟩], ⟨.finite 10, "VND"⟩, []⟩]

def sampleCalls : ReindexCalls :=
  ⟨fun _ texts => .ok (texts.map fun _ => [1]), fun _ _ => .ok ()⟩

/-- Batches of half a book -/
theorem halfBatches_fail :
    ¬ ReindexesOnce ⟨id, id⟩ sampleCalls sampleRows (.finite (1 / 2)) := by
  rintro ⟨fuel, s, x, hrun, hvisits⟩
  obtain ⟨e, he, hend⟩ := Option.map_eq_some_iff.mp hrun
  have hsize : normalizeBatchSize (.finite (1 / 2)) = 0 := by
    decide +kernel
  refine reindex_stuck (by decide) hsize ⟨fuel, he⟩ ?_
  rwa [hend]

end Pinecone
end BookStore
