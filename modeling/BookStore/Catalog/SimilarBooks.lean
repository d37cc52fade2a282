import BookStore.AnyOrder
import BookStore.Catalog.RowOrder
import BookStore.Jaccard
import BookStore.Traversals

/-!
# Similar books

`getBookDetailBySlug` recommends the books that share most categories with the book.

* `similarity`: the Jaccard similarity of the category sets of two books.
* `MostSimilar`: which books should be recommended.
* `getBookDetailBySlug_mostSimilar`: their cards are, in every order in which rows come.
-/

namespace BookStore

open Async Program

namespace CatalogDb

variable (db : CatalogDb)

def categorySet (b : Book) : Finset Nat :=
  (db.categoryIdsOf b.id).toFinset

def similarity (b b' : Book) : ℚ :=
  jaccard (db.categorySet b) (db.categorySet b')

/-- The other visible books that share a category -/
def similarBooks (b : Book) : List Book :=
  db.books.filter fun b' => decide (b'.id ≠ b.id) && db.visible b' &&
    decide (db.categorySet b ∩ db.categorySet b').Nonempty

/-- The card of a book that is recommended -/
def similarCard (langId : Nat) (b : Book) : CatalogBookCardDto :=
  toCatalogBookCard (db.idRow langId b)

end CatalogDb

/-- Four of the similar books, or all of them: the most similar ones, in this order -/
structure MostSimilar (db : CatalogDb) (b : Book) (books : List Book) : Prop where
  length : books.length = min 4 (db.similarBooks b).length
  distinct : (books.map Book.id).Nodup
  similar : ∀ b', b' ∈ books → b' ∈ db.similarBooks b
  sorted : books.Pairwise fun b₁ b₂ => db.similarity b b₂ ≤ db.similarity b b₁
  bounds : ∀ b', b' ∈ books → 0 < db.similarity b b' ∧ db.similarity b b' ≤ 1
  /-- No similarity that is computed is divided by zero. -/
  defined : ∀ b', b' ∈ db.similarBooks b → (db.categorySet b ∪ db.categorySet b').card ≠ 0
  best : ∀ b₁ b₂, b₁ ∈ books → b₂ ∈ db.books → b₂.id ≠ b.id → db.visible b₂ = true →
    b₂ ∉ books → db.similarity b b₂ ≤ db.similarity b b₁

variable {db : CatalogDb} {o : RowOrder} {sql : SqlText}

/-! ### Categories and scores -/

theorem mem_categorySet {b : Book} {c : Nat} :
    c ∈ db.categorySet b ↔ (b.id, c) ∈ db.bookCategories := by
  simp only [CatalogDb.categorySet, CatalogDb.categoryIdsOf, List.mem_toFinset, List.mem_map,
    List.mem_filter, decide_eq_true_eq]
  constructor
  · rintro ⟨bc, ⟨hbc, hid⟩, rfl⟩
    rwa [← hid]
  · exact fun h => ⟨_, ⟨h, rfl⟩, rfl⟩

/-- The categories that are read with a book are all its categories. -/
theorem toFinset_categoriesOf (hdb : CatalogKeys db) (b : Book) (langId : Nat) :
    ((db.categoriesOf b langId).map CategoryRow.id).toFinset = db.categorySet b := by
  ext c
  rw [mem_categorySet]
  simp only [CatalogDb.categoriesOf, List.mem_toFinset, List.mem_map, List.mem_flatMap,
    List.mem_filter, decide_eq_true_eq]
  constructor
  · rintro ⟨row, ⟨bc, ⟨hbc, hid⟩, category, ⟨-, hcategory⟩, rfl⟩, rfl⟩
    rw [← hid]
    exact hcategory ▸ hbc
  · intro h
    obtain ⟨category, hcategory, hid⟩ := List.mem_map.mp (hdb.categories _ h)
    exact ⟨_, ⟨(b.id, c), ⟨h, rfl⟩, category, ⟨hcategory, hid⟩, rfl⟩, hid⟩

theorem calculateJaccard_eq_similarity
    {b b' : Book} {ids : List Nat} (hids : ids.toFinset = db.categorySet b) :
    calculateJaccard ids (db.categoryIdsOf b'.id) = db.similarity b b' := by
  rw [CatalogDb.similarity, ← hids]
  exact jaccard_toFinset ids (db.categoryIdsOf b'.id)

theorem alikeBooks_eq_similarBooks
    {b : Book} {ids : List Nat} (hids : ids.toFinset = db.categorySet b) :
    db.alikeBooks b.id ids = db.similarBooks b := by
  refine List.filter_congr fun b' _ => ?_
  rw [Bool.eq_iff_iff]
  simp only [Bool.and_eq_true, decide_eq_true_eq, List.any_eq_true]
  refine and_congr_right fun _ => ⟨?_, ?_⟩
  · rintro ⟨bc, hbc, hid, hmem⟩
    refine ⟨bc.2, Finset.mem_inter.mpr ⟨?_, mem_categorySet.mpr (hid ▸ hbc)⟩⟩
    rw [← hids]
    exact List.mem_toFinset.mpr hmem
  · rintro ⟨c, hc⟩
    obtain ⟨hmem, hmem'⟩ := Finset.mem_inter.mp hc
    rw [← hids, List.mem_toFinset] at hmem
    exact ⟨(b'.id, c), mem_categorySet.mp hmem', rfl, hmem⟩

theorem mem_similarBooks {b b' : Book} :
    b' ∈ db.similarBooks b ↔
      b' ∈ db.books ∧ b'.id ≠ b.id ∧ db.visible b' = true ∧ 0 < db.similarity b b' := by
  simp only [CatalogDb.similarBooks, List.mem_filter, Bool.and_eq_true, decide_eq_true_eq,
    CatalogDb.similarity, jaccard_pos_iff, and_assoc]

/-! ### The four best -/

variable (db o) in
/-- The books that are recommended, in their order -/
def topSimilar (b : Book) : List Book :=
  (orderBy (fun b₁ b₂ => decide (db.similarity b b₂ < db.similarity b b₁))
    (o.alike (db.similarBooks b))).take 4

section Top

variable {b : Book}

theorem perm_similar :
    (orderBy (fun b₁ b₂ => decide (db.similarity b b₂ < db.similarity b b₁))
      (o.alike (db.similarBooks b))).Perm (db.similarBooks b) :=
  (List.perm_insertionSort _ _).trans (o.alike_perm _)

theorem topSimilar_subset {b' : Book} (h : b' ∈ topSimilar db o b) : b' ∈ db.similarBooks b :=
  perm_similar.mem_iff.mp (List.mem_of_mem_take h)

theorem length_topSimilar :
    (topSimilar db o b).length = min 4 (db.similarBooks b).length := by
  rw [topSimilar, List.length_take, perm_similar.length_eq]

theorem nodup_topSimilar (hdb : CatalogKeys db) : ((topSimilar db o b).map Book.id).Nodup := by
  have hsimilar : ((db.similarBooks b).map Book.id).Nodup :=
    (List.filter_sublist.map _).nodup hdb.books
  exact ((List.take_sublist _ _).map _).nodup ((perm_similar.map _).nodup_iff.mpr hsimilar)

theorem pairwise_topSimilar :
    (topSimilar db o b).Pairwise fun b₁ b₂ => db.similarity b b₂ ≤ db.similarity b b₁ :=
  List.Pairwise.sublist (List.take_sublist _ _) (pairwise_orderBy_desc _ _)

theorem best_topSimilar
    {b₁ b₂ : Book} (h₁ : b₁ ∈ topSimilar db o b) (h₂ : b₂ ∈ db.similarBooks b)
    (hout : b₂ ∉ topSimilar db o b) :
    db.similarity b b₂ ≤ db.similarity b b₁ :=
  best_of_take (R := fun b₁ b₂ => db.similarity b b₂ ≤ db.similarity b b₁)
    (pairwise_orderBy_desc (db.similarity b) _) h₁ (perm_similar.mem_iff.mpr h₂) hout

theorem mostSimilar_topSimilar (hdb : CatalogKeys db) :
    MostSimilar db b (topSimilar db o b) where
  length := length_topSimilar
  distinct := nodup_topSimilar hdb
  similar := fun _ => topSimilar_subset
  sorted := pairwise_topSimilar
  bounds := fun _ h =>
    ⟨(mem_similarBooks.mp (topSimilar_subset h)).2.2.2, jaccard_le_one⟩
  defined := fun _ h =>
    (card_union_pos (jaccard_pos_iff.mp (mem_similarBooks.mp h).2.2.2)).ne'
  best := by
    intro b₁ b₂ h₁ hmem hne hvisible hout
    by_cases hpos : 0 < db.similarity b b₂
    · exact best_topSimilar h₁ (mem_similarBooks.mpr ⟨hmem, hne, hvisible, hpos⟩) hout
    · -- a book that shares no category
      exact (not_lt.mp hpos).trans (mem_similarBooks.mp (topSimilar_subset h₁)).2.2.2.le

/-! ### What the call computes -/

/-- The ids that are recommended are those of the books with the best scores. -/
theorem recommendIds_eq
    {ids : List Nat} (hids : ids.toFinset = db.categorySet b) :
    recommendIds ids (db.findBookAlikeCategoryIn o b.id ids) =
      (topSimilar db o b).map Book.id := by
  have hscored : (db.findBookAlikeCategoryIn o b.id ids).map
      (fun r => (r.1, calculateJaccard ids r.2)) =
        (o.alike (db.similarBooks b)).map fun b' => (b'.id, db.similarity b b') := by
    rw [CatalogDb.findBookAlikeCategoryIn, List.map_map, alikeBooks_eq_similarBooks hids]
    refine List.map_congr_left fun b' _ => ?_
    simp only [Function.comp_apply, calculateJaccard_eq_similarity hids]
  have hsort : orderBy (fun a b : Nat × ℚ => decide (b.2 < a.2))
      ((o.alike (db.similarBooks b)).map fun b' => (b'.id, db.similarity b b')) =
        (orderBy (fun b₁ b₂ => decide (db.similarity b b₂ < db.similarity b b₁))
          (o.alike (db.similarBooks b))).map fun b' => (b'.id, db.similarity b b') :=
    (List.map_insertionSort _ _ (fun b' : Book => (b'.id, db.similarity b b')) _
      fun _ _ _ _ => Iff.rfl).symm
  rw [recommendIds, hscored, hsort, ← List.map_take, List.map_map]
  rfl

/-- Every book that is recommended is found again, however the rows are ordered. -/
theorem pickCards_topSimilar (hdb : CatalogKeys db) (langId : Nat) :
    pickCards ((topSimilar db o b).map Book.id)
        (db.findBooksByIdsIn o ((topSimilar db o b).map Book.id) langId) =
      (topSimilar db o b).map (db.similarCard langId) := by
  have hvisible : ∀ id, id ∈ (topSimilar db o b).map Book.id →
      ∃ b', b' ∈ db.books ∧ db.visible b' = true ∧ b'.id = id := by
    intro id hid
    obtain ⟨b', hb', rfl⟩ := List.mem_map.mp hid
    obtain ⟨hmem, -, hvisible, -⟩ := mem_similarBooks.mp (topSimilar_subset hb')
    exact ⟨b', hmem, hvisible, rfl⟩
  have hperm := (o.byIds_perm (db.booksByIds ((topSimilar db o b).map Book.id))).map Book.id
    |>.trans (perm_booksByIds hdb (nodup_topSimilar hdb) hvisible)
  have hshort : (o.byIds (db.booksByIds ((topSimilar db o b).map Book.id))).length ≤ 20 := by
    have hlength := hperm.length_eq
    rw [List.length_map, List.length_map, length_topSimilar] at hlength
    omega
  have hrows : db.findBooksByIdsIn o ((topSimilar db o b).map Book.id) langId =
      (o.byIds (db.booksByIds ((topSimilar db o b).map Book.id))).map (db.idRow langId) := by
    simp only [CatalogDb.findBooksByIdsIn, pageOf, Nat.sub_self, Nat.zero_mul, List.drop_zero,
      List.take_of_length_le hshort]
  have hfind : ∀ b', b' ∈ topSimilar db o b →
      (db.findBooksByIdsIn o ((topSimilar db o b).map Book.id) langId).find?
        (fun row => decide (row.book.id = b'.id)) = some (db.idRow langId b') := by
    intro b' hb'
    have hmem : b' ∈ o.byIds (db.booksByIds ((topSimilar db o b).map Book.id)) := by
      obtain ⟨hbook, -, hvisible, -⟩ := mem_similarBooks.mp (topSimilar_subset hb')
      refine (o.byIds_perm _).mem_iff.mpr (List.mem_filter.mpr ⟨hbook, ?_⟩)
      rw [Bool.and_eq_true, decide_eq_true_eq]
      exact ⟨List.mem_map_of_mem hb', hvisible⟩
    rw [hrows]
    refine (find?_key_eq_some_iff (f := fun row : BookRow => row.book.id) ?_).mpr
      ⟨List.mem_map_of_mem hmem, rfl⟩
    rw [List.map_map]
    exact hperm.nodup_iff.mpr (nodup_topSimilar hdb)
  rw [pickCards, List.filterMap_map, ← List.filterMap_eq_map (f := db.similarCard langId)]
  refine List.filterMap_congr fun b' hb' => ?_
  rw [Function.comp_apply, hfind b' hb']
  rfl

end Top

section Call

variable {w w' : CacheWorld CatalogDb CatalogValue} {x : Except Failure CatalogValue}

theorem yields_bookDetailBySlugFactory_in
    {slug : String} {langId : Nat} {row : BookRow}
    (hdb : CatalogKeys w.db)
    (hrow : w.db.findBookDetailBySlug sql slug langId = some row) :
    (bookDetailBySlugFactory slug langId).Yields (cacheExec (runCatalogIn o sql)) .database
        w w' x ↔
      w' = w ∧ x = .ok (.detail (toCatalogBookDetail row (some slug)
        ((topSimilar w.db o row.book).map (w.db.similarCard langId)))) := by
  have hids : ((row.categories.map CategoryRow.id).dedup).toFinset =
      w.db.categorySet row.book := by
    have hdedup : ∀ l : List Nat, l.dedup.toFinset = l.toFinset := fun l =>
      List.toFinset_eq_iff_perm_dedup.mpr (by rw [List.dedup_idem])
    obtain ⟨b, -, rfl⟩ := Option.map_eq_some_iff.mp hrow
    rw [hdedup]
    exact toFinset_categoriesOf hdb b langId
  unfold bookDetailBySlugFactory
  refine (yields_await_bind (r := some row) (v := w) ?_).trans ?_
  · simp [cacheExec, runCatalogIn, runCatalog, hrow]
  dsimp only
  refine (yields_await_bind rfl).trans ((yields_await_bind rfl).trans ?_)
  rw [recommendIds_eq hids, pickCards_topSimilar hdb]
  exact Iff.rfl

/--
**Similar books.** A book that is found by its slug, with nothing cached: the call returns
the book with the cards of its most similar books, in every order in which rows come.
-/
theorem getBookDetailBySlug_mostSimilar
    {slug : String} {langId : Nat} {row : BookRow}
    (hdb : CatalogKeys w.db)
    (hslug : trim slug ≠ "")
    (hrow : w.db.findBookDetailBySlug sql (trim slug) langId = some row)
    (hcache : w.entry (CatalogKey.bookDetailBySlug (trim slug) langId).text = none)
    (o : RowOrder) :
    ∃ detail books, detail.id = row.book.id ∧
      detail.recommend = books.map (w.db.similarCard langId) ∧
      MostSimilar w.db row.book books ∧
      ∀ x, (∃ w', (getBookDetailBySlugWith catalogCached slug langId).Yields
          (cacheExec (runCatalogIn o sql)) .database w w' x) ↔
        x = .ok (.detail detail) := by
  refine ⟨toCatalogBookDetail row (some (trim slug))
    ((topSimilar w.db o row.book).map (w.db.similarCard langId)),
    topSimilar w.db o row.book, rfl, rfl, mostSimilar_topSimilar hdb, fun x => ?_⟩
  have hfactory : ReadsCatalog sql (bookDetailBySlugFactory (trim slug) langId) :=
    reads_bookDetailBySlugFactory _ _
  have hreads := hfactory.inOrder (o := o)
  simp only [getBookDetailBySlugWith, if_neg hslug, catalogCached, yields_withCache_true hreads,
    hcache, Computes]
  simp only [yields_bookDetailBySlugFactory_in (w := .blank w.db) hdb hrow]
  constructor
  · rintro ⟨w', ⟨value, hvalue, -⟩ | ⟨-, ⟨-, hx⟩, -⟩⟩
    · cases hvalue
    · exact hx
  · exact fun hx => ⟨_, .inr ⟨trivial, ⟨trivial, hx⟩, rfl⟩⟩

end Call

/-- A book in three categories, five that share some of them, and one that shares none -/
def sevenBooks : CatalogDb :=
  { sampleCatalog with
    books := [1, 2, 3, 4, 5, 6, 7].map sampleBook
    variants := [1, 2, 3, 4, 5, 6, 7].map fun id => sampleVariant id id
    translations := [1, 2, 3, 4, 5, 6, 7].map fun id =>
      ⟨id, 1, "Lean", none, some (if id = 1 then "lean" else "lean-" ++ toString id)⟩
    bookCategories := [(1, 1), (1, 2), (1, 3), (2, 1), (3, 1), (3, 2), (4, 1), (4, 2), (4, 3),
      (5, 3), (5, 4), (6, 1), (6, 2), (6, 3), (6, 4), (7, 4)]
    categories := [1, 2, 3, 4].map fun id => ⟨id, none, true, 0, none⟩ }

/-- The ids of the books that an answer recommends -/
def recommendedIds : Except Failure CatalogValue → List Nat
  | .ok (.detail detail) => detail.recommend.map (·.id)
  | _ => []

/-- The similarities are 1, 3/4, 2/3 and 1/3; the fifth book, with 1/4, is cut off. -/
theorem getBookDetailBySlug_mostSimilar_sevenBooks :
    ∃ detail books, detail.id = 1 ∧ detail.recommend.map (·.id) = [4, 6, 3, 2] ∧
      detail.recommend = books.map (sevenBooks.similarCard 1) ∧
      MostSimilar sevenBooks (sampleBook 1) books ∧
      ∀ x, (∃ w', (getBookDetailBySlugWith catalogCached " lean " 1).Yields
          (cacheExec (runCatalogIn .table sampleSql)) .database (.blank sevenBooks) w' x) ↔
        x = .ok (.detail detail) := by
  have htrim : trim " lean " = "lean" := by decide +kernel
  have hfound : ((CacheWorld.blank sevenBooks : CacheWorld CatalogDb CatalogValue).db
      |>.findBookDetailBySlug sampleSql (trim " lean ") 1).map BookRow.book =
        some (sampleBook 1) := by
    decide +kernel
  obtain ⟨row, hrow, hbook⟩ := Option.map_eq_some_iff.mp hfound
  obtain ⟨detail, books, hid, hcards, hsimilar, hyields⟩ :=
    getBookDetailBySlug_mostSimilar (w := .blank sevenBooks) (by decide +kernel)
      (by rw [htrim]; decide) hrow rfl .table
  rw [hbook] at hid hsimilar
  have hrun : ((getBookDetailBySlugWith catalogCached " lean " 1).alone
      (cacheExec (runCatalogIn .table sampleSql)) .database (.blank sevenBooks)).any
        (fun r => decide (recommendedIds r.2 = [4, 6, 3, 2])) = true := by
    decide +kernel
  obtain ⟨⟨w', x⟩, halone, hids⟩ := (Option.any_eq_true _ _).mp hrun
  obtain rfl := (hyields x).mp ⟨w', yields_of_alone halone⟩
  exact ⟨detail, books, hid, of_decide_eq_true hids, hcards, hsimilar, hyields⟩

end BookStore
