import BookStore.Catalog.Listing
import BookStore.UserEvents.Service
import Mathlib.Data.List.MinMax

/-!
# Recommendations

`getRecommend` ranks the snapshots that were bought together with what interests the user,
and returns the cards of variants.  Between the ranking and the cards are two queries
without `orderBy`, the second one with a `take`.

* `alsoBoughtCandidates`: the candidates, ranked.
* `MostCoPurchased`: which variants should be returned for them, and in which order.
* `getRecommend_mostCoPurchased_iff`: when they are, in every order in which the rows of
  these two queries come.
-/

namespace BookStore
namespace UserEvents

section Candidates

variable (sql : SqlText) (number : String → Option Int) (db : RecommendDb)
variable (now : UserEventRow → Nat)

/-- The candidates of `getRecommend` -/
def alsoBoughtCandidates (o : CandidateOrder) (userId : Nat) :
    Except Failure (List AlsoBought) := do
  let mergedVariantScores ← mergerRecommendVariantAndOrder number db o
    (buildScoreWithRecommendVariant sql db now o userId)
    (buildScoreWithRecommendOrder sql db now o userId)
  let variantIds := mergedVariantScores.map fun entry => number entry.1
  if variantIds = [] then return []
  let seedSnapshotIds ← db.findSnapshotIdsByVariantIds o variantIds
  if seedSnapshotIds = [] then return []
  let orderIds := db.findOrderIdsBySnapshotIds o seedSnapshotIds
  if orderIds = [] then return []
  return db.groupAlsoBoughtSnapshotCandidates o orderIds seedSnapshotIds 200

end Candidates

section Ranks

variable {β : Type} [LinearOrder β]
variable (db : RecommendDb) (rank : AlsoBought → β) (candidates : List AlsoBought)

/-- The candidates that are snapshots of a variant -/
def candidatesOf (variantId : Nat) : List AlsoBought :=
  candidates.filter fun c => db.snapshots.any fun s =>
    decide (s.id = c.bookVariantSnapshotId) && decide (s.bookVariantId = variantId)

/-- The best rank of any snapshot of a variant -/
def bestRank (variantId : Nat) : WithBot β :=
  ((candidatesOf db candidates variantId).map rank).maximum

/-- The variants on sale with a snapshot among the candidates -/
def sellableCandidates : List VariantRow :=
  db.variantsOnSale.filter fun row =>
    decide (candidatesOf db candidates row.variant.id ≠ [])

/-- The first `limit` of the sellable candidates, the best ones first -/
structure MostCoPurchased (limit : Nat) (rows : List VariantRow) : Prop where
  length : rows.length = min limit (sellableCandidates db candidates).length
  distinct : rows.Nodup
  sellable : ∀ row, row ∈ rows → row ∈ sellableCandidates db candidates
  ordered : rows.Pairwise fun row row' =>
    bestRank db rank candidates row'.variant.id ≤ bestRank db rank candidates row.variant.id
  best : ∀ row row', row ∈ rows → row' ∈ sellableCandidates db candidates → row' ∉ rows →
    bestRank db rank candidates row'.variant.id ≤ bestRank db rank candidates row.variant.id

/-- All sellable candidates are of one rank. -/
def OneRank : Prop :=
  ∀ row row', row ∈ sellableCandidates db candidates →
    row' ∈ sellableCandidates db candidates →
    bestRank db rank candidates row.variant.id = bestRank db rank candidates row'.variant.id

end Ranks

/-- The keys of the tables; an id that is generated is not 0. -/
structure RecommendKeys (db : RecommendDb) : Prop where
  variants : (db.catalog.variants.map fun v => v.id).Nodup
  snapshots : ∀ s, s ∈ db.snapshots → s.id ≠ 0

variable {db : RecommendDb}

/-! ### The rows that are returned -/

section Rows

/-- The variants that the snapshots of the candidates lead to -/
def recommendedIds (db : RecommendDb) (snapshots : Arrangement BookVariantSnapshot)
    (candidates : List AlsoBought) : List Nat :=
  JsMap.newSet ((db.findVariantIdsBySnapshotIds snapshots
    ((candidates.map AlsoBought.bookVariantSnapshotId).filter fun id => decide (id ≠ 0))).map
      BookVariantSnapshot.bookVariantId)

/-- The rows that are fetched -/
def fetchedRows (db : RecommendDb) (variants : Arrangement VariantRow)
    (candidates : List AlsoBought) (limit : Nat) : List VariantRow :=
  (variants.rows (sellableCandidates db candidates)).take limit

def pickedRows (ids : List Nat) (rows : List VariantRow) (limit : Nat) : List VariantRow :=
  (ids.filterMap fun id => JsMap.get (rows.map fun row => (toString row.variant.id, row))
    (toString id)).take (max 1 limit)

variable {snapshots : Arrangement BookVariantSnapshot} {variants : Arrangement VariantRow}
variable {candidates : List AlsoBought} {limit : Nat}

theorem toString_nat_injective : Function.Injective fun n : Nat => toString n := by
  intro m n h
  have htext : (toString m).toList = (toString n).toList := congrArg String.toList h
  rw [toList_toString, toList_toString] at htext
  exact natText_injective htext

theorem mem_candidatesOf {c : AlsoBought} {variantId : Nat} :
    c ∈ candidatesOf db candidates variantId ↔
      c ∈ candidates ∧ ∃ s, s ∈ db.snapshots ∧ s.id = c.bookVariantSnapshotId ∧
        s.bookVariantId = variantId := by
  simp only [candidatesOf, List.mem_filter, List.any_eq_true, Bool.and_eq_true,
    decide_eq_true_eq]

theorem mem_findVariantIdsBySnapshotIds {ids : List Nat} {s : BookVariantSnapshot} :
    s ∈ db.findVariantIdsBySnapshotIds snapshots ids ↔ s ∈ db.snapshots ∧ s.id ∈ ids := by
  rw [RecommendDb.findVariantIdsBySnapshotIds, (snapshots.perm _).mem_iff, List.mem_filter,
    decide_eq_true_eq]

theorem candidatesOf_ne_nil_iff {variantId : Nat} :
    candidatesOf db candidates variantId ≠ [] ↔
      ∃ c, c ∈ candidates ∧ ∃ s, s ∈ db.snapshots ∧ s.id = c.bookVariantSnapshotId ∧
        s.bookVariantId = variantId := by
  simp only [← mem_candidatesOf]
  exact ⟨List.exists_mem_of_ne_nil _, fun ⟨_, hc⟩ => List.ne_nil_of_mem hc⟩

variable (snapshots) in
theorem mem_recommendedIds (hdb : RecommendKeys db) {variantId : Nat} :
    variantId ∈ recommendedIds db snapshots candidates ↔
      candidatesOf db candidates variantId ≠ [] := by
  simp only [recommendedIds, JsMap.mem_newSet, List.mem_map, mem_findVariantIdsBySnapshotIds,
    List.mem_filter, decide_eq_true_eq, candidatesOf_ne_nil_iff]
  constructor
  · rintro ⟨s, ⟨hs, ⟨c, hc, hid⟩, -⟩, hvariant⟩
    exact ⟨c, hc, s, hs, hid.symm, hvariant⟩
  · rintro ⟨c, hc, s, hs, hid, hvariant⟩
    exact ⟨s, ⟨hs, ⟨c, hc, hid.symm⟩, hdb.snapshots s hs⟩, hvariant⟩

/-- A variant is on sale once, with its book. -/
theorem nodup_variantsOnSale (hdb : RecommendKeys db) :
    (db.variantsOnSale.map fun row => row.variant.id).Nodup := by
  have hvariant : ∀ v row, (if v.isActive && v.price.any fun p => decide (0 < p) then
      ((db.catalog.books.find? fun b => decide (b.id = v.bookId)).filter
        db.catalog.visible).map fun b => (⟨v, b⟩ : VariantRow)
      else none) = some row → row.variant = v := by
    intro v row h
    split at h
    · obtain ⟨b, -, rfl⟩ := Option.map_eq_some_iff.mp h
      rfl
    · cases h
  rw [RecommendDb.variantsOnSale, List.Nodup, List.pairwise_map, List.pairwise_filterMap]
  refine (List.pairwise_map.mp hdb.variants).imp fun hne row hrow row' hrow' => ?_
  rw [hvariant _ row hrow, hvariant _ row' hrow']
  exact hne

theorem nodup_sellableCandidates (hdb : RecommendKeys db) :
    ((sellableCandidates db candidates).map fun row => row.variant.id).Nodup :=
  (List.filter_sublist.map _).nodup (nodup_variantsOnSale hdb)

variable (variants candidates limit) in
/-- The rows that are fetched are sellable candidates, each once. -/
theorem fetchedRows_spec (hdb : RecommendKeys db) :
    ((fetchedRows db variants candidates limit).map fun row => row.variant.id).Nodup ∧
      (∀ row, row ∈ fetchedRows db variants candidates limit →
        row ∈ sellableCandidates db candidates) ∧
      (fetchedRows db variants candidates limit).length =
        min limit (sellableCandidates db candidates).length := by
  have hperm := variants.perm (sellableCandidates db candidates)
  refine ⟨?_, fun row hrow => hperm.mem_iff.mp (List.mem_of_mem_take hrow), ?_⟩
  · exact ((List.take_sublist _ _).map _).nodup
      ((hperm.map _).nodup_iff.mpr (nodup_sellableCandidates hdb))
  · rw [fetchedRows, List.length_take, hperm.length_eq]

variable (snapshots variants candidates) in
/-- Every row that was fetched is picked. -/
theorem perm_pickedRows (hdb : RecommendKeys db) (hlimit : 0 < limit) :
    (pickedRows (recommendedIds db snapshots candidates)
      (fetchedRows db variants candidates limit) limit).Perm
        (fetchedRows db variants candidates limit) := by
  obtain ⟨hnodup, hsellable, hlength⟩ := fetchedRows_spec variants candidates limit hdb
  generalize fetchedRows db variants candidates limit = rows at *
  have hkeys : ((rows.map fun row => (toString row.variant.id, row)).map Prod.fst).Nodup := by
    have := hnodup.map toString_nat_injective
    rwa [List.map_map] at this ⊢
  have hids : ((recommendedIds db snapshots candidates).map fun id => toString id).Nodup :=
    (JsMap.nodup_newSet _).map toString_nat_injective
  have hfound : ∀ e, e ∈ rows.map (fun row => (toString row.variant.id, row)) →
      e.1 ∈ (recommendedIds db snapshots candidates).map fun id => toString id := by
    intro e he
    obtain ⟨row, hrow, rfl⟩ := List.mem_map.mp he
    have hcandidate := (List.mem_filter.mp (hsellable row hrow)).2
    exact List.mem_map_of_mem ((mem_recommendedIds _ hdb).mpr (of_decide_eq_true hcandidate))
  have hpicked := JsMap.perm_filterMap_get hkeys hids hfound
  have hrows : rows.map (Prod.snd ∘ fun row => (toString row.variant.id, row)) = rows :=
    List.map_id rows
  rw [List.filterMap_map, List.map_map, hrows] at hpicked
  rw [pickedRows, List.take_of_length_le]
  · exact hpicked
  · have hmin := Nat.min_le_left limit (sellableCandidates db candidates).length
    refine Eq.trans_le hpicked.length_eq ?_
    omega

variable (snapshots) in
/-- The ids select the sellable candidates. -/
theorem filter_mem_recommendedIds (hdb : RecommendKeys db) :
    (db.variantsOnSale.filter fun row =>
      decide (row.variant.id ∈ recommendedIds db snapshots candidates)) =
        sellableCandidates db candidates :=
  List.filter_congr fun _ _ => decide_eq_decide.mpr (mem_recommendedIds _ hdb)

theorem findBooksVariantByIds_recommendedIds (hdb : RecommendKeys db) (langId : Nat) :
    db.findBooksVariantByIds variants (recommendedIds db snapshots candidates) langId limit =
      (fetchedRows db variants candidates limit).map (db.variantCard langId) := by
  rw [RecommendDb.findBooksVariantByIds, filter_mem_recommendedIds _ hdb]
  split
  · rename_i hnone
    have hsellable : sellableCandidates db candidates = [] := by
      rw [← filter_mem_recommendedIds snapshots hdb, hnone]
      exact List.filter_eq_nil_iff.mpr fun _ _ => by simp
    have hrows : variants.rows [] = [] := (variants.perm []).eq_nil
    rw [fetchedRows, hsellable, hrows, List.take_nil, List.map_nil]
  · rfl

theorem pickRecommendCards_map
    {ids : List Nat} {rows : List VariantRow}
    (hrows : (rows.map fun row => row.variant.id).Nodup) (langId : Nat) :
    pickRecommendCards ids (rows.map (db.variantCard langId)) limit =
      (pickedRows ids rows limit).map (db.variantCard langId) := by
  have hentries : (rows.map (db.variantCard langId)).map (fun variant =>
      ((variant.bookVariantId.map toString).getD "", variant)) =
        (rows.map fun row => (toString row.variant.id, row)).map fun e =>
          (e.1, db.variantCard langId e.2) := by
    rw [List.map_map, List.map_map]
    rfl
  have hkeys : (((rows.map (db.variantCard langId)).map (fun variant =>
      ((variant.bookVariantId.map toString).getD "", variant))).map Prod.fst).Nodup := by
    have := hrows.map toString_nat_injective
    rw [List.map_map] at this
    rw [hentries, List.map_map, List.map_map]
    exact this
  rw [pickRecommendCards, JsMap.ofEntries_of_nodup hkeys, hentries, pickedRows, List.map_take,
    List.map_filterMap]
  simp only [JsMap.get_map]

end Rows

section Call

variable {sql : SqlText} {number : String → Option Int} {now : UserEventRow → Nat}
variable {o : CandidateOrder} {snapshots : Arrangement BookVariantSnapshot}
variable {variants : Arrangement VariantRow} {userId langId limit : Nat}

/-- The rows that are returned for the candidates -/
def recommendedRows (db : RecommendDb) (snapshots : Arrangement BookVariantSnapshot)
    (variants : Arrangement VariantRow) (candidates : List AlsoBought) (limit : Nat) :
    List VariantRow :=
  pickedRows (recommendedIds db snapshots candidates)
    (fetchedRows db variants candidates limit) limit

theorem recommendedRows_eq_nil
    {candidates : List AlsoBought} (h : recommendedIds db snapshots candidates = []) :
    recommendedRows db snapshots variants candidates limit = [] := by
  rw [recommendedRows, pickedRows, h, List.filterMap_nil, List.take_nil]

/-- Without a snapshot there is no variant. -/
theorem recommendedIds_eq_nil
    {candidates : List AlsoBought}
    (h : (candidates.map AlsoBought.bookVariantSnapshotId).filter
      (fun id => decide (id ≠ 0)) = []) :
    recommendedIds db snapshots candidates = [] := by
  have hrows : db.findVariantIdsBySnapshotIds snapshots [] = [] :=
    List.eq_nil_iff_forall_not_mem.mpr fun s hs =>
      List.not_mem_nil (mem_findVariantIdsBySnapshotIds.mp hs).2
  rw [recommendedIds, h, hrows]
  rfl

theorem pickRecommendCards_recommendedIds (hdb : RecommendKeys db) (candidates : List AlsoBought) :
    pickRecommendCards (recommendedIds db snapshots candidates)
      (db.findBooksVariantByIds variants (recommendedIds db snapshots candidates) langId limit)
      limit = (recommendedRows db snapshots variants candidates limit).map
        (db.variantCard langId) := by
  rw [findBooksVariantByIds_recommendedIds hdb,
    pickRecommendCards_map (fetchedRows_spec variants candidates limit hdb).1, recommendedRows]

/-- What `getRecommend` does with its candidates -/
theorem getRecommend_eq (hdb : RecommendKeys db) :
    getRecommend sql number db now ⟨o, snapshots, variants⟩ userId langId limit =
      (alsoBoughtCandidates sql number db now o userId).map fun candidates =>
        (recommendedRows db snapshots variants candidates limit).map
          (db.variantCard langId) := by
  have hempty : ∀ l, recommendedIds db snapshots l = [] →
      [] = (recommendedRows db snapshots variants l limit).map (db.variantCard langId) := by
    intro l hl
    rw [recommendedRows_eq_nil hl, List.map_nil]
  unfold getRecommend alsoBoughtCandidates
  dsimp only
  cases mergerRecommendVariantAndOrder number db o
    (buildScoreWithRecommendVariant sql db now o userId)
    (buildScoreWithRecommendOrder sql db now o userId) with
  | error e =>
      rfl
  | ok merged =>
      simp only [bind, Except.bind]
      split
      · exact congrArg Except.ok (hempty [] (recommendedIds_eq_nil rfl))
      cases db.findSnapshotIdsByVariantIds o (merged.map fun entry => number entry.1) with
      | error e =>
          rfl
      | ok seeds =>
          dsimp only
          split
          · exact congrArg Except.ok (hempty [] (recommendedIds_eq_nil rfl))
          split
          · exact congrArg Except.ok (hempty [] (recommendedIds_eq_nil rfl))
          generalize db.groupAlsoBoughtSnapshotCandidates o _ seeds 200 = candidates
          split
          · rename_i hcandidates
            exact congrArg Except.ok (hempty _ (recommendedIds_eq_nil (by rw [hcandidates]; rfl)))
          split
          · rename_i hids
            exact congrArg Except.ok (hempty _ (recommendedIds_eq_nil hids))
          split
          · rename_i hids
            exact congrArg Except.ok (hempty _ hids)
          · exact congrArg Except.ok (pickRecommendCards_recommendedIds hdb candidates)

/-! ### A variant that comes first -/

/-- Of the sellable candidates of one rank any may come first. -/
theorem mostCoPurchased_of_oneRank
    {β : Type} [LinearOrder β] {rank : AlsoBought → β} {candidates : List AlsoBought}
    (hdb : RecommendKeys db) (hlimit : 0 < limit) (h : OneRank db rank candidates) :
    MostCoPurchased db rank candidates limit
      (recommendedRows db snapshots variants candidates limit) := by
  obtain ⟨hnodup, hsellable, hlength⟩ := fetchedRows_spec variants candidates limit hdb
  have hperm := perm_pickedRows snapshots variants candidates hdb hlimit
  have hrows : ∀ row, row ∈ recommendedRows db snapshots variants candidates limit →
      row ∈ sellableCandidates db candidates := fun row hrow =>
    hsellable row (hperm.mem_iff.mp hrow)
  refine ⟨hperm.length_eq.trans hlength, hperm.nodup_iff.mpr hnodup.of_map, hrows, ?_, ?_⟩
  · exact List.pairwise_of_forall_mem_list fun row hrow row' hrow' =>
      (h row' row (hrows _ hrow') (hrows _ hrow)).le
  · exact fun row row' hrow hrow' _ => (h row' row hrow' (hrows _ hrow)).le

/-- With its snapshots and its row first, a sellable candidate is returned first. -/
theorem recommendedRows_first
    {candidates : List AlsoBought} (hdb : RecommendKeys db) (hlimit : 0 < limit)
    {row : VariantRow} (hrow : row ∈ sellableCandidates db candidates) :
    ∃ rest, recommendedRows db (.first fun s => decide (s.bookVariantId = row.variant.id))
      (.first fun r => decide (r = row)) candidates limit = row :: rest := by
  have hcandidate := (List.mem_filter.mp hrow).2
  have hid := (mem_recommendedIds .table hdb).mpr (of_decide_eq_true hcandidate)
  obtain ⟨s, hs, hvariant⟩ := List.mem_map.mp (JsMap.mem_newSet.mp hid)
  -- its id comes first
  obtain ⟨s', later, hsnapshots, hs'⟩ := Arrangement.rows_first_eq_cons
    (p := fun s => decide (s.bookVariantId = row.variant.id)) hs (decide_eq_true hvariant)
  have hids : ∃ ids, recommendedIds db
      (.first fun s => decide (s.bookVariantId = row.variant.id)) candidates =
        row.variant.id :: ids := by
    have hhead := JsMap.head?_newSet (List.map BookVariantSnapshot.bookVariantId (s' :: later))
    rw [← hsnapshots] at hhead
    refine List.head?_eq_some_iff.mp (hhead.trans ?_)
    rw [hsnapshots, List.map_cons, List.head?_cons, of_decide_eq_true hs']
  -- and so does its row
  obtain ⟨row', others, hvariants, hrow'⟩ := Arrangement.rows_first_eq_cons
    (p := fun r => decide (r = row)) hrow (decide_eq_true rfl)
  obtain rfl : row' = row := of_decide_eq_true hrow'
  obtain ⟨ids, hids⟩ := hids
  obtain ⟨n, rfl⟩ := Nat.exists_eq_add_one.mpr hlimit
  rw [recommendedRows, pickedRows, hids, fetchedRows, hvariants, List.take_succ_cons,
    List.map_cons, List.filterMap_cons]
  have hget : JsMap.get ((toString row'.variant.id, row') ::
      (others.take n).map fun row => (toString row.variant.id, row)) (toString row'.variant.id) =
        some row' := by
    simp [JsMap.get]
  rw [hget, max_eq_right (by omega), List.take_succ_cons]
  exact ⟨_, rfl⟩

/-- `getRecommend` with these candidates -/
theorem getRecommend_of_candidates
    (hdb : RecommendKeys db) {candidates : List AlsoBought}
    (h : alsoBoughtCandidates sql number db now o userId = .ok candidates)
    (snapshots : Arrangement BookVariantSnapshot) (variants : Arrangement VariantRow)
    (langId limit : Nat) :
    getRecommend sql number db now ⟨o, snapshots, variants⟩ userId langId limit =
      .ok ((recommendedRows db snapshots variants candidates limit).map
        (db.variantCard langId)) := by
  rw [getRecommend_eq hdb, h]
  rfl

/--
The cards that `getRecommend` returns are the most co-purchased ones, in every order in
which the rows of its last two queries come, exactly when all sellable candidates are of
one rank.
-/
theorem getRecommend_mostCoPurchased_iff
    {β : Type} [LinearOrder β] (rank : AlsoBought → β)
    (hdb : RecommendKeys db) (hlimit : 0 < limit) :
    (∀ snapshots variants cards,
      getRecommend sql number db now ⟨o, snapshots, variants⟩ userId langId limit = .ok cards →
      ∃ candidates rows, alsoBoughtCandidates sql number db now o userId = .ok candidates ∧
        cards = rows.map (db.variantCard langId) ∧
        MostCoPurchased db rank candidates limit rows) ↔
    ∀ candidates, alsoBoughtCandidates sql number db now o userId = .ok candidates →
      OneRank db rank candidates := by
  constructor
  · intro h candidates hcandidates
    have hle : ∀ row row', row ∈ sellableCandidates db candidates →
        row' ∈ sellableCandidates db candidates →
        bestRank db rank candidates row'.variant.id ≤
          bestRank db rank candidates row.variant.id := by
      intro row row' hrow hrow'
      obtain ⟨rest, hfirst⟩ := recommendedRows_first hdb hlimit hrow
      obtain ⟨candidates', rows, hcandidates', hcards, hmost⟩ :=
        h _ _ _ (getRecommend_of_candidates hdb hcandidates _ _ langId limit)
      cases hcandidates.symm.trans hcandidates'
      rw [hfirst, List.map_cons] at hcards
      obtain ⟨first, rows, rfl, hcard, -⟩ := List.map_eq_cons_iff.mp hcards.symm
      -- the first row is the one that was put first
      have hid : first.variant.id = row.variant.id :=
        Option.some.inj (congrArg CatalogBookCardDto.bookVariantId hcard)
      obtain rfl : first = row := List.inj_on_of_nodup_map (nodup_sellableCandidates hdb)
        (hmost.sellable _ List.mem_cons_self) hrow hid
      by_cases hreturned : row' ∈ first :: rows
      · rcases List.mem_cons.mp hreturned with rfl | hlater
        · exact le_refl _
        · exact (List.pairwise_cons.mp hmost.ordered).1 row' hlater
      · exact hmost.best first row' List.mem_cons_self hrow' hreturned
    exact fun row row' hrow hrow' => le_antisymm (hle row' row hrow' hrow) (hle row row' hrow hrow')
  · intro h snapshots variants cards hcards
    rw [getRecommend_eq hdb] at hcards
    cases hcandidates : alsoBoughtCandidates sql number db now o userId with
    | error e =>
        rw [hcandidates] at hcards
        cases hcards
    | ok candidates =>
        rw [hcandidates] at hcards
        cases hcards
        exact ⟨candidates, _, rfl, rfl,
          mostCoPurchased_of_oneRank hdb hlimit (h candidates hcandidates)⟩

end Call

/-! ### A book bought twice and a book bought once -/

def tableOrder : CandidateOrder where
  variantEvents := .table
  orderEvents := .table
  orders := .table
  items := .table
  purchased := .table
  seeds := .table
  buyers := .table
  groups := .table

/-- `Number` of a text of digits -/
def sampleNumber (text : String) : Option Int :=
  if text.toList.all Char.isDigit then some (Nat.ofDigitChars 10 text.toList 0 : Nat) else none

def sampleItem (id orderId snapshotId : Nat) : OrderItemRow :=
  ⟨⟨id, orderId, snapshotId, 1, 100, 100⟩, 0⟩

/-- The user looked at variant 9, which others bought with these items. -/
def sampleBought (items : List OrderItemRow) : RecommendDb where
  userEvents := [⟨some 1, .viewBook, some "bookVariant", some "9", 0⟩]
  orders := [1, 2]
  orderItems := sampleItem 1 1 1 :: sampleItem 2 2 1 :: items
  snapshots := [⟨1, 9, none, 100, .paperback⟩, ⟨2, 1, none, 100, .paperback⟩,
    ⟨3, 2, none, 100, .paperback⟩]
  catalog := sampleCatalog

section Samples

-- the elaborator need not evaluate the calls
attribute [local irreducible] getRecommend alsoBoughtCandidates bestRank

/-- Both books were bought once. -/
theorem getRecommend_mostCoPurchased_evenCounts :
    alsoBoughtCandidates sampleSql sampleNumber
        (sampleBought [sampleItem 3 1 2, sampleItem 4 1 3]) (fun _ => 0) tableOrder 1 =
      .ok [⟨2, 1⟩, ⟨3, 1⟩] ∧
    ∀ snapshots variants cards,
      getRecommend sampleSql sampleNumber (sampleBought [sampleItem 3 1 2, sampleItem 4 1 3])
        (fun _ => 0) ⟨tableOrder, snapshots, variants⟩ 1 1 1 = .ok cards →
      ∃ candidates rows, alsoBoughtCandidates sampleSql sampleNumber
          (sampleBought [sampleItem 3 1 2, sampleItem 4 1 3]) (fun _ => 0) tableOrder 1 =
            .ok candidates ∧
        cards = rows.map ((sampleBought [sampleItem 3 1 2, sampleItem 4 1 3]).variantCard 1) ∧
        MostCoPurchased (sampleBought [sampleItem 3 1 2, sampleItem 4 1 3]) AlsoBought.count
          candidates 1 rows := by
  have hcandidates : alsoBoughtCandidates sampleSql sampleNumber
      (sampleBought [sampleItem 3 1 2, sampleItem 4 1 3]) (fun _ => 0) tableOrder 1 =
        .ok [⟨2, 1⟩, ⟨3, 1⟩] := by
    decide +kernel
  refine ⟨hcandidates, (getRecommend_mostCoPurchased_iff AlsoBought.count
    ⟨by decide, by decide⟩ one_pos).mpr fun candidates h => ?_⟩
  cases hcandidates.symm.trans h
  have hsame : ∀ row, row ∈ sellableCandidates (sampleBought [sampleItem 3 1 2, sampleItem 4 1 3])
        [⟨2, 1⟩, ⟨3, 1⟩] →
      bestRank (sampleBought [sampleItem 3 1 2, sampleItem 4 1 3]) AlsoBought.count
        [⟨2, 1⟩, ⟨3, 1⟩] row.variant.id = 1 := by
    decide +kernel
  exact fun row row' hrow hrow' => (hsame row hrow).trans (hsame row' hrow').symm

theorem exists_of_map_eq_ok {α γ : Type} {f : α → γ} {x : Except Failure α} {c : γ}
    (h : x.map f = .ok c) : ∃ a, x = .ok a ∧ f a = c := by
  cases x with
  | error e =>
      cases h
  | ok a =>
      exact ⟨a, rfl, Except.ok.inj h⟩

/-- The book that was bought once is returned before the one that was bought twice. -/
theorem once_bought_first :
    ¬ ∀ (sql : SqlText) (number : String → Option Int) (db : RecommendDb)
        (now : UserEventRow → Nat) (o : AnswerOrder) (userId langId limit : Nat)
        (cards : List CatalogBookCardDto),
      RecommendKeys db → 0 < limit →
      getRecommend sql number db now o userId langId limit = .ok cards →
      ∃ candidates rows,
        alsoBoughtCandidates sql number db now o.toCandidateOrder userId = .ok candidates ∧
        cards = rows.map (db.variantCard langId) ∧
        MostCoPurchased db AlsoBought.count candidates limit rows := by
  intro h
  have hcandidates : alsoBoughtCandidates sampleSql sampleNumber
      (sampleBought [sampleItem 3 1 2, sampleItem 4 1 3, sampleItem 5 2 3]) (fun _ => 0)
        tableOrder 1 = .ok [⟨3, 2⟩, ⟨2, 1⟩] := by
    decide +kernel
  have hcards : (getRecommend sampleSql sampleNumber
      (sampleBought [sampleItem 3 1 2, sampleItem 4 1 3, sampleItem 5 2 3]) (fun _ => 0)
        ⟨tableOrder, .table, .table⟩ 1 1 12).map
          (List.map CatalogBookCardDto.bookVariantId) = .ok [some 1, some 2] := by
    decide +kernel
  obtain ⟨cards, hreturned, hids⟩ := exists_of_map_eq_ok hcards
  obtain ⟨candidates, rows, hcandidates', rfl, hmost⟩ := h sampleSql sampleNumber
    (sampleBought [sampleItem 3 1 2, sampleItem 4 1 3, sampleItem 5 2 3]) (fun _ => 0)
    ⟨tableOrder, .table, .table⟩ 1 1 12 cards ⟨by decide, by decide⟩ (by decide) hreturned
  cases hcandidates.symm.trans hcandidates'
  have hvariants : rows.map (fun row => row.variant.id) = [1, 2] := by
    refine List.map_injective_iff.mpr (Option.some_injective Nat) ?_
    rw [List.map_map] at hids ⊢
    exact hids
  have hordered : ([1, 2] : List Nat).Pairwise fun id id' =>
      bestRank (sampleBought [sampleItem 3 1 2, sampleItem 4 1 3, sampleItem 5 2 3])
        AlsoBought.count [⟨3, 2⟩, ⟨2, 1⟩] id' ≤
      bestRank (sampleBought [sampleItem 3 1 2, sampleItem 4 1 3, sampleItem 5 2 3])
        AlsoBought.count [⟨3, 2⟩, ⟨2, 1⟩] id := by
    rw [← hvariants, List.pairwise_map]
    exact hmost.ordered
  revert hordered
  decide +kernel

end Samples

end UserEvents
end BookStore
