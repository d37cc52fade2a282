import BookStore.UserEvents.Service
import Mathlib.Data.Prod.Lex

/-!
# Interest scores

The scores of `UserEventService` are sums over events, and what is kept of them are the
best ones.

* `Interest`: what a map of scores holds for an object.
* `TopK`: which entries of a map are kept.
* `interest_scores`: the scores are these sums, `getTopKMap` keeps the best entries, and so
  does `mergerRecommendVariantAndOrder` with the twenty best.
-/

namespace BookStore
namespace UserEvents

section Definitions

variable {ε : Type} (idOf : ε → String) (type : String) (timeOf : ε → Nat) (gain : ε → ℚ)

/-- `upsertScore` for one event after another -/
def scoresOf (events : List ε) : Scores :=
  events.foldl (fun map ev =>
    upsertScore map (idOf ev) type (timeOf ev) (gain ev)) []

/-- The sum of the scores of an object and the latest of its times -/
structure Interest (events : List ε) (id : String) (x : ScoredObj) : Prop where
  objectId : x.objectId = id
  objectType : x.objectType = type
  score : x.score = ((events.filter fun ev => decide (idOf ev = id)).map gain).sum
  attained : ∃ ev, ev ∈ events ∧ idOf ev = id ∧ timeOf ev = x.createdAt
  latest : ∀ ev, ev ∈ events → idOf ev = id → timeOf ev ≤ x.createdAt

/-- The map has an entry for each object with an event, with its interest. -/
structure HoldsInterest (events : List ε) (map : Scores) : Prop where
  interest : ∀ id x, JsMap.get map id = some x →
    Interest idOf type timeOf gain events id x
  absent : ∀ id, JsMap.get map id = none → ∀ ev, ev ∈ events → idOf ev ≠ id

end Definitions

/-- Scores are compared first, and then times. -/
def standing (x : ScoredObj) : ℚ ×ₗ Nat :=
  toLex (x.score, x.createdAt)

def positiveEntries (map : Scores) : Scores :=
  map.filter fun entry => decide (0 < entry.2.score)

/-- The `k` best of the positive entries, the best ones first -/
structure TopK (k : Nat) (map top : Scores) : Prop where
  length : top.length = min k (positiveEntries map).length
  kept : ∀ entry, entry ∈ top → entry ∈ positiveEntries map
  sorted : top.Pairwise fun entry entry' => standing entry'.2 ≤ standing entry.2
  best : ∀ entry entry', entry ∈ top → entry' ∈ positiveEntries map → entry' ∉ top →
    standing entry'.2 ≤ standing entry.2

/-- Each entry has the id of its object as its key, once. -/
structure KeyedById (map : Scores) : Prop where
  nodup : (map.map Prod.fst).Nodup
  keyed : ∀ entry, entry ∈ map → entry.2.objectId = entry.1

/-! ### One event after another -/

section Folds

variable {map : Scores} {objectId objectType : String} {createdAt : Nat} {score : ℚ}

/-- What `upsertScore` makes of the entry of an object -/
def addedTo (prev : Option ScoredObj) (objectId objectType : String) (createdAt : Nat)
    (score : ℚ) : ScoredObj where
  objectId := objectId
  objectType := objectType
  createdAt := prev.elim createdAt fun x => max x.createdAt createdAt
  score := prev.elim score fun x => x.score + score

theorem upsertScore_eq_set :
    upsertScore map objectId objectType createdAt score =
      JsMap.set map objectId
        (addedTo (JsMap.get map objectId) objectId objectType createdAt score) := by
  unfold upsertScore
  cases JsMap.get map objectId with
  | none =>
      rfl
  | some prev =>
      have hlatest : (if prev.createdAt > createdAt then prev.createdAt else createdAt) =
          max prev.createdAt createdAt := by
        split <;> omega
      dsimp only
      rw [hlatest]
      rfl

theorem KeyedById.upsertScore (h : KeyedById map) :
    KeyedById (upsertScore map objectId objectType createdAt score) := by
  rw [upsertScore_eq_set]
  refine ⟨JsMap.nodup_set h.nodup, fun entry hentry => ?_⟩
  rcases JsMap.mem_set.mp hentry with rfl | ⟨hentry, -⟩
  · rfl
  · exact h.keyed entry hentry

theorem get_upsertScore (h : KeyedById map) {id : String} :
    JsMap.get (upsertScore map objectId objectType createdAt score) id =
      if id = objectId then
        some (addedTo (JsMap.get map objectId) objectId objectType createdAt score)
      else JsMap.get map id := by
  rw [upsertScore_eq_set, JsMap.get_set h.nodup]

end Folds

section Sums

variable {ε : Type} {idOf : ε → String} {type : String} {timeOf : ε → Nat} {gain : ε → ℚ}

theorem scoresOf_concat (events : List ε) (ev : ε) :
    scoresOf idOf type timeOf gain (events ++ [ev]) =
      upsertScore (scoresOf idOf type timeOf gain events) (idOf ev) type
        (timeOf ev) (gain ev) := by
  simp [scoresOf, List.foldl_append]

variable (idOf type timeOf gain) in
theorem keyedById_scoresOf (events : List ε) :
    KeyedById (scoresOf idOf type timeOf gain events) := by
  induction events using List.reverseRecOn with
  | nil =>
      exact ⟨List.nodup_nil, fun _ h => (by cases h)⟩
  | append_singleton events ev ih =>
      rw [scoresOf_concat]
      exact ih.upsertScore

/-- One event more for its object -/
theorem Interest.concat
    {events : List ε} {ev : ε} {x : ScoredObj}
    (h : Interest idOf type timeOf gain events (idOf ev) x) :
    Interest idOf type timeOf gain (events ++ [ev]) (idOf ev)
      (addedTo (some x) (idOf ev) type (timeOf ev) (gain ev)) where
  objectId := rfl
  objectType := rfl
  score := by
    simp [addedTo, h.score]
  attained := by
    rcases max_choice x.createdAt (timeOf ev) with hmax | hmax
    · obtain ⟨ev', hev', hid, htime⟩ := h.attained
      exact ⟨ev', List.mem_append_left _ hev', hid, htime.trans hmax.symm⟩
    · exact ⟨ev, by simp, rfl, hmax.symm⟩
  latest := by
    intro ev' hev' hid
    rcases List.mem_append.mp hev' with hev' | hev'
    · exact (h.latest ev' hev' hid).trans (le_max_left _ _)
    · rw [List.mem_singleton.mp hev']
      exact le_max_right _ _

/-- The first event of its object -/
theorem Interest.first
    {events : List ε} {ev : ε} (h : ∀ ev', ev' ∈ events → idOf ev' ≠ idOf ev) :
    Interest idOf type timeOf gain (events ++ [ev]) (idOf ev)
      (addedTo none (idOf ev) type (timeOf ev) (gain ev)) where
  objectId := rfl
  objectType := rfl
  score := by
    have hnone : (events.filter fun ev' => decide (idOf ev' = idOf ev)) = [] :=
      List.filter_eq_nil_iff.mpr fun ev' hev' => by simpa using h ev' hev'
    simp [addedTo, List.filter_append, hnone]
  attained := ⟨ev, by simp, rfl, rfl⟩
  latest := by
    intro ev' hev' hid
    rcases List.mem_append.mp hev' with hev' | hev'
    · exact absurd hid (h ev' hev')
    · rw [List.mem_singleton.mp hev']
      exact le_refl _

/-- An event of another object -/
theorem Interest.other
    {events : List ε} {ev : ε} {id : String} {x : ScoredObj}
    (h : Interest idOf type timeOf gain events id x) (hid : id ≠ idOf ev) :
    Interest idOf type timeOf gain (events ++ [ev]) id x where
  objectId := h.objectId
  objectType := h.objectType
  score := by
    rw [h.score, List.filter_append]
    simp [hid.symm]
  attained := by
    obtain ⟨ev', hev', h⟩ := h.attained
    exact ⟨ev', List.mem_append_left _ hev', h⟩
  latest := by
    intro ev' hev' hid'
    rcases List.mem_append.mp hev' with hev' | hev'
    · exact h.latest ev' hev' hid'
    · rw [List.mem_singleton.mp hev'] at hid'
      exact absurd hid'.symm hid

variable (idOf type timeOf gain) in
theorem holdsInterest_scoresOf (events : List ε) :
    HoldsInterest idOf type timeOf gain events
      (scoresOf idOf type timeOf gain events) := by
  induction events using List.reverseRecOn with
  | nil =>
      exact ⟨fun _ _ h => (by cases h), fun _ _ _ h => (by cases h)⟩
  | append_singleton events ev ih =>
      rw [scoresOf_concat]
      constructor
      · intro id x hx
        rw [get_upsertScore (keyedById_scoresOf idOf type timeOf gain events)] at hx
        by_cases hid : id = idOf ev
        · rw [if_pos hid] at hx
          obtain rfl := Option.some.inj hx
          rw [hid]
          cases hprev : JsMap.get (scoresOf idOf type timeOf gain events)
              (idOf ev) with
          | none =>
              exact .first (ih.absent _ hprev)
          | some prev =>
              exact (ih.interest _ _ hprev).concat
        · rw [if_neg hid] at hx
          exact (ih.interest id x hx).other hid
      · intro id hnone
        rw [get_upsertScore (keyedById_scoresOf idOf type timeOf gain events)] at hnone
        by_cases hid : id = idOf ev
        · rw [if_pos hid] at hnone
          cases hnone
        · rw [if_neg hid] at hnone
          intro ev' hev'
          rcases List.mem_append.mp hev' with hev' | hev'
          · exact ih.absent id hnone ev' hev'
          · rw [List.mem_singleton.mp hev']
            exact Ne.symm hid

/-- The interest of an object does not depend on the order of the events. -/
theorem Interest.perm_unique
    {events events' : List ε} {id : String} {x x' : ScoredObj}
    (h : Interest idOf type timeOf gain events id x)
    (h' : Interest idOf type timeOf gain events' id x')
    (hperm : events'.Perm events) :
    x' = x := by
  obtain ⟨ev, hev, hid, htime⟩ := h.attained
  obtain ⟨ev', hev', hid', htime'⟩ := h'.attained
  have hcreated : x'.createdAt = x.createdAt := by
    refine le_antisymm ?_ ?_
    · exact htime' ▸ h.latest ev' (hperm.mem_iff.mp hev') hid'
    · exact htime ▸ h'.latest ev (hperm.mem_iff.mpr hev) hid
  have hscore : x'.score = x.score := by
    rw [h.score, h'.score]
    exact ((hperm.filter _).map _).sum_eq
  obtain ⟨a, b, c, d⟩ := x
  obtain ⟨a', b', c', d'⟩ := x'
  simp only [ScoredObj.mk.injEq]
  exact ⟨h'.objectId.trans h.objectId.symm, h'.objectType.trans h.objectType.symm, hcreated,
    hscore⟩

theorem get_scoresOf_perm {events events' : List ε} (h : events'.Perm events) (id : String) :
    JsMap.get (scoresOf idOf type timeOf gain events') id =
      JsMap.get (scoresOf idOf type timeOf gain events) id := by
  have hheld := holdsInterest_scoresOf idOf type timeOf gain events
  have hheld' := holdsInterest_scoresOf idOf type timeOf gain events'
  cases hget : JsMap.get (scoresOf idOf type timeOf gain events) id with
  | none =>
      cases hget' : JsMap.get (scoresOf idOf type timeOf gain events') id with
      | none =>
          rfl
      | some x' =>
          obtain ⟨ev, hev, hid, -⟩ := (hheld'.interest id x' hget').attained
          exact absurd hid (hheld.absent id hget ev (h.mem_iff.mp hev))
  | some x =>
      cases hget' : JsMap.get (scoresOf idOf type timeOf gain events') id with
      | none =>
          obtain ⟨ev, hev, hid, -⟩ := (hheld.interest id x hget).attained
          exact absurd hid (hheld'.absent id hget' ev (h.mem_iff.mpr hev))
      | some x' =>
          exact congrArg some
            ((hheld.interest id x hget).perm_unique (hheld'.interest id x' hget') h)

end Sums

/-! ### The best entries -/

section Top

variable {map : Scores} {k : Nat}

theorem scoresHigher_eq (a b : ScoredObj) :
    scoresHigher a b = decide (standing b < standing a) := by
  rw [scoresHigher, Bool.eq_iff_iff]
  simp only [Bool.or_eq_true, Bool.and_eq_true, decide_eq_true_eq, standing,
    Prod.Lex.toLex_lt_toLex]
  rw [eq_comm (a := a.score)]

/-- The positive entries, the best ones first -/
def ranked (map : Scores) : List ScoredObj :=
  orderBy (fun a b => decide (standing b < standing a)) ((positiveEntries map).map Prod.snd)

theorem perm_ranked (map : Scores) : (ranked map).Perm ((positiveEntries map).map Prod.snd) :=
  List.perm_insertionSort _ _

theorem getTopKFromMap_eq (map : Scores) (k : Nat) :
    getTopKFromMap map k = (ranked map).take (max 1 k) := by
  have hhigher : scoresHigher = fun a b => decide (standing b < standing a) := by
    funext a b
    exact scoresHigher_eq a b
  rw [getTopKFromMap, hhigher, List.filter_map]
  rfl

theorem nodup_ranked (h : KeyedById map) :
    ((ranked map).map ScoredObj.objectId).Nodup := by
  rw [((perm_ranked map).map _).nodup_iff, List.map_map]
  have hkeys : (positiveEntries map).map (ScoredObj.objectId ∘ Prod.snd) =
      (positiveEntries map).map Prod.fst :=
    List.map_congr_left fun entry hentry => h.keyed entry (List.mem_of_mem_filter hentry)
  rw [hkeys]
  exact (List.filter_sublist.map _).nodup h.nodup

theorem getTopKMap_eq (h : KeyedById map) (k : Nat) :
    getTopKMap map k = ((ranked map).take (max 1 k)).map fun x => (x.objectId, x) := by
  rw [getTopKMap, getTopKFromMap_eq, JsMap.ofEntries_of_nodup]
  rw [List.map_map]
  exact ((List.take_sublist _ _).map _).nodup (nodup_ranked h)

/-- An object that is ranked is the one of its entry. -/
theorem mem_positiveEntries_of_ranked (h : KeyedById map) {x : ScoredObj} (hx : x ∈ ranked map) :
    (x.objectId, x) ∈ positiveEntries map := by
  obtain ⟨entry, hentry, rfl⟩ := List.mem_map.mp ((perm_ranked map).mem_iff.mp hx)
  rw [h.keyed entry (List.mem_of_mem_filter hentry)]
  exact hentry

theorem topK_getTopKMap (h : KeyedById map) (hk : 1 ≤ k) : TopK k map (getTopKMap map k) := by
  rw [getTopKMap_eq h, max_eq_right hk]
  constructor
  · rw [List.length_map, List.length_take, (perm_ranked map).length_eq, List.length_map]
  · intro entry hentry
    obtain ⟨x, hx, rfl⟩ := List.mem_map.mp hentry
    exact mem_positiveEntries_of_ranked h (List.mem_of_mem_take hx)
  · rw [List.pairwise_map]
    exact List.Pairwise.sublist (List.take_sublist _ _) (pairwise_orderBy_desc standing _)
  · intro entry entry' hentry hentry' hout
    obtain ⟨x, hx, rfl⟩ := List.mem_map.mp hentry
    have hranked : entry'.2 ∈ ranked map :=
      (perm_ranked map).mem_iff.mpr (List.mem_map_of_mem hentry')
    refine best_of_take (R := fun a b => standing b ≤ standing a)
      (pairwise_orderBy_desc standing _) hx hranked fun hkept => hout ?_
    have hkey := h.keyed entry' (List.mem_of_mem_filter hentry')
    exact List.mem_map.mpr ⟨entry'.2, hkept, by rw [hkey]⟩

theorem keyedById_getTopKMap (h : KeyedById map) (k : Nat) : KeyedById (getTopKMap map k) := by
  rw [getTopKMap_eq h]
  constructor
  · rw [List.map_map]
    exact ((List.take_sublist _ _).map _).nodup (nodup_ranked h)
  · intro entry hentry
    obtain ⟨x, -, rfl⟩ := List.mem_map.mp hentry
    rfl

end Top

/-! ### The two builders and the merge -/

section Merge

variable {number : String → Option Int} {db : RecommendDb} {o : CandidateOrder}

/-- An event that a builder counts -/
def accepted (objectType : String) (allowedTypes : List EventType) (ev : UserEventRow) : Bool :=
  ev.objectId.any (fun objectId => decide (objectId ≠ "")) &&
    decide (ev.objectType = some objectType) && decide (ev.eventType ∈ allowedTypes)

/-- The object of an event that is counted -/
def objectOf (ev : UserEventRow) : String :=
  ev.objectId.getD ""

/-- A builder keeps the twenty best sums over the events that it counts. -/
theorem buildScore_eq
    (score : UserEventRow → ℚ) (objectType : String) (allowedTypes : List EventType)
    (events : List UserEventRow) :
    buildScore score objectType allowedTypes events =
      getTopKMap (scoresOf objectOf objectType UserEventRow.createdAt score
        (events.filter (accepted objectType allowedTypes))) 20 := by
  rw [buildScore, scoresOf, List.foldl_filter]
  congr 2
  funext map ev
  unfold accepted objectOf
  cases ev.objectId with
  | none =>
      rfl
  | some id =>
      by_cases hid : id = ""
      · simp [hid]
      · by_cases htype : ev.objectType = some objectType
        · by_cases hallowed : ev.eventType ∈ allowedTypes <;> simp [hid, htype, hallowed]
        · simp [hid, htype]

/-- At most twenty entries, all positive -/
structure Cut (map : Scores) : Prop where
  length : map.length ≤ 20
  positive : ∀ entry, entry ∈ map → 0 < entry.2.score

theorem Cut.of_topK {map top : Scores} (h : TopK 20 map top) : Cut top where
  length := h.length ▸ Nat.min_le_left _ _
  positive := fun entry hentry => of_decide_eq_true (List.mem_filter.mp (h.kept entry hentry)).2

/-- The signals of the orders added to the scores of the variants -/
def addSignals (variantBySnapshot : List (String × String)) (variants : Scores)
    (signals : List OrderSignal) : Scores :=
  signals.foldl (fun map signal =>
    match JsMap.get variantBySnapshot (toString signal.snapshotId) with
    | none => map
    | some variantId => upsertScore map variantId "bookVariant" signal.createdAt signal.score)
    variants

theorem keyedById_addSignals
    {variants : Scores} (h : KeyedById variants)
    (variantBySnapshot : List (String × String)) (signals : List OrderSignal) :
    KeyedById (addSignals variantBySnapshot variants signals) := by
  refine List.foldlRecOn signals _ h fun map hmap signal _ => ?_
  split
  · exact hmap
  · exact hmap.upsertScore

/-- The scores of the variants, or the twenty best of the merged map -/
theorem mergerRecommendVariantAndOrder_cases
    {variants orders merged : Scores}
    (h : mergerRecommendVariantAndOrder number db o variants orders = .ok merged) :
    merged = variants ∨ ∃ variantBySnapshot signals,
      merged = getTopKMap (addSignals variantBySnapshot variants signals) 20 := by
  unfold mergerRecommendVariantAndOrder at h
  dsimp only at h
  split at h
  · cases h
    exact .inl rfl
  cases horders : db.findOrderItemsByOrderId o (orders.map fun entry => number entry.1) with
  | error e =>
      rw [horders] at h
      cases h
  | ok ordersWithItems =>
      rw [horders] at h
      simp only [bind, Except.bind] at h
      split at h
      · cases h
        exact .inl rfl
      split at h
      · cases h
        exact .inl rfl
      split at h
      · cases h
        exact .inl rfl
      split at h
      · cases h
        exact .inl rfl
      · cases h
        exact .inr ⟨_, _, rfl⟩

/-- Every return of the merge is cut. -/
theorem cut_mergerRecommendVariantAndOrder
    {variants orders merged : Scores} (hkeyed : KeyedById variants) (hcut : Cut variants)
    (h : mergerRecommendVariantAndOrder number db o variants orders = .ok merged) :
    Cut merged := by
  rcases mergerRecommendVariantAndOrder_cases h with rfl | ⟨variantBySnapshot, signals, rfl⟩
  · exact hcut
  · exact .of_topK (topK_getTopKMap (keyedById_addSignals hkeyed variantBySnapshot signals)
      (by decide))

end Merge

/--
The scores of a list of events are sums with the latest times, in any order of the events;
the best of them are kept; and the merge of what the builders return is cut, on every
return path.
-/
theorem interest_scores
    {ε : Type} (idOf : ε → String) (type : String) (timeOf : ε → Nat) (gain : ε → ℚ)
    (events : List ε) :
    HoldsInterest idOf type timeOf gain events (scoresOf idOf type timeOf gain events) ∧
    (∀ events' : List ε, events'.Perm events → ∀ id,
      JsMap.get (scoresOf idOf type timeOf gain events') id =
        JsMap.get (scoresOf idOf type timeOf gain events) id) ∧
    (∀ k, 1 ≤ k → TopK k (scoresOf idOf type timeOf gain events)
      (getTopKMap (scoresOf idOf type timeOf gain events) k)) ∧
    ∀ (number : String → Option Int) (db : RecommendDb) (o : CandidateOrder)
      (score score' : UserEventRow → ℚ) (variantEvents orderEvents : List UserEventRow)
      (merged : Scores),
      mergerRecommendVariantAndOrder number db o
        (buildScore score "bookVariant" VARIANT_EVENT_TYPES variantEvents)
        (buildScore score' "order" ORDER_EVENT_TYPES orderEvents) = .ok merged →
      Cut merged := by
  refine ⟨holdsInterest_scoresOf idOf type timeOf gain events,
    fun _ hperm id => get_scoresOf_perm hperm id,
    fun k hk => topK_getTopKMap (keyedById_scoresOf idOf type timeOf gain events) hk, ?_⟩
  intro number db o score score' variantEvents orderEvents merged h
  rw [buildScore_eq score] at h
  have hkeyed := keyedById_scoresOf objectOf "bookVariant" UserEventRow.createdAt score
    (variantEvents.filter (accepted "bookVariant" VARIANT_EVENT_TYPES))
  exact cut_mergerRecommendVariantAndOrder (keyedById_getTopKMap hkeyed 20)
    (.of_topK (topK_getTopKMap hkeyed (by decide))) h

/-- A variant that was put into the cart and taken out of it, and one that was looked at -/
def sampleEvents : List UserEventRow :=
  [⟨some 1, .addToCart, some "bookVariant", some "9", 3⟩,
    ⟨some 1, .viewBook, some "bookVariant", some "8", 4⟩,
    ⟨some 1, .removeFromCart, some "bookVariant", some "9", 5⟩]

theorem interest_scores_oneBest :
    getTopKMap (scoresOf objectOf "bookVariant" UserEventRow.createdAt (eventScore fun _ => 5)
        sampleEvents) 1 = [("9", ⟨"9", "bookVariant", 5, 2⟩)] ∧
      TopK 1 (scoresOf objectOf "bookVariant" UserEventRow.createdAt (eventScore fun _ => 5)
        sampleEvents) [("9", ⟨"9", "bookVariant", 5, 2⟩)] := by
  have htop : getTopKMap (scoresOf objectOf "bookVariant" UserEventRow.createdAt
      (eventScore fun _ => 5) sampleEvents) 1 = [("9", ⟨"9", "bookVariant", 5, 2⟩)] := by
    decide +kernel
  refine ⟨htop, ?_⟩
  rw [← htop]
  exact (interest_scores objectOf "bookVariant" UserEventRow.createdAt (eventScore fun _ => 5)
    sampleEvents).2.2.1 1 (le_refl 1)

end UserEvents
end BookStore
