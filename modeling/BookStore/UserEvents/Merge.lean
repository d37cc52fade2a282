import BookStore.UserEvents.Recommend
import BookStore.UserEvents.Scores

/-!
# The two interests of a user

`mergerRecommendVariantAndOrder` adds what the orders of a user say about variants to what the
user has done with the variants themselves.

* `Credit` is something that counts for a variant; `variantCredits` and `orderCredits` are those
  of the two maps.
* `merge_interest`: each variant is credited with the sum of both, and the twenty best are kept,
  in any order of the rows.
-/

namespace BookStore
namespace UserEvents

/-- What counts for a variant: a score of its own, or an item of an order -/
structure Credit where
  variantId : String
  createdAt : Nat
  score : ℚ
  deriving DecidableEq

/-- The credits together, as a map of scores -/
abbrev creditScores (credits : List Credit) : Scores :=
  scoresOf Credit.variantId "bookVariant" Credit.createdAt Credit.score credits

/-- The map has the sum of the credits of each variant, and the latest of their times. -/
abbrev HoldsCredits (credits : List Credit) (map : Scores) : Prop :=
  HoldsInterest Credit.variantId "bookVariant" Credit.createdAt Credit.score credits map

def variantCredits (variants : Scores) : List Credit :=
  variants.map fun entry => ⟨entry.1, entry.2.createdAt, entry.2.score⟩

section Orders

variable (db : RecommendDb) (orders : Scores)

/-- The signals of the items of an order with a score -/
def signalsOf (orderId : Nat) : List OrderSignal :=
  orderSignalsOf orders
    ⟨orderId, db.orderItems.filter fun item => decide (item.orderId = orderId)⟩

/-- The credit of a signal goes to the variant of its snapshot. -/
def creditOf (signal : OrderSignal) : Option Credit :=
  (db.snapshots.find? fun s => decide (s.id = signal.snapshotId)).map fun s =>
    ⟨toString s.bookVariantId, signal.createdAt, signal.score⟩

def orderCredits : List Credit :=
  (db.orders.flatMap (signalsOf db orders)).filterMap (creditOf db)

end Orders

/-! ### Sums of credits -/

section Sums

variable {ε : Type} {idOf : ε → String} {type : String} {timeOf : ε → Nat} {gain : ε → ℚ}
variable {events events' : List ε} {map : Scores}

/-- The order of the events does not matter. -/
theorem HoldsInterest.perm
    (h : HoldsInterest idOf type timeOf gain events map)
    (hperm : events.Perm events') :
    HoldsInterest idOf type timeOf gain events' map where
  interest id x hx := by
    have hheld := h.interest id x hx
    refine ⟨hheld.objectId, hheld.objectType, ?_, ?_, fun ev hev => ?_⟩
    · rw [hheld.score]
      exact ((hperm.filter _).map _).sum_eq
    · obtain ⟨ev, hev, hat⟩ := hheld.attained
      exact ⟨ev, hperm.mem_iff.mp hev, hat⟩
    · exact hheld.latest ev (hperm.mem_iff.mpr hev)
  absent id hnone ev hev := h.absent id hnone ev (hperm.mem_iff.mpr hev)

theorem KeyedById.of_append {map map' : Scores} (h : KeyedById (map ++ map')) :
    KeyedById map := by
  refine ⟨?_, fun entry hentry => h.keyed entry (List.mem_append_left _ hentry)⟩
  have hnodup := h.nodup
  rw [List.map_append] at hnodup
  exact hnodup.of_append_left

/-- A map of scores is the sum of its entries. -/
theorem creditScores_variantCredits
    (hkeyed : KeyedById map)
    (htype : ∀ entry, entry ∈ map → entry.2.objectType = "bookVariant") :
    creditScores (variantCredits map) = map := by
  induction map using List.reverseRecOn with
  | nil =>
      rfl
  | append_singleton map entry ih =>
      have ih := ih hkeyed.of_append fun e he => htype e (List.mem_append_left _ he)
      have hlast : entry ∈ map ++ [entry] := by simp
      have hnew : entry.1 ∉ map.map Prod.fst := by
        have hnodup := hkeyed.nodup
        rw [List.map_append, List.nodup_append] at hnodup
        exact fun hmem => hnodup.2.2 _ hmem _ (by simp) rfl
      have hnone : JsMap.get map entry.1 = none := JsMap.get_eq_none_iff.mpr hnew
      have hid := hkeyed.keyed entry hlast
      have hkind := htype entry hlast
      rw [creditScores, variantCredits, List.map_append, List.map_singleton, scoresOf_concat]
      rw [creditScores, variantCredits] at ih
      rw [ih, upsertScore_eq_set, hnone, JsMap.set, if_neg hnew]
      obtain ⟨key, x⟩ := entry
      obtain ⟨objectId, objectType, createdAt, score⟩ := x
      dsimp only at hid hkind
      subst hid hkind
      rfl

/-- Credits are added to a map as if its entries had come first. -/
theorem foldl_upsertScore
    (hkeyed : KeyedById map)
    (htype : ∀ entry, entry ∈ map → entry.2.objectType = "bookVariant")
    (credits : List Credit) :
    credits.foldl (fun m c => upsertScore m c.variantId "bookVariant" c.createdAt c.score) map =
      creditScores (variantCredits map ++ credits) := by
  rw [creditScores, scoresOf, List.foldl_append]
  congr 1
  exact (creditScores_variantCredits hkeyed htype).symm

end Sums

/-! ### What is kept -/

section Kept

variable {map : Scores} {k : Nat}

theorem positiveEntries_getTopKMap (h : KeyedById map) :
    positiveEntries (getTopKMap map k) = getTopKMap map k := by
  rw [positiveEntries, List.filter_eq_self]
  intro entry hentry
  rw [getTopKMap_eq h] at hentry
  obtain ⟨x, hx, rfl⟩ := List.mem_map.mp hentry
  have hmem := mem_positiveEntries_of_ranked h (List.mem_of_mem_take hx)
  exact (List.mem_filter.mp hmem).2

/-- What was kept once is kept again. -/
theorem topK_self (h : KeyedById map) (hk : 1 ≤ k) :
    TopK k (getTopKMap map k) (getTopKMap map k) := by
  have htop := topK_getTopKMap h hk
  refine ⟨?_, fun entry hentry => ?_, htop.sorted, fun entry entry' _ hentry' hout => ?_⟩
  · rw [positiveEntries_getTopKMap h, htop.length]
    omega
  · rwa [positiveEntries_getTopKMap h]
  · rw [positiveEntries_getTopKMap h] at hentry'
    exact absurd hentry' hout

theorem objectType_getTopKMap
    (hkeyed : KeyedById map)
    (htype : ∀ entry, entry ∈ map → entry.2.objectType = "bookVariant") :
    ∀ entry, entry ∈ getTopKMap map k → entry.2.objectType = "bookVariant" := by
  intro entry hentry
  rw [getTopKMap_eq hkeyed] at hentry
  obtain ⟨x, hx, rfl⟩ := List.mem_map.mp hentry
  have hmem := mem_positiveEntries_of_ranked hkeyed (List.mem_of_mem_take hx)
  exact htype _ (List.mem_of_mem_filter hmem)

end Kept

/-! ### The signals of the orders -/

section Signals

variable {number : String → Option Int} {db : RecommendDb} {o : CandidateOrder}
variable {variants orders merged : Scores}

/-- An order with a score is found by the text of its id. -/
theorem idIn_of_get
    (hnumber : ∀ n : Nat, number (toString n) = some (n : Int))
    {orderId : Nat} (h : JsMap.get orders (toString orderId) ≠ none) :
    RecommendDb.idIn (orders.map fun entry => number entry.1) orderId = true := by
  have hkey : toString orderId ∈ orders.map Prod.fst := by
    by_contra hnot
    exact h (JsMap.get_eq_none_iff.mpr hnot)
  obtain ⟨entry, hentry, hfst⟩ := List.mem_map.mp hkey
  rw [RecommendDb.idIn, decide_eq_true_eq, ← hnumber orderId, ← hfst]
  exact List.mem_map.mpr ⟨entry, hentry, rfl⟩

theorem orderSignalsOf_perm
    {orderId : Nat} {items items' : List OrderItemRow} (h : items.Perm items') :
    (orderSignalsOf orders ⟨orderId, items⟩).Perm (orderSignalsOf orders ⟨orderId, items'⟩) := by
  unfold orderSignalsOf
  dsimp only
  split
  · exact .refl _
  · exact (h.filter _).map _

theorem signalsOf_eq_nil
    {orderId : Nat} (h : JsMap.get orders (toString orderId) = none) :
    signalsOf db orders orderId = [] := by
  simp only [signalsOf, orderSignalsOf, h]

/-- The signals that are read are those of all orders, in some order. -/
theorem perm_orderSignals
    (hnumber : ∀ n : Nat, number (toString n) = some (n : Int))
    {rows : List OrderWithItemsRow}
    (h : db.findOrderItemsByOrderId o (orders.map fun entry => number entry.1) = .ok rows) :
    (rows.flatMap (orderSignalsOf orders)).Perm (db.orders.flatMap (signalsOf db orders)) := by
  have hfound : db.orders.flatMap (signalsOf db orders) =
      (db.orders.filter (RecommendDb.idIn (orders.map fun entry => number entry.1))).flatMap
        (signalsOf db orders) := by
    generalize db.orders = ids
    induction ids with
    | nil =>
        rfl
    | cons id ids ih =>
        rw [List.flatMap_cons, List.filter_cons, ih]
        split_ifs with hid
        · rw [List.flatMap_cons]
        · rw [signalsOf_eq_nil (by_contra fun hget => hid (idIn_of_get hnumber hget)),
            List.nil_append]
  rw [hfound]
  unfold RecommendDb.findOrderItemsByOrderId at h
  split_ifs at h with hnil hnone
  · cases h
    simp [hnil, RecommendDb.idIn]
  · cases h
    rw [List.flatMap_map]
    refine ((o.orders.perm _).flatMap_right _).trans ?_
    exact List.Perm.flatMap_left _ fun id _ => orderSignalsOf_perm (o.items.perm _)

/-- The variant of a snapshot, as the merge looks it up -/
theorem get_variantBySnapshot
    (hsnapshots : (db.snapshots.map BookVariantSnapshot.id).Nodup)
    {ids : List Nat} {snapshotId : Nat} (hid : snapshotId ∈ ids) :
    JsMap.get (JsMap.ofEntries ((db.findVariantIdsBySnapshotIds o.purchased ids).map fun row =>
      (toString row.id, toString row.bookVariantId))) (toString snapshotId) =
        (db.snapshots.find? fun s => decide (s.id = snapshotId)).map fun s =>
          toString s.bookVariantId := by
  have hrows : ((db.findVariantIdsBySnapshotIds o.purchased ids).map fun row =>
      toString row.id).Nodup := by
    have hids : ((db.findVariantIdsBySnapshotIds o.purchased ids).map
        BookVariantSnapshot.id).Nodup := by
      rw [RecommendDb.findVariantIdsBySnapshotIds, ((o.purchased.perm _).map _).nodup_iff]
      exact (List.filter_sublist.map _).nodup hsnapshots
    have htexts := hids.map toString_nat_injective
    rwa [List.map_map] at htexts
  have hkeys : (((db.findVariantIdsBySnapshotIds o.purchased ids).map fun row =>
      (toString row.id, toString row.bookVariantId)).map Prod.fst).Nodup := by
    rwa [List.map_map]
  rw [JsMap.ofEntries_of_nodup hkeys]
  refine Option.ext fun text => ?_
  rw [JsMap.get_eq_some_iff hkeys, List.mem_map, Option.map_eq_some_iff]
  constructor
  · rintro ⟨s, hs, heq⟩
    obtain ⟨hsid, htext⟩ := Prod.mk.inj heq
    have hs := mem_findVariantIdsBySnapshotIds.mp hs
    refine ⟨s, ?_, htext⟩
    rw [find?_key_eq_some_iff hsnapshots]
    exact ⟨hs.1, toString_nat_injective hsid⟩
  · rintro ⟨s, hs, rfl⟩
    rw [find?_key_eq_some_iff hsnapshots] at hs
    obtain ⟨hs, rfl⟩ := hs
    exact ⟨s, mem_findVariantIdsBySnapshotIds.mpr ⟨hs, hid⟩, rfl⟩

/-- Signals are added with the credits that they are. -/
theorem addSignals_eq
    {variantBySnapshot : List (String × String)} {signals : List OrderSignal}
    (h : ∀ signal, signal ∈ signals →
      JsMap.get variantBySnapshot (toString signal.snapshotId) =
        (db.snapshots.find? fun s => decide (s.id = signal.snapshotId)).map fun s =>
          toString s.bookVariantId) :
    addSignals variantBySnapshot variants signals =
      (signals.filterMap (creditOf db)).foldl (fun map c =>
        upsertScore map c.variantId "bookVariant" c.createdAt c.score) variants := by
  induction signals generalizing variants with
  | nil =>
      rfl
  | cons signal signals ih =>
      have ih : ∀ map, addSignals variantBySnapshot map signals =
          (signals.filterMap (creditOf db)).foldl (fun map c =>
            upsertScore map c.variantId "bookVariant" c.createdAt c.score) map :=
        fun _ => ih fun s hs => h s (List.mem_cons_of_mem _ hs)
      have hfirst := h signal List.mem_cons_self
      rw [addSignals, List.foldl_cons, hfirst]
      rw [List.filterMap_cons, creditOf]
      cases hfind : db.snapshots.find? fun s => decide (s.id = signal.snapshotId) with
      | none =>
          exact ih variants
      | some s =>
          exact ih _

/-- No signal is of a snapshot that is in the table. -/
theorem credits_eq_nil
    {signals : List OrderSignal}
    (h : db.findVariantIdsBySnapshotIds o.purchased
      (JsMap.newSet (signals.map OrderSignal.snapshotId)) = []) :
    signals.filterMap (creditOf db) = [] := by
  rw [List.filterMap_eq_nil_iff]
  intro signal hsignal
  rw [creditOf, Option.map_eq_none_iff, List.find?_eq_none]
  intro s hs hid
  have hmem : s ∈ db.findVariantIdsBySnapshotIds o.purchased
      (JsMap.newSet (signals.map OrderSignal.snapshotId)) := by
    rw [mem_findVariantIdsBySnapshotIds, JsMap.mem_newSet, of_decide_eq_true hid]
    exact ⟨hs, List.mem_map_of_mem hsignal⟩
  rw [h] at hmem
  cases hmem

/-- The merge keeps the twenty best of the credits, whatever it returns early. -/
theorem topK_mergerRecommendVariantAndOrder
    (hnumber : ∀ n : Nat, number (toString n) = some (n : Int))
    (hsnapshots : (db.snapshots.map BookVariantSnapshot.id).Nodup)
    (hkeyed : KeyedById variants)
    (htype : ∀ entry, entry ∈ variants → entry.2.objectType = "bookVariant")
    (hself : TopK 20 variants variants)
    (h : mergerRecommendVariantAndOrder number db o variants orders = .ok merged) :
    ∃ credits, credits.Perm (orderCredits db orders) ∧
      TopK 20 (creditScores (variantCredits variants ++ credits)) merged := by
  -- without credits the scores of the variants are all there is
  have hnone : ∀ credits : List Credit, credits.Perm (orderCredits db orders) → credits = [] →
      ∃ credits, credits.Perm (orderCredits db orders) ∧
        TopK 20 (creditScores (variantCredits variants ++ credits)) variants := by
    intro credits hperm hnil
    refine ⟨credits, hperm, ?_⟩
    rw [hnil, List.append_nil, creditScores_variantCredits hkeyed htype]
    exact hself
  unfold mergerRecommendVariantAndOrder at h
  dsimp only at h
  split at h
  · rename_i hids
    cases h
    obtain rfl := List.map_eq_nil_iff.mp hids
    refine hnone (orderCredits db []) (.refl _) ?_
    have hsignals : db.orders.flatMap (signalsOf db []) = [] :=
      List.flatMap_eq_nil_iff.mpr fun id _ => signalsOf_eq_nil rfl
    rw [orderCredits, hsignals, List.filterMap_nil]
  cases hrows : db.findOrderItemsByOrderId o (orders.map fun entry => number entry.1) with
  | error e =>
      rw [hrows] at h
      cases h
  | ok rows =>
      rw [hrows] at h
      simp only [bind, Except.bind] at h
      have hperm : ((rows.flatMap (orderSignalsOf orders)).filterMap (creditOf db)).Perm
          (orderCredits db orders) :=
        (perm_orderSignals hnumber hrows).filterMap _
      split at h
      · rename_i hnil
        cases h
        exact hnone _ hperm (by rw [hnil]; rfl)
      split at h
      · rename_i hnil
        cases h
        exact hnone _ hperm (by rw [hnil]; rfl)
      split at h
      · rename_i hnil
        cases h
        refine hnone _ hperm (credits_eq_nil (o := o) ?_)
        rw [hnil, RecommendDb.findVariantIdsBySnapshotIds]
        simpa using (o.purchased.perm []).eq_nil
      split at h
      · rename_i hnil
        cases h
        exact hnone _ hperm (credits_eq_nil hnil)
      · cases h
        refine ⟨_, hperm, ?_⟩
        rw [← foldl_upsertScore hkeyed htype, ← addSignals_eq fun signal hsignal =>
          get_variantBySnapshot hsnapshots
            (JsMap.mem_newSet.mpr (List.mem_map_of_mem hsignal))]
        exact topK_getTopKMap (keyedById_addSignals hkeyed _ _) (by decide)

theorem mergerRecommendVariantAndOrder_error_iff :
    mergerRecommendVariantAndOrder number db o variants orders = .error .database ↔
      ∃ entry, entry ∈ orders ∧ number entry.1 = none := by
  have hnone : (∃ entry, entry ∈ orders ∧ number entry.1 = none) ↔
      none ∈ orders.map fun entry => number entry.1 := by
    rw [List.mem_map]
  rw [hnone]
  unfold mergerRecommendVariantAndOrder
  dsimp only
  split
  · rename_i hids
    rw [hids]
    simp [pure, Except.pure]
  rename_i hids
  rw [RecommendDb.findOrderItemsByOrderId, if_neg hids]
  split_ifs with hmem
  · simp [bind, Except.bind, hmem]
  · simp only [bind, Except.bind, hmem, iff_false]
    split
    · simp [pure, Except.pure]
    split
    · simp [pure, Except.pure]
    split
    · simp [pure, Except.pure]
    split <;> simp [pure, Except.pure]

end Signals

/--
The merge of the two maps keeps the twenty best sums, of the score of a variant and of the items
of scored orders that were bought in its snapshots, in any order of the rows.  It throws where
the id of an order is not a number, and only there.
-/
theorem merge_interest
    {number : String → Option Int} {db : RecommendDb}
    (hnumber : ∀ n : Nat, number (toString n) = some (n : Int))
    (hsnapshots : (db.snapshots.map BookVariantSnapshot.id).Nodup)
    (o : CandidateOrder) (score : UserEventRow → ℚ) (variantEvents : List UserEventRow)
    {variants : Scores}
    (hvariants : variants = buildScore score "bookVariant" VARIANT_EVENT_TYPES variantEvents)
    (orders : Scores) :
    (mergerRecommendVariantAndOrder number db o variants orders = .error .database ↔
      ∃ entry, entry ∈ orders ∧ number entry.1 = none) ∧
    ∀ merged, mergerRecommendVariantAndOrder number db o variants orders = .ok merged →
      ∃ full, HoldsCredits (variantCredits variants ++ orderCredits db orders) full ∧
        TopK 20 full merged := by
  refine ⟨mergerRecommendVariantAndOrder_error_iff, fun merged hmerged => ?_⟩
  rw [buildScore_eq] at hvariants
  have hkeyed := keyedById_scoresOf objectOf "bookVariant" UserEventRow.createdAt score
    (variantEvents.filter (accepted "bookVariant" VARIANT_EVENT_TYPES))
  have hholds := holdsInterest_scoresOf objectOf "bookVariant" UserEventRow.createdAt score
    (variantEvents.filter (accepted "bookVariant" VARIANT_EVENT_TYPES))
  have htype : ∀ entry, entry ∈ variants → entry.2.objectType = "bookVariant" := by
    rw [hvariants]
    refine objectType_getTopKMap hkeyed fun entry hentry => ?_
    exact (hholds.interest _ _ ((JsMap.get_eq_some_iff hkeyed.nodup).mpr hentry)).objectType
  obtain ⟨credits, hperm, htop⟩ := topK_mergerRecommendVariantAndOrder hnumber hsnapshots
    (hvariants ▸ keyedById_getTopKMap hkeyed 20) htype
    (hvariants ▸ topK_self hkeyed (by decide)) hmerged
  refine ⟨_, ?_, htop⟩
  exact (holdsInterest_scoresOf _ _ _ _ _).perm (hperm.append_left _)

theorem sampleNumber_toString (n : Nat) : sampleNumber (toString n) = some (n : Int) := by
  have hdigits : (toString n).toList = Nat.toDigits 10 n := Nat.toList_repr
  have hall : (Nat.toDigits 10 n).all Char.isDigit = true :=
    List.all_eq_true.mpr fun c hc => Nat.isDigit_of_mem_toDigits (by decide) (by decide) hc
  rw [sampleNumber, hdigits, if_pos hall, Nat.ofDigitChars_ten_toDigits]

/-- Variant 9 was looked at, and it is in an order with a score. -/
theorem merge_interest_sampleBought :
    ∃ merged full, mergerRecommendVariantAndOrder sampleNumber (sampleBought []) tableOrder
        (buildScore (fun _ => 1) "bookVariant" VARIANT_EVENT_TYPES (sampleBought []).userEvents)
        [("1", ⟨"1", "order", 0, 8⟩)] = .ok merged ∧
      merged = [("9", ⟨"9", "bookVariant", 0, 9⟩)] ∧
      HoldsCredits [⟨"9", 0, 1⟩, ⟨"9", 0, 8⟩] full ∧ TopK 20 full merged := by
  have hends : mergerRecommendVariantAndOrder sampleNumber (sampleBought []) tableOrder
      (buildScore (fun _ => 1) "bookVariant" VARIANT_EVENT_TYPES (sampleBought []).userEvents)
        [("1", ⟨"1", "order", 0, 8⟩)] = .ok [("9", ⟨"9", "bookVariant", 0, 9⟩)] := by
    decide +kernel
  have hcredits : variantCredits (buildScore (fun _ => 1) "bookVariant" VARIANT_EVENT_TYPES
      (sampleBought []).userEvents) ++
        orderCredits (sampleBought []) [("1", ⟨"1", "order", 0, 8⟩)] =
      [⟨"9", 0, 1⟩, ⟨"9", 0, 8⟩] := by
    decide +kernel
  obtain ⟨full, hfull, htop⟩ := (merge_interest sampleNumber_toString (by decide) tableOrder
    (fun _ => 1) (sampleBought []).userEvents rfl [("1", ⟨"1", "order", 0, 8⟩)]).2 _ hends
  rw [hcredits] at hfull
  exact ⟨_, full, hends, rfl, hfull, htop⟩

end UserEvents
end BookStore
