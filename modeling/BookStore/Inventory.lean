import BookStore.Effects

/-!
# Arithmetic of the variant rows

Each statement that writes variants changes every row by adding to `stock` and
to `reserved`; the lemmas say what it adds.  The quantities come from maps.
-/

namespace BookStore

/-! ### Rows -/

/-- The row with `a` more in stock and `b` more reserved. -/
def BookVariant.add (r : BookVariant) (a b : Int) : BookVariant :=
  { r with stock := r.stock + a, reserved := r.reserved + b }

namespace BookVariant

@[simp] theorem key_add (r : BookVariant) (a b : Int) : key (r.add a b) = key r := rfl

@[simp] theorem add_id (r : BookVariant) (a b : Int) : (r.add a b).id = r.id := rfl

@[simp] theorem add_stock (r : BookVariant) (a b : Int) :
    (r.add a b).stock = r.stock + a := rfl

@[simp] theorem add_reserved (r : BookVariant) (a b : Int) :
    (r.add a b).reserved = r.reserved + b := rfl

@[simp] theorem add_available (r : BookVariant) (a b : Int) :
    (r.add a b).available = r.available := rfl

@[simp] theorem add_zero (r : BookVariant) : r.add 0 0 = r := by
  simp [add]

theorem add_add (r : BookVariant) (a b a' b' : Int) :
    (r.add a b).add a' b' = r.add (a + a') (b + b') := by
  simp [add, Int.add_assoc]

end BookVariant

/-! ### Maps -/

theorem mapGet_cons (e : Nat × Int) (m : List (Nat × Int)) (j : Nat) :
    mapGet (e :: m) j = if e.1 = j then some e.2 else mapGet m j := by
  by_cases h : e.1 = j <;> simp [mapGet, h]

theorem mapGet_mapSet (m : List (Nat × Int)) (k : Nat) (q : Int) (j : Nat) :
    mapGet (mapSet m k q) j = if k = j then some q else mapGet m j := by
  induction m with
  | nil =>
      rw [mapSet, mapGet_cons]
  | cons e m ih =>
      rw [mapSet]
      split_ifs with hek hkj hkj
      · rw [mapGet_cons, if_pos hkj]
      · rw [mapGet_cons, mapGet_cons, if_neg hkj, if_neg (by omega)]
      · rw [mapGet_cons, ih, if_pos hkj, if_neg (by omega)]
      · rw [mapGet_cons, mapGet_cons, ih, if_neg hkj]

/-- `new Map(entries)` has every key of its entries. -/
theorem mapGet_mapOf_isSome
    {entries : List (Nat × Int)} {k : Nat}
    (hk : k ∈ entries.map Prod.fst) :
    (mapGet (mapOf entries) k).isSome := by
  have key : ∀ (entries m : List (Nat × Int)),
      k ∈ entries.map Prod.fst ∨ (mapGet m k).isSome →
      (mapGet (entries.foldl (fun m e => mapSet m e.1 e.2) m) k).isSome := by
    intro entries
    induction entries with
    | nil =>
        intro m h
        simpa using h
    | cons e entries ih =>
        intro m h
        refine ih _ ?_
        rw [mapGet_mapSet]
        rcases h with h | h
        · rcases List.mem_cons.mp h with rfl | h
          · simp
          · exact .inl h
        · split_ifs <;> simp [h]
  exact key entries [] (.inl hk)

/-- The quantity a map has for `v`. -/
def mapQuantity (m : List (Nat × Int)) (v : Nat) : Int :=
  (mapGet m v).getD 0

/-! ### Statements -/

theorem granted_of_not_listed
    {payload : List CheckoutItemDto} {r : BookVariant}
    (h : payload.any (fun p => decide (p.bookVariantId = r.id)) = false) :
    granted payload r = 0 := by
  have hnone : payload.find? (fun p => decide (p.bookVariantId = r.id)) = none := by
    rw [List.find?_eq_none]
    intro p hp
    simpa using List.any_eq_false.mp h p hp
  simp [granted, hnone]

theorem rows_updateReservedByIds
    (payload : List CheckoutItemDto)
    (t : Table BookVariant) :
    (updateReservedByIds payload t).rows =
      t.rows.map (fun r => r.add 0 (granted payload r)) := by
  rw [updateReservedByIds, Table.rows_updateWhere]
  refine List.map_congr_left (fun r _ => ?_)
  split_ifs with h
  · simp [BookVariant.add]
  · rw [granted_of_not_listed (by simpa using h), BookVariant.add_zero]

theorem rows_shiftVariants
    (a b : Int)
    (m : List (Nat × Int))
    (t : Table BookVariant) :
    (shiftVariants a b m t).rows =
      t.rows.map (fun r => r.add (a * mapQuantity m r.id) (b * mapQuantity m r.id)) := by
  rw [shiftVariants, Table.rows_updateWhere]
  refine List.map_congr_left (fun r _ => ?_)
  split_ifs with h
  · rfl
  · have hnone : mapGet m r.id = none := by simpa using h
    simp [mapQuantity, hnone]

theorem quantityOf_cons (v : Nat) (l : Nat × Int) (lines : List (Nat × Int)) :
    quantityOf v (l :: lines) = (if l.1 = v then l.2 else 0) + quantityOf v lines := by
  simp [quantityOf]

theorem rows_incrementStockById
    (items : List (Nat × Nat))
    (t : Table BookVariant) :
    (incrementStockById items t).rows =
      t.rows.map (fun r =>
        r.add (quantityOf r.id (items.map fun i => (i.1, (i.2 : Int)))) 0) := by
  induction items generalizing t with
  | nil =>
      simp [incrementStockById, quantityOf]
  | cons i items ih =>
      have hstep : incrementStockById (i :: items) t =
          incrementStockById items
            (t.update i.1 fun r => { r with stock := r.stock + i.2 }) := rfl
      rw [hstep, ih, Table.update, Table.rows_updateWhere, List.map_map]
      refine List.map_congr_left (fun r _ => ?_)
      simp only [Function.comp, List.map_cons, quantityOf_cons]
      by_cases hi : r.id = i.1
      · simp [key, hi, BookVariant.add, Int.add_assoc]
      · simp [key, hi, Ne.symm hi, BookVariant.add]

/-! ### Stock and reserved units of a variant -/

section Columns

variable {db db' : Database}

/-- The variant has a row. -/
def Database.hasVariant (db : Database) (v : Nat) : Bool :=
  (db.variants.find v).isSome

/-- No statement creates or removes a variant. -/
theorem exec_hasVariant
    {dep : Deployment} {s : Stmt} {w w' : World} {r : Response s}
    (h : exec dep s w = .ok (w', r)) (v : Nat) :
    w'.db.hasVariant v = w.db.hasVariant v := by
  have hadd : ∀ {t : Table BookVariant} {a b : BookVariant → Int},
      t.rows = w.db.variants.rows.map (fun r => r.add (a r) (b r)) →
      (t.find v).isSome = (w.db.variants.find v).isSome := by
    intro t a b hrows
    rw [Table.find_of_rows_map (fun r => BookVariant.key_add r (a r) (b r)) hrows,
      Option.isSome_map]
  rw [Database.hasVariant, (exec_effects dep h).variants]
  cases s with
  | updateReservedByIds payload origin =>
      exact hadd (rows_updateReservedByIds payload _)
  | decrementVariantsStock variantMap delivery k =>
      exact hadd (rows_shiftVariants _ _ variantMap _)
  | incrementVariantsStock variantMap =>
      exact hadd (rows_shiftVariants _ _ variantMap _)
  | clearOrder variantMap =>
      exact hadd (rows_shiftVariants _ _ variantMap _)
  | importStock data =>
      exact hadd (rows_incrementStockById _ _)
  | _ =>
      rfl

variable (db db') in
/-- Where every row is shifted, so are the columns of each variant that exists. -/
theorem columns_of_rows_add
    {a b : BookVariant → Int}
    (h : db'.variants.rows = db.variants.rows.map (fun r => r.add (a r) (b r)))
    (v : Nat) :
    db'.stock v = db.stock v + ((db.variants.find v).map a).getD 0 ∧
      db'.reserved v = db.reserved v + ((db.variants.find v).map b).getD 0 := by
  simp only [Database.stock, Database.reserved,
    Table.find_of_rows_map (fun r => BookVariant.key_add r (a r) (b r)) h v]
  cases db.variants.find v <;> simp

variable (db db') in
theorem columns_updateReservedByIds
    {payload : List CheckoutItemDto}
    (h : db'.variants = updateReservedByIds payload db.variants)
    (v : Nat) :
    db'.stock v = db.stock v ∧
      db'.reserved v =
        db.reserved v + ((db.variants.find v).map (granted payload)).getD 0 := by
  have := columns_of_rows_add db db' (a := fun _ => 0)
    (b := granted payload) (by rw [h, rows_updateReservedByIds]) v
  refine ⟨?_, this.2⟩
  rw [this.1]
  cases db.variants.find v <;> simp

variable (db db') in
theorem columns_shiftVariants
    {a b : Int} {m : List (Nat × Int)}
    (h : db'.variants = shiftVariants a b m db.variants)
    (v : Nat) :
    db'.stock v = db.stock v + (if db.hasVariant v then a * mapQuantity m v else 0) ∧
      db'.reserved v =
        db.reserved v + (if db.hasVariant v then b * mapQuantity m v else 0) := by
  have := columns_of_rows_add db db'
    (a := fun r => a * mapQuantity m r.id) (b := fun r => b * mapQuantity m r.id)
    (by rw [h, rows_shiftVariants]) v
  rw [this.1, this.2]
  cases hv : db.variants.find v with
  | none =>
      simp [Database.hasVariant, hv]
  | some r =>
      have hid : r.id = v := Table.find_key hv
      simp [Database.hasVariant, hv, hid]

variable (db db') in
theorem columns_incrementStockById
    {items : List (Nat × Nat)}
    (h : db'.variants = incrementStockById items db.variants)
    (v : Nat) :
    db'.stock v = db.stock v +
        (if db.hasVariant v then
          quantityOf v (items.map fun i => (i.1, (i.2 : Int))) else 0) ∧
      db'.reserved v = db.reserved v := by
  have := columns_of_rows_add db db'
    (a := fun r => quantityOf r.id (items.map fun i => (i.1, (i.2 : Int))))
    (b := fun _ => 0) (by rw [h, rows_incrementStockById]) v
  rw [this.1, this.2]
  cases hv : db.variants.find v with
  | none =>
      simp [Database.hasVariant, hv]
  | some r =>
      have hid : r.id = v := Table.find_key hv
      simp [Database.hasVariant, hv, hid]

end Columns

/-! ### Quantities of lists -/

theorem quantityOf_append (v : Nat) (l l' : List (Nat × Int)) :
    quantityOf v (l ++ l') = quantityOf v l + quantityOf v l' := by
  simp [quantityOf]

/-- A variant that is not listed has no quantity. -/
theorem quantityOf_of_not_mem
    {v : Nat} {lines : List (Nat × Int)}
    (h : v ∉ lines.map Prod.fst) :
    quantityOf v lines = 0 := by
  induction lines with
  | nil =>
      rfl
  | cons l lines ih =>
      rw [List.map_cons, List.mem_cons, not_or] at h
      rw [quantityOf_cons, ih h.2, if_neg (Ne.symm h.1)]
      rfl

/-- A variant that is listed once has the quantity of its line. -/
theorem quantityOf_of_mem
    {v : Nat} {q : Int} {lines : List (Nat × Int)}
    (hnodup : (lines.map Prod.fst).Nodup)
    (h : (v, q) ∈ lines) :
    quantityOf v lines = q := by
  induction lines with
  | nil =>
      cases h
  | cons l lines ih =>
      rw [List.map_cons, List.nodup_cons] at hnodup
      rw [quantityOf_cons]
      rcases List.mem_cons.mp h with rfl | h
      · rw [quantityOf_of_not_mem hnodup.1]
        simp
      · have hne : l.1 ≠ v := by
          intro hl
          exact hnodup.1 (hl ▸ List.mem_map_of_mem (f := Prod.fst) h)
        rw [ih hnodup.2 h, if_neg hne, zero_add]

theorem quantityOf_nonneg
    {v : Nat} {lines : List (Nat × Int)}
    (h : ∀ l, l ∈ lines → 0 ≤ l.2) :
    0 ≤ quantityOf v lines := by
  induction lines with
  | nil =>
      exact le_refl _
  | cons l lines ih =>
      have hl := h l (by simp)
      have := ih (fun l' hl' => h l' (List.mem_cons_of_mem l hl'))
      rw [quantityOf_cons]
      split_ifs <;> omega

/-- Entries for other keys do not change what a map has for `v`. -/
theorem mapGet_foldl_of_not_mem
    {v : Nat} {lines : List (Nat × Int)} (m : List (Nat × Int))
    (hv : v ∉ lines.map Prod.fst) :
    mapGet (lines.foldl (fun m e => mapSet m e.1 e.2) m) v = mapGet m v := by
  induction lines generalizing m with
  | nil =>
      rfl
  | cons l lines ih =>
      rw [List.map_cons, List.mem_cons, not_or] at hv
      rw [List.foldl_cons, ih _ hv.2, mapGet_mapSet, if_neg (Ne.symm hv.1)]

/-- In a map made of lines with different variants every line is found. -/
theorem mapGet_mapOf_of_mem
    {v : Nat} {q : Int} {lines : List (Nat × Int)}
    (hnodup : (lines.map Prod.fst).Nodup)
    (h : (v, q) ∈ lines) :
    mapGet (mapOf lines) v = some q := by
  have key : ∀ m : List (Nat × Int),
      mapGet (lines.foldl (fun m e => mapSet m e.1 e.2) m) v = some q := by
    induction lines with
    | nil =>
        cases h
    | cons l lines ih =>
        intro m
        rw [List.map_cons, List.nodup_cons] at hnodup
        rw [List.foldl_cons]
        rcases List.mem_cons.mp h with rfl | h
        · rw [mapGet_foldl_of_not_mem _ hnodup.1, mapGet_mapSet, if_pos rfl]
        · exact ih hnodup.2 h _
  exact key []

/-- With different variants the map has the quantities of the lines. -/
theorem mapQuantity_mapOf
    {lines : List (Nat × Int)}
    (hnodup : (lines.map Prod.fst).Nodup)
    (v : Nat) :
    mapQuantity (mapOf lines) v = quantityOf v lines := by
  by_cases hv : v ∈ lines.map Prod.fst
  · obtain ⟨⟨v', q⟩, hl, rfl⟩ := List.mem_map.mp hv
    rw [mapQuantity, mapGet_mapOf_of_mem hnodup hl, quantityOf_of_mem hnodup hl]
    rfl
  · rw [mapQuantity, mapOf, mapGet_foldl_of_not_mem _ hv, quantityOf_of_not_mem hv]
    rfl

/-! ### The variants of a checkout -/

/-- The variants found are different and among those asked for. -/
structure FoundFor (items : List CheckoutItemDto) (variants : List BookVariant) :
    Prop where
  nodup : (variants.map (·.id)).Nodup
  mem : ∀ v, v ∈ variants → v.id ∈ items.map (·.bookVariantId)

theorem foundFor_findByIds (items : List CheckoutItemDto) (t : Table BookVariant) :
    FoundFor items
      (t.filter fun r => (items.map (·.bookVariantId)).contains r.id) where
  nodup := t.nodup.sublist (List.filter_sublist.map _)
  mem := fun v hv => by simpa using (List.mem_filter.mp hv).2

/-- With as many variants as items each item has its variant. -/
theorem FoundFor.perm
    {items : List CheckoutItemDto} {variants : List BookVariant}
    (h : FoundFor items variants)
    (hlength : variants.length = items.length) :
    (variants.map (·.id)).Perm (items.map (·.bookVariantId)) := by
  have hsub : (variants.map (·.id)).Subperm (items.map (·.bookVariantId)) := by
    refine List.subperm_of_subset h.nodup (fun k hk => ?_)
    obtain ⟨v, hv, rfl⟩ := List.mem_map.mp hk
    exact h.mem v hv
  exact hsub.perm_of_length_le (by simp [hlength])

/-- With as many variants as items no two items are for the same variant. -/
theorem FoundFor.items_nodup
    {items : List CheckoutItemDto} {variants : List BookVariant}
    (h : FoundFor items variants)
    (hlength : variants.length = items.length) :
    (items.map (·.bookVariantId)).Nodup :=
  (h.perm hlength).nodup_iff.mp h.nodup

end BookStore
