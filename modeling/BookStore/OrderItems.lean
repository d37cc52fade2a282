import BookStore.Inventory

/-!
# Snapshots and order items

How a job turns the variants of its payload into snapshots and items: after
`createSnapshots` every variant has a snapshot, `createItems` appends one row for
each variant, and the rows lead back to the variants and quantities.
-/

namespace BookStore

/-! ### Snapshots -/

/-- Some snapshot has the content hash. -/
def HasSnapshot (t : Table BookVariantSnapshot) (h : ContentHash) : Prop :=
  ∃ s, s ∈ t.rows ∧ s.contentHash = some h

/-- A snapshot is one of the variant that its content hash names. -/
def SnapshotsSound (t : Table BookVariantSnapshot) : Prop :=
  ∀ s, s ∈ t.rows → ∀ h, s.contentHash = some h → s.bookVariantId = h.id

theorem insertSnapshot_of_has
    {t : Table BookVariantSnapshot} {i : SnapshotInput}
    (h : HasSnapshot t i.contentHash) :
    insertSnapshot t i = t := by
  obtain ⟨s, hs, hhash⟩ := h
  have : t.rows.any (fun s => decide (s.contentHash = some i.contentHash)) = true :=
    List.any_eq_true.mpr ⟨s, hs, by simpa using hhash⟩
  simp [insertSnapshot, this]

/-- The new snapshot, if there is one, comes last. -/
theorem rows_insertSnapshot (t : Table BookVariantSnapshot) (i : SnapshotInput) :
    insertSnapshot t i = t ∨
      (insertSnapshot t i).rows = t.rows ++
        [⟨t.next, i.bookVariantId, some i.contentHash, i.priceSnapshot,
          i.formatSnapshot⟩] := by
  unfold insertSnapshot
  split_ifs
  · exact .inl rfl
  · exact .inr rfl

theorem insertSnapshot_mem
    {t : Table BookVariantSnapshot} {i : SnapshotInput} {s : BookVariantSnapshot}
    (hs : s ∈ t.rows) :
    s ∈ (insertSnapshot t i).rows := by
  rcases rows_insertSnapshot t i with h | h
  · rwa [h]
  · rw [h]
    exact List.mem_append_left _ hs

theorem has_insertSnapshot (t : Table BookVariantSnapshot) (i : SnapshotInput) :
    HasSnapshot (insertSnapshot t i) i.contentHash := by
  by_cases h : t.rows.any (fun s => decide (s.contentHash = some i.contentHash)) = true
  · obtain ⟨s, hs, hhash⟩ := List.any_eq_true.mp h
    exact ⟨s, insertSnapshot_mem hs, by simpa using hhash⟩
  · refine ⟨⟨t.next, i.bookVariantId, some i.contentHash, i.priceSnapshot,
      i.formatSnapshot⟩, ?_, rfl⟩
    simp [insertSnapshot, h]

theorem createSnapshots_mem
    {items : List SnapshotInput} {t : Table BookVariantSnapshot}
    {s : BookVariantSnapshot}
    (hs : s ∈ t.rows) :
    s ∈ (items.foldl insertSnapshot t).rows := by
  induction items generalizing t with
  | nil =>
      exact hs
  | cons i items ih =>
      exact ih (insertSnapshot_mem hs)

/-- After `createSnapshots` every input has its snapshot. -/
theorem has_createSnapshots
    {items : List SnapshotInput} {t : Table BookVariantSnapshot} {i : SnapshotInput}
    (hi : i ∈ items) :
    HasSnapshot (items.foldl insertSnapshot t) i.contentHash := by
  induction items generalizing t with
  | nil =>
      cases hi
  | cons j items ih =>
      rcases List.mem_cons.mp hi with rfl | hi
      · obtain ⟨s, hs, hhash⟩ := has_insertSnapshot t i
        exact ⟨s, createSnapshots_mem (t := insertSnapshot t i) hs, hhash⟩
      · exact ih hi

/-- A second `createSnapshots` finds only duplicates. -/
theorem createSnapshots_of_has
    {items : List SnapshotInput} {t : Table BookVariantSnapshot}
    (h : ∀ i, i ∈ items → HasSnapshot t i.contentHash) :
    items.foldl insertSnapshot t = t := by
  induction items with
  | nil =>
      rfl
  | cons i items ih =>
      rw [List.foldl_cons, insertSnapshot_of_has (h i (by simp))]
      exact ih (fun j hj => h j (List.mem_cons_of_mem i hj))

theorem createSnapshots_sound
    {items : List SnapshotInput} {t : Table BookVariantSnapshot}
    (ht : SnapshotsSound t)
    (hitems : ∀ i, i ∈ items → i.bookVariantId = i.contentHash.id) :
    SnapshotsSound (items.foldl insertSnapshot t) := by
  induction items generalizing t with
  | nil =>
      exact ht
  | cons i items ih =>
      refine ih ?_ (fun j hj => hitems j (List.mem_cons_of_mem i hj))
      rcases rows_insertSnapshot t i with h | h
      · rwa [h]
      · intro s hs hash hhash
        rw [h] at hs
        rcases List.mem_append.mp hs with hs | hs
        · exact ht s hs hash hhash
        · rw [List.mem_singleton.mp hs] at hhash ⊢
          cases hhash
          exact hitems i (by simp)

/-- A snapshot id that is found belongs to a snapshot of the hash. -/
theorem snapshotIdOf_eq_some
    {found : List BookVariantSnapshot} {h : ContentHash} {id : Nat}
    (hid : snapshotIdOf found h = some id) :
    ∃ s, s ∈ found ∧ s.contentHash = some h ∧ s.id = id := by
  obtain ⟨s, hs, rfl⟩ := Option.map_eq_some_iff.mp hid
  refine ⟨s, List.mem_reverse.mp (List.mem_of_find?_eq_some hs), ?_, rfl⟩
  simpa using List.find?_some hs

theorem snapshotIdOf_isSome
    {found : List BookVariantSnapshot} {h : ContentHash} {s : BookVariantSnapshot}
    (hs : s ∈ found)
    (hhash : s.contentHash = some h) :
    (snapshotIdOf found h).isSome := by
  rw [snapshotIdOf, Option.isSome_map, List.find?_isSome]
  exact ⟨s, List.mem_reverse.mpr hs, by simpa using hhash⟩

/-! ### Items -/

/-- What an item says: its order, its snapshot and its quantity. -/
def itemEntry (i : OrderItem) : Nat × Option Nat × Option Int :=
  (i.orderId, some i.bookVariantSnapshotId, some i.quantity)

/-- `createMany` appends one row for each input. -/
theorem insertItems_entries
    {k : Nat} {items : List OrderItemInput} {t t' : Table OrderItem}
    (h : insertItems k items t = some t') :
    t'.rows.map itemEntry = t.rows.map itemEntry ++
      items.map (fun i => (k, i.bookVariantSnapshotId, i.quantity)) := by
  induction items generalizing t with
  | nil =>
      cases h
      simp
  | cons i items ih =>
      simp only [insertItems] at h
      split at h
      · rename_i snapshotId quantity hid hq
        rw [ih h, Table.rows_insert, List.map_append, List.append_assoc]
        simp [itemEntry, hid, hq]
      · cases h

theorem insertItems_isSome
    {k : Nat} {items : List OrderItemInput} {t : Table OrderItem}
    (h : ∀ i, i ∈ items → i.bookVariantSnapshotId.isSome ∧ i.quantity.isSome) :
    (insertItems k items t).isSome := by
  induction items generalizing t with
  | nil =>
      rfl
  | cons i items ih =>
      obtain ⟨hid, hq⟩ := h i (by simp)
      obtain ⟨snapshotId, hid⟩ := Option.isSome_iff_exists.mp hid
      obtain ⟨quantity, hq⟩ := Option.isSome_iff_exists.mp hq
      simp only [insertItems, hid, hq]
      exact ih (fun j hj => h j (List.mem_cons_of_mem i hj))

/-- Rows are only written for complete inputs. -/
theorem insertItems_complete
    {k : Nat} {items : List OrderItemInput} {t : Table OrderItem}
    (h : (insertItems k items t).isSome) :
    ∀ i, i ∈ items → i.bookVariantSnapshotId.isSome ∧ i.quantity.isSome := by
  induction items generalizing t with
  | nil =>
      intro i hi
      cases hi
  | cons j items ih =>
      simp only [insertItems] at h
      split at h
      · rename_i snapshotId quantity hid hq
        intro i hi
        rcases List.mem_cons.mp hi with rfl | hi
        · simp [hid, hq]
        · exact ih h i hi
      · cases h

/-- The input that the job makes of a variant. -/
theorem exists_mem_snapshotItems
    {payload : CheckoutJobPayload} (found : List BookVariantSnapshot)
    {v : OrderVariant}
    (hv : v ∈ payload.variants) :
    ∃ i, i ∈ snapshotItems payload found ∧
      i.quantity = mapGet payload.mapVariantIds v.id :=
  ⟨_, List.mem_map_of_mem (List.mem_map_of_mem hv), rfl⟩

/-- Every variant of the job has a quantity. -/
def CheckoutJobPayload.Complete (payload : CheckoutJobPayload) : Prop :=
  ∀ v, v ∈ payload.variants → (mapGet payload.mapVariantIds v.id).isSome

/-- The jobs of checkouts are complete. -/
theorem checkoutJobPayload_complete
    {body : CreateCheckOutDTO} {guestSessionId : Option String}
    {userId : Option Nat} {email : Option String} {variants : List BookVariant}
    {isError : Bool} {order : Order}
    (hvariants : ∀ v, v ∈ variants → v.id ∈ body.items.map (·.bookVariantId)) :
    (checkoutJobPayload body guestSessionId userId email variants isError
      order).Complete := by
  intro v hv
  obtain ⟨row, hrow, rfl⟩ := List.mem_map.mp hv
  refine mapGet_mapOf_isSome ?_
  rw [List.map_map]
  exact hvariants row hrow

/-- Every input of the job is complete when its snapshots have been found. -/
theorem snapshotItems_complete
    {payload : CheckoutJobPayload} {found : List BookVariantSnapshot}
    (hquantity : payload.Complete)
    (hfound : ∀ v, v ∈ payload.variants →
      ∃ s, s ∈ found ∧ s.contentHash = some (generateContentHash v)) :
    ∀ i, i ∈ snapshotItems payload found →
      i.bookVariantSnapshotId.isSome ∧ i.quantity.isSome := by
  intro i hi
  obtain ⟨s, hs, rfl⟩ := List.mem_map.mp hi
  obtain ⟨v, hv, rfl⟩ := List.mem_map.mp hs
  obtain ⟨row, hrow, hhash⟩ := hfound v hv
  exact ⟨snapshotIdOf_isSome hrow hhash, hquantity v hv⟩

/-! ### The lines of an order -/

/-- The lines that a job stands for. -/
def jobLines (payload : CheckoutJobPayload) : List (Nat × Int) :=
  payload.variants.map fun v => (v.id, (mapGet payload.mapVariantIds v.id).getD 0)

/-- The line of order `k` that an item stands for. -/
def lineOfEntry (db : Database) (k : Nat) (e : Nat × Option Nat × Option Int) :
    Option (Nat × Int) :=
  if e.1 = k then
    (e.2.1.bind db.variantOfSnapshot).bind fun v => e.2.2.map fun q => (v, q)
  else none

theorem itemQuantities_eq_entries (db : Database) (k : Nat) :
    db.itemQuantities k =
      (db.orderItems.rows.map itemEntry).filterMap (lineOfEntry db k) := by
  simp only [Database.itemQuantities, Database.itemsOf, Table.filter]
  induction db.orderItems.rows with
  | nil =>
      rfl
  | cons i rows ih =>
      rw [List.map_cons, List.filter_cons]
      by_cases hk : i.orderId = k
      · simp only [hk, decide_true, if_true, List.filterMap_cons, lineOfEntry, itemEntry,
          Option.bind_some, Option.map_some]
        rw [ih]
        cases db.variantOfSnapshot i.bookVariantSnapshotId <;> rfl
      · simp only [hk, decide_false, Bool.false_eq_true, if_false, List.filterMap_cons,
          lineOfEntry, itemEntry]
        exact ih

/-- The snapshots found belong to the variants of the job. -/
structure FoundSnapshots (payload : CheckoutJobPayload)
    (found : List BookVariantSnapshot) (t : Table BookVariantSnapshot) : Prop where
  find : ∀ s, s ∈ found → t.find s.id = some s
  has : ∀ v, v ∈ payload.variants →
    ∃ s, s ∈ found ∧ s.contentHash = some (generateContentHash v)

/-- The items that a job writes are its lines. -/
theorem itemQuantities_createItems
    {payload : CheckoutJobPayload} {found : List BookVariantSnapshot}
    {db : Database} {k : Nat} {t : Table OrderItem}
    (hcomplete : payload.Complete)
    (hfound : FoundSnapshots payload found db.snapshots)
    (hsound : SnapshotsSound db.snapshots)
    (hempty : db.itemsOf k = [])
    (h : insertItems k (snapshotItems payload found) db.orderItems = some t) :
    Database.itemQuantities { db with orderItems := t } k = jobLines payload := by
  have hold : (db.orderItems.rows.map itemEntry).filterMap (lineOfEntry db k) = [] := by
    rw [← itemQuantities_eq_entries, Database.itemQuantities, hempty]
    rfl
  have hline : ∀ v, v ∈ payload.variants →
      lineOfEntry db k (k, snapshotIdOf found (generateContentHash v),
        mapGet payload.mapVariantIds v.id) =
      some (v.id, (mapGet payload.mapVariantIds v.id).getD 0) := by
    intro v hv
    obtain ⟨s, hs, hhash⟩ := hfound.has v hv
    obtain ⟨id, hid⟩ := Option.isSome_iff_exists.mp (snapshotIdOf_isSome hs hhash)
    obtain ⟨s', hs', hhash', rfl⟩ := snapshotIdOf_eq_some hid
    have hvariant : db.variantOfSnapshot s'.id = some v.id := by
      rw [Database.variantOfSnapshot, hfound.find s' hs']
      exact congrArg some (hsound s' (Table.find_mem (hfound.find s' hs')) _ hhash')
    obtain ⟨q, hq⟩ := Option.isSome_iff_exists.mp (hcomplete v hv)
    rw [hid, hq, lineOfEntry, if_pos rfl]
    simp only [Option.bind_some, hvariant, Option.map_some, Option.getD_some]
  have hentries := insertItems_entries h
  have hdb : lineOfEntry { db with orderItems := t } k = lineOfEntry db k := rfl
  rw [itemQuantities_eq_entries, hdb]
  show (t.rows.map itemEntry).filterMap _ = _
  rw [hentries, List.filterMap_append, hold, List.nil_append, snapshotItems,
    List.map_map, List.map_map, List.filterMap_map, jobLines, ← List.filterMap_eq_map]
  exact List.filterMap_congr hline

/-- Unchanged items with unchanged snapshots are unchanged lines. -/
theorem itemQuantities_congr
    {db db' : Database} {k : Nat}
    (hitems : db'.itemsOf k = db.itemsOf k)
    (hsnapshots : ∀ i, i ∈ db.itemsOf k →
      db'.snapshots.find i.bookVariantSnapshotId =
        db.snapshots.find i.bookVariantSnapshotId) :
    db'.itemQuantities k = db.itemQuantities k := by
  rw [Database.itemQuantities, Database.itemQuantities, hitems]
  refine List.filterMap_congr (fun i hi => ?_)
  rw [Database.variantOfSnapshot, Database.variantOfSnapshot, hsnapshots i hi]

end BookStore
