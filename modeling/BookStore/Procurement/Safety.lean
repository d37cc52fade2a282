import BookStore.Inventory
import BookStore.Procurement.Service

/-!
# What may be imported

Runs of purchase orders, decisions, transfers and imports, statement by statement in any
order.

* `ProcurementSafe`: stock was increased for approved orders only, an imported item is one
  of the order that the import is for, an order has one import, and no more is received of
  an item than was ordered.
* `ImportSound`: what the transaction of an import would have to check.
* `procurement_safe` is the result; in `pending_order_imported` an order that nobody has
  approved is imported, and more of its item than was ordered.
-/

namespace BookStore

open Async Program

/-- The units that a list of imported items has of one item. -/
def receivedUnits (purchaseOrderItemId : String) (items : List StockImportItem) : Int :=
  (items.map fun i =>
    if i.purchaseOrderItemId = purchaseOrderItemId then (i.realQuantity : Int) else 0).sum

/-- The units of an item that were imported so far. -/
def ProcurementDb.received (db : ProcurementDb) (purchaseOrderItemId : String) : Int :=
  receivedUnits purchaseOrderItemId (db.stockImports.rows.flatMap StockImport.items)

/-- The units of a variant that stock was increased by. -/
def increasedUnits (v : Nat) (increases : List StockIncrease) : Int :=
  quantityOf v (increases.map fun e => (e.bookVariantId, (e.quantity : Int)))

structure ProcurementSafe (w : ProcurementWorld) : Prop where
  approved : ∀ e, e ∈ w.increases → 0 < e.quantity → e.status = .approved
  belongs : ∀ s, s ∈ w.db.stockImports.rows → ∀ l, l ∈ s.items →
    ∃ i, i ∈ w.db.purchaseOrderItems.rows ∧
      i.id = l.purchaseOrderItemId ∧ i.purchaseOrderId = s.purchaseOrderId
  once : (w.db.stockImports.rows.map StockImport.purchaseOrderId).Nodup
  ordered : ∀ i, i ∈ w.db.purchaseOrderItems.rows → w.db.received i.id ≤ i.quantity

/-- No import has been made yet. -/
structure NothingImported (w : ProcurementWorld) : Prop where
  stockImports : w.db.stockImports.rows = []
  increases : w.increases = []
  ordered : ∀ i, i ∈ w.db.purchaseOrderItems.rows → 0 ≤ i.quantity

/--
The order is approved, or nothing has arrived; each line is for an item of the order, and
the lines for an item do not add up to more than was ordered.
-/
def ImportSound (db : ProcurementDb) (p : PurchaseOrderRow) (data : StockImportInput) : Prop :=
  (p.status = .approved ∨ ∀ l, l ∈ data.lines → l.realQuantity = 0) ∧
    ∀ l, l ∈ data.lines → ∃ i, i ∈ db.purchaseOrderItems.rows ∧
      i.id = l.purchaseOrderItemId ∧ i.purchaseOrderId = data.purchaseOrderId ∧
      receivedUnits i.id (importItems data) ≤ i.quantity

/-- An import that is not refused is sound. -/
def ImportsSound (cuids : Nat → String) (w : ProcurementWorld) (s : ProcurementStmt)
    (o : Outcome) : Prop :=
  match s with
  | .createStockImport data =>
      o = .fail ∨ createdStockImport cuids w.now data w.db = none ∨
        ∀ p, p ∈ w.db.purchaseOrders.find data.purchaseOrderId → ImportSound w.db p data
  | _ => True

instance (db : ProcurementDb) (p : PurchaseOrderRow) (data : StockImportInput) :
    Decidable (ImportSound db p data) := by
  unfold ImportSound
  infer_instance

instance (cuids : Nat → String) (w : ProcurementWorld) (s : ProcurementStmt) (o : Outcome) :
    Decidable (ImportsSound cuids w s o) := by
  apply ProcurementStmt.casesOn (motive := fun s => Decidable (ImportsSound cuids w s o)) s <;>
    intros <;> unfold ImportsSound <;> infer_instance

/-! ### Units -/

section Units

variable {k : String} {items items' : List StockImportItem}

theorem receivedUnits_append :
    receivedUnits k (items ++ items') = receivedUnits k items + receivedUnits k items' := by
  simp [receivedUnits]

theorem receivedUnits_of_forall_ne (h : ∀ i, i ∈ items → i.purchaseOrderItemId ≠ k) :
    receivedUnits k items = 0 := by
  refine List.sum_eq_zero fun x hx => ?_
  obtain ⟨i, hi, rfl⟩ := List.mem_map.mp hx
  exact if_neg (h i hi)

theorem increasedUnits_append {v : Nat} {es es' : List StockIncrease} :
    increasedUnits v (es ++ es') = increasedUnits v es + increasedUnits v es' := by
  simp [increasedUnits, quantityOf_append]

end Units

section Safety

variable {cuids : Nat → String} {now : Nat} {w w' : ProcurementWorld} {db db' : ProcurementDb}
  {data : StockImportInput} {p : PurchaseOrderRow}

theorem received_congr (h : db'.stockImports = db.stockImports) {k : String} :
    db'.received k = db.received k := by
  rw [ProcurementDb.received, h, ProcurementDb.received]

theorem NothingImported.safe (h : NothingImported w) : ProcurementSafe w where
  approved := by
    intro e he
    rw [h.increases] at he
    cases he
  belongs := by
    intro s hs
    rw [h.stockImports] at hs
    cases hs
  once := w.db.stockImports.nodup
  ordered := by
    intro i hi
    rw [ProcurementDb.received, h.stockImports]
    exact h.ordered i hi

/-- Only the imports, the items and the increases matter. -/
theorem ProcurementSafe.congr
    (h : ProcurementSafe w)
    (himports : w'.db.stockImports = w.db.stockImports)
    (hitems : w'.db.purchaseOrderItems = w.db.purchaseOrderItems)
    (hincreases : w'.increases = w.increases) :
    ProcurementSafe w' where
  approved := hincreases ▸ h.approved
  belongs := by
    rw [himports, hitems]
    exact h.belongs
  once := w'.db.stockImports.nodup
  ordered := by
    intro i hi
    rw [received_congr himports]
    exact h.ordered i (hitems ▸ hi)

/-! ### A purchase order is created -/

/-- Nothing has arrived of an item that no import can name. -/
theorem ProcurementSafe.received_of_new
    (h : ProcurementSafe w) {k : String}
    (hnew : ∀ i, i ∈ w.db.purchaseOrderItems.rows → i.id ≠ k) :
    w.db.received k = 0 := by
  refine receivedUnits_of_forall_ne fun l hl => ?_
  obtain ⟨s, hs, hl⟩ := List.mem_flatMap.mp hl
  obtain ⟨i, hi, hid, -⟩ := h.belongs s hs l hl
  exact hid ▸ hnew i hi

theorem ProcurementSafe.createPurchaseOrder
    (h : ProcurementSafe w)
    {input : CreatePurchaseOrderInput} {items : List CreatePurchaseOrderItemInput}
    (hdb : PurchaseOrderCreated cuids now input items w.db db') :
    ProcurementSafe { w with db := db' } where
  approved := h.approved
  belongs := by
    intro s hs l hl
    rw [hdb.stockImports] at hs
    obtain ⟨i, hi, hfor⟩ := h.belongs s hs l hl
    exact ⟨i, by rw [hdb.purchaseOrderItems]; exact List.mem_append_left _ hi, hfor⟩
  once := db'.stockImports.nodup
  ordered := by
    intro i hi
    rw [received_congr hdb.stockImports]
    rw [hdb.purchaseOrderItems] at hi
    rcases List.mem_append.mp hi with hi | hi
    · exact h.ordered i hi
    · have hnew : ∀ i', i' ∈ w.db.purchaseOrderItems.rows → i'.id ≠ i.id :=
        fun i' hi' => Registry.ne_of_append hdb.purchaseOrderItems hi' hi
      rw [h.received_of_new hnew]
      obtain ⟨n, hn, rfl⟩ := List.mem_mapIdx.mp hi
      exact Rat.num_nonneg.mpr (zero_le_one.trans items[n].quantity_min)

/-! ### An import is made -/

/-- Nothing has arrived of an item whose order has no import. -/
theorem ProcurementSafe.received_eq_zero
    (h : ProcurementSafe w) {i : PurchaseOrderItemRow}
    (hi : i ∈ w.db.purchaseOrderItems.rows)
    (hnone : ∀ s, s ∈ w.db.stockImports.rows → s.purchaseOrderId ≠ i.purchaseOrderId) :
    w.db.received i.id = 0 := by
  refine receivedUnits_of_forall_ne fun l hl hid => ?_
  obtain ⟨s, hs, hl⟩ := List.mem_flatMap.mp hl
  obtain ⟨i', hi', hid', horder⟩ := h.belongs s hs l hl
  -- the id is unique
  cases Registry.eq_of_ident_eq hi hi' (hid.symm.trans hid'.symm)
  exact hnone s hs horder.symm

theorem StockImportCreated.received
    (hdb : StockImportCreated cuids now data db db') (k : String) :
    db'.received k = db.received k + receivedUnits k (importItems data) := by
  rw [ProcurementDb.received, hdb.stockImports, List.flatMap_append, receivedUnits_append,
    List.flatMap_singleton]
  rfl

/-- An import leaves things safe exactly if it is sound. -/
theorem ProcurementSafe.createStockImport_iff
    (h : ProcurementSafe w)
    (hdb : StockImportCreated cuids now data w.db db') :
    ProcurementSafe { w with db := db', increases := w.increases ++ increasesFor p data } ↔
      ImportSound w.db p data := by
  have hnone : ∀ s, s ∈ w.db.stockImports.rows → s.purchaseOrderId ≠ data.purchaseOrderId :=
    fun s hs => Registry.ne_of_append hdb.stockImports hs (List.mem_singleton_self _)
  have hline : ∀ l, l ∈ data.lines → (⟨l.purchaseOrderItemId, l.realQuantity, l.lackQuantity,
      l.totalPrice⟩ : StockImportItem) ∈ importItems data :=
    fun l hl => List.mem_map_of_mem hl
  constructor
  · intro h'
    refine ⟨?_, fun l hl => ?_⟩
    · by_cases hp : p.status = .approved
      · exact .inl hp
      · refine .inr fun l hl => Nat.eq_zero_of_not_pos fun hpos => hp ?_
        exact h'.approved ⟨p.id, p.status, l.bookVariantId, l.realQuantity⟩
          (List.mem_append_right _ (List.mem_map_of_mem hl)) hpos
    · obtain ⟨i, hi, hid, horder⟩ := h'.belongs (newStockImport (cuids w.db.drawn) data)
        (by rw [hdb.stockImports]; simp) _ (hline l hl)
      rw [hdb.purchaseOrderItems] at hi
      have hzero := h.received_eq_zero hi fun s hs => horder ▸ hnone s hs
      have hordered := h'.ordered i (by rw [hdb.purchaseOrderItems]; exact hi)
      rw [hdb.received, hzero, zero_add] at hordered
      exact ⟨i, hi, hid, horder, hordered⟩
  · rintro ⟨happroved, hitems⟩
    refine ⟨fun e he hpos => ?_, fun s hs l hl => ?_, db'.stockImports.nodup, fun i hi => ?_⟩
    · rcases List.mem_append.mp he with he | he
      · exact h.approved e he hpos
      · obtain ⟨l, hl, rfl⟩ := List.mem_map.mp he
        exact happroved.resolve_right fun hall => hpos.ne' (hall l hl)
    · rw [hdb.purchaseOrderItems]
      rw [hdb.stockImports] at hs
      rcases List.mem_append.mp hs with hs | hs
      · exact h.belongs s hs l hl
      · cases List.mem_singleton.mp hs
        obtain ⟨l', hl', rfl⟩ := List.mem_map.mp hl
        obtain ⟨i, hi, hid, horder, -⟩ := hitems l' hl'
        exact ⟨i, hi, hid, horder⟩
    · rw [hdb.purchaseOrderItems] at hi
      rw [hdb.received]
      by_cases hnamed : ∃ l, l ∈ data.lines ∧ l.purchaseOrderItemId = i.id
      · obtain ⟨l, hl, hid⟩ := hnamed
        obtain ⟨i', hi', hid', horder, hle⟩ := hitems l hl
        cases Registry.eq_of_ident_eq hi hi' (hid.symm.trans hid'.symm)
        rw [h.received_eq_zero hi fun s hs => horder ▸ hnone s hs, zero_add]
        exact hle
      · rw [receivedUnits_of_forall_ne fun l hl hid => hnamed ?_, add_zero]
        · exact h.ordered i hi
        · obtain ⟨l', hl', rfl⟩ := List.mem_map.mp hl
          exact ⟨l', hl', hid⟩

/-! ### Statements -/

/-- A statement leaves things safe exactly if it meets the condition. -/
theorem ProcurementSafe.attempt_iff
    (h : ProcurementSafe w) (s : ProcurementStmt) (o : Outcome) :
    ProcurementSafe (attempt (procurementExec cuids) Failure.database s o w).1 ↔
      ImportsSound cuids w s o := by
  have hiff := @Async.attempt_iff _ _ _ _ (procurementExec cuids) Failure.database
    (P := fun w w' => ProcurementSafe w → ProcurementSafe w')
    (G := fun w s o => ProcurementSafe w → ImportsSound cuids w s o)
    (fun _ h => h) ?_ ?_ ?_ s o w
  · exact ⟨fun hsafe => hiff.mp (fun _ => hsafe) h, fun hsound => hiff.mpr (fun _ => hsound) h⟩
  · intro s w _
    cases s with
    | createStockImport data =>
        exact .inl rfl
    | _ =>
        trivial
  · intro s o w e hexec _
    cases s with
    | createStockImport data =>
        rcases procurementExec_createStockImport_error hexec with hp | hdb
        · exact .inr (.inr (by simp [hp]))
        · exact .inr (.inl hdb)
    | _ =>
        trivial
  · intro s o w w' r ho hexec
    refine imp_congr_right fun h => ?_
    cases procurementExec_effect hexec with
    | createPurchaseOrder input items db hdb =>
        exact iff_of_true (h.createPurchaseOrder hdb) trivial
    | updatePurchaseOrderStatus purchaseOrderId approvedById status p hp =>
        exact iff_of_true (h.congr rfl rfl rfl) trivial
    | updateTransferStatus purchaseOrderId updateTransferId status realPayPrice p hp =>
        exact iff_of_true (h.congr rfl rfl rfl) trivial
    | createStockImport data p db hp hcreated hdb =>
        rw [h.createStockImport_iff hdb]
        simp [ImportsSound, ho, hcreated, hp]
    | _ =>
        exact iff_of_true h trivial

/-! ### Stock -/

/-- An import adds what it records to the stock. -/
theorem StockImportCreated.stock
    (hdb : StockImportCreated cuids now data db db') (v : Nat) :
    db'.stock v = db.stock v + increasedUnits v (increasesFor p data) := by
  have hlines : increasedUnits v (increasesFor p data) =
      quantityOf v ((data.lines.map fun l => (l.bookVariantId, l.realQuantity)).map
        fun i => (i.1, (i.2 : Int))) := by
    simp only [increasedUnits, increasesFor, List.map_map]
    rfl
  have hfind : db'.variants.find v = (db.variants.find v).map fun r =>
      r.add (increasedUnits r.id (increasesFor p data)) 0 := by
    refine Table.find_of_rows_map
      (fun r => BookVariant.key_add r (increasedUnits r.id (increasesFor p data)) 0) ?_ v
    rw [hdb.variants, rows_incrementStockById]
    simp only [increasedUnits, increasesFor, List.map_map]
    rfl
  simp only [ProcurementDb.stock, hfind]
  cases hv : db.variants.find v with
  | some r =>
      have hid : r.id = v := Table.find_key hv
      simp [hid]
  | none =>
      -- every line has a variant
      have hmem : v ∉ ((data.lines.map fun l => (l.bookVariantId, l.realQuantity)).map
          fun i => (i.1, (i.2 : Int))).map Prod.fst := by
        intro hmem
        simp only [List.map_map, List.mem_map] at hmem
        obtain ⟨l, hl, rfl⟩ := hmem
        have hfound := hdb.found l hl
        rw [show db.variants.find l.bookVariantId = none from hv] at hfound
        cases hfound
      rw [hlines, quantityOf_of_not_mem hmem]
      rfl

/-- The stock of a variant and what it was increased by go together. -/
def StockAccounted (start : ProcurementWorld) (w : ProcurementWorld) : Prop :=
  ∀ v, w.db.stock v + increasedUnits v start.increases =
    start.db.stock v + increasedUnits v w.increases

theorem StockAccounted.exec
    {start : ProcurementWorld} {s : ProcurementStmt} {r : ProcurementResponse s}
    (h : StockAccounted start w)
    (hexec : procurementExec cuids s w = .ok (w', r)) :
    StockAccounted start w' := by
  cases procurementExec_effect hexec with
  | createPurchaseOrder input items db hdb =>
      intro v
      rw [ProcurementDb.stock, hdb.variants]
      exact h v
  | createStockImport data p db hp hcreated hdb =>
      intro v
      rw [hdb.stock (p := p), increasedUnits_append, add_right_comm, h v, add_assoc]
  | _ =>
      exact h

end Safety

/--
**Procurement safety.** From any tables without imports, a run stays safe in every state
exactly if every import that is not refused is sound; and what the stock of a variant has
grown by is what was recorded.
-/
theorem procurement_safe
    (cuids : Nat → String) (c : ProcurementState) (as : List (Action ProcurementEvent))
    (hstart : NothingImported c.world) :
    (Meets (procurementServer cuids).step
        (System.Respects (procurementServer cuids) fun _ w => ProcurementSafe w) c as ↔
      Meets (procurementServer cuids).step
        (System.Conforms (fun _ _ => True) (ImportsSound cuids)) c as) ∧
      ∀ c', runs (procurementServer cuids).step c as = some c' →
        ∀ v, c'.world.db.stock v = c.world.db.stock v + increasedUnits v c'.world.increases := by
  constructor
  · refine System.meets_invariant_iff (procurementServer cuids) (I := ProcurementSafe) ?_
      (fun s o w h => h.attempt_iff s o) as hstart.safe
    intro e w w' p h henv
    cases e with
    | arrive r =>
        cases henv
        exact h
    | tick ms =>
        cases henv
        exact h.congr rfl rfl rfl
  · intro c' hrun v
    have hstock : StockAccounted c.world c'.world :=
      System.invariant_runs (procurementServer cuids)
        (fun e w w' p h henv => by cases e <;> cases henv <;> exact h)
        (fun s w w' r h hexec => h.exec hexec) (fun _ => rfl) hrun
    have := hstock v
    rwa [hstart.increases, increasedUnits, quantityOf, List.map_nil, List.map_nil, List.sum_nil,
      add_zero] at this

/-- An order is created, approved and imported. -/
def approvedThenImported : List (Action ProcurementEvent) :=
  procurementRound 0 1 samplePurchase ++
    procurementRound 1 2 (.approvePurchaseOrder "cm" 2 .approved) ++
    procurementRound 2 2 (sampleImport 3 2)

theorem procurement_safe_approvedThenImported :
    Meets (procurementServer sampleDeployment.cuids).step
        (System.Respects (procurementServer sampleDeployment.cuids) fun _ w => ProcurementSafe w)
        ⟨sampleProcurement, []⟩ approvedThenImported ∧
      (runs (procurementServer sampleDeployment.cuids).step ⟨sampleProcurement, []⟩
        approvedThenImported).map (fun c => (c.world.increases, c.world.db.stock 1)) =
          some ([⟨"cm", .approved, 1, 2⟩], 2) :=
  ⟨(procurement_safe sampleDeployment.cuids ⟨sampleProcurement, []⟩ approvedThenImported
    ⟨rfl, rfl, fun _ h => by cases h⟩).1.mpr (by decide +kernel), by decide +kernel⟩

/-- An order that nobody has approved is imported. -/
def pendingThenImported : List (Action ProcurementEvent) :=
  procurementRound 0 1 samplePurchase ++ procurementRound 1 2 (sampleImport 3 5)

/-- Stock is increased for an order that is pending, by more than was ordered. -/
theorem pending_order_imported :
    ¬ ∀ (w : ProcurementWorld) (as : List (Action ProcurementEvent)) (c : ProcurementState),
      NothingImported w →
      runs (procurementServer sampleDeployment.cuids).step ⟨w, []⟩ as = some c →
      ProcurementSafe c.world := by
  intro h
  have hincreases : (runs (procurementServer sampleDeployment.cuids).step
      ⟨sampleProcurement, []⟩ pendingThenImported).map (fun c => c.world.increases) =
        some [⟨"cm", .pending, 1, 5⟩] := by
    decide +kernel
  obtain ⟨c, hrun, hincreases⟩ := Option.map_eq_some_iff.mp hincreases
  have hsafe := h sampleProcurement pendingThenImported c ⟨rfl, rfl, fun _ h => by cases h⟩ hrun
  cases hsafe.approved ⟨"cm", .pending, 1, 5⟩ (by simp [hincreases]) (by decide)

end BookStore
