import BookStore.Inventory
import BookStore.Procurement.Payments

/-!
# What a caller learns of an import

`createStockImport` reads its import again before it commits, by the import's own id where
`findStockImportById` expects the id of the purchase order.  The answer is `null`, and the
call throws after the commit.

* `Importable` lists what has to be there for the transaction to be committed.
* `importable_iff`: it is committed exactly then.
* `import_reports_iff`: what the caller learns agrees with what was done exactly if
  nothing was.
-/

namespace BookStore
namespace Numbers

open Async Program

/-- The import has been committed. -/
def Committed (w w' : ProcurementWorld) : Prop :=
  ∃ imported, w'.db.stockImports.rows = w.db.stockImports.rows ++ [imported]

/-- What the caller learns agrees with what was done. -/
structure ReportsTruly (w w' : ProcurementWorld) (x : Except Failure StockImport) : Prop where
  returned : (∃ detail, x = .ok detail) ↔ Committed w w'
  detail : ∀ detail, x = .ok detail →
    w'.db.stockImports.rows = w.db.stockImports.rows ++ [detail]
  thrown : ∀ e, x = .error e →
    w'.db.variants.rows = w.db.variants.rows ∧
      w'.db.purchaseOrders.rows = w.db.purchaseOrders.rows ∧
      w'.db.stockImports.rows = w.db.stockImports.rows

/-- The next cuid is not that of an order or an import. -/
structure CuidsApart (cuids : Nat → String) (db : ProcurementDb) : Prop where
  orders : ∀ p, p ∈ db.purchaseOrders.rows → p.id ≠ cuids db.drawn
  imports : ∀ s, s ∈ db.stockImports.rows →
    s.id ≠ cuids db.drawn ∧ s.purchaseOrderId ≠ cuids db.drawn

/-- The units that a body adds to the stock of a variant -/
def unitsFor (db : ProcurementDb) (body : CreateAdminStockImportRequestDto) (v : Nat) : ℚ :=
  lineSum db body fun row real => if row.bookVariantId = v then real else 0

/-- What has to be there for an import. -/
structure Importable (db : ProcurementDb) (user : Nat)
    (body : CreateAdminStockImportRequestDto) : Prop where
  user : user ∈ db.users
  order : (db.purchaseOrders.find body.purchaseOrderId).isSome
  once : db.stockImports.find body.purchaseOrderId = none
  items : ∀ item, item ∈ body.items → ∃ row,
    db.purchaseOrderItems.find item.purchaseOrderItemId = some row ∧
      FitsInt item.realQuantity ∧ FitsInt (row.quantity - item.realQuantity) ∧
      FitsDecimal (item.realQuantity * row.price -
        (row.quantity - item.realQuantity) * row.price) ∧
      (db.variants.find row.bookVariantId).isSome
  totalAmount : FitsDecimal (arrived db body - missing db body)
  realPayPrice : FitsDecimal
    (realPayPrice (arrived db body - missing db body) (unitPrices db body))
  stock : ∀ v, v ∈ db.variants.rows → FitsInt (v.stock + unitsFor db body v.id)

section Commit

variable {cuids : Nat → String} {db : ProcurementDb} {user now : Nat}
  {body : CreateAdminStockImportRequestDto} {data : StockImportInput}

/-- A stored line and the item it was made from -/
def StoredFrom (db : ProcurementDb) (item : CreateAdminStockImportItemRequestDto)
    (line : BookStore.StockImportLine) : Prop :=
  ∃ row, db.purchaseOrderItems.find item.purchaseOrderItemId = some row ∧
    line.bookVariantId = row.bookVariantId ∧
    (line.realQuantity : ℚ) = item.realQuantity ∧
    (line.lackQuantity : ℚ) = row.quantity - item.realQuantity ∧
    line.totalPrice = item.realQuantity * row.price -
      (row.quantity - item.realQuantity) * row.price

theorem storedFrom_of_pricedFrom
    {item : CreateAdminStockImportItemRequestDto} {line : StockImportLine × ℚ}
    {stored : BookStore.StockImportLine}
    (hline : PricedFrom db item line)
    (hstored : line.1.stored = some stored) :
    StoredFrom db item stored := by
  obtain ⟨row, hrow, -, hline⟩ := hline
  rw [hline] at hstored
  unfold StockImportLine.stored at hstored
  split_ifs at hstored with hwhole
  cases hstored
  refine ⟨row, hrow, rfl, ?_, ?_, rfl⟩
  · have hnum : 0 ≤ item.realQuantity.num := Rat.num_nonneg.mpr item.realQuantity_min
    have hcast : ((item.realQuantity.num.toNat : Int) : ℚ) = item.realQuantity := by
      rw [Int.toNat_of_nonneg hnum]
      exact Rat.den_eq_one_iff _ |>.mp hwhole.1
    exact_mod_cast hcast
  · exact Rat.den_eq_one_iff _ |>.mp hwhole.2

/-- The lines of an import, in the order of the body -/
theorem importOf_lines (h : importOf db user body = some data) :
    List.Forall₂ (StoredFrom db) body.items data.lines ∧ data.createdBy = user := by
  unfold importOf at h
  cases hmap : body.items.mapM (itemWithPrice (poItemsOf db body)) with
  | error e =>
      rw [hmap] at h
      cases h
  | ok lines =>
      rw [hmap] at h
      obtain ⟨stored, hstored, rfl⟩ := Option.map_eq_some_iff.mp h
      have hlines : List.Forall₂ (PricedFrom db) body.items lines :=
        (forall₂_mapM_ok hmap).imp fun _ _ => pricedFrom_itemWithPrice
      have hstores := List.forall₂_map_left_iff.mp (forall₂_mapM hstored)
      refine ⟨(forall₂_comp hlines hstores).imp fun item line h => ?_, rfl⟩
      obtain ⟨priced, hpriced, hline⟩ := h
      exact storedFrom_of_pricedFrom hpriced hline

theorem find_poItemsOf
    {item : CreateAdminStockImportItemRequestDto} {row : PurchaseOrderItemRow}
    (hitem : item ∈ body.items)
    (hrow : db.purchaseOrderItems.find item.purchaseOrderItemId = some row) :
    (poItemsOf db body).reverse.find? (fun i => decide (i.id = item.purchaseOrderItemId)) =
      some row.toPurchaseOrderItem := by
  have hnodup : ((poItemsOf db body).reverse.map fun i => i.id).Nodup := by
    rw [List.map_reverse, List.nodup_reverse, poItemsOf, List.map_map]
    exact db.purchaseOrderItems.nodup.sublist (List.filter_sublist.map _)
  refine (find?_key_eq_some_iff hnodup).mpr ⟨?_, Registry.find_ident hrow⟩
  refine List.mem_reverse.mpr (List.mem_map.mpr ⟨row, ?_, rfl⟩)
  refine List.mem_filter.mpr ⟨Registry.find_mem hrow, ?_⟩
  rw [List.contains_iff_mem, show row.id = item.purchaseOrderItemId from
    Registry.find_ident hrow]
  exact List.mem_map_of_mem hitem

/-- The call gets to the transaction if the items are there and whole. -/
theorem exists_importOf
    (h : ∀ item, item ∈ body.items → ∃ row,
      db.purchaseOrderItems.find item.purchaseOrderItemId = some row ∧
        Whole item.realQuantity) :
    ∃ data, importOf db user body = some data := by
  have hpriced : ∀ item, item ∈ body.items → ∃ line,
      itemWithPrice (poItemsOf db body) item = .ok line := by
    intro item hitem
    obtain ⟨row, hrow, -⟩ := h item hitem
    unfold itemWithPrice
    rw [find_poItemsOf hitem hrow]
    exact ⟨_, rfl⟩
  obtain ⟨lines, hlines⟩ := isOk_mapM hpriced
  unfold importOf
  rw [hlines]
  have hforall : List.Forall₂ (PricedFrom db) body.items lines :=
    (forall₂_mapM_ok hlines).imp fun _ _ => pricedFrom_itemWithPrice
  have hstored : ((lines.map Prod.fst).mapM StockImportLine.stored).isSome := by
    refine isSome_mapM.mpr fun line hline => ?_
    obtain ⟨priced, hmem, rfl⟩ := List.mem_map.mp hline
    obtain ⟨item, hitem, row, -, -, heq⟩ := exists_of_forall₂ hforall.flip hmem
    obtain ⟨-, -, hwhole⟩ := h item hitem
    rw [heq, StockImportLine.stored, if_pos]
    · rfl
    · refine ⟨hwhole, ?_⟩
      have hreal := (Rat.den_eq_one_iff _).mp hwhole
      have hlack : (row.quantity : ℚ) - item.realQuantity =
          ((row.quantity - item.realQuantity.num : Int) : ℚ) := by
        rw [Int.cast_sub, hreal]
      rw [hlack]
      exact Rat.den_intCast _
  exact Option.isSome_iff_exists.mp (by simpa [stockImportInput] using hstored)

/-! ### The transaction -/

theorem isSome_add {t : Registry StockImport} {s : StockImport} :
    (t.add s).isSome ↔ t.find s.purchaseOrderId = none := by
  rw [Registry.find_eq_none_iff, Registry.add]
  split_ifs with h
  · obtain ⟨r, hr, heq⟩ := List.mem_map.mp h
    simp only [Option.isSome_none, Bool.false_eq_true, false_iff, not_forall]
    exact ⟨r, hr, fun hne => hne heq⟩
  · refine iff_of_true rfl fun r hr heq => h ?_
    rw [show ident s = ident r from heq.symm]
    exact List.mem_map_of_mem hr

theorem isSome_guard_bind {α : Type} {p : Prop} [Decidable p] {f : Unit → Option α} :
    (guard p >>= f).isSome ↔ p ∧ (f ()).isSome := by
  by_cases hp : p
  · simp [guard, hp]
  · simp [guard, hp]

/-- When the transaction of an import is not refused -/
theorem isSome_createdStockImport :
    (createdStockImport cuids now data db).isSome ↔
      (data.createdBy ∈ db.users ∧ (db.purchaseOrders.find data.purchaseOrderId).isSome ∧
        FitsDecimal data.totalAmount ∧ FitsDecimal data.realPayPrice ∧
        (∀ s, s ∈ db.stockImports.rows → s.id ≠ cuids db.drawn) ∧
        ∀ line, line ∈ data.lines → db.Receives line) ∧
      db.stockImports.find data.purchaseOrderId = none ∧
      ∀ v, v ∈ (incrementStockById
        (data.lines.map fun l => (l.bookVariantId, l.realQuantity)) db.variants).rows →
          FitsInt v.stock := by
  unfold createdStockImport
  rw [isSome_guard_bind]
  refine and_congr Iff.rfl ?_
  have hadd := isSome_add (t := db.stockImports) (s := newStockImport (cuids db.drawn) data)
  cases himports : db.stockImports.add (newStockImport (cuids db.drawn) data) with
  | none =>
      rw [himports] at hadd
      exact iff_of_false (by simp) fun h => absurd (hadd.mpr h.1) (by simp)
  | some imports =>
      rw [himports] at hadd
      refine Iff.trans isSome_guard_bind ?_
      exact ⟨fun h => ⟨hadd.mp rfl, h.1⟩, fun h => ⟨h.2, rfl⟩⟩

/-! ### What has to be there -/

/-- A line is received if the item it was made from fits. -/
theorem receives_iff
    {item : CreateAdminStockImportItemRequestDto} {line : BookStore.StockImportLine}
    (h : StoredFrom db item line) :
    db.Receives line ↔ ∃ row,
      db.purchaseOrderItems.find item.purchaseOrderItemId = some row ∧
        FitsInt item.realQuantity ∧ FitsInt (row.quantity - item.realQuantity) ∧
        FitsDecimal (item.realQuantity * row.price -
          (row.quantity - item.realQuantity) * row.price) ∧
        (db.variants.find row.bookVariantId).isSome := by
  obtain ⟨row, hrow, hvariant, hreal, hlack, htotal⟩ := h
  have hreceives : db.Receives line ↔ FitsInt item.realQuantity ∧
      FitsInt (row.quantity - item.realQuantity) ∧
      FitsDecimal (item.realQuantity * row.price -
        (row.quantity - item.realQuantity) * row.price) ∧
      (db.variants.find row.bookVariantId).isSome := by
    rw [ProcurementDb.Receives, hvariant, hreal, hlack, htotal]
  rw [hreceives]
  refine ⟨fun h => ⟨row, hrow, h⟩, ?_⟩
  rintro ⟨row', hrow', h⟩
  obtain rfl := Option.some.inj (hrow.symm.trans hrow')
  exact h

/-- The units that the lines add to a variant -/
theorem cast_quantityOf
    {items : List CreateAdminStockImportItemRequestDto} {lines : List BookStore.StockImportLine}
    (h : List.Forall₂ (StoredFrom db) items lines) (v : Nat) :
    ((quantityOf v ((lines.map fun l => (l.bookVariantId, l.realQuantity)).map
      fun i => (i.1, (i.2 : Int))) : Int) : ℚ) =
        (items.map fun item => ((db.purchaseOrderItems.find item.purchaseOrderItemId).map
          fun row => if row.bookVariantId = v then item.realQuantity else 0).getD 0).sum := by
  induction h with
  | nil =>
      rfl
  | cons hline _ ih =>
      obtain ⟨row, hrow, hvariant, hreal, -⟩ := hline
      simp only [List.map_cons, quantityOf_cons, List.sum_cons, Int.cast_add, ih, hrow,
        Option.map_some, Option.getD_some, hvariant]
      congr 1
      split_ifs
      · exact_mod_cast hreal
      · rfl

theorem stock_fits_iff (hdata : importOf db user body = some data) :
    (∀ v, v ∈ (incrementStockById
      (data.lines.map fun l => (l.bookVariantId, l.realQuantity)) db.variants).rows →
        FitsInt v.stock) ↔
      ∀ v, v ∈ db.variants.rows → FitsInt (v.stock + unitsFor db body v.id) := by
  have hunits := cast_quantityOf (importOf_lines hdata).1
  rw [rows_incrementStockById, List.forall_mem_map]
  refine forall₂_congr fun v _ => ?_
  rw [unitsFor, lineSum, ← hunits v.id, ← Int.cast_add]
  rfl

variable (now) in
/-- The transaction is committed exactly if everything is there. -/
theorem importable_iff (hapart : CuidsApart cuids db) :
    Importable db user body ↔ ∃ data, importOf db user body = some data ∧
      (createdStockImport cuids now data db).isSome := by
  constructor
  · intro h
    obtain ⟨data, hdata⟩ : ∃ data, importOf db user body = some data := by
      refine exists_importOf fun item hitem => ?_
      obtain ⟨row, hrow, hreal, -⟩ := h.items item hitem
      exact ⟨row, hrow, hreal.1⟩
    obtain ⟨horder, htotal, hpay⟩ := importOf_amounts hdata
    obtain ⟨hlines, huser⟩ := importOf_lines hdata
    refine ⟨data, hdata, isSome_createdStockImport.mpr ⟨⟨?_, ?_, ?_, ?_, ?_, ?_⟩, ?_, ?_⟩⟩
    · exact huser ▸ h.user
    · exact horder ▸ h.order
    · exact htotal ▸ h.totalAmount
    · exact hpay ▸ h.realPayPrice
    · exact fun s hs => (hapart.imports s hs).1
    · intro line hline
      obtain ⟨item, hitem, hstored⟩ := exists_of_forall₂ hlines.flip hline
      exact (receives_iff hstored).mpr (h.items item hitem)
    · exact horder ▸ h.once
    · exact (stock_fits_iff hdata).mpr h.stock
  · rintro ⟨data, hdata, hcreated⟩
    obtain ⟨horder, htotal, hpay⟩ := importOf_amounts hdata
    obtain ⟨hlines, huser⟩ := importOf_lines hdata
    obtain ⟨⟨h₁, h₂, h₃, h₄, -, h₆⟩, h₇, h₈⟩ := isSome_createdStockImport.mp hcreated
    exact
      { user := huser ▸ h₁
        order := horder ▸ h₂
        once := horder ▸ h₇
        items := fun item hitem => by
          obtain ⟨line, hline, hstored⟩ := exists_of_forall₂ hlines hitem
          exact (receives_iff hstored).mp (h₆ line hline)
        totalAmount := htotal ▸ h₃
        realPayPrice := hpay ▸ h₄
        stock := (stock_fits_iff hdata).mp h₈ }

end Commit

/-! ### What the caller learns -/

section Calls

variable {cuids : Nat → String} {faults : ProcurementStmt → Outcome} {w w' : ProcurementWorld}
  {x : Except Failure StockImport} {user : Nat} {body : CreateAdminStockImportRequestDto}

/-- The import is not found by its own id. -/
theorem createStockImport_answers_null
    {data : StockImportInput} {r : Option StockImport}
    (hapart : CuidsApart cuids w.db)
    (hexec : procurementExec cuids (.createStockImport data) w = .ok (w', r)) :
    r = none := by
  obtain ⟨p, hp, hcreated⟩ := stockImportCreated_of_exec hexec
  have hnone : w'.db.stockImports.find (cuids w.db.drawn) = none := by
    refine Registry.find_eq_none_iff.mpr fun s hs => ?_
    rw [hcreated.stockImports] at hs
    rcases List.mem_append.mp hs with hs | hs
    · exact (hapart.imports s hs).2
    · rw [List.mem_singleton.mp hs]
      have hid : p.id = data.purchaseOrderId := Registry.find_ident hp
      have hne := hapart.orders p (Registry.find_mem hp)
      rwa [hid] at hne
  have hr : r = w'.db.stockImports.find (cuids w.db.drawn) := by
    cases hdb : createdStockImport cuids w.now data w.db with
    | none =>
        simp [procurementExec, hp, hdb] at hexec
    | some db =>
        simp only [procurementExec, hp, hdb, Except.ok.injEq, Prod.mk.injEq] at hexec
        obtain ⟨rfl, rfl⟩ := hexec
        rfl
  exact hr.trans hnone

/-- The transaction is executed if it is not refused. -/
theorem exec_createStockImport
    {data : StockImportInput}
    (horder : (w.db.purchaseOrders.find data.purchaseOrderId).isSome)
    (hcreated : (createdStockImport cuids w.now data w.db).isSome) :
    ∃ v r, procurementExec cuids (.createStockImport data) w = .ok (v, r) := by
  obtain ⟨p, hp⟩ := Option.isSome_iff_exists.mp horder
  obtain ⟨db, hdb⟩ := Option.isSome_iff_exists.mp hcreated
  simp only [procurementExec, hp, hdb]
  exact ⟨_, _, rfl⟩

/-- An import that is committed is never returned. -/
theorem committed_misreported
    (hapart : CuidsApart cuids w.db)
    (hends : (createStockImport user body).Ends (procurementExec cuids) .database faults w w' x)
    (hcommitted : Committed w w') :
    ¬ ReportsTruly w w' x := by
  intro h
  obtain ⟨detail, hx⟩ := h.returned.mpr hcommitted
  rcases ends_createStockImport hends with ⟨data, r, -, -, hexec, hx'⟩ | ⟨-, ⟨e, hx'⟩, -⟩
  · rw [createStockImport_answers_null hapart hexec] at hx'
    rcases hx' with hx' | hx' <;> rw [hx] at hx' <;> cases hx'
  · rw [hx] at hx'
    cases hx'

/--
**What a caller learns of an import.** However the statements of a call end, what the caller
learns agrees with what was done if and only if nothing was: something that an import needs
is not there, or a statement was not executed.
-/
theorem import_reports_iff
    (hapart : CuidsApart cuids w.db)
    (hends : (createStockImport user body).Ends (procurementExec cuids) .database faults w w' x) :
    ReportsTruly w w' x ↔ ¬ (Importable w.db user body ∧ Executed faults w.db user body) := by
  rcases ends_createStockImport hends with
    ⟨data, r, hdata, hdone, hexec, hx⟩ | ⟨rfl, ⟨e, rfl⟩, hrefused⟩
  · -- the import is committed
    obtain ⟨p, hp, hcreated⟩ := stockImportCreated_of_exec hexec
    refine iff_of_false (committed_misreported hapart hends ⟨_, hcreated.stockImports⟩)
      (not_not.mpr ⟨?_, hdone⟩)
    refine (importable_iff w.now hapart).mpr ⟨data, hdata, ?_⟩
    cases hdb : createdStockImport cuids w.now data w.db with
    | none =>
        simp [procurementExec, hp, hdb] at hexec
    | some db =>
        rfl
  · refine iff_of_true ⟨?_, fun _ h => (by cases h), fun _ _ => ⟨rfl, rfl, rfl⟩⟩ ?_
    · refine iff_of_false (fun h => h.elim fun _ h => (by cases h)) ?_
      rintro ⟨imported, himported⟩
      have hlength := congrArg List.length himported
      simp at hlength
    · rintro ⟨himportable, hdone⟩
      obtain ⟨data, hdata, hcreated⟩ := (importable_iff w'.now hapart).mp himportable
      obtain ⟨e', he⟩ := hrefused hdone data hdata
      have horder := (importOf_amounts hdata).1 ▸ himportable.order
      obtain ⟨v, r, hok⟩ := exec_createStockImport horder hcreated
      rw [he] at hok
      cases hok

end Calls

/-- An item that is not there is not imported, and the caller learns so. -/
theorem import_reports_unknownItem :
    ReportsTruly sampleProcurement sampleProcurement
      (.error (.notFound "Purchase order item item not found")) := by
  have hends : (createStockImport 3 (sampleArrival 2)).Ends
      (procurementExec sampleDeployment.cuids) .database (fun _ => .ok)
      sampleProcurement sampleProcurement
      (.error (.notFound "Purchase order item item not found")) :=
    ⟨rfl, rfl⟩
  refine (import_reports_iff (by constructor <;> exact fun _ h => by cases h) hends).mpr ?_
  rintro ⟨h, -⟩
  exact absurd h.order (by decide)

/-- Two copies that were ordered arrive. -/
theorem committed_import_throws :
    ¬ ∀ (cuids : Nat → String) (w w' : ProcurementWorld) (x : Except Failure StockImport)
      (user : Nat) (body : CreateAdminStockImportRequestDto),
      CuidsApart cuids w.db →
      (createStockImport user body).Ends (procurementExec cuids) .database (fun _ => .ok) w w' x →
      ReportsTruly w w' x := by
  intro h
  obtain ⟨-, w', x, imported, hends, himported⟩ := samplePurchased_imported 2 le_rfl
  have hapart : CuidsApart sampleDeployment.cuids samplePurchased.db := by
    refine ⟨fun p hp => ?_, fun s hs => by cases hs⟩
    rw [List.mem_singleton.mp hp]
    decide +kernel
  exact committed_misreported hapart hends ⟨imported, himported⟩ (h _ _ _ _ _ _ hapart hends)

end Numbers
end BookStore
