import BookStore.Procurement.Imports
import Mathlib.Algebra.Order.BigOperators.Group.List
import Mathlib.Tactic.Linarith
import Mathlib.Tactic.Ring

/-!
# What an import is paid with

An import records its `totalAmount`, and the `realPayPrice` of its purchase order.  What has
arrived is worth the sum of price times `realQuantity` (`arrived`).  A line is priced by
what has arrived less what is missing, so the recorded total is `arrived` less the worth of
what is missing, and `realPayPrice` compares it with the sum of the unit prices.

`import_pays_iff`: an import pays for what has arrived exactly if nothing is missing that
has a price.
-/

namespace BookStore
namespace Numbers

open Async Program Logic

section Amounts

variable (db : ProcurementDb) (body : CreateAdminStockImportRequestDto)

/-- A sum over the items of a body, each with its purchase-order item. -/
def lineSum (g : PurchaseOrderItemRow → ℚ → ℚ) : ℚ :=
  (body.items.map fun item => ((db.purchaseOrderItems.find item.purchaseOrderItemId).map
    fun row => g row item.realQuantity).getD 0).sum

/-- The worth of what has arrived -/
def arrived : ℚ :=
  lineSum db body fun row real => row.price * real

/-- The worth of what has not arrived -/
def missing : ℚ :=
  lineSum db body fun row real => row.price * (row.quantity - real)

/-- The worth of what was ordered -/
def ordered : ℚ :=
  lineSum db body fun row _ => row.price * row.quantity

/-- `purchasePrice` -/
def unitPrices : ℚ :=
  lineSum db body fun row _ => row.price

/-- Items with prices, as the bodies of purchase orders are checked to have them -/
def ItemsPriced : Prop :=
  ∀ row, row ∈ db.purchaseOrderItems.rows → 1 ≤ row.quantity ∧ 0 ≤ row.price

/-- No more has arrived of an item than was ordered. -/
def Within : Prop :=
  ∀ item, item ∈ body.items → ∀ row,
    db.purchaseOrderItems.find item.purchaseOrderItemId = some row →
    item.realQuantity ≤ row.quantity

/-- All of an item that has a price has arrived. -/
def Complete : Prop :=
  ∀ item, item ∈ body.items → ∀ row,
    db.purchaseOrderItems.find item.purchaseOrderItemId = some row →
    row.price = 0 ∨ item.realQuantity = row.quantity

end Amounts

/-- The import and the order of a body record what has arrived in `db`. -/
structure PaysForArrived (db db' : ProcurementDb) (body : CreateAdminStockImportRequestDto)
    (imported : StockImport) : Prop where
  totalAmount : imported.totalAmount = arrived db body
  realPayPrice : ∃ p, db'.purchaseOrders.find body.purchaseOrderId = some p ∧
    p.realPayPrice = some (arrived db body)

/-! ### Sums -/

section Sums

variable {db : ProcurementDb} {body : CreateAdminStockImportRequestDto}
variable {g k : PurchaseOrderItemRow → ℚ → ℚ}

theorem lineSum_sub :
    lineSum db body (fun row real => g row real - k row real) =
      lineSum db body g - lineSum db body k := by
  unfold lineSum
  induction body.items with
  | nil =>
      simp
  | cons item items ih =>
      simp only [List.map_cons, List.sum_cons, ih]
      cases db.purchaseOrderItems.find item.purchaseOrderItemId with
      | none =>
          simp
      | some row =>
          simp only [Option.map_some, Option.getD_some]
          ring

theorem lineSum_le
    (h : ∀ item, item ∈ body.items → ∀ row,
      db.purchaseOrderItems.find item.purchaseOrderItemId = some row →
      g row item.realQuantity ≤ k row item.realQuantity) :
    lineSum db body g ≤ lineSum db body k := by
  refine List.sum_le_sum fun item hitem => ?_
  cases hrow : db.purchaseOrderItems.find item.purchaseOrderItemId with
  | none =>
      exact le_rfl
  | some row =>
      exact h item hitem row hrow

theorem lineSum_eq_zero_iff
    (h : ∀ item, item ∈ body.items → ∀ row,
      db.purchaseOrderItems.find item.purchaseOrderItemId = some row →
      0 ≤ g row item.realQuantity) :
    lineSum db body g = 0 ↔ ∀ item, item ∈ body.items → ∀ row,
      db.purchaseOrderItems.find item.purchaseOrderItemId = some row →
      g row item.realQuantity = 0 := by
  unfold lineSum
  constructor
  · intro hsum item hitem row hrow
    have hzero := List.all_zero_of_le_zero_le_of_sum_eq_zero ?_ hsum
      (List.mem_map_of_mem hitem)
    · rwa [hrow] at hzero
    · intro x hx
      obtain ⟨item, hitem, rfl⟩ := List.mem_map.mp hx
      cases hrow : db.purchaseOrderItems.find item.purchaseOrderItemId with
      | none =>
          exact le_rfl
      | some row =>
          exact h item hitem row hrow
  · intro hzero
    refine List.sum_eq_zero fun x hx => ?_
    obtain ⟨item, hitem, rfl⟩ := List.mem_map.mp hx
    cases hrow : db.purchaseOrderItems.find item.purchaseOrderItemId with
    | none =>
        rfl
    | some row =>
        exact hzero item hitem row hrow

theorem missing_eq : missing db body = ordered db body - arrived db body := by
  rw [missing, ordered, arrived, ← lineSum_sub]
  congr
  funext row real
  ring

theorem priced_of_find {k : String} {row : PurchaseOrderItemRow}
    (hpriced : ItemsPriced db)
    (h : db.purchaseOrderItems.find k = some row) :
    (1 : ℚ) ≤ row.quantity ∧ 0 ≤ row.price := by
  obtain ⟨hquantity, hprice⟩ := hpriced row (Registry.find_mem h)
  exact ⟨by exact_mod_cast hquantity, hprice⟩

theorem arrived_nonneg (hpriced : ItemsPriced db) : 0 ≤ arrived db body := by
  refine List.sum_nonneg fun x hx => ?_
  obtain ⟨item, -, rfl⟩ := List.mem_map.mp hx
  cases hrow : db.purchaseOrderItems.find item.purchaseOrderItemId with
  | none =>
      exact le_rfl
  | some row =>
      exact mul_nonneg (priced_of_find hpriced hrow).2 item.realQuantity_min

theorem unitPrices_le_ordered (hpriced : ItemsPriced db) :
    unitPrices db body ≤ ordered db body := by
  refine lineSum_le fun item _ row hrow => ?_
  obtain ⟨hquantity, hprice⟩ := priced_of_find hpriced hrow
  exact le_mul_of_one_le_right hprice hquantity

/-- Nothing with a price is missing. -/
theorem missing_eq_zero_iff (hpriced : ItemsPriced db) (hwithin : Within db body) :
    missing db body = 0 ↔ Complete db body := by
  unfold missing
  rw [lineSum_eq_zero_iff]
  · refine forall₂_congr fun item _ => forall₂_congr fun row _ => ?_
    rw [mul_eq_zero, sub_eq_zero, eq_comm (a := (row.quantity : ℚ))]
  · intro item hitem row hrow
    exact mul_nonneg (priced_of_find hpriced hrow).2
      (sub_nonneg.mpr (hwithin item hitem row hrow))

/-- The worth does not decrease when a quantity increases. -/
theorem arrived_mono {body' : CreateAdminStockImportRequestDto}
    (hpriced : ItemsPriced db)
    (h : List.Forall₂ (fun item item' : CreateAdminStockImportItemRequestDto =>
      item.purchaseOrderItemId = item'.purchaseOrderItemId ∧
        item.realQuantity ≤ item'.realQuantity) body.items body'.items) :
    arrived db body ≤ arrived db body' := by
  unfold arrived lineSum
  generalize body.items = items at h ⊢
  generalize body'.items = items' at h ⊢
  induction h with
  | nil =>
      exact le_rfl
  | @cons item item' items items' hitem _ ih =>
      simp only [List.map_cons, List.sum_cons]
      refine add_le_add ?_ ih
      rw [hitem.1]
      cases hrow : db.purchaseOrderItems.find item'.purchaseOrderItemId with
      | none =>
          exact le_rfl
      | some row =>
          exact mul_le_mul_of_nonneg_left hitem.2 (priced_of_find hpriced hrow).2

/-- All that was ordered has arrived. -/
theorem arrived_of_complete
    (hpriced : ItemsPriced db) (hwithin : Within db body) (h : Complete db body) :
    arrived db body = ordered db body := by
  have hmissing := (missing_eq_zero_iff hpriced hwithin).mpr h
  rw [missing_eq] at hmissing
  exact (sub_eq_zero.mp hmissing).symm

end Sums

/-! ### Items in a run -/

section Runs

variable {cuids : Nat → String}

theorem toDecimal_nonneg {q : ℚ} (h : 0 ≤ q) : 0 ≤ toDecimal q := by
  rw [toDecimal, if_pos h]
  have hfloor : (0 : Int) ≤ ⌊q * 100 + 1 / 2⌋ := Int.floor_nonneg.mpr (by linarith)
  have hcast : (0 : ℚ) ≤ (⌊q * 100 + 1 / 2⌋ : Int) := by exact_mod_cast hfloor
  positivity

/-- The items of a new purchase order have prices. -/
def PricedStmt : ProcurementStmt → Prop
  | .createPurchaseOrder _ items => ∀ item, item ∈ items → 0 ≤ item.price
  | _ => True

theorem itemsPriced_exec
    {s : ProcurementStmt} {v v' : ProcurementWorld} {r : ProcurementResponse s}
    (hs : PricedStmt s)
    (h : ItemsPriced v.db)
    (hexec : procurementExec cuids s v = .ok (v', r)) :
    ItemsPriced v'.db := by
  cases procurementExec_effect hexec with
  | createPurchaseOrder input items db hcreated =>
      intro row hrow
      rw [hcreated.purchaseOrderItems] at hrow
      rcases List.mem_append.mp hrow with hrow | hrow
      · exact h row hrow
      · obtain ⟨i, hi, rfl⟩ := List.mem_mapIdx.mp hrow
        refine ⟨?_, toDecimal_nonneg (hs _ (List.getElem_mem hi))⟩
        have hmin := items[i].quantity_min
        rw [Rat.le_iff] at hmin
        have hden := items[i].quantity.den_pos
        simp only [newPurchaseOrderItem]
        simp at hmin
        omega
  | createStockImport data p db hp _ hcreated =>
      intro row hrow
      rw [hcreated.purchaseOrderItems] at hrow
      exact h row hrow
  | findPurchaseOrderById => exact h
  | findPurchaseOrderItemsByIds => exact h
  | findStockImportById => exact h
  | updatePurchaseOrderStatus => exact h
  | updateTransferStatus => exact h

/-- The bodies of purchase orders are checked. -/
theorem pricedStmt_handler (r : ProcurementRequest) : r.handler.All PricedStmt := by
  cases r with
  | createPurchaseOrder user body =>
      refine All.bind (All.bind (All.await fun item hitem => ?_) fun created => ?_)
        fun _ => trivial
      · obtain ⟨dto, -, rfl⟩ := List.mem_map.mp hitem
        exact price_pricedItem dto
      · cases created <;> trivial
  | approvePurchaseOrder purchaseOrderId user status =>
      refine All.bind ?_ fun _ => trivial
      unfold approvePurchaseOrder
      split_ifs
      · trivial
      · refine All.bind (All.await trivial) fun found => ?_
        cases found with
        | none => trivial
        | some found =>
            dsimp only
            split_ifs
            · trivial
            · trivial
            · exact All.await trivial
  | updateStatusTransfer purchaseOrderId user =>
      exact All.bind (All.await trivial) fun _ => trivial
  | createStockImport user body =>
      refine All.bind (All.bind (All.await trivial) fun poItems => ?_) fun _ => trivial
      cases body.items.mapM (itemWithPrice poItems) with
      | error e => trivial
      | ok lines =>
          dsimp only
          cases stockImportInput user body lines with
          | none => trivial
          | some data =>
              refine All.bind (All.await trivial) fun created => ?_
              cases created <;> trivial
  | getStockImportDetail purchaseOrderId =>
      refine All.bind (All.bind (All.await trivial) fun row => ?_) fun _ => trivial
      cases row <;> trivial

/-- Nothing is shared. -/
def pricedLogic : Logic ProcurementStmt ProcurementWorld Nat where
  inv := fun _ w => ItemsPriced w.db
  rely := fun _ _ => True
  rely_refl := fun _ => trivial
  rely_trans := fun _ _ _ _ _ => trivial
  guard := fun _ _ _ => True
  done := fun _ => True

/-- The items have prices along every run. -/
theorem itemsPriced_runs
    {c c' : ProcurementState} {as : List (Action ProcurementEvent)}
    (hpriced : ItemsPriced c.world.db)
    (hthreads : c.threads = [])
    (hrun : runs (procurementServer cuids).step c as = some c') :
    ItemsPriced c'.world.db := by
  have hharmless : ∀ s, PricedStmt s →
      Harmless pricedLogic (procurementExec cuids) .database (fun _ => True) s := by
    intro s hs v _ o _ hv _
    refine ⟨?_, trivial⟩
    refine attempt_cases
      (motive := fun x : ProcurementWorld × Except Failure (ProcurementResponse s) =>
        ItemsPriced x.1.db) (fun _ => hv) fun v' r _ hexec => ?_
    have hv' := itemsPriced_exec hs hv hexec
    exact ⟨hv', hv'⟩
  have henv : EnvSafe pricedLogic (procurementServer cuids) fun _ _ => True := by
    intro v _ e v' p hv _ hstep
    refine ⟨trivial, ?_⟩
    cases e with
    | arrive r =>
        cases hstep
        exact ⟨0, hv, Safe.of_all (fun _ _ _ _ => trivial)
          ((pricedStmt_handler r).mono fun s hs => hharmless s hs) trivial
          (fun _ _ _ => trivial) trivial⟩
    | tick ms =>
        cases hstep
        exact hv
  obtain ⟨w, threads⟩ := c
  subst hthreads
  obtain ⟨_, -, hpriced'⟩ := balanced_runs henv (balanced_start hpriced)
    (System.meets_conforms_true (procurementServer cuids) _ as) hrun
  exact hpriced'

end Runs

/-! ### What is recorded -/

section Recorded

variable {db : ProcurementDb} {user : Nat} {body : CreateAdminStockImportRequestDto}
  {data : StockImportInput}

/-- A line of an import, with the purchase-order item that it was priced from. -/
def PricedFrom (db : ProcurementDb) (item : CreateAdminStockImportItemRequestDto)
    (line : StockImportLine × ℚ) : Prop :=
  ∃ row, db.purchaseOrderItems.find item.purchaseOrderItemId = some row ∧
    line.2 = row.price ∧
    line.1 =
      { purchaseOrderItemId := item.purchaseOrderItemId
        bookVariantId := row.bookVariantId
        realQuantity := item.realQuantity
        lackQuantity := row.quantity - item.realQuantity
        totalPrice :=
          item.realQuantity * row.price - (row.quantity - item.realQuantity) * row.price }

theorem pricedFrom_itemWithPrice
    {item : CreateAdminStockImportItemRequestDto} {line : StockImportLine × ℚ}
    (h : itemWithPrice (poItemsOf db body) item = .ok line) :
    PricedFrom db item line := by
  unfold itemWithPrice at h
  cases hfind : (poItemsOf db body).reverse.find?
      fun i => decide (i.id = item.purchaseOrderItemId) with
  | none =>
      rw [hfind] at h
      cases h
  | some poItem =>
      rw [hfind] at h
      cases h
      have hid : poItem.id = item.purchaseOrderItemId := by
        simpa using List.find?_some hfind
      have hmem := List.mem_reverse.mp (List.mem_of_find?_eq_some hfind)
      obtain ⟨row, hrow, rfl⟩ := List.mem_map.mp hmem
      exact ⟨row, Registry.find_eq_some_iff.mpr ⟨List.mem_of_mem_filter hrow, hid⟩, rfl, rfl⟩

theorem sum_of_pricedFrom
    {lines : List (StockImportLine × ℚ)}
    {f : StockImportLine × ℚ → ℚ} {g : PurchaseOrderItemRow → ℚ → ℚ}
    (hlines : List.Forall₂ (PricedFrom db) body.items lines)
    (hf : ∀ item line row, db.purchaseOrderItems.find item.purchaseOrderItemId = some row →
      PricedFrom db item line → f line = g row item.realQuantity) :
    (lines.map f).sum = lineSum db body g := by
  unfold lineSum
  refine congrArg List.sum (map_eq_of_forall₂ hlines fun item line h => ?_)
  obtain ⟨row, hrow, hprice, hline⟩ := h
  rw [hrow]
  exact hf item line row hrow ⟨row, hrow, hprice, hline⟩

/-- The amounts that the transaction is given. -/
theorem importOf_amounts (h : importOf db user body = some data) :
    data.purchaseOrderId = body.purchaseOrderId ∧
      data.totalAmount = arrived db body - missing db body ∧
      data.realPayPrice =
        realPayPrice (arrived db body - missing db body) (unitPrices db body) := by
  unfold importOf at h
  cases hmap : body.items.mapM (itemWithPrice (poItemsOf db body)) with
  | error e =>
      rw [hmap] at h
      cases h
  | ok lines =>
      rw [hmap] at h
      obtain ⟨stored, -, rfl⟩ := Option.map_eq_some_iff.mp h
      have hlines : List.Forall₂ (PricedFrom db) body.items lines :=
        (forall₂_mapM_ok hmap).imp fun _ _ => pricedFrom_itemWithPrice
      have htotal : (lines.map fun i => i.1.totalPrice).sum =
          arrived db body - missing db body := by
        rw [arrived, missing, ← lineSum_sub]
        refine sum_of_pricedFrom hlines ?_
        rintro item line row hrow ⟨row', hrow', -, hline⟩
        obtain rfl := Option.some.inj (hrow.symm.trans hrow')
        rw [hline]
        ring
      have hunit : (lines.map Prod.snd).sum = unitPrices db body := by
        refine sum_of_pricedFrom hlines ?_
        rintro item line row hrow ⟨row', hrow', hprice, -⟩
        obtain rfl := Option.some.inj (hrow.symm.trans hrow')
        exact hprice
      refine ⟨rfl, htotal, ?_⟩
      rw [← htotal, ← hunit]

end Recorded

section Calls

variable {cuids : Nat → String} {faults : ProcurementStmt → Outcome} {w w' : ProcurementWorld}
  {x : Except Failure StockImport} {user : Nat} {body : CreateAdminStockImportRequestDto}
  {imported : StockImport}

/-- What a call that imports has recorded. -/
theorem recorded_amounts
    (hends : (createStockImport user body).Ends (procurementExec cuids) .database faults w w' x)
    (himported : w'.db.stockImports.rows = w.db.stockImports.rows ++ [imported]) :
    imported.totalAmount = arrived w.db body - missing w.db body ∧
      ∃ p, w'.db.purchaseOrders.find body.purchaseOrderId = some p ∧
        p.realPayPrice = some
          (realPayPrice (arrived w.db body - missing w.db body) (unitPrices w.db body)) := by
  rcases ends_createStockImport hends with ⟨data, r, hdata, -, hexec, -⟩ | ⟨hw, -, -⟩
  · obtain ⟨horder, htotal, hpay⟩ := importOf_amounts hdata
    obtain ⟨p, hp, hcreated⟩ := stockImportCreated_of_exec hexec
    have himport : imported = newStockImport (cuids w.db.drawn) data := by
      rw [hcreated.stockImports] at himported
      exact (List.singleton_inj.mp (List.append_cancel_left himported)).symm
    refine ⟨by rw [himport, ← htotal]; rfl, ?_⟩
    refine ⟨p.transferred w.now data.createdBy .purchase (some data.realPayPrice), ?_, ?_⟩
    · rw [hcreated.purchaseOrders, Registry.find_update, ← horder, if_pos rfl, hp]
      rfl
    · rw [← hpay]
      rfl
  · rw [hw] at himported
    have hlength := congrArg List.length himported
    simp at hlength

/-- The recorded amounts are right when nothing is missing, and only then. -/
theorem amounts_right_iff {a m u : ℚ} (hm : u ≤ a + m) :
    (a - m = a ∧ realPayPrice (a - m) u = a) ↔ m = 0 := by
  constructor
  · rintro ⟨htotal, -⟩
    linarith
  · rintro rfl
    rw [sub_zero]
    rw [add_zero] at hm
    refine ⟨rfl, ?_⟩
    unfold realPayPrice
    split_ifs with hlt hgt
    · rfl
    · exact absurd hgt (not_lt.mpr hm)
    · exact le_antisymm hm (not_lt.mp hlt)

/--
**What an import is paid with.** An import that is recorded, of no more than was ordered,
records what has arrived as its amount and as what is paid if and only if all of each item
that has a price has arrived.
-/
theorem import_pays_iff
    (hpriced : ItemsPriced w.db)
    (hwithin : Within w.db body)
    (hends : (createStockImport user body).Ends (procurementExec cuids) .database faults w w' x)
    (himported : w'.db.stockImports.rows = w.db.stockImports.rows ++ [imported]) :
    PaysForArrived w.db w'.db body imported ↔ Complete w.db body := by
  obtain ⟨htotal, p, hp, hpay⟩ := recorded_amounts hends himported
  have hle : unitPrices w.db body ≤ arrived w.db body + missing w.db body := by
    rw [missing_eq, add_sub_cancel]
    exact unitPrices_le_ordered hpriced
  rw [← missing_eq_zero_iff hpriced hwithin, ← amounts_right_iff hle]
  constructor
  · rintro ⟨htotal', p', hp', hpay'⟩
    obtain rfl := Option.some.inj (hp.symm.trans hp')
    exact ⟨htotal.symm.trans htotal', Option.some.inj (hpay.symm.trans hpay')⟩
  · rintro ⟨htotal', hpay'⟩
    exact ⟨htotal.trans htotal', p, hp, hpay.trans (congrArg some hpay')⟩

end Calls

/-! ### An order of two copies -/

theorem samplePurchased_quantity : (1 : ℚ) ≤ 2 := by
  norm_num

/-- Two copies of variant `1` were ordered at half of their price of 100. -/
def samplePurchased : ProcurementWorld :=
  { sampleProcurement with
    db := { sampleProcurement.db with
      purchaseOrders := ⟨[newPurchaseOrder 0 "po" ⟨"PO-1", 1, 1, none, 0, 100⟩], by simp⟩
      purchaseOrderItems := ⟨[newPurchaseOrderItem 0 "item" "po"
        ⟨1, 2, 100, 50, 50, 100, samplePurchased_quantity⟩], by simp⟩
      drawn := 2 } }

def sampleArrival (quantity : Nat) : CreateAdminStockImportRequestDto :=
  ⟨"po", none, [⟨"item", quantity, quantity_nonneg quantity⟩]⟩

theorem samplePurchased_priced : ItemsPriced samplePurchased.db := by
  intro row hrow
  rw [List.mem_singleton.mp hrow]
  decide +kernel

theorem samplePurchased_find
    {item : CreateAdminStockImportItemRequestDto} {row : PurchaseOrderItemRow} {quantity : Nat}
    (hitem : item ∈ (sampleArrival quantity).items)
    (hrow : samplePurchased.db.purchaseOrderItems.find item.purchaseOrderItemId = some row) :
    item.realQuantity = quantity ∧ row.quantity = 2 := by
  obtain rfl := List.mem_singleton.mp hitem
  have hfind : (samplePurchased.db.purchaseOrderItems.find "item").map
      (fun row => row.quantity) = some 2 := by
    decide +kernel
  rw [hrow] at hfind
  exact ⟨rfl, Option.some.inj hfind⟩

/-- The two copies, or fewer, are imported. -/
theorem samplePurchased_imported (quantity : Nat) (h : quantity ≤ 2) :
    Within samplePurchased.db (sampleArrival quantity) ∧
      ∃ w' x imported,
        (createStockImport 3 (sampleArrival quantity)).Ends
          (procurementExec sampleDeployment.cuids) .database (fun _ => .ok) samplePurchased w' x ∧
        w'.db.stockImports.rows = samplePurchased.db.stockImports.rows ++ [imported] := by
  refine ⟨fun item hitem row hrow => ?_, ?_⟩
  · obtain ⟨hreal, hquantity⟩ := samplePurchased_find hitem hrow
    rw [hreal, hquantity]
    exact_mod_cast h
  · have hgoes : ∀ quantity, quantity ≤ 2 →
        ((importOf samplePurchased.db 3 (sampleArrival quantity)).any fun data =>
          (procurementExec sampleDeployment.cuids (.createStockImport data)
            samplePurchased).toBool) = true := by
      decide +kernel
    obtain ⟨data, hdata, hok⟩ := (Option.any_eq_true _ _).mp (hgoes quantity h)
    cases hexec : procurementExec sampleDeployment.cuids (.createStockImport data)
        samplePurchased with
    | error e =>
        rw [hexec] at hok
        cases hok
    | ok wr =>
        obtain ⟨w', r⟩ := wr
        obtain ⟨p, -, hcreated⟩ := stockImportCreated_of_exec hexec
        exact ⟨w', _, _, yields_createStockImport hdata hexec, hcreated.stockImports⟩

theorem import_pays_bothArrived :
    ∃ (w' : ProcurementWorld) (imported : StockImport),
      PaysForArrived samplePurchased.db w'.db (sampleArrival 2) imported := by
  obtain ⟨hwithin, w', x, imported, hends, himported⟩ := samplePurchased_imported 2 le_rfl
  refine ⟨w', imported,
    (import_pays_iff samplePurchased_priced hwithin hends himported).mpr ?_⟩
  intro item hitem row hrow
  obtain ⟨hreal, hquantity⟩ := samplePurchased_find hitem hrow
  exact .inr (by rw [hreal, hquantity]; rfl)

/-- Nothing arrives, and less than nothing is paid. -/
theorem nothing_arrived_negative :
    ¬ ∀ (cuids : Nat → String) (w w' : ProcurementWorld) (x : Except Failure StockImport)
      (user : Nat) (body : CreateAdminStockImportRequestDto) (imported : StockImport),
      ItemsPriced w.db → Within w.db body →
      (createStockImport user body).Ends (procurementExec cuids) .database (fun _ => .ok) w w' x →
      w'.db.stockImports.rows = w.db.stockImports.rows ++ [imported] →
      PaysForArrived w.db w'.db body imported := by
  intro h
  obtain ⟨hwithin, w', x, imported, hends, himported⟩ := samplePurchased_imported 0 (by decide)
  have hpays := h _ _ _ _ _ _ _ samplePurchased_priced hwithin hends himported
  have htotal := (recorded_amounts hends himported).1
  rw [hpays.totalAmount] at htotal
  have hnegative : arrived samplePurchased.db (sampleArrival 0) -
      missing samplePurchased.db (sampleArrival 0) = -100 := by
    decide +kernel
  have hzero : arrived samplePurchased.db (sampleArrival 0) = 0 := by
    decide +kernel
  rw [hnegative, hzero] at htotal
  norm_num at htotal

end Numbers
end BookStore
