import BookStore.Async.Outcomes
import BookStore.Procurement.Service
import BookStore.Rounding
import BookStore.Traversals
import Mathlib.Algebra.BigOperators.Ring.Finset
import Mathlib.Algebra.BigOperators.Ring.List
import Mathlib.Algebra.Order.BigOperators.Group.List

/-!
# The arithmetic of a purchase order

`createPurchaseOrder` computes the total of a line from its price and the total of the order
from those of its lines; then each column rounds its own number to cents.  The stored lines
and the stored order add up exactly if rounding does no harm: what the rounding of a price
loses stays below half a cent for all copies of the line, and for all lines together.
-/

namespace BookStore

open Async Program

/-- The stored totals are those of the stored prices and quantities. -/
structure ConsistentAsStored (order : PurchaseOrderRow) (items : List PurchaseOrderItemRow) :
    Prop where
  total : order.totalAmount = (items.map PurchaseOrderItemRow.totalPrice).sum
  lines : ∀ i, i ∈ items → i.totalPrice = i.price * i.quantity

/-- What rounding loses of the price of an item, in cents -/
def priceResidue (item : CreatePurchaseOrderItemRequestDto) : ℚ :=
  residue ((pricedItem item).price * 100)

/-- Rounding the prices does no harm. -/
structure RoundsWell (items : List CreatePurchaseOrderItemRequestDto) : Prop where
  lines : ∀ item, item ∈ items → WithinHalf (priceResidue item * item.quantity)
  total : WithinHalf (items.map fun item => priceResidue item * item.quantity).sum

section Columns

theorem toDecimal_of_nonneg {q : ℚ} (h : 0 ≤ q) : toDecimal q = nearest (q * 100) / 100 := by
  rw [toDecimal, if_pos h, nearest]

variable {item : CreatePurchaseOrderItemRequestDto}

/-- The quantity fits its column. -/
theorem quantity_whole (h : FitsInt item.quantity) : (item.quantity.num : ℚ) = item.quantity :=
  (Rat.den_eq_one_iff _).mp h.1

/-- The price of an item in cents, rounded, for all copies -/
def lineCents (item : CreatePurchaseOrderItemRequestDto) : Int :=
  nearest ((pricedItem item).price * 100) * item.quantity.num

theorem line_rounds_iff (h : FitsInt item.quantity) :
    toDecimal (pricedItem item).totalPrice =
        toDecimal (pricedItem item).price * item.quantity.num ↔
      WithinHalf (priceResidue item * item.quantity) := by
  have hprice := price_pricedItem item
  have hquantity : (0 : ℚ) ≤ item.quantity := zero_le_one.trans item.quantity_min
  have htotal : (pricedItem item).totalPrice = (pricedItem item).price * item.quantity := rfl
  rw [htotal, toDecimal_of_nonneg hprice, toDecimal_of_nonneg (mul_nonneg hprice hquantity),
    ← quantity_whole h, priceResidue, ← nearest_mul_eq_iff, div_mul_eq_mul_div,
    div_left_inj' (by norm_num), mul_right_comm]
  norm_cast

theorem totalPrice_of_rounds
    (h : FitsInt item.quantity)
    (hrounds : WithinHalf (priceResidue item * item.quantity)) :
    toDecimal (pricedItem item).totalPrice = (lineCents item : ℚ) / 100 := by
  rw [(line_rounds_iff h).mpr hrounds, toDecimal_of_nonneg (price_pricedItem item), lineCents,
    div_mul_eq_mul_div, Int.cast_mul]

theorem order_rounds_iff
    {items : List CreatePurchaseOrderItemRequestDto}
    (hfits : ∀ item, item ∈ items → FitsInt item.quantity)
    (hlines : ∀ item, item ∈ items → WithinHalf (priceResidue item * item.quantity)) :
    toDecimal (items.map fun item => (pricedItem item).totalPrice).sum =
        (items.map fun item => toDecimal (pricedItem item).totalPrice).sum ↔
      WithinHalf (items.map fun item => priceResidue item * item.quantity).sum := by
  have hnonneg : 0 ≤ (items.map fun item => (pricedItem item).totalPrice).sum := by
    refine List.sum_nonneg fun x hx => ?_
    obtain ⟨item, -, rfl⟩ := List.mem_map.mp hx
    exact mul_nonneg (price_pricedItem item) (zero_le_one.trans item.quantity_min)
  have hsum : (items.map fun item => toDecimal (pricedItem item).totalPrice).sum =
      ((items.map lineCents).sum : Int) / 100 := by
    rw [Int.cast_list_sum, List.map_map, div_eq_mul_inv, ← List.sum_map_mul_right]
    refine congrArg List.sum (List.map_congr_left fun item hitem => ?_)
    rw [totalPrice_of_rounds (hfits item hitem) (hlines item hitem), div_eq_mul_inv]
    rfl
  have hcents : (items.map fun item => (pricedItem item).totalPrice).sum * 100 =
      (items.map fun item => (pricedItem item).totalPrice * 100).sum :=
    (List.sum_map_mul_right items _ 100).symm
  rw [hsum, toDecimal_of_nonneg hnonneg, hcents, div_left_inj' (by norm_num), Int.cast_inj]
  refine nearest_sum_eq_iff fun item hitem => ?_
  have htotal : (pricedItem item).totalPrice = (pricedItem item).price * item.quantity := rfl
  rw [htotal, lineCents, priceResidue, residue, Int.cast_mul,
    quantity_whole (hfits item hitem)]
  ring

end Columns

/-! ### What is stored -/

section Stored

variable {cuids : Nat → String} {faults : ProcurementStmt → Outcome} {w w' : ProcurementWorld}
  {user : Nat} {body : CreatePurchaseOrderRequestDto}

/-- What the transaction is given. -/
def purchaseOrderInput (user : Nat) (body : CreatePurchaseOrderRequestDto) :
    CreatePurchaseOrderInput where
  code := body.code
  supplierId := body.supplierId
  createdById := user
  note := body.note
  taxAmount := body.taxAmount.getD 0
  totalAmount := ((body.items.map pricedItem).map CreatePurchaseOrderItemInput.totalPrice).sum

/-- The order and its items have been stored as the service computed them. -/
structure StoredAsComputed (body : CreatePurchaseOrderRequestDto) (order : PurchaseOrderRow)
    (items : List PurchaseOrderItemRow) : Prop where
  fits : ∀ item, item ∈ body.items → FitsInt item.quantity
  totalAmount : order.totalAmount =
    toDecimal (body.items.map fun item => (pricedItem item).totalPrice).sum
  items : List.Forall₂ (fun item (row : PurchaseOrderItemRow) =>
    row.quantity = item.quantity.num ∧ row.price = toDecimal (pricedItem item).price ∧
      row.totalPrice = toDecimal (pricedItem item).totalPrice) body.items items

theorem forall₂_newPurchaseOrderItems
    (now drawn : Nat) (items : List CreatePurchaseOrderItemInput) :
    List.Forall₂ (fun item row => ∃ id purchaseOrderId,
      row = newPurchaseOrderItem now id purchaseOrderId item) items
      (newPurchaseOrderItems cuids now drawn items) := by
  refine List.forall₂_iff_get.mpr ⟨by simp [newPurchaseOrderItems], fun i h₁ h₂ => ?_⟩
  simp only [newPurchaseOrderItems, List.get_eq_getElem, List.getElem_mapIdx]
  exact ⟨_, _, rfl⟩

theorem stores_of_createdPurchaseOrder
    {input : CreatePurchaseOrderInput} {items : List CreatePurchaseOrderItemInput}
    {now : Nat} {db db' : ProcurementDb}
    (h : createdPurchaseOrder cuids now input items db = some db') :
    ∀ item, item ∈ items → db.Stores item := by
  unfold createdPurchaseOrder at h
  obtain ⟨_, hguard, -⟩ := Option.bind_eq_some_iff.mp h
  exact ((Option.guard_eq_some' _).mp hguard).2.2.2.2

theorem exec_createPurchaseOrder
    {input : CreatePurchaseOrderInput} {items : List CreatePurchaseOrderItemInput}
    {r : Option PurchaseOrderDetail}
    (h : procurementExec cuids (.createPurchaseOrder input items) w = .ok (w', r)) :
    createdPurchaseOrder cuids w.now input items w.db = some w'.db := by
  simp only [procurementExec] at h
  split_ifs at h
  cases hdb : createdPurchaseOrder cuids w.now input items w.db with
  | none =>
      simp [hdb] at h
  | some db =>
      simp only [hdb, Except.ok.injEq, Prod.mk.injEq] at h
      rw [← h.1]

/-- What a call that creates an order has stored. -/
theorem storedAsComputed
    {x : Except Failure PurchaseOrderCreateResponse} {order : PurchaseOrderRow}
    {items : List PurchaseOrderItemRow}
    (hends : (createPurchaseOrder user body).Ends (procurementExec cuids) .database faults w w' x)
    (horder : w'.db.purchaseOrders.rows = w.db.purchaseOrders.rows ++ [order])
    (hitems : w'.db.purchaseOrderItems.rows = w.db.purchaseOrderItems.rows ++ items) :
    StoredAsComputed body order items := by
  have hrefused : w' ≠ w := by
    rintro rfl
    have hlength := congrArg List.length horder
    simp at hlength
  unfold createPurchaseOrder at hends
  cases hexec : procurementExec cuids (.createPurchaseOrder (purchaseOrderInput user body)
      (body.items.map pricedItem)) w with
  | error e =>
      exact absurd ((ends_bind_await_of_error hexec).mp hends).1 hrefused
  | ok vr =>
      obtain ⟨v, r⟩ := vr
      have hv : w' = v := by
        rcases (ends_bind_await_of_ok hexec).mp hends with ⟨-, h⟩ | ⟨-, h, -⟩ | ⟨-, h, -⟩
        · cases r <;> exact h.1
        · exact absurd h hrefused
        · exact h
      subst hv
      have hcreated := exec_createPurchaseOrder hexec
      have hdb := createdPurchaseOrder_eq_some hcreated
      rw [hdb.purchaseOrders] at horder
      rw [hdb.purchaseOrderItems] at hitems
      obtain rfl := List.singleton_inj.mp (List.append_cancel_left horder)
      obtain rfl := List.append_cancel_left hitems
      refine ⟨fun item hitem => ?_, ?_, ?_⟩
      · exact (stores_of_createdPurchaseOrder hcreated _ (List.mem_map_of_mem hitem)).1
      · rw [newPurchaseOrder, purchaseOrderInput, List.map_map]
        rfl
      · refine (List.forall₂_map_left_iff.mp
          (forall₂_newPurchaseOrderItems _ _ _)).imp fun item row h => ?_
        obtain ⟨id, purchaseOrderId, rfl⟩ := h
        exact ⟨rfl, rfl, rfl⟩

end Stored

/--
**The arithmetic of a purchase order.** The stored order and items of a call are consistent
if and only if rounding the prices does no harm.
-/
theorem purchaseOrder_consistent_iff
    {cuids : Nat → String} {faults : ProcurementStmt → Outcome} {w w' : ProcurementWorld}
    {x : Except Failure PurchaseOrderCreateResponse} {user : Nat}
    {body : CreatePurchaseOrderRequestDto} {order : PurchaseOrderRow}
    {items : List PurchaseOrderItemRow}
    (hends : (createPurchaseOrder user body).Ends (procurementExec cuids) .database faults w w' x)
    (horder : w'.db.purchaseOrders.rows = w.db.purchaseOrders.rows ++ [order])
    (hitems : w'.db.purchaseOrderItems.rows = w.db.purchaseOrderItems.rows ++ items) :
    ConsistentAsStored order items ↔ RoundsWell body.items := by
  obtain ⟨hfits, htotal, hrows⟩ := storedAsComputed hends horder hitems
  have hsum : (items.map PurchaseOrderItemRow.totalPrice).sum =
      (body.items.map fun item => toDecimal (pricedItem item).totalPrice).sum :=
    congrArg List.sum (map_eq_of_forall₂ hrows fun _ _ h => h.2.2)
  have hlines : (∀ i, i ∈ items → i.totalPrice = i.price * i.quantity) ↔
      ∀ item, item ∈ body.items → WithinHalf (priceResidue item * item.quantity) := by
    constructor
    · intro h item hitem
      obtain ⟨row, hrow, hquantity, hprice, htotal⟩ := exists_of_forall₂ hrows hitem
      rw [← line_rounds_iff (hfits item hitem), ← htotal, ← hprice, ← hquantity]
      exact h row hrow
    · intro h row hrow
      obtain ⟨item, hitem, hquantity, hprice, htotal⟩ := exists_of_forall₂ hrows.flip hrow
      rw [hquantity, hprice, htotal]
      exact (line_rounds_iff (hfits item hitem)).mpr (h item hitem)
  constructor
  · rintro ⟨hconsistent, hline⟩
    have hwell := hlines.mp hline
    rw [htotal, hsum] at hconsistent
    exact ⟨hwell, (order_rounds_iff hfits hwell).mp hconsistent⟩
  · rintro ⟨hwell, hwhole⟩
    refine ⟨?_, hlines.mpr hwell⟩
    rw [htotal, hsum]
    exact (order_rounds_iff hfits hwell).mpr hwhole

/-! ### Samples -/

theorem halfOff_min : (0 : ℚ) ≤ 50 := by
  norm_num

theorem halfOff_max : (50 : ℚ) ≤ 100 := by
  norm_num

theorem noTax_min (t : ℚ) (h : (none : Option ℚ) = some t) : 0 ≤ t := by
  cases h

/-- Three copies at a price in cents, less 50 percent -/
def sampleThree (cents : Nat) : CreatePurchaseOrderRequestDto where
  supplierId := 1
  code := "PO-1"
  note := none
  taxAmount := none
  items := [⟨1, 3, cents / 100, 50, by norm_num, by positivity, halfOff_min, halfOff_max⟩]
  taxAmount_min := noTax_min

theorem tenthOff_min : (0 : ℚ) ≤ 10 := by
  norm_num

theorem tenthOff_max : (10 : ℚ) ≤ 100 := by
  norm_num

theorem price_nonneg (cents : Nat) : (0 : ℚ) ≤ cents / 100 := by
  positivity

/-- One copy and some more at a price in cents -/
def sampleLine (more cents : Nat) (discountPrice : ℚ) (hmin : 0 ≤ discountPrice)
    (hmax : discountPrice ≤ 100) : CreatePurchaseOrderItemRequestDto :=
  ⟨1, (more + 1 : Nat), cents / 100, discountPrice, Nat.one_le_cast.mpr (Nat.succ_pos more),
    price_nonneg cents, hmin, hmax⟩

/-- 3 copies at 10.00 and 1 at 10.01, both less 50 percent, and 1 at 33.36 less 10 percent -/
def sampleThreeLines : CreatePurchaseOrderRequestDto where
  supplierId := 1
  code := "PO-1"
  note := none
  taxAmount := none
  items :=
    [sampleLine 2 1000 50 halfOff_min halfOff_max,
      sampleLine 0 1001 50 halfOff_min halfOff_max,
      sampleLine 0 3336 10 tenthOff_min tenthOff_max]
  taxAmount_min := noTax_min

/-- An order that the database accepts is created. -/
theorem ends_createPurchaseOrder
    (body : CreatePurchaseOrderRequestDto)
    (hgoes : (procurementExec sampleDeployment.cuids
      (.createPurchaseOrder (purchaseOrderInput 1 body) (body.items.map pricedItem))
      sampleProcurement).toBool = true) :
    ∃ w' x order items,
      (createPurchaseOrder 1 body).Ends
        (procurementExec sampleDeployment.cuids) .database (fun _ => .ok) sampleProcurement w' x ∧
      w'.db.purchaseOrders.rows = sampleProcurement.db.purchaseOrders.rows ++ [order] ∧
      w'.db.purchaseOrderItems.rows = sampleProcurement.db.purchaseOrderItems.rows ++ items := by
  cases hexec : procurementExec sampleDeployment.cuids
      (.createPurchaseOrder (purchaseOrderInput 1 body) (body.items.map pricedItem))
      sampleProcurement with
  | error e =>
      rw [hexec] at hgoes
      cases hgoes
  | ok wr =>
      obtain ⟨w', r⟩ := wr
      have hdb := createdPurchaseOrder_eq_some (exec_createPurchaseOrder hexec)
      have hends : ∃ x, (createPurchaseOrder 1 body).Ends
          (procurementExec sampleDeployment.cuids) .database (fun _ => .ok)
          sampleProcurement w' x := by
        cases r with
        | none =>
            exact ⟨_, (ends_bind_await_of_done rfl hexec).mpr ⟨rfl, rfl⟩⟩
        | some created =>
            exact ⟨_, (ends_bind_await_of_done rfl hexec).mpr ⟨rfl, rfl⟩⟩
      obtain ⟨x, hends⟩ := hends
      exact ⟨w', x, _, _, hends, hdb.purchaseOrders, hdb.purchaseOrderItems⟩

/-- 5.005 is stored as 5.01 and 30.024 as 30.02; the total 50.029 is stored as 50.03. -/
theorem purchaseOrder_consistent_sampleThreeLines :
    ∃ (w' : ProcurementWorld) (order : PurchaseOrderRow) (items : List PurchaseOrderItemRow),
      w'.db.purchaseOrders.rows = [order] ∧ ConsistentAsStored order items := by
  obtain ⟨w', x, order, items, hends, horder, hitems⟩ :=
    ends_createPurchaseOrder sampleThreeLines (by decide +kernel)
  refine ⟨w', order, items, horder,
    (purchaseOrder_consistent_iff hends horder hitems).mpr ⟨?_, ?_⟩⟩
  · unfold WithinHalf
    decide +kernel
  · unfold WithinHalf
    decide +kernel

/-- Half of 10.01 is stored as 5.01, and three times as much as 15.02. -/
theorem oddPrice_inconsistent :
    ¬ ∀ (cuids : Nat → String) (w w' : ProcurementWorld)
      (x : Except Failure PurchaseOrderCreateResponse) (user : Nat)
      (body : CreatePurchaseOrderRequestDto) (order : PurchaseOrderRow)
      (items : List PurchaseOrderItemRow),
      (createPurchaseOrder user body).Ends (procurementExec cuids) .database (fun _ => .ok)
        w w' x →
      w'.db.purchaseOrders.rows = w.db.purchaseOrders.rows ++ [order] →
      w'.db.purchaseOrderItems.rows = w.db.purchaseOrderItems.rows ++ items →
      ConsistentAsStored order items := by
  intro h
  obtain ⟨w', x, order, items, hends, horder, hitems⟩ :=
    ends_createPurchaseOrder (sampleThree 1001) (by decide +kernel)
  have hconsistent := h _ _ _ _ _ _ _ _ hends horder hitems
  obtain ⟨-, -, hrows⟩ := storedAsComputed hends horder hitems
  obtain ⟨row, hrow, hquantity, hprice, htotal⟩ :=
    exists_of_forall₂ hrows (List.mem_singleton_self _)
  have hline := hconsistent.lines row hrow
  rw [hquantity, hprice, htotal] at hline
  revert hline
  decide +kernel

end BookStore
