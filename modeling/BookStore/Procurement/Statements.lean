import BookStore.Async.Pool
import BookStore.Catalog.Tables
import BookStore.Registry
import BookStore.Statements
import Mathlib.Algebra.Order.Group.Abs
import Mathlib.Data.Rat.Floor

/-!
# Purchase orders and stock imports: the statements

The functions of `PurchaseOrderRepository` and `AdminStockImportRepository`; a
`$transaction` is one statement.  The row of a purchase order extends the columns that
an import reads or writes, so does the row of an item.  Ids are cuids, drawn one after the
other; quantities and prices come as numbers and have to fit their columns.

`increases` and `decisions` are bookkeeping: they are written along with the statements
and read by none of them.
-/

namespace BookStore

inductive PurchaseOrderStatus
  | pending
  | approved
  | rejected
  deriving DecidableEq, Repr

/-- `purchase_orders` -/
structure PurchaseOrderRow extends PurchaseOrder where
  code : String
  supplierId : Nat
  createdById : Nat
  status : PurchaseOrderStatus
  note : Option String
  totalAmount : ℚ
  taxAmount : ℚ
  approvedAt : Option Nat
  createdAt : Nat
  updatedAt : Nat
  deriving DecidableEq

/-- `purchase_order_items` -/
structure PurchaseOrderItemRow extends PurchaseOrderItem where
  unitPrice : ℚ
  discountPrice : ℚ
  totalPrice : ℚ
  createdAt : Nat
  updatedAt : Nat
  deriving DecidableEq

instance : Identified String PurchaseOrderRow := ⟨fun p => p.id⟩
instance : Identified String PurchaseOrderItemRow := ⟨fun i => i.id⟩
/-- An order has one import. -/
instance : Identified String StockImport := ⟨StockImport.purchaseOrderId⟩

structure ProcurementDb where
  /-- `users` and `supplier`, by id -/
  users : List Nat
  suppliers : List Nat
  variants : Table BookVariant
  purchaseOrders : Registry PurchaseOrderRow
  purchaseOrderItems : Registry PurchaseOrderItemRow
  stockImports : Registry StockImport
  /-- Cuids that were drawn. -/
  drawn : Nat

/-- Stock was increased for a purchase order. -/
structure StockIncrease where
  purchaseOrderId : String
  /-- The `status` of the order at that moment. -/
  status : PurchaseOrderStatus
  bookVariantId : Nat
  quantity : Nat
  deriving DecidableEq

/-- `updatePurchaseOrderStatus` was executed. -/
structure PurchaseDecision where
  purchaseOrderId : String
  approvedById : Nat
  deriving DecidableEq

structure ProcurementWorld where
  db : ProcurementDb
  now : Nat
  /-- History. -/
  increases : List StockIncrease
  decisions : List PurchaseDecision

namespace PurchaseOrderMessage

def updatedPurchaseOrderCouldNotBeLoaded : String := "Không thể tải đơn mua vừa cập nhật"
def purchaseOrderNotFound : String := "Không tìm thấy đơn mua"
def statusMustBeApprovedOrRejected : String :=
  "Trạng thái đơn mua phải là APPROVED hoặc REJECTED"
def purchaseOrderHasAlreadyBeenProcessed : String := "Đơn mua đã được xử lý trước đó"
def purchaseOrderMustHaveAtLeastOneItem : String := "Đơn mua phải có ít nhất một sản phẩm"
def invalidSupplier : String := "Nhà cung cấp không hợp lệ"

end PurchaseOrderMessage

/-! ### Columns -/

/-- The number can be stored in an `Int` column. -/
def FitsInt (x : ℚ) : Prop :=
  x.den = 1 ∧ |x| < 2 ^ 31

/-- What a `@db.Decimal(18, 2)` column keeps; halves are rounded away from zero. -/
def toDecimal (x : ℚ) : ℚ :=
  if 0 ≤ x then ⌊x * 100 + 1 / 2⌋ / 100 else -(⌊-x * 100 + 1 / 2⌋ / 100)

/-- The number can be stored in a `@db.Decimal(18, 2)` column. -/
def FitsDecimal (x : ℚ) : Prop :=
  |toDecimal x| < 10 ^ 16

instance (x : ℚ) : Decidable (FitsInt x) := by
  unfold FitsInt
  infer_instance

instance (x : ℚ) : Decidable (FitsDecimal x) := by
  unfold FitsDecimal
  infer_instance

/-! ### Statements -/

structure CreatePurchaseOrderInput where
  code : String
  supplierId : Nat
  createdById : Nat
  note : Option String
  taxAmount : ℚ
  totalAmount : ℚ
  deriving DecidableEq

structure CreatePurchaseOrderItemInput where
  bookVariantId : Nat
  quantity : ℚ
  unitPrice : ℚ
  discountPrice : ℚ
  price : ℚ
  totalPrice : ℚ
  /-- Bodies are checked before they reach the service. -/
  quantity_min : 1 ≤ quantity
  deriving DecidableEq

/-- `purchaseOrderDetailSelect` -/
structure PurchaseOrderDetail where
  purchaseOrder : PurchaseOrderRow
  items : List PurchaseOrderItemRow
  deriving DecidableEq

inductive ProcurementStmt
  /-- The transaction of `createPurchaseOrder`. -/
  | createPurchaseOrder (input : CreatePurchaseOrderInput)
      (items : List CreatePurchaseOrderItemInput)
  | findPurchaseOrderById (purchaseOrderId : String)
  | updatePurchaseOrderStatus
      (purchaseOrderId : String) (approvedById : Nat) (status : PurchaseOrderStatus)
  | updateTransferStatus
      (purchaseOrderId : String) (updateTransferId : Nat) (status : PurchaseOrderType)
      (realPayPrice : Option ℚ)
  | findPurchaseOrderItemsByIds (ids : List String)
  /-- The transaction of `createStockImport`. -/
  | createStockImport (data : StockImportInput)
  | findStockImportById (purchaseOrderId : String)
  deriving DecidableEq

abbrev ProcurementResponse : ProcurementStmt → Type
  | .createPurchaseOrder _ _ => Option PurchaseOrderDetail
  | .findPurchaseOrderById _ => Option PurchaseOrderDetail
  | .updatePurchaseOrderStatus _ _ _ => Unit
  | .updateTransferStatus _ _ _ _ => Unit
  | .findPurchaseOrderItemsByIds _ => List PurchaseOrderItem
  | .createStockImport _ => Option StockImport
  | .findStockImportById _ => Option StockImport

namespace ProcurementDb

/-- The stock of a variant; `0` when there is no such row. -/
def stock (db : ProcurementDb) (v : Nat) : Int :=
  ((db.variants.find v).map BookVariant.stock).getD 0

/-- `orderBy: [{ createdAt: 'asc' }, { id: 'asc' }]`; cuids ascend as they are drawn. -/
def itemsOf (db : ProcurementDb) (purchaseOrderId : String) : List PurchaseOrderItemRow :=
  orderBy (fun i i' => decide (i.createdAt < i'.createdAt))
    (db.purchaseOrderItems.rows.filter fun i => decide (i.purchaseOrderId = purchaseOrderId))

def findPurchaseOrderById (db : ProcurementDb) (purchaseOrderId : String) :
    Option PurchaseOrderDetail :=
  (db.purchaseOrders.find purchaseOrderId).map fun p => ⟨p, db.itemsOf purchaseOrderId⟩

end ProcurementDb

section Rows

variable (now : Nat)

/-- The row that `createPurchaseOrder` inserts. -/
def newPurchaseOrder (id : String) (input : CreatePurchaseOrderInput) : PurchaseOrderRow where
  id := id
  statusTransfer := .pending
  approvedById := none
  realPayPrice := none
  code := input.code
  supplierId := input.supplierId
  createdById := input.createdById
  status := .pending
  note := input.note
  totalAmount := toDecimal input.totalAmount
  taxAmount := toDecimal input.taxAmount
  approvedAt := none
  createdAt := now
  updatedAt := now

/-- A row that `createPurchaseOrderItems` inserts. -/
def newPurchaseOrderItem (id purchaseOrderId : String) (item : CreatePurchaseOrderItemInput) :
    PurchaseOrderItemRow where
  id := id
  purchaseOrderId := purchaseOrderId
  bookVariantId := item.bookVariantId
  quantity := item.quantity.num
  price := toDecimal item.price
  unitPrice := toDecimal item.unitPrice
  discountPrice := toDecimal item.discountPrice
  totalPrice := toDecimal item.totalPrice
  createdAt := now
  updatedAt := now

/-- The columns of an item fit, and its variant is there. -/
def ProcurementDb.Stores (db : ProcurementDb) (item : CreatePurchaseOrderItemInput) : Prop :=
  FitsInt item.quantity ∧ FitsDecimal item.unitPrice ∧ FitsDecimal item.discountPrice ∧
    FitsDecimal item.price ∧ FitsDecimal item.totalPrice ∧
    (db.variants.find item.bookVariantId).isSome

instance (db : ProcurementDb) (item : CreatePurchaseOrderItemInput) :
    Decidable (db.Stores item) := by
  unfold ProcurementDb.Stores
  infer_instance

/-- The items that `createStockImportItems` inserts. -/
def importItems (data : StockImportInput) : List StockImportItem :=
  data.lines.map fun l => ⟨l.purchaseOrderItemId, l.realQuantity, l.lackQuantity, l.totalPrice⟩

/-- The row that `createStockImport` inserts; it needs no rounding, since prices do not. -/
def newStockImport (id : String) (data : StockImportInput) : StockImport where
  id := id
  purchaseOrderId := data.purchaseOrderId
  createdBy := data.createdBy
  note := data.note
  totalAmount := data.totalAmount
  items := importItems data

/-- `updatePurchaseOrderStatus` -/
def PurchaseOrderRow.decided (approvedById : Nat) (status : PurchaseOrderStatus)
    (p : PurchaseOrderRow) : PurchaseOrderRow :=
  { p with
    status := status
    approvedById := some approvedById
    approvedAt := some now
    updatedAt := now }

/-- `updateTransferStatus`, which writes the column of the decision. -/
def PurchaseOrderRow.transferred (updateTransferId : Nat) (status : PurchaseOrderType)
    (realPayPrice : Option ℚ) (p : PurchaseOrderRow) : PurchaseOrderRow :=
  { p with
    statusTransfer := status
    approvedById := some updateTransferId
    realPayPrice := realPayPrice.or p.realPayPrice
    updatedAt := now }

theorem ident_decided (approvedById : Nat) (status : PurchaseOrderStatus)
    (p : PurchaseOrderRow) : ident (p.decided now approvedById status) = ident p := rfl

theorem ident_transferred (updateTransferId : Nat) (status : PurchaseOrderType)
    (realPayPrice : Option ℚ) (p : PurchaseOrderRow) :
    ident (p.transferred now updateTransferId status realPayPrice) = ident p := rfl

end Rows

/-! ### Effects -/

section Exec

variable (cuids : Nat → String)

/-- The rows of `createPurchaseOrderItems`; their cuids are drawn after that of the order. -/
def newPurchaseOrderItems (now drawn : Nat) (items : List CreatePurchaseOrderItemInput) :
    List PurchaseOrderItemRow :=
  items.mapIdx fun i item =>
    newPurchaseOrderItem now (cuids (drawn + 1 + i)) (cuids drawn) item

/-- The tables after the transaction of `createPurchaseOrder`. -/
def createdPurchaseOrder (now : Nat) (input : CreatePurchaseOrderInput)
    (items : List CreatePurchaseOrderItemInput) (db : ProcurementDb) : Option ProcurementDb := do
  guard (input.createdById ∈ db.users ∧ FitsDecimal input.totalAmount ∧
    FitsDecimal input.taxAmount ∧
    (∀ p, p ∈ db.purchaseOrders.rows → p.code ≠ input.code) ∧
    ∀ item, item ∈ items → db.Stores item)
  let orders ← db.purchaseOrders.add (newPurchaseOrder now (cuids db.drawn) input)
  let orderItems ← db.purchaseOrderItems.addAll (newPurchaseOrderItems cuids now db.drawn items)
  return { db with
    purchaseOrders := orders
    purchaseOrderItems := orderItems
    drawn := db.drawn + 1 + items.length }

/-- The columns of a line fit, and its variant is there. -/
def ProcurementDb.Receives (db : ProcurementDb) (line : StockImportLine) : Prop :=
  FitsInt line.realQuantity ∧ FitsInt line.lackQuantity ∧ FitsDecimal line.totalPrice ∧
    (db.variants.find line.bookVariantId).isSome

instance (db : ProcurementDb) (line : StockImportLine) : Decidable (db.Receives line) := by
  unfold ProcurementDb.Receives
  infer_instance

/-- The tables after the transaction of `createStockImport`. -/
def createdStockImport (now : Nat) (data : StockImportInput) (db : ProcurementDb) :
    Option ProcurementDb := do
  guard (data.createdBy ∈ db.users ∧ (db.purchaseOrders.find data.purchaseOrderId).isSome ∧
    FitsDecimal data.totalAmount ∧ FitsDecimal data.realPayPrice ∧
    (∀ s, s ∈ db.stockImports.rows → s.id ≠ cuids db.drawn) ∧
    ∀ line, line ∈ data.lines → db.Receives line)
  -- the key is `purchaseOrderId`: an order that has an import is refused
  let imports ← db.stockImports.add (newStockImport (cuids db.drawn) data)
  let variants := incrementStockById
    (data.lines.map fun l => (l.bookVariantId, l.realQuantity)) db.variants
  guard (∀ v, v ∈ variants.rows → FitsInt v.stock)
  return { db with
    stockImports := imports
    variants := variants
    purchaseOrders := db.purchaseOrders.update data.purchaseOrderId
      (PurchaseOrderRow.transferred now data.createdBy .purchase (some data.realPayPrice))
      (ident_transferred now data.createdBy .purchase (some data.realPayPrice))
    drawn := db.drawn + 1 + data.lines.length }

/-- The increases of an import for a purchase order. -/
def increasesFor (p : PurchaseOrderRow) (data : StockImportInput) : List StockIncrease :=
  data.lines.map fun l => ⟨p.id, p.status, l.bookVariantId, l.realQuantity⟩

/-- The effect and the answer of a statement. -/
def procurementExec : (s : ProcurementStmt) → ProcurementWorld →
    Except Failure (ProcurementWorld × ProcurementResponse s)
  | .createPurchaseOrder input items, w =>
      if input.supplierId ∈ w.db.suppliers then
        match createdPurchaseOrder cuids w.now input items w.db with
        | none => .error .database
        | some db => .ok ({ w with db := db }, db.findPurchaseOrderById (cuids w.db.drawn))
      else
        .error (.badRequest PurchaseOrderMessage.invalidSupplier)
  | .findPurchaseOrderById purchaseOrderId, w =>
      .ok (w, w.db.findPurchaseOrderById purchaseOrderId)
  | .updatePurchaseOrderStatus purchaseOrderId approvedById status, w =>
      match w.db.purchaseOrders.find purchaseOrderId with
      | none => .error .database
      | some _ =>
          .ok ({ w with
            db := { w.db with
              purchaseOrders := w.db.purchaseOrders.update purchaseOrderId
                (PurchaseOrderRow.decided w.now approvedById status)
                (ident_decided w.now approvedById status) }
            decisions := w.decisions ++ [⟨purchaseOrderId, approvedById⟩] }, ())
  | .updateTransferStatus purchaseOrderId updateTransferId status realPayPrice, w =>
      match w.db.purchaseOrders.find purchaseOrderId with
      | none => .error .database
      | some _ =>
          .ok ({ w with
            db := { w.db with
              purchaseOrders := w.db.purchaseOrders.update purchaseOrderId
                (PurchaseOrderRow.transferred w.now updateTransferId status realPayPrice)
                (ident_transferred w.now updateTransferId status realPayPrice) } },
            ())
  | .findPurchaseOrderItemsByIds ids, w =>
      .ok (w, (w.db.purchaseOrderItems.rows.filter fun i => ids.contains i.id).map
        PurchaseOrderItemRow.toPurchaseOrderItem)
  | .createStockImport data, w =>
      match w.db.purchaseOrders.find data.purchaseOrderId,
          createdStockImport cuids w.now data w.db with
      | some p, some db =>
          .ok ({ w with db := db, increases := w.increases ++ increasesFor p data },
            -- `findStockImportById(si.id)` looks for a `purchaseOrderId`
            db.stockImports.find (cuids w.db.drawn))
      | _, _ => .error .database
  | .findStockImportById purchaseOrderId, w =>
      .ok (w, w.db.stockImports.find purchaseOrderId)

end Exec

/-! ### What a transaction has done -/

section Transactions

variable {cuids : Nat → String} {now : Nat} {db db' : ProcurementDb}

/-- The transaction of `createPurchaseOrder` has been committed. -/
structure PurchaseOrderCreated (cuids : Nat → String) (now : Nat)
    (input : CreatePurchaseOrderInput) (items : List CreatePurchaseOrderItemInput)
    (db db' : ProcurementDb) : Prop where
  purchaseOrders : db'.purchaseOrders.rows =
    db.purchaseOrders.rows ++ [newPurchaseOrder now (cuids db.drawn) input]
  purchaseOrderItems : db'.purchaseOrderItems.rows =
    db.purchaseOrderItems.rows ++ newPurchaseOrderItems cuids now db.drawn items
  variants : db'.variants = db.variants
  stockImports : db'.stockImports = db.stockImports

theorem createdPurchaseOrder_eq_some
    {input : CreatePurchaseOrderInput} {items : List CreatePurchaseOrderItemInput}
    (h : createdPurchaseOrder cuids now input items db = some db') :
    PurchaseOrderCreated cuids now input items db db' := by
  unfold createdPurchaseOrder at h
  obtain ⟨_, -, h⟩ := Option.bind_eq_some_iff.mp h
  obtain ⟨orders, horders, h⟩ := Option.bind_eq_some_iff.mp h
  obtain ⟨orderItems, hitems, h⟩ := Option.bind_eq_some_iff.mp h
  cases h
  exact
    { purchaseOrders := Registry.rows_add horders
      purchaseOrderItems := Registry.rows_addAll hitems
      variants := rfl
      stockImports := rfl }

/-- The transaction of `createStockImport` has been committed. -/
structure StockImportCreated (cuids : Nat → String) (now : Nat) (data : StockImportInput)
    (db db' : ProcurementDb) : Prop where
  found : ∀ line, line ∈ data.lines → (db.variants.find line.bookVariantId).isSome
  stockImports : db'.stockImports.rows =
    db.stockImports.rows ++ [newStockImport (cuids db.drawn) data]
  variants : db'.variants = incrementStockById
    (data.lines.map fun l => (l.bookVariantId, l.realQuantity)) db.variants
  purchaseOrders : db'.purchaseOrders = db.purchaseOrders.update data.purchaseOrderId
    (PurchaseOrderRow.transferred now data.createdBy .purchase (some data.realPayPrice))
      (ident_transferred now data.createdBy .purchase (some data.realPayPrice))
  purchaseOrderItems : db'.purchaseOrderItems = db.purchaseOrderItems

theorem createdStockImport_eq_some
    {data : StockImportInput}
    (h : createdStockImport cuids now data db = some db') :
    StockImportCreated cuids now data db db' := by
  unfold createdStockImport at h
  obtain ⟨_, hguard, h⟩ := Option.bind_eq_some_iff.mp h
  obtain ⟨imports, himports, h⟩ := Option.bind_eq_some_iff.mp h
  obtain ⟨_, -, h⟩ := Option.bind_eq_some_iff.mp h
  cases h
  obtain ⟨-, -, -, -, -, hreceives⟩ := (Option.guard_eq_some' _).mp hguard
  exact
    { found := fun line hline => (hreceives line hline).2.2.2
      stockImports := Registry.rows_add himports
      variants := rfl
      purchaseOrders := rfl
      purchaseOrderItems := rfl }

/-- What a statement that was executed has done. -/
inductive ProcurementEffect (cuids : Nat → String) (w : ProcurementWorld) :
    ProcurementStmt → ProcurementWorld → Prop
  | findPurchaseOrderById (purchaseOrderId : String) :
      ProcurementEffect cuids w (.findPurchaseOrderById purchaseOrderId) w
  | findPurchaseOrderItemsByIds (ids : List String) :
      ProcurementEffect cuids w (.findPurchaseOrderItemsByIds ids) w
  | findStockImportById (purchaseOrderId : String) :
      ProcurementEffect cuids w (.findStockImportById purchaseOrderId) w
  | createPurchaseOrder
      (input : CreatePurchaseOrderInput) (items : List CreatePurchaseOrderItemInput)
      (db : ProcurementDb) (h : PurchaseOrderCreated cuids w.now input items w.db db) :
      ProcurementEffect cuids w (.createPurchaseOrder input items) { w with db := db }
  | updatePurchaseOrderStatus
      (purchaseOrderId : String) (approvedById : Nat) (status : PurchaseOrderStatus)
      (p : PurchaseOrderRow) (hp : w.db.purchaseOrders.find purchaseOrderId = some p) :
      ProcurementEffect cuids w
        (.updatePurchaseOrderStatus purchaseOrderId approvedById status)
        { w with
          db := { w.db with
            purchaseOrders := w.db.purchaseOrders.update purchaseOrderId
              (PurchaseOrderRow.decided w.now approvedById status)
                (ident_decided w.now approvedById status) }
          decisions := w.decisions ++ [⟨purchaseOrderId, approvedById⟩] }
  | updateTransferStatus
      (purchaseOrderId : String) (updateTransferId : Nat) (status : PurchaseOrderType)
      (realPayPrice : Option ℚ)
      (p : PurchaseOrderRow) (hp : w.db.purchaseOrders.find purchaseOrderId = some p) :
      ProcurementEffect cuids w
        (.updateTransferStatus purchaseOrderId updateTransferId status realPayPrice)
        { w with
          db := { w.db with
            purchaseOrders := w.db.purchaseOrders.update purchaseOrderId
              (PurchaseOrderRow.transferred w.now updateTransferId status realPayPrice)
                (ident_transferred w.now updateTransferId status realPayPrice) } }
  | createStockImport
      (data : StockImportInput) (p : PurchaseOrderRow) (db : ProcurementDb)
      (hp : w.db.purchaseOrders.find data.purchaseOrderId = some p)
      (hcreated : createdStockImport cuids w.now data w.db = some db)
      (h : StockImportCreated cuids w.now data w.db db) :
      ProcurementEffect cuids w (.createStockImport data)
        { w with db := db, increases := w.increases ++ increasesFor p data }

theorem procurementExec_effect
    {s : ProcurementStmt} {w w' : ProcurementWorld} {r : ProcurementResponse s}
    (h : procurementExec cuids s w = .ok (w', r)) :
    ProcurementEffect cuids w s w' := by
  cases s with
  | createPurchaseOrder input items =>
      simp only [procurementExec] at h
      split_ifs at h
      cases hdb : createdPurchaseOrder cuids w.now input items w.db with
      | none =>
          simp [hdb] at h
      | some db =>
          simp only [hdb, Except.ok.injEq, Prod.mk.injEq] at h
          obtain ⟨rfl, -⟩ := h
          exact .createPurchaseOrder input items db (createdPurchaseOrder_eq_some hdb)
  | updatePurchaseOrderStatus purchaseOrderId approvedById status =>
      cases hp : w.db.purchaseOrders.find purchaseOrderId with
      | none =>
          simp [procurementExec, hp] at h
      | some p =>
          simp only [procurementExec, hp, Except.ok.injEq, Prod.mk.injEq] at h
          obtain ⟨rfl, -⟩ := h
          exact .updatePurchaseOrderStatus purchaseOrderId approvedById status p hp
  | updateTransferStatus purchaseOrderId updateTransferId status realPayPrice =>
      cases hp : w.db.purchaseOrders.find purchaseOrderId with
      | none =>
          simp [procurementExec, hp] at h
      | some p =>
          simp only [procurementExec, hp, Except.ok.injEq, Prod.mk.injEq] at h
          obtain ⟨rfl, -⟩ := h
          exact .updateTransferStatus purchaseOrderId updateTransferId status realPayPrice p hp
  | createStockImport data =>
      cases hp : w.db.purchaseOrders.find data.purchaseOrderId with
      | none =>
          simp [procurementExec, hp] at h
      | some p =>
          cases hdb : createdStockImport cuids w.now data w.db with
          | none =>
              simp [procurementExec, hp, hdb] at h
          | some db =>
              simp only [procurementExec, hp, hdb, Except.ok.injEq, Prod.mk.injEq] at h
              obtain ⟨rfl, -⟩ := h
              exact .createStockImport data p db hp hdb (createdStockImport_eq_some hdb)
  | findPurchaseOrderById purchaseOrderId =>
      cases h
      exact .findPurchaseOrderById purchaseOrderId
  | findPurchaseOrderItemsByIds ids =>
      cases h
      exact .findPurchaseOrderItemsByIds ids
  | findStockImportById purchaseOrderId =>
      cases h
      exact .findStockImportById purchaseOrderId

/-- An import that is not refused is of an order that is there. -/
theorem procurementExec_createStockImport_error
    {data : StockImportInput} {w : ProcurementWorld} {e : Failure}
    (h : procurementExec cuids (.createStockImport data) w = .error e) :
    w.db.purchaseOrders.find data.purchaseOrderId = none ∨
      createdStockImport cuids w.now data w.db = none := by
  cases hp : w.db.purchaseOrders.find data.purchaseOrderId with
  | none =>
      exact .inl rfl
  | some p =>
      cases hdb : createdStockImport cuids w.now data w.db with
      | none =>
          exact .inr rfl
      | some db =>
          simp [procurementExec, hp, hdb] at h

end Transactions

end BookStore
