import BookStore.Checkout.Numbers
import BookStore.Procurement.Statements
import BookStore.Server
import Mathlib.Tactic.Linarith
import Mathlib.Tactic.NormNum

/-!
# Purchase orders and stock imports: the services

`PurchaseOrderService` and `AdminStockImportService`.  `approvePurchaseOrder` reads the
order and writes its decision in two statements; `updateStatusTransfer` and
`createStockImport` do not read the order at all.

`CreateAdminStockImportItemRequestDto` accepts every number from `0` on as the quantity that
has arrived: the columns hold whole numbers, and the transaction is refused for any other.
-/

namespace BookStore

open Async Program

namespace StockImportItemMessage

def stockImportNotFound : String := "Không tìm thấy phiếu nhập kho"

end StockImportItemMessage

abbrev ProcurementService := Program ProcurementStmt ProcurementResponse Failure

/-- Await a statement. -/
abbrev procurementQuery (s : ProcurementStmt) : ProcurementService (ProcurementResponse s) :=
  await s

/-! ### Bodies -/

@[ext]
structure CreatePurchaseOrderItemRequestDto where
  bookVariantId : Nat
  quantity : ℚ
  unitPrice : ℚ
  discountPrice : ℚ
  quantity_min : 1 ≤ quantity
  unitPrice_min : 0 ≤ unitPrice
  discountPrice_min : 0 ≤ discountPrice
  discountPrice_max : discountPrice ≤ 100

instance : DecidableEq CreatePurchaseOrderItemRequestDto := fun _ _ =>
  decidable_of_iff _ CreatePurchaseOrderItemRequestDto.ext_iff.symm

structure CreatePurchaseOrderRequestDto where
  supplierId : Nat
  code : String
  note : Option String
  taxAmount : Option ℚ
  items : List CreatePurchaseOrderItemRequestDto
  taxAmount_min : ∀ x, taxAmount = some x → 0 ≤ x
  deriving DecidableEq

/-! ### What is returned -/

structure PurchaseOrderItemResponse where
  id : String
  purchaseOrderId : String
  bookVariantId : String
  quantity : Int
  unitPrice : ℚ
  discountPrice : ℚ
  price : ℚ
  totalPrice : ℚ
  createdAt : Nat
  updatedAt : Nat
  deriving DecidableEq

structure PurchaseOrderCreateResponse where
  id : String
  supplierId : String
  code : String
  status : PurchaseOrderStatus
  note : Option String
  totalAmount : ℚ
  realPayPrice : Option ℚ
  taxAmount : ℚ
  createdAt : Nat
  updatedAt : Nat
  items : List PurchaseOrderItemResponse
  deriving DecidableEq

def toPurchaseOrderItem (row : PurchaseOrderItemRow) : PurchaseOrderItemResponse where
  id := row.id
  purchaseOrderId := row.purchaseOrderId
  bookVariantId := toString row.bookVariantId
  quantity := row.quantity
  unitPrice := row.unitPrice
  discountPrice := row.discountPrice
  price := row.price
  totalPrice := row.totalPrice
  createdAt := row.createdAt
  updatedAt := row.updatedAt

def toPurchaseOrderCreateResponse (row : PurchaseOrderDetail) : PurchaseOrderCreateResponse where
  id := row.purchaseOrder.id
  supplierId := toString row.purchaseOrder.supplierId
  code := row.purchaseOrder.code
  status := row.purchaseOrder.status
  note := row.purchaseOrder.note
  totalAmount := row.purchaseOrder.totalAmount
  realPayPrice := row.purchaseOrder.realPayPrice
  taxAmount := row.purchaseOrder.taxAmount
  createdAt := row.purchaseOrder.createdAt
  updatedAt := row.purchaseOrder.updatedAt
  items := row.items.map toPurchaseOrderItem

inductive ProcurementAnswer
  | purchaseOrder (response : PurchaseOrderCreateResponse)
  /-- `approvePurchaseOrder` has returned, for an order and a user. -/
  | decided (purchaseOrderId : String) (approvedById : Nat)
  | transferred
  | stockImport (detail : StockImport)
  /-- A statement that was abandoned by its sender. -/
  | none
  deriving DecidableEq

/-! ### `PurchaseOrderService` -/

/-- One element of `itemsWithPrices` -/
def pricedItem (item : CreatePurchaseOrderItemRequestDto) : CreatePurchaseOrderItemInput :=
  let price := item.unitPrice - item.unitPrice * (item.discountPrice / 100)
  { bookVariantId := item.bookVariantId
    quantity := item.quantity
    unitPrice := item.unitPrice
    discountPrice := item.discountPrice
    price := price
    totalPrice := price * item.quantity
    quantity_min := item.quantity_min }

theorem price_pricedItem (item : CreatePurchaseOrderItemRequestDto) :
    0 ≤ (pricedItem item).price := by
  have hdiscount : item.discountPrice / 100 ≤ 1 := by
    have := item.discountPrice_max
    linarith
  have := mul_le_of_le_one_right item.unitPrice_min hdiscount
  exact sub_nonneg.mpr this

def createPurchaseOrder (createdById : Nat) (body : CreatePurchaseOrderRequestDto) :
    ProcurementService PurchaseOrderCreateResponse := do
  let itemsWithPrices := body.items.map pricedItem
  let createdOrder : Option PurchaseOrderDetail ←
    procurementQuery (.createPurchaseOrder
      { code := body.code
        supplierId := body.supplierId
        createdById := createdById
        note := body.note
        taxAmount := body.taxAmount.getD 0
        totalAmount := (itemsWithPrices.map CreatePurchaseOrderItemInput.totalPrice).sum }
      itemsWithPrices)
  match createdOrder with
  | none => raise (.error PurchaseOrderMessage.updatedPurchaseOrderCouldNotBeLoaded)
  | some createdOrder => ret (toPurchaseOrderCreateResponse createdOrder)

def approvePurchaseOrder (purchaseOrderId : String) (approvedById : Nat)
    (status : PurchaseOrderStatus) : ProcurementService Unit :=
  if status = .pending then
    raise (.badRequest PurchaseOrderMessage.statusMustBeApprovedOrRejected)
  else do
    let found : Option PurchaseOrderDetail ←
      procurementQuery (.findPurchaseOrderById purchaseOrderId)
    match found with
    | none => raise (.notFound PurchaseOrderMessage.purchaseOrderNotFound)
    | some found =>
        if found.purchaseOrder.status ≠ .pending then
          raise (.badRequest PurchaseOrderMessage.purchaseOrderHasAlreadyBeenProcessed)
        else if found.items.isEmpty then
          raise (.badRequest PurchaseOrderMessage.purchaseOrderMustHaveAtLeastOneItem)
        else
          procurementQuery (.updatePurchaseOrderStatus purchaseOrderId approvedById status)

def updateStatusTransfer (purchaseOrderId : String) (approvedById : Nat)
    (status : PurchaseOrderType) : ProcurementService Unit :=
  procurementQuery (.updateTransferStatus purchaseOrderId approvedById status none)

/-! ### `AdminStockImportService` -/

namespace Numbers

@[ext]
structure CreateAdminStockImportItemRequestDto where
  purchaseOrderItemId : String
  realQuantity : ℚ
  /-- `@Min(0)` -/
  realQuantity_min : 0 ≤ realQuantity

instance : DecidableEq CreateAdminStockImportItemRequestDto := fun _ _ =>
  decidable_of_iff _ CreateAdminStockImportItemRequestDto.ext_iff.symm

structure CreateAdminStockImportRequestDto where
  purchaseOrderId : String
  note : Option String
  items : List CreateAdminStockImportItemRequestDto
  deriving DecidableEq

structure StockImportLine where
  purchaseOrderItemId : String
  bookVariantId : Nat
  realQuantity : ℚ
  lackQuantity : ℚ
  totalPrice : ℚ

/-- One element of `itemsWithPrices`, with the price of the purchase-order item. -/
def itemWithPrice
    (poItems : List PurchaseOrderItem)
    (item : CreateAdminStockImportItemRequestDto) :
    Except Failure (StockImportLine × ℚ) :=
  -- `new Map(...)` keeps the last row of an id
  match poItems.reverse.find? fun i => decide (i.id = item.purchaseOrderItemId) with
  | none =>
      .error (.notFound
        ("Purchase order item " ++ item.purchaseOrderItemId ++ " not found"))
  | some poItem =>
      let lackQuantity : ℚ := poItem.quantity - item.realQuantity
      .ok ({ purchaseOrderItemId := item.purchaseOrderItemId
             bookVariantId := poItem.bookVariantId
             realQuantity := item.realQuantity
             lackQuantity := lackQuantity
             totalPrice :=
              item.realQuantity * poItem.price - lackQuantity * poItem.price },
        poItem.price)

/-- The columns of a line are integers. -/
def StockImportLine.stored (l : StockImportLine) : Option BookStore.StockImportLine :=
  if Whole l.realQuantity ∧ Whole l.lackQuantity then
    some
      { purchaseOrderItemId := l.purchaseOrderItemId
        bookVariantId := l.bookVariantId
        realQuantity := l.realQuantity.num.toNat
        lackQuantity := l.lackQuantity.num
        totalPrice := l.totalPrice }
  else none

/-- What the transaction is given, unless a column refuses it. -/
def stockImportInput
    (createdById : Nat)
    (body : CreateAdminStockImportRequestDto)
    (itemsWithPrices : List (StockImportLine × ℚ)) : Option StockImportInput :=
  let totalAmount := (itemsWithPrices.map fun i => i.1.totalPrice).sum
  let purchasePrice := (itemsWithPrices.map Prod.snd).sum
  ((itemsWithPrices.map Prod.fst).mapM StockImportLine.stored).map fun lines =>
    { purchaseOrderId := body.purchaseOrderId
      createdBy := createdById
      note := body.note
      totalAmount := totalAmount
      realPayPrice := realPayPrice totalAmount purchasePrice
      lines := lines }

def createStockImport (createdById : Nat) (body : CreateAdminStockImportRequestDto) :
    ProcurementService StockImport := do
  let poItems : List PurchaseOrderItem ←
    procurementQuery (.findPurchaseOrderItemsByIds (body.items.map (·.purchaseOrderItemId)))
  match body.items.mapM (itemWithPrice poItems) with
  | .error err => raise err
  | .ok itemsWithPrices =>
      match stockImportInput createdById body itemsWithPrices with
      | none => raise .database
      | some data => do
          let created : Option StockImport ← procurementQuery (.createStockImport data)
          match created with
          -- `toAdminStockImportDetail(created!)` reads a column of `null`
          | none => raise .typeError
          | some created => ret created

end Numbers

def getStockImportDetail (purchaseOrderId : String) : ProcurementService StockImport := do
  let row : Option StockImport ← procurementQuery (.findStockImportById purchaseOrderId)
  match row with
  | none => raise (.notFound StockImportItemMessage.stockImportNotFound)
  | some row => ret row

/-! ### The server -/

/-- Requests of a user who has been let in. -/
inductive ProcurementRequest
  | createPurchaseOrder (user : Nat) (body : CreatePurchaseOrderRequestDto)
  | approvePurchaseOrder (purchaseOrderId : String) (user : Nat) (status : PurchaseOrderStatus)
  | updateStatusTransfer (purchaseOrderId : String) (user : Nat)
  | createStockImport (user : Nat) (body : Numbers.CreateAdminStockImportRequestDto)
  | getStockImportDetail (purchaseOrderId : String)
  deriving DecidableEq

def ProcurementRequest.handler : ProcurementRequest → ProcurementService ProcurementAnswer
  | .createPurchaseOrder user body => do
      let response ← BookStore.createPurchaseOrder user body
      ret (.purchaseOrder response)
  | .approvePurchaseOrder purchaseOrderId user status => do
      let _ ← BookStore.approvePurchaseOrder purchaseOrderId user status
      ret (.decided purchaseOrderId user)
  | .updateStatusTransfer purchaseOrderId user => do
      let _ ← BookStore.updateStatusTransfer purchaseOrderId user .processing
      ret .transferred
  | .createStockImport user body => do
      let detail ← Numbers.createStockImport user body
      ret (.stockImport detail)
  | .getStockImportDetail purchaseOrderId => do
      let detail ← BookStore.getStockImportDetail purchaseOrderId
      ret (.stockImport detail)

/-- A step of the environment. -/
inductive ProcurementEvent
  | arrive (r : ProcurementRequest)
  | tick (ms : Nat)
  deriving DecidableEq

/-- The running server. -/
def procurementServer (cuids : Nat → String) :
    System ProcurementStmt ProcurementResponse Failure ProcurementAnswer
      ProcurementWorld ProcurementEvent where
  exec := procurementExec cuids
  fault := .database
  idle := .none
  env := fun e w =>
    match e with
    | .arrive r => some (w, some r.handler)
    | .tick ms => some ({ w with now := w.now + ms }, none)

/-- The server's state: the tables and the handlers under way. -/
abbrev ProcurementState :=
  Config ProcurementStmt ProcurementResponse Failure ProcurementAnswer ProcurementWorld

/-! ### A small shop

One supplier and one variant; the concrete runs start here. -/

def sampleProcurement : ProcurementWorld where
  db :=
    { users := [1, 2, 3]
      suppliers := [1]
      variants := (sampleWorld 0).db.variants
      purchaseOrders := .empty
      purchaseOrderItems := .empty
      stockImports := .empty
      drawn := 0 }
  now := 0
  increases := []
  decisions := []

/-- Two copies of variant `1`. -/
def samplePurchase : ProcurementRequest :=
  .createPurchaseOrder 1
    { supplierId := 1
      code := "PO-1"
      note := none
      taxAmount := none
      items := [⟨1, 2, 100, 50, by norm_num, by norm_num, by norm_num, by norm_num⟩]
      taxAmount_min := fun _ h => by cases h }

theorem sampleImport_min (quantity : Nat) : (0 : ℚ) ≤ quantity :=
  Nat.cast_nonneg quantity

/-- A user imports `quantity` copies for the order. -/
def sampleImport (user quantity : Nat) : ProcurementRequest :=
  .createStockImport user ⟨"cm", none, [⟨"cm0", quantity, sampleImport_min quantity⟩]⟩

/-- A request whose handler takes `n` steps without failure. -/
def procurementRound (i n : Nat) (r : ProcurementRequest) : List (Action ProcurementEvent) :=
  .env (.arrive r) :: List.replicate n (.run i 0 .ok)

end BookStore
