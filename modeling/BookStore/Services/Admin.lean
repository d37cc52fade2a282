import BookStore.Services.Checkout
import Mathlib.Algebra.Order.Group.Abs
import Mathlib.Algebra.Order.Ring.Rat

/-!
# Administration

`AdminOrderService.updateOrderStatus` and
`AdminStockImportService.createStockImport`.
-/

namespace BookStore

open Async Program

def updateOrderStatus (orderId : Nat) (body : AdminOrderStatusDto) :
    Service Answer := do
  let order : Option Order ← query (.findOrderStatusById orderId)
  match order with
  | none => raise (.notFound AdminOrderMessage.orderNotFound)
  | some order =>
      if order.status ≠ some .pendingPayment then
        raise (.badRequest AdminOrderMessage.orderStatusUpdateOnlyPendingPayment)
      else do
        query (.updateOrderStatus orderId body.status body.note)
        ret (.orderStatusUpdated AdminOrderMessage.orderStatusUpdatedSuccessfully)

/-- One element of `itemsWithPrices`, with the price of the purchase-order item. -/
def itemWithPrice
    (poItems : List PurchaseOrderItem)
    (item : CreateAdminStockImportItemRequestDto) :
    Except Failure (StockImportLine × ℚ) :=
  -- `new Map(...)` keeps the last row of an id
  match poItems.reverse.find? fun i => decide (i.id = item.purchaseOrderItemId) with
  | none =>
      .error (.notFound
        ("Purchase order item " ++ item.purchaseOrderItemId ++ " not found"))
  | some poItem =>
      let lackQuantity : Int := poItem.quantity - item.realQuantity
      .ok ({ purchaseOrderItemId := item.purchaseOrderItemId
             bookVariantId := poItem.bookVariantId
             realQuantity := item.realQuantity
             lackQuantity := lackQuantity
             totalPrice :=
              (item.realQuantity : ℚ) * poItem.price -
                (lackQuantity : ℚ) * poItem.price },
        poItem.price)

/-- What is paid to the supplier. -/
def realPayPrice (total purchase : ℚ) : ℚ :=
  if total > purchase then total
  else if purchase > total then purchase - |total|
  else purchase

def stockImportInput
    (createdById : Nat)
    (body : CreateAdminStockImportRequestDto)
    (itemsWithPrices : List (StockImportLine × ℚ)) : StockImportInput :=
  let totalAmount := (itemsWithPrices.map fun i => i.1.totalPrice).sum
  let purchasePrice := (itemsWithPrices.map Prod.snd).sum
  { purchaseOrderId := body.purchaseOrderId
    createdBy := createdById
    note := body.note
    totalAmount := totalAmount
    realPayPrice := realPayPrice totalAmount purchasePrice
    lines := itemsWithPrices.map Prod.fst }

def createStockImport
    (createdById : Nat) (body : CreateAdminStockImportRequestDto) :
    Service Answer := do
  let poItems : List PurchaseOrderItem ←
    query (.findPurchaseOrderItemsByIds (body.items.map (·.purchaseOrderItemId)))
  match body.items.mapM (itemWithPrice poItems) with
  | .error err => raise err
  | .ok itemsWithPrices => do
      let created : Option StockImport ←
        query (.importStock (stockImportInput createdById body itemsWithPrices))
      match created with
      -- `toAdminStockImportDetail(created!)` reads a column of `null`
      | none => raise .typeError
      | some created => ret (.stockImported created)

end BookStore
