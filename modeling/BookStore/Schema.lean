import BookStore.Tables
import Mathlib.Algebra.Ring.Rat

/-!
# The database schema

The tables of `prisma/schema.prisma` that ordering, payment and stock import
read or write.  A row keeps the columns some modelled function uses.

Money is exact (`ℚ`), instants are milliseconds (`Nat`).  Two columns are not in
the schema: `Order.requested` and `PaymentTransaction.delivery` record where a
row comes from.  No statement reads them.
-/

namespace BookStore

inductive BookFormat
  | hardcover
  | paperback
  | ebook
  | audiobook
  deriving DecidableEq, Repr

inductive JobStatus
  | pending
  | processing
  | done
  | failed
  | cancelled
  deriving DecidableEq, Repr

inductive OrderStatus
  | pendingPayment
  | paid
  | confirmed
  | packing
  | shipping
  | delivered
  | cancelled
  | returnRequested
  | returned
  | refunded
  | notFoundOrderCode
  deriving DecidableEq, Repr

inductive PaymentGateway
  | cod
  | vnpay
  | momo
  | stripe
  | paypal
  | sepay
  | other
  deriving DecidableEq, Repr

inductive PaymentStatus
  | pending
  | success
  | failed
  | refunded
  | paymentShortfall
  | paymentOverage
  | partialRefund
  | expired
  | notFoundOrderCode
  deriving DecidableEq, Repr

inductive PurchaseOrderType
  | pending
  | processing
  | purchase
  | returned
  deriving DecidableEq, Repr

/-- `book_variants` -/
structure BookVariant where
  id : Nat
  bookId : Nat
  format : BookFormat
  isbn : String
  price : Option ℚ
  stock : Int
  available : Int
  isActive : Bool
  reserved : Int
  edition : Nat
  deriving DecidableEq

/--
The content hashed by `generateContentHash`.  The record stands for its SHA-256
digest, which is taken to be free of collisions.
-/
structure ContentHash where
  isbn : String
  id : Nat
  format : BookFormat
  price : ℚ
  deriving DecidableEq

/-- `book_variant_snapshots` -/
structure BookVariantSnapshot where
  id : Nat
  bookVariantId : Nat
  contentHash : Option ContentHash
  priceSnapshot : ℚ
  formatSnapshot : BookFormat
  deriving DecidableEq

/-- `user_addresses`, joined with the email of the user -/
structure UserAddress where
  id : Nat
  userId : Nat
  deletedAt : Option Nat
  userEmail : String
  deriving DecidableEq

/-- `orders` -/
structure Order where
  id : Nat
  orderCode : String
  userId : Option Nat
  guestSessionId : Option String
  addressId : Option Nat
  status : Option OrderStatus
  paymentStatus : Option PaymentStatus
  subtotal : Option ℚ
  shippingFee : Option ℚ
  totalAmount : Option ℚ
  note : Option String
  expiredAt : Nat
  /-- History: the variants and quantities of the checkout. -/
  requested : List (Nat × Int)
  deriving DecidableEq

/-- `order_items` -/
structure OrderItem where
  id : Nat
  orderId : Nat
  bookVariantSnapshotId : Nat
  quantity : Int
  unitPrice : ℚ
  lineTotal : ℚ
  deriving DecidableEq

/-- `order_addresses` -/
structure OrderAddress where
  id : Nat
  orderId : Nat
  recipientName : String
  phoneNumber : String
  addressLine : String
  ward : Option String
  district : Option String
  city : String
  countryCode : Option String
  note : Option String
  deriving DecidableEq

/-- The query of the QR image that `generateQrUrl` refers to. -/
structure QrUrl where
  bank : String
  acc : String
  template : String
  amount : ℚ
  des : String
  deriving DecidableEq

/-- `payment_intents`; the cuid is a number -/
structure PaymentIntent where
  id : Nat
  orderCode : String
  content : Option String
  gateway : PaymentGateway
  status : Option PaymentStatus
  tokenUrl : String
  paymentUrl : Option QrUrl
  expiredAt : Nat
  deriving DecidableEq

/-- `payment_transactions` -/
structure PaymentTransaction where
  id : Nat
  orderId : Option Nat
  userId : Option Nat
  gateway : PaymentGateway
  status : Option PaymentStatus
  amount : ℚ
  /-- History: the SePay id of the delivery that wrote the row. -/
  delivery : Int
  deriving DecidableEq

/-- What the webhook keeps of a SePay notification. -/
structure SePayHooksDto where
  id : Int
  content : Option String
  transferType : String
  transferAmount : ℚ
  /-- `@Min(0)` -/
  transferAmount_nonneg : 0 ≤ transferAmount
  deriving DecidableEq

/-- `webhook_inbox` -/
structure WebhookInbox where
  id : Nat
  gateway : PaymentGateway
  idempotencyKey : Int
  receivedAt : Nat
  payload : SePayHooksDto
  processedAt : Option Nat
  status : Option JobStatus
  attempts : Option Nat
  deriving DecidableEq

/-- `purchase_orders` -/
structure PurchaseOrder where
  id : String
  statusTransfer : PurchaseOrderType
  approvedById : Option Nat
  realPayPrice : Option ℚ
  deriving DecidableEq

/-- `purchase_order_items` -/
structure PurchaseOrderItem where
  id : String
  purchaseOrderId : String
  bookVariantId : Nat
  quantity : Int
  price : ℚ
  deriving DecidableEq

/-- `stock_import_item` -/
structure StockImportItem where
  purchaseOrderItemId : String
  realQuantity : Nat
  lackQuantity : Int
  totalPrice : ℚ
  deriving DecidableEq

/-- `stock_import` with its items -/
structure StockImport where
  id : String
  purchaseOrderId : String
  createdBy : Nat
  note : Option String
  totalAmount : ℚ
  items : List StockImportItem
  deriving DecidableEq

instance : Keyed BookVariant := ⟨BookVariant.id⟩
instance : Keyed BookVariantSnapshot := ⟨BookVariantSnapshot.id⟩
instance : Keyed UserAddress := ⟨UserAddress.id⟩
instance : Keyed Order := ⟨Order.id⟩
instance : Keyed OrderItem := ⟨OrderItem.id⟩
instance : Keyed OrderAddress := ⟨OrderAddress.id⟩
instance : Keyed PaymentIntent := ⟨PaymentIntent.id⟩
instance : Keyed PaymentTransaction := ⟨PaymentTransaction.id⟩
instance : Keyed WebhookInbox := ⟨WebhookInbox.id⟩

/-- The tables. -/
structure Database where
  variants : Table BookVariant
  snapshots : Table BookVariantSnapshot
  userAddresses : Table UserAddress
  orders : Table Order
  orderItems : Table OrderItem
  orderAddresses : Table OrderAddress
  paymentIntents : Table PaymentIntent
  paymentTransactions : Table PaymentTransaction
  webhookInbox : Table WebhookInbox
  purchaseOrders : List PurchaseOrder
  purchaseOrderItems : List PurchaseOrderItem
  stockImports : List StockImport

namespace Database

/-- The stock of a variant; `0` when there is no such row. -/
def stock (db : Database) (v : Nat) : Int :=
  ((db.variants.find v).map BookVariant.stock).getD 0

/-- The reserved units of a variant; `0` when there is no such row. -/
def reserved (db : Database) (v : Nat) : Int :=
  ((db.variants.find v).map BookVariant.reserved).getD 0

/-- The variant of a snapshot. -/
def variantOfSnapshot (db : Database) (snapshotId : Nat) : Option Nat :=
  (db.snapshots.find snapshotId).map BookVariantSnapshot.bookVariantId

/-- The items of an order. -/
def itemsOf (db : Database) (orderId : Nat) : List OrderItem :=
  db.orderItems.filter (fun i => decide (i.orderId = orderId))

/-- The variants and quantities of the items of an order. -/
def itemQuantities (db : Database) (orderId : Nat) : List (Nat × Int) :=
  (db.itemsOf orderId).filterMap fun i =>
    (db.variantOfSnapshot i.bookVariantSnapshotId).map (fun v => (v, i.quantity))

end Database

/-- The quantity of `v` in a list of variants and quantities. -/
def quantityOf (v : Nat) (lines : List (Nat × Int)) : Int :=
  (lines.map (fun l => if l.1 = v then l.2 else 0)).sum

end BookStore
