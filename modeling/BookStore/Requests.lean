import BookStore.Schema

/-!
# Requests, answers and errors

The bodies that the controllers hand to the services, the data of a checkout
job, what the services return and what they throw.
-/

namespace BookStore

/-- `SHIPPING_FEE` -/
def shippingFee : ℚ := 20000

/-- `ORDER_EXPIRED_SECONDS` -/
def orderExpiredSeconds : Nat := 100 * 60

/-- `PAYMENT_INTENT_EXPIRES_IN_MS` -/
def paymentIntentExpiresInMs : Nat := 60 * 60 * 1000

/-- What a service throws. -/
inductive Failure
  | badRequest (message : String)
  | notFound (message : String)
  | internalServerError
  /-- `new Error(message)` -/
  | error (message : String)
  /-- A property of `null` or `undefined` was read. -/
  | typeError
  /-- A statement or a command failed. -/
  | database
  deriving DecidableEq, Repr

namespace HooksMessage

def missingWebhookEventId : String := "Thiếu mã sự kiện webhook"
def orderNotFound : String := "Không tìm thấy đơn hàng"
def webhookAlreadyProcessed : String := "Webhook đã được xử lý"
def webhookMissingTransferContent : String :=
  "Webhook không có nội dung chuyển khoản"
def paymentIntentAlreadySuccess : String :=
  "Webhook already processed for successful payment intent"
def paymentIntentExpired : String := "Qr thanh toán đã hết hạn"
def paymentIntentNotFound : String := "Không tìm thấy payment intent"

end HooksMessage

namespace AdminOrderMessage

def orderNotFound : String := "Không tìm thấy đơn hàng"
def orderStatusUpdateOnlyPendingPayment : String :=
  "Chỉ có thể cập nhật trạng thái đơn hàng khi đơn đang ở trạng thái PENDING_PAYMENT"
def orderStatusUpdatedSuccessfully : String :=
  "Cập nhật trạng thái đơn hàng thành công"

end AdminOrderMessage

structure CheckoutItemDto where
  bookVariantId : Nat
  quantity : Int
  deriving DecidableEq

structure GuestAddressDto where
  name : String
  addressLine : String
  city : String
  ward : Option String
  district : Option String
  phoneNumber : String
  note : Option String
  deriving DecidableEq

structure CreateCheckOutDTO where
  isGuest : Bool
  guestEmail : Option String
  guestAddress : Option GuestAddressDto
  addressId : Option Nat
  paymentGateway : PaymentGateway
  items : List CheckoutItemDto
  deriving DecidableEq

/-- The columns of a variant that travel with a checkout job. -/
structure OrderVariant where
  id : Nat
  format : BookFormat
  isbn : String
  price : Option ℚ
  stock : Int
  isActive : Bool
  edition : Nat
  deriving DecidableEq

structure CheckoutJobPayload where
  orderId : Nat
  isGuest : Bool
  orderCode : String
  totalAmount : ℚ
  subtotal : ℚ
  variants : List OrderVariant
  mapVariantIds : List (Nat × Int)
  guestEmail : Option String
  guestSessionId : Option String
  guestAddress : Option GuestAddressDto
  addressId : Option Nat
  userId : Option Nat
  email : Option String
  isError : Bool
  payment : PaymentGateway
  deriving DecidableEq

/-- `@IsIn(ADMIN_ORDER_STATUS_VALUES)` -/
structure AdminOrderStatusDto where
  status : OrderStatus
  note : Option String
  status_isIn : status = .confirmed ∨ status = .cancelled
  deriving DecidableEq

structure CreateAdminStockImportItemRequestDto where
  purchaseOrderItemId : String
  realQuantity : Nat
  deriving DecidableEq

structure CreateAdminStockImportRequestDto where
  purchaseOrderId : String
  note : Option String
  items : List CreateAdminStockImportItemRequestDto
  deriving DecidableEq

/-- What a service returns. -/
inductive Answer
  | checkout
      (isTransfer : Bool) (orderCode : String) (totalAmount : ℚ)
      (orderVariants : List OrderVariant) (shipFee : ℚ)
      (tokenUrl : Option String) (paymentUrl : Option QrUrl)
      (content : Option String)
  | jobDone
  /-- The inbox row was already `DONE`. -/
  | webhookAlreadyProcessed (idempotencyKey : Int) (webhookInboxId : Nat)
  /-- No transfer content. -/
  | webhookIgnored (webhookInboxId : Nat)
  | paymentIntentNotFound (content : String) (webhookInboxId : Nat)
  | paymentIntentExpired
      (content : String) (webhookInboxId : Nat) (orderCode : String)
  | paymentIntentAlreadySuccess
      (idempotencyKey : Int) (content : String) (webhookInboxId : Nat)
  | paymentMismatch
      (idempotencyKey : Int) (content : String) (webhookInboxId orderId : Nat)
      (orderCode : String) (paymentStatus : PaymentStatus)
  | paymentAccepted
      (idempotencyKey : Int) (content : String) (webhookInboxId orderId : Nat)
      (orderCode : String) (orderStatus : OrderStatus)
      (paymentStatus : PaymentStatus)
  | paymentStatus (status : Option PaymentStatus)
  /-- `{ cleanedCount: 0 }` -/
  | nothingToClean
  | cleaned
  | orderStatusUpdated (message : String)
  | stockImported (stockImport : StockImport)
  /-- A statement that was abandoned by its sender. -/
  | none
  deriving DecidableEq

namespace Answer

/-- The `message` of an answer, where it has one. -/
def message : Answer → Option String
  | webhookAlreadyProcessed _ _ => some HooksMessage.webhookAlreadyProcessed
  | webhookIgnored _ => some HooksMessage.webhookMissingTransferContent
  | paymentIntentNotFound _ _ => some HooksMessage.paymentIntentNotFound
  | paymentIntentExpired _ _ _ => some HooksMessage.paymentIntentExpired
  | paymentIntentAlreadySuccess _ _ _ =>
      some HooksMessage.paymentIntentAlreadySuccess
  | orderStatusUpdated message => some message
  | _ => Option.none

end Answer

end BookStore
