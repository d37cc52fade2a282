import BookStore.Async.Program
import BookStore.Statements

/-!
# Checkout, its job and the cleanup of unpaid orders

`OrderService.createCheckout`, `CheckoutProcessor.processCheckout` and
`OrderService.cleanOrder` with the helpers that they share with the webhook.
-/

namespace BookStore

open Async Program

/-- A handler of the server. -/
abbrev Service := Program Stmt Response Failure

/-- Await a statement of the repositories. -/
abbrev query (s : Stmt) : Service (Response s) :=
  await s

variable (dep : Deployment)

/-! ### `createCheckout` -/

/-- The checks on who is buying; the answer is the email of a user. -/
def checkShopper
    (body : CreateCheckOutDTO)
    (guestSessionId : Option String)
    (userId : Option Nat) : Service (Option String) :=
  if body.isGuest then
    if guestSessionId.getD "" = "" then
      raise (.badRequest "Bạn không phải là khách vãn lai")
    else if body.guestAddress = none then
      raise (.badRequest "Address required")
    else
      ret none
  else if body.addressId.getD 0 = 0 then
    raise (.badRequest "Bạn cần phải tạo địa chỉ")
  else do
    let address : Option UserAddress ←
      query (.findByAddressIdAndUserId (body.addressId.getD 0) userId)
    match address with
    | none => raise (.badRequest "Bạn cần phải tạo địa chỉ")
    | some address => ret (some address.userEmail)

/-- The pipeline of `SET … NX`; it does not throw the error of a command. -/
def seedAvailable (variants : List BookVariant) : Service Unit :=
  forEach variants fun v =>
    (query (.setAvailable v.id (v.stock - v.reserved))).tryCatch fun _ => ret ()

/-- Give back the first item found short and throw. -/
def checkRemaining : List CheckoutItemDto → List Int → Service Unit
  | i :: items, remaining :: result =>
      if remaining < 0 then do
        query (.incrbyAvailable i.bookVariantId i.quantity)
        raise (.badRequest "Hết hàng")
      else
        checkRemaining items result
  | _, _ => ret ()

/-- The `try` block: the Redis path. -/
def reserveInRedis
    (items : List CheckoutItemDto)
    (variants : List BookVariant) : Service Unit := do
  seedAvailable variants
  let result : List Int ← query (.decrbyAvailable items)
  checkRemaining items result

/-- The `catch` block: the database path. -/
def reserveInDatabase
    (items : List CheckoutItemDto)
    (variants : List BookVariant) : Service Unit :=
  if variants.any (fun v => decide (v.stock - v.reserved ≤ 0)) then
    raise (.badRequest "Hết hàng")
  else
    query (.updateReservedByIds items .checkout)

/-- Reserve the items; the answer is `isError`. -/
def reserveItems
    (items : List CheckoutItemDto)
    (variants : List BookVariant) : Service Bool :=
  (do reserveInRedis items variants
      ret false).tryCatch
    fun _ => do
      reserveInDatabase items variants
      ret true

/-- `mapVariantIds[id] = quantity` for each item. -/
def mapVariantIds (items : List CheckoutItemDto) : List (Nat × Int) :=
  mapOf (items.map fun i => (i.bookVariantId, i.quantity))

/-- `CreateUrlPaymentResponseDTO` -/
structure CreateUrlPayment where
  tokenUrl : String
  paymentUrl : QrUrl
  content : String
  deriving DecidableEq

/--
`amount` is exact here; the code prints the double that it has computed, the same number where
the prices are whole (`totalInDoubles_eq`).
-/
def generateQrUrl (amount : ℚ) (orderCode : String) : CreateUrlPayment where
  tokenUrl := dep.tokens orderCode
  paymentUrl :=
    { bank := dep.bank
      acc := dep.acc
      template := dep.template
      amount := amount
      des := orderCode }
  content := orderCode

def subtotalOf (variants : List BookVariant) (quantities : List (Nat × Int)) : ℚ :=
  (variants.map fun v => v.price.getD 0 * (((mapGet quantities v.id).getD 0 : Int) : ℚ)).sum

/-- The variants and quantities that an order stands for. -/
def requestedLines
    (variants : List BookVariant)
    (quantities : List (Nat × Int)) : List (Nat × Int) :=
  variants.map fun v => (v.id, (mapGet quantities v.id).getD 0)

def orderVariantOf (v : BookVariant) : OrderVariant where
  id := v.id
  format := v.format
  isbn := v.isbn
  price := v.price
  stock := v.stock
  isActive := v.isActive
  edition := v.edition

/-- The order row of a guest or of a user. -/
def orderCreateInput
    (body : CreateCheckOutDTO)
    (guestSessionId : Option String)
    (userId : Option Nat)
    (variants : List BookVariant) : OrderCreateInput :=
  let subtotal := subtotalOf variants (mapVariantIds body.items)
  { userId := if body.isGuest then none else userId
    guestSessionId := if body.isGuest then guestSessionId else none
    addressId := if body.isGuest then none else body.addressId
    subtotal := subtotal
    totalAmount := subtotal + shippingFee
    requested := requestedLines variants (mapVariantIds body.items) }

/-- The payment intent of an order that is not paid on delivery. -/
def createPaymentIntent
    (gateway : PaymentGateway)
    (totalAmount : ℚ)
    (orderCode : String) : Service (Option CreateUrlPayment) :=
  if gateway = .cod then
    ret none
  else do
    let result := generateQrUrl dep totalAmount orderCode
    query (.createPaymentIntent orderCode result.content result.tokenUrl
      result.paymentUrl)
    ret (some result)

def checkoutJobPayload
    (body : CreateCheckOutDTO)
    (guestSessionId : Option String)
    (userId : Option Nat)
    (email : Option String)
    (variants : List BookVariant)
    (isError : Bool)
    (order : Order) : CheckoutJobPayload :=
  let subtotal := subtotalOf variants (mapVariantIds body.items)
  { orderId := order.id
    isGuest := body.isGuest
    orderCode := order.orderCode
    totalAmount := subtotal + shippingFee
    subtotal := subtotal
    variants := variants.map orderVariantOf
    mapVariantIds := mapVariantIds body.items
    guestEmail := body.guestEmail
    guestSessionId := if body.isGuest then guestSessionId else none
    guestAddress := if body.isGuest then body.guestAddress else none
    addressId := if body.isGuest then none else body.addressId
    userId := if body.isGuest then none else userId
    email := email
    isError := isError
    payment := body.paymentGateway }

/-- The order, its intent and its job, once the items are reserved. -/
def placeOrder
    (body : CreateCheckOutDTO)
    (guestSessionId : Option String)
    (userId : Option Nat)
    (email : Option String)
    (variants : List BookVariant)
    (isError : Bool) : Service Answer := do
  -- `generateOrderCode` draws the code; here the order row brings it along
  let order : Order ←
    query (.createOrder (orderCreateInput body guestSessionId userId variants))
  let totalAmount := subtotalOf variants (mapVariantIds body.items) + shippingFee
  let result ←
    createPaymentIntent dep body.paymentGateway totalAmount order.orderCode
  query (.enqueueCheckout
    (checkoutJobPayload body guestSessionId userId email variants isError order))
  ret (.checkout (decide (body.paymentGateway ≠ .cod)) order.orderCode totalAmount
    (variants.map orderVariantOf) shippingFee (result.map (·.tokenUrl))
    (result.map (·.paymentUrl)) (result.map (·.content)))

def createCheckout
    (body : CreateCheckOutDTO)
    (guestSessionId : Option String)
    (userId : Option Nat) : Service Answer := do
  let email ← checkShopper body guestSessionId userId
  let variants : List BookVariant ←
    query (.findByIds (body.items.map (·.bookVariantId)))
  if variants.length ≠ body.items.length then
    raise (.badRequest "Có sản phẩm đã bị xoá")
  else do
    let isError ← reserveItems body.items variants
    placeOrder dep body guestSessionId userId email variants isError

/-! ### `processCheckout` -/

def generateContentHash (variant : OrderVariant) : ContentHash where
  isbn := variant.isbn
  id := variant.id
  format := variant.format
  price := variant.price.getD 0

def snapshotOf (variant : OrderVariant) : SnapshotInput where
  contentHash := generateContentHash variant
  bookVariantId := variant.id
  priceSnapshot := variant.price.getD 0
  formatSnapshot := variant.format

/-- `snapshotIdMap.get(contentHash)` -/
def snapshotIdOf (found : List BookVariantSnapshot) (h : ContentHash) : Option Nat :=
  (found.reverse.find? fun s => decide (s.contentHash = some h)).map
    BookVariantSnapshot.id

/-- `snapshotItems` -/
def snapshotItems
    (payload : CheckoutJobPayload)
    (found : List BookVariantSnapshot) : List OrderItemInput :=
  (payload.variants.map snapshotOf).map fun s =>
    { bookVariantSnapshotId := snapshotIdOf found s.contentHash
      quantity := mapGet payload.mapVariantIds s.bookVariantId
      unitPrice := s.priceSnapshot }

/-- `reservedVariant`; with an `undefined` quantity the items are rejected first. -/
def reservedVariant (payload : CheckoutJobPayload) : List CheckoutItemDto :=
  payload.variants.map fun v => ⟨v.id, (mapGet payload.mapVariantIds v.id).getD 0⟩

/-- The `try` block of a guest order. -/
def writeGuestOrder
    (payload : CheckoutJobPayload)
    (items : List OrderItemInput) : Service Unit := do
  query (.createItems payload.orderId items)
  match payload.guestAddress with
  | none => raise .typeError
  | some guestAddress => do
      query (.createAddress payload.orderId guestAddress)
      if payload.isError = false ∧ payload.payment = .cod then
        query (.updateReservedByIds (reservedVariant payload) .job)
      else
        ret ()

/-- The `try` block of a user order. -/
def writeUserOrder
    (payload : CheckoutJobPayload)
    (items : List OrderItemInput) : Service Unit := do
  query (.createItems payload.orderId items)
  if payload.isError = false then
    query (.updateReservedByIds (reservedVariant payload) .job)
  else
    ret ()

/-- The `catch` block: the order is deleted and the error thrown again. -/
def deleteAndThrow (orderId : Nat) (err : Failure) : Service Unit := do
  query (.deleteOrder orderId)
  raise err

def processCheckout (payload : CheckoutJobPayload) : Service Answer := do
  let upsertSnapshots := payload.variants.map snapshotOf
  query (.createSnapshots upsertSnapshots)
  let found : List BookVariantSnapshot ←
    query (.findAllByContentHashes (upsertSnapshots.map (·.contentHash)))
  (if payload.isGuest then writeGuestOrder payload (snapshotItems payload found)
    else writeUserOrder payload (snapshotItems payload found)).tryCatch
    (deleteAndThrow payload.orderId)
  ret .jobDone

/-! ### Stock of an order -/

/-- `` `Missing quantity for variant id ${v}` `` is thrown before any statement. -/
def missingQuantity (variantMap : List (Nat × Int)) : Option Failure :=
  (variantMap.find? fun e => decide (e.2 = 0)).map fun e =>
    .error ("Missing quantity for variant id " ++ toString e.1)

def updateOrderDone
    (variantMap : List (Nat × Int))
    (orderId : Nat)
    (delivery : Int) : Service Unit :=
  match missingQuantity variantMap with
  | some err => raise err
  | none =>
      promiseAll
        ((if variantMap = [] then []
          else [.decrementVariantsStock variantMap delivery orderId]) ++
          [.updateOrderStatusById orderId .paid])

def updateOrderNotDone
    (variantMap : List (Nat × Int))
    (orderId : Nat) : Service Unit :=
  match missingQuantity variantMap with
  | some err => raise err
  | none =>
      promiseAll
        ((if variantMap = [] then []
          else [.incrementVariantsStock variantMap]) ++
          [.updateOrderStatusById orderId .pendingPayment])

/-! ### `cleanOrder` -/

def cleanOrder : Service Answer := do
  let expiredOrders : List (List (Nat × Int)) ← query .findOrderIsExpire
  if expiredOrders.length = 0 then
    ret .nothingToClean
  else do
    query (.clearOrder (mapAdd expiredOrders.flatten))
    ret .cleaned

end BookStore
