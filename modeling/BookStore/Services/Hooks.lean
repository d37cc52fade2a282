import BookStore.Services.Checkout

/-!
# The payment webhook and the status poll

`HooksService.handleSepayWebhook` with its exits (no content, no intent, no
order, window passed, already paid, amount mismatch, exact amount) and
`HooksService.getPaymentStatus`.
-/

namespace BookStore

open Async Program

/-- The white space that `String.prototype.trim` removes. -/
def isJsSpace (c : Char) : Bool :=
  decide (c.toNat ∈
    [9, 10, 11, 12, 13, 32, 160, 5760, 8192, 8193, 8194, 8195, 8196, 8197, 8198,
      8199, 8200, 8201, 8202, 8232, 8233, 8239, 8287, 12288, 65279])

/-- `s.trim()` -/
def jsTrim (s : String) : String :=
  String.ofList
    (((s.toList.dropWhile isJsSpace).reverse.dropWhile isJsSpace).reverse)

/-- `body.content?.trim()`, with `''` for `undefined`: both are falsy. -/
def orderCodeContent (body : SePayHooksDto) : String :=
  (body.content.map jsTrim).getD ""

def savePaymentTransaction
    (body : SePayHooksDto)
    (status : PaymentStatus)
    (order : Option Order) : Service PaymentTransaction :=
  query (.createWebhookSepayTransaction body.transferAmount
    (order.map fun o => (o.id, o.userId)) status body.id)

def handlePaymentIntentExpired
    (content : String) (webHookId attempts : Nat) (orderCode : String) :
    Service Answer := do
  promiseAll
    [.markPaymentIntent orderCode .expired,
      .updateWebhookStatus webHookId .failed attempts]
  ret (.paymentIntentExpired content webHookId orderCode)

def handlePaymentIntentNotFoundByContent
    (content : String) (webHookId attempts : Nat) : Service Answer := do
  query (.updateWebhookStatus webHookId .failed attempts)
  ret (.paymentIntentNotFound content webHookId)

def handleAlreadyProcessedPaymentIntent
    (content orderCode : String) (webHookId attempts : Nat)
    (idempotencyKey : Int) : Service Answer := do
  promiseAll
    [.markPaymentIntent orderCode .success,
      .updateWebhookStatus webHookId .done attempts]
  ret (.paymentIntentAlreadySuccess idempotencyKey content webHookId)

def handleSepayWebhookWithoutContent
    (body : SePayHooksDto) (webHookId attempts : Nat) : Service Answer := do
  let _ ← savePaymentTransaction body .notFoundOrderCode none
  query (.updateWebhookStatus webHookId .done attempts)
  ret (.webhookIgnored webHookId)

/-- `updateOrderDone` with its compensation `updateOrderNotDone`. -/
def deductStock
    (variantMap : List (Nat × Int)) (orderId : Nat) (delivery : Int) :
    Service Unit :=
  (updateOrderDone variantMap orderId delivery).tryCatch fun _ => do
    updateOrderNotDone variantMap orderId
    raise .internalServerError

def handleSepayWebhookMarkDone
    (orderId webHookId attempts : Nat) (orderCode : String) (delivery : Int) :
    Service Unit := do
  promiseAll
    [.markOrderAndPaymentSuccess orderId,
      .updateWebhookStatus webHookId .done attempts,
      .markPaymentIntent orderCode .success]
  let items : Option (List (Nat × Int)) ← query (.findOrderItems orderId)
  deductStock (mapOf (items.getD [])) orderId delivery

/-- The amount differs from the order's. -/
def handleMismatch
    (body : SePayHooksDto) (webHookId attempts : Nat) (content : String)
    (paymentIntent : PaymentIntent) (order : Order) : Service Answer := do
  let mismatchStatus : PaymentStatus :=
    if body.transferAmount < order.totalAmount.getD 0 then .paymentShortfall
    else .paymentOverage
  let result ← savePaymentTransaction body mismatchStatus (some order)
  query (.markPaymentNotSuccess result.id mismatchStatus)
  query (.updateWebhookStatus webHookId .failed attempts)
  if mismatchStatus = .paymentOverage then
    handleAlreadyProcessedPaymentIntent content paymentIntent.orderCode webHookId
      attempts body.id
  else
    ret (.paymentMismatch body.id content webHookId order.id order.orderCode
      mismatchStatus)

/-- The amount is the order's. -/
def handleExact
    (body : SePayHooksDto) (webHookId attempts : Nat) (content : String)
    (paymentIntent : PaymentIntent) (order : Order) : Service Answer := do
  let _ ← savePaymentTransaction body .success (some order)
  handleSepayWebhookMarkDone order.id webHookId attempts paymentIntent.orderCode
    body.id
  -- the columns that `markOrderAndPaymentSuccess` has selected after its update
  ret (.paymentAccepted body.id content webHookId order.id order.orderCode .paid
    .success)

/-- The transfer names an intent whose order exists. -/
def handlePayment
    (body : SePayHooksDto) (webHookId attempts : Nat) (content : String)
    (paymentIntent : PaymentIntent) (order : Order) : Service Answer := do
  let now : Nat ← query (.newDate body)
  if paymentIntent.expiredAt < now then do
    let _ ← savePaymentTransaction body .expired (some order)
    handlePaymentIntentExpired content webHookId attempts paymentIntent.orderCode
  else if paymentIntent.status = some .success then do
    let _ ← savePaymentTransaction body .success (some order)
    handleAlreadyProcessedPaymentIntent content paymentIntent.orderCode webHookId
      attempts body.id
  else if body.transferAmount ≠ order.totalAmount.getD 0 then
    handleMismatch body webHookId attempts content paymentIntent order
  else
    handleExact body webHookId attempts content paymentIntent order

/-- The transfer has a content. -/
def handleContent
    (body : SePayHooksDto) (webHookId attempts : Nat) (content : String) :
    Service Answer := do
  let found : Option (PaymentIntent × Option Order) ←
    query (.findByContent content)
  match found with
  | none => do
      let _ ← savePaymentTransaction body .notFoundOrderCode none
      handlePaymentIntentNotFoundByContent content webHookId attempts
  | some (_, none) => do
      let _ ← savePaymentTransaction body .notFoundOrderCode none
      query (.updateWebhookStatus webHookId .failed attempts)
      raise (.badRequest HooksMessage.orderNotFound)
  | some (paymentIntent, some order) =>
      handlePayment body webHookId attempts content paymentIntent order

def handleSepayWebhook (body : SePayHooksDto) : Service Answer :=
  if body.id = 0 then
    raise (.badRequest HooksMessage.missingWebhookEventId)
  else do
    let webhookInbox : WebhookInbox ← query (.saveSepayWebhook body.id body)
    let attempts := webhookInbox.attempts.getD 0 + 1
    if webhookInbox.status = some .done then
      ret (.webhookAlreadyProcessed body.id webhookInbox.id)
    else if orderCodeContent body = "" then
      handleSepayWebhookWithoutContent body webhookInbox.id attempts
    else
      handleContent body webhookInbox.id attempts (orderCodeContent body)

def getPaymentStatus (orderCode : String) : Service Answer := do
  let payment : Option PaymentIntent ← query (.findPaymentByOrderCode orderCode)
  match payment with
  | none => raise (.notFound HooksMessage.orderNotFound)
  | some payment =>
      if payment.status = some .success then do
        let order : Option Order ← query (.findOrderStatusByOrderCode orderCode)
        match order with
        | none => raise (.notFound HooksMessage.orderNotFound)
        | some order =>
            if order.status ≠ some .paid ∨ order.paymentStatus ≠ some .success then do
              query (.markOrderAndPaymentSuccess order.id)
              ret (.paymentStatus payment.status)
            else
              ret (.paymentStatus payment.status)
      else
        ret (.paymentStatus payment.status)

end BookStore
