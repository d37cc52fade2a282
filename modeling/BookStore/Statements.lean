import BookStore.Requests

/-!
# The statements of the repositories

`World` is what the handlers share: the database, the Redis counters
`available:<variantId>`, the checkout queue and the clock.  `Stmt` has one
constructor for each repository function, Redis command or other atomic
operation that a modelled service awaits; `Response` is the type of its answer
and `exec` its effect.  A `$transaction` is one statement.

An `update` or `delete` of a row that does not exist, a second row under a
unique key and a foreign key without its row are errors, as Prisma reports them.

`History` is bookkeeping: it is written along with the statements and read by
none of them.
-/

namespace BookStore

/-- What the service is configured with or draws from a generator. -/
structure Deployment where
  bank : String
  acc : String
  template : String
  /-- The code generated for the order that gets a number. -/
  orderCodes : Nat → String
  /-- The token generated along with an order code. -/
  tokens : String → String
  /-- The cuids of the stock imports. -/
  cuids : Nat → String
  /-- Texts with the same image are equal to the database. -/
  collate : String → String
  /-- `orderCode` is unique. -/
  orderCodes_injective : Function.Injective (fun n => collate (orderCodes n))

/-- On whose behalf `updateReservedByIds` runs. -/
inductive Booking
  | checkout
  | job
  deriving DecidableEq, Repr

/-- Bookkeeping about the past. -/
structure History where
  /-- Units of a variant that were imported. -/
  imported : Nat → Int
  /-- Units taken from Redis by scripts that found all their items available. -/
  held : Nat → Int
  /-- Units that jobs added to `reserved`. -/
  bookedByJobs : Nat → Int
  /-- Units that checkouts added to `reserved`. -/
  bookedByCheckouts : Nat → Int
  /-- Units that a checkout found short and has not given back to Redis. -/
  givingBack : Nat → Int
  /-- Deliveries whose payment window was checked, and when. -/
  handled : List (SePayHooksDto × Nat)
  /-- Deliveries that deducted stock, and for which order. -/
  deductions : List (Int × Nat)

structure World where
  db : Database
  redis : Nat → Option Int
  queue : List CheckoutJobPayload
  now : Nat
  history : History

/-! ### JavaScript maps -/

/-- `map.set(key, value)` -/
def mapSet : List (Nat × Int) → Nat → Int → List (Nat × Int)
  | [], k, q => [(k, q)]
  | e :: m, k, q => if e.1 = k then (k, q) :: m else e :: mapSet m k q

/-- `map.get(key)` -/
def mapGet (m : List (Nat × Int)) (k : Nat) : Option Int :=
  (m.find? (fun e => decide (e.1 = k))).map Prod.snd

/-- `new Map(entries)` -/
def mapOf (entries : List (Nat × Int)) : List (Nat × Int) :=
  entries.foldl (fun m e => mapSet m e.1 e.2) []

/-- A map that adds up the quantities of each key. -/
def mapAdd (entries : List (Nat × Int)) : List (Nat × Int) :=
  entries.foldl (fun m e => mapSet m e.1 ((mapGet m e.1).getD 0 + e.2)) []

/-! ### Variants -/

/-- The `CASE` of `updateReservedByIds`: what it adds to `reserved`. -/
def granted (payload : List CheckoutItemDto) (row : BookVariant) : Int :=
  match payload.find? (fun p => decide (p.bookVariantId = row.id)) with
  | some p => if row.stock - row.reserved ≥ p.quantity then p.quantity else 0
  | none => 0

def updateReservedByIds
    (payload : List CheckoutItemDto)
    (variants : Table BookVariant) : Table BookVariant :=
  variants.updateWhere
    (fun r => payload.any (fun p => decide (p.bookVariantId = r.id)))
    (fun r => { r with reserved := r.reserved + granted payload r })

/-- Add `a` and `b` times the mapped quantity to `stock` and to `reserved`. -/
def shiftVariants
    (a b : Int)
    (variantMap : List (Nat × Int))
    (variants : Table BookVariant) : Table BookVariant :=
  variants.updateWhere
    (fun r => (mapGet variantMap r.id).isSome)
    (fun r =>
      { r with
        stock := r.stock + a * (mapGet variantMap r.id).getD 0
        reserved := r.reserved + b * (mapGet variantMap r.id).getD 0 })

def decrementVariantsStock :
    List (Nat × Int) → Table BookVariant → Table BookVariant :=
  shiftVariants (-1) (-1)

def incrementVariantsStock :
    List (Nat × Int) → Table BookVariant → Table BookVariant :=
  shiftVariants 1 1

/-- The variant part of the transaction of `clearOrder`. -/
def clearVariants :
    List (Nat × Int) → Table BookVariant → Table BookVariant :=
  shiftVariants 1 (-1)

/-- `incrementStockById`, one update for each item. -/
def incrementStockById
    (items : List (Nat × Nat))
    (variants : Table BookVariant) : Table BookVariant :=
  items.foldl
    (fun t i => t.update i.1 (fun r => { r with stock := r.stock + i.2 }))
    variants

/-! ### Redis -/

/-- `DECRBY` of each key in turn; an absent key counts as `0`. -/
def decrbyAll :
    List CheckoutItemDto → (Nat → Option Int) → (Nat → Option Int) × List Int
  | [], redis => (redis, [])
  | i :: items, redis =>
      let remaining := (redis i.bookVariantId).getD 0 - i.quantity
      let (redis', results) :=
        decrbyAll items (Function.update redis i.bookVariantId (some remaining))
      (redis', remaining :: results)

/-- The first item whose result is negative. -/
def firstShort : List CheckoutItemDto → List Int → Option CheckoutItemDto
  | i :: items, r :: results =>
      if r < 0 then some i else firstShort items results
  | _, _ => none

/-- Add `q v` for the items of `v`. -/
def addItems (items : List CheckoutItemDto) (f : Nat → Int) : Nat → Int :=
  fun v => f v + quantityOf v (items.map fun i => (i.bookVariantId, i.quantity))

/-! ### Inputs of the creating statements -/

structure OrderCreateInput where
  userId : Option Nat
  guestSessionId : Option String
  addressId : Option Nat
  subtotal : ℚ
  totalAmount : ℚ
  /-- History: the variants and quantities of the checkout. -/
  requested : List (Nat × Int)
  deriving DecidableEq

structure SnapshotInput where
  contentHash : ContentHash
  bookVariantId : Nat
  priceSnapshot : ℚ
  formatSnapshot : BookFormat
  deriving DecidableEq

/-- A row for `order_items`; JavaScript's `undefined` is `none`. -/
structure OrderItemInput where
  bookVariantSnapshotId : Option Nat
  quantity : Option Int
  unitPrice : ℚ
  deriving DecidableEq

structure StockImportLine where
  purchaseOrderItemId : String
  bookVariantId : Nat
  realQuantity : Nat
  lackQuantity : Int
  totalPrice : ℚ
  deriving DecidableEq

structure StockImportInput where
  purchaseOrderId : String
  createdBy : Nat
  note : Option String
  totalAmount : ℚ
  realPayPrice : ℚ
  lines : List StockImportLine
  deriving DecidableEq

/-- The statements. -/
inductive Stmt
  -- checkout
  | findByAddressIdAndUserId (addressId : Nat) (userId : Option Nat)
  | findByIds (variantIds : List Nat)
  | setAvailable (variantId : Nat) (value : Int)
  | decrbyAvailable (items : List CheckoutItemDto)
  | incrbyAvailable (variantId : Nat) (quantity : Int)
  | updateReservedByIds (payload : List CheckoutItemDto) (origin : Booking)
  | createOrder (data : OrderCreateInput)
  | createPaymentIntent
      (orderCode content tokenUrl : String) (paymentUrl : QrUrl)
  | enqueueCheckout (payload : CheckoutJobPayload)
  -- checkout job
  | createSnapshots (items : List SnapshotInput)
  | findAllByContentHashes (contentHashes : List ContentHash)
  | createItems (orderId : Nat) (items : List OrderItemInput)
  | createAddress (orderId : Nat) (address : GuestAddressDto)
  | deleteOrder (orderId : Nat)
  -- payment webhook
  | saveSepayWebhook (idempotencyKey : Int) (payload : SePayHooksDto)
  | updateWebhookStatus (webhookId : Nat) (status : JobStatus) (attempts : Nat)
  | findByContent (content : String)
  | newDate (body : SePayHooksDto)
  | createWebhookSepayTransaction
      (amount : ℚ) (order : Option (Nat × Option Nat)) (status : PaymentStatus)
      (delivery : Int)
  | markPaymentNotSuccess (paymentId : Nat) (status : PaymentStatus)
  | markPaymentIntent (orderCode : String) (status : PaymentStatus)
  | markOrderAndPaymentSuccess (orderId : Nat)
  | findOrderItems (orderId : Nat)
  | decrementVariantsStock
      (variantMap : List (Nat × Int)) (delivery : Int) (orderId : Nat)
  | incrementVariantsStock (variantMap : List (Nat × Int))
  | updateOrderStatusById (orderId : Nat) (status : OrderStatus)
  -- status poll
  | findPaymentByOrderCode (orderCode : String)
  | findOrderStatusByOrderCode (orderCode : String)
  -- cleanup
  | findOrderIsExpire
  | clearOrder (variantMap : List (Nat × Int))
  -- administration
  | findOrderStatusById (orderId : Nat)
  | updateOrderStatus
      (orderId : Nat) (status : OrderStatus) (note : Option String)
  | findPurchaseOrderItemsByIds (ids : List String)
  | importStock (data : StockImportInput)
  deriving DecidableEq

/-- The answer of a statement. -/
@[reducible]
def Response : Stmt → Type
  | .findByAddressIdAndUserId _ _ => Option UserAddress
  | .findByIds _ => List BookVariant
  | .decrbyAvailable _ => List Int
  | .createOrder _ => Order
  | .findAllByContentHashes _ => List BookVariantSnapshot
  | .saveSepayWebhook _ _ => WebhookInbox
  | .findByContent _ => Option (PaymentIntent × Option Order)
  | .newDate _ => Nat
  | .createWebhookSepayTransaction _ _ _ _ => PaymentTransaction
  | .findOrderItems _ => Option (List (Nat × Int))
  | .findPaymentByOrderCode _ => Option PaymentIntent
  | .findOrderStatusByOrderCode _ => Option Order
  | .findOrderIsExpire => List (List (Nat × Int))
  | .findOrderStatusById _ => Option Order
  | .findPurchaseOrderItemsByIds _ => List PurchaseOrderItem
  | .importStock _ => Option StockImport
  | _ => Unit

section Exec

variable (dep : Deployment)

/-- The database takes two texts for equal. -/
def Deployment.sameText (s t : String) : Bool :=
  decide (dep.collate s = dep.collate t)

/-- `order.expiredAt < now + PAYMENT_INTENT_EXPIRES_IN_MS` and unpaid -/
def isExpired (now : Nat) (o : Order) : Bool :=
  decide (o.expiredAt < now + paymentIntentExpiresInMs) &&
    decide (o.status = some .pendingPayment)

/-- The row that `createGuestOrder` and `createUserOrder` insert. -/
def newOrder (data : OrderCreateInput) (now : Nat) (n : Nat) : Order where
  id := n
  orderCode := dep.orderCodes n
  userId := data.userId
  guestSessionId := data.guestSessionId
  addressId := data.addressId
  status := some .pendingPayment
  paymentStatus := some .pending
  subtotal := some data.subtotal
  shippingFee := some shippingFee
  totalAmount := some data.totalAmount
  note := none
  expiredAt := now + orderExpiredSeconds * 1000
  requested := data.requested

theorem key_newOrder (data : OrderCreateInput) (now n : Nat) :
    key (newOrder dep data now n) = n := rfl

/-- `skipDuplicates`: a row whose content hash is known is not inserted. -/
def insertSnapshot
    (t : Table BookVariantSnapshot) (i : SnapshotInput) :
    Table BookVariantSnapshot :=
  if t.rows.any (fun s => decide (s.contentHash = some i.contentHash)) then t
  else
    t.insert fun n =>
      { id := n
        bookVariantId := i.bookVariantId
        contentHash := some i.contentHash
        priceSnapshot := i.priceSnapshot
        formatSnapshot := i.formatSnapshot }

/-- The rows of `createMany`; an `undefined` column is rejected. -/
def insertItems (orderId : Nat) :
    List OrderItemInput → Table OrderItem → Option (Table OrderItem)
  | [], t => some t
  | i :: items, t =>
      match i.bookVariantSnapshotId, i.quantity with
      | some snapshotId, some quantity =>
          insertItems orderId items
            (t.insert fun n =>
              { id := n
                orderId := orderId
                bookVariantSnapshotId := snapshotId
                quantity := quantity
                unitPrice := i.unitPrice
                lineTotal := i.unitPrice * quantity })
      | _, _ => none

/-- Deleting an order deletes what refers to it. -/
def removeOrder (o : Order) (db : Database) : Database :=
  { db with
    orders := db.orders.deleteWhere (fun r => decide (key r = o.id))
    orderItems := db.orderItems.deleteWhere (fun i => decide (i.orderId = o.id))
    orderAddresses :=
      db.orderAddresses.deleteWhere (fun a => decide (a.orderId = o.id))
    paymentIntents :=
      db.paymentIntents.deleteWhere (fun i => dep.sameText i.orderCode o.orderCode)
    paymentTransactions :=
      db.paymentTransactions.deleteWhere (fun t => decide (t.orderId = some o.id)) }

/-- The database after the transaction of `createStockImport`. -/
def importStock (id : String) (data : StockImportInput) (db : Database) :
    Database :=
  { db with
    stockImports := db.stockImports ++
      [{ id := id
         purchaseOrderId := data.purchaseOrderId
         createdBy := data.createdBy
         note := data.note
         totalAmount := data.totalAmount
         items := data.lines.map fun l =>
           ⟨l.purchaseOrderItemId, l.realQuantity, l.lackQuantity, l.totalPrice⟩ }]
    variants := incrementStockById
      (data.lines.map fun l => (l.bookVariantId, l.realQuantity)) db.variants
    purchaseOrders := db.purchaseOrders.map fun p =>
      if p.id = data.purchaseOrderId then
        { p with
          statusTransfer := .purchase
          approvedById := some data.createdBy
          realPayPrice := some data.realPayPrice }
      else p }

/-- The effect and the answer of a statement. -/
def exec : (s : Stmt) → World → Except Failure (World × Response s)
  | .findByAddressIdAndUserId addressId userId, w =>
      match userId with
      | none => .error .database
      | some userId =>
          .ok (w, w.db.userAddresses.findFirst fun a =>
            decide (a.id = addressId) && decide (a.userId = userId) &&
              a.deletedAt.isNone)
  | .findByIds variantIds, w =>
      .ok (w, w.db.variants.filter fun r => variantIds.contains r.id)
  | .setAvailable v x, w =>
      match w.redis v with
      | some _ => .ok (w, ())
      | none => .ok ({ w with redis := Function.update w.redis v (some x) }, ())
  | .decrbyAvailable items, w =>
      let (redis, results) := decrbyAll items w.redis
      let w := { w with redis := redis }
      match firstShort items results with
      | none =>
          .ok ({ w with history.held := addItems items w.history.held }, results)
      | some i =>
          .ok ({ w with
            history.givingBack := addItems [i] w.history.givingBack }, results)
  | .incrbyAvailable v q, w =>
      .ok ({ w with
        redis := Function.update w.redis v (some ((w.redis v).getD 0 + q))
        history.givingBack := addItems [⟨v, -q⟩] w.history.givingBack }, ())
  | .updateReservedByIds payload origin, w =>
      -- `Prisma.join` of an empty list throws
      if payload = [] then .error (.error "Expected `join([])` to be called with an array of multiple elements, but got an empty array")
      else
        let booked (f : Nat → Int) (v : Nat) : Int :=
          f v + ((w.db.variants.find v).map (granted payload)).getD 0
        let w' := { w with
          db.variants := BookStore.updateReservedByIds payload w.db.variants }
        match origin with
        | .checkout =>
            .ok ({ w' with
              history.bookedByCheckouts := booked w.history.bookedByCheckouts }, ())
        | .job =>
            .ok ({ w' with
              history.bookedByJobs := booked w.history.bookedByJobs }, ())
  | .createOrder data, w =>
      let row := newOrder dep data w.now
      .ok ({ w with
        db.orders := w.db.orders.insert row (key_newOrder dep data w.now) },
        row w.db.orders.next)
  | .createPaymentIntent orderCode content tokenUrl paymentUrl, w =>
      if w.db.orders.rows.any (fun o => dep.sameText o.orderCode orderCode) ∧
          w.db.paymentIntents.rows.all (fun i =>
            !dep.sameText i.orderCode orderCode &&
              !i.content.any (fun c => dep.sameText c content)) then
        .ok ({ w with
          db.paymentIntents := w.db.paymentIntents.insert fun n =>
            { id := n
              orderCode := orderCode
              content := some content
              gateway := .sepay
              status := some .pending
              tokenUrl := tokenUrl
              paymentUrl := some paymentUrl
              expiredAt := w.now + paymentIntentExpiresInMs } }, ())
      else .error .database
  | .enqueueCheckout payload, w =>
      .ok ({ w with queue := w.queue ++ [payload] }, ())
  | .createSnapshots items, w =>
      .ok ({ w with db.snapshots := items.foldl insertSnapshot w.db.snapshots }, ())
  | .findAllByContentHashes hashes, w =>
      .ok (w, w.db.snapshots.filter fun s =>
        s.contentHash.any (fun h => hashes.contains h))
  | .createItems orderId items, w =>
      if items ≠ [] ∧ w.db.orders.find orderId = none then .error .database
      else
        match insertItems orderId items w.db.orderItems with
        | none => .error .database
        | some t => .ok ({ w with db.orderItems := t }, ())
  | .createAddress orderId a, w =>
      if w.db.orders.find orderId = none ∨
          w.db.orderAddresses.rows.any (fun r => decide (r.orderId = orderId)) then
        .error .database
      else
        .ok ({ w with
          db.orderAddresses := w.db.orderAddresses.insert fun n =>
            { id := n
              orderId := orderId
              recipientName := a.name
              phoneNumber := a.phoneNumber
              addressLine := a.addressLine
              ward := a.ward
              district := a.district
              city := a.city
              countryCode := some "VN"
              note := a.note } }, ())
  | .deleteOrder orderId, w =>
      match w.db.orders.find orderId with
      | none => .error .database
      | some o => .ok ({ w with db := removeOrder dep o w.db }, ())
  | .saveSepayWebhook idempotencyKey payload, w =>
      match w.db.webhookInbox.findFirst fun r =>
          decide (r.gateway = .sepay) && decide (r.idempotencyKey = idempotencyKey) with
      | some r =>
          let row := { r with
            receivedAt := w.now, payload := payload, status := some .pending }
          .ok ({ w with
            db.webhookInbox := w.db.webhookInbox.update r.id fun r =>
              { r with
                receivedAt := w.now
                payload := payload
                status := some .pending } }, row)
      | none =>
          let row (n : Nat) : WebhookInbox :=
            { id := n
              gateway := .sepay
              idempotencyKey := idempotencyKey
              receivedAt := w.now
              payload := payload
              processedAt := none
              status := some .pending
              attempts := some 0 }
          .ok ({ w with db.webhookInbox := w.db.webhookInbox.insert row },
            row w.db.webhookInbox.next)
  | .updateWebhookStatus webhookId status attempts, w =>
      match w.db.webhookInbox.find webhookId with
      | none => .error .database
      | some _ =>
          .ok ({ w with
            db.webhookInbox := w.db.webhookInbox.update webhookId fun r =>
              { r with
                status := some status
                attempts := some attempts
                processedAt := some w.now } }, ())
  | .findByContent content, w =>
      .ok (w, (w.db.paymentIntents.findFirst fun i =>
        i.content.any (fun c => dep.sameText c content)).map fun i =>
          (i, w.db.orders.findFirst fun o => dep.sameText o.orderCode i.orderCode))
  | .newDate body, w =>
      .ok ({ w with
        history.handled := w.history.handled ++ [(body, w.now)] }, w.now)
  | .createWebhookSepayTransaction amount order status delivery, w =>
      let row (n : Nat) : PaymentTransaction :=
        { id := n
          orderId := order.map Prod.fst
          userId := order.bind Prod.snd
          gateway := .sepay
          status := some status
          amount := amount
          delivery := delivery }
      if order.all (fun o => (w.db.orders.find o.1).isSome) then
        .ok ({ w with
          db.paymentTransactions := w.db.paymentTransactions.insert row },
          row w.db.paymentTransactions.next)
      else .error .database
  | .markPaymentNotSuccess paymentId status, w =>
      match w.db.paymentTransactions.find paymentId with
      | none => .error .database
      | some _ =>
          .ok ({ w with
            db.paymentTransactions := w.db.paymentTransactions.update paymentId
              fun r => { r with status := some status } }, ())
  | .markPaymentIntent orderCode status, w =>
      .ok ({ w with
        db.paymentIntents := w.db.paymentIntents.updateWhere
          (fun i => dep.sameText i.orderCode orderCode)
          (fun i => { i with status := some status }) }, ())
  | .markOrderAndPaymentSuccess orderId, w =>
      match w.db.orders.find orderId with
      | none => .error .database
      | some _ =>
          .ok ({ w with
            db.orders := w.db.orders.update orderId fun o =>
              { o with status := some .paid, paymentStatus := some .success }
            db.paymentTransactions := w.db.paymentTransactions.updateWhere
              (fun t => decide (t.orderId = some orderId))
              (fun t => { t with status := some .success }) }, ())
  | .findOrderItems orderId, w =>
      .ok (w, (w.db.orders.find orderId).map fun _ => w.db.itemQuantities orderId)
  | .decrementVariantsStock variantMap delivery orderId, w =>
      .ok ({ w with
        db.variants := BookStore.decrementVariantsStock variantMap w.db.variants
        history.deductions := w.history.deductions ++ [(delivery, orderId)] }, ())
  | .incrementVariantsStock variantMap, w =>
      .ok ({ w with
        db.variants := BookStore.incrementVariantsStock variantMap w.db.variants }, ())
  | .updateOrderStatusById orderId status, w =>
      match w.db.orders.find orderId with
      | none => .error .database
      | some _ =>
          .ok ({ w with
            db.orders := w.db.orders.update orderId fun o =>
              { o with status := some status } }, ())
  | .findPaymentByOrderCode orderCode, w =>
      .ok (w, w.db.paymentIntents.findFirst fun i =>
        dep.sameText i.orderCode orderCode)
  | .findOrderStatusByOrderCode orderCode, w =>
      .ok (w, w.db.orders.findFirst fun o => dep.sameText o.orderCode orderCode)
  | .findOrderIsExpire, w =>
      .ok (w, (w.db.orders.filter fun o =>
        isExpired w.now o && decide (o.paymentStatus = some .pending)).map fun o =>
          w.db.itemQuantities o.id)
  | .clearOrder variantMap, w =>
      .ok ({ w with
        db.variants := clearVariants variantMap w.db.variants
        db.orders := w.db.orders.updateWhere (isExpired w.now) fun o =>
          { o with
            status := some .cancelled
            paymentStatus := some .expired } }, ())
  | .findOrderStatusById orderId, w =>
      .ok (w, w.db.orders.find orderId)
  | .updateOrderStatus orderId status note, w =>
      match w.db.orders.find orderId with
      | none => .error .database
      | some _ =>
          .ok ({ w with
            db.orders := w.db.orders.update orderId fun o =>
              { o with status := some status, note := note } }, ())
  | .findPurchaseOrderItemsByIds ids, w =>
      .ok (w, w.db.purchaseOrderItems.filter fun i => ids.contains i.id)
  | .importStock data, w =>
      if w.db.purchaseOrders.all (fun p => decide (p.id ≠ data.purchaseOrderId)) ∨
          w.db.stockImports.any
            (fun s => decide (s.purchaseOrderId = data.purchaseOrderId)) ∨
          data.lines.any (fun l => (w.db.variants.find l.bookVariantId).isNone) then
        .error .database
      else
        let id := dep.cuids w.db.stockImports.length
        let db := BookStore.importStock id data w.db
        .ok ({ w with
          db := db
          history.imported := fun v => w.history.imported v +
            quantityOf v (data.lines.map fun l => (l.bookVariantId, l.realQuantity)) },
          -- `findStockImportById(si.id)` looks for a `purchaseOrderId`
          db.stockImports.find? fun s => decide (s.purchaseOrderId = id))

end Exec

end BookStore
