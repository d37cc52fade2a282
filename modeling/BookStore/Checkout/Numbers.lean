import BookStore.Services.Checkout
import Mathlib.Data.Rat.Floor

/-!
# Checkout with any numbers

`CheckoutItemDto` accepts every number as an id and as a quantity, and `CreateCheckOutDTO`
every number as an address.  Here is `createCheckout` for all of them; the one of
`Services.Checkout` is for those that are whole.

* `findByIds` and `findByAddressIdAndUserId` are refused for an id that is not whole.
* `DECRBY` stops the script at a quantity that is not whole; what the script has done
  until then stays.
* `UPDATE` rounds what it stores in an integer column.
-/

namespace BookStore
namespace Numbers

open Async Program

/-- A number without a fraction -/
abbrev Whole (q : ℚ) : Prop :=
  q.den = 1

/-- What an integer column keeps of a number. -/
structure IntColumn where
  store : ℚ → Int
  store_intCast : ∀ n : Int, store n = n

structure CheckoutItemDto where
  bookVariantId : ℚ
  quantity : ℚ
  deriving DecidableEq

structure CreateCheckOutDTO where
  isGuest : Bool
  guestEmail : Option String
  guestAddress : Option GuestAddressDto
  addressId : Option ℚ
  paymentGateway : PaymentGateway
  items : List CheckoutItemDto
  deriving DecidableEq

structure CheckoutJobPayload where
  orderId : Nat
  isGuest : Bool
  orderCode : String
  totalAmount : ℚ
  subtotal : ℚ
  variants : List OrderVariant
  mapVariantIds : List (ℚ × ℚ)
  guestEmail : Option String
  guestSessionId : Option String
  guestAddress : Option GuestAddressDto
  addressId : Option ℚ
  userId : Option Nat
  email : Option String
  isError : Bool
  payment : PaymentGateway
  deriving DecidableEq

structure World where
  db : Database
  redis : Nat → Option Int
  queue : List CheckoutJobPayload
  now : Nat
  /-- History: what scripts took of the keys and no `INCRBY` gave back. -/
  taken : Nat → Int

/-- `map[key] = value` -/
def mapSet : List (ℚ × ℚ) → ℚ → ℚ → List (ℚ × ℚ)
  | [], k, q => [(k, q)]
  | e :: m, k, q => if e.1 = k then (k, q) :: m else e :: mapSet m k q

/-- `map[key]` -/
def mapGet (m : List (ℚ × ℚ)) (k : ℚ) : Option ℚ :=
  (m.find? fun e => decide (e.1 = k)).map Prod.snd

/-- The variant of a key ``available:${bookVariantId}``; a whole id has one of its own. -/
def CheckoutItemDto.key (i : CheckoutItemDto) : Nat :=
  ⌊i.bookVariantId⌋₊

/-- What items come to for a key. -/
def amountAt (items : List CheckoutItemDto) (k : Nat) : Int :=
  (items.map fun i => if i.key = k then i.quantity.num else 0).sum

/-! ### Statements -/

/-- The items up to the first whose quantity is not whole -/
def decremented (items : List CheckoutItemDto) : List CheckoutItemDto :=
  items.takeWhile fun i => decide (Whole i.quantity)

/-- The script: `DECRBY` of each key in turn, and nothing to answer if one is refused. -/
def decrbyAll :
    List CheckoutItemDto → (Nat → Option Int) → (Nat → Option Int) × Option (List Int)
  | [], redis => (redis, some [])
  | i :: items, redis =>
      if Whole i.quantity then
        let remaining := (redis i.key).getD 0 - i.quantity.num
        let (redis', results) :=
          decrbyAll items (Function.update redis i.key (some remaining))
        (redis', results.map (remaining :: ·))
      else (redis, none)

/-- The `CASE` of `updateReservedByIds` -/
def granted (payload : List CheckoutItemDto) (row : BookVariant) : ℚ :=
  match payload.find? (fun p => decide (p.bookVariantId = (row.id : ℚ))) with
  | some p => if ((row.stock - row.reserved : Int) : ℚ) ≥ p.quantity then p.quantity else 0
  | none => 0

def updateReservedByIds
    (column : IntColumn)
    (payload : List CheckoutItemDto)
    (variants : Table BookVariant) : Table BookVariant :=
  variants.updateWhere
    (fun r => payload.any fun p => decide (p.bookVariantId = (r.id : ℚ)))
    (fun r => { r with reserved := column.store (r.reserved + granted payload r) })

inductive Stmt
  | findByAddressIdAndUserId (addressId : ℚ) (userId : Option Nat)
  | findByIds (variantIds : List ℚ)
  | setAvailable (variantId : Nat) (value : Int)
  | decrbyAvailable (items : List CheckoutItemDto)
  | incrbyAvailable (item : CheckoutItemDto)
  | updateReservedByIds (payload : List CheckoutItemDto)
  | createOrder (data : OrderCreateInput)
  | createPaymentIntent
      (orderCode content tokenUrl : String) (paymentUrl : QrUrl)
  | enqueueCheckout (payload : CheckoutJobPayload)
  deriving DecidableEq

@[reducible]
def Response : Stmt → Type
  | .findByAddressIdAndUserId _ _ => Option UserAddress
  | .findByIds _ => List BookVariant
  | .decrbyAvailable _ => Option (List Int)
  | .createOrder _ => Order
  | _ => Unit

/-- The effect and the answer of a statement. -/
def exec (dep : Deployment) (column : IntColumn) :
    (s : Stmt) → World → Except Failure (World × Response s)
  | .findByAddressIdAndUserId addressId userId, w =>
      match userId with
      | none => .error .database
      | some userId =>
          if Whole addressId then
            .ok (w, w.db.userAddresses.findFirst fun a =>
              decide ((a.id : ℚ) = addressId) && decide (a.userId = userId) &&
                a.deletedAt.isNone)
          else .error .database
  | .findByIds variantIds, w =>
      if variantIds.all fun id => decide (Whole id) then
        .ok (w, w.db.variants.filter fun r => variantIds.contains (r.id : ℚ))
      else .error .database
  | .setAvailable v x, w =>
      match w.redis v with
      | some _ => .ok (w, ())
      | none => .ok ({ w with redis := Function.update w.redis v (some x) }, ())
  | .decrbyAvailable items, w =>
      let (redis, results) := decrbyAll items w.redis
      .ok ({ w with
        redis := redis
        taken := fun k => w.taken k + amountAt (decremented items) k }, results)
  | .incrbyAvailable i, w =>
      .ok ({ w with
        redis := Function.update w.redis i.key
          (some ((w.redis i.key).getD 0 + i.quantity.num))
        taken := fun k => w.taken k - amountAt [i] k }, ())
  | .updateReservedByIds payload, w =>
      -- `Prisma.join` of an empty list throws
      if payload = [] then .error (.error "Expected `join([])` to be called with an array of multiple elements, but got an empty array")
      else
        .ok ({ w with
          db.variants := Numbers.updateReservedByIds column payload w.db.variants }, ())
  | .createOrder data, w =>
      let row := newOrder dep data w.now
      .ok ({ w with
        db.orders := w.db.orders.insert row (key_newOrder dep data w.now) },
        row w.db.orders.next)
  | .createPaymentIntent orderCode content tokenUrl paymentUrl, w =>
      if w.db.orders.rows.any (fun o => dep.sameText o.orderCode orderCode) ∧
          w.db.paymentIntents.rows.all (fun i =>
            !dep.sameText i.orderCode orderCode &&
              !i.content.any (fun c => dep.sameText c content)) then
        .ok ({ w with
          db.paymentIntents := w.db.paymentIntents.insert fun n =>
            { id := n
              orderCode := orderCode
              content := some content
              gateway := .sepay
              status := some .pending
              tokenUrl := tokenUrl
              paymentUrl := some paymentUrl
              expiredAt := w.now + paymentIntentExpiresInMs } }, ())
      else .error .database
  | .enqueueCheckout payload, w =>
      .ok ({ w with queue := w.queue ++ [payload] }, ())

/-! ### `createCheckout` -/

abbrev Service := Program Stmt Response Failure

abbrev query (s : Stmt) : Service (Response s) :=
  await s

variable (dep : Deployment)

/-- The checks on who is buying; the answer is the email of a user. -/
def checkShopper
    (body : CreateCheckOutDTO)
    (guestSessionId : Option String)
    (userId : Option Nat) : Service (Option String) :=
  if body.isGuest then
    if guestSessionId.getD "" = "" then
      raise (.badRequest "Bạn không phải là khách vãn lai")
    else if body.guestAddress = none then
      raise (.badRequest "Address required")
    else
      ret none
  else if body.addressId.getD 0 = 0 then
    raise (.badRequest "Bạn cần phải tạo địa chỉ")
  else do
    let address : Option UserAddress ←
      query (.findByAddressIdAndUserId (body.addressId.getD 0) userId)
    match address with
    | none => raise (.badRequest "Bạn cần phải tạo địa chỉ")
    | some address => ret (some address.userEmail)

/-- The pipeline of `SET … NX`; it does not throw the error of a command. -/
def seedAvailable (variants : List BookVariant) : Service Unit :=
  forEach variants fun v =>
    (query (.setAvailable v.id (v.stock - v.reserved))).tryCatch fun _ => ret ()

/-- Give back the first item found short and throw. -/
def checkRemaining : List CheckoutItemDto → List Int → Service Unit
  | i :: items, remaining :: result =>
      if remaining < 0 then do
        query (.incrbyAvailable i)
        raise (.badRequest "Hết hàng")
      else
        checkRemaining items result
  | _, _ => ret ()

/-- The `try` block: the Redis path. -/
def reserveInRedis
    (items : List CheckoutItemDto)
    (variants : List BookVariant) : Service Unit := do
  seedAvailable variants
  let result : Option (List Int) ← query (.decrbyAvailable items)
  match result with
  | none => raise .database
  | some result => checkRemaining items result

/-- The `catch` block: the database path. -/
def reserveInDatabase
    (items : List CheckoutItemDto)
    (variants : List BookVariant) : Service Unit :=
  if variants.any (fun v => decide (v.stock - v.reserved ≤ 0)) then
    raise (.badRequest "Hết hàng")
  else
    query (.updateReservedByIds items)

/-- Reserve the items; the answer is `isError`. -/
def reserveItems
    (items : List CheckoutItemDto)
    (variants : List BookVariant) : Service Bool :=
  (do reserveInRedis items variants
      ret false).tryCatch
    fun _ => do
      reserveInDatabase items variants
      ret true

/-- `mapVariantIds[id] = quantity` for each item. -/
def mapVariantIds (items : List CheckoutItemDto) : List (ℚ × ℚ) :=
  items.foldl (fun m i => mapSet m i.bookVariantId i.quantity) []

def subtotalOf (variants : List BookVariant) (quantities : List (ℚ × ℚ)) : ℚ :=
  (variants.map fun v => v.price.getD 0 * (mapGet quantities v.id).getD 0).sum

/-- The order row of a guest or of a user. -/
def orderCreateInput
    (body : CreateCheckOutDTO)
    (guestSessionId : Option String)
    (userId : Option Nat)
    (variants : List BookVariant) : OrderCreateInput :=
  let subtotal := subtotalOf variants (mapVariantIds body.items)
  { userId := if body.isGuest then none else userId
    guestSessionId := if body.isGuest then guestSessionId else none
    -- an address has been found for the id, so that it is whole
    addressId := if body.isGuest then none else body.addressId.map fun id => ⌊id⌋₊
    subtotal := subtotal
    totalAmount := subtotal + shippingFee
    requested := variants.map fun v =>
      (v.id, ((mapGet (mapVariantIds body.items) v.id).map Int.floor).getD 0) }

/-- The payment intent of an order that is not paid on delivery. -/
def createPaymentIntent
    (gateway : PaymentGateway)
    (totalAmount : ℚ)
    (orderCode : String) : Service (Option CreateUrlPayment) :=
  if gateway = .cod then
    ret none
  else do
    let result := generateQrUrl dep totalAmount orderCode
    query (.createPaymentIntent orderCode result.content result.tokenUrl
      result.paymentUrl)
    ret (some result)

def checkoutJobPayload
    (body : CreateCheckOutDTO)
    (guestSessionId : Option String)
    (userId : Option Nat)
    (email : Option String)
    (variants : List BookVariant)
    (isError : Bool)
    (order : Order) : CheckoutJobPayload :=
  let subtotal := subtotalOf variants (mapVariantIds body.items)
  { orderId := order.id
    isGuest := body.isGuest
    orderCode := order.orderCode
    totalAmount := subtotal + shippingFee
    subtotal := subtotal
    variants := variants.map orderVariantOf
    mapVariantIds := mapVariantIds body.items
    guestEmail := body.guestEmail
    guestSessionId := if body.isGuest then guestSessionId else none
    guestAddress := if body.isGuest then body.guestAddress else none
    addressId := if body.isGuest then none else body.addressId
    userId := if body.isGuest then none else userId
    email := email
    isError := isError
    payment := body.paymentGateway }

/-- The order, its intent and its job, once the items are reserved. -/
def placeOrder
    (body : CreateCheckOutDTO)
    (guestSessionId : Option String)
    (userId : Option Nat)
    (email : Option String)
    (variants : List BookVariant)
    (isError : Bool) : Service Answer := do
  let order : Order ←
    query (.createOrder (orderCreateInput body guestSessionId userId variants))
  let totalAmount := subtotalOf variants (mapVariantIds body.items) + shippingFee
  let result ←
    createPaymentIntent dep body.paymentGateway totalAmount order.orderCode
  query (.enqueueCheckout
    (checkoutJobPayload body guestSessionId userId email variants isError order))
  ret (.checkout (decide (body.paymentGateway ≠ .cod)) order.orderCode totalAmount
    (variants.map orderVariantOf) shippingFee (result.map (·.tokenUrl))
    (result.map (·.paymentUrl)) (result.map (·.content)))

def createCheckout
    (body : CreateCheckOutDTO)
    (guestSessionId : Option String)
    (userId : Option Nat) : Service Answer := do
  let email ← checkShopper body guestSessionId userId
  let variants : List BookVariant ←
    query (.findByIds (body.items.map (·.bookVariantId)))
  if variants.length ≠ body.items.length then
    raise (.badRequest "Có sản phẩm đã bị xoá")
  else do
    let isError ← reserveItems body.items variants
    placeOrder dep body guestSessionId userId email variants isError

end Numbers
end BookStore
