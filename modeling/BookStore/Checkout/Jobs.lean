import BookStore.Checkout.Numbers

/-!
# The checkout job with any numbers

`CheckoutProcessor.processCheckout` on the payloads that `Numbers.createCheckout` enqueues.
The variants are rows of the database; only the quantities may be any numbers.

* `createMany` is refused for an item whose quantity is missing or not whole.
* `UPDATE` rounds what it stores in an integer column.
-/

namespace BookStore
namespace Numbers

open Async Program

/-- A row for `order_items`; JavaScript's `undefined` is `none`. -/
structure OrderItemInput where
  bookVariantSnapshotId : Option Nat
  quantity : Option ℚ
  unitPrice : ℚ
  deriving DecidableEq

inductive JobStmt
  | createSnapshots (items : List SnapshotInput)
  | findAllByContentHashes (contentHashes : List ContentHash)
  | createItems (orderId : Nat) (items : List OrderItemInput)
  | createAddress (orderId : Nat) (address : GuestAddressDto)
  | updateReservedByIds (payload : List CheckoutItemDto)
  | deleteOrder (orderId : Nat)
  deriving DecidableEq

@[reducible]
def JobResponse : JobStmt → Type
  | .findAllByContentHashes _ => List BookVariantSnapshot
  | _ => Unit

/-- The rows of `createMany` -/
def insertItems (orderId : Nat) :
    List OrderItemInput → Table OrderItem → Option (Table OrderItem)
  | [], t => some t
  | i :: items, t =>
      match i.bookVariantSnapshotId, i.quantity with
      | some snapshotId, some quantity =>
          if Whole quantity then
            insertItems orderId items
              (t.insert fun n =>
                { id := n
                  orderId := orderId
                  bookVariantSnapshotId := snapshotId
                  quantity := quantity.num
                  unitPrice := i.unitPrice
                  lineTotal := i.unitPrice * quantity })
          else none
      | _, _ => none

def newAddress (orderId : Nat) (a : GuestAddressDto) (n : Nat) : OrderAddress where
  id := n
  orderId := orderId
  recipientName := a.name
  phoneNumber := a.phoneNumber
  addressLine := a.addressLine
  ward := a.ward
  district := a.district
  city := a.city
  countryCode := some "VN"
  note := a.note

theorem key_newAddress (orderId : Nat) (a : GuestAddressDto) (n : Nat) :
    key (newAddress orderId a n) = n := rfl

/-- The effect and the answer of a statement of the job. -/
def execJob (dep : Deployment) (column : IntColumn) :
    (s : JobStmt) → World → Except Failure (World × JobResponse s)
  | .createSnapshots items, w =>
      .ok ({ w with db.snapshots := items.foldl insertSnapshot w.db.snapshots }, ())
  | .findAllByContentHashes hashes, w =>
      .ok (w, w.db.snapshots.filter fun s =>
        s.contentHash.any (fun h => hashes.contains h))
  | .createItems orderId items, w =>
      if items ≠ [] ∧ w.db.orders.find orderId = none then .error .database
      else
        match insertItems orderId items w.db.orderItems with
        | none => .error .database
        | some t => .ok ({ w with db.orderItems := t }, ())
  | .createAddress orderId a, w =>
      if w.db.orders.find orderId = none ∨
          w.db.orderAddresses.rows.any (fun r => decide (r.orderId = orderId)) then
        .error .database
      else
        .ok ({ w with
          db.orderAddresses :=
            w.db.orderAddresses.insert (newAddress orderId a) (key_newAddress orderId a) }, ())
  | .updateReservedByIds payload, w =>
      -- `Prisma.join` of an empty list throws
      if payload = [] then .error (.error "Expected `join([])` to be called with an array of multiple elements, but got an empty array")
      else
        .ok ({ w with
          db.variants := Numbers.updateReservedByIds column payload w.db.variants }, ())
  | .deleteOrder orderId, w =>
      match w.db.orders.find orderId with
      | none => .error .database
      | some o => .ok ({ w with db := removeOrder dep o w.db }, ())

/-! ### `processCheckout` -/

/-- A part of the worker. -/
abbrev Worker := Program JobStmt JobResponse Failure

abbrev run (s : JobStmt) : Worker (JobResponse s) :=
  await s

/-- `snapshotItems` -/
def snapshotItems
    (payload : CheckoutJobPayload)
    (found : List BookVariantSnapshot) : List OrderItemInput :=
  (payload.variants.map snapshotOf).map fun s =>
    { bookVariantSnapshotId := snapshotIdOf found s.contentHash
      quantity := mapGet payload.mapVariantIds s.bookVariantId
      unitPrice := s.priceSnapshot }

/-- `reservedVariant`; with an `undefined` quantity the items are rejected first. -/
def reservedVariant (payload : CheckoutJobPayload) : List CheckoutItemDto :=
  payload.variants.map fun v => ⟨v.id, (mapGet payload.mapVariantIds v.id).getD 0⟩

/-- The `try` block of a guest order. -/
def writeGuestOrder
    (payload : CheckoutJobPayload)
    (items : List OrderItemInput) : Worker Unit := do
  run (.createItems payload.orderId items)
  match payload.guestAddress with
  | none => raise .typeError
  | some guestAddress => do
      run (.createAddress payload.orderId guestAddress)
      if payload.isError = false ∧ payload.payment = .cod then
        run (.updateReservedByIds (reservedVariant payload))
      else
        ret ()

/-- The `try` block of a user order. -/
def writeUserOrder
    (payload : CheckoutJobPayload)
    (items : List OrderItemInput) : Worker Unit := do
  run (.createItems payload.orderId items)
  if payload.isError = false then
    run (.updateReservedByIds (reservedVariant payload))
  else
    ret ()

/-- The `catch` block: the order is deleted and the error thrown again. -/
def deleteAndThrow (orderId : Nat) (err : Failure) : Worker Unit := do
  run (.deleteOrder orderId)
  raise err

def processCheckout (payload : CheckoutJobPayload) : Worker Answer := do
  let upsertSnapshots := payload.variants.map snapshotOf
  run (.createSnapshots upsertSnapshots)
  let found : List BookVariantSnapshot ←
    run (.findAllByContentHashes (upsertSnapshots.map (·.contentHash)))
  (if payload.isGuest then writeGuestOrder payload (snapshotItems payload found)
    else writeUserOrder payload (snapshotItems payload found)).tryCatch
    (deleteAndThrow payload.orderId)
  ret .jobDone

end Numbers
end BookStore
