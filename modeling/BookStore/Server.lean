import BookStore.Async.Pool
import BookStore.Services.Hooks
import BookStore.Services.Admin
import Mathlib.Data.Nat.Cast.Order.Ring

/-!
# The server

The handlers run in one pool over one `World`.  The environment lets requests
arrive, hands a queued job to a worker, lets a Redis key expire and lets time
pass.  A request or a job is one handler of the pool.
-/

namespace BookStore

open Async

inductive Request
  | createCheckout
      (body : CreateCheckOutDTO)
      (guestSessionId : Option String)
      (userId : Option Nat)
  | sepayWebhook (body : SePayHooksDto)
  | getPaymentStatus (orderCode : String)
  | cleanOrder
  | updateOrderStatus (orderId : Nat) (body : AdminOrderStatusDto)
  | createStockImport (createdById : Nat) (body : CreateAdminStockImportRequestDto)
  deriving DecidableEq

/-- A step of the environment. -/
inductive Event
  | arrive (r : Request)
  /-- A worker takes a job off the queue. -/
  | startJob (i : Nat)
  | expireKey (variantId : Nat)
  | tick (ms : Nat)
  deriving DecidableEq

variable (dep : Deployment)

/-- The service that answers a request. -/
def handler : Request → Service Answer
  | .createCheckout body guestSessionId userId =>
      BookStore.createCheckout dep body guestSessionId userId
  | .sepayWebhook body => handleSepayWebhook body
  | .getPaymentStatus orderCode => BookStore.getPaymentStatus orderCode
  | .cleanOrder => BookStore.cleanOrder
  | .updateOrderStatus orderId body => BookStore.updateOrderStatus orderId body
  | .createStockImport createdById body =>
      BookStore.createStockImport createdById body

/-- A step of the environment and the handler it starts. -/
def environment : Event → World → Option (World × Option (Service Answer))
  | .arrive r, w => some (w, some (handler dep r))
  | .startJob i, w =>
      (w.queue[i]?).map fun payload =>
        ({ w with queue := w.queue.eraseIdx i }, some (processCheckout payload))
  | .expireKey v, w =>
      some ({ w with redis := Function.update w.redis v none }, none)
  | .tick ms, w =>
      some ({ w with now := w.now + ms }, none)

/-- The running server. -/
def server : System Stmt Response Failure Answer World Event where
  exec := exec dep
  fault := .database
  idle := .none
  env := environment dep

/-- The server's state: the world and the handlers under way. -/
abbrev ServerState := Config Stmt Response Failure Answer World

/-- A world without orders, in which nothing has happened yet. -/
structure Fresh (w : World) : Prop where
  orders : w.db.orders.rows = []
  orderItems : w.db.orderItems.rows = []
  orderAddresses : w.db.orderAddresses.rows = []
  paymentIntents : w.db.paymentIntents.rows = []
  paymentTransactions : w.db.paymentTransactions.rows = []
  webhookInbox : w.db.webhookInbox.rows = []
  redis : w.redis = fun _ => none
  queue : w.queue = []
  history : w.history =
    ⟨fun _ => 0, fun _ => 0, fun _ => 0, fun _ => 0, fun _ => 0, [], []⟩

/-- No handler is under way and no job is queued. -/
def Quiescent (c : ServerState) : Prop :=
  c.quiet = true ∧ c.world.queue = []

/-! ### A small shop

One variant, sold to a guest; the concrete runs start here. -/

/-- Order codes are `VLR` and as many zeros as the number says. -/
def sampleDeployment : Deployment where
  bank := "MB"
  acc := "0123456789"
  template := "compact"
  orderCodes := fun n => String.ofList ("VLR".toList ++ List.replicate n '0')
  tokens := fun c => c
  cuids := fun n => String.ofList ("cm".toList ++ List.replicate n '0')
  collate := id
  orderCodes_injective := by
    intro a b h
    simpa using congrArg (fun s => s.toList.length) h

/-- A shop with `stock` copies of variant `1` at 100000 and no orders. -/
def sampleWorld (stock : Int) : World where
  db :=
    { variants := (Table.empty : Table BookVariant).insert fun n =>
        { id := n
          bookId := 1
          format := .paperback
          isbn := "9780306406157"
          price := some 100000
          stock := stock
          available := 0
          isActive := true
          reserved := 0
          edition := 1 }
      snapshots := .empty
      userAddresses := (Table.empty : Table UserAddress).insert fun n =>
        ⟨n, 1, none, "user@example.com"⟩
      orders := .empty
      orderItems := .empty
      orderAddresses := .empty
      paymentIntents := .empty
      paymentTransactions := .empty
      webhookInbox := .empty
      purchaseOrders := []
      purchaseOrderItems := []
      stockImports := [] }
  redis := fun _ => none
  queue := []
  now := 0
  history := ⟨fun _ => 0, fun _ => 0, fun _ => 0, fun _ => 0, fun _ => 0, [], []⟩

theorem sampleWorld_fresh (stock : Int) : Fresh (sampleWorld stock) := by
  constructor <;> rfl

/-- A guest asks for `quantity` copies. -/
def sampleGuest (gateway : PaymentGateway) (quantity : Int) : Request :=
  .createCheckout
    { isGuest := true
      guestEmail := none
      guestAddress := some ⟨"Nguyễn Văn A", "123", "HCM", none, none, "09", none⟩
      addressId := none
      paymentGateway := gateway
      items := [⟨1, quantity⟩] }
    (some "guest") none

/-- User `1` asks for `quantity` copies. -/
def sampleUser (gateway : PaymentGateway) (quantity : Int) : Request :=
  .createCheckout
    { isGuest := false
      guestEmail := none
      guestAddress := none
      addressId := some 1
      paymentGateway := gateway
      items := [⟨1, quantity⟩] }
    none (some 1)

/-- A transfer of `amount` with a content. -/
def sampleTransfer (id : Int) (content : String) (amount : Nat) : Request :=
  .sepayWebhook
    { id := id
      content := some content
      transferType := "in"
      transferAmount := amount
      transferAmount_nonneg := Nat.cast_nonneg amount }

/-- Handler `i` takes `n` steps without failure. -/
def steps (i n : Nat) : List (Action Event) :=
  List.replicate n (.run i 0 .ok)

/-- An order is placed, its job runs and it is paid in time. -/
def placedThenPaid : List (Action Event) :=
  .env (.arrive (sampleGuest .sepay 1)) :: steps 0 6 ++
    .env (.startJob 0) :: steps 1 4 ++
    .env (.arrive (sampleTransfer 7 "VLR0" 120000)) :: steps 2 15

end BookStore
