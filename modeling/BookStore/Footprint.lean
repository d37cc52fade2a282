import BookStore.Server

/-!
# Which statements a service sends

For each service a predicate on statements and the theorem that the service
sends no other.  What holds of a class of statements holds of the services that
keep to it, so that a proof only looks at the services it is about.
-/

namespace BookStore

open Async Program

variable (dep : Deployment)

/-- Statements of `createCheckout` before it creates the order. -/
def ReservationStatement : Stmt → Prop
  | .findByAddressIdAndUserId _ _ => True
  | .findByIds _ => True
  | .setAvailable _ _ => True
  | .decrbyAvailable _ => True
  | .incrbyAvailable _ _ => True
  | .updateReservedByIds _ origin => origin = .checkout
  | _ => False

/-- Statements of `createCheckout`. -/
def CheckoutStatement : Stmt → Prop
  | .findByAddressIdAndUserId _ _ => True
  | .findByIds _ => True
  | .setAvailable _ _ => True
  | .decrbyAvailable _ => True
  | .incrbyAvailable _ _ => True
  | .updateReservedByIds _ origin => origin = .checkout
  | .createOrder _ => True
  | .createPaymentIntent _ _ _ _ => True
  | .enqueueCheckout _ => True
  | _ => False

/-- Statements of the job of order `k`. -/
def JobStatement (k : Nat) : Stmt → Prop
  | .createSnapshots _ => True
  | .findAllByContentHashes _ => True
  | .createItems orderId _ => orderId = k
  | .createAddress orderId _ => orderId = k
  | .updateReservedByIds _ origin => origin = .job
  | .deleteOrder orderId => orderId = k
  | _ => False

/-- Statements of `cleanOrder`. -/
def CleanupStatement : Stmt → Prop
  | .findOrderIsExpire => True
  | .clearOrder _ => True
  | _ => False

/-- Statements of `updateOrderStatus`. -/
def AdminStatement : Stmt → Prop
  | .findOrderStatusById _ => True
  | .updateOrderStatus _ status _ => status = .confirmed ∨ status = .cancelled
  | _ => False

/-- Statements of `createStockImport`. -/
def ImportStatement : Stmt → Prop
  | .findPurchaseOrderItemsByIds _ => True
  | .importStock _ => True
  | _ => False

/-- Statements of `getPaymentStatus`. -/
def PollStatement : Stmt → Prop
  | .findPaymentByOrderCode _ => True
  | .findOrderStatusByOrderCode _ => True
  | .markOrderAndPaymentSuccess _ => True
  | _ => False

/-- Statements by which a delivery is recorded in the inbox and the ledger. -/
def RecordStatement (body : SePayHooksDto) : Stmt → Prop
  | .saveSepayWebhook key payload => key = body.id ∧ payload = body
  | .updateWebhookStatus _ _ _ => True
  | .findByContent content => content = orderCodeContent body
  | .newDate b => b = body
  | .createWebhookSepayTransaction amount _ _ delivery =>
      amount = body.transferAmount ∧ delivery = body.id
  | .markPaymentNotSuccess _ status =>
      status = .paymentShortfall ∨ status = .paymentOverage
  | _ => False

/-- Statements by which delivery `id` acts on order `k` and the intents of `code`. -/
def SettleStatement (id : Int) (code : String) (k : Nat) : Stmt → Prop
  | .markPaymentIntent c status => c = code ∧ (status = .success ∨ status = .expired)
  | .markOrderAndPaymentSuccess j => j = k
  | .findOrderItems j => j = k
  | .decrementVariantsStock _ delivery j => delivery = id ∧ j = k
  | .incrementVariantsStock _ => True
  | .updateOrderStatusById j status =>
      j = k ∧ (status = .paid ∨ status = .pendingPayment)
  | _ => False

/-- Statements of the webhook once it has found the intent and the order. -/
def PaymentStatement (body : SePayHooksDto) (code : String) (k : Nat) (s : Stmt) :
    Prop :=
  RecordStatement body s ∨ SettleStatement body.id code k s

/-- Statements of `handleSepayWebhook`. -/
def WebhookStatement (body : SePayHooksDto) (s : Stmt) : Prop :=
  RecordStatement body s ∨ ∃ code k, SettleStatement body.id code k s

theorem checkShopper_all
    (body : CreateCheckOutDTO)
    (guestSessionId : Option String)
    (userId : Option Nat) :
    (checkShopper body guestSessionId userId).All ReservationStatement := by
  unfold checkShopper
  split_ifs
  · trivial
  · trivial
  · trivial
  · trivial
  · refine All.bind (All.await trivial) (fun address => ?_)
    cases address <;> trivial

theorem checkRemaining_all
    (items : List CheckoutItemDto)
    (result : List Int) :
    (checkRemaining items result).All ReservationStatement := by
  induction items generalizing result with
  | nil =>
      trivial
  | cons i items ih =>
      cases result with
      | nil =>
          trivial
      | cons r result =>
          rw [checkRemaining]
          split_ifs
          · exact All.bind (All.await trivial) (fun _ => trivial)
          · exact ih result

theorem reserveItems_all
    (items : List CheckoutItemDto)
    (variants : List BookVariant) :
    (reserveItems items variants).All ReservationStatement := by
  have hseed : (seedAvailable variants).All ReservationStatement :=
    All.forEach (fun v _ => (All.await trivial).tryCatch (fun _ => trivial))
  refine All.tryCatch (All.bind (All.bind hseed fun _ => ?_) fun _ => trivial)
    (fun _ => All.bind ?_ fun _ => trivial)
  · exact All.bind (All.await trivial) (fun result => checkRemaining_all items result)
  · unfold reserveInDatabase
    split_ifs
    · trivial
    · exact All.await rfl

theorem placeOrder_all
    (body : CreateCheckOutDTO)
    (guestSessionId : Option String)
    (userId : Option Nat)
    (email : Option String)
    (variants : List BookVariant)
    (isError : Bool) :
    (placeOrder dep body guestSessionId userId email variants isError).All
      CheckoutStatement := by
  refine All.bind (All.await trivial) (fun order => All.bind ?_ fun result => ?_)
  · unfold createPaymentIntent
    split_ifs
    · trivial
    · exact All.bind (All.await trivial) (fun _ => trivial)
  · exact All.bind (All.await trivial) (fun _ => trivial)

theorem createCheckout_all
    (body : CreateCheckOutDTO)
    (guestSessionId : Option String)
    (userId : Option Nat) :
    (createCheckout dep body guestSessionId userId).All CheckoutStatement := by
  have hreserve : ∀ s, ReservationStatement s → CheckoutStatement s := by
    intro s hs
    cases s <;> first | exact hs | exact hs.elim
  refine All.bind ((checkShopper_all body guestSessionId userId).mono hreserve)
    (fun email => All.bind (All.await trivial) fun variants => ?_)
  split_ifs
  · trivial
  · exact All.bind ((reserveItems_all body.items variants).mono hreserve)
      (fun isError => placeOrder_all dep body guestSessionId userId email variants isError)

/-- What a job does once it has found its snapshots. -/
theorem writeOrder_all
    {P : Stmt → Prop}
    (payload : CheckoutJobPayload) (items : List OrderItemInput)
    (hitems : P (.createItems payload.orderId items))
    (haddress : ∀ a, P (.createAddress payload.orderId a))
    (hreserve : ∀ r, P (.updateReservedByIds r .job))
    (hdelete : P (.deleteOrder payload.orderId)) :
    ((if payload.isGuest then writeGuestOrder payload items
      else writeUserOrder payload items).tryCatch
        (deleteAndThrow payload.orderId)).All P := by
  refine All.tryCatch ?_ (fun _ => All.bind (All.await hdelete) fun _ => trivial)
  split_ifs
  · refine All.bind (All.await hitems) (fun _ => ?_)
    cases payload.guestAddress with
    | none =>
        trivial
    | some a =>
        refine All.bind (All.await (haddress a)) (fun _ => ?_)
        split_ifs
        · exact All.await (hreserve _)
        · trivial
  · refine All.bind (All.await hitems) (fun _ => ?_)
    split_ifs
    · exact All.await (hreserve _)
    · trivial

theorem processCheckout_all (payload : CheckoutJobPayload) :
    (processCheckout payload).All (JobStatement payload.orderId) :=
  All.bind (All.await trivial) (fun _ => All.bind (All.await trivial) fun _ =>
    All.bind (writeOrder_all payload _ rfl (fun _ => rfl) (fun _ => rfl) rfl)
      fun _ => trivial)

theorem cleanOrder_all : cleanOrder.All CleanupStatement := by
  refine All.bind (All.await trivial) (fun expiredOrders => ?_)
  split_ifs
  · trivial
  · exact All.bind (All.await trivial) (fun _ => trivial)

theorem updateOrderStatus_all (orderId : Nat) (body : AdminOrderStatusDto) :
    (updateOrderStatus orderId body).All AdminStatement := by
  refine All.bind (All.await trivial) (fun order => ?_)
  cases order with
  | none =>
      trivial
  | some order =>
      dsimp only
      split_ifs
      · trivial
      · exact All.bind (All.await body.status_isIn) (fun _ => trivial)

theorem createStockImport_all
    (createdById : Nat) (body : CreateAdminStockImportRequestDto) :
    (createStockImport createdById body).All ImportStatement := by
  refine All.bind (All.await trivial) (fun poItems => ?_)
  cases body.items.mapM (itemWithPrice poItems) with
  | error err =>
      trivial
  | ok itemsWithPrices =>
      refine All.bind (All.await trivial) (fun created => ?_)
      cases created <;> trivial

theorem getPaymentStatus_all (orderCode : String) :
    (getPaymentStatus orderCode).All PollStatement := by
  refine All.bind (All.await trivial) (fun payment => ?_)
  cases payment with
  | none =>
      trivial
  | some payment =>
      dsimp only
      split_ifs
      · refine All.bind (All.await trivial) (fun order => ?_)
        cases order with
        | none =>
            trivial
        | some order =>
            dsimp only
            split_ifs
            · exact All.bind (All.await trivial) (fun _ => trivial)
            · trivial
      · trivial

theorem savePaymentTransaction_all
    (body : SePayHooksDto) (status : PaymentStatus) (order : Option Order) :
    (savePaymentTransaction body status order).All (RecordStatement body) :=
  All.await ⟨rfl, rfl⟩

theorem handlePaymentIntentExpired_all
    {P : Stmt → Prop}
    (content : String) (webHookId attempts : Nat) (orderCode : String)
    (hmark : P (.markPaymentIntent orderCode .expired))
    (hinbox : P (.updateWebhookStatus webHookId .failed attempts)) :
    (handlePaymentIntentExpired content webHookId attempts orderCode).All P := by
  refine All.bind (All.promiseAll ?_) (fun _ => trivial)
  simp [hmark, hinbox]

theorem handlePaymentIntentNotFoundByContent_all
    (body : SePayHooksDto) (content : String) (webHookId attempts : Nat) :
    (handlePaymentIntentNotFoundByContent content webHookId attempts).All
      (RecordStatement body) :=
  All.bind (All.await trivial) (fun _ => trivial)

theorem handleAlreadyProcessedPaymentIntent_all
    {P : Stmt → Prop}
    (content orderCode : String) (webHookId attempts : Nat) (idempotencyKey : Int)
    (hmark : P (.markPaymentIntent orderCode .success))
    (hinbox : P (.updateWebhookStatus webHookId .done attempts)) :
    (handleAlreadyProcessedPaymentIntent content orderCode webHookId attempts
      idempotencyKey).All P := by
  refine All.bind (All.promiseAll ?_) (fun _ => trivial)
  simp [hmark, hinbox]

theorem handleSepayWebhookWithoutContent_all
    (body : SePayHooksDto) (webHookId attempts : Nat) :
    (handleSepayWebhookWithoutContent body webHookId attempts).All
      (RecordStatement body) :=
  All.bind (savePaymentTransaction_all body _ _) (fun _ =>
    All.bind (All.await trivial) (fun _ => trivial))

/-- A mismatch ends after the record, except for an overpayment. -/
theorem handleMismatch_all
    {P : Stmt → Prop}
    (body : SePayHooksDto) (webHookId attempts : Nat) (content : String)
    (paymentIntent : PaymentIntent) (order : Order)
    (hrecord : ∀ s, RecordStatement body s → P s)
    (hover : order.totalAmount.getD 0 ≤ body.transferAmount →
      (handleAlreadyProcessedPaymentIntent content paymentIntent.orderCode webHookId
        attempts body.id).All P) :
    (handleMismatch body webHookId attempts content paymentIntent order).All P := by
  by_cases hlt : body.transferAmount < order.totalAmount.getD 0
  · simp only [handleMismatch, hlt, if_true]
    exact All.mono (All.bind (savePaymentTransaction_all body _ _) (fun result =>
      All.bind (All.await (Or.inl (if_pos hlt))) fun _ =>
      All.bind (All.await trivial) fun _ => trivial)) hrecord
  · simp only [handleMismatch, hlt, if_false]
    refine All.bind ((savePaymentTransaction_all body _ _).mono hrecord)
      (fun result => All.bind (All.await (hrecord _ (Or.inr (if_neg hlt)))) fun _ =>
      All.bind (All.await (hrecord _ trivial)) fun _ => ?_)
    exact hover (not_lt.mp hlt)

theorem updateOrderDone_all
    (variantMap : List (Nat × Int)) (k : Nat) (delivery : Int) (code : String) :
    (updateOrderDone variantMap k delivery).All (SettleStatement delivery code k) := by
  unfold updateOrderDone
  cases missingQuantity variantMap with
  | some err =>
      trivial
  | none =>
      refine All.promiseAll (fun s hs => ?_)
      rcases List.mem_append.mp hs with hs | hs
      · split_ifs at hs
        · cases hs
        · rw [List.mem_singleton.mp hs]
          exact ⟨rfl, rfl⟩
      · rw [List.mem_singleton.mp hs]
        exact ⟨rfl, .inl rfl⟩

theorem updateOrderNotDone_all
    (variantMap : List (Nat × Int)) (k : Nat) (id : Int) (code : String) :
    (updateOrderNotDone variantMap k).All (SettleStatement id code k) := by
  unfold updateOrderNotDone
  cases missingQuantity variantMap with
  | some err =>
      trivial
  | none =>
      refine All.promiseAll (fun s hs => ?_)
      rcases List.mem_append.mp hs with hs | hs
      · split_ifs at hs
        · cases hs
        · rw [List.mem_singleton.mp hs]
          trivial
      · rw [List.mem_singleton.mp hs]
        exact ⟨rfl, .inr rfl⟩

theorem deductStock_all
    (variantMap : List (Nat × Int)) (k : Nat) (delivery : Int) (code : String) :
    (deductStock variantMap k delivery).All (SettleStatement delivery code k) :=
  All.tryCatch (updateOrderDone_all variantMap k delivery code) (fun _ =>
    All.bind (updateOrderNotDone_all variantMap k delivery code) fun _ => trivial)

/-- What follows once an exact payment has its row. -/
theorem handleSepayWebhookMarkDone_all
    {P : Stmt → Prop}
    (k webHookId attempts : Nat) (code : String) (delivery : Int)
    (hinbox : P (.updateWebhookStatus webHookId .done attempts))
    (hsettle : ∀ s, SettleStatement delivery code k s → P s) :
    (handleSepayWebhookMarkDone k webHookId attempts code delivery).All P := by
  refine All.bind (All.promiseAll ?_) (fun _ => All.bind (All.await (hsettle _ rfl))
    fun items => (deductStock_all _ _ _ code).mono hsettle)
  intro s hs
  simp only [List.mem_cons, List.not_mem_nil, or_false] at hs
  rcases hs with rfl | rfl | rfl
  · exact hsettle _ rfl
  · exact hinbox
  · exact hsettle _ ⟨rfl, .inl rfl⟩

theorem handleExact_all
    (body : SePayHooksDto) (webHookId attempts : Nat) (content : String)
    (paymentIntent : PaymentIntent) (order : Order) :
    (handleExact body webHookId attempts content paymentIntent order).All
      (PaymentStatement body paymentIntent.orderCode order.id) :=
  All.bind ((savePaymentTransaction_all body _ _).mono fun _ => Or.inl) (fun _ =>
    All.bind (handleSepayWebhookMarkDone_all _ _ _ _ _ (.inl trivial) fun _ => Or.inr)
      fun _ => trivial)

theorem handlePayment_all
    (body : SePayHooksDto) (webHookId attempts : Nat) (content : String)
    (paymentIntent : PaymentIntent) (order : Order) :
    (handlePayment body webHookId attempts content paymentIntent order).All
      (PaymentStatement body paymentIntent.orderCode order.id) := by
  have hsave : ∀ status, (savePaymentTransaction body status (some order)).All
      (PaymentStatement body paymentIntent.orderCode order.id) :=
    fun status => (savePaymentTransaction_all body status _).mono fun _ => Or.inl
  have halready : (handleAlreadyProcessedPaymentIntent content
      paymentIntent.orderCode webHookId attempts body.id).All
      (PaymentStatement body paymentIntent.orderCode order.id) :=
    handleAlreadyProcessedPaymentIntent_all _ _ _ _ _
      (.inr ⟨rfl, .inl rfl⟩) (.inl trivial)
  refine All.bind (All.await (Or.inl rfl)) (fun now => ?_)
  split_ifs
  · exact All.bind (hsave _) (fun _ => handlePaymentIntentExpired_all _ _ _ _
      (.inr ⟨rfl, .inr rfl⟩) (.inl trivial))
  · exact All.bind (hsave _) (fun _ => halready)
  · exact handleMismatch_all body _ _ _ _ _ (fun _ => Or.inl) (fun _ => halready)
  · exact handleExact_all body _ _ _ _ _

theorem handleSepayWebhook_all (body : SePayHooksDto) :
    (handleSepayWebhook body).All (WebhookStatement body) := by
  have hrecord : ∀ s, RecordStatement body s → WebhookStatement body s :=
    fun _ => Or.inl
  unfold handleSepayWebhook
  split
  · trivial
  refine All.bind (All.await (Or.inl ⟨rfl, rfl⟩)) (fun webhookInbox => ?_)
  show (if _ then _ else if _ then _ else _ : Service Answer).All _
  split
  · trivial
  split
  · exact (handleSepayWebhookWithoutContent_all body _ _).mono hrecord
  refine All.bind (All.await (Or.inl rfl)) (fun found => ?_)
  rcases found with _ | ⟨paymentIntent, _ | order⟩
  · exact All.mono (All.bind (savePaymentTransaction_all body _ _) (fun _ =>
      handlePaymentIntentNotFoundByContent_all _ _ _ _)) hrecord
  · exact All.mono (All.bind (savePaymentTransaction_all body _ _) (fun _ =>
      All.bind (All.await trivial) fun _ => trivial)) hrecord
  · exact (handlePayment_all body _ _ _ paymentIntent order).mono fun s hs =>
      hs.imp id fun h => ⟨_, _, h⟩

end BookStore
