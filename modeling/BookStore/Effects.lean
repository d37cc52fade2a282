import BookStore.Async.Logic
import BookStore.Footprint

/-!
# What a statement does to each table

For each table the function that a successful statement applies to it.  A
statement without a line of its own leaves the table alone.
-/

namespace BookStore

open Async

variable (dep : Deployment)

/-! ### Tables -/

section Keys

variable (status : OrderStatus) (payment : PaymentStatus) (note : Option String)
variable (o : Order) (i : PaymentIntent) (t : PaymentTransaction)

theorem key_paidOrder :
    key { o with status := some .paid, paymentStatus := some .success } = key o := rfl

theorem key_cancelledOrder :
    key { o with status := some .cancelled, paymentStatus := some .expired } =
      key o := rfl

theorem key_orderStatus : key { o with status := some status } = key o := rfl

theorem key_orderStatusNote :
    key { o with status := some status, note := note } = key o := rfl

theorem key_intentStatus : key { i with status := some payment } = key i := rfl

theorem key_transactionStatus : key { t with status := some payment } = key t := rfl

theorem key_successTransaction : key { t with status := some .success } = key t := rfl

end Keys

/-- The orders after statement `s`. -/
def ordersAfter (s : Stmt) (w : World) : Table Order :=
  match s with
  | .createOrder data =>
      w.db.orders.insert (newOrder dep data w.now) (key_newOrder dep data w.now)
  | .deleteOrder k => w.db.orders.deleteWhere (fun o => decide (key o = k))
  | .markOrderAndPaymentSuccess k =>
      w.db.orders.update k
        (fun o => { o with status := some .paid, paymentStatus := some .success })
        key_paidOrder
  | .updateOrderStatusById k status =>
      w.db.orders.update k (fun o => { o with status := some status })
        (key_orderStatus status)
  | .updateOrderStatus k status note =>
      w.db.orders.update k (fun o => { o with status := some status, note := note })
        (key_orderStatusNote status note)
  | .clearOrder _ =>
      w.db.orders.updateWhere (isExpired w.now)
        (fun o => { o with status := some .cancelled, paymentStatus := some .expired })
        key_cancelledOrder
  | _ => w.db.orders

/-- The payment intents after statement `s`. -/
def paymentIntentsAfter (s : Stmt) (w : World) : Table PaymentIntent :=
  match s with
  | .createPaymentIntent orderCode content tokenUrl paymentUrl =>
      w.db.paymentIntents.insert fun n =>
        { id := n
          orderCode := orderCode
          content := some content
          gateway := .sepay
          status := some .pending
          tokenUrl := tokenUrl
          paymentUrl := some paymentUrl
          expiredAt := w.now + paymentIntentExpiresInMs }
  | .deleteOrder k =>
      w.db.paymentIntents.deleteWhere fun i =>
        (w.db.orders.find k).any fun o => dep.sameText i.orderCode o.orderCode
  | .markPaymentIntent orderCode status =>
      w.db.paymentIntents.updateWhere
        (fun i => dep.sameText i.orderCode orderCode)
        (fun i => { i with status := some status })
        (key_intentStatus status)
  | _ => w.db.paymentIntents

/-- The payment checks recorded after statement `s`. -/
def handledAfter (s : Stmt) (w : World) : List (SePayHooksDto × Nat) :=
  match s with
  | .newDate body => w.history.handled ++ [(body, w.now)]
  | _ => w.history.handled

/-- The variants after statement `s`. -/
def variantsAfter (s : Stmt) (t : Table BookVariant) : Table BookVariant :=
  match s with
  | .updateReservedByIds payload _ => updateReservedByIds payload t
  | .decrementVariantsStock variantMap _ _ => decrementVariantsStock variantMap t
  | .incrementVariantsStock variantMap => incrementVariantsStock variantMap t
  | .clearOrder variantMap => clearVariants variantMap t
  | .importStock data =>
      incrementStockById
        (data.lines.map fun l => (l.bookVariantId, l.realQuantity)) t
  | _ => t

/-- The row that `createWebhookSepayTransaction` inserts. -/
def newTransaction
    (amount : ℚ) (order : Option (Nat × Option Nat)) (status : PaymentStatus)
    (delivery : Int) (n : Nat) : PaymentTransaction where
  id := n
  orderId := order.map Prod.fst
  userId := order.bind Prod.snd
  gateway := .sepay
  status := some status
  amount := amount
  delivery := delivery

theorem key_newTransaction
    (amount : ℚ) (order : Option (Nat × Option Nat)) (status : PaymentStatus)
    (delivery : Int) (n : Nat) :
    key (newTransaction amount order status delivery n) = n := rfl

/-- The payment transactions after statement `s`. -/
def paymentTransactionsAfter (s : Stmt) (w : World) : Table PaymentTransaction :=
  match s with
  | .deleteOrder k =>
      w.db.paymentTransactions.deleteWhere (fun t => decide (t.orderId = some k))
  | .createWebhookSepayTransaction amount order status delivery =>
      w.db.paymentTransactions.insert (newTransaction amount order status delivery)
        (key_newTransaction amount order status delivery)
  | .markPaymentNotSuccess paymentId status =>
      w.db.paymentTransactions.update paymentId (fun r => { r with status := some status })
        (key_transactionStatus status)
  | .markOrderAndPaymentSuccess k =>
      w.db.paymentTransactions.updateWhere
        (fun t => decide (t.orderId = some k))
        (fun t => { t with status := some .success })
        key_successTransaction
  | _ => w.db.paymentTransactions

/-- The deductions recorded after statement `s`. -/
def deductionsAfter (s : Stmt) (w : World) : List (Int × Nat) :=
  match s with
  | .decrementVariantsStock _ delivery k => w.history.deductions ++ [(delivery, k)]
  | _ => w.history.deductions

/-- The snapshots after statement `s`. -/
def snapshotsAfter (s : Stmt) (w : World) : Table BookVariantSnapshot :=
  match s with
  | .createSnapshots items => items.foldl insertSnapshot w.db.snapshots
  | _ => w.db.snapshots

/-- The order items after statement `s`. -/
def orderItemsAfter (s : Stmt) (w : World) : Table OrderItem :=
  match s with
  | .createItems k items => (insertItems k items w.db.orderItems).getD w.db.orderItems
  | .deleteOrder k => w.db.orderItems.deleteWhere (fun i => decide (i.orderId = k))
  | _ => w.db.orderItems

/-- The queue after statement `s`. -/
def queueAfter (s : Stmt) (w : World) : List CheckoutJobPayload :=
  match s with
  | .enqueueCheckout payload => w.queue ++ [payload]
  | _ => w.queue

/-- The imported units after statement `s`. -/
def importedAfter (s : Stmt) (w : World) : Nat → Int :=
  match s with
  | .importStock data => fun v => w.history.imported v +
      quantityOf v (data.lines.map fun l => (l.bookVariantId, (l.realQuantity : Int)))
  | _ => w.history.imported

/-- What statement `s` makes of the tables, the queue, the clock and the past. -/
structure Effects (s : Stmt) (w w' : World) : Prop where
  orders : w'.db.orders = ordersAfter dep s w
  orderItems : w'.db.orderItems = orderItemsAfter s w
  snapshots : w'.db.snapshots = snapshotsAfter s w
  variants : w'.db.variants = variantsAfter s w.db.variants
  paymentIntents : w'.db.paymentIntents = paymentIntentsAfter dep s w
  paymentTransactions : w'.db.paymentTransactions = paymentTransactionsAfter s w
  queue : w'.queue = queueAfter s w
  now : w'.now = w.now
  handled : w'.history.handled = handledAfter s w
  deductions : w'.history.deductions = deductionsAfter s w
  imported : w'.history.imported = importedAfter s w

/-- **Effects.** A statement that is executed does this and nothing else. -/
theorem exec_effects
    {s : Stmt} {w w' : World} {r : Response s}
    (h : exec dep s w = .ok (w', r)) :
    Effects dep s w w' := by
  cases s with
  | deleteOrder k =>
      simp only [exec] at h
      split at h
      · cases h
      · rename_i o ho
        cases h
        have hk : o.id = k := Table.find_key ho
        subst hk
        refine ⟨rfl, rfl, rfl, rfl, ?_, rfl, rfl, rfl, rfl, rfl, rfl⟩
        simp only [paymentIntentsAfter, ho]
        rfl
  | createItems k items =>
      simp only [exec] at h
      split at h
      · cases h
      · split at h
        · cases h
        · rename_i t ht
          cases h
          refine ⟨rfl, ?_, rfl, rfl, rfl, rfl, rfl, rfl, rfl, rfl, rfl⟩
          simp only [orderItemsAfter, ht, Option.getD_some]
  | decrbyAvailable items =>
      simp only [exec] at h
      split at h <;> cases h <;>
        exact ⟨rfl, rfl, rfl, rfl, rfl, rfl, rfl, rfl, rfl, rfl, rfl⟩
  | updateReservedByIds payload origin =>
      simp only [exec] at h
      split at h
      · cases h
      · cases origin <;> cases h <;>
          exact ⟨rfl, rfl, rfl, rfl, rfl, rfl, rfl, rfl, rfl, rfl, rfl⟩
  | _ =>
      simp only [exec] at h
      first
        | (cases h; exact ⟨rfl, rfl, rfl, rfl, rfl, rfl, rfl, rfl, rfl, rfl, rfl⟩)
        | (split at h <;> cases h
           all_goals exact ⟨rfl, rfl, rfl, rfl, rfl, rfl, rfl, rfl, rfl, rfl, rfl⟩)

/-- The columns of an order that no statement changes. -/
structure SameOrder (o o' : Order) : Prop where
  orderCode : o'.orderCode = o.orderCode
  totalAmount : o'.totalAmount = o.totalAmount
  requested : o'.requested = o.requested

theorem SameOrder.refl (o : Order) : SameOrder o o :=
  ⟨rfl, rfl, rfl⟩

theorem SameOrder.trans
    {o o' o'' : Order}
    (h : SameOrder o o')
    (h' : SameOrder o' o'') :
    SameOrder o o'' :=
  ⟨h'.1.trans h.1, h'.2.trans h.2, h'.3.trans h.3⟩

/-- Numbers of orders are handed out once; the rows keep what `SameOrder` says. -/
structure OrdersPersist (w w' : World) : Prop where
  next_le : w.db.orders.next ≤ w'.db.orders.next
  persist : ∀ k o', k < w.db.orders.next → w'.db.orders.find k = some o' →
    ∃ o, w.db.orders.find k = some o ∧ SameOrder o o'

theorem OrdersPersist.of_eq
    {w w' : World}
    (h : w'.db.orders = w.db.orders) :
    OrdersPersist w w' where
  next_le := by rw [h]
  persist := fun _ o' _ ho' => ⟨o', by rw [← h]; exact ho', .refl o'⟩

theorem OrdersPersist.refl (w : World) : OrdersPersist w w :=
  .of_eq rfl

theorem OrdersPersist.trans
    {u v w : World}
    (huv : OrdersPersist u v)
    (hvw : OrdersPersist v w) :
    OrdersPersist u w where
  next_le := huv.next_le.trans hvw.next_le
  persist := by
    intro k o'' hk ho''
    obtain ⟨o', ho', hsame'⟩ :=
      hvw.persist k o'' (hk.trans_le huv.next_le) ho''
    obtain ⟨o, ho, hsame⟩ := huv.persist k o' hk ho'
    exact ⟨o, ho, hsame.trans hsame'⟩

/-- No statement changes another column of an order than these three. -/
theorem exec_order_column
    {α : Type} (f : Order → α)
    (hf : ∀ (o : Order) status payment note,
      f { o with status := status, paymentStatus := payment, note := note } = f o)
    {s : Stmt} {w w' : World} {r : Response s} {k : Nat} {o' : Order}
    (h : exec dep s w = .ok (w', r))
    (hk : k < w.db.orders.next)
    (ho' : w'.db.orders.find k = some o') :
    ∃ o, w.db.orders.find k = some o ∧ f o' = f o := by
  have hupdate : ∀ (p : Order → Bool) (g : Order → Order) (hg : ∀ o, key (g o) = key o),
      (∀ o, f (g o) = f o) →
      (w.db.orders.updateWhere p g hg).find k = some o' →
      ∃ o, w.db.orders.find k = some o ∧ f o' = f o := by
    intro p g hg hsame ho'
    rw [Table.find_updateWhere] at ho'
    obtain ⟨o, ho, rfl⟩ := Option.map_eq_some_iff.mp ho'
    refine ⟨o, ho, ?_⟩
    split_ifs
    · exact hsame o
    · rfl
  rw [(exec_effects dep h).orders] at ho'
  cases s with
  | createOrder data =>
      rw [ordersAfter, Table.find_insert, if_neg (Nat.ne_of_lt hk)] at ho'
      exact ⟨o', ho', rfl⟩
  | deleteOrder j =>
      rw [ordersAfter, Table.find_deleteWhere] at ho'
      exact ⟨o', (Option.filter_eq_some_iff.mp ho').1, rfl⟩
  | markOrderAndPaymentSuccess j =>
      exact hupdate _ _ key_paidOrder (fun o => hf o (some .paid) (some .success) o.note) ho'
  | updateOrderStatusById j status =>
      exact hupdate _ _ (key_orderStatus status)
        (fun o => hf o (some status) o.paymentStatus o.note) ho'
  | updateOrderStatus j status note =>
      exact hupdate _ _ (key_orderStatusNote status note)
        (fun o => hf o (some status) o.paymentStatus note) ho'
  | clearOrder variantMap =>
      rw [ordersAfter] at ho'
      exact hupdate _ _ key_cancelledOrder
        (fun o => hf o (some .cancelled) (some .expired) o.note) ho'
  | _ =>
      exact ⟨o', ho', rfl⟩

theorem exec_orders_next_le
    {s : Stmt} {w w' : World} {r : Response s}
    (h : exec dep s w = .ok (w', r)) :
    w.db.orders.next ≤ w'.db.orders.next := by
  have horders := (exec_effects dep h).orders
  cases s with
  | createOrder data =>
      rw [horders]
      exact Nat.le_succ _
  | clearOrder variantMap =>
      rw [horders]
      exact le_refl _
  | _ =>
      rw [horders]
      exact le_refl _

theorem exec_ordersPersist
    {s : Stmt} {w w' : World} {r : Response s}
    (h : exec dep s w = .ok (w', r)) :
    OrdersPersist w w' where
  next_le := exec_orders_next_le dep h
  persist := by
    intro k o' hk ho'
    obtain ⟨o, ho, hsame⟩ := exec_order_column dep
      (fun o => (o.orderCode, o.totalAmount, o.requested)) (fun _ _ _ _ => rfl) h hk ho'
    obtain ⟨hcode, hsame⟩ := Prod.mk.inj hsame
    obtain ⟨htotal, hrequested⟩ := Prod.mk.inj hsame
    exact ⟨o, ho, hcode, htotal, hrequested⟩

/-- The environment leaves the database alone. -/
theorem environment_db
    {e : Event} {w w' : World} {p : Option (Service Answer)}
    (h : environment dep e w = some (w', p)) :
    w'.db = w.db := by
  cases e with
  | startJob i =>
      obtain ⟨payload, -, heq⟩ := Option.map_eq_some_iff.mp h
      cases heq
      rfl
  | _ =>
      cases h
      rfl

theorem step_ordersPersist
    {c c' : ServerState} {a : Action Event}
    (h : (server dep).step c a = some c') :
    OrdersPersist c.world c'.world :=
  System.step_world (server dep) .refl
    (fun _ _ _ _ hp => .of_eq (by rw [environment_db dep hp]))
    (fun _ _ _ _ hr => exec_ordersPersist dep hr) h

/-! ### The environment in a logic -/

section EnvSafe

variable {M : Type} [AddCommMonoid M] {L : Logic Stmt World M}

/-- What a request, a job, the expiry of a key and the clock have to keep. -/
theorem envSafe_of_events
    {envGuard : World → Event → Prop}
    (harrive : ∀ w F r, L.inv F w → envGuard w (.arrive r) →
      L.SafeHandler (exec dep) .database (handler dep r) 0 w)
    (hstart : ∀ w F i payload, L.inv F w → envGuard w (.startJob i) →
      w.queue[i]? = some payload →
      L.rely w { w with queue := w.queue.eraseIdx i } ∧
        ∃ m, L.inv (m + F) { w with queue := w.queue.eraseIdx i } ∧
          L.SafeHandler (exec dep) .database (processCheckout payload) m
            { w with queue := w.queue.eraseIdx i })
    (hexpire : ∀ w F v, L.inv F w → envGuard w (.expireKey v) →
      L.rely w { w with redis := Function.update w.redis v none } ∧
        L.inv F { w with redis := Function.update w.redis v none })
    (htick : ∀ w F ms, L.inv F w → envGuard w (.tick ms) →
      L.rely w { w with now := w.now + ms } ∧ L.inv F { w with now := w.now + ms }) :
    L.EnvSafe (server dep) envGuard := by
  intro w F e w' p hinv hguard h
  cases e with
  | arrive r =>
      cases h
      exact ⟨L.rely_refl w, 0, by rw [zero_add]; exact hinv, harrive w F r hinv hguard⟩
  | startJob i =>
      obtain ⟨payload, hpayload, heq⟩ := Option.map_eq_some_iff.mp h
      cases heq
      exact hstart w F i payload hinv hguard hpayload
  | expireKey v =>
      cases h
      exact hexpire w F v hinv hguard
  | tick ms =>
      cases h
      exact htick w F ms hinv hguard

end EnvSafe

end BookStore
