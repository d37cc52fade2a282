import BookStore.Rules
import Mathlib.Algebra.Order.PUnit

/-!
# A paid order is backed by a transfer

Whenever an order is `PAID`, or its payment is `SUCCESS`, a transfer of at least
its total amount was delivered that names the order's payment intent, and it was
handled while the intent had not expired.

* `MoneyInv` is the invariant: it says the same of intents that are `SUCCESS`,
  since the status poll trusts them.
* `Backs` is what a statement needs to keep the invariant; only the statements
  that settle an order need anything.
* `paid_backed` is the result, for every run from a world without orders.
-/

namespace BookStore

open Async Program Logic

variable (dep : Deployment) (D : SePayHooksDto → Prop)

/-- The transfer content of `body` names the content of an intent. -/
def Names (body : SePayHooksDto) (i : PaymentIntent) : Prop :=
  i.content.any (fun c => dep.sameText c (orderCodeContent body)) = true

/--
An intent of order `k` is named by a delivery of at least `amount` that was
handled before the intent expired.
-/
def Backed (w : World) (k : Nat) (amount : ℚ) : Prop :=
  ∃ i, i ∈ w.db.paymentIntents.rows ∧
    dep.sameText i.orderCode (dep.orderCodes k) = true ∧
    ∃ d t, (d, t) ∈ w.history.handled ∧ Names dep d i ∧
      amount ≤ d.transferAmount ∧ t ≤ i.expiredAt

/-- Order `k`, if it is there, is backed. -/
def BackedOrder (w : World) (k : Nat) : Prop :=
  ∀ o, w.db.orders.find k = some o → Backed dep w k (o.totalAmount.getD 0)

/-- The order counts as paid. -/
def IsPaid (o : Order) : Prop :=
  o.status = some .paid ∨ o.paymentStatus = some .success

/-- Paid orders and successful intents are backed by deliveries of `D`. -/
structure MoneyInv (w : World) : Prop where
  orderCode : ∀ k o, w.db.orders.find k = some o → o.orderCode = dep.orderCodes k
  intentCode : ∀ i, i ∈ w.db.paymentIntents.rows →
    ∃ k, k < w.db.orders.next ∧ dep.sameText i.orderCode (dep.orderCodes k) = true
  order : ∀ k o, w.db.orders.find k = some o → IsPaid o →
    Backed dep w k (o.totalAmount.getD 0)
  intent : ∀ i, i ∈ w.db.paymentIntents.rows → i.status = some .success →
    ∀ k, dep.sameText i.orderCode (dep.orderCodes k) = true → BackedOrder dep w k
  handled : ∀ x, x ∈ w.history.handled → D x.1

/-- What no step takes back: orders and their intents, and the past. -/
structure MoneyRely (w w' : World) : Prop where
  orders : OrdersPersist w w'
  intents : ∀ k, k < w.db.orders.next → ∀ i, i ∈ w.db.paymentIntents.rows →
    dep.sameText i.orderCode (dep.orderCodes k) = true →
    (w'.db.orders.find k).isSome →
    ∃ i', i' ∈ w'.db.paymentIntents.rows ∧ i'.orderCode = i.orderCode ∧
      i'.content = i.content ∧ i'.expiredAt = i.expiredAt
  handled : ∀ x, x ∈ w.history.handled → x ∈ w'.history.handled

/-- What a statement needs to find. -/
def Backs (w : World) : Stmt → Prop
  | .markOrderAndPaymentSuccess k => BackedOrder dep w k
  | .updateOrderStatusById k status => status = .paid → BackedOrder dep w k
  | .updateOrderStatus _ status _ => status ≠ .paid
  | .markPaymentIntent code status => status = .success →
      ∀ k, dep.sameText code (dep.orderCodes k) = true → BackedOrder dep w k
  | .newDate body => D body
  | _ => True

/-- Where only orders of `B` may become paid, what a statement has to respect. -/
def Settles (B : Nat → Prop) : Stmt → Prop
  | .markOrderAndPaymentSuccess k => B k
  | .updateOrderStatusById k status => status = .paid → B k
  | .updateOrderStatus _ status _ => status ≠ .paid
  | _ => True

variable {dep D}

theorem MoneyRely.refl (w : World) : MoneyRely dep w w where
  orders := .refl w
  intents := fun _ _ i hi _ _ => ⟨i, hi, rfl, rfl, rfl⟩
  handled := fun _ hx => hx

theorem MoneyRely.trans
    {u v w : World}
    (huv : MoneyRely dep u v)
    (hvw : MoneyRely dep v w) :
    MoneyRely dep u w where
  orders := huv.orders.trans hvw.orders
  intents := by
    intro k hk i hi hcode hsome
    have hk' := hk.trans_le huv.orders.next_le
    obtain ⟨o, ho⟩ := Option.isSome_iff_exists.mp hsome
    obtain ⟨o', ho', -⟩ := hvw.orders.persist k o hk' ho
    obtain ⟨i', hi', hc', ht', he'⟩ := huv.intents k hk i hi hcode (by simp [ho'])
    obtain ⟨i'', hi'', hc'', ht'', he''⟩ :=
      hvw.intents k hk' i' hi' (by rw [hc']; exact hcode) hsome
    exact ⟨i'', hi'', hc''.trans hc', ht''.trans ht', he''.trans he'⟩
  handled := fun x hx => hvw.handled x (huv.handled x hx)

theorem Backed.of_rely
    {w w' : World} {k : Nat} {amount : ℚ}
    (h : Backed dep w k amount)
    (hrely : MoneyRely dep w w')
    (hk : k < w.db.orders.next)
    (hsome : (w'.db.orders.find k).isSome) :
    Backed dep w' k amount := by
  obtain ⟨i, hi, hcode, d, t, hd, hnames, hamount, ht⟩ := h
  obtain ⟨i', hi', hc', hcontent', he'⟩ := hrely.intents k hk i hi hcode hsome
  refine ⟨i', hi', by rw [hc']; exact hcode, d, t, hrely.handled _ hd, ?_, hamount, ?_⟩
  · rw [Names, hcontent']
    exact hnames
  · rw [he']
    exact ht

theorem BackedOrder.of_rely
    {w w' : World} {k : Nat}
    (h : BackedOrder dep w k)
    (hrely : MoneyRely dep w w')
    (hk : k < w.db.orders.next) :
    BackedOrder dep w' k := by
  intro o' ho'
  obtain ⟨o, ho, hsame⟩ := hrely.orders.persist k o' hk ho'
  rw [hsame.totalAmount]
  exact (h o ho).of_rely hrely hk (by simp [ho'])

/-! ### What a statement does -/

/-- Orders and intents survive a statement, unless the order is deleted. -/
theorem exec_moneyRely
    {s : Stmt} {w w' : World} {r : Response s}
    (hcode : ∀ k o, w.db.orders.find k = some o → o.orderCode = dep.orderCodes k)
    (h : exec dep s w = .ok (w', r)) :
    MoneyRely dep w w' where
  orders := exec_ordersPersist dep h
  handled := by
    intro x hx
    rw [(exec_effects dep h).handled]
    cases s with
    | newDate body =>
        exact List.mem_append_left _ hx
    | _ =>
        exact hx
  intents := by
    intro k hk i hi hik hsome
    have horders := (exec_effects dep h).orders
    have hintents := (exec_effects dep h).paymentIntents
    cases s with
    | createPaymentIntent orderCode content tokenUrl paymentUrl =>
        refine ⟨i, ?_, rfl, rfl, rfl⟩
        rw [hintents]
        exact List.mem_append_left _ hi
    | markPaymentIntent orderCode status =>
        rw [hintents, paymentIntentsAfter, Table.rows_updateWhere]
        refine ⟨_, List.mem_map_of_mem hi, ?_⟩
        split_ifs <;> exact ⟨rfl, rfl, rfl⟩
    | deleteOrder j =>
        refine ⟨i, ?_, rfl, rfl, rfl⟩
        rw [hintents, paymentIntentsAfter, Table.rows_deleteWhere, List.mem_filter]
        refine ⟨hi, ?_⟩
        obtain ⟨o, ho⟩ := Option.isSome_iff_exists.mp hsome
        rw [horders] at ho
        obtain ⟨ho, hne⟩ := Table.find_deleteWhere_old ho
        cases hj : w.db.orders.find j with
        | none =>
            rfl
        | some o' =>
            -- the deleted order has another number, hence another code
            by_contra hdel
            have hij : dep.sameText i.orderCode (dep.orderCodes j) = true := by
              simpa [hj, hcode j o' hj] using hdel
            obtain rfl := orderCodes_unique dep hik hij
            simp [Table.find_key ho] at hne
    | _ =>
        exact ⟨i, by rw [hintents]; exact hi, rfl, rfl, rfl⟩

/-- An order is an old one, or it was just created. -/
theorem exec_order_origin
    {s : Stmt} {w w' : World} {r : Response s} {k : Nat} {o' : Order}
    (h : exec dep s w = .ok (w', r))
    (ho' : w'.db.orders.find k = some o') :
    k < w.db.orders.next ∨
      ∃ data, s = .createOrder data ∧ o' = newOrder dep data w.now k := by
  have horders := (exec_effects dep h).orders
  by_cases hk : k < w.db.orders.next
  · exact .inl hk
  · cases s with
    | createOrder data =>
        rw [horders, ordersAfter, Table.find_insert] at ho'
        split_ifs at ho' with hnext
        · cases ho'
          exact .inr ⟨data, rfl, by rw [hnext]⟩
        · exact absurd (Table.find_lt ho') hk
    | clearOrder variantMap =>
        have hlt := Table.find_lt ho'
        rw [horders] at hlt
        exact .inl hlt
    | _ =>
        have hlt := Table.find_lt ho'
        rw [horders] at hlt
        exact absurd hlt hk

/-- An order whose status is paid had it before, or the statement has settled it. -/
theorem exec_becomes_paid
    {B : Nat → Prop} {s : Stmt} {w w' : World} {r : Response s} {k : Nat} {o o' : Order}
    (hsettles : Settles B s)
    (h : exec dep s w = .ok (w', r))
    (ho : w.db.orders.find k = some o)
    (ho' : w'.db.orders.find k = some o') :
    (o'.status = some .paid → o.status = some .paid ∨ B k) ∧
      (o'.paymentStatus = some .success → o.paymentStatus = some .success ∨ B k) := by
  rw [(exec_effects dep h).orders] at ho'
  cases s with
  | markOrderAndPaymentSuccess j =>
      rcases Table.find_update_old ho ho' with ⟨rfl, -⟩ | ⟨-, rfl⟩
      · exact ⟨fun _ => .inr hsettles, fun _ => .inr hsettles⟩
      · exact ⟨.inl, .inl⟩
  | updateOrderStatusById j status =>
      rcases Table.find_update_old ho ho' with ⟨rfl, rfl⟩ | ⟨-, rfl⟩
      · exact ⟨fun hpaid => .inr (hsettles (Option.some.inj hpaid)), .inl⟩
      · exact ⟨.inl, .inl⟩
  | updateOrderStatus j status note =>
      rcases Table.find_update_old ho ho' with ⟨rfl, rfl⟩ | ⟨-, rfl⟩
      · exact ⟨fun hpaid => absurd (Option.some.inj hpaid) hsettles, .inl⟩
      · exact ⟨.inl, .inl⟩
  | clearOrder variantMap =>
      rw [ordersAfter] at ho'
      rcases Table.find_updateWhere_old ho ho' with ⟨-, rfl⟩ | ⟨-, rfl⟩
      · constructor <;> intro hpaid <;> cases hpaid
      · exact ⟨.inl, .inl⟩
  | createOrder data =>
      rw [ordersAfter] at ho'
      obtain rfl := Table.find_insert_old ho ho'
      exact ⟨.inl, .inl⟩
  | deleteOrder j =>
      obtain ⟨ho'', -⟩ := Table.find_deleteWhere_old ho'
      rw [ho, Option.some.injEq] at ho''
      exact ho'' ▸ ⟨.inl, .inl⟩
  | _ =>
      rw [show o = o' from Option.some.inj (ho.symm.trans ho')]
      exact ⟨.inl, .inl⟩

/-- A statement that finds what it needs settles backed orders only. -/
theorem Backs.settles
    {s : Stmt} {w : World}
    (h : Backs dep D w s) :
    Settles (BackedOrder dep w) s := by
  cases s with
  | markOrderAndPaymentSuccess k =>
      exact h
  | updateOrderStatusById k status =>
      exact h
  | updateOrderStatus k status note =>
      exact h
  | _ =>
      trivial

/-- A successful intent was successful before, or the statement marked it. -/
theorem exec_becomes_success
    {s : Stmt} {w w' : World} {r : Response s} {i' : PaymentIntent}
    (h : exec dep s w = .ok (w', r))
    (hi' : i' ∈ w'.db.paymentIntents.rows)
    (hsuccess : i'.status = some .success) :
    (∃ i, i ∈ w.db.paymentIntents.rows ∧ i.orderCode = i'.orderCode ∧
        i.status = some .success) ∨
      ∃ code, s = .markPaymentIntent code .success ∧
        dep.sameText i'.orderCode code = true := by
  rw [(exec_effects dep h).paymentIntents] at hi'
  cases s with
  | createPaymentIntent orderCode content tokenUrl paymentUrl =>
      rcases List.mem_append.mp hi' with hi' | hi'
      · exact .inl ⟨i', hi', rfl, hsuccess⟩
      · rw [List.mem_singleton.mp hi'] at hsuccess
        cases hsuccess
  | deleteOrder k =>
      exact .inl ⟨i', List.mem_of_mem_filter hi', rfl, hsuccess⟩
  | markPaymentIntent code status =>
      obtain ⟨i, hi, rfl⟩ := List.mem_map.mp hi'
      split_ifs at hsuccess ⊢ with hcode
      · obtain rfl := Option.some.inj hsuccess
        exact .inr ⟨code, rfl, hcode⟩
      · exact .inl ⟨i, hi, rfl, hsuccess⟩
  | _ =>
      exact .inl ⟨i', hi', rfl, hsuccess⟩

/-- Every intent has the code of an order number that was handed out. -/
theorem exec_intentCode
    {s : Stmt} {w w' : World} {r : Response s}
    (horderCode : ∀ k o, w.db.orders.find k = some o → o.orderCode = dep.orderCodes k)
    (hintentCode : ∀ i, i ∈ w.db.paymentIntents.rows →
      ∃ k, k < w.db.orders.next ∧ dep.sameText i.orderCode (dep.orderCodes k) = true)
    (h : exec dep s w = .ok (w', r)) :
    ∀ i, i ∈ w'.db.paymentIntents.rows →
      ∃ k, k < w'.db.orders.next ∧
        dep.sameText i.orderCode (dep.orderCodes k) = true := by
  have hnext := (exec_ordersPersist dep h).next_le
  have hold : ∀ i, i ∈ w.db.paymentIntents.rows →
      ∃ k, k < w'.db.orders.next ∧
        dep.sameText i.orderCode (dep.orderCodes k) = true := by
    intro i hi
    obtain ⟨k, hk, hcode⟩ := hintentCode i hi
    exact ⟨k, hk.trans_le hnext, hcode⟩
  intro i' hi'
  have hintents := (exec_effects dep h).paymentIntents
  cases s with
  | createPaymentIntent orderCode content tokenUrl paymentUrl =>
      rw [hintents] at hi'
      rcases List.mem_append.mp hi' with hi' | hi'
      · exact hold i' hi'
      · -- the foreign key
        simp only [exec] at h
        split at h
        · rename_i hguard
          obtain ⟨o, ho, hcode⟩ := List.any_eq_true.mp hguard.1
          refine ⟨o.id, (w.db.orders.below o ho).trans_le hnext, ?_⟩
          rw [List.mem_singleton.mp hi',
            ← horderCode o.id o (Table.find_of_mem ho), sameText_comm]
          exact hcode
        · cases h
  | deleteOrder k =>
      rw [hintents] at hi'
      exact hold i' (List.mem_of_mem_filter hi')
  | markPaymentIntent code status =>
      rw [hintents] at hi'
      obtain ⟨i, hi, rfl⟩ := List.mem_map.mp hi'
      obtain ⟨k, hk, hik⟩ := hold i hi
      refine ⟨k, hk, ?_⟩
      split_ifs <;> exact hik
  | _ =>
      rw [hintents] at hi'
      exact hold i' hi'

/-- **One statement** that finds what it needs keeps the invariant. -/
theorem exec_moneyInv
    {s : Stmt} {w w' : World} {r : Response s}
    (hinv : MoneyInv dep D w)
    (hbacks : Backs dep D w s)
    (h : exec dep s w = .ok (w', r)) :
    MoneyInv dep D w' := by
  have hrely : MoneyRely dep w w' := exec_moneyRely hinv.orderCode h
  refine ⟨?_, exec_intentCode hinv.orderCode hinv.intentCode h, ?_, ?_, ?_⟩
  · intro k o' ho'
    rcases exec_order_origin h ho' with hk | ⟨data, -, rfl⟩
    · obtain ⟨o, ho, hsame⟩ := hrely.orders.persist k o' hk ho'
      rw [hsame.orderCode, hinv.orderCode k o ho]
    · rfl
  · intro k o' ho' hpaid
    rcases exec_order_origin h ho' with hk | ⟨data, -, rfl⟩
    · obtain ⟨o, ho, hsame⟩ := hrely.orders.persist k o' hk ho'
      have hbecomes := exec_becomes_paid hbacks.settles h ho ho'
      have hbacked : Backed dep w k (o.totalAmount.getD 0) := by
        rcases hpaid.imp hbecomes.1 hbecomes.2 with (hold | hback) | (hold | hback)
        · exact hinv.order k o ho (.inl hold)
        · exact hback o ho
        · exact hinv.order k o ho (.inr hold)
        · exact hback o ho
      rw [hsame.totalAmount]
      exact hbacked.of_rely hrely hk (by simp [ho'])
    · rcases hpaid with hstatus | hpayment
      · cases hstatus
      · cases hpayment
  · intro i' hi' hsuccess k hik
    have hback : k < w.db.orders.next ∧ BackedOrder dep w k := by
      rcases exec_becomes_success h hi' hsuccess with ⟨i, hi, hcode, hs⟩ | ⟨code, rfl, hcode⟩
      · obtain ⟨j, hj, hij⟩ := hinv.intentCode i hi
        obtain rfl := orderCodes_unique dep hij (by rw [hcode]; exact hik)
        exact ⟨hj, hinv.intent i hi hs j hij⟩
      · obtain ⟨j, hj, hij⟩ := exec_intentCode hinv.orderCode hinv.intentCode h i' hi'
        obtain rfl := orderCodes_unique dep hij hik
        refine ⟨by rwa [(exec_effects dep h).orders] at hj, hbacks rfl j ?_⟩
        exact sameText_trans dep (by rw [sameText_comm]; exact hcode) hik
    exact hback.2.of_rely hrely hback.1
  · intro x hx
    rw [(exec_effects dep h).handled] at hx
    cases s with
    | newDate body =>
        rcases List.mem_append.mp hx with hx | hx
        · exact hinv.handled x hx
        · rw [List.mem_singleton.mp hx]
          exact hbacks
    | _ =>
        exact hinv.handled x hx

variable (dep D)

/-- The invariant and what is kept, for handlers that hold nothing. -/
def moneyLogic : Logic Stmt World Unit where
  inv := fun _ w => MoneyInv dep D w
  rely := MoneyRely dep
  rely_refl := .refl
  rely_trans := fun _ _ _ => .trans
  guard := fun _ _ _ => True
  done := fun _ => True

variable {dep D}

theorem harmless_of_backs
    {K : World → Prop} {s : Stmt}
    (hbacks : ∀ w, K w → MoneyInv dep D w → Backs dep D w s) :
    Harmless (moneyLogic dep D) (exec dep) .database K s := by
  intro w _ o hK hinv _
  refine attempt_cases (motive := fun x => MoneyInv dep D x.1 ∧ MoneyRely dep w x.1)
    (fun _ => ⟨hinv, .refl w⟩) (fun w' r _ h => ?_)
  have := exec_moneyInv hinv (hbacks w hK hinv) h
  exact ⟨⟨this, exec_moneyRely hinv.orderCode h⟩, this, exec_moneyRely hinv.orderCode h⟩

/-! ### The services -/

section Services

variable {w : World}

/-- A service whose statements need nothing is safe. -/
theorem money_of_all
    {p : Service Answer}
    (h : p.All (fun s => ∀ w, Backs dep D w s)) :
    SafeHandler (moneyLogic dep D) (exec dep) .database p () w :=
  Safe.of_all (K := fun _ => True) (fun _ _ _ _ => trivial)
    (h.mono fun _ hs => harmless_of_backs fun w _ _ => hs w)
    trivial (fun _ _ _ => trivial) trivial

theorem createCheckout_money
    (body : CreateCheckOutDTO)
    (guestSessionId : Option String)
    (userId : Option Nat) :
    SafeHandler (moneyLogic dep D) (exec dep) .database
      (createCheckout dep body guestSessionId userId) () w := by
  refine money_of_all ((createCheckout_all dep body guestSessionId userId).mono ?_)
  intro s hs w
  cases s <;> trivial

theorem processCheckout_money (payload : CheckoutJobPayload) :
    SafeHandler (moneyLogic dep D) (exec dep) .database
      (processCheckout payload) () w := by
  refine money_of_all ((processCheckout_all payload).mono ?_)
  intro s hs w
  cases s <;> trivial

theorem cleanOrder_money :
    SafeHandler (moneyLogic dep D) (exec dep) .database cleanOrder () w := by
  refine money_of_all (cleanOrder_all.mono ?_)
  intro s hs w
  cases s <;> trivial

theorem updateOrderStatus_money (orderId : Nat) (body : AdminOrderStatusDto) :
    SafeHandler (moneyLogic dep D) (exec dep) .database
      (updateOrderStatus orderId body) () w := by
  refine money_of_all ((updateOrderStatus_all orderId body).mono ?_)
  intro s hs w
  cases s with
  | updateOrderStatus k status note =>
      rcases hs with rfl | rfl <;> exact nofun
  | _ =>
      trivial

theorem createStockImport_money
    (createdById : Nat) (body : CreateAdminStockImportRequestDto) :
    SafeHandler (moneyLogic dep D) (exec dep) .database
      (createStockImport createdById body) () w := by
  refine money_of_all ((createStockImport_all createdById body).mono ?_)
  intro s hs w
  cases s <;> trivial

/-- Order `k` is a known number and, if it is there, backed. -/
def KnownBacked (dep : Deployment) (k : Nat) (w : World) : Prop :=
  k < w.db.orders.next ∧ BackedOrder dep w k

theorem KnownBacked.of_rely
    {k : Nat} {v v' : World}
    (h : KnownBacked dep k v)
    (hrely : (moneyLogic dep D).rely v v') :
    KnownBacked dep k v' :=
  ⟨h.1.trans_le hrely.orders.next_le, h.2.of_rely hrely h.1⟩

/-- The record of a delivery of `D` needs nothing. -/
theorem backs_of_record
    {body : SePayHooksDto} {s : Stmt}
    (hD : D body)
    (hs : RecordStatement body s) :
    Backs dep D w s := by
  cases s with
  | newDate b =>
      exact hs ▸ hD
  | _ =>
      trivial

/-- Settling a backed order is allowed. -/
theorem backs_of_settle
    {id : Int} {code : String} {k : Nat} {s : Stmt}
    (hcode : dep.sameText code (dep.orderCodes k) = true)
    (hk : KnownBacked dep k w)
    (hs : SettleStatement id code k s) :
    Backs dep D w s := by
  cases s with
  | markOrderAndPaymentSuccess j =>
      exact hs ▸ hk.2
  | updateOrderStatusById j status =>
      exact fun _ => hs.1 ▸ hk.2
  | markPaymentIntent c status =>
      intro _ j hj
      rw [hs.1] at hj
      exact orderCodes_unique dep hcode hj ▸ hk.2
  | _ =>
      trivial

/-- The rest of a webhook that deals with a backed order is safe. -/
theorem money_of_payment
    {body : SePayHooksDto} {code : String} {k : Nat} {p : Service Answer}
    (hD : D body)
    (hcode : dep.sameText code (dep.orderCodes k) = true)
    (hk : KnownBacked dep k w)
    (hp : p.All (PaymentStatement body code k)) :
    SafeHandler (moneyLogic dep D) (exec dep) .database p () w := by
  refine Safe.of_all (K := KnownBacked dep k) (fun _ _ h hrely => h.of_rely hrely)
    (hp.mono fun s hs => harmless_of_backs fun v hv _ => ?_)
    trivial (fun _ _ _ => trivial) hk
  exact hs.elim (backs_of_record hD) (backs_of_settle hcode hv)

/-- What the webhook has read: order `k` costs `amount` and has the intent `i`. -/
structure Linked (dep : Deployment) (k : Nat) (i : PaymentIntent) (amount : ℚ)
    (w : World) : Prop where
  lt : k < w.db.orders.next
  sameCode : dep.sameText i.orderCode (dep.orderCodes k) = true
  total : ∀ o, w.db.orders.find k = some o → o.totalAmount.getD 0 = amount
  intent : (w.db.orders.find k).isSome →
    ∃ i', i' ∈ w.db.paymentIntents.rows ∧ i'.orderCode = i.orderCode ∧
      i'.content = i.content ∧ i'.expiredAt = i.expiredAt

theorem Linked.of_rely
    {k : Nat} {i : PaymentIntent} {amount : ℚ} {v v' : World}
    (h : Linked dep k i amount v)
    (hrely : MoneyRely dep v v') :
    Linked dep k i amount v' where
  lt := h.lt.trans_le hrely.orders.next_le
  sameCode := h.sameCode
  total := by
    intro o' ho'
    obtain ⟨o, ho, hsame⟩ := hrely.orders.persist k o' h.lt ho'
    rw [hsame.totalAmount]
    exact h.total o ho
  intent := by
    intro hsome
    obtain ⟨o', ho'⟩ := Option.isSome_iff_exists.mp hsome
    obtain ⟨o, ho, -⟩ := hrely.orders.persist k o' h.lt ho'
    obtain ⟨i₁, hi₁, hc₁, ht₁, he₁⟩ := h.intent (by simp [ho])
    obtain ⟨i₂, hi₂, hc₂, ht₂, he₂⟩ :=
      hrely.intents k h.lt i₁ hi₁ (by rw [hc₁]; exact h.sameCode) hsome
    exact ⟨i₂, hi₂, hc₂.trans hc₁, ht₂.trans ht₁, he₂.trans he₁⟩

/-- A delivery that is large enough and in time backs the order. -/
theorem Linked.knownBacked
    {k : Nat} {i : PaymentIntent} {amount : ℚ} {body : SePayHooksDto} {t : Nat}
    (h : Linked dep k i amount w)
    (hhandled : (body, t) ∈ w.history.handled)
    (hnames : Names dep body i)
    (hamount : amount ≤ body.transferAmount)
    (ht : t ≤ i.expiredAt) :
    KnownBacked dep k w := by
  refine ⟨h.lt, fun o ho => ?_⟩
  obtain ⟨i', hi', hc', hcontent', he'⟩ := h.intent (by simp [ho])
  refine ⟨i', hi', by rw [hc']; exact h.sameCode, body, t, hhandled, ?_, ?_, ?_⟩
  · rw [Names, hcontent']
    exact hnames
  · rw [h.total o ho]
    exact hamount
  · rw [he']
    exact ht

theorem handlePayment_money
    {body : SePayHooksDto} {webHookId attempts : Nat} {content : String}
    {i : PaymentIntent} {order : Order}
    (hD : D body)
    (hlinked : Linked dep order.id i (order.totalAmount.getD 0) w)
    (hnames : Names dep body i)
    (hsuccess : i.status = some .success → KnownBacked dep order.id w) :
    SafeHandler (moneyLogic dep D) (exec dep) .database
      (handlePayment body webHookId attempts content i order) () w := by
  refine Safe.await_bind (StatementSafe.of_exec (fun _ _ _ _ _ => trivial) ?_)
  intro v F o v' now hwv hinv _ _ hexec
  have hrely : MoneyRely dep v v' := exec_moneyRely hinv.orderCode hexec
  have hwv' : MoneyRely dep w v' := hwv.trans hrely
  have hbacks : Backs dep D v (.newDate body) := hD
  refine ⟨(), exec_moneyInv hinv hbacks hexec, hrely, ?_, fun _ _ => trivial⟩
  have hlinked' := hlinked.of_rely hwv'
  have hhandled : (body, now) ∈ v'.history.handled := by
    cases hexec
    exact List.mem_append_right _ (List.mem_singleton.mpr rfl)
  have hrecord : ∀ s, RecordStatement body s →
      Harmless (moneyLogic dep D) (exec dep) .database (fun _ => True) s :=
    fun s hs => harmless_of_backs fun _ _ _ => backs_of_record hD hs
  dsimp only
  split
  · -- the payment window has passed: nothing is marked successful
    refine Safe.of_all (K := fun _ => True) (fun _ _ _ _ => trivial) ?_ trivial
      (fun _ _ _ => trivial) trivial
    refine All.bind ((savePaymentTransaction_all body _ _).mono hrecord) (fun _ =>
      handlePaymentIntentExpired_all _ _ _ _ ?_ (hrecord _ trivial))
    exact harmless_of_backs fun _ _ _ => nofun
  have hintime : now ≤ i.expiredAt := not_lt.mp ‹_›
  have halready : ∀ p, (p : Service Answer).All
      (PaymentStatement body i.orderCode order.id) → KnownBacked dep order.id v' →
      SafeHandler (moneyLogic dep D) (exec dep) .database p () v' :=
    fun p hp hk => money_of_payment hD hlinked.sameCode hk hp
  have hmarked : (handleAlreadyProcessedPaymentIntent content i.orderCode webHookId
      attempts body.id).All (PaymentStatement body i.orderCode order.id) :=
    handleAlreadyProcessedPaymentIntent_all _ _ _ _ _ (.inr ⟨rfl, .inl rfl⟩)
      (.inl trivial)
  have hsave : ∀ status, (savePaymentTransaction body status (some order)).All
      (PaymentStatement body i.orderCode order.id) :=
    fun status => (savePaymentTransaction_all body status _).mono fun _ => Or.inl
  split
  · -- the intent was successful when it was read
    have hk : KnownBacked dep order.id v' :=
      (hsuccess ‹_›).of_rely (D := D) hwv'
    exact halready _ (All.bind (hsave _) fun _ => hmarked) hk
  split
  · by_cases hamount : order.totalAmount.getD 0 ≤ body.transferAmount
    · -- an overpayment backs the order
      exact halready _
        (handleMismatch_all body _ _ _ _ _ (fun _ => Or.inl) fun _ => hmarked)
        (hlinked'.knownBacked hhandled hnames hamount hintime)
    · refine Safe.of_all (K := fun _ => True) (fun _ _ _ _ => trivial) ?_ trivial
        (fun _ _ _ => trivial) trivial
      exact handleMismatch_all body _ _ _ _ _ hrecord (fun h => absurd h hamount)
  · rename_i heq
    have hamount : order.totalAmount.getD 0 ≤ body.transferAmount :=
      (not_not.mp heq).ge
    exact halready _ (handleExact_all body _ _ _ _ _)
      (hlinked'.knownBacked hhandled hnames hamount hintime)

/-- What `findByContent` has read, as the invariant sees it. -/
theorem linked_of_findByContent
    {i : PaymentIntent} {order : Order}
    (hinv : MoneyInv dep D w)
    (hi : i ∈ w.db.paymentIntents.rows)
    (ho : order ∈ w.db.orders.rows)
    (hsame : dep.sameText order.orderCode i.orderCode = true) :
    Linked dep order.id i (order.totalAmount.getD 0) w ∧
      (i.status = some .success → KnownBacked dep order.id w) := by
  have hfind : w.db.orders.find order.id = some order := Table.find_of_mem ho
  have hcode : dep.sameText i.orderCode (dep.orderCodes order.id) = true := by
    rw [sameText_comm, ← hinv.orderCode _ _ hfind]
    exact hsame
  have hlt := Table.find_lt hfind
  refine ⟨⟨hlt, hcode, ?_, fun _ => ⟨i, hi, rfl, rfl, rfl⟩⟩,
    fun hs => ⟨hlt, hinv.intent i hi hs _ hcode⟩⟩
  intro o ho
  rw [hfind, Option.some.injEq] at ho
  rw [ho]

theorem handleSepayWebhook_money
    {body : SePayHooksDto}
    (hD : D body) :
    SafeHandler (moneyLogic dep D) (exec dep) .database
      (handleSepayWebhook body) () w := by
  have hrecord : ∀ s, RecordStatement body s →
      Harmless (moneyLogic dep D) (exec dep) .database (fun _ => True) s :=
    fun s hs => harmless_of_backs fun _ _ _ => backs_of_record hD hs
  refine handleSepayWebhook_safe (fun _ => trivial) (hrecord _ ⟨rfl, rfl⟩)
    (fun _ _ _ => hrecord _ trivial) (hrecord _ ⟨rfl, rfl⟩) ?_
  intro v F webHookId attempts i order hinv hi hcontent ho hsame
  obtain ⟨hlinked, hsuccess⟩ := linked_of_findByContent hinv hi ho hsame
  exact handlePayment_money hD hlinked hcontent hsuccess

theorem getPaymentStatus_money (orderCode : String) :
    SafeHandler (moneyLogic dep D) (exec dep) .database
      (getPaymentStatus orderCode) () w := by
  refine getPaymentStatus_safe (K := KnownBacked dep) (fun _ => trivial)
    (fun _ _ _ h hrely => h.of_rely hrely) (fun _ _ hinv => hinv.orderCode) ?_
    (fun k => harmless_of_backs fun _ h _ => h.2) orderCode
  intro _ v hinv i hi hs
  obtain ⟨k, hlt, hik⟩ := hinv.intentCode i hi
  exact ⟨k, hik, hlt, hinv.intent i hi hs k hik⟩

end Services

/-! ### Runs -/

/-- A webhook delivery of the environment is one of `D`. -/
def DeliversOnly (D : SePayHooksDto → Prop) (_ : World) : Event → Prop
  | .arrive (.sepayWebhook body) => D body
  | _ => True

/-- A state that differs in nothing the invariant speaks of. -/
theorem MoneyInv.of_eq
    {w w' : World}
    (hinv : MoneyInv dep D w)
    (hdb : w'.db = w.db)
    (hhandled : w'.history.handled = w.history.handled) :
    MoneyRely dep w w' ∧ MoneyInv dep D w' := by
  have hbacked : ∀ k amount, Backed dep w k amount → Backed dep w' k amount := by
    rintro k amount ⟨i, hi, hcode, d, t, hd, hrest⟩
    exact ⟨i, by rw [hdb]; exact hi, hcode, d, t, by rw [hhandled]; exact hd, hrest⟩
  refine ⟨⟨.of_eq (by rw [hdb]), fun _ _ i hi _ _ => ⟨i, by rw [hdb]; exact hi, rfl, rfl, rfl⟩,
    fun x hx => by rwa [hhandled]⟩, ?_⟩
  refine ⟨by rw [hdb]; exact hinv.orderCode, by rw [hdb]; exact hinv.intentCode, ?_, ?_, ?_⟩
  · intro k o ho hpaid
    rw [hdb] at ho
    exact hbacked _ _ (hinv.order k o ho hpaid)
  · intro i hi hs k hik o ho
    rw [hdb] at hi ho
    exact hbacked _ _ (hinv.intent i hi hs k hik o ho)
  · intro x hx
    rw [hhandled] at hx
    exact hinv.handled x hx

theorem environment_money :
    EnvSafe (moneyLogic dep D) (server dep) (DeliversOnly D) := by
  refine envSafe_of_events dep (fun w F r _ hdelivers => ?_)
    (fun w F i payload hinv _ _ => ?_) (fun w F v hinv _ => MoneyInv.of_eq hinv rfl rfl)
    (fun w F ms hinv _ => MoneyInv.of_eq hinv rfl rfl)
  · cases r with
    | createCheckout body guestSessionId userId =>
        exact createCheckout_money body guestSessionId userId
    | sepayWebhook body =>
        exact handleSepayWebhook_money hdelivers
    | getPaymentStatus orderCode =>
        exact getPaymentStatus_money orderCode
    | cleanOrder =>
        exact cleanOrder_money
    | updateOrderStatus orderId body =>
        exact updateOrderStatus_money orderId body
    | createStockImport createdById body =>
        exact createStockImport_money createdById body
  · have htaken : MoneyRely dep w { w with queue := w.queue.eraseIdx i } ∧
        MoneyInv dep D { w with queue := w.queue.eraseIdx i } := hinv.of_eq rfl rfl
    exact ⟨htaken.1, (), htaken.2, processCheckout_money payload⟩

theorem moneyInv_fresh (hw : Fresh w) : MoneyInv dep D w where
  orderCode := by
    intro k o ho
    have := Table.find_mem ho
    simp [hw.orders] at this
  intentCode := by simp [hw.paymentIntents]
  order := by
    intro k o ho
    have := Table.find_mem ho
    simp [hw.orders] at this
  intent := by simp [hw.paymentIntents]
  handled := by simp [hw.history]

variable (dep)

/--
In every state that the server reaches from a world without orders, an order that
is `PAID` or whose payment is `SUCCESS` has an intent that a delivery of the run
names, with at least the order's total and handled before the intent expired.
-/
theorem paid_backed
    {w : World} {c' : ServerState} {as : List (Action Event)}
    (hw : Fresh w)
    (hrun : runs (server dep).step ⟨w, []⟩ as = some c') :
    ∀ o, o ∈ c'.world.db.orders.rows →
      o.status = some .paid ∨ o.paymentStatus = some .success →
      ∃ i, i ∈ c'.world.db.paymentIntents.rows ∧
        dep.sameText i.orderCode o.orderCode = true ∧
        ∃ d t, .env (.arrive (.sepayWebhook d)) ∈ as ∧
          (d, t) ∈ c'.world.history.handled ∧ Names dep d i ∧
          o.totalAmount.getD 0 ≤ d.transferAmount ∧ t ≤ i.expiredAt := by
  intro o ho hpaid
  let D : SePayHooksDto → Prop := fun d => .env (.arrive (.sepayWebhook d)) ∈ as
  have hmeets : Meets (server dep).step
      (System.Conforms (DeliversOnly D) (moneyLogic dep D).guard) ⟨w, []⟩ as := by
    refine Meets.of_forall_mem fun a ha c => ?_
    cases a with
    | env e =>
        rcases e with r | _ | _ | _
        · cases r with
          | sepayWebhook body =>
              exact ha
          | _ =>
              trivial
        all_goals trivial
    | run i j o =>
        simp only [System.Conforms, moneyLogic]
        split <;> trivial
  have hstart : Balanced (moneyLogic dep D) (server dep) ⟨w, []⟩ :=
    balanced_start (moneyInv_fresh hw)
  have hend : Balanced (moneyLogic dep D) (server dep) c' :=
    balanced_runs environment_money hstart hmeets hrun
  obtain ⟨_, _, hinv⟩ := hend
  change MoneyInv dep D c'.world at hinv
  have hfind : c'.world.db.orders.find o.id = some o := Table.find_of_mem ho
  obtain ⟨i, hi, hcode, d, t, hd, hnames, hamount, ht⟩ :=
    hinv.order o.id o hfind hpaid
  exact ⟨i, hi, by rw [hinv.orderCode _ _ hfind]; exact hcode, d, t,
    hinv.handled _ hd, hd, hnames, hamount, ht⟩

set_option maxRecDepth 4000 in
/-- The order of `placedThenPaid` is paid, and it is backed. -/
theorem paid_backed_placedThenPaid :
    ∃ c', runs (server sampleDeployment).step ⟨sampleWorld 5, []⟩ placedThenPaid =
        some c' ∧
      ∃ o, o ∈ c'.world.db.orders.rows ∧ o.status = some .paid ∧
        ∃ i, i ∈ c'.world.db.paymentIntents.rows ∧
          ∃ d t, .env (.arrive (.sepayWebhook d)) ∈ placedThenPaid ∧
            (d, t) ∈ c'.world.history.handled ∧ Names sampleDeployment d i ∧
            o.totalAmount.getD 0 ≤ d.transferAmount ∧ t ≤ i.expiredAt := by
  obtain ⟨c', hrun, hany⟩ := (Option.any_eq_true
    (fun c' : ServerState =>
      c'.world.db.orders.rows.any fun o => decide (o.status = some .paid)) _).mp
    (by decide +kernel : (runs (server sampleDeployment).step ⟨sampleWorld 5, []⟩
      placedThenPaid).any _ = true)
  obtain ⟨o, ho, hstatus⟩ := List.any_eq_true.mp hany
  have hstatus : o.status = some .paid := by simpa using hstatus
  obtain ⟨i, hi, -, hrest⟩ := paid_backed sampleDeployment (sampleWorld_fresh 5)
    hrun o ho (.inl hstatus)
  exact ⟨c', hrun, o, ho, hstatus, i, hi, hrest⟩

end BookStore
