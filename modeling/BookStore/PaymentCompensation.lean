import BookStore.Async.Outcomes
import BookStore.Inventory
import BookStore.WebhookOnce

/-!
# When the stock of a paid order cannot be deducted

The exact amount has arrived, the order, its transactions, the delivery and the intent have
been marked, and then a statement of `updateOrderDone` fails.  The `catch` block puts the
quantities back and the order status, whichever of the two statements has failed.

* `ends_failedPayment`: what is left of the payment, however the statements end.
* `deductStock_restores_iff`: when the stock is as before.
* `compensates_never`: the payment is never undone, since nothing unmarks the delivery, the
  intent and the transactions.
-/

namespace BookStore

open Async Program

/-- How the statements of `updateOrderDone` and of `updateOrderNotDone` end. -/
structure DeductionOutcomes where
  decrement : Outcome
  paid : Outcome
  increment : Outcome
  unpaid : Outcome

/-- All other statements of the webhook succeed. -/
def DeductionOutcomes.of (o : DeductionOutcomes) : Stmt → Outcome
  | .decrementVariantsStock _ _ _ => o.decrement
  | .incrementVariantsStock _ => o.increment
  | .updateOrderStatusById _ status => if status = .paid then o.paid else o.unpaid
  | _ => .ok

/-- A part of the webhook by itself. -/
abbrev WebhookEnds {α : Type} (dep : Deployment) (o : DeductionOutcomes) (p : Service α)
    (w w' : World) (x : Except Failure α) : Prop :=
  p.Ends (exec dep) .database o.of w w' x

/-- The transfer pays an order in time and in full. -/
structure PaysExactly (dep : Deployment) (body : SePayHooksDto) (w : World)
    (paymentIntent : PaymentIntent) (order : Order) : Prop where
  event : body.id ≠ 0
  content : orderCodeContent body ≠ ""
  named : w.db.paymentIntents.findFirst (fun i =>
    i.content.any fun c => dep.sameText c (orderCodeContent body)) = some paymentIntent
  placed : w.db.orders.findFirst (fun o => dep.sameText o.orderCode paymentIntent.orderCode) =
    some order
  inTime : w.now ≤ paymentIntent.expiredAt
  unpaid : paymentIntent.status ≠ some .success
  amount : body.transferAmount = order.totalAmount.getD 0

/-- The quantities of an order by variant, as the webhook reads them. -/
def World.variantMap (w : World) (order : Order) : List (Nat × Int) :=
  mapOf (w.db.itemQuantities order.id)

/-- A statement of `updateOrderDone` fails, or it throws before it sends any. -/
def DeductionFails (o : DeductionOutcomes) (variantMap : List (Nat × Int)) : Prop :=
  missingQuantity variantMap ≠ none ∨ variantMap ≠ [] ∧ o.decrement ≠ .ok ∨ o.paid ≠ .ok

/-- The state of a payment: orders, intents, variants and the status of the delivery. -/
structure SamePayment (body : SePayHooksDto) (w w' : World) : Prop where
  orders : w'.db.orders = w.db.orders
  intents : w'.db.paymentIntents = w.db.paymentIntents
  variants : w'.db.variants = w.db.variants
  inbox : (inboxRow body.id w').map WebhookInbox.status =
    (inboxRow body.id w).map WebhookInbox.status

/-- The payment is undone, and the same webhook completes it later. -/
structure Compensated (dep : Deployment) (body : SePayHooksDto) (paymentIntent : PaymentIntent)
    (order : Order) (w w' : World) : Prop where
  stock : ∀ v, w'.db.stock v = w.db.stock v ∧ w'.db.reserved v = w.db.reserved v
  intent : ∀ i, i ∈ w'.db.paymentIntents.rows →
    dep.sameText i.orderCode paymentIntent.orderCode = true → i.status ≠ some .success
  transactions : ∀ t, t ∈ w'.db.paymentTransactions.rows → t.orderId = some order.id →
    t.status ≠ some .success
  inbox : ∀ r, r ∈ w'.db.webhookInbox.rows → r.gateway = .sepay →
    r.idempotencyKey = body.id → r.status ≠ some .done
  redelivery : ∀ v x v' x', (handleSepayWebhook body).Yields (exec dep) .database w v x →
    (handleSepayWebhook body).Yields (exec dep) .database w' v' x' → SamePayment body v v'

/-- Whenever the webhook has thrown, the payment is undone. -/
def Compensates (dep : Deployment) (o : DeductionOutcomes) (body : SePayHooksDto)
    (paymentIntent : PaymentIntent) (order : Order) (w : World) : Prop :=
  ∀ w' e, WebhookEnds dep o (handleSepayWebhook body) w w' (.error e) →
    Compensated dep body paymentIntent order w w'

/-- What is left of a payment whose stock has not been deducted. -/
structure FailedPayment (dep : Deployment) (body : SePayHooksDto) (paymentIntent : PaymentIntent)
    (order : Order) (w' : World) : Prop where
  intent : ∃ i, i ∈ w'.db.paymentIntents.rows ∧
    dep.sameText i.orderCode paymentIntent.orderCode = true ∧ i.status = some .success
  transaction : ∃ t, t ∈ w'.db.paymentTransactions.rows ∧ t.orderId = some order.id ∧
    t.status = some .success
  inbox : ∃ r, r ∈ w'.db.webhookInbox.rows ∧ r.gateway = .sepay ∧
    r.idempotencyKey = body.id ∧ r.status = some .done

section Marking

variable {dep : Deployment} {o : DeductionOutcomes} {body : SePayHooksDto}
variable {paymentIntent : PaymentIntent} {order : Order} {w w' : World}
variable {webHookId attempts : Nat} {orderCode : String} {orderId : Nat} {key : Int}

/-- The rows that the webhook marks are there. -/
structure RowsPresent (dep : Deployment) (orderId webHookId : Nat) (orderCode : String)
    (key : Int) (w : World) : Prop where
  order : (w.db.orders.find orderId).isSome = true
  intent : ∃ i, i ∈ w.db.paymentIntents.rows ∧ dep.sameText i.orderCode orderCode = true
  transaction : ∃ t, t ∈ w.db.paymentTransactions.rows ∧ t.orderId = some orderId
  inbox : ∃ r, r ∈ w.db.webhookInbox.rows ∧ r.id = webHookId ∧ r.gateway = .sepay ∧
    r.idempotencyKey = key

def IntentsMarked (dep : Deployment) (orderCode : String) (w : World) : Prop :=
  ∀ i, i ∈ w.db.paymentIntents.rows → dep.sameText i.orderCode orderCode = true →
    i.status = some .success

def TransactionsMarked (orderId : Nat) (w : World) : Prop :=
  ∀ t, t ∈ w.db.paymentTransactions.rows → t.orderId = some orderId → t.status = some .success

def DeliveryMarked (webHookId : Nat) (w : World) : Prop :=
  ∀ r, r ∈ w.db.webhookInbox.rows → r.id = webHookId → r.status = some .done

/-- The rows are marked. -/
structure RowsMarked (dep : Deployment) (orderId webHookId : Nat) (orderCode : String)
    (w : World) : Prop where
  intents : IntentsMarked dep orderCode w
  transactions : TransactionsMarked orderId w
  delivery : DeliveryMarked webHookId w

theorem FailedPayment.of_marked
    (hpresent : RowsPresent dep order.id webHookId paymentIntent.orderCode body.id w)
    (hmarked : RowsMarked dep order.id webHookId paymentIntent.orderCode w) :
    FailedPayment dep body paymentIntent order w := by
  obtain ⟨-, ⟨i, hi, hcode⟩, ⟨t, ht, horder⟩, ⟨r, hr, hid, hgateway, hkey⟩⟩ := hpresent
  exact ⟨⟨i, hi, hcode, hmarked.intents i hi hcode⟩,
    ⟨t, ht, horder, hmarked.transactions t ht horder⟩,
    ⟨r, hr, hgateway, hkey, hmarked.delivery r hr hid⟩⟩

/-- The three statements that mark the payment. -/
abbrev markingStatements (orderId webHookId attempts : Nat) (orderCode : String) : List Stmt :=
  [.markOrderAndPaymentSuccess orderId,
    .updateWebhookStatus webHookId .done attempts,
    .markPaymentIntent orderCode .success]

/-- What marking the payment leaves alone. -/
structure MarkFrame (w w' : World) : Prop where
  variants : w'.db.variants = w.db.variants
  orderItems : w'.db.orderItems = w.db.orderItems
  snapshots : w'.db.snapshots = w.db.snapshots

theorem MarkFrame.refl (w : World) : MarkFrame w w :=
  ⟨rfl, rfl, rfl⟩

theorem MarkFrame.trans {u v : World} (h : MarkFrame u v) (h' : MarkFrame v w) :
    MarkFrame u w :=
  ⟨h'.variants.trans h.variants, h'.orderItems.trans h.orderItems,
    h'.snapshots.trans h.snapshots⟩

theorem MarkFrame.variantMap (h : MarkFrame w w') (order : Order) :
    w'.variantMap order = w.variantMap order := by
  unfold World.variantMap Database.itemQuantities Database.itemsOf Database.variantOfSnapshot
  rw [h.orderItems, h.snapshots]

/-- What one of the three statements does: it marks its rows and keeps the others'. -/
structure MarkStep (dep : Deployment) (orderId webHookId attempts : Nat) (orderCode : String)
    (key : Int) (s : Stmt) (w w' : World) : Prop where
  present : RowsPresent dep orderId webHookId orderCode key w'
  frame : MarkFrame w w'
  intents : IntentsMarked dep orderCode w ∨ s = .markPaymentIntent orderCode .success →
    IntentsMarked dep orderCode w'
  transactions : TransactionsMarked orderId w ∨ s = .markOrderAndPaymentSuccess orderId →
    TransactionsMarked orderId w'
  delivery : DeliveryMarked webHookId w ∨ s = .updateWebhookStatus webHookId .done attempts →
    DeliveryMarked webHookId w'

/-- With the rows present each of the three statements is carried out. -/
theorem exec_marking {s : Stmt}
    (hs : s ∈ markingStatements orderId webHookId attempts orderCode)
    (h : RowsPresent dep orderId webHookId orderCode key w) :
    ∃ v r, exec dep s w = .ok (v, r) ∧
      MarkStep dep orderId webHookId attempts orderCode key s w v := by
  obtain ⟨horder, hintent, htransaction, hinbox⟩ := h
  rcases List.mem_cons.mp hs with rfl | hs
  · obtain ⟨row, hrow⟩ := Option.isSome_iff_exists.mp horder
    simp only [exec, hrow]
    refine ⟨_, (), rfl, ⟨?_, hintent, Table.exists_updateWhere htransaction, hinbox⟩,
      ⟨rfl, rfl, rfl⟩, fun h => h.resolve_right Stmt.noConfusion, fun _ => ?_,
      fun h => h.resolve_right Stmt.noConfusion⟩
    · dsimp only [Table.update]
      rw [Table.find_updateWhere, Option.isSome_map]
      exact horder
    · exact Table.forall_updateWhere (fun t _ _ _ => rfl) fun t _ hp hid =>
        absurd hid (of_decide_eq_false hp)
  rcases List.mem_cons.mp hs with rfl | hs
  · obtain ⟨r, hr, hid, hrest⟩ := hinbox
    have hfind : w.db.webhookInbox.find webHookId = some r := hid ▸ Table.find_of_mem hr
    simp only [exec, hfind]
    refine ⟨_, (), rfl, ⟨horder, hintent, htransaction,
      Table.exists_updateWhere ⟨r, hr, hid, hrest⟩⟩, ⟨rfl, rfl, rfl⟩,
      fun h => h.resolve_right Stmt.noConfusion, fun h => h.resolve_right Stmt.noConfusion,
      fun _ => ?_⟩
    exact Table.forall_updateWhere (fun r _ _ _ => rfl) fun r _ hp hid =>
      absurd hid (of_decide_eq_false hp)
  · obtain rfl := List.mem_singleton.mp hs
    refine ⟨_, (), rfl, ⟨horder, Table.exists_updateWhere hintent, htransaction, hinbox⟩,
      ⟨rfl, rfl, rfl⟩, fun _ => ?_, fun h => h.resolve_right Stmt.noConfusion,
      fun h => h.resolve_right Stmt.noConfusion⟩
    refine Table.forall_updateWhere (fun i _ _ _ => rfl) fun i _ hp hcode => ?_
    cases hp.symm.trans hcode

theorem attempt_marking {s : Stmt}
    (hs : s ∈ markingStatements orderId webHookId attempts orderCode)
    (h : RowsPresent dep orderId webHookId orderCode key w) :
    ∃ v r, attempt (exec dep) .database s (o.of s) w = (v, .ok r) ∧
      MarkStep dep orderId webHookId attempts orderCode key s w v := by
  obtain ⟨v, r, hexec, hv⟩ := exec_marking hs h
  have ho : o.of s = .ok := by
    simp only [List.mem_cons, List.not_mem_nil, or_false] at hs
    rcases hs with rfl | rfl | rfl <;> rfl
  exact ⟨v, r, by simp only [ho, attempt, hexec], hv⟩

/-- Marking the payment does not fail, and it marks all of it. -/
theorem ends_marking {x : Except Failure Unit}
    (hpresent : RowsPresent dep orderId webHookId orderCode key w)
    (h : WebhookEnds dep o (promiseAll (markingStatements orderId webHookId attempts orderCode))
      w w' x) :
    x = .ok () ∧ RowsPresent dep orderId webHookId orderCode key w' ∧
      RowsMarked dep orderId webHookId orderCode w' ∧ MarkFrame w w' := by
  have hstep : ∀ s, s ∈ markingStatements orderId webHookId attempts orderCode → ∀ v,
      RowsPresent dep orderId webHookId orderCode key v →
      MarkStep dep orderId webHookId attempts orderCode key s v
        (attempt (exec dep) .database s (o.of s) v).1 := by
    intro s hs v hv
    obtain ⟨v', r, hattempt, hdone⟩ := attempt_marking (o := o) hs hv
    rwa [hattempt]
  have hx : x = .ok () := h.promiseAll_answered (fun s hs v hv => by
    obtain ⟨v', r, hattempt, hdone⟩ := attempt_marking hs hv
    exact ⟨v', r, hattempt, hdone.present⟩) hpresent
  obtain ⟨l, hl, rfl⟩ := h.promiseAll_perm
  have hlstep := fun s (hs : s ∈ l) => hstep s (hl.mem_iff.mp hs)
  have hinv := fun s hs v hv => (hlstep s hs v hv).present
  have hkept := sendAll_keeps (Q := fun v =>
    RowsPresent dep orderId webHookId orderCode key v ∧ MarkFrame w v)
    (fun s hs v hv => ⟨hinv s hs v hv.1, hv.2.trans (hlstep s hs v hv.1).frame⟩)
    ⟨hpresent, .refl w⟩
  refine ⟨hx, hkept.1, ⟨?_, ?_, ?_⟩, hkept.2⟩
  · have hmem : .markPaymentIntent orderCode .success ∈ l := hl.mem_iff.mpr (by simp)
    exact sendAll_establishes hmem hinv (fun v hv => (hlstep _ hmem v hv).intents (.inr rfl))
      (fun s hs v hv h => (hlstep s hs v hv).intents (.inl h)) hpresent
  · have hmem : .markOrderAndPaymentSuccess orderId ∈ l := hl.mem_iff.mpr (by simp)
    exact sendAll_establishes hmem hinv
      (fun v hv => (hlstep _ hmem v hv).transactions (.inr rfl))
      (fun s hs v hv h => (hlstep s hs v hv).transactions (.inl h)) hpresent
  · have hmem : .updateWebhookStatus webHookId .done attempts ∈ l := hl.mem_iff.mpr (by simp)
    exact sendAll_establishes hmem hinv (fun v hv => (hlstep _ hmem v hv).delivery (.inr rfl))
      (fun s hs v hv h => (hlstep s hs v hv).delivery (.inl h)) hpresent

end Marking

/-! ### The deduction -/

section Deduction

variable {dep : Deployment} {o : DeductionOutcomes} {w w' : World}
variable {variantMap : List (Nat × Int)} {orderId : Nat} {delivery : Int}

/-- A statement of `updateOrderDone` or of `updateOrderNotDone` -/
def DeductionStatement : Stmt → Prop
  | .decrementVariantsStock _ _ _ => True
  | .incrementVariantsStock _ => True
  | .updateOrderStatusById _ _ => True
  | _ => False

/-- What the deduction and its compensation leave alone. -/
structure DeductionFrame (w w' : World) : Prop where
  intents : w'.db.paymentIntents = w.db.paymentIntents
  transactions : w'.db.paymentTransactions = w.db.paymentTransactions
  inbox : w'.db.webhookInbox = w.db.webhookInbox

theorem DeductionFrame.refl (w : World) : DeductionFrame w w :=
  ⟨rfl, rfl, rfl⟩

theorem DeductionFrame.trans {u v : World} (h : DeductionFrame u v) (h' : DeductionFrame v w) :
    DeductionFrame u w :=
  ⟨h'.intents.trans h.intents, h'.transactions.trans h.transactions, h'.inbox.trans h.inbox⟩

theorem exec_deductionFrame {s : Stmt} {r : Response s}
    (hs : DeductionStatement s) (h : exec dep s w = .ok (w', r)) : DeductionFrame w w' := by
  cases s with
  | decrementVariantsStock variantMap delivery orderId =>
      cases h
      exact ⟨rfl, rfl, rfl⟩
  | incrementVariantsStock variantMap =>
      cases h
      exact ⟨rfl, rfl, rfl⟩
  | updateOrderStatusById orderId status =>
      rw [exec] at h
      split at h
      · cases h
      · cases h
        exact ⟨rfl, rfl, rfl⟩
  | _ =>
      cases hs

theorem deductStock_statements :
    (deductStock variantMap orderId delivery).All DeductionStatement := by
  have hpair : ∀ (s t : Stmt), DeductionStatement s → DeductionStatement t →
      ∀ u, u ∈ (if variantMap = [] then [] else [s]) ++ [t] → DeductionStatement u := by
    intro s t hs ht u hu
    rcases List.mem_append.mp hu with hu | hu
    · split_ifs at hu
      · cases hu
      · rwa [List.mem_singleton.mp hu]
    · rwa [List.mem_singleton.mp hu]
  refine All.tryCatch ?_ fun _ => All.bind ?_ fun _ => trivial
  · unfold updateOrderDone
    cases missingQuantity variantMap with
    | some err =>
        trivial
    | none =>
        exact All.promiseAll (hpair _ _ trivial trivial)
  · unfold updateOrderNotDone
    cases missingQuantity variantMap with
    | some err =>
        trivial
    | none =>
        exact All.promiseAll (hpair _ _ trivial trivial)

theorem deduction_frame {x : Except Failure Unit}
    (h : WebhookEnds dep o (deductStock variantMap orderId delivery) w w' x) :
    DeductionFrame w w' :=
  h.of_all DeductionFrame.refl (fun _ _ _ => DeductionFrame.trans)
    (deductStock_statements.mono fun _ hs _ =>
      attempt_of_exec DeductionFrame.refl (fun _ _ hexec => exec_deductionFrame hs hexec) _)

/-- A deduction that fails throws, whatever becomes of its compensation. -/
theorem ends_deductStock {x : Except Failure Unit}
    (hfails : DeductionFails o variantMap)
    (h : WebhookEnds dep o (deductStock variantMap orderId delivery) w w' x) :
    ∃ e, x = .error e := by
  rcases ends_tryCatch.mp h with ⟨a, hdone, rfl⟩ | ⟨v, e, -, hcatch⟩
  · exfalso
    unfold updateOrderDone at hdone
    cases hmissing : missingQuantity variantMap with
    | some err =>
        rw [hmissing] at hdone
        cases hdone.2
    | none =>
        rw [hmissing] at hdone
        have hok := hdone.promiseAll_ok
        rcases hfails with hne | ⟨hitems, hdecrement⟩ | hpaid
        · exact hne hmissing
        · exact hdecrement (hok (.decrementVariantsStock variantMap delivery orderId)
            (List.mem_append_left _ (by rw [if_neg hitems]; exact List.mem_singleton.mpr rfl)))
        · exact hpaid (hok (.updateOrderStatusById orderId .paid)
            (List.mem_append_right _ (List.mem_singleton.mpr rfl)))
  · rcases ends_bind.mp hcatch with ⟨u, a, -, hthrow⟩ | ⟨e', -, rfl⟩
    · exact ⟨_, hthrow.2⟩
    · exact ⟨e', rfl⟩

/-! What becomes of the stock -/

/-- A statement that writes variants, beside the one for the status. -/
theorem variants_promiseAll {s : Stmt} {g : Table BookVariant → Table BookVariant}
    {status : OrderStatus} {x : Except Failure Unit}
    (hs : ∀ w : World, (attempt (exec dep) .database s (o.of s) w).1.db.variants =
      g w.db.variants)
    (h : WebhookEnds dep o (promiseAll ([s] ++ [.updateOrderStatusById orderId status]))
      w w' x) :
    w'.db.variants = g w.db.variants := by
  obtain ⟨l, hl, rfl⟩ := h.promiseAll_perm
  refine sendAll_part (fun w : World => w.db.variants) hs (fun t ht w => ?_) hl
  rw [List.mem_singleton.mp ht]
  refine attempt_of_exec (P := fun w w' : World => w'.db.variants = w.db.variants) (fun _ => rfl)
    (fun w' r hexec => ?_) _
  rw [exec] at hexec
  split at hexec
  · cases hexec
  · cases hexec
    rfl

/-- Unless it fails, a statement that answers without a condition does what it does. -/
theorem attempt_variants {s : Stmt} {g : Table BookVariant → Table BookVariant}
    (hexec : ∀ w, ∃ v r, exec dep s w = .ok (v, r) ∧ v.db.variants = g w.db.variants)
    (outcome : Outcome) (w : World) :
    (attempt (exec dep) .database s outcome w).1.db.variants =
      if outcome = .fail then w.db.variants else g w.db.variants := by
  obtain ⟨v, r, hv, hvariants⟩ := hexec w
  split_ifs with ho
  · rw [ho]
    rfl
  · rw [attempt_fst ho hv, hvariants]

theorem variants_updateOrderDone {x : Except Failure Unit}
    (hmissing : missingQuantity variantMap = none) (hitems : variantMap ≠ [])
    (h : WebhookEnds dep o (updateOrderDone variantMap orderId delivery) w w' x) :
    w'.db.variants = if o.decrement = .fail then w.db.variants
      else decrementVariantsStock variantMap w.db.variants := by
  unfold updateOrderDone at h
  rw [hmissing] at h
  simp only [if_neg hitems] at h
  exact variants_promiseAll
    (g := fun t => if o.decrement = .fail then t else decrementVariantsStock variantMap t)
    (attempt_variants (g := decrementVariantsStock variantMap) (fun w => ⟨_, _, rfl, rfl⟩)
      o.decrement) h

theorem variants_updateOrderNotDone {x : Except Failure Unit}
    (hmissing : missingQuantity variantMap = none) (hitems : variantMap ≠ [])
    (h : WebhookEnds dep o (updateOrderNotDone variantMap orderId) w w' x) :
    w'.db.variants = if o.increment = .fail then w.db.variants
      else incrementVariantsStock variantMap w.db.variants := by
  unfold updateOrderNotDone at h
  rw [hmissing] at h
  simp only [if_neg hitems] at h
  exact variants_promiseAll
    (g := fun t => if o.increment = .fail then t else incrementVariantsStock variantMap t)
    (attempt_variants (g := incrementVariantsStock variantMap) (fun w => ⟨_, _, rfl, rfl⟩)
      o.increment) h

/-- The compensation restores the stock exactly if what it puts back had been deducted. -/
theorem deductStock_restores_iff {x : Except Failure Unit}
    (hmissing : missingQuantity variantMap = none) (hitems : variantMap ≠ [])
    (hfails : DeductionFails o variantMap)
    (hback : o.increment ≠ .fail)
    (h : WebhookEnds dep o (deductStock variantMap orderId delivery) w w' x) :
    (∀ v, w'.db.stock v = w.db.stock v ∧ w'.db.reserved v = w.db.reserved v) ↔
      o.decrement ≠ .fail ∨ ∀ v, w.db.hasVariant v = true → mapQuantity variantMap v = 0 := by
  obtain ⟨e, rfl⟩ := ends_deductStock hfails h
  obtain ⟨a, -, he⟩ | ⟨u, e', hdone, hcatch⟩ := ends_tryCatch.mp h
  · cases he
  have hu := variants_updateOrderDone hmissing hitems hdone
  have hw' : w'.db.variants = incrementVariantsStock variantMap u.db.variants := by
    rcases ends_bind.mp hcatch with ⟨v, a, hundone, hthrow⟩ | ⟨e'', hundone, -⟩
    · obtain ⟨rfl, -⟩ := hthrow
      rw [variants_updateOrderNotDone hmissing hitems hundone, if_neg hback]
    · rw [variants_updateOrderNotDone hmissing hitems hundone, if_neg hback]
  have hincrement := columns_shiftVariants u.db w'.db hw'
  by_cases hdecrement : o.decrement = .fail
  · rw [if_pos hdecrement] at hu
    have hcolumns : ∀ v, u.db.stock v = w.db.stock v ∧ u.db.reserved v = w.db.reserved v ∧
        u.db.hasVariant v = w.db.hasVariant v := fun v => by
      simp only [Database.stock, Database.reserved, Database.hasVariant, hu, and_self]
    constructor
    · refine fun hsame => .inr fun v hv => ?_
      have hstock := (hincrement v).1
      rw [(hsame v).1, (hcolumns v).1, (hcolumns v).2.2, if_pos hv] at hstock
      omega
    · intro hzero v
      have hnone : (if w.db.hasVariant v then 1 * mapQuantity variantMap v else 0) = 0 := by
        split_ifs with hv
        · rw [(hzero.resolve_left fun hne => hne hdecrement) v hv, mul_zero]
        · rfl
      rw [(hincrement v).1, (hincrement v).2, (hcolumns v).1, (hcolumns v).2.1,
        (hcolumns v).2.2, hnone]
      exact ⟨add_zero _, add_zero _⟩
  · rw [if_neg hdecrement] at hu
    have hcolumns := columns_shiftVariants w.db u.db hu
    refine iff_of_true (fun v => ?_) (.inl hdecrement)
    have hsame : u.db.hasVariant v = w.db.hasVariant v := by
      rw [Database.hasVariant, hu, decrementVariantsStock, shiftVariants,
        Table.find_updateWhere, Option.isSome_map, Database.hasVariant]
    rw [(hincrement v).1, (hincrement v).2, hsame, (hcolumns v).1, (hcolumns v).2]
    split_ifs
    · omega
    · omega

end Deduction

/-! ### The webhook -/

section Webhook

variable {dep : Deployment} {o : DeductionOutcomes} {body : SePayHooksDto}
variable {paymentIntent : PaymentIntent} {order : Order} {w w' : World}
variable {webHookId attempts : Nat}

theorem ends_markDone {x : Except Failure Unit}
    (hpresent : RowsPresent dep order.id webHookId paymentIntent.orderCode body.id w)
    (hfails : DeductionFails o (w.variantMap order))
    (h : WebhookEnds dep o (handleSepayWebhookMarkDone order.id webHookId attempts
      paymentIntent.orderCode body.id) w w' x) :
    (∃ e, x = .error e) ∧ FailedPayment dep body paymentIntent order w' := by
  rcases ends_bind.mp h with ⟨v, a, hmark, hrest⟩ | ⟨e, hmark, -⟩
  · obtain ⟨-, hpresent, hmarked, hframe⟩ := ends_marking hpresent hmark
    have hfound : exec dep (.findOrderItems order.id) v =
        .ok (v, some (v.db.itemQuantities order.id)) := by
      obtain ⟨row, hrow⟩ := Option.isSome_iff_exists.mp hpresent.order
      simp only [exec, hrow, Option.map_some]
    have hdeduct := (ends_bind_await_of_done rfl hfound).mp hrest
    rw [← hframe.variantMap order] at hfails
    have hkept := deduction_frame hdeduct
    obtain ⟨hintent, htransaction, hinbox⟩ := FailedPayment.of_marked hpresent hmarked
    exact ⟨ends_deductStock hfails hdeduct, hkept.intents ▸ hintent,
      hkept.transactions ▸ htransaction, hkept.inbox ▸ hinbox⟩
  · cases (ends_marking hpresent hmark).1

/-- The delivery is in the inbox, and it is pending. -/
structure Saved (body : SePayHooksDto) (row : WebhookInbox) (w w' : World) : Prop where
  pending : row.status = some .pending
  inbox : ∃ r, r ∈ w'.db.webhookInbox.rows ∧ r.id = row.id ∧ r.gateway = .sepay ∧
    r.idempotencyKey = body.id
  db : ∃ inbox, w'.db = { w.db with webhookInbox := inbox }
  now : w'.now = w.now

variable (dep body w) in
theorem exec_saved :
    ∃ v row, exec dep (.saveSepayWebhook body.id body) w = .ok (v, row) ∧
      Saved body row w v := by
  cases hfound : w.db.webhookInbox.findFirst fun r =>
      decide (r.gateway = .sepay) && decide (r.idempotencyKey = body.id) with
  | none =>
      simp only [exec, hfound]
      exact ⟨_, _, rfl, rfl,
        ⟨_, List.mem_append_right _ (List.mem_singleton.mpr rfl), rfl, rfl, rfl⟩,
        ⟨_, rfl⟩, rfl⟩
  | some r =>
      obtain ⟨hr, hkey⟩ := Table.findFirst_eq_some hfound
      simp only [Bool.and_eq_true, decide_eq_true_eq] at hkey
      simp only [exec, hfound]
      exact ⟨_, _, rfl, rfl, Table.exists_updateWhere ⟨r, hr, rfl, hkey.1, hkey.2⟩,
        ⟨_, rfl⟩, rfl⟩

/-- A payment whose deduction fails throws, and all but its stock stays marked. -/
theorem ends_failedPayment {x : Except Failure Answer}
    (hpays : PaysExactly dep body w paymentIntent order)
    (hfails : DeductionFails o (w.variantMap order))
    (h : WebhookEnds dep o (handleSepayWebhook body) w w' x) :
    (∃ e, x = .error e) ∧ FailedPayment dep body paymentIntent order w' := by
  rw [handleSepayWebhook_eq, if_neg hpays.event] at h
  obtain ⟨v, row, hsaved, hv⟩ := exec_saved dep body w
  replace h := (ends_bind_await_of_done rfl hsaved).mp h
  have hpending : ¬ row.status = some .done := by rw [hv.pending]; decide
  unfold handleSaved at h
  dsimp only at h
  rw [if_neg hpending, if_neg hpays.content] at h
  -- the intent and its order are found, and the window is open
  obtain ⟨inbox, hdb⟩ := hv.db
  have hfound : exec dep (.findByContent (orderCodeContent body)) v =
      .ok (v, some (paymentIntent, some order)) := by
    simp only [exec, hdb, hpays.named, hpays.placed, Option.map_some]
  replace h := (ends_bind_await_of_done rfl hfound).mp h
  have hnow : exec dep (.newDate body) v =
      .ok ({ v with history.handled := v.history.handled ++ [(body, v.now)] }, v.now) := rfl
  replace h := (ends_bind_await_of_done rfl hnow).mp h
  have htime : ¬ paymentIntent.expiredAt < v.now := by
    rw [hv.now]
    exact not_lt.mpr hpays.inTime
  simp only [if_neg htime, if_neg hpays.unpaid, if_neg (not_not.mpr hpays.amount)] at h
  -- the transaction is created
  obtain ⟨horder, hcode⟩ := Table.findFirst_eq_some hpays.placed
  obtain ⟨hintent, -⟩ := Table.findFirst_eq_some hpays.named
  have hrow : v.db.orders.find order.id = some order := by
    rw [hdb]
    exact Table.find_of_mem horder
  have hexact : ∃ u t, exec dep (.createWebhookSepayTransaction body.transferAmount
      (some (order.id, order.userId)) .success body.id)
        { v with history.handled := v.history.handled ++ [(body, v.now)] } = .ok (u, t) ∧
      (∃ t, t ∈ u.db.paymentTransactions.rows ∧ t.orderId = some order.id) ∧
      ∃ transactions, u.db = { v.db with paymentTransactions := transactions } := by
    simp only [exec, Option.all_some, hrow]
    exact ⟨_, _, rfl, ⟨_, List.mem_append_right _ (List.mem_singleton.mpr rfl), rfl⟩, _, rfl⟩
  obtain ⟨u, t, hcreated, htransaction, transactions, hu⟩ := hexact
  replace h := (ends_bind_await_of_done rfl hcreated).mp h
  have hpresent : RowsPresent dep order.id row.id paymentIntent.orderCode body.id u := by
    refine ⟨?_, ?_, htransaction, ?_⟩
    · rw [hu]
      dsimp only
      rw [hrow, Option.isSome_some]
    · rw [hu, hdb]
      exact ⟨paymentIntent, hintent, decide_eq_true rfl⟩
    · rw [hu]
      exact hv.inbox
  have hmap : u.variantMap order = w.variantMap order := by
    rw [World.variantMap, hu, hdb]
    rfl
  rcases ends_bind.mp h with ⟨v', a, hdone, hret⟩ | ⟨e, hdone, rfl⟩
  · obtain ⟨⟨e, he⟩, -⟩ := ends_markDone hpresent (hmap.symm ▸ hfails) hdone
    cases he
  · exact ⟨⟨e, rfl⟩, (ends_markDone hpresent (hmap.symm ▸ hfails) hdone).2⟩

theorem live_savePaymentTransaction {status : PaymentStatus} {order : Option Order} :
    (savePaymentTransaction body status order).Live :=
  Live.await _

theorem live_deductStock {variantMap : List (Nat × Int)} {orderId : Nat} {delivery : Int} :
    (deductStock variantMap orderId delivery).Live := by
  refine Live.tryCatch ?_ fun _ => Live.bind ?_ fun _ => trivial
  · unfold updateOrderDone
    cases missingQuantity variantMap with
    | some err =>
        trivial
    | none =>
        exact Live.promiseAll _
  · unfold updateOrderNotDone
    cases missingQuantity variantMap with
    | some err =>
        trivial
    | none =>
        exact Live.promiseAll _

theorem live_handleAlreadyProcessed {content orderCode : String} {key : Int} :
    (handleAlreadyProcessedPaymentIntent content orderCode webHookId attempts key).Live :=
  Live.bind (Live.promiseAll _) fun _ => trivial

theorem live_handleMismatch {content : String} :
    (handleMismatch body webHookId attempts content paymentIntent order).Live := by
  unfold handleMismatch
  dsimp only
  generalize (if body.transferAmount < order.totalAmount.getD 0 then
    PaymentStatus.paymentShortfall else PaymentStatus.paymentOverage) = status
  refine live_savePaymentTransaction.bind fun _ => (Live.await _).bind fun _ =>
    (Live.await _).bind fun _ => ?_
  split_ifs
  · exact live_handleAlreadyProcessed
  · trivial

theorem live_handlePayment {content : String} :
    (handlePayment body webHookId attempts content paymentIntent order).Live := by
  refine (Live.await _).bind fun now => ?_
  split_ifs
  · exact live_savePaymentTransaction.bind fun _ =>
      Live.bind (Live.promiseAll _) fun _ => trivial
  · exact live_savePaymentTransaction.bind fun _ => live_handleAlreadyProcessed
  · exact live_handleMismatch
  · exact live_savePaymentTransaction.bind fun _ => Live.bind (Live.bind (Live.promiseAll _)
      fun _ => (Live.await _).bind fun _ => live_deductStock) fun _ => trivial

theorem live_handleSepayWebhook : (handleSepayWebhook body).Live := by
  rw [handleSepayWebhook_eq]
  split_ifs
  · trivial
  refine (Live.await _).bind fun row => ?_
  unfold handleSaved
  split_ifs
  · trivial
  · exact live_savePaymentTransaction.bind fun _ => (Live.await _).bind fun _ => trivial
  · refine (Live.await _).bind fun found => ?_
    rcases found with _ | ⟨paymentIntent, _ | order⟩
    · exact live_savePaymentTransaction.bind fun _ => (Live.await _).bind fun _ => trivial
    · exact live_savePaymentTransaction.bind fun _ => (Live.await _).bind fun _ => trivial
    · exact live_handlePayment

/--
**Payment completion is compensated.** It never is: whichever statements of
`updateOrderDone` fail, and whatever becomes of the compensation, the webhook throws and the
delivery, the intent and the transactions stay marked.
-/
theorem compensates_never
    (hpays : PaysExactly dep body w paymentIntent order)
    (hfails : DeductionFails o (w.variantMap order)) :
    ¬ Compensates dep o body paymentIntent order w := by
  intro h
  obtain ⟨w', x, hends⟩ : ∃ w' x, WebhookEnds dep o (handleSepayWebhook body) w w' x :=
    exists_ends live_handleSepayWebhook w
  obtain ⟨⟨e, rfl⟩, hleft⟩ := ends_failedPayment hpays hfails hends
  obtain ⟨r, hr, hgateway, hkey, hdone⟩ := hleft.inbox
  exact (h w' e hends).inbox r hr hgateway hkey hdone

end Webhook

/-! ### A sample -/

/-- The order of `placedThenPaid` before it is paid. -/
def unpaidOrder : World :=
  match runs (server sampleDeployment).step ⟨sampleWorld 10, []⟩
      (.env (.arrive (sampleGuest .sepay 1)) :: steps 0 6 ++
        .env (.startJob 0) :: steps 1 4) with
  | some c => c.world
  | none => sampleWorld 10

def unpaidIntent : PaymentIntent where
  id := 1
  orderCode := "VLR0"
  content := some "VLR0"
  gateway := .sepay
  status := some .pending
  tokenUrl := "VLR0"
  paymentUrl := some ⟨"MB", "0123456789", "compact", 120000, "VLR0"⟩
  expiredAt := 3600000

def unpaidRow : Order where
  id := 1
  orderCode := "VLR0"
  userId := none
  guestSessionId := some "guest"
  addressId := none
  status := some .pendingPayment
  paymentStatus := some .pending
  subtotal := some 100000
  shippingFee := some 20000
  totalAmount := some 120000
  note := none
  expiredAt := 6000000
  requested := [(1, 1)]

theorem exactTransfer_nonneg : (0 : ℚ) ≤ 120000 := by
  norm_num

/-- The transfer that pays it. -/
def exactTransfer : SePayHooksDto where
  id := 7
  content := some "VLR0"
  transferType := "in"
  transferAmount := 120000
  transferAmount_nonneg := exactTransfer_nonneg

/-- The stock is deducted, but the status is refused. -/
def statusRefused : DeductionOutcomes where
  decrement := .ok
  paid := .fail
  increment := .ok
  unpaid := .ok

theorem exactTransfer_pays :
    PaysExactly sampleDeployment exactTransfer unpaidOrder unpaidIntent unpaidRow where
  event := by decide
  content := by decide +kernel
  named := by decide +kernel
  placed := by decide +kernel
  inTime := by decide +kernel
  unpaid := by decide
  amount := rfl

theorem compensates_never_unpaidOrder :
    ¬ Compensates sampleDeployment statusRefused exactTransfer unpaidIntent unpaidRow
      unpaidOrder :=
  compensates_never exactTransfer_pays (.inr (.inr Outcome.noConfusion))

/-- The order is unpaid again, and its delivery, intent and transaction say it is paid. -/
theorem delivery_stays_done :
    ¬ ∀ (dep : Deployment) (o : DeductionOutcomes) (body : SePayHooksDto)
      (paymentIntent : PaymentIntent) (order : Order) (w : World),
      PaysExactly dep body w paymentIntent order → DeductionFails o (w.variantMap order) →
      Compensates dep o body paymentIntent order w := by
  intro h
  have hfails : DeductionFails statusRefused (unpaidOrder.variantMap unpaidRow) :=
    .inr (.inr Outcome.noConfusion)
  obtain ⟨w', x, hends⟩ : ∃ w' x, WebhookEnds sampleDeployment statusRefused
      (handleSepayWebhook exactTransfer) unpaidOrder w' x :=
    exists_ends live_handleSepayWebhook unpaidOrder
  obtain ⟨⟨e, rfl⟩, hleft⟩ := ends_failedPayment exactTransfer_pays hfails hends
  obtain ⟨i, hi, hcode, hsuccess⟩ := hleft.intent
  exact (h sampleDeployment statusRefused exactTransfer unpaidIntent unpaidRow unpaidOrder
    exactTransfer_pays hfails w' e hends).intent i hi hcode hsuccess

end BookStore
