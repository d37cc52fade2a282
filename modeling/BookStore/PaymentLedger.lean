import BookStore.PaidBacked
import Mathlib.Algebra.Order.BigOperators.Group.List

/-!
# The payment ledger

Each transfer to an order has a row in `payment_transactions`.  A row that is
written as a shortfall, an overpayment or an expired payment should keep saying
so, a successful intent should not expire, and the rows that count towards a
`PAID` order should cover its total.

* `KeepsLedger` is what a step should respect, `LedgerGuard` what a statement has
  to find for it; `attempt_keepsLedger` is the equivalence of the two.
* `LedgerInv` is the invariant of the runs that meet the guard.
* `payment_ledger` is the result.
-/

namespace BookStore

open Async Program Logic

variable (dep : Deployment)

/-- A transfer that did not settle its order. -/
def Unsettled (t : PaymentTransaction) : Prop :=
  t.status = some .paymentShortfall ∨ t.status = some .paymentOverage ∨
    t.status = some .expired

instance : DecidablePred Unsettled := fun t => by
  unfold Unsettled; infer_instance

/-- The row counts towards its order. -/
def Counts (t : PaymentTransaction) : Prop :=
  t.status = some .success ∨ t.status = some .paymentOverage

instance : DecidablePred Counts := fun t => by
  unfold Counts; infer_instance

/-- The sum of the rows that count towards order `k`. -/
def paidAmount (db : Database) (k : Nat) : ℚ :=
  ((db.paymentTransactions.filter fun t =>
    decide (t.orderId = some k) && decide (Counts t)).map
      PaymentTransaction.amount).sum

/-- Between two states no unsettled row becomes `SUCCESS` and no paid intent expires. -/
structure KeepsLedger (w w' : World) : Prop where
  unsettled : ∀ k t t', w.db.paymentTransactions.find k = some t →
    w'.db.paymentTransactions.find k = some t' → Unsettled t →
    t'.status ≠ some .success
  intent : ∀ k i i', w.db.paymentIntents.find k = some i →
    w'.db.paymentIntents.find k = some i' → i.status = some .success →
    i'.status ≠ some .expired

/-- The ledger of a state, and what has become of an earlier one. -/
structure LedgerIntegrity (w w' : World) : Prop extends KeepsLedger w w' where
  /-- A shortfall is not counted later. -/
  shortfall : ∀ k t t', w.db.paymentTransactions.find k = some t →
    w'.db.paymentTransactions.find k = some t' →
    t.status = some .paymentShortfall → ¬ Counts t'
  paid : ∀ o, o ∈ w'.db.orders.rows → o.status = some .paid →
    o.totalAmount.getD 0 ≤ paidAmount w'.db o.id

/-- The rows of order `k` are settled. -/
def FindsSettled (w : World) (k : Nat) : Prop :=
  (w.db.orders.find k).isSome → ∀ t, t ∈ w.db.paymentTransactions.rows →
    t.orderId = some k → ¬ Unsettled t

/-- No intent of `code` is successful. -/
def FindsUnpaid (w : World) (code : String) : Prop :=
  ∀ i, i ∈ w.db.paymentIntents.rows → dep.sameText i.orderCode code = true →
    i.status ≠ some .success

/--
The bulk update of an order's rows finds no unsettled row, and an intent that is
marked as expired is not successful.
-/
def LedgerGuard (w : World) (s : Stmt) (o : Outcome) : Prop :=
  o = .fail ∨
    match s with
    | .markOrderAndPaymentSuccess k => FindsSettled w k
    | .markPaymentIntent code status => status = .expired → FindsUnpaid dep w code
    -- the webhook marks shortfalls and overpayments only
    | .markPaymentNotSuccess paymentId status => status = .success →
        ∀ t, t ∈ w.db.paymentTransactions.rows → t.id = paymentId → ¬ Unsettled t
    | _ => True

instance (w : World) (k : Nat) : Decidable (FindsSettled w k) := by
  unfold FindsSettled; infer_instance

instance (w : World) (code : String) : Decidable (FindsUnpaid dep w code) := by
  unfold FindsUnpaid; infer_instance

instance (w : World) (s : Stmt) (o : Outcome) : Decidable (LedgerGuard dep w s o) := by
  apply Stmt.casesOn (motive := fun s => Decidable (LedgerGuard dep w s o)) s <;>
    intros <;> unfold LedgerGuard <;> infer_instance

/-! ### One statement -/

variable {dep}

theorem KeepsLedger.of_eq
    {w w' : World}
    (htransactions : w'.db.paymentTransactions = w.db.paymentTransactions)
    (hintents : w'.db.paymentIntents = w.db.paymentIntents) :
    KeepsLedger w w' where
  unsettled := by
    intro k t t' ht ht' hunsettled
    rw [htransactions, ht, Option.some.injEq] at ht'
    rw [← ht']
    rcases hunsettled with h | h | h <;> simp [h]
  intent := by
    intro k i i' hi hi' hsuccess
    rw [hintents, hi, Option.some.injEq] at hi'
    simp [← hi', hsuccess]

/-- A row of the ledger is an old one, perhaps with a new status, or it is new. -/
theorem exec_transaction_origin
    {s : Stmt} {w w' : World} {r : Response s} {k : Nat} {t' : PaymentTransaction}
    (h : exec dep s w = .ok (w', r))
    (ht' : w'.db.paymentTransactions.find k = some t') :
    (∃ t, w.db.paymentTransactions.find k = some t ∧
      (t' = t ∨
        (∃ j, s = .markOrderAndPaymentSuccess j ∧ (w.db.orders.find j).isSome ∧
          t.orderId = some j ∧ t' = { t with status := some .success }) ∨
        ∃ status, s = .markPaymentNotSuccess k status ∧
          t' = { t with status := some status })) ∨
      k = w.db.paymentTransactions.next ∧ ∃ amount order status delivery,
        s = .createWebhookSepayTransaction amount order status delivery ∧
        t' = newTransaction amount order status delivery k := by
  rw [(exec_effects dep h).paymentTransactions] at ht'
  cases s with
  | deleteOrder j =>
      exact .inl ⟨t', (Table.find_deleteWhere_old ht').1, .inl rfl⟩
  | createWebhookSepayTransaction amount order status delivery =>
      rw [paymentTransactionsAfter, Table.find_insert] at ht'
      split_ifs at ht' with hk
      · rw [← Option.some.inj ht', hk]
        exact .inr ⟨rfl, amount, order, status, delivery, rfl, rfl⟩
      · exact .inl ⟨t', ht', .inl rfl⟩
  | markPaymentNotSuccess j status =>
      rw [paymentTransactionsAfter, Table.find_update] at ht'
      split_ifs at ht' with hk
      · subst hk
        obtain ⟨t, ht, rfl⟩ := Option.map_eq_some_iff.mp ht'
        exact .inl ⟨t, ht, .inr (.inr ⟨status, rfl, rfl⟩)⟩
      · exact .inl ⟨t', ht', .inl rfl⟩
  | markOrderAndPaymentSuccess j =>
      rw [paymentTransactionsAfter, Table.find_updateWhere] at ht'
      obtain ⟨t, ht, rfl⟩ := Option.map_eq_some_iff.mp ht'
      refine .inl ⟨t, ht, ?_⟩
      split_ifs with hj
      · have hsome : (w.db.orders.find j).isSome := by
          simp only [exec] at h
          split at h
          · cases h
          · simp [*]
        exact .inr (.inl ⟨j, rfl, hsome, of_decide_eq_true hj, rfl⟩)
      · exact .inl rfl
  | _ =>
      exact .inl ⟨t', ht', .inl rfl⟩

/-- An intent is an old one, perhaps with a new status, or it is new. -/
theorem exec_intent_status
    {s : Stmt} {w w' : World} {r : Response s} {k : Nat} {i' : PaymentIntent}
    (h : exec dep s w = .ok (w', r))
    (hi' : w'.db.paymentIntents.find k = some i') :
    (∃ i, w.db.paymentIntents.find k = some i ∧
      (i' = i ∨ ∃ code status, s = .markPaymentIntent code status ∧
        dep.sameText i.orderCode code = true ∧
        i' = { i with status := some status })) ∨
      k = w.db.paymentIntents.next := by
  rw [(exec_effects dep h).paymentIntents] at hi'
  cases s with
  | createPaymentIntent orderCode content tokenUrl paymentUrl =>
      rw [paymentIntentsAfter, Table.find_insert] at hi'
      split_ifs at hi' with hk
      · exact .inr hk
      · exact .inl ⟨i', hi', .inl rfl⟩
  | deleteOrder j =>
      exact .inl ⟨i', (Table.find_deleteWhere_old hi').1, .inl rfl⟩
  | markPaymentIntent code status =>
      rw [paymentIntentsAfter, Table.find_updateWhere] at hi'
      obtain ⟨i, hi, rfl⟩ := Option.map_eq_some_iff.mp hi'
      refine .inl ⟨i, hi, ?_⟩
      split_ifs with hcode
      · exact .inr ⟨code, status, rfl, hcode, rfl⟩
      · exact .inl rfl
  | _ =>
      exact .inl ⟨i', hi', .inl rfl⟩

/-- Two states of one row whose second is `SUCCESS`. -/
theorem KeepsLedger.settled
    {w w' : World} {t t' : PaymentTransaction}
    (h : KeepsLedger w w')
    (ht : t ∈ w.db.paymentTransactions.rows)
    (ht' : w'.db.paymentTransactions.find t.id = some t')
    (hsuccess : t'.status = some .success) :
    ¬ Unsettled t :=
  fun hunsettled => h.unsettled t.id t t' (Table.find_of_mem ht) ht' hunsettled hsuccess

/-- A statement that meets the guard keeps the ledger. -/
theorem KeepsLedger.of_guard
    {s : Stmt} {w w' : World} {r : Response s} {o : Outcome}
    (ho : o ≠ .fail)
    (hguard : LedgerGuard dep w s o)
    (h : exec dep s w = .ok (w', r)) :
    KeepsLedger w w' := by
  simp only [LedgerGuard, ho, false_or] at hguard
  constructor
  · intro k t t' ht ht' hunsettled hsuccess
    rcases exec_transaction_origin h ht' with ⟨t₀, ht₀, hcases⟩ | ⟨rfl, -⟩
    · obtain rfl := Option.some.inj (ht.symm.trans ht₀)
      rcases hcases with rfl | ⟨j, rfl, hsome, hj, -⟩ | ⟨status, rfl, rfl⟩
      · rcases hunsettled with h | h | h <;> simp [h] at hsuccess
      · exact hguard hsome t (Table.find_mem ht) hj hunsettled
      · exact hguard (Option.some.inj hsuccess) t (Table.find_mem ht)
          (Table.find_key ht) hunsettled
    · exact absurd (Table.find_lt ht) (lt_irrefl _)
  · intro k i i' hi hi' hsuccess hexpired
    rcases exec_intent_status h hi' with ⟨i₀, hi₀, hcases⟩ | rfl
    · obtain rfl := Option.some.inj (hi.symm.trans hi₀)
      rcases hcases with rfl | ⟨code, status, rfl, hcode, rfl⟩
      · simp [hsuccess] at hexpired
      · exact hguard (Option.some.inj hexpired) i (Table.find_mem hi) hcode hsuccess
    · exact absurd (Table.find_lt hi) (lt_irrefl _)

/-- A statement that takes effect keeps the ledger iff it meets the guard. -/
theorem exec_keepsLedger
    {s : Stmt} {w w' : World} {r : Response s} {o : Outcome}
    (ho : o ≠ .fail)
    (h : exec dep s w = .ok (w', r)) :
    KeepsLedger w w' ↔ LedgerGuard dep w s o := by
  refine ⟨fun hkeeps => ?_, fun hguard => .of_guard ho hguard h⟩
  simp only [LedgerGuard, ho, false_or]
  have htransactions := (exec_effects dep h).paymentTransactions
  cases s with
  | markOrderAndPaymentSuccess k =>
      intro _ t ht hk
      have hfind : w.db.paymentTransactions.find t.id = some t := Table.find_of_mem ht
      have ht' : w'.db.paymentTransactions.find t.id =
          some { t with status := some .success } := by
        rw [htransactions, paymentTransactionsAfter, Table.find_updateWhere, hfind,
          Option.map_some, if_pos (decide_eq_true hk)]
      exact hkeeps.settled ht ht' rfl
  | markPaymentIntent code status =>
      rintro rfl i hi hcode hsuccess
      have hfind : w.db.paymentIntents.find i.id = some i := Table.find_of_mem hi
      refine hkeeps.intent i.id i { i with status := some .expired } hfind ?_ hsuccess rfl
      rw [(exec_effects dep h).paymentIntents, paymentIntentsAfter,
        Table.find_updateWhere, hfind, Option.map_some, if_pos hcode]
  | markPaymentNotSuccess k status =>
      rintro rfl t ht rfl
      have hfind : w.db.paymentTransactions.find t.id = some t := Table.find_of_mem ht
      have ht' : w'.db.paymentTransactions.find t.id =
          some { t with status := some .success } := by
        rw [htransactions, paymentTransactionsAfter, Table.find_update, if_pos rfl, hfind,
          Option.map_some]
      exact hkeeps.settled ht ht' rfl
  | _ =>
      trivial

/-- A statement that is refused has found no order and no row. -/
theorem ledgerGuard_of_error
    {s : Stmt} {w : World} {e : Failure} {o : Outcome}
    (h : exec dep s w = .error e) :
    LedgerGuard dep w s o := by
  refine .inr ?_
  cases s with
  | markOrderAndPaymentSuccess k =>
      simp only [exec] at h
      split at h
      · rename_i hnone
        intro hsome
        rw [hnone] at hsome
        cases hsome
      · cases h
  | markPaymentIntent code status =>
      cases h
  | markPaymentNotSuccess k status =>
      simp only [exec] at h
      split at h
      · rename_i hnone
        rintro - t ht rfl
        have hfind : w.db.paymentTransactions.find t.id = some t := Table.find_of_mem ht
        rw [hnone] at hfind
        cases hfind
      · cases h
  | _ =>
      trivial

theorem attempt_keepsLedger (s : Stmt) (o : Outcome) (w : World) :
    KeepsLedger w (attempt (exec dep) .database s o w).1 ↔ LedgerGuard dep w s o :=
  attempt_iff (G := LedgerGuard dep) (fun _ => .of_eq rfl rfl)
    (fun _ _ => .inl rfl)
    (fun _ _ _ _ h => ledgerGuard_of_error h)
    (fun _ _ _ _ _ ho h => exec_keepsLedger ho h) s o w

/-! ### The invariant -/

variable (dep)

/-- A row that counts towards order `k` covers `amount`. -/
def Covered (w : World) (k : Nat) (amount : ℚ) : Prop :=
  ∃ t, t ∈ w.db.paymentTransactions.rows ∧ t.orderId = some k ∧ Counts t ∧
    amount ≤ t.amount

/-- Order `k`, if it is there, is covered. -/
def CoveredOrder (w : World) (k : Nat) : Prop :=
  ∀ o, w.db.orders.find k = some o → Covered w k (o.totalAmount.getD 0)

/-- Paid orders and successful intents are covered. -/
structure LedgerInv (w : World) : Prop where
  orderCode : ∀ k o, w.db.orders.find k = some o → o.orderCode = dep.orderCodes k
  intentCode : ∀ i, i ∈ w.db.paymentIntents.rows →
    ∃ k, k < w.db.orders.next ∧ dep.sameText i.orderCode (dep.orderCodes k) = true
  status : ∀ t, t ∈ w.db.paymentTransactions.rows → t.orderId.isSome →
    t.status = some .success ∨ Unsettled t
  amount : ∀ t, t ∈ w.db.paymentTransactions.rows → 0 ≤ t.amount
  order : ∀ k o, w.db.orders.find k = some o → o.status = some .paid →
    Covered w k (o.totalAmount.getD 0)
  intent : ∀ i, i ∈ w.db.paymentIntents.rows → i.status = some .success →
    ∀ k, dep.sameText i.orderCode (dep.orderCodes k) = true → CoveredOrder w k

/-- What no step changes: the rows of an order, as long as it is there. -/
structure LedgerRely (w w' : World) : Prop where
  orders : OrdersPersist w w'
  next_le : w.db.paymentTransactions.next ≤ w'.db.paymentTransactions.next
  unchanged : ∀ k t', k < w.db.paymentTransactions.next →
    w'.db.paymentTransactions.find k = some t' → w.db.paymentTransactions.find k = some t'
  survive : ∀ k t j, w.db.paymentTransactions.find k = some t → t.orderId = some j →
    j < w.db.orders.next → (w'.db.orders.find j).isSome →
    w'.db.paymentTransactions.find k = some t
  intents_next_le : w.db.paymentIntents.next ≤ w'.db.paymentIntents.next
  intent : ∀ k i', k < w.db.paymentIntents.next →
    w'.db.paymentIntents.find k = some i' →
    ∃ i, w.db.paymentIntents.find k = some i ∧
      (i.status = some .success → i'.status = some .success)

/-- What a statement needs to find. -/
def LedgerNeeds (w : World) : Stmt → Prop
  | .markOrderAndPaymentSuccess k => CoveredOrder w k
  | .updateOrderStatusById k status => status = .paid → CoveredOrder w k
  | .updateOrderStatus _ status _ => status ≠ .paid
  | .markPaymentIntent code status =>
      (status = .success ∨ status = .expired) ∧ (status = .success →
        ∀ k, dep.sameText code (dep.orderCodes k) = true → CoveredOrder w k)
  | .createWebhookSepayTransaction amount order status delivery =>
      0 ≤ amount ∧ (order.isSome → status = .success ∨
        Unsettled (newTransaction amount order status delivery 0))
  | .markPaymentNotSuccess paymentId status =>
      ∀ t, w.db.paymentTransactions.find paymentId = some t → t.status = some status
  | _ => True

variable {dep}

/-- A state without changes in the ledger. -/
theorem LedgerRely.of_eq
    {w w' : World}
    (h : w'.db = w.db) :
    LedgerRely w w' where
  orders := .of_eq (by rw [h])
  next_le := by rw [h]
  unchanged := fun _ _ _ ht' => by rwa [h] at ht'
  survive := fun _ _ _ ht _ _ _ => by rwa [h]
  intents_next_le := by rw [h]
  intent := fun _ i' _ hi' => ⟨i', by rwa [h] at hi', id⟩

theorem LedgerRely.refl (w : World) : LedgerRely w w :=
  .of_eq rfl

theorem LedgerRely.trans
    {u v w : World}
    (huv : LedgerRely u v)
    (hvw : LedgerRely v w) :
    LedgerRely u w where
  orders := huv.orders.trans hvw.orders
  next_le := huv.next_le.trans hvw.next_le
  unchanged := fun k t' hk ht' =>
    huv.unchanged k t' hk (hvw.unchanged k t' (hk.trans_le huv.next_le) ht')
  survive := by
    intro k t j ht hj hlt hsome
    have hlt' := hlt.trans_le huv.orders.next_le
    obtain ⟨o', ho'⟩ := Option.isSome_iff_exists.mp hsome
    obtain ⟨o, ho, -⟩ := hvw.orders.persist j o' hlt' ho'
    exact hvw.survive k t j (huv.survive k t j ht hj hlt (by simp [ho])) hj hlt' hsome
  intents_next_le := huv.intents_next_le.trans hvw.intents_next_le
  intent := by
    intro k i'' hk hi''
    obtain ⟨i', hi', hs'⟩ := hvw.intent k i'' (hk.trans_le huv.intents_next_le) hi''
    obtain ⟨i, hi, hs⟩ := huv.intent k i' hk hi'
    exact ⟨i, hi, fun h => hs' (hs h)⟩

theorem Covered.of_rely
    {w w' : World} {k : Nat} {amount : ℚ}
    (h : Covered w k amount)
    (hrely : LedgerRely w w')
    (hk : k < w.db.orders.next)
    (hsome : (w'.db.orders.find k).isSome) :
    Covered w' k amount := by
  obtain ⟨t, ht, htk, hcounts, hamount⟩ := h
  exact ⟨t, Table.find_mem (hrely.survive _ t k (Table.find_of_mem ht) htk hk hsome),
    htk, hcounts, hamount⟩

theorem CoveredOrder.of_rely
    {w w' : World} {k : Nat}
    (h : CoveredOrder w k)
    (hrely : LedgerRely w w')
    (hk : k < w.db.orders.next) :
    CoveredOrder w' k := by
  intro o' ho'
  obtain ⟨o, ho, hsame⟩ := hrely.orders.persist k o' hk ho'
  rw [hsame.totalAmount]
  exact (h o ho).of_rely hrely hk (by simp [ho'])

/-- Only its order's deletion removes a row. -/
theorem exec_transaction_survives
    {s : Stmt} {w w' : World} {r : Response s} {k : Nat} {t : PaymentTransaction}
    (h : exec dep s w = .ok (w', r))
    (ht : w.db.paymentTransactions.find k = some t)
    (hkept : ∀ j, s = .deleteOrder j → t.orderId ≠ some j) :
    (w'.db.paymentTransactions.find k).isSome := by
  rw [(exec_effects dep h).paymentTransactions]
  cases s with
  | deleteOrder j =>
      rw [paymentTransactionsAfter, Table.find_deleteWhere, ht, Option.filter_some]
      simp [hkept j rfl]
  | createWebhookSepayTransaction amount order status delivery =>
      rw [paymentTransactionsAfter, Table.find_insert, if_neg (Nat.ne_of_lt (Table.find_lt ht)),
        ht]
      rfl
  | markPaymentNotSuccess j status =>
      rw [paymentTransactionsAfter, Table.find_update]
      split_ifs with hk
      · rw [← hk, ht]
        rfl
      · rw [ht]
        rfl
  | markOrderAndPaymentSuccess j =>
      rw [paymentTransactionsAfter, Table.find_updateWhere, ht]
      rfl
  | _ =>
      exact Option.isSome_iff_exists.mpr ⟨t, ht⟩

theorem exec_ledger_next_le
    {s : Stmt} {w w' : World} {r : Response s}
    (h : exec dep s w = .ok (w', r)) :
    w.db.paymentTransactions.next ≤ w'.db.paymentTransactions.next ∧
      w.db.paymentIntents.next ≤ w'.db.paymentIntents.next := by
  rw [(exec_effects dep h).paymentTransactions, (exec_effects dep h).paymentIntents]
  cases s with
  | createWebhookSepayTransaction amount order status delivery =>
      exact ⟨Nat.le_succ _, le_refl _⟩
  | createPaymentIntent orderCode content tokenUrl paymentUrl =>
      exact ⟨le_refl _, Nat.le_succ _⟩
  | _ =>
      exact ⟨le_refl _, le_refl _⟩

/-- A row that a statement finds is left as it is. -/
theorem exec_transaction_unchanged
    {s : Stmt} {w w' : World} {r : Response s} {o : Outcome} {k : Nat}
    {t' : PaymentTransaction}
    (ho : o ≠ .fail)
    (hinv : LedgerInv dep w)
    (hneeds : LedgerNeeds dep w s)
    (hguard : LedgerGuard dep w s o)
    (h : exec dep s w = .ok (w', r))
    (hk : k < w.db.paymentTransactions.next)
    (ht' : w'.db.paymentTransactions.find k = some t') :
    w.db.paymentTransactions.find k = some t' := by
  simp only [LedgerGuard, ho, false_or] at hguard
  rcases exec_transaction_origin h ht' with ⟨t, ht, hcases⟩ | ⟨rfl, -⟩
  · have hsame : ∀ status, t.status = some status → { t with status := some status } = t := by
      rintro status hstatus
      rw [← hstatus]
    rcases hcases with rfl | ⟨j, rfl, hsome, hj, rfl⟩ | ⟨status, rfl, rfl⟩
    · exact ht
    · -- the rows of the order are successful already
      have hsettled := hguard hsome t (Table.find_mem ht) hj
      have hstatus := hinv.status t (Table.find_mem ht) (by simp [hj])
      rw [hsame _ (hstatus.resolve_right hsettled)]
      exact ht
    · rw [hsame _ (hneeds t ht)]
      exact ht
  · exact absurd hk (lt_irrefl _)

/-- **One statement** that finds what it needs and meets the guard. -/
theorem exec_ledgerRely
    {s : Stmt} {w w' : World} {r : Response s} {o : Outcome}
    (ho : o ≠ .fail)
    (hinv : LedgerInv dep w)
    (hneeds : LedgerNeeds dep w s)
    (hguard : LedgerGuard dep w s o)
    (h : exec dep s w = .ok (w', r)) :
    LedgerRely w w' where
  orders := exec_ordersPersist dep h
  next_le := (exec_ledger_next_le h).1
  unchanged := fun _ _ => exec_transaction_unchanged ho hinv hneeds hguard h
  survive := by
    intro k t j ht hj _ hsome
    have hkept : ∀ j', s = .deleteOrder j' → t.orderId ≠ some j' := by
      rintro j' rfl hj'
      obtain rfl := Option.some.inj (hj.symm.trans hj')
      rw [(exec_effects dep h).orders] at hsome
      obtain ⟨o, ho⟩ := Option.isSome_iff_exists.mp hsome
      obtain ⟨ho, hne⟩ := Table.find_deleteWhere_old ho
      simp [Table.find_key ho] at hne
    obtain ⟨t', ht'⟩ :=
      Option.isSome_iff_exists.mp (exec_transaction_survives h ht hkept)
    have hold := exec_transaction_unchanged ho hinv hneeds hguard h (Table.find_lt ht) ht'
    rw [ht', ← ht, hold]
  intents_next_le := (exec_ledger_next_le h).2
  intent := by
    intro k i' hk hi'
    rcases exec_intent_status h hi' with ⟨i, hi, hcases⟩ | rfl
    · refine ⟨i, hi, ?_⟩
      rcases hcases with rfl | ⟨code, status, rfl, hcode, rfl⟩
      · exact id
      · rcases hneeds.1 with rfl | rfl
        · exact fun _ => rfl
        · have hfinds := hguard.resolve_left ho rfl
          exact fun hsuccess => absurd hsuccess (hfinds i (Table.find_mem hi) hcode)
    · exact absurd hk (lt_irrefl _)

/-- What is needed of the orders that a statement settles. -/
theorem LedgerNeeds.settles
    {s : Stmt} {w : World}
    (h : LedgerNeeds dep w s) :
    Settles (CoveredOrder w) s := by
  cases s with
  | markOrderAndPaymentSuccess k =>
      exact h
  | updateOrderStatusById k status =>
      exact h
  | updateOrderStatus k status note =>
      exact h
  | _ =>
      trivial

theorem exec_ledgerInv
    {s : Stmt} {w w' : World} {r : Response s} {o : Outcome}
    (ho : o ≠ .fail)
    (hinv : LedgerInv dep w)
    (hneeds : LedgerNeeds dep w s)
    (hguard : LedgerGuard dep w s o)
    (h : exec dep s w = .ok (w', r)) :
    LedgerInv dep w' := by
  have hrely : LedgerRely w w' := exec_ledgerRely ho hinv hneeds hguard h
  have hcovered : ∀ k, k < w.db.orders.next → CoveredOrder w k → CoveredOrder w' k :=
    fun k hk hc => hc.of_rely hrely hk
  -- a row is an old one, or a new one of which the statement says what is needed
  have hrow : ∀ t, t ∈ w'.db.paymentTransactions.rows →
      t ∈ w.db.paymentTransactions.rows ∨
        ∃ amount order status delivery k,
          t = newTransaction amount order status delivery k ∧ 0 ≤ amount ∧
          (order.isSome → status = .success ∨
            Unsettled (newTransaction amount order status delivery 0)) := by
    intro t ht
    have ht' : w'.db.paymentTransactions.find t.id = some t := Table.find_of_mem ht
    rcases exec_transaction_origin h ht' with ⟨t₀, ht₀, -⟩ |
      ⟨-, amount, order, status, delivery, rfl, hnew⟩
    · exact .inl (Table.find_mem (hrely.unchanged _ t (Table.find_lt ht₀) ht'))
    · exact .inr ⟨amount, order, status, delivery, t.id, hnew, hneeds⟩
  refine ⟨?_, exec_intentCode hinv.orderCode hinv.intentCode h, ?_, ?_, ?_, ?_⟩
  · intro k o' ho'
    rcases exec_order_origin h ho' with hk | ⟨data, -, rfl⟩
    · obtain ⟨o, ho, hsame⟩ := hrely.orders.persist k o' hk ho'
      rw [hsame.orderCode, hinv.orderCode k o ho]
    · rfl
  · intro t ht hsome
    rcases hrow t ht with hold | ⟨amount, order, status, delivery, k, rfl, -, hstatus⟩
    · exact hinv.status t hold hsome
    · have horder : order.isSome := by simpa [newTransaction] using hsome
      exact (hstatus horder).imp (congrArg some) id
  · intro t ht
    rcases hrow t ht with hold | ⟨amount, order, status, delivery, k, rfl, hamount, -⟩
    · exact hinv.amount t hold
    · exact hamount
  · intro k o' ho' hpaid
    rcases exec_order_origin h ho' with hk | ⟨data, -, rfl⟩
    · obtain ⟨o, ho, -⟩ := hrely.orders.persist k o' hk ho'
      refine hcovered k hk ?_ o' ho'
      rcases (exec_becomes_paid hneeds.settles h ho ho').1 hpaid with hold | hnow
      · intro o₁ ho₁
        obtain rfl := Option.some.inj (ho.symm.trans ho₁)
        exact hinv.order k o ho hold
      · exact hnow
    · cases hpaid
  · intro i' hi' hsuccess k hik
    have hback : k < w.db.orders.next ∧ CoveredOrder w k := by
      rcases exec_becomes_success h hi' hsuccess with ⟨i, hi, hcode, hs⟩ | ⟨code, rfl, hcode⟩
      · obtain ⟨j, hj, hij⟩ := hinv.intentCode i hi
        obtain rfl := orderCodes_unique dep hij (by rw [hcode]; exact hik)
        exact ⟨hj, hinv.intent i hi hs j hij⟩
      · obtain ⟨j, hj, hij⟩ := exec_intentCode hinv.orderCode hinv.intentCode h i' hi'
        obtain rfl := orderCodes_unique dep hij hik
        refine ⟨by rwa [(exec_effects dep h).orders] at hj, hneeds.2 rfl j ?_⟩
        exact sameText_trans dep (by rw [sameText_comm]; exact hcode) hik
    exact hcovered k hback.1 hback.2

variable (dep)

/-- The invariant and what is kept, in runs that meet the guard. -/
def ledgerLogic : Logic Stmt World Unit where
  inv := fun _ w => LedgerInv dep w
  rely := LedgerRely
  rely_refl := .refl
  rely_trans := fun _ _ _ => .trans
  guard := LedgerGuard dep
  done := fun _ => True

variable {dep}

theorem harmless_of_ledgerNeeds
    {K : World → Prop} {s : Stmt}
    (hneeds : ∀ w, K w → LedgerInv dep w → LedgerNeeds dep w s) :
    Harmless (ledgerLogic dep) (exec dep) .database K s := by
  intro w _ o hK hinv hguard
  refine attempt_cases (motive := fun x => LedgerInv dep x.1 ∧ LedgerRely w x.1)
    (fun _ => ⟨hinv, .refl w⟩) (fun w' r ho h => ?_)
  have hinv' := exec_ledgerInv ho hinv (hneeds w hK hinv) hguard h
  have hrely := exec_ledgerRely ho hinv (hneeds w hK hinv) hguard h
  exact ⟨⟨hinv', hrely⟩, hinv', hrely⟩

/-! ### The services -/

section Services

variable {w : World}

/-- A service whose statements need nothing is safe. -/
theorem ledger_of_all
    {p : Service Answer}
    (h : p.All (fun s => ∀ w, LedgerNeeds dep w s)) :
    SafeHandler (ledgerLogic dep) (exec dep) .database p () w :=
  Safe.of_all (K := fun _ => True) (fun _ _ _ _ => trivial)
    (h.mono fun _ hs => harmless_of_ledgerNeeds fun w _ _ => hs w)
    trivial (fun _ _ _ => trivial) trivial

/-- Order `k` is a known number and, if it is there, covered. -/
def KnownCovered (k : Nat) (w : World) : Prop :=
  k < w.db.orders.next ∧ CoveredOrder w k

theorem KnownCovered.of_rely
    {k : Nat} {v v' : World}
    (h : KnownCovered k v)
    (hrely : LedgerRely v v') :
    KnownCovered k v' :=
  ⟨h.1.trans_le hrely.orders.next_le, h.2.of_rely hrely h.1⟩

/-- Row `k`, if it is there, has the status. -/
def RowHas (k : Nat) (status : PaymentStatus) (w : World) : Prop :=
  k < w.db.paymentTransactions.next ∧
    ∀ t, w.db.paymentTransactions.find k = some t → t.status = some status

theorem RowHas.of_rely
    {k : Nat} {status : PaymentStatus} {v v' : World}
    (h : RowHas k status v)
    (hrely : LedgerRely v v') :
    RowHas k status v' :=
  ⟨h.1.trans_le hrely.next_le, fun t ht => h.2 t (hrely.unchanged k t h.1 ht)⟩

/-- The webhook has read `order`, which still costs the same. -/
def KnownTotal (order : Order) (w : World) : Prop :=
  order.id < w.db.orders.next ∧ ∀ o, w.db.orders.find order.id = some o →
    o.totalAmount.getD 0 = order.totalAmount.getD 0

theorem KnownTotal.of_rely
    {order : Order} {v v' : World}
    (h : KnownTotal order v)
    (hrely : LedgerRely v v') :
    KnownTotal order v' := by
  refine ⟨h.1.trans_le hrely.orders.next_le, fun o' ho' => ?_⟩
  obtain ⟨o, ho, hsame⟩ := hrely.orders.persist _ o' h.1 ho'
  rw [hsame.totalAmount]
  exact h.2 o ho

/-- Settling a covered order is allowed. -/
theorem ledgerNeeds_of_settle
    {id : Int} {code : String} {k : Nat} {s : Stmt}
    (hcode : dep.sameText code (dep.orderCodes k) = true)
    (hk : KnownCovered k w)
    (hs : SettleStatement id code k s) :
    LedgerNeeds dep w s := by
  cases s with
  | markOrderAndPaymentSuccess j =>
      exact hs ▸ hk.2
  | updateOrderStatusById j status =>
      exact fun _ => hs.1 ▸ hk.2
  | markPaymentIntent c status =>
      refine ⟨hs.2, fun _ j hj => ?_⟩
      rw [hs.1] at hj
      exact orderCodes_unique dep hcode hj ▸ hk.2
  | createWebhookSepayTransaction amount order status delivery =>
      exact hs.elim
  | markPaymentNotSuccess j status =>
      exact hs.elim
  | updateOrderStatus j status note =>
      exact hs.elim
  | _ =>
      trivial

/-- The answer is the row that was inserted. -/
theorem exec_createWebhookSepayTransaction
    {amount : ℚ} {order : Option (Nat × Option Nat)} {status : PaymentStatus}
    {delivery : Int} {w w' : World} {r : PaymentTransaction}
    (h : exec dep (.createWebhookSepayTransaction amount order status delivery) w =
      .ok (w', r)) :
    r = newTransaction amount order status delivery w.db.paymentTransactions.next ∧
      w'.db.paymentTransactions.find r.id = some r := by
  have htransactions := (exec_effects dep h).paymentTransactions
  have hr : r = newTransaction amount order status delivery
      w.db.paymentTransactions.next := by
    simp only [exec] at h
    split at h <;> cases h
    rfl
  refine ⟨hr, ?_⟩
  rw [htransactions, paymentTransactionsAfter, Table.find_insert, hr]
  exact if_pos rfl

/-- What the row of a transfer brings about. -/
theorem savePaymentTransaction_ledger
    {body : SePayHooksDto} {status : PaymentStatus} {order : Order}
    {f : PaymentTransaction → Service Answer}
    (htotal : KnownTotal order w)
    (hstatus : status = .success ∨ status = .paymentShortfall ∨
      status = .paymentOverage ∨ status = .expired)
    (hf : ∀ r v, LedgerRely w v → RowHas r.id status v →
      (status = .success ∨ status = .paymentOverage →
        order.totalAmount.getD 0 ≤ body.transferAmount → KnownCovered order.id v) →
      SafeHandler (ledgerLogic dep) (exec dep) .database (f r) () v) :
    SafeHandler (ledgerLogic dep) (exec dep) .database
      ((savePaymentTransaction body status (some order)).bind f) () w := by
  refine Safe.await_bind (StatementSafe.of_exec (fun _ _ _ _ _ => trivial) ?_)
  intro v F o v' r hwv hinv hguard ho hexec
  have hneeds : LedgerNeeds dep v (.createWebhookSepayTransaction body.transferAmount
      (some (order.id, order.userId)) status body.id) := by
    refine ⟨body.transferAmount_nonneg, fun _ => ?_⟩
    exact hstatus.imp id fun h => h.imp (congrArg some) fun h =>
      h.imp (congrArg some) (congrArg some)
  have hrely : LedgerRely v v' := exec_ledgerRely ho hinv hneeds hguard hexec
  have htotal' := (htotal.of_rely hwv).of_rely hrely
  obtain ⟨hr, hfind⟩ := exec_createWebhookSepayTransaction hexec
  refine ⟨(), exec_ledgerInv ho hinv hneeds hguard hexec, hrely,
    hf r v' (LedgerRely.trans hwv hrely) ?_ ?_, fun _ _ => trivial⟩
  · refine ⟨Table.find_lt hfind, fun t ht => ?_⟩
    rw [← Option.some.inj (hfind.symm.trans ht), hr]
    rfl
  · intro hcounts hamount
    refine ⟨htotal'.1, fun o' ho' => ?_⟩
    rw [htotal'.2 o' ho']
    refine ⟨r, Table.find_mem hfind, by rw [hr]; rfl, ?_, by rw [hr]; exact hamount⟩
    rw [hr]
    exact hcounts.imp (congrArg some) (congrArg some)

theorem handleAlreadyProcessedPaymentIntent_ledger
    {content code : String} {webHookId attempts k : Nat} {id : Int}
    (hcode : dep.sameText code (dep.orderCodes k) = true)
    (hk : KnownCovered k w) :
    SafeHandler (ledgerLogic dep) (exec dep) .database
      (handleAlreadyProcessedPaymentIntent content code webHookId attempts id) () w := by
  refine Safe.of_all (K := KnownCovered k) (fun _ _ h hrely => h.of_rely hrely)
    (handleAlreadyProcessedPaymentIntent_all _ _ _ _ _
      (harmless_of_ledgerNeeds fun v hv _ => ?_) (harmless_of_ledgerNeeds fun _ _ _ => trivial))
    trivial (fun _ _ _ => trivial) hk
  have hsettle : SettleStatement id code k (.markPaymentIntent code .success) :=
    ⟨rfl, .inl rfl⟩
  exact ledgerNeeds_of_settle hcode hv hsettle

/-- The row of a mismatch is marked with the status it has. -/
theorem markPaymentNotSuccess_ledger
    {id webHookId attempts : Nat} {status : PaymentStatus} {f : Service Answer}
    (hrow : RowHas id status w)
    (hf : ∀ v, LedgerRely w v → SafeHandler (ledgerLogic dep) (exec dep) .database f () v) :
    SafeHandler (ledgerLogic dep) (exec dep) .database
      ((query (.markPaymentNotSuccess id status)).bind fun _ =>
        (query (.updateWebhookStatus webHookId .failed attempts)).bind fun _ => f) () w := by
  have hmark : Harmless (ledgerLogic dep) (exec dep) .database (RowHas id status)
      (.markPaymentNotSuccess id status) :=
    harmless_of_ledgerNeeds fun _ h _ => h.2
  have hinbox : Harmless (ledgerLogic dep) (exec dep) .database (fun _ => True)
      (.updateWebhookStatus webHookId .failed attempts) :=
    harmless_of_ledgerNeeds fun _ _ _ => trivial
  refine Safe.await_bind (hmark.statementSafe (fun _ h => hrow.of_rely h) fun x v hv => ?_)
  rcases x with err | _
  · exact fun _ _ => trivial
  refine Safe.await_bind (hinbox.statementSafe (fun _ _ => trivial) fun x v' hv' => ?_)
  rcases x with err | _
  · exact fun _ _ => trivial
  · exact hf v' (LedgerRely.trans hv hv')

theorem handleMismatch_ledger
    {body : SePayHooksDto} {webHookId attempts : Nat} {content : String}
    {i : PaymentIntent} {order : Order}
    (htotal : KnownTotal order w)
    (hcode : dep.sameText i.orderCode (dep.orderCodes order.id) = true) :
    SafeHandler (ledgerLogic dep) (exec dep) .database
      (handleMismatch body webHookId attempts content i order) () w := by
  by_cases hlt : body.transferAmount < order.totalAmount.getD 0
  · simp only [handleMismatch, hlt, if_true]
    refine savePaymentTransaction_ledger htotal (.inr (.inl rfl)) fun r v _ hrow _ => ?_
    exact markPaymentNotSuccess_ledger (by rwa [if_pos hlt]) fun _ _ _ _ => trivial
  · simp only [handleMismatch, hlt, if_false]
    refine savePaymentTransaction_ledger htotal (.inr (.inr (.inl rfl)))
      fun r v _ hrow hcovered =>
        markPaymentNotSuccess_ledger (by rwa [if_neg hlt]) fun v' hv' => ?_
    -- an overpayment covers the order
    exact handleAlreadyProcessedPaymentIntent_ledger hcode
      ((hcovered (.inr rfl) (not_lt.mp hlt)).of_rely hv')

theorem handlePayment_ledger
    {body : SePayHooksDto} {webHookId attempts : Nat} {content : String}
    {i : PaymentIntent} {order : Order}
    (htotal : KnownTotal order w)
    (hcode : dep.sameText i.orderCode (dep.orderCodes order.id) = true)
    (hsuccess : i.status = some .success → KnownCovered order.id w) :
    SafeHandler (ledgerLogic dep) (exec dep) .database
      (handlePayment body webHookId attempts content i order) () w := by
  have hinbox : ∀ id status attempts, Harmless (ledgerLogic dep) (exec dep) .database
      (fun _ => True) (.updateWebhookStatus id status attempts) :=
    fun _ _ _ => harmless_of_ledgerNeeds fun _ _ _ => trivial
  have hdate : Harmless (ledgerLogic dep) (exec dep) .database (fun _ => True)
      (.newDate body) :=
    harmless_of_ledgerNeeds fun _ _ _ => trivial
  refine Safe.await_bind (hdate.statementSafe (fun _ _ => trivial) fun x v hwv => ?_)
  rcases x with err | now
  · exact fun _ _ => trivial
  have htotal' := htotal.of_rely hwv
  show Safe _ _ _ _ (if _ then _ else if _ then _ else if _ then _ else _) _ _
  split
  · -- the payment window has passed; the guard keeps a paid intent from expiring
    refine savePaymentTransaction_ledger htotal' (.inr (.inr (.inr rfl)))
      fun r v' _ _ _ => ?_
    refine Safe.of_all (K := fun _ => True) (fun _ _ _ _ => trivial)
      (handlePaymentIntentExpired_all _ _ _ _ (harmless_of_ledgerNeeds fun _ _ _ => ?_)
        (hinbox _ _ _)) trivial (fun _ _ _ => trivial) trivial
    exact ⟨.inr rfl, fun h => by cases h⟩
  split
  · -- the intent was successful when it was read
    refine savePaymentTransaction_ledger htotal' (.inl rfl) fun r v' hvv' _ _ => ?_
    exact handleAlreadyProcessedPaymentIntent_ledger hcode
      (((hsuccess ‹_›).of_rely hwv).of_rely hvv')
  split
  · exact handleMismatch_ledger htotal' hcode
  · rename_i heq
    refine savePaymentTransaction_ledger htotal' (.inl rfl) fun r v' _ _ hcovered => ?_
    refine Safe.of_all (K := KnownCovered order.id) (fun _ _ h hrely => h.of_rely hrely)
      (All.bind (handleSepayWebhookMarkDone_all _ _ _ _ _
        (harmless_of_ledgerNeeds fun _ _ _ => trivial) fun s hs =>
          harmless_of_ledgerNeeds fun _ hk _ => ledgerNeeds_of_settle hcode hk hs)
        fun _ => trivial) trivial (fun _ _ _ => trivial)
      (hcovered (.inl rfl) (not_not.mp heq).ge)

theorem handleSepayWebhook_ledger (body : SePayHooksDto) :
    SafeHandler (ledgerLogic dep) (exec dep) .database (handleSepayWebhook body) () w := by
  refine handleSepayWebhook_safe (fun _ => trivial)
    (harmless_of_ledgerNeeds fun _ _ _ => trivial)
    (fun _ _ _ => harmless_of_ledgerNeeds fun _ _ _ => trivial)
    (harmless_of_ledgerNeeds fun _ _ _ => ⟨body.transferAmount_nonneg, fun h => by cases h⟩)
    ?_
  intro v F webHookId attempts i order hinv hi _ ho hsame
  have hfind : v.db.orders.find order.id = some order := Table.find_of_mem ho
  have hlt := Table.find_lt hfind
  have hcode : dep.sameText i.orderCode (dep.orderCodes order.id) = true := by
    rw [sameText_comm, ← hinv.orderCode _ _ hfind]
    exact hsame
  refine handlePayment_ledger ⟨hlt, fun o ho => ?_⟩ hcode
    fun hs => ⟨hlt, hinv.intent i hi hs _ hcode⟩
  rw [Option.some.inj (hfind.symm.trans ho)]

theorem getPaymentStatus_ledger (orderCode : String) :
    SafeHandler (ledgerLogic dep) (exec dep) .database
      (getPaymentStatus orderCode) () w := by
  refine getPaymentStatus_safe (K := KnownCovered) (fun _ => trivial)
    (fun _ _ _ h hrely => h.of_rely hrely)
    (fun _ _ (hinv : LedgerInv dep _) => hinv.orderCode) ?_
    (fun k => harmless_of_ledgerNeeds fun _ h _ => h.2) orderCode
  intro _ v hinv i hi hs
  obtain ⟨k, hlt, hik⟩ := hinv.intentCode i hi
  exact ⟨k, hik, hlt, hinv.intent i hi hs k hik⟩

/-- No other service touches the ledger, and the administrator does not pay. -/
theorem handler_ledger (r : Request) :
    SafeHandler (ledgerLogic dep) (exec dep) .database (handler dep r) () w := by
  cases r with
  | createCheckout body guestSessionId userId =>
      refine ledger_of_all ((createCheckout_all dep body guestSessionId userId).mono ?_)
      intro s hs w
      cases s <;> trivial
  | sepayWebhook body =>
      exact handleSepayWebhook_ledger body
  | getPaymentStatus orderCode =>
      exact getPaymentStatus_ledger orderCode
  | cleanOrder =>
      refine ledger_of_all (cleanOrder_all.mono ?_)
      intro s hs w
      cases s <;> trivial
  | updateOrderStatus orderId body =>
      refine ledger_of_all ((updateOrderStatus_all orderId body).mono ?_)
      intro s hs w
      cases s with
      | updateOrderStatus k status note =>
          rcases hs with rfl | rfl <;> intro hpaid <;> cases hpaid
      | _ =>
          trivial
  | createStockImport createdById body =>
      refine ledger_of_all ((createStockImport_all createdById body).mono ?_)
      intro s hs w
      cases s <;> trivial

theorem processCheckout_ledger (payload : CheckoutJobPayload) :
    SafeHandler (ledgerLogic dep) (exec dep) .database
      (processCheckout payload) () w := by
  refine ledger_of_all ((processCheckout_all payload).mono ?_)
  intro s hs w
  cases s <;> trivial

end Services

/-! ### Runs -/

theorem LedgerInv.of_eq
    {w w' : World}
    (hinv : LedgerInv dep w)
    (h : w'.db = w.db) :
    LedgerInv dep w' := by
  obtain ⟨db', redis', queue', now', history'⟩ := w'
  simp only at h
  subst h
  exact ⟨hinv.orderCode, hinv.intentCode, hinv.status, hinv.amount, hinv.order, hinv.intent⟩

theorem environment_ledger :
    EnvSafe (ledgerLogic dep) (server dep) (fun _ _ => True) :=
  envSafe_of_events dep (fun _ _ r _ _ => handler_ledger r)
    (fun _ _ _ payload hinv _ _ =>
      ⟨.of_eq rfl, (), LedgerInv.of_eq hinv rfl, processCheckout_ledger payload⟩)
    (fun _ _ _ hinv _ => ⟨.of_eq rfl, LedgerInv.of_eq hinv rfl⟩)
    (fun _ _ _ hinv _ => ⟨.of_eq rfl, LedgerInv.of_eq hinv rfl⟩)

theorem ledgerInv_fresh {w : World} (hw : Fresh w) : LedgerInv dep w where
  orderCode := by
    intro k o ho
    have := Table.find_mem ho
    simp [hw.orders] at this
  intentCode := by simp [hw.paymentIntents]
  status := by simp [hw.paymentTransactions]
  amount := by simp [hw.paymentTransactions]
  order := by
    intro k o ho
    have := Table.find_mem ho
    simp [hw.orders] at this
  intent := by simp [hw.paymentIntents]

/-- A row that covers the amount is part of the sum. -/
theorem LedgerInv.le_paidAmount
    {w : World} {k : Nat} {amount : ℚ}
    (hinv : LedgerInv dep w)
    (h : Covered w k amount) :
    amount ≤ paidAmount w.db k := by
  obtain ⟨t, ht, hk, hcounts, hamount⟩ := h
  refine hamount.trans (List.single_le_sum ?_ _ (List.mem_map_of_mem ?_))
  · intro a ha
    obtain ⟨t', ht', rfl⟩ := List.mem_map.mp ha
    exact hinv.amount t' (List.mem_of_mem_filter ht')
  · exact List.mem_filter.mpr ⟨ht, by simp [hk, hcounts]⟩

/-- What is kept, and the ledger of the later state. -/
theorem LedgerRely.integrity
    {w w' : World}
    (hrely : LedgerRely w w')
    (hinv : LedgerInv dep w') :
    LedgerIntegrity w w' := by
  have hsame : ∀ k t t', w.db.paymentTransactions.find k = some t →
      w'.db.paymentTransactions.find k = some t' → t' = t := by
    intro k t t' ht ht'
    have hold := hrely.unchanged k t' (Table.find_lt ht) ht'
    exact Option.some.inj (hold.symm.trans ht)
  refine ⟨⟨?_, ?_⟩, ?_, ?_⟩
  · intro k t t' ht ht' hunsettled hsuccess
    rw [hsame k t t' ht ht'] at hsuccess
    rcases hunsettled with h | h | h <;> simp [h] at hsuccess
  · intro k i i' hi hi' hsuccess hexpired
    obtain ⟨i₀, hi₀, hkept⟩ := hrely.intent k i' (Table.find_lt hi) hi'
    obtain rfl := Option.some.inj (hi.symm.trans hi₀)
    simp [hkept hsuccess] at hexpired
  · intro k t t' ht ht' hshort hcounts
    rw [hsame k t t' ht ht'] at hcounts
    rcases hcounts with h | h <;> simp [hshort] at h
  · intro o ho hpaid
    exact hinv.le_paidAmount (hinv.order _ o (Table.find_of_mem ho) hpaid)

variable (dep)

/--
The steps of a run keep the ledger exactly if they meet the guard; then every
state of the run has the ledger that its earlier states and its orders ask for.
-/
theorem payment_ledger
    {w : World} {c c' : ServerState} {as bs : List (Action Event)}
    (hw : Fresh w)
    (hrun : runs (server dep).step ⟨w, []⟩ as = some c)
    (hrun' : runs (server dep).step c bs = some c') :
    (Meets (server dep).step (System.Respects (server dep) KeepsLedger) ⟨w, []⟩
        (as ++ bs) ↔
      Meets (server dep).step (System.Conforms (fun _ _ => True) (LedgerGuard dep))
        ⟨w, []⟩ (as ++ bs)) ∧
    (Meets (server dep).step (System.Conforms (fun _ _ => True) (LedgerGuard dep))
        ⟨w, []⟩ (as ++ bs) → LedgerIntegrity c.world c'.world) := by
  constructor
  · exact System.meets_respects_iff (server dep) (fun _ => .of_eq rfl rfl)
      (fun _ _ _ _ h => .of_eq (by rw [environment_db dep h]) (by rw [environment_db dep h]))
      attempt_keepsLedger _ _
  · intro hmeets
    obtain ⟨hmeets, hmeets'⟩ := (meets_append hrun).mp hmeets
    have hstart : Balanced (ledgerLogic dep) (server dep) ⟨w, []⟩ :=
      balanced_start (ledgerInv_fresh hw)
    have hc : Balanced (ledgerLogic dep) (server dep) c :=
      balanced_runs environment_ledger hstart hmeets hrun
    obtain ⟨⟨_, _, hinv⟩, hrely⟩ :=
      balancedTo_runs_rely (fun _ _ h => h) environment_ledger hc hmeets' hrun'
    exact LedgerRely.integrity hrely hinv

set_option maxRecDepth 4000 in
/-- The order of `placedThenPaid` is paid, and its one row covers it. -/
theorem payment_ledger_placedThenPaid :
    ∃ c, runs (server sampleDeployment).step ⟨sampleWorld 5, []⟩ placedThenPaid = some c ∧
      ∃ o, o ∈ c.world.db.orders.rows ∧ o.status = some .paid ∧
        o.totalAmount.getD 0 ≤ paidAmount c.world.db o.id := by
  obtain ⟨c, hrun, hany⟩ := (Option.any_eq_true
    (fun c : ServerState =>
      c.world.db.orders.rows.any fun o => decide (o.status = some .paid)) _).mp
    (by decide +kernel : (runs (server sampleDeployment).step ⟨sampleWorld 5, []⟩
      placedThenPaid).any _ = true)
  obtain ⟨o, ho, hstatus⟩ := List.any_eq_true.mp hany
  have hpaid : o.status = some .paid := by simpa using hstatus
  have hrefl : runs (server sampleDeployment).step c [] = some c := rfl
  have hledger := payment_ledger sampleDeployment (sampleWorld_fresh 5) hrun hrefl
  exact ⟨c, hrun, o, ho, hpaid, (hledger.2 (by decide +kernel)).paid o ho hpaid⟩

/-- An order is placed, its job runs and a transfer of 100 arrives. -/
def placedThenShort : List (Action Event) :=
  .env (.arrive (sampleGuest .sepay 1)) :: steps 0 6 ++
    .env (.startJob 0) :: steps 1 4 ++
    .env (.arrive (sampleTransfer 7 "VLR0" 100)) :: steps 2 6

/-- The whole amount is transferred. -/
def thenPaid : List (Action Event) :=
  .env (.arrive (sampleTransfer 8 "VLR0" 120000)) :: steps 3 15

/-- The first row of the ledger has the status. -/
def firstRowIs (status : PaymentStatus) (c : ServerState) : Bool :=
  (c.world.db.paymentTransactions.find 1).any fun t => decide (t.status = some status)

set_option maxRecDepth 4000 in
/-- The payment turns the row of the shortfall into a success. -/
theorem thenPaid_overwrites_shortfall :
    ¬ ∀ (w : World) (as bs : List (Action Event)) (c c' : ServerState), Fresh w →
      runs (server sampleDeployment).step ⟨w, []⟩ as = some c →
      runs (server sampleDeployment).step c bs = some c' →
      LedgerIntegrity c.world c'.world := by
  intro h
  obtain ⟨c, hrun, hshort⟩ := (Option.any_eq_true (firstRowIs .paymentShortfall) _).mp
    (by decide +kernel : (runs (server sampleDeployment).step ⟨sampleWorld 5, []⟩
      placedThenShort).any _ = true)
  obtain ⟨c', hboth, hsuccess⟩ := (Option.any_eq_true (firstRowIs .success) _).mp
    (by decide +kernel : (runs (server sampleDeployment).step ⟨sampleWorld 5, []⟩
      (placedThenShort ++ thenPaid)).any _ = true)
  obtain ⟨d, hrun₁, hrun'⟩ := runs_append.mp hboth
  obtain rfl := Option.some.inj (hrun.symm.trans hrun₁)
  obtain ⟨t, ht, hstatus⟩ := (Option.any_eq_true _ _).mp hshort
  obtain ⟨t', ht', hstatus'⟩ := (Option.any_eq_true _ _).mp hsuccess
  exact (h _ _ _ c c' (sampleWorld_fresh 5) hrun hrun').unsettled 1 t t' ht ht'
    (.inl (of_decide_eq_true hstatus)) (of_decide_eq_true hstatus')

end BookStore
