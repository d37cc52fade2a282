import BookStore.Async.Budget
import BookStore.Effects
import Mathlib.Algebra.Group.Prod

/-!
# A delivery is processed once

The webhook answers a repeated delivery from the inbox row, but it first writes
the row anew and so resets its status: the answer is never given, and every
delivery of an id is processed.  What remains is this.

* A handler creates at most one transaction and deducts stock at most once
  (`handleSaved_costs`).
* `webhook_idempotent`: as long as no delivery finds the row of its id, the
  deliveries of an id create one transaction and one deduction at most.
-/

namespace BookStore

open Async Program Logic

variable (dep : Deployment)

/-- The inbox row of a SePay id. -/
def inboxRow (key : Int) (w : World) : Option WebhookInbox :=
  w.db.webhookInbox.findFirst fun r =>
    decide (r.gateway = .sepay) && decide (r.idempotencyKey = key)

/-- The transactions that the deliveries of `id` created. -/
def transactionsOf (id : Int) (w : World) : List PaymentTransaction :=
  w.db.paymentTransactions.filter fun t => decide (t.delivery = id)

/-- The deductions that the deliveries of `id` caused. -/
def deductionsOf (id : Int) (w : World) : List (Int × Nat) :=
  w.history.deductions.filter fun d => decide (d.1 = id)

/-- The deliveries of `id` were processed at most once. -/
structure ProcessedOnce (id : Int) (w : World) : Prop where
  transactions : (transactionsOf id w).length ≤ 1
  deductions : (deductionsOf id w).length ≤ 1

/--
A delivery that starts when the row of its id is `DONE` gets the
already-processed answer; what it has executed is the write to the inbox alone.
-/
def RefusesRepeat (c : ServerState) (a : Action Event) : Prop :=
  ∀ i j key body row c',
    a = .run i j .ok →
    System.nextStatement c i = some (.saveSepayWebhook key body) →
    inboxRow key c.world = some row → row.status = some .done →
    (server dep).step c a = some c' →
    ∃ inboxId, c'.threads[i]? =
      some (.ret (.webhookAlreadyProcessed key inboxId))

/-- A delivery that reaches the inbox has not been seen before. -/
def FirstDelivery (w : World) (s : Stmt) (o : Outcome) : Prop :=
  match s with
  | .saveSepayWebhook key _ => o ≠ .fail → inboxRow key w = none
  | _ => True

instance (w : World) (s : Stmt) (o : Outcome) : Decidable (FirstDelivery w s o) := by
  apply Stmt.casesOn (motive := fun s => Decidable (FirstDelivery w s o)) s <;>
    intros <;> unfold FirstDelivery <;> infer_instance

/-! ### Costs -/

/-- Transactions and deductions of `id` that a statement may add. -/
def cost (id : Int) : Stmt → ℕ × ℕ
  | .createWebhookSepayTransaction _ _ _ delivery => if delivery = id then (1, 0) else 0
  | .decrementVariantsStock _ delivery _ => if delivery = id then (0, 1) else 0
  | _ => 0

section Costs

variable {id : Int}

/-- A statement that adds neither is free. -/
theorem query_costs
    {s : Stmt} {f : Response s → Service Answer} {m : ℕ × ℕ}
    (hs : cost id s = 0)
    (hf : ∀ r, (f r).Costs (cost id) m) :
    ((query s).bind f).Costs (cost id) m := by
  have h : (query s).Costs (cost id) 0 := Costs.of_all (All.await hs) 0
  simpa using h.bind hf

theorem savePaymentTransaction_costs
    (body : SePayHooksDto) (status : PaymentStatus) (order : Option Order) :
    (savePaymentTransaction body status order).Costs (cost id) (1, 0) := by
  have h := Costs.await (cost id) (R := Response) (E := Failure)
    (.createWebhookSepayTransaction body.transferAmount
      (order.map fun o => (o.id, o.userId)) status body.id)
  by_cases hid : body.id = id
  · rwa [cost, if_pos hid] at h
  · rw [cost, if_neg hid] at h
    have := h.add (1, 0)
    rwa [zero_add] at this

theorem updateOrderDone_costs
    (variantMap : List (Nat × Int)) (k : Nat) (delivery : Int) :
    (updateOrderDone variantMap k delivery).Costs (cost id) (0, 1) := by
  unfold updateOrderDone
  cases missingQuantity variantMap with
  | some err =>
      trivial
  | none =>
      have h := Costs.promiseAll (cost id) (R := Response) (E := Failure)
        ((if variantMap = [] then []
          else [.decrementVariantsStock variantMap delivery k]) ++
          [.updateOrderStatusById k .paid])
      by_cases hmap : variantMap = []
      · simp only [hmap, if_true, List.nil_append] at h ⊢
        exact h.add (0, 1)
      · simp only [hmap, if_false] at h ⊢
        by_cases hid : delivery = id
        · simpa [cost, hid] using h
        · have := h.add (0, 1)
          simpa [cost, hid] using this

theorem updateOrderNotDone_costs (variantMap : List (Nat × Int)) (k : Nat) :
    (updateOrderNotDone variantMap k).Costs (cost id) 0 := by
  refine Costs.of_all ((updateOrderNotDone_all variantMap k (id + 1) "").mono ?_) 0
  intro s hs
  cases s with
  | decrementVariantsStock variantMap delivery j =>
      rw [cost, if_neg]
      have : delivery = id + 1 := hs.1
      omega
  | createWebhookSepayTransaction =>
      cases hs
  | _ =>
      rfl

theorem deductStock_costs
    (variantMap : List (Nat × Int)) (k : Nat) (delivery : Int) :
    (deductStock variantMap k delivery).Costs (cost id) (0, 1) :=
  Costs.tryCatch (n := 0) (updateOrderDone_costs variantMap k delivery) (fun _ =>
    Costs.bind (m := 0) (n := 0) (updateOrderNotDone_costs variantMap k)
      (fun _ => trivial))

/-- After its record a handler may deduct stock once. -/
theorem saved_costs
    {body : SePayHooksDto} {status : PaymentStatus} {order : Option Order}
    {f : PaymentTransaction → Service Answer}
    (hf : ∀ t, (f t).Costs (cost id) (0, 1)) :
    ((savePaymentTransaction body status order).bind f).Costs (cost id) (1, 1) :=
  Costs.bind (m := (1, 0)) (n := (0, 1)) (savePaymentTransaction_costs body status order)
    hf

theorem handleSepayWebhookWithoutContent_costs
    (body : SePayHooksDto) (webHookId attempts : Nat) :
    (handleSepayWebhookWithoutContent body webHookId attempts).Costs (cost id) (1, 1) :=
  saved_costs fun _ => query_costs rfl fun _ => trivial

theorem handleAlreadyProcessedPaymentIntent_costs
    (content orderCode : String) (webHookId attempts : Nat) (idempotencyKey : Int)
    (m : ℕ × ℕ) :
    (handleAlreadyProcessedPaymentIntent content orderCode webHookId attempts
      idempotencyKey).Costs (cost id) m :=
  Costs.of_all (handleAlreadyProcessedPaymentIntent_all _ _ _ _ _ rfl rfl) m

theorem handleMismatch_costs
    (body : SePayHooksDto) (webHookId attempts : Nat) (content : String)
    (paymentIntent : PaymentIntent) (order : Order) :
    (handleMismatch body webHookId attempts content paymentIntent order).Costs
      (cost id) (1, 1) := by
  refine saved_costs fun result => query_costs rfl fun _ => query_costs rfl fun _ =>
    iteInduction (motive := fun p : Service Answer => p.Costs (cost id) (0, 1)) (fun _ => ?_)
      (fun _ => ?_)
  · exact handleAlreadyProcessedPaymentIntent_costs _ _ _ _ _ _
  · trivial

theorem handleExact_costs
    (body : SePayHooksDto) (webHookId attempts : Nat) (content : String)
    (paymentIntent : PaymentIntent) (order : Order) :
    (handleExact body webHookId attempts content paymentIntent order).Costs
      (cost id) (1, 1) := by
  refine saved_costs fun _ => Costs.bind (m := (0, 1)) (n := 0)
    (Costs.bind (m := 0) (n := (0, 1)) (Costs.of_all (All.promiseAll ?_) 0) fun _ =>
      ⟨(0, 1), rfl, fun x => ?_⟩) fun _ => trivial
  · simp [cost]
  · cases x with
    | error e =>
        trivial
    | ok items =>
        exact deductStock_costs _ _ _

theorem handlePayment_costs
    (body : SePayHooksDto) (webHookId attempts : Nat) (content : String)
    (paymentIntent : PaymentIntent) (order : Order) :
    (handlePayment body webHookId attempts content paymentIntent order).Costs
      (cost id) (1, 1) := by
  refine query_costs rfl (fun now => ?_)
  split_ifs
  · exact saved_costs fun _ => Costs.of_all
      (handlePaymentIntentExpired_all _ _ _ _ rfl rfl) _
  · exact saved_costs fun _ => handleAlreadyProcessedPaymentIntent_costs _ _ _ _ _ _
  · exact handleMismatch_costs body _ _ _ _ _
  · exact handleExact_costs body _ _ _ _ _

theorem handleContent_costs
    (body : SePayHooksDto) (webHookId attempts : Nat) (content : String) :
    (handleContent body webHookId attempts content).Costs (cost id) (1, 1) := by
  refine query_costs rfl (fun found => ?_)
  rcases found with _ | ⟨paymentIntent, _ | order⟩
  · exact saved_costs fun _ => query_costs rfl fun _ => trivial
  · exact saved_costs fun _ => query_costs rfl fun _ => trivial
  · exact handlePayment_costs body _ _ _ _ _

/-- What a handler does once the delivery is in the inbox. -/
def handleSaved (body : SePayHooksDto) (webhookInbox : WebhookInbox) :
    Service Answer :=
  let attempts := webhookInbox.attempts.getD 0 + 1
  if webhookInbox.status = some .done then
    ret (.webhookAlreadyProcessed body.id webhookInbox.id)
  else if orderCodeContent body = "" then
    handleSepayWebhookWithoutContent body webhookInbox.id attempts
  else
    handleContent body webhookInbox.id attempts (orderCodeContent body)

theorem handleSepayWebhook_eq (body : SePayHooksDto) :
    handleSepayWebhook body =
      if body.id = 0 then raise (.badRequest HooksMessage.missingWebhookEventId)
      else (query (.saveSepayWebhook body.id body)).bind (handleSaved body) := rfl

/-- **Costs.** One transaction and one deduction pay for a handler. -/
theorem handleSaved_costs (body : SePayHooksDto) (webhookInbox : WebhookInbox) :
    (handleSaved body webhookInbox).Costs (cost id) (1, 1) := by
  unfold handleSaved
  dsimp only
  split_ifs
  · trivial
  · exact handleSepayWebhookWithoutContent_costs body _ _
  · exact handleContent_costs body _ _ _

end Costs

/-! ### The counters -/

/-- One when the inbox has the row of `id`. -/
def seen (id : Int) (w : World) : ℕ :=
  if (inboxRow id w).isSome then 1 else 0

/--
What the deliveries of `id` have done and what the handlers under way may still
do is covered by one delivery.
-/
structure CoveredBy (id : Int) (m : ℕ × ℕ) (w : World) : Prop where
  transactions : (transactionsOf id w).length + m.1 ≤ seen id w
  deductions : (deductionsOf id w).length + m.2 ≤ seen id w

/-- Shares are permissions to create transactions and to deduct. -/
def onceLogic (id : Int) : Logic Stmt World (ℕ × ℕ) where
  inv := CoveredBy id
  rely := fun _ _ => True
  rely_refl := fun _ => trivial
  rely_trans := fun _ _ _ _ _ => trivial
  guard := FirstDelivery
  done := fun _ => True

theorem seen_le_one (id : Int) (w : World) : seen id w ≤ 1 := by
  unfold seen
  split_ifs <;> omega

theorem length_filter_map_le
    {α : Type} {p : α → Bool} {f : α → α}
    (hf : ∀ a, p (f a) = p a) (l : List α) :
    ((l.map f).filter p).length = (l.filter p).length := by
  rw [List.filter_map, List.length_map]
  congr 2
  exact funext hf

variable {dep}

/-- **One statement.** It adds at most its cost. -/
theorem exec_counters
    (id : Int) {s : Stmt} {w w' : World} {r : Response s}
    (h : exec dep s w = .ok (w', r)) :
    (transactionsOf id w').length ≤ (transactionsOf id w).length + (cost id s).1 ∧
      (deductionsOf id w').length ≤ (deductionsOf id w).length + (cost id s).2 := by
  simp only [transactionsOf, deductionsOf, Table.filter]
  rw [(exec_effects dep h).paymentTransactions, (exec_effects dep h).deductions]
  cases s with
  | createWebhookSepayTransaction amount order status delivery =>
      simp only [paymentTransactionsAfter, deductionsAfter, Table.rows_insert,
        List.filter_append, List.length_append, newTransaction, cost]
      by_cases hid : delivery = id <;> simp [hid]
  | decrementVariantsStock variantMap delivery k =>
      simp only [paymentTransactionsAfter, deductionsAfter, List.filter_append,
        List.length_append, cost]
      by_cases hid : delivery = id <;> simp [hid]
  | deleteOrder k =>
      refine ⟨?_, Nat.le_add_right _ _⟩
      simp only [paymentTransactionsAfter, Table.rows_deleteWhere]
      exact (List.filter_sublist.filter _).length_le.trans (Nat.le_add_right _ _)
  | markPaymentNotSuccess paymentId status =>
      refine ⟨?_, Nat.le_add_right _ _⟩
      simp only [paymentTransactionsAfter, Table.update, Table.rows_updateWhere]
      rw [length_filter_map_le (fun t => by split_ifs <;> rfl)]
      exact Nat.le_add_right _ _
  | markOrderAndPaymentSuccess k =>
      refine ⟨?_, Nat.le_add_right _ _⟩
      simp only [paymentTransactionsAfter, Table.rows_updateWhere]
      rw [length_filter_map_le (fun t => by split_ifs <;> rfl)]
      exact Nat.le_add_right _ _
  | _ =>
      exact ⟨Nat.le_add_right _ _, Nat.le_add_right _ _⟩

theorem inboxRow_isSome_iff {key : Int} {w : World} :
    (inboxRow key w).isSome ↔
      ∃ r, r ∈ w.db.webhookInbox.rows ∧ r.gateway = .sepay ∧ r.idempotencyKey = key := by
  simp [inboxRow, Table.findFirst]

/-- Updating inbox rows in place keeps what they are about. -/
theorem inboxRow_isSome_of_map
    {w w' : World} {key : Int} {f : WebhookInbox → WebhookInbox}
    (h : w'.db.webhookInbox.rows = w.db.webhookInbox.rows.map f)
    (hsame : ∀ r, (f r).gateway = r.gateway ∧ (f r).idempotencyKey = r.idempotencyKey)
    (hrow : (inboxRow key w).isSome) :
    (inboxRow key w').isSome := by
  obtain ⟨r, hr, hgateway, hkey⟩ := inboxRow_isSome_iff.mp hrow
  rw [inboxRow_isSome_iff, h]
  exact ⟨f r, List.mem_map_of_mem hr, by rw [(hsame r).1]; exact hgateway,
    by rw [(hsame r).2]; exact hkey⟩

/-- The inbox forgets no id. -/
theorem exec_inboxRow
    {key : Int} {s : Stmt} {w w' : World} {r : Response s}
    (h : exec dep s w = .ok (w', r))
    (hrow : (inboxRow key w).isSome) :
    (inboxRow key w').isSome := by
  cases s with
  | saveSepayWebhook idempotencyKey payload =>
      simp only [exec] at h
      split at h
      · cases h
        exact inboxRow_isSome_of_map rfl (fun r => by split_ifs <;> exact ⟨rfl, rfl⟩) hrow
      · cases h
        obtain ⟨r, hr, hgateway, hkey⟩ := inboxRow_isSome_iff.mp hrow
        exact inboxRow_isSome_iff.mpr ⟨r, List.mem_append_left _ hr, hgateway, hkey⟩
  | updateWebhookStatus webhookId status attempts =>
      simp only [exec] at h
      split at h
      · cases h
      · cases h
        exact inboxRow_isSome_of_map rfl (fun r => by split_ifs <;> exact ⟨rfl, rfl⟩) hrow
  | updateReservedByIds payload origin =>
      simp only [exec] at h
      split at h
      · cases h
      · cases origin <;> cases h <;> exact hrow
  | _ =>
      simp only [exec] at h
      first
        | (cases h; exact hrow)
        | (split at h <;> first
            | (cases h <;> exact hrow)
            | (split at h <;> cases h
               all_goals exact hrow))

/-- After `saveSepayWebhook` the row of its id is there. -/
theorem exec_saveSepayWebhook_inboxRow
    {key : Int} {body : SePayHooksDto} {w w' : World} {r : WebhookInbox}
    (h : exec dep (.saveSepayWebhook key body) w = .ok (w', r)) :
    (inboxRow key w').isSome := by
  cases hrow : inboxRow key w with
  | some row =>
      exact exec_inboxRow h (by simp [hrow])
  | none =>
      have hfind : w.db.webhookInbox.findFirst (fun r =>
          decide (r.gateway = .sepay) && decide (r.idempotencyKey = key)) = none := hrow
      simp only [exec, hfind] at h
      cases h
      exact inboxRow_isSome_iff.mpr
        ⟨_, List.mem_append_right _ (List.mem_singleton.mpr rfl), rfl, rfl⟩

theorem exec_seen
    (id : Int) {s : Stmt} {w w' : World} {r : Response s}
    (h : exec dep s w = .ok (w', r)) :
    seen id w ≤ seen id w' := by
  unfold seen
  by_cases hrow : (inboxRow id w).isSome = true
  · rw [if_pos hrow, if_pos (exec_inboxRow h hrow)]
  · rw [if_neg hrow]
    exact Nat.zero_le _

/-- A statement that takes effect uses up its cost. -/
theorem CoveredBy.of_exec
    {id : Int} {s : Stmt} {w w' : World} {r : Response s} {F : ℕ × ℕ}
    (hinv : CoveredBy id (cost id s + F) w)
    (h : exec dep s w = .ok (w', r)) :
    CoveredBy id F w' := by
  obtain ⟨htransactions, hdeductions⟩ := exec_counters id h
  have hseen := exec_seen id h
  have h₁ := hinv.transactions
  have h₂ := hinv.deductions
  rw [Prod.fst_add] at h₁
  rw [Prod.snd_add] at h₂
  exact ⟨by omega, by omega⟩

theorem CoveredBy.of_le
    {id : Int} {m F : ℕ × ℕ} {w : World}
    (hinv : CoveredBy id (m + F) w) :
    CoveredBy id F w := by
  have h₁ := hinv.transactions
  have h₂ := hinv.deductions
  rw [Prod.fst_add] at h₁
  rw [Prod.snd_add] at h₂
  exact ⟨by omega, by omega⟩

/-- Every statement is paid for by its cost. -/
theorem pays_cost (id : Int) (s : Stmt) :
    Pays (onceLogic id) (exec dep) .database (fun _ => True) s (cost id s) := by
  intro w F o _ hinv _
  refine attempt_cases (motive := fun x => CoveredBy id F x.1 ∧ True)
    (fun _ => ⟨hinv.of_le, trivial⟩) (fun w' r _ h => ?_)
  exact ⟨⟨hinv.of_exec h, trivial⟩, hinv.of_exec h, trivial⟩

/-! ### The services -/

section Services

variable {id : Int} {w : World}

/-- A handler that keeps to its budget is safe. -/
theorem once_of_costs
    {p : Service Answer} {m : ℕ × ℕ}
    (h : p.Costs (cost id) m) :
    SafeHandler (onceLogic id) (exec dep) .database p m w :=
  Safe.of_costs (K := fun _ => True) (P := fun _ => True) (fun _ _ _ _ => trivial)
    (fun s _ => pays_cost id s) (All.of_forall (fun _ => trivial) p) h trivial
    (fun _ _ _ _ => trivial) trivial

/-- A handler without transactions and deductions needs no share. -/
theorem once_of_all
    {p : Service Answer} {P : Stmt → Prop}
    (hp : p.All P)
    (hP : ∀ s, P s → cost id s = 0) :
    SafeHandler (onceLogic id) (exec dep) .database p 0 w :=
  once_of_costs (Costs.of_all (hp.mono hP) 0)

/-- The handler of a delivery of another id is free. -/
theorem cost_of_other
    {body : SePayHooksDto} {s : Stmt}
    (hid : body.id ≠ id)
    (hs : WebhookStatement body s) :
    cost id s = 0 := by
  cases s with
  | createWebhookSepayTransaction amount order status delivery =>
      rcases hs with ⟨-, rfl⟩ | ⟨_, _, hs⟩
      · exact if_neg hid
      · cases hs
  | decrementVariantsStock variantMap delivery k =>
      rcases hs with hs | ⟨_, _, rfl, -⟩
      · cases hs
      · exact if_neg hid
  | _ =>
      rfl

/-- The first delivery of an id gets the two permissions with its inbox row. -/
theorem handleSepayWebhook_once (body : SePayHooksDto) :
    SafeHandler (onceLogic id) (exec dep) .database (handleSepayWebhook body) 0 w := by
  by_cases hid : body.id = id
  · rw [handleSepayWebhook_eq]
    split_ifs
    · exact fun _ _ => trivial
    refine Safe.await_bind (StatementSafe.of_exec (fun _ _ _ _ _ => trivial) ?_)
    intro v F o v' row _ hinv hguard ho h
    have hfirst : inboxRow id v = none := hid ▸ hguard ho
    refine ⟨(1, 1), ?_, trivial, once_of_costs (handleSaved_costs body row),
      fun _ _ => trivial⟩
    -- nothing has been done for this id before
    have hnone : seen id v = 0 := by simp [seen, hfirst]
    have hone : seen id v' = 1 :=
      if_pos (hid ▸ exec_saveSepayWebhook_inboxRow h)
    obtain ⟨htransactions, hdeductions⟩ := exec_counters id h
    have h₁ := hinv.transactions
    have h₂ := hinv.deductions
    rw [zero_add] at h₁ h₂
    have hcost : cost id (.saveSepayWebhook body.id body) = 0 := rfl
    rw [hcost] at htransactions hdeductions
    simp only [Prod.fst_zero, Prod.snd_zero] at htransactions hdeductions
    constructor
    · rw [Prod.fst_add, hone]
      omega
    · rw [Prod.snd_add, hone]
      omega
  · exact once_of_all (handleSepayWebhook_all body) fun s hs => cost_of_other hid hs

end Services

/-! ### Runs -/

theorem handler_once (id : Int) (w : World) (r : Request) :
    SafeHandler (onceLogic id) (exec dep) .database (handler dep r) 0 w := by
  cases r with
  | createCheckout body guestSessionId userId =>
      exact once_of_all (createCheckout_all dep body guestSessionId userId)
        fun s hs => by cases s <;> first | rfl | cases hs
  | sepayWebhook body =>
      exact handleSepayWebhook_once body
  | getPaymentStatus orderCode =>
      exact once_of_all (getPaymentStatus_all orderCode)
        fun s hs => by cases s <;> first | rfl | cases hs
  | cleanOrder =>
      exact once_of_all cleanOrder_all fun s hs => by cases s <;> first | rfl | cases hs
  | updateOrderStatus orderId body =>
      exact once_of_all (updateOrderStatus_all orderId body)
        fun s hs => by cases s <;> first | rfl | cases hs
  | createStockImport createdById body =>
      exact once_of_all (createStockImport_all createdById body)
        fun s hs => by cases s <;> first | rfl | cases hs

theorem environment_once (id : Int) :
    EnvSafe (onceLogic id) (server dep) (fun _ _ => True) := by
  refine envSafe_of_events dep (fun w _ r _ _ => handler_once id w r) ?_ ?_ ?_
  · intro w F i payload hinv _ _
    refine ⟨trivial, 0, by rw [zero_add]; exact ⟨hinv.1, hinv.2⟩, ?_⟩
    exact once_of_all (processCheckout_all payload)
      fun s hs => by cases s <;> first | rfl | cases hs
  · exact fun w F v hinv _ => ⟨trivial, hinv.1, hinv.2⟩
  · exact fun w F ms hinv _ => ⟨trivial, hinv.1, hinv.2⟩

theorem coveredBy_fresh {w : World} (hw : Fresh w) (id : Int) : CoveredBy id 0 w := by
  constructor
  · simp [transactionsOf, Table.filter, hw.paymentTransactions]
  · simp [deductionsOf, hw.history]

/-- A first delivery is no repetition. -/
theorem refusesRepeat_of_first
    {c : ServerState} {a : Action Event}
    (h : System.Conforms (fun _ (_ : Event) => True) FirstDelivery c a) :
    RefusesRepeat dep c a := by
  rintro i j key body row c' rfl hnext hrow - -
  simp only [System.Conforms, hnext] at h
  rw [h (by simp)] at hrow
  cases hrow

variable (dep)

/--
In every run in which no delivery that reaches the inbox finds the row of its id,
the deliveries of each id create at most one transaction and cause at most one
deduction, and a repeated delivery is refused.
-/
theorem webhook_idempotent
    {w : World} {c' : ServerState} {as : List (Action Event)}
    (hw : Fresh w)
    (hmeets : Meets (server dep).step
      (System.Conforms (fun _ _ => True) FirstDelivery) ⟨w, []⟩ as)
    (hrun : runs (server dep).step ⟨w, []⟩ as = some c') :
    (∀ id, ProcessedOnce id c'.world) ∧
      Meets (server dep).step (RefusesRepeat dep) ⟨w, []⟩ as := by
  refine ⟨fun id => ?_, hmeets.mono fun _ _ => refusesRepeat_of_first⟩
  have hstart : Balanced (onceLogic id) (server dep) ⟨w, []⟩ :=
    balanced_start (coveredBy_fresh hw id)
  obtain ⟨ms, -, hinv⟩ := balanced_runs (environment_once id) hstart hmeets hrun
  have hinv : CoveredBy id ms.sum c'.world := hinv
  have hseen := seen_le_one id c'.world
  have h₁ := hinv.transactions
  have h₂ := hinv.deductions
  exact ⟨by omega, by omega⟩

set_option maxRecDepth 4000 in
/-- The delivery that pays the order of `placedThenPaid` is processed once. -/
theorem webhook_idempotent_placedThenPaid :
    ∃ c', runs (server sampleDeployment).step ⟨sampleWorld 5, []⟩ placedThenPaid =
        some c' ∧
      (∀ id, ProcessedOnce id c'.world) ∧ (deductionsOf 7 c'.world).length = 1 := by
  have hdeducted : ((runs (server sampleDeployment).step ⟨sampleWorld 5, []⟩
      placedThenPaid).map fun c => (deductionsOf 7 c.world).length) = some 1 := by
    decide +kernel
  obtain ⟨c', hrun, hone⟩ := Option.map_eq_some_iff.mp hdeducted
  exact ⟨c', hrun, (webhook_idempotent sampleDeployment (sampleWorld_fresh 5)
    (by decide +kernel) hrun).1, hone⟩

/-- The order is paid, and the same delivery comes once more. -/
def deliveredTwice : List (Action Event) :=
  placedThenPaid ++ .env (.arrive (sampleTransfer 7 "VLR0" 120000)) :: steps 3 8

set_option maxRecDepth 4000 in
/-- The inbox row was `DONE`, and yet the second delivery creates a transaction. -/
theorem deliveredTwice_processed_twice :
    ¬ ∀ (w : World) (as : List (Action Event)) (c' : ServerState), Fresh w →
      runs (server sampleDeployment).step ⟨w, []⟩ as = some c' →
      (∀ id, ProcessedOnce id c'.world) ∧
        Meets (server sampleDeployment).step (RefusesRepeat sampleDeployment)
          ⟨w, []⟩ as := by
  intro h
  have htwice : ((runs (server sampleDeployment).step ⟨sampleWorld 5, []⟩
      deliveredTwice).map fun c => (transactionsOf 7 c.world).length) = some 2 := by
    decide +kernel
  obtain ⟨c', hrun, htwo⟩ := Option.map_eq_some_iff.mp htwice
  have hone := ((h (sampleWorld 5) deliveredTwice c' (sampleWorld_fresh 5) hrun).1
    7).transactions
  omega

end BookStore
