import BookStore.Effects
import Mathlib.Algebra.Order.PUnit

/-!
# Notifications that have no effect on orders

SePay notifies of outgoing transfers too.  `handleSepayWebhook` does not look at
`transferType`: what a notification does depends on its id and its content.

* `SameShop` is what an ignored notification leaves alone.
* `outgoing_ignored_iff` says for which notifications the handler, by itself, does so,
  however its statements end and in whatever order they are executed.
-/

namespace BookStore

open Async Program Logic

/-- Orders, intents, payment transactions of orders and variants are as they were. -/
structure SameShop (w w' : World) : Prop where
  orders : w'.db.orders = w.db.orders
  paymentIntents : w'.db.paymentIntents = w.db.paymentIntents
  transactions : ∀ k : Nat,
    w'.db.paymentTransactions.filter (fun t => decide (t.orderId = some k)) =
      w.db.paymentTransactions.filter (fun t => decide (t.orderId = some k))
  variants : w'.db.variants = w.db.variants

theorem SameShop.refl (w : World) : SameShop w w :=
  ⟨rfl, rfl, fun _ => rfl, rfl⟩

theorem SameShop.trans
    {u v w : World}
    (huv : SameShop u v)
    (hvw : SameShop v w) :
    SameShop u w where
  orders := hvw.orders.trans huv.orders
  paymentIntents := hvw.paymentIntents.trans huv.paymentIntents
  transactions := fun k => (hvw.transactions k).trans (huv.transactions k)
  variants := hvw.variants.trans huv.variants

variable (dep : Deployment)

/-- What `findByContent` answers. -/
def intentOfContent (content : String) (w : World) : Option (PaymentIntent × Option Order) :=
  (w.db.paymentIntents.findFirst fun i =>
    i.content.any (fun c => dep.sameText c content)).map fun i =>
      (i, w.db.orders.findFirst fun o => dep.sameText o.orderCode i.orderCode)

/-- The notification has no id, no content, or names no intent of an order. -/
def NamesNoOrder (body : SePayHooksDto) (w : World) : Prop :=
  body.id = 0 ∨ orderCodeContent body = "" ∨
    ((intentOfContent dep (orderCodeContent body) w).bind Prod.snd) = none

/-- Statements that leave orders, intents and variants alone. -/
def LeavesShop : Stmt → Prop
  | .saveSepayWebhook _ _ => True
  | .updateWebhookStatus _ _ _ => True
  | .createWebhookSepayTransaction _ order _ _ => order = none
  | _ => False

variable {dep}

theorem exec_sameShop
    {s : Stmt} {w w' : World} {r : Response s}
    (hs : LeavesShop s)
    (h : exec dep s w = .ok (w', r)) :
    SameShop w w' := by
  have heff := exec_effects dep h
  cases s with
  | saveSepayWebhook key payload =>
      exact ⟨heff.orders, heff.paymentIntents,
        fun k => by rw [heff.paymentTransactions]; rfl, heff.variants⟩
  | updateWebhookStatus webhookId status attempts =>
      exact ⟨heff.orders, heff.paymentIntents,
        fun k => by rw [heff.paymentTransactions]; rfl, heff.variants⟩
  | createWebhookSepayTransaction amount order status delivery =>
      obtain rfl : order = none := hs
      refine ⟨heff.orders, heff.paymentIntents, fun k => ?_, heff.variants⟩
      rw [heff.paymentTransactions, paymentTransactionsAfter, Table.filter,
        Table.rows_insert, List.filter_append]
      simp [newTransaction, Table.filter]
  | _ =>
      cases hs

/-! ### Ignored notifications -/

/-- The shop is as it was at the start. -/
def sameShopLogic (start : World) : Logic Stmt World Unit where
  inv := fun _ w => SameShop start w
  rely := fun _ _ => True
  rely_refl := fun _ => trivial
  rely_trans := fun _ _ _ _ _ => trivial
  guard := fun _ _ _ => True
  done := fun _ => True

variable {start : World}

theorem harmless_leavesShop
    {s : Stmt} (hs : LeavesShop s) (K : World → Prop) :
    Harmless (sameShopLogic start) (exec dep) .database K s := by
  intro w _ o _ hinv _
  exact ⟨attempt_of_exec (P := fun w w' => SameShop start w → SameShop start w')
    (fun _ h => h) (fun _ _ h hw => hw.trans (exec_sameShop hs h)) o hinv, trivial⟩

theorem safe_leavesShop
    {p : Service Answer} (hp : p.All LeavesShop) (w : World) :
    SafeHandler (sameShopLogic start) (exec dep) .database p () w :=
  Safe.of_all (K := fun _ => True) (fun _ _ _ _ => trivial)
    (hp.mono fun _ hs => harmless_leavesShop hs _) trivial (fun _ _ _ => trivial) trivial

theorem handleSepayWebhook_leavesShop
    {body : SePayHooksDto}
    (h : NamesNoOrder dep body start) (w : World) :
    SafeHandler (sameShopLogic start) (exec dep) .database
      (handleSepayWebhook body) () w := by
  unfold handleSepayWebhook
  split
  · exact fun _ _ => trivial
  rename_i hid
  have hsave : Harmless (sameShopLogic start) (exec dep) .database (fun _ => True)
      (.saveSepayWebhook body.id body) :=
    harmless_leavesShop (s := .saveSepayWebhook body.id body) trivial _
  have hsaved : (savePaymentTransaction body .notFoundOrderCode none).All LeavesShop :=
    All.await rfl
  have hstatus : ∀ webhookId status attempts (answer : Service Answer),
      answer.All LeavesShop →
      ((query (.updateWebhookStatus webhookId status attempts)).bind
        fun _ => answer).All LeavesShop :=
    fun webhookId status attempts _ hanswer =>
      All.bind (All.await (s := Stmt.updateWebhookStatus webhookId status attempts) trivial)
        fun _ => hanswer
  refine Safe.await_bind (hsave.statementSafe (fun _ _ => trivial) fun x v _ => ?_)
  rcases x with err | inbox
  · exact fun _ _ => trivial
  show Safe _ _ _ _ (if _ then _ else if _ then _ else _) _ _
  split
  · exact fun _ _ => trivial
  split
  · exact safe_leavesShop (All.bind hsaved fun _ => hstatus _ _ _ _ (by trivial)) v
  rename_i hcontent
  refine Safe.await_bind (StatementSafe.of_read
    (intentOfContent dep (orderCodeContent body)) (fun _ => rfl) ?_
    (fun _ _ _ _ _ => trivial))
  intro v F _ hinv
  have hfound : (intentOfContent dep (orderCodeContent body) v).bind Prod.snd = none := by
    have hsame : intentOfContent dep (orderCodeContent body) v =
        intentOfContent dep (orderCodeContent body) start := by
      have hinv : SameShop start v := hinv
      simp only [intentOfContent, hinv.orders, hinv.paymentIntents]
    rw [hsame]
    exact (h.resolve_left hid).resolve_left hcontent
  cases hanswer : intentOfContent dep (orderCodeContent body) v with
  | none =>
      exact safe_leavesShop (All.bind hsaved fun _ => hstatus _ _ _ _ (by trivial)) v
  | some found =>
      obtain ⟨intent, order⟩ := found
      rw [hanswer, Option.bind_some] at hfound
      obtain rfl : order = none := hfound
      exact safe_leavesShop (All.bind hsaved fun _ => hstatus _ _ _ _ (by trivial)) v

/-- Whatever the handler does by itself leaves the shop alone. -/
theorem runs_sameShop
    {body : SePayHooksDto} {w : World} {c' : ServerState} {as : List (Action Event)}
    (h : NamesNoOrder dep body w)
    (has : ∀ a, a ∈ as → a.thread ≠ none)
    (hrun : runs (server dep).step ⟨w, [handleSepayWebhook body]⟩ as = some c') :
    SameShop w c'.world := by
  have henv : EnvSafe (sameShopLogic w) (server dep) (fun _ _ => False) :=
    fun _ _ _ _ _ _ hno _ => hno.elim
  have hstart : Balanced (sameShopLogic w) (server dep) ⟨w, [handleSepayWebhook body]⟩ :=
    ⟨[()], .cons (handleSepayWebhook_leavesShop h w) .nil, .refl w⟩
  have hmeets : Meets (server dep).step
      (System.Conforms (fun _ _ => False) (sameShopLogic w).guard)
      ⟨w, [handleSepayWebhook body]⟩ as := by
    refine Meets.of_forall_mem fun a ha c => ?_
    cases a with
    | env e =>
        exact has _ ha rfl
    | run i j o =>
        simp only [System.Conforms, sameShopLogic]
        split <;> trivial
  obtain ⟨_, -, hinv⟩ := balanced_runs henv hstart hmeets hrun
  exact hinv

/-! ### The others -/

/-- One step of a handler that is alone. -/
theorem runs_call
    {s : Stmt} {k : Except Failure (Response s) → Service Answer} {w w' : World}
    {r : Response s} {as : List (Action Event)}
    (h : exec dep s w = .ok (w', r)) :
    runs (server dep).step ⟨w, [.call s k]⟩ (.run 0 0 .ok :: as) =
      runs (server dep).step ⟨w', [k (.ok r)]⟩ as := by
  have hattempt : attempt (server dep).exec (server dep).fault s .ok w = (w', .ok r) := by
    have h : (server dep).exec s w = .ok (w', r) := h
    simp only [attempt, h]
  simp [runs, System.step, System.advance, hattempt]

/-- Whatever the amount and the time, a payment is recorded first. -/
theorem handlePayment_records
    (body : SePayHooksDto) (webHookId attempts : Nat) (content : String)
    (intent : PaymentIntent) (order : Order) (now : Nat) :
    ∃ status k, (if intent.expiredAt < now then (do
        let _ ← savePaymentTransaction body .expired (some order)
        handlePaymentIntentExpired content webHookId attempts intent.orderCode)
      else if intent.status = some .success then (do
        let _ ← savePaymentTransaction body .success (some order)
        handleAlreadyProcessedPaymentIntent content intent.orderCode webHookId
          attempts body.id)
      else if body.transferAmount ≠ order.totalAmount.getD 0 then
        handleMismatch body webHookId attempts content intent order
      else
        handleExact body webHookId attempts content intent order) =
      .call (.createWebhookSepayTransaction body.transferAmount
        (some (order.id, order.userId)) status body.id) k := by
  split_ifs
  · exact ⟨_, _, rfl⟩
  · exact ⟨_, _, rfl⟩
  · exact ⟨_, _, rfl⟩
  · exact ⟨_, _, rfl⟩

variable (dep) in
/-- A notification is taken in, and awaits processing again. -/
theorem exec_saveSepayWebhook (body : SePayHooksDto) (w : World) :
    ∃ w' inbox, exec dep (.saveSepayWebhook body.id body) w = .ok (w', inbox) ∧
      inbox.status = some .pending := by
  simp only [exec]
  split
  · exact ⟨_, _, rfl, rfl⟩
  · exact ⟨_, _, rfl, rfl⟩

/-- A notification that names an order leaves a payment transaction of it. -/
theorem exists_run_of_namesOrder
    {body : SePayHooksDto} {w : World}
    (h : ¬ NamesNoOrder dep body w) :
    ∃ as c', (∀ a, a ∈ as → a.thread ≠ none) ∧
      runs (server dep).step ⟨w, [handleSepayWebhook body]⟩ as = some c' ∧
      ¬ SameShop w c'.world := by
  simp only [NamesNoOrder, not_or] at h
  obtain ⟨hid, hcontent, hfound⟩ := h
  obtain ⟨order, horder⟩ := Option.ne_none_iff_exists'.mp hfound
  obtain ⟨⟨intent, found⟩, hintent, rfl⟩ := Option.bind_eq_some_iff.mp horder
  -- the order that is named exists
  have hexists : (w.db.orders.find order.id).isSome := by
    obtain ⟨i, -, heq⟩ := Option.map_eq_some_iff.mp hintent
    have horder := (Prod.mk.inj heq).2
    have hmem := (Table.findFirst_eq_some horder).1
    rw [show w.db.orders.find order.id = some order from Table.find_of_mem hmem]
    rfl
  obtain ⟨w₁, inbox, hsave, hpending⟩ := exec_saveSepayWebhook dep body w
  have hsame : SameShop w w₁ :=
    exec_sameShop (s := .saveSepayWebhook body.id body) trivial hsave
  have hread : exec dep (.findByContent (orderCodeContent body)) w₁ =
      .ok (w₁, some (intent, some order)) := by
    rw [← hintent, intentOfContent, ← hsame.orders, ← hsame.paymentIntents]
    rfl
  let w₂ : World := { w₁ with
    history.handled := w₁.history.handled ++ [(body, w₁.now)] }
  have hdate : exec dep (.newDate body) w₁ = .ok (w₂, w₁.now) := rfl
  obtain ⟨status, k, hrecords⟩ := handlePayment_records body inbox.id
    (inbox.attempts.getD 0 + 1) (orderCodeContent body) intent order w₁.now
  have hcreate : ∃ w₃ r, exec dep (.createWebhookSepayTransaction body.transferAmount
      (some (order.id, order.userId)) status body.id) w₂ = .ok (w₃, r) := by
    have : (w₂.db.orders.find order.id).isSome := by
      rw [show w₂.db.orders = w.db.orders from hsame.orders]
      exact hexists
    simp only [exec, Option.all_some, this, if_true]
    exact ⟨_, _, rfl⟩
  obtain ⟨w₃, r, hcreate⟩ := hcreate
  refine ⟨List.replicate 4 (.run 0 0 .ok), ⟨w₃, [k (.ok r)]⟩, ?_, ?_, ?_⟩
  · simp [Action.thread]
  · have hnotDone : inbox.status ≠ some .done := by simp [hpending]
    simp only [handleSepayWebhook, hid, if_false, bind_eq_bind, bind_await]
    rw [List.replicate_succ, runs_call hsave]
    simp only [resume, hnotDone, hcontent, if_false]
    simp only [handleContent, bind_eq_bind, bind_await]
    rw [List.replicate_succ, runs_call hread]
    simp only [resume, handlePayment, bind_eq_bind, bind_await]
    rw [List.replicate_succ, runs_call hdate]
    simp only [resume]
    have hrecords := hrecords
    simp only [bind_eq_bind] at hrecords
    rw [hrecords, List.replicate_succ, runs_call hcreate]
    rfl
  · intro hshop
    have hrows := congrArg List.length ((hshop.transactions order.id).trans
      (hsame.transactions order.id).symm)
    rw [(exec_effects dep hcreate).paymentTransactions, paymentTransactionsAfter,
      Table.filter, Table.rows_insert, List.filter_append, List.length_append] at hrows
    simp [newTransaction, Table.filter, w₂] at hrows

variable (dep) in
/--
By itself, however its statements end, the handler leaves the shop alone exactly if
the notification names no order.  `transferType` makes no difference.
-/
theorem outgoing_ignored_iff (body : SePayHooksDto) (w : World) :
    (∀ as c', (∀ a, a ∈ as → a.thread ≠ none) →
      runs (server dep).step ⟨w, [handleSepayWebhook body]⟩ as = some c' →
      SameShop w c'.world) ↔
    NamesNoOrder dep body w := by
  constructor
  · intro h
    by_contra hnames
    obtain ⟨as, c', has, hrun, hchanged⟩ := exists_run_of_namesOrder hnames
    exact hchanged (h as c' has hrun)
  · exact fun h as c' has hrun => runs_sameShop h has hrun

/-- A notification of an outgoing transfer of the price of `sampleGuest .sepay 1`. -/
def outgoingTransfer : SePayHooksDto where
  id := 7
  content := some "VLR0"
  transferType := "out"
  transferAmount := 120000
  transferAmount_nonneg := by decide

/-- The order is placed. -/
def orderPlaced : ServerState :=
  (runs (server sampleDeployment).step ⟨sampleWorld 5, []⟩
    (.env (.arrive (sampleGuest .sepay 1)) :: steps 0 6 ++
      .env (.startJob 0) :: steps 1 4)).getD ⟨sampleWorld 5, []⟩

set_option maxRecDepth 4000 in
/-- The outgoing transfer pays the order. -/
theorem outgoingTransfer_pays :
    ¬ ∀ (c : ServerState) (before as : List (Action Event)) (c' : ServerState)
        (body : SePayHooksDto),
      runs (server sampleDeployment).step ⟨sampleWorld 5, []⟩ before = some c →
      body.transferType ≠ "in" →
      (∀ a, a ∈ as → a.thread ≠ none) →
      runs (server sampleDeployment).step ⟨c.world, [handleSepayWebhook body]⟩ as =
        some c' →
      SameShop c.world c'.world := by
  intro h
  obtain ⟨c, hrun⟩ := Option.isSome_iff_exists.mp
    (by decide +kernel : (runs (server sampleDeployment).step ⟨sampleWorld 5, []⟩
      (.env (.arrive (sampleGuest .sepay 1)) :: steps 0 6 ++
        .env (.startJob 0) :: steps 1 4)).isSome)
  have hplaced : orderPlaced = c := by
    rw [orderPlaced, hrun]
    rfl
  have hpaid : ((runs (server sampleDeployment).step
      ⟨orderPlaced.world, [handleSepayWebhook outgoingTransfer]⟩ (steps 0 15)).filter
        fun c' => decide (c'.world.db.orders.rows ≠ orderPlaced.world.db.orders.rows)).isSome =
          true := by
    decide +kernel
  rw [hplaced] at hpaid
  obtain ⟨c', hc'⟩ := Option.isSome_iff_exists.mp hpaid
  obtain ⟨hc', hrows⟩ := Option.filter_eq_some_iff.mp hc'
  have hsame := h c _ _ c' outgoingTransfer hrun (by decide)
    (by simp [steps, Action.thread]) hc'
  rw [hsame.orders] at hrows
  simp at hrows

end BookStore
