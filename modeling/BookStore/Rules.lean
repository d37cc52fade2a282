import BookStore.Effects

/-!
# Rules for the payment services

The webhook and the status poll look for an intent and its order before they
settle anything.  The rules here walk through the lookups in any logic; what is
left to prove is about the order that was found.
-/

namespace BookStore

open Async Program Logic

variable {dep : Deployment}

section Codes

variable (dep)

theorem sameText_comm (s t : String) : dep.sameText s t = dep.sameText t s := by
  simp [Deployment.sameText, eq_comm]

theorem sameText_trans
    {s t u : String}
    (hst : dep.sameText s t = true)
    (htu : dep.sameText t u = true) :
    dep.sameText s u = true := by
  simp only [Deployment.sameText, decide_eq_true_eq] at *
  exact hst.trans htu

/-- A text is the code of one order only. -/
theorem orderCodes_unique
    {s : String} {j k : Nat}
    (hj : dep.sameText s (dep.orderCodes j) = true)
    (hk : dep.sameText s (dep.orderCodes k) = true) :
    j = k := by
  simp only [Deployment.sameText, decide_eq_true_eq] at hj hk
  exact dep.orderCodes_injective (hj.symm.trans hk)

end Codes

section Rules

variable {M : Type} [AddCommMonoid M] {L : Logic Stmt World M} {m : M} {w : World}

/-- What `findByContent` has read when it has found both rows. -/
theorem findByContent_eq_some
    {content : String} {i : PaymentIntent} {order : Order}
    (h : ((w.db.paymentIntents.findFirst fun i =>
        i.content.any (fun c => dep.sameText c content)).map fun i =>
          (i, w.db.orders.findFirst fun o => dep.sameText o.orderCode i.orderCode)) =
      some (i, some order)) :
    i ∈ w.db.paymentIntents.rows ∧
      i.content.any (fun c => dep.sameText c content) = true ∧
      order ∈ w.db.orders.rows ∧ dep.sameText order.orderCode i.orderCode = true := by
  obtain ⟨i', hi', heq⟩ := Option.map_eq_some_iff.mp h
  obtain ⟨rfl, horder⟩ := Prod.mk.inj heq
  obtain ⟨hi, hcontent⟩ := Table.findFirst_eq_some hi'
  obtain ⟨ho, hcode⟩ := Table.findFirst_eq_some horder
  exact ⟨hi, hcontent, ho, hcode⟩

/--
The webhook is safe if its statements before the payment are harmless and the
payment of an order that was found is safe.
-/
theorem handleSepayWebhook_safe
    {body : SePayHooksDto}
    (hdone : ∀ m, L.done m)
    (hsave : Harmless L (exec dep) .database (fun _ => True)
      (.saveSepayWebhook body.id body))
    (hinbox : ∀ id status attempts, Harmless L (exec dep) .database (fun _ => True)
      (.updateWebhookStatus id status attempts))
    (hunmatched : Harmless L (exec dep) .database (fun _ => True)
      (.createWebhookSepayTransaction body.transferAmount none .notFoundOrderCode body.id))
    (hpayment : ∀ v F webHookId attempts i order, L.inv (m + F) v →
      i ∈ v.db.paymentIntents.rows →
      i.content.any (fun c => dep.sameText c (orderCodeContent body)) = true →
      order ∈ v.db.orders.rows → dep.sameText order.orderCode i.orderCode = true →
      SafeHandler L (exec dep) .database
        (handlePayment body webHookId attempts (orderCodeContent body) i order) m v) :
    SafeHandler L (exec dep) .database (handleSepayWebhook body) m w := by
  -- a program of such statements is safe wherever it stands
  have hall : ∀ {v : World} (p : Service Answer),
      p.All (Harmless L (exec dep) .database fun _ => True) →
      SafeHandler L (exec dep) .database p m v :=
    fun p hp => Safe.of_all (K := fun _ => True) (fun _ _ _ _ => trivial) hp (hdone 0)
      (fun _ _ _ => hdone m) trivial
  unfold handleSepayWebhook
  split
  · exact fun _ _ => hdone m
  refine Safe.await_bind (hsave.statementSafe (fun _ _ => trivial) fun x v _ => ?_)
  rcases x with err | inbox
  · exact fun _ _ => hdone m
  show Safe _ _ _ _ (if _ then _ else if _ then _ else _) _ _
  split
  · exact fun _ _ => hdone m
  split
  · exact hall _ (All.bind (All.await hunmatched) fun _ =>
      All.bind (All.await (hinbox _ _ _)) fun _ => trivial)
  refine Safe.await_bind (StatementSafe.of_read _ (fun _ => rfl) ?_
    (fun _ _ _ _ _ => hdone m))
  intro v F _ hinv
  generalize hfound : Option.map _ _ = found
  rcases found with _ | ⟨i, _ | order⟩
  · exact hall _ (All.bind (All.await hunmatched) fun _ =>
      All.bind (All.await (hinbox _ _ _)) fun _ => trivial)
  · exact hall _ (All.bind (All.await hunmatched) fun _ =>
      All.bind (All.await (hinbox _ _ _)) fun _ => trivial)
  · obtain ⟨hi, hcontent, ho, hcode⟩ := findByContent_eq_some hfound
    exact hpayment v F _ _ i order hinv hi hcontent ho hcode

/--
The status poll is safe if it is harmless to settle the order of an intent that
was found to be successful.
-/
theorem getPaymentStatus_safe
    {K : Nat → World → Prop}
    (hdone : ∀ m, L.done m)
    (hK : ∀ k v v', K k v → L.rely v v' → K k v')
    (horder : ∀ m v, L.inv m v → ∀ k o, v.db.orders.find k = some o →
      o.orderCode = dep.orderCodes k)
    (hintent : ∀ m v, L.inv m v → ∀ i, i ∈ v.db.paymentIntents.rows →
      i.status = some .success →
      ∃ k, dep.sameText i.orderCode (dep.orderCodes k) = true ∧ K k v)
    (hmark : ∀ k, Harmless L (exec dep) .database (K k) (.markOrderAndPaymentSuccess k))
    (orderCode : String) :
    SafeHandler L (exec dep) .database (getPaymentStatus orderCode) m w := by
  refine Safe.await_bind (StatementSafe.of_read _ (fun _ => rfl) ?_
    (fun _ _ _ _ _ => hdone m))
  intro v F _ hinv
  generalize hpayment : v.db.paymentIntents.findFirst _ = payment
  rcases payment with _ | i
  · exact fun _ _ => hdone m
  show Safe _ _ _ _ (if _ then _ else _) _ _
  split
  · rename_i hsuccess
    obtain ⟨hi, hicode⟩ := Table.findFirst_eq_some hpayment
    obtain ⟨k, hik, hk⟩ := hintent _ v hinv i hi hsuccess
    refine Safe.await_bind (StatementSafe.of_read _ (fun _ => rfl) ?_
      (fun _ _ _ _ _ => hdone m))
    intro v' F' hvv' hinv'
    generalize hfound : v'.db.orders.findFirst _ = found
    rcases found with _ | order
    · exact fun _ _ => hdone m
    show Safe _ _ _ _ (if _ then _ else _) _ _
    split
    · -- the order that is found has the number of the intent
      obtain ⟨ho, hocode⟩ := Table.findFirst_eq_some hfound
      have hfind : v'.db.orders.find order.id = some order := Table.find_of_mem ho
      rw [horder _ _ hinv' _ _ hfind] at hocode
      have hsame : dep.sameText i.orderCode (dep.orderCodes order.id) = true :=
        sameText_trans dep hicode (by rw [sameText_comm]; exact hocode)
      obtain rfl := orderCodes_unique dep hik hsame
      exact Safe.of_all (K := K order.id) (hK order.id)
        (All.bind (All.await (hmark order.id)) fun _ => trivial) (hdone 0)
        (fun _ _ _ => hdone m) (hK _ _ _ hk hvv')
    · exact fun _ _ => hdone m
  · exact fun _ _ => hdone m

end Rules

end BookStore
