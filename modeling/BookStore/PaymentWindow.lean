import BookStore.PaidBacked

/-!
# The payment window and the cleanup

A payment intent can be paid until its `expiredAt`.  The transaction of `clearOrder`
cancels every unpaid order whose own `expiredAt` lies less than
`PAYMENT_INTENT_EXPIRES_IN_MS` ahead.

* `ClearsClosed` is what an execution of `clearOrder` should leave alone, and
  `ClearsYoung` the condition that it has to find.
* `WindowInv` relates the two instants of an order and its intent.
-/

namespace BookStore

open Async

variable (dep : Deployment)

/-- The order has an intent that has not expired. -/
def WindowOpen (o : Order) (w : World) : Prop :=
  ∃ i, i ∈ w.db.paymentIntents.rows ∧ dep.sameText i.orderCode o.orderCode = true ∧
    w.now ≤ i.expiredAt

instance (o : Order) (w : World) : Decidable (WindowOpen dep o w) :=
  inferInstanceAs (Decidable (∃ i, i ∈ w.db.paymentIntents.rows ∧
    dep.sameText i.orderCode o.orderCode = true ∧ w.now ≤ i.expiredAt))

/-- The cleanup moves no order to `CANCELLED` whose window is open. -/
def ClearsClosed (w : World) (s : Stmt) (o : Outcome) : Prop :=
  match s with
  | .clearOrder _ =>
      ∀ k r r', w.db.orders.find k = some r → r.status ≠ some .cancelled →
        WindowOpen dep r w →
        (attempt (exec dep) .database s o w).1.db.orders.find k = some r' →
        r'.status ≠ some .cancelled
  | _ => True

/--
When the cleanup is executed, each unpaid order whose window is open expires at
least `PAYMENT_INTENT_EXPIRES_IN_MS` later.
-/
def ClearsYoung (w : World) (s : Stmt) (o : Outcome) : Prop :=
  match s with
  | .clearOrder _ =>
      o = .fail ∨ ∀ r, r ∈ w.db.orders.rows → r.status = some .pendingPayment →
        WindowOpen dep r w → w.now + paymentIntentExpiresInMs ≤ r.expiredAt
  | _ => True

instance (w : World) (s : Stmt) (o : Outcome) : Decidable (ClearsYoung dep w s o) := by
  apply Stmt.casesOn (motive := fun s => Decidable (ClearsYoung dep w s o)) s <;>
    intros <;> unfold ClearsYoung <;> infer_instance

/-- **One execution.** It leaves open windows alone exactly if it finds them young. -/
theorem clearsClosed_iff (w : World) (s : Stmt) (o : Outcome) :
    ClearsClosed dep w s o ↔ ClearsYoung dep w s o := by
  cases s with
  | clearOrder variantMap =>
      by_cases ho : o = .fail
      · subst ho
        refine iff_of_true (fun k r r' hr hstatus _ hr' => ?_) (.inl rfl)
        rw [attempt, hr, Option.some.injEq] at hr'
        exact hr' ▸ hstatus
      obtain ⟨w', hexec⟩ : ∃ w', exec dep (.clearOrder variantMap) w = .ok (w', ()) :=
        ⟨_, rfl⟩
      have horders := (exec_effects dep hexec).orders
      simp only [ordersAfter] at horders
      simp only [ClearsClosed, ClearsYoung, ho, false_or, attempt_fst ho hexec, horders]
      constructor
      · intro h r hr hstatus hopen
        by_contra hlt
        have hexpired : isExpired w.now r = true := by
          simp only [isExpired, hstatus, decide_true, Bool.and_true, decide_eq_true_eq]
          omega
        have hr' := Table.find_of_mem hr
        refine h _ r { r with status := some .cancelled, paymentStatus := some .expired }
          hr' (by simp [hstatus]) hopen ?_ rfl
        rw [Table.find_updateWhere, hr', Option.map_some, if_pos hexpired]
      · intro h k r r' hr hstatus hopen hr'
        rcases Table.find_updateWhere_old hr hr' with ⟨hexpired, -⟩ | ⟨-, rfl⟩
        · simp only [isExpired, Bool.and_eq_true, decide_eq_true_eq] at hexpired
          have := h r (Table.find_mem hr) hexpired.2 hopen
          omega
        · exact hstatus
  | _ =>
      exact Iff.rfl

/-! ### The two instants -/

/-- An intent expires at most 40 minutes before its order. -/
structure WindowInv (w : World) : Prop where
  orderCode : ∀ k o, w.db.orders.find k = some o → o.orderCode = dep.orderCodes k
  intentCode : ∀ i, i ∈ w.db.paymentIntents.rows →
    ∃ k, k < w.db.orders.next ∧ dep.sameText i.orderCode (dep.orderCodes k) = true
  created : ∀ k o, w.db.orders.find k = some o →
    o.expiredAt ≤ w.now + orderExpiredSeconds * 1000
  window : ∀ k o i, w.db.orders.find k = some o → i ∈ w.db.paymentIntents.rows →
    dep.sameText i.orderCode o.orderCode = true →
    o.expiredAt + paymentIntentExpiresInMs ≤ i.expiredAt + orderExpiredSeconds * 1000

variable {dep}

/-- An intent is an old one, or it was just created. -/
theorem exec_intent_origin
    {s : Stmt} {w w' : World} {r : Response s} {i' : PaymentIntent}
    (h : exec dep s w = .ok (w', r))
    (hi' : i' ∈ w'.db.paymentIntents.rows) :
    i'.expiredAt = w.now + paymentIntentExpiresInMs ∨
      ∃ i, i ∈ w.db.paymentIntents.rows ∧ i.orderCode = i'.orderCode ∧
        i.expiredAt = i'.expiredAt := by
  rw [(exec_effects dep h).paymentIntents] at hi'
  cases s with
  | createPaymentIntent orderCode content tokenUrl paymentUrl =>
      rcases List.mem_append.mp hi' with hi' | hi'
      · exact .inr ⟨i', hi', rfl, rfl⟩
      · rw [List.mem_singleton.mp hi']
        exact .inl rfl
  | deleteOrder k =>
      exact .inr ⟨i', List.mem_of_mem_filter hi', rfl, rfl⟩
  | markPaymentIntent code status =>
      obtain ⟨i, hi, rfl⟩ := List.mem_map.mp hi'
      refine .inr ⟨i, hi, ?_⟩
      split_ifs <;> exact ⟨rfl, rfl⟩
  | _ =>
      exact .inr ⟨i', hi', rfl, rfl⟩

theorem exec_windowInv
    {s : Stmt} {w w' : World} {r : Response s}
    (hinv : WindowInv dep w)
    (h : exec dep s w = .ok (w', r)) :
    WindowInv dep w' := by
  have hnow := (exec_effects dep h).now
  -- an order is an old one, with its code and its instant, or it was created just now
  have horder : ∀ k o', w'.db.orders.find k = some o' →
      o'.orderCode = dep.orderCodes k ∧
        ((∃ o, w.db.orders.find k = some o ∧ o'.expiredAt = o.expiredAt) ∨
          w.db.orders.next ≤ k ∧ o'.expiredAt = w.now + orderExpiredSeconds * 1000) := by
    intro k o' ho'
    by_cases hk : k < w.db.orders.next
    · obtain ⟨o, ho, hsame⟩ := exec_order_column dep (fun o => (o.orderCode, o.expiredAt))
        (fun _ _ _ _ => rfl) h hk ho'
      obtain ⟨hcode, hexpired⟩ := Prod.mk.inj hsame
      exact ⟨hcode.trans (hinv.orderCode k o ho), .inl ⟨o, ho, hexpired⟩⟩
    · rcases exec_order_origin h ho' with hk' | ⟨data, -, rfl⟩
      · exact absurd hk' hk
      · exact ⟨rfl, .inr ⟨not_lt.mp hk, rfl⟩⟩
  refine ⟨fun k o' ho' => (horder k o' ho').1,
    exec_intentCode hinv.orderCode hinv.intentCode h, fun k o' ho' => ?_,
    fun k o' i' ho' hi' hsame => ?_⟩
  · rw [hnow]
    rcases (horder k o' ho').2 with ⟨o, ho, hexpired⟩ | ⟨-, hexpired⟩
    · exact hexpired ▸ hinv.created k o ho
    · exact hexpired.le
  · obtain ⟨hcode, hold⟩ := horder k o' ho'
    rcases exec_intent_origin h hi' with hnew | ⟨i, hi, hicode, hiexpired⟩
    · rw [hnew]
      have : o'.expiredAt ≤ w.now + orderExpiredSeconds * 1000 := by
        rcases hold with ⟨o, ho, hexpired⟩ | ⟨-, hexpired⟩
        · exact hexpired ▸ hinv.created k o ho
        · exact hexpired.le
      omega
    · rcases hold with ⟨o, ho, hexpired⟩ | ⟨hnext, -⟩
      · rw [hexpired, ← hiexpired]
        exact hinv.window k o i ho hi
          (by rw [hicode, hinv.orderCode k o ho, ← hcode]; exact hsame)
      · -- the number is new, so that no intent has its code
        obtain ⟨j, hj, hij⟩ := hinv.intentCode i hi
        rw [hicode] at hij
        rw [hcode] at hsame
        have := orderCodes_unique dep hij hsame
        omega

theorem windowInv_fresh {w : World} (hw : Fresh w) : WindowInv dep w where
  orderCode := fun k o ho => by
    have := Table.find_mem ho
    simp [hw.orders] at this
  intentCode := by simp [hw.paymentIntents]
  created := fun k o ho => by
    have := Table.find_mem ho
    simp [hw.orders] at this
  window := by simp [hw.paymentIntents]

theorem step_windowInv
    {c c' : ServerState} {a : Action Event}
    (hinv : WindowInv dep c.world)
    (h : (server dep).step c a = some c') :
    WindowInv dep c'.world := by
  refine System.step_world (server dep) (P := fun w w' => WindowInv dep w → WindowInv dep w')
    (fun _ hw => hw) ?_ (fun _ _ _ _ hr hw => exec_windowInv hw hr) h hinv
  intro e w w' p hp hw
  have hdb := environment_db dep hp
  have hnow : w.now ≤ w'.now := by
    cases e with
    | startJob i =>
        obtain ⟨payload, -, heq⟩ := Option.map_eq_some_iff.mp hp
        cases heq
        exact le_refl _
    | tick ms =>
        cases hp
        exact Nat.le_add_right _ _
    | _ =>
        cases hp
        exact le_refl _
  refine ⟨by rw [hdb]; exact hw.orderCode, by rw [hdb]; exact hw.intentCode,
    fun k o ho => ?_, by rw [hdb]; exact hw.window⟩
  rw [hdb] at ho
  exact (hw.created k o ho).trans (Nat.add_le_add_right hnow _)

variable (dep)

/--
Along a run the cleanup leaves the orders alone whose window is open exactly if it
finds them young; in every state reached an intent expires no more than 40 minutes
before its order, hence at least 20 minutes after the cleanup may cancel the order.
-/
theorem payment_window
    {w : World} {c' : ServerState} {as : List (Action Event)}
    (hw : Fresh w)
    (hrun : runs (server dep).step ⟨w, []⟩ as = some c') :
    (Meets (server dep).step
        (System.Conforms (fun _ _ => True) (ClearsClosed dep)) ⟨w, []⟩ as ↔
      Meets (server dep).step
        (System.Conforms (fun _ _ => True) (ClearsYoung dep)) ⟨w, []⟩ as) ∧
    ∀ o i, o ∈ c'.world.db.orders.rows → i ∈ c'.world.db.paymentIntents.rows →
      dep.sameText i.orderCode o.orderCode = true →
      o.expiredAt + 20 * 60 * 1000 ≤ i.expiredAt + paymentIntentExpiresInMs := by
  constructor
  · exact System.meets_conforms_congr (clearsClosed_iff dep) _ _
  · have hinv : WindowInv dep c'.world :=
      runs_invariant (I := fun c => WindowInv dep c.world)
        (fun _ _ _ hc _ hstep => step_windowInv hc hstep) (windowInv_fresh hw)
        (Meets.of_forall_mem fun _ _ _ => trivial) hrun
    intro o i ho hi hsame
    have := hinv.window _ o i (Table.find_of_mem ho) hi hsame
    simp only [paymentIntentExpiresInMs, orderExpiredSeconds] at this ⊢
    omega

/-- An order is placed and the cleanup runs after `ms` milliseconds. -/
def placedThenCleaned (ms : Nat) : List (Action Event) :=
  .env (.arrive (sampleGuest .sepay 1)) :: steps 0 6 ++
    .env (.startJob 0) :: steps 1 4 ++
    .env (.tick ms) :: .env (.arrive .cleanOrder) :: steps 2 2

set_option maxRecDepth 4000 in
theorem payment_window_placedThenPaid :
    Meets (server sampleDeployment).step
      (System.Conforms (fun _ _ => True) (ClearsClosed sampleDeployment))
      ⟨sampleWorld 5, []⟩ placedThenPaid := by
  obtain ⟨c', hrun⟩ := Option.isSome_iff_exists.mp
    (by decide +kernel : (runs (server sampleDeployment).step ⟨sampleWorld 5, []⟩
      placedThenPaid).isSome)
  exact (payment_window sampleDeployment (sampleWorld_fresh 5) hrun).1.mpr
    (by decide +kernel)

set_option maxRecDepth 4000 in
/-- After 41 minutes the order is cancelled; its intent is open for another 19. -/
theorem placedThenCleaned_cancels :
    ¬ ∀ as, Meets (server sampleDeployment).step
      (System.Conforms (fun _ _ => True) (ClearsClosed sampleDeployment))
      ⟨sampleWorld 5, []⟩ as := by
  intro h
  obtain ⟨c', hrun⟩ := Option.isSome_iff_exists.mp
    (by decide +kernel : (runs (server sampleDeployment).step ⟨sampleWorld 5, []⟩
      (placedThenCleaned (41 * 60 * 1000))).isSome)
  have hmeets := (payment_window sampleDeployment (sampleWorld_fresh 5) hrun).1.mp (h _)
  revert hmeets
  decide +kernel

end BookStore
