import BookStore.Effects

/-!
# The life cycle of an order

An order starts in `PENDING_PAYMENT` and leaves it for `PAID`, `CANCELLED` or
`CONFIRMED`.  `clearOrder` moves orders with a condition in its `WHERE` clause;
the other three writers of `orders.status` write whatever they find.

* `meets_lifecycle_iff`: a run keeps to the life cycle exactly when each such write finds
  its order in `PENDING_PAYMENT` or in the status it writes.
* `lifecycle_runs`: the same for runs, with what follows for later states.
-/

namespace BookStore

open Async

variable (dep : Deployment)

/-- A status an unpaid order may be moved to. -/
def Outcomes (s : OrderStatus) : Prop :=
  s = .paid ∨ s = .cancelled ∨ s = .confirmed

instance : DecidablePred Outcomes := fun s => by
  unfold Outcomes; infer_instance

/-- Nothing changes, or an order leaves `PENDING_PAYMENT`. -/
def LifecycleStep (s : Option OrderStatus) (s' : Option OrderStatus) : Prop :=
  s' = s ∨ s = some .pendingPayment ∧ ∃ t, s' = some t ∧ Outcomes t

/-- Every order that is in both states has kept to the life cycle. -/
def RespectsLifecycle (w w' : World) : Prop :=
  ∀ k o o', w.db.orders.find k = some o → w'.db.orders.find k = some o' →
    LifecycleStep o.status o'.status

/-- The action, if it is enabled, keeps to the life cycle. -/
def ActionRespectsLifecycle (c : ServerState) (a : Action Event) : Prop :=
  ∀ c', (server dep).step c a = some c' → RespectsLifecycle c.world c'.world

/-- Writing `s` to order `k` is a step of its life cycle. -/
def FindsPendingOr (w : World) (k : Nat) (s : OrderStatus) : Prop :=
  ∀ o, w.db.orders.find k = some o →
    o.status = some s ∨ o.status = some .pendingPayment ∧ Outcomes s

/--
The unconditional status writes, unless they fail, find their order in
`PENDING_PAYMENT` or in the status they write.
-/
def StatusWriteGuard (w : World) (s : Stmt) (o : Outcome) : Prop :=
  o = .fail ∨
    match s with
    | .markOrderAndPaymentSuccess k => FindsPendingOr w k .paid
    | .updateOrderStatusById k status => FindsPendingOr w k status
    | .updateOrderStatus k status _ => FindsPendingOr w k status
    | _ => True

theorem LifecycleStep.refl (s : Option OrderStatus) : LifecycleStep s s :=
  .inl rfl

theorem respectsLifecycle_of_orders
    {w w' : World}
    (h : w'.db.orders = w.db.orders) :
    RespectsLifecycle w w' := by
  intro k o o' ho ho'
  rw [h, ho] at ho'
  cases ho'
  exact .refl _

/-- A write of `status` to one order keeps to the life cycle iff it may find it. -/
theorem respectsLifecycle_update
    {w w' : World} {k : Nat} {status : OrderStatus} {f : Order → Order}
    {hf : ∀ o, key (f o) = key o}
    (h : w'.db.orders = w.db.orders.update k f hf)
    (hstatus : ∀ o, (f o).status = some status) :
    RespectsLifecycle w w' ↔ FindsPendingOr w k status := by
  constructor
  · intro hresp o ho
    have ho' : w'.db.orders.find k = some (f o) := by
      rw [h, Table.find_update, if_pos rfl, ho]
      rfl
    rcases hresp k o (f o) ho ho' with heq | ⟨hpending, t, ht, hout⟩
    · exact .inl (by rw [← heq, hstatus])
    · rw [hstatus, Option.some.injEq] at ht
      exact .inr ⟨hpending, ht ▸ hout⟩
  · intro hfinds j o o' ho ho'
    rw [h, Table.find_update] at ho'
    by_cases hj : j = k
    · subst hj
      rw [if_pos rfl, ho, Option.map_some, Option.some.injEq] at ho'
      subst ho'
      rw [hstatus]
      rcases hfinds o ho with hs | ⟨hpending, hout⟩
      · exact .inl hs.symm
      · exact .inr ⟨hpending, status, rfl, hout⟩
    · rw [if_neg hj, ho] at ho'
      cases ho'
      exact .refl _

/-- A statement that takes effect keeps to the life cycle iff it meets the guard. -/
theorem exec_respectsLifecycle
    {s : Stmt} {w w' : World} {r : Response s} {o : Outcome}
    (ho : o ≠ .fail)
    (h : exec dep s w = .ok (w', r)) :
    RespectsLifecycle w w' ↔ StatusWriteGuard w s o := by
  simp only [StatusWriteGuard, ho, false_or]
  have horders := (exec_effects dep h).orders
  cases s with
  | markOrderAndPaymentSuccess k =>
      exact respectsLifecycle_update horders (fun _ => rfl)
  | updateOrderStatusById k status =>
      exact respectsLifecycle_update horders (fun _ => rfl)
  | updateOrderStatus k status note =>
      exact respectsLifecycle_update horders (fun _ => rfl)
  | createOrder data =>
      refine iff_of_true (fun k o o' ho ho' => ?_) trivial
      rw [horders, ordersAfter, Table.find_insert,
        if_neg (Nat.ne_of_lt (Table.find_lt ho)), ho] at ho'
      cases ho'
      exact .refl _
  | deleteOrder k =>
      refine iff_of_true (fun k o o' ho ho' => ?_) trivial
      rw [horders, ordersAfter, Table.find_deleteWhere, ho] at ho'
      obtain ⟨heq, -⟩ := Option.filter_eq_some_iff.mp ho'
      cases heq
      exact .refl _
  | clearOrder variantMap =>
      refine iff_of_true (fun k o o' ho ho' => ?_) trivial
      rw [horders, ordersAfter, Table.find_updateWhere, ho, Option.map_some,
        Option.some.injEq] at ho'
      subst ho'
      by_cases hexp : isExpired w.now o = true
      · have hpending : o.status = some .pendingPayment := by
          simp only [isExpired, Bool.and_eq_true, decide_eq_true_eq] at hexp
          exact hexp.2
        rw [if_pos hexp]
        exact .inr ⟨hpending, .cancelled, rfl, .inr (.inl rfl)⟩
      · rw [if_neg hexp]
        exact .refl _
  | _ =>
      exact iff_of_true (respectsLifecycle_of_orders horders) trivial

/-- A statement that is refused writes no status. -/
theorem statusWriteGuard_of_error
    {s : Stmt} {w : World} {e : Failure} {o : Outcome}
    (h : exec dep s w = .error e) :
    StatusWriteGuard w s o := by
  refine .inr ?_
  cases s with
  | markOrderAndPaymentSuccess k =>
      simp only [exec] at h
      split at h
      · rename_i hnone
        intro o' ho'
        rw [hnone] at ho'
        cases ho'
      · cases h
  | updateOrderStatusById k status =>
      simp only [exec] at h
      split at h
      · rename_i hnone
        intro o' ho'
        rw [hnone] at ho'
        cases ho'
      · cases h
  | updateOrderStatus k status note =>
      simp only [exec] at h
      split at h
      · rename_i hnone
        intro o' ho'
        rw [hnone] at ho'
        cases ho'
      · cases h
  | _ =>
      trivial

theorem attempt_respectsLifecycle (s : Stmt) (o : Outcome) (w : World) :
    RespectsLifecycle w (attempt (exec dep) .database s o w).1 ↔
      StatusWriteGuard w s o :=
  attempt_iff (G := StatusWriteGuard) (fun _ => respectsLifecycle_of_orders rfl)
    (fun _ _ => .inl rfl)
    (fun _ _ _ _ h => statusWriteGuard_of_error dep h)
    (fun _ _ _ _ _ ho h => exec_respectsLifecycle dep ho h) s o w

/-- **One run.** It keeps to the life cycle iff all its actions meet the guard. -/
theorem meets_lifecycle_iff (c : ServerState) (as : List (Action Event)) :
    Meets (server dep).step (ActionRespectsLifecycle dep) c as ↔
      Meets (server dep).step
        (System.Conforms (fun _ _ => True) StatusWriteGuard) c as :=
  System.meets_respects_iff (server dep) (fun _ => respectsLifecycle_of_orders rfl)
    (fun _ _ _ _ h => respectsLifecycle_of_orders (by rw [environment_db dep h]))
    (fun s o w => attempt_respectsLifecycle dep s o w) c as

/-- While a run keeps to the life cycle, a status other than the first is final. -/
theorem status_final
    {c c' : ServerState} {as : List (Action Event)} {k : Nat} {t : OrderStatus}
    (hrun : runs (server dep).step c as = some c')
    (hmeets : Meets (server dep).step (ActionRespectsLifecycle dep) c as)
    (ht : t ≠ .pendingPayment)
    (hk : k < c.world.db.orders.next)
    (hc : ∀ o, c.world.db.orders.find k = some o → o.status = some t) :
    ∀ o, c'.world.db.orders.find k = some o → o.status = some t := by
  have hinv : k < c'.world.db.orders.next ∧
      ∀ o, c'.world.db.orders.find k = some o → o.status = some t := by
    refine runs_invariant (I := fun d : ServerState =>
      k < d.world.db.orders.next ∧
        ∀ o, d.world.db.orders.find k = some o → o.status = some t)
      ?_ ⟨hk, hc⟩ hmeets hrun
    rintro d a d' ⟨hdk, hd⟩ hresp hstep
    have hpersist := step_ordersPersist dep hstep
    refine ⟨hdk.trans_le hpersist.next_le, fun o' ho' => ?_⟩
    obtain ⟨o, ho, -⟩ := hpersist.persist k o' hdk ho'
    rcases hresp d' hstep k o o' ho ho' with heq | ⟨hpending, -⟩
    · rw [heq, hd o ho]
    · rw [hd o ho, Option.some.injEq] at hpending
      exact absurd hpending ht
  exact hinv.2

/--
A run keeps to the life cycle exactly when each unconditional status write finds
its order in `PENDING_PAYMENT` or in the status it writes; then a cancelled
order stays cancelled and a paid order stays paid.
-/
theorem lifecycle_runs
    {c c' : ServerState} {as : List (Action Event)}
    (hrun : runs (server dep).step c as = some c') :
    (Meets (server dep).step (ActionRespectsLifecycle dep) c as ↔
      Meets (server dep).step
        (System.Conforms (fun _ _ => True) StatusWriteGuard) c as) ∧
    (Meets (server dep).step
        (System.Conforms (fun _ _ => True) StatusWriteGuard) c as →
      ∀ k o o', c.world.db.orders.find k = some o →
        c'.world.db.orders.find k = some o' →
        (o.status = some .cancelled → o'.status = some .cancelled) ∧
        (o.status = some .paid → o'.status = some .paid)) := by
  refine ⟨meets_lifecycle_iff dep c as, fun hmeets k o o' ho ho' => ?_⟩
  have hresp := (meets_lifecycle_iff dep c as).mpr hmeets
  have hfinal : ∀ t, t ≠ OrderStatus.pendingPayment → o.status = some t →
      o'.status = some t := by
    intro t ht hot
    refine status_final dep hrun hresp ht (Table.find_lt ho) ?_ o' ho'
    intro o₁ ho₁
    rw [ho, Option.some.injEq] at ho₁
    rw [← ho₁, hot]
  exact ⟨hfinal .cancelled (by decide), hfinal .paid (by decide)⟩

instance (w : World) (k : Nat) (s : OrderStatus) : Decidable (FindsPendingOr w k s) :=
  match h : w.db.orders.find k with
  | none => .isTrue (by simp [FindsPendingOr, h])
  | some o =>
      decidable_of_iff
        (o.status = some s ∨ o.status = some .pendingPayment ∧ Outcomes s)
        (by simp [FindsPendingOr, h])

instance (w : World) (s : Stmt) (o : Outcome) :
    Decidable (StatusWriteGuard w s o) := by
  apply Stmt.casesOn (motive := fun s => Decidable (StatusWriteGuard w s o)) s <;>
    intros <;> unfold StatusWriteGuard <;> infer_instance

set_option maxRecDepth 4000 in
theorem lifecycle_runs_placedThenPaid :
    ∃ c', runs (server sampleDeployment).step ⟨sampleWorld 5, []⟩ placedThenPaid =
        some c' ∧
      Meets (server sampleDeployment).step
        (ActionRespectsLifecycle sampleDeployment) ⟨sampleWorld 5, []⟩
        placedThenPaid := by
  obtain ⟨c', hrun⟩ := Option.isSome_iff_exists.mp
    (by decide +kernel : (runs (server sampleDeployment).step ⟨sampleWorld 5, []⟩
      placedThenPaid).isSome)
  exact ⟨c', hrun, (lifecycle_runs sampleDeployment hrun).1.mpr (by decide +kernel)⟩

/-- An order is placed; the administrator reads it; it is paid in time. -/
def paidThenCancelled : List (Action Event) :=
  .env (.arrive (sampleGuest .sepay 1)) :: steps 0 6 ++
    .env (.startJob 0) :: steps 1 4 ++
    .env (.arrive (.updateOrderStatus 1 ⟨.cancelled, none, .inr rfl⟩)) ::
      steps 2 1 ++
    .env (.arrive (sampleTransfer 7 "VLR0" 120000)) :: steps 3 14 ++
    -- the administrator's `CANCELLED` arrives last
    steps 2 1

set_option maxRecDepth 4000 in
theorem paidThenCancelled_leaves_lifecycle :
    ¬ ∀ (w : World) (as : List (Action Event)), Fresh w →
      Meets (server sampleDeployment).step
        (ActionRespectsLifecycle sampleDeployment) ⟨w, []⟩ as := by
  intro h
  have hmeets := (meets_lifecycle_iff sampleDeployment _ _).mp
    (h (sampleWorld 5) paidThenCancelled (sampleWorld_fresh 5))
  revert hmeets
  decide +kernel

end BookStore
