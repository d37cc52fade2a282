import BookStore.Effects
import BookStore.Inventory
import Mathlib.Algebra.Group.Pi.Basic
import Mathlib.Algebra.Group.Prod
import Mathlib.Algebra.Order.BigOperators.Group.List

/-!
# No oversell

A checkout is admitted by the Redis counter of a variant or, when Redis refuses
or fails, by the database.  The units it may sell are those in stock and not
reserved, less those taken from Redis that no job has reserved yet and those
that a refused checkout is about to give back: `free`.

The code does not keep the two admission paths within `free`.  The counter is
seeded from `stock - reserved` alone, it may be created by a `DECRBY` or an
`INCRBY` after it has expired, and the fallback accepts a checkout whose quantity
exceeds what is left (the `CASE` then adds `0`).

* `WithinFree` is what a statement has to find for the units to be there.
* `no_oversell`: in every run whose statements find it, the units of the orders
  never exceed the initial stock and the imports.
-/

namespace BookStore

open Async Program Logic

variable (dep : Deployment)

/-- The units of `v` that a list of checkout items asks for. -/
def itemUnits (items : List CheckoutItemDto) (v : Nat) : Int :=
  quantityOf v (items.map fun i => (i.bookVariantId, i.quantity))

/-- Units taken from Redis or granted by the database. -/
def committed (w : World) (v : Nat) : Int :=
  w.history.held v + w.history.bookedByCheckouts v

/--
Units of `v` in stock and not reserved, less those that jobs are still to reserve
and those that are still to be given back to Redis.
-/
def free (w : World) (v : Nat) : Int :=
  w.db.stock v - w.db.reserved v - (w.history.held v - w.history.bookedByJobs v) -
    w.history.givingBack v

/-- The units of `v` over all orders. -/
def orderedUnits (w : World) (v : Nat) : Int :=
  Table.total (fun o : Order => quantityOf v o.requested) w.db.orders

/-- The units of `v` over the orders that are not `CANCELLED`. -/
def soldUnits (w : World) (v : Nat) : Int :=
  ((w.db.orders.filter fun o => decide (o.status ≠ some .cancelled)).map
    fun o => quantityOf v o.requested).sum

/-- What a statement of a checkout finds where it admits units. -/
def WithinFree (w : World) (s : Stmt) (o : Outcome) : Prop :=
  o ≠ .fail →
    match s with
    | .setAvailable v x => w.redis v = none → x ≤ free w v
    | .decrbyAvailable items =>
        ∀ i, i ∈ items → w.redis i.bookVariantId = none → 0 ≤ free w i.bookVariantId
    | .incrbyAvailable v _ => w.redis v = none → 0 ≤ free w v
    | .updateReservedByIds payload .checkout =>
        ∀ i, i ∈ payload →
          i.quantity ≤ w.db.stock i.bookVariantId - w.db.reserved i.bookVariantId ∧
          i.quantity ≤ free w i.bookVariantId + w.history.givingBack i.bookVariantId ∧
          ∀ x, x ∈ w.redis i.bookVariantId →
            x + i.quantity ≤ free w i.bookVariantId
    | _ => True

instance (w : World) (s : Stmt) (o : Outcome) : Decidable (WithinFree w s o) := by
  apply Stmt.casesOn (motive := fun s => Decidable (WithinFree w s o)) s
  case updateReservedByIds =>
    intro payload origin
    apply Booking.casesOn
      (motive := fun b => Decidable (WithinFree w (.updateReservedByIds payload b) o))
      origin <;> unfold WithinFree <;> infer_instance
  all_goals
    intros
    unfold WithinFree
    infer_instance

/-- Quantities are positive, and orders are not cleaned up. -/
def SellsPositive (_ : World) : Event → Prop
  | .arrive (.createCheckout body _ _) => ∀ i, i ∈ body.items → 0 < i.quantity
  | .arrive .cleanOrder => False
  | _ => True

instance (w : World) (e : Event) : Decidable (SellsPositive w e) := by
  unfold SellsPositive
  cases e with
  | arrive r =>
      cases r <;> infer_instance
  | _ =>
      infer_instance

/-! ### The Redis script -/

theorem itemUnits_cons (i : CheckoutItemDto) (items : List CheckoutItemDto) (v : Nat) :
    itemUnits (i :: items) v =
      (if i.bookVariantId = v then i.quantity else 0) + itemUnits items v :=
  quantityOf_cons _ _ _

theorem itemUnits_nonneg
    {items : List CheckoutItemDto}
    (hpos : ∀ i, i ∈ items → 0 < i.quantity) (v : Nat) :
    0 ≤ itemUnits items v := by
  refine quantityOf_nonneg (fun l hl => ?_)
  obtain ⟨i, hi, rfl⟩ := List.mem_map.mp hl
  exact (hpos i hi).le

theorem itemUnits_of_not_mem
    {items : List CheckoutItemDto} {v : Nat}
    (hv : v ∉ items.map (·.bookVariantId)) :
    itemUnits items v = 0 := by
  refine quantityOf_of_not_mem ?_
  rwa [List.map_map]

theorem quantity_le_itemUnits
    {items : List CheckoutItemDto}
    (hpos : ∀ i, i ∈ items → 0 < i.quantity)
    {i : CheckoutItemDto} (hi : i ∈ items) :
    i.quantity ≤ itemUnits items i.bookVariantId := by
  induction items with
  | nil =>
      cases hi
  | cons j items ih =>
      have hrest := itemUnits_nonneg (fun k hk => hpos k (List.mem_cons_of_mem j hk))
        i.bookVariantId
      rw [itemUnits_cons]
      rcases List.mem_cons.mp hi with rfl | hi
      · rw [if_pos rfl]
        omega
      · have := ih (fun k hk => hpos k (List.mem_cons_of_mem j hk)) hi
        have := hpos j (by simp)
        split_ifs <;> omega

/-- Each listed key loses its units; an absent one counts from `0`. -/
theorem decrbyAll_redis
    (items : List CheckoutItemDto) (redis : Nat → Option Int) (v : Nat) :
    (decrbyAll items redis).1 v =
      if v ∈ items.map (·.bookVariantId) then
        some ((redis v).getD 0 - itemUnits items v)
      else redis v := by
  induction items generalizing redis with
  | nil =>
      rfl
  | cons i items ih =>
      simp only [decrbyAll, ih, itemUnits_cons, List.map_cons, List.mem_cons]
      by_cases hi : v = i.bookVariantId
      · subst hi
        simp only [Function.update_self, true_or, if_true, Option.getD_some]
        split_ifs with hmem
        · congr 1
          omega
        · rw [itemUnits_of_not_mem hmem, add_zero]
      · rw [Function.update_of_ne hi, if_neg (Ne.symm hi), zero_add]
        simp only [hi, false_or]

/-- A script without a negative result found enough under every listed key. -/
theorem decrbyAll_enough
    {items : List CheckoutItemDto} {redis : Nat → Option Int}
    (hpos : ∀ i, i ∈ items → 0 < i.quantity)
    (hnone : firstShort items (decrbyAll items redis).2 = none)
    {v : Nat} (hv : v ∈ items.map (·.bookVariantId)) :
    ∃ x, redis v = some x ∧ itemUnits items v ≤ x := by
  induction items generalizing redis with
  | nil =>
      cases hv
  | cons i items ih =>
      have hpos' : ∀ j, j ∈ items → 0 < j.quantity :=
        fun j hj => hpos j (List.mem_cons_of_mem i hj)
      have hi := hpos i (by simp)
      simp only [decrbyAll, firstShort] at hnone
      split_ifs at hnone with hneg
      have hrest := fun hmem => ih hpos' hnone hmem
      rw [itemUnits_cons]
      by_cases hvi : v = i.bookVariantId
      · subst hvi
        -- the key was there: an absent one would have been short at once
        cases hx : redis i.bookVariantId with
        | none =>
            rw [hx] at hneg
            simp only [Option.getD_none] at hneg
            omega
        | some x =>
            refine ⟨x, rfl, ?_⟩
            rw [hx] at hneg
            simp only [Option.getD_some] at hneg
            rw [if_pos rfl]
            by_cases hmem : i.bookVariantId ∈ items.map (·.bookVariantId)
            · obtain ⟨y, hy, hle⟩ := hrest hmem
              rw [Function.update_self, hx, Option.some.injEq] at hy
              simp only [Option.getD_some] at hy
              omega
            · rw [itemUnits_of_not_mem hmem]
              omega
      · rw [List.map_cons, List.mem_cons] at hv
        obtain ⟨x, hx, hle⟩ := hrest (hv.resolve_left hvi)
        rw [Function.update_of_ne hvi] at hx
        exact ⟨x, hx, by rw [if_neg (Ne.symm hvi)]; omega⟩

theorem firstShort_mem
    {items : List CheckoutItemDto} {results : List Int} {i : CheckoutItemDto}
    (h : firstShort items results = some i) :
    i ∈ items := by
  induction items generalizing results with
  | nil =>
      cases h
  | cons j items ih =>
      cases results with
      | nil =>
          cases h
      | cons r results =>
          simp only [firstShort] at h
          split_ifs at h
          · cases h
            simp
          · exact List.mem_cons_of_mem j (ih h)

/-- The service gives back exactly the item that the script found short. -/
theorem checkRemaining_eq (items : List CheckoutItemDto) (results : List Int) :
    checkRemaining items results =
      match firstShort items results with
      | none => ret ()
      | some i =>
          (query (.incrbyAvailable i.bookVariantId i.quantity)).bind fun _ =>
            raise (.badRequest "Hết hàng") := by
  induction items generalizing results with
  | nil =>
      rfl
  | cons i items ih =>
      cases results with
      | nil =>
          rfl
      | cons r results =>
          simp only [checkRemaining, firstShort]
          split_ifs
          · rfl
          · exact ih results

/-! ### The invariant -/

/--
What a checkout under way holds: units granted to it and not ordered yet, and
units that it is about to give back.
-/
abbrev Units := (Nat → ℕ) × (Nat → ℕ)

/-- The units of the orders are committed, and no more than the supply is. -/
structure SupplyInv (initial : Nat → Int) (m : Units) (w : World) : Prop where
  ordered : ∀ v, orderedUnits w v + m.1 v ≤ committed w v
  committed_le : ∀ v, committed w v ≤ initial v + w.history.imported v
  key : ∀ v x, w.redis v = some x →
    x + w.history.givingBack v + committed w v ≤ initial v + w.history.imported v
  givingBack : ∀ v, (m.2 v : Int) ≤ w.history.givingBack v
  columns : ∀ v, w.db.stock v - w.db.reserved v + w.history.bookedByJobs v +
    w.history.bookedByCheckouts v = initial v + w.history.imported v
  requested : ∀ o, o ∈ w.db.orders.rows → ∀ l, l ∈ o.requested → 0 ≤ l.2

variable {initial : Nat → Int} {w w' : World} {m F : Units}

/-- What is free is the supply less what is committed and given back. -/
theorem SupplyInv.free_eq (h : SupplyInv initial m w) (v : Nat) :
    free w v = initial v + w.history.imported v - committed w v -
      w.history.givingBack v := by
  have := h.columns v
  unfold free committed
  omega

/-- A holder may forget what it holds. -/
theorem SupplyInv.drop (h : SupplyInv initial (m + F) w) : SupplyInv initial F w where
  ordered := fun v => by
    have := h.ordered v
    simp only [Prod.fst_add, Pi.add_apply, Nat.cast_add] at this
    omega
  committed_le := h.committed_le
  key := h.key
  givingBack := fun v => by
    have := h.givingBack v
    simp only [Prod.snd_add, Pi.add_apply, Nat.cast_add] at this
    omega
  columns := h.columns
  requested := h.requested

theorem soldUnits_le_orderedUnits
    (h : ∀ o, o ∈ w.db.orders.rows → ∀ l, l ∈ o.requested → 0 ≤ l.2) (v : Nat) :
    soldUnits w v ≤ orderedUnits w v := by
  unfold soldUnits orderedUnits Table.total Table.filter
  generalize w.db.orders.rows = rows at h
  induction rows with
  | nil =>
      exact le_refl _
  | cons o rows ih =>
      have ho : 0 ≤ quantityOf v o.requested := quantityOf_nonneg (h o (by simp))
      have hrest := ih (fun o' ho' => h o' (List.mem_cons_of_mem o ho'))
      rw [List.filter_cons, List.map_cons, List.sum_cons]
      split_ifs
      · rw [List.map_cons, List.sum_cons]
        omega
      · omega

/-- What the admission of units is about, apart from the orders. -/
structure SameBooks (w w' : World) : Prop where
  redis : w'.redis = w.redis
  held : w'.history.held = w.history.held
  bookedByCheckouts : w'.history.bookedByCheckouts = w.history.bookedByCheckouts
  givingBack : w'.history.givingBack = w.history.givingBack
  imported : w'.history.imported = w.history.imported
  columns : ∀ v, w'.db.stock v - w'.db.reserved v + w'.history.bookedByJobs v =
    w.db.stock v - w.db.reserved v + w.history.bookedByJobs v

/-- Orders are only removed or updated. -/
structure NoNewOrders (w w' : World) : Prop where
  ordered : ∀ v, orderedUnits w' v ≤ orderedUnits w v
  requested : ∀ o', o' ∈ w'.db.orders.rows →
    ∃ o, o ∈ w.db.orders.rows ∧ o'.requested = o.requested

theorem SupplyInv.of_sameBooks
    (h : SupplyInv initial m w)
    (hbooks : SameBooks w w')
    (horders : NoNewOrders w w') :
    SupplyInv initial m w' := by
  have hcommitted : committed w' = committed w := by
    unfold committed
    rw [hbooks.held, hbooks.bookedByCheckouts]
  refine ⟨fun v => ?_, fun v => ?_, fun v x hx => ?_, fun v => ?_, fun v => ?_, ?_⟩
  · have := h.ordered v
    have := horders.ordered v
    rw [hcommitted]
    omega
  · rw [hcommitted, hbooks.imported]
    exact h.committed_le v
  · rw [hcommitted, hbooks.imported, hbooks.givingBack]
    exact h.key v x (by rw [← hbooks.redis]; exact hx)
  · rw [hbooks.givingBack]
    exact h.givingBack v
  · have := h.columns v
    have := hbooks.columns v
    rw [hbooks.bookedByCheckouts, hbooks.imported]
    omega
  · intro o' ho' l hl
    obtain ⟨o, ho, heq⟩ := horders.requested o' ho'
    exact h.requested o ho l (heq ▸ hl)

theorem NoNewOrders.of_eq (h : w'.db.orders = w.db.orders) : NoNewOrders w w' where
  ordered := fun v => by rw [orderedUnits, h]; exact le_refl _
  requested := fun o' ho' => ⟨o', by rw [← h]; exact ho', rfl⟩

theorem NoNewOrders.of_updateWhere
    {p : Order → Bool} {f : Order → Order} {hf : ∀ o, key (f o) = key o}
    (h : w'.db.orders = w.db.orders.updateWhere p f hf)
    (hsame : ∀ o, (f o).requested = o.requested) :
    NoNewOrders w w' where
  ordered := fun v => by
    rw [orderedUnits, h, Table.total_updateWhere]
    simp [hsame, orderedUnits]
  requested := by
    intro o' ho'
    rw [h] at ho'
    obtain ⟨o, ho, rfl⟩ := List.mem_map.mp ho'
    refine ⟨o, ho, ?_⟩
    split_ifs
    · exact hsame o
    · rfl

theorem NoNewOrders.of_deleteWhere
    {p : Order → Bool}
    (h : w'.db.orders = w.db.orders.deleteWhere p)
    (hnonneg : ∀ o, o ∈ w.db.orders.rows → ∀ l, l ∈ o.requested → 0 ≤ l.2) :
    NoNewOrders w w' where
  ordered := fun v => by
    rw [orderedUnits, h, Table.total_deleteWhere]
    have : 0 ≤ ((w.db.orders.filter p).map fun o => quantityOf v o.requested).sum := by
      refine List.sum_nonneg (fun q hq => ?_)
      obtain ⟨o, ho, rfl⟩ := List.mem_map.mp hq
      exact quantityOf_nonneg (hnonneg o (List.mem_of_mem_filter ho))
    simp only [orderedUnits]
    omega
  requested := fun o' ho' =>
    ⟨o', by rw [h] at ho'; exact List.mem_of_mem_filter ho', rfl⟩

/-! ### The statements -/

/-- Statements that leave the admission of units alone. -/
def LeavesBooks : Stmt → Prop
  | .setAvailable _ _ => False
  | .decrbyAvailable _ => False
  | .incrbyAvailable _ _ => False
  | .updateReservedByIds _ origin => origin = .job
  | .createOrder _ => False
  | .clearOrder _ => False
  | .importStock _ => False
  | _ => True

variable {dep}

theorem SameBooks.of_variants
    (hdb : ∀ v, w'.db.stock v - w'.db.reserved v + w'.history.bookedByJobs v =
      w.db.stock v - w.db.reserved v + w.history.bookedByJobs v)
    (hredis : w'.redis = w.redis)
    (hhistory : w'.history = { w.history with
      bookedByJobs := w'.history.bookedByJobs
      handled := w'.history.handled
      deductions := w'.history.deductions }) :
    SameBooks w w' where
  redis := hredis
  held := by rw [hhistory]
  bookedByCheckouts := by rw [hhistory]
  givingBack := by rw [hhistory]
  imported := by rw [hhistory]
  columns := hdb

theorem exec_sameBooks
    {s : Stmt} {r : Response s}
    (hs : LeavesBooks s)
    (h : exec dep s w = .ok (w', r)) :
    SameBooks w w' := by
  cases s with
  | setAvailable v x => cases hs
  | decrbyAvailable items => cases hs
  | incrbyAvailable v q => cases hs
  | createOrder data => cases hs
  | clearOrder variantMap => cases hs
  | importStock data => cases hs
  | updateReservedByIds payload origin =>
      obtain rfl : origin = .job := hs
      simp only [exec] at h
      split at h
      · cases h
      · cases h
        refine .of_variants (fun v => ?_) rfl rfl
        obtain ⟨hstock, hreserved⟩ := columns_updateReservedByIds w.db
          { w.db with variants := updateReservedByIds payload w.db.variants } rfl v
        simp only [hstock, hreserved]
        omega
  | decrementVariantsStock variantMap delivery k =>
      cases h
      refine .of_variants (fun v => ?_) rfl rfl
      obtain ⟨hstock, hreserved⟩ := columns_shiftVariants w.db
        { w.db with variants := decrementVariantsStock variantMap w.db.variants }
        (m := variantMap) rfl v
      simp only [hstock, hreserved]
      omega
  | incrementVariantsStock variantMap =>
      cases h
      refine .of_variants (fun v => ?_) rfl rfl
      obtain ⟨hstock, hreserved⟩ := columns_shiftVariants w.db
        { w.db with variants := incrementVariantsStock variantMap w.db.variants }
        (m := variantMap) rfl v
      simp only [hstock, hreserved]
      omega
  | _ =>
      simp only [exec] at h
      first
        | (cases h; exact ⟨rfl, rfl, rfl, rfl, rfl, fun _ => rfl⟩)
        | (split at h <;> first
            | (cases h <;> exact ⟨rfl, rfl, rfl, rfl, rfl, fun _ => rfl⟩)
            | (split at h <;> cases h
               all_goals exact ⟨rfl, rfl, rfl, rfl, rfl, fun _ => rfl⟩))

theorem exec_noNewOrders
    {s : Stmt} {r : Response s}
    (hs : ∀ data, s ≠ .createOrder data)
    (hnonneg : ∀ o, o ∈ w.db.orders.rows → ∀ l, l ∈ o.requested → 0 ≤ l.2)
    (h : exec dep s w = .ok (w', r)) :
    NoNewOrders w w' := by
  have horders := (exec_effects dep h).orders
  cases s with
  | createOrder data =>
      exact absurd rfl (hs data)
  | deleteOrder k =>
      exact .of_deleteWhere horders hnonneg
  | markOrderAndPaymentSuccess k =>
      simp only [ordersAfter, Table.update] at horders
      exact .of_updateWhere horders (fun _ => rfl)
  | updateOrderStatusById k status =>
      simp only [ordersAfter, Table.update] at horders
      exact .of_updateWhere horders (fun _ => rfl)
  | updateOrderStatus k status note =>
      simp only [ordersAfter, Table.update] at horders
      exact .of_updateWhere horders (fun _ => rfl)
  | clearOrder variantMap =>
      simp only [ordersAfter] at horders
      exact .of_updateWhere horders (fun _ => rfl)
  | _ =>
      exact .of_eq horders

theorem SupplyInv.of_leavesBooks
    {s : Stmt} {r : Response s}
    (hinv : SupplyInv initial m w)
    (hs : LeavesBooks s)
    (h : exec dep s w = .ok (w', r)) :
    SupplyInv initial m w' := by
  refine hinv.of_sameBooks (exec_sameBooks hs h)
    (exec_noNewOrders ?_ hinv.requested h)
  rintro data rfl
  cases hs

/-- The units that an order over some lines will take. -/
def unitsFor (lines : List (Nat × Int)) : Nat → ℕ :=
  fun v => (quantityOf v lines).toNat

/-- Holding the units of an order. -/
abbrev toOrder (lines : List (Nat × Int)) : Units := (unitsFor lines, 0)

/-- Holding units of `v` to be given back. -/
abbrev toGiveBack (v : Nat) (q : Int) : Units := (0, Pi.single v q.toNat)

theorem exec_setAvailable
    {v : Nat} {x : Int} {r : Response (.setAvailable v x)}
    (hinv : SupplyInv initial m w)
    (hguard : w.redis v = none → x ≤ free w v)
    (h : exec dep (.setAvailable v x) w = .ok (w', r)) :
    SupplyInv initial m w' := by
  simp only [exec] at h
  split at h
  · cases h
    exact hinv
  · rename_i hnone
    cases h
    refine ⟨hinv.ordered, hinv.committed_le, fun u y hy => ?_, hinv.givingBack,
      hinv.columns, hinv.requested⟩
    by_cases hu : u = v
    · subst hu
      have hy : Function.update w.redis u (some x) u = some y := hy
      rw [Function.update_self, Option.some.injEq] at hy
      subst hy
      have := hguard hnone
      rw [hinv.free_eq] at this
      show x + w.history.givingBack u + committed w u ≤
        initial u + w.history.imported u
      omega
    · have hy : Function.update w.redis v (some x) u = some y := hy
      rw [Function.update_of_ne hu] at hy
      exact hinv.key u y hy

/-- An order takes the units that its checkout holds. -/
theorem exec_createOrder
    {data : OrderCreateInput} {r : Response (.createOrder data)}
    (hinv : SupplyInv initial (toOrder data.requested + F) w)
    (hnonneg : ∀ l, l ∈ data.requested → 0 ≤ l.2)
    (h : exec dep (.createOrder data) w = .ok (w', r)) :
    SupplyInv initial F w' := by
  cases h
  refine ⟨fun v => ?_, hinv.committed_le, hinv.key, fun v => ?_, hinv.columns, ?_⟩
  · have hold := hinv.ordered v
    have hunits : ((unitsFor data.requested v : ℕ) : Int) = quantityOf v data.requested :=
      Int.toNat_of_nonneg (quantityOf_nonneg hnonneg)
    simp only [Prod.fst_add, Pi.add_apply, Nat.cast_add, hunits] at hold
    simp only [orderedUnits] at hold ⊢
    rw [Table.total_insert]
    show _ + quantityOf v data.requested + _ ≤ committed w v
    omega
  · have := hinv.givingBack v
    simpa using this
  · intro o ho l hl
    rcases List.mem_append.mp ho with ho | ho
    · exact hinv.requested o ho l hl
    · rw [List.mem_singleton.mp ho] at hl
      exact hnonneg l hl

/-- Units are given back to the counter, which may have to be created. -/
theorem exec_incrbyAvailable
    {v : Nat} {q : Int} {r : Response (.incrbyAvailable v q)}
    (hinv : SupplyInv initial (toGiveBack v q + F) w)
    (hq : 0 ≤ q)
    (hguard : w.redis v = none → 0 ≤ free w v)
    (h : exec dep (.incrbyAvailable v q) w = .ok (w', r)) :
    SupplyInv initial F w' := by
  cases h
  have hback : ∀ u, addItems [⟨v, -q⟩] w.history.givingBack u =
      w.history.givingBack u - if v = u then q else 0 := by
    intro u
    simp only [addItems, List.map_cons, List.map_nil, quantityOf_cons]
    split_ifs
    · simp [quantityOf, sub_eq_add_neg]
    · simp [quantityOf]
  refine ⟨fun u => ?_, hinv.committed_le, fun u y hy => ?_, fun u => ?_, hinv.columns,
    hinv.requested⟩
  · have hold : orderedUnits w u + F.1 u ≤ committed w u := by
      simpa using hinv.ordered u
    exact hold
  · have hy : Function.update w.redis v (some ((w.redis v).getD 0 + q)) u = some y := hy
    show y + addItems [⟨v, -q⟩] w.history.givingBack u + committed w u ≤
      initial u + w.history.imported u
    rw [hback]
    by_cases hu : u = v
    · subst hu
      rw [Function.update_self, Option.some.injEq] at hy
      rw [if_pos rfl]
      cases hx : w.redis u with
      | none =>
          have := hguard hx
          rw [hinv.free_eq] at this
          rw [hx, Option.getD_none] at hy
          omega
      | some x =>
          have := hinv.key u x hx
          rw [hx, Option.getD_some] at hy
          omega
    · rw [Function.update_of_ne hu] at hy
      rw [if_neg (Ne.symm hu)]
      have := hinv.key u y hy
      omega
  · have hold := hinv.givingBack u
    simp only [Prod.snd_add, Pi.add_apply, Nat.cast_add] at hold
    show (F.2 u : Int) ≤ addItems [⟨v, -q⟩] w.history.givingBack u
    rw [hback]
    by_cases hu : u = v
    · subst hu
      rw [Pi.single_eq_same, Int.toNat_of_nonneg hq] at hold
      rw [if_pos rfl]
      omega
    · rw [Pi.single_eq_of_ne hu] at hold
      rw [if_neg (Ne.symm hu)]
      simpa using hold

/-- Half a script: the counters have lost what it asks for. -/
theorem key_decrbyAll
    {items : List CheckoutItemDto}
    (hinv : SupplyInv initial m w)
    (hguard : ∀ i, i ∈ items → w.redis i.bookVariantId = none →
      0 ≤ free w i.bookVariantId)
    {v : Nat} {y : Int}
    (hy : (decrbyAll items w.redis).1 v = some y) :
    y + itemUnits items v + w.history.givingBack v + committed w v ≤
      initial v + w.history.imported v := by
  rw [decrbyAll_redis] at hy
  split_ifs at hy with hmem
  · rw [Option.some.injEq] at hy
    cases hx : w.redis v with
    | none =>
        obtain ⟨i, hi, rfl⟩ := List.mem_map.mp hmem
        have := hguard i hi hx
        rw [hinv.free_eq] at this
        rw [hx, Option.getD_none] at hy
        omega
    | some x =>
        have := hinv.key v x hx
        rw [hx, Option.getD_some] at hy
        omega
  · have := hinv.key v y hy
    rw [itemUnits_of_not_mem hmem]
    omega

/-- A script that finds enough commits the units; the checkout holds them. -/
theorem exec_decrbyAvailable_enough
    {items : List CheckoutItemDto} {lines : List (Nat × Int)} {results : List Int}
    (hinv : SupplyInv initial F w)
    (hpos : ∀ i, i ∈ items → 0 < i.quantity)
    (hlines : ∀ v, 0 ≤ quantityOf v lines ∧ quantityOf v lines ≤ itemUnits items v)
    (hguard : ∀ i, i ∈ items → w.redis i.bookVariantId = none →
      0 ≤ free w i.bookVariantId)
    (hshort : firstShort items results = none)
    (h : exec dep (.decrbyAvailable items) w = .ok (w', results)) :
    SupplyInv initial (toOrder lines + F) w' := by
  simp only [exec] at h
  split at h
  case h_2 heq =>
    cases h
    rw [hshort] at heq
    cases heq
  cases h
  have hcommitted : ∀ v, committed { w with
      redis := (decrbyAll items w.redis).1
      history.held := addItems items w.history.held } v =
      committed w v + itemUnits items v := by
    intro v
    simp only [committed, addItems, itemUnits]
    omega
  refine ⟨fun v => ?_, fun v => ?_, fun v y hy => ?_, fun v => ?_, hinv.columns,
    hinv.requested⟩
  · have hold := hinv.ordered v
    have hunits : ((unitsFor lines v : ℕ) : Int) = quantityOf v lines :=
      Int.toNat_of_nonneg (hlines v).1
    have := (hlines v).2
    rw [hcommitted]
    simp only [Prod.fst_add, Pi.add_apply, Nat.cast_add, hunits]
    show orderedUnits w v + _ ≤ _
    omega
  · rw [hcommitted]
    show _ ≤ initial v + w.history.imported v
    by_cases hmem : v ∈ items.map (·.bookVariantId)
    · obtain ⟨x, hx, hle⟩ := decrbyAll_enough hpos hshort hmem
      have := hinv.key v x hx
      have := hinv.givingBack v
      omega
    · have := hinv.committed_le v
      rw [itemUnits_of_not_mem hmem]
      omega
  · have := key_decrbyAll hinv hguard hy
    rw [hcommitted]
    show y + w.history.givingBack v + _ ≤ initial v + w.history.imported v
    omega
  · have hold : (F.2 v : Int) ≤ w.history.givingBack v := hinv.givingBack v
    simpa using hold

/-- A script that finds an item short leaves its units to be given back. -/
theorem exec_decrbyAvailable_short
    {items : List CheckoutItemDto} {i : CheckoutItemDto} {results : List Int}
    (hinv : SupplyInv initial F w)
    (hpos : ∀ i, i ∈ items → 0 < i.quantity)
    (hguard : ∀ i, i ∈ items → w.redis i.bookVariantId = none →
      0 ≤ free w i.bookVariantId)
    (hshort : firstShort items results = some i)
    (h : exec dep (.decrbyAvailable items) w = .ok (w', results)) :
    SupplyInv initial (toGiveBack i.bookVariantId i.quantity + F) w' := by
  have hi := firstShort_mem hshort
  simp only [exec] at h
  split at h
  case h_1 heq =>
    cases h
    rw [hshort] at heq
    cases heq
  rename_i j heq
  cases h
  rw [hshort, Option.some.injEq] at heq
  subst heq
  have hback : ∀ u, addItems [i] w.history.givingBack u =
      w.history.givingBack u + if i.bookVariantId = u then i.quantity else 0 := by
    intro u
    simp only [addItems, List.map_cons, List.map_nil, quantityOf_cons]
    simp [quantityOf]
  refine ⟨fun v => ?_, hinv.committed_le, fun v y hy => ?_, fun v => ?_, hinv.columns,
    hinv.requested⟩
  · have hsame : (toGiveBack i.bookVariantId i.quantity + F).1 v = F.1 v := by simp
    rw [hsame]
    exact hinv.ordered v
  · have := key_decrbyAll hinv hguard hy
    have hnonneg := itemUnits_nonneg hpos v
    show y + addItems [i] w.history.givingBack v + committed w v ≤
      initial v + w.history.imported v
    rw [hback]
    split_ifs with hv
    · subst hv
      have := quantity_le_itemUnits hpos hi
      omega
    · omega
  · have hold := hinv.givingBack v
    simp only [Prod.snd_add, Pi.add_apply, Nat.cast_add]
    show _ ≤ addItems [i] w.history.givingBack v
    rw [hback]
    by_cases hv : i.bookVariantId = v
    · subst hv
      rw [Pi.single_eq_same, Int.toNat_of_nonneg (hpos i hi).le, if_pos rfl]
      omega
    · rw [Pi.single_eq_of_ne (Ne.symm hv), if_neg hv]
      simpa using hold

/-- In a list with different variants the first match is the only one. -/
theorem find_item
    {payload : List CheckoutItemDto} {i : CheckoutItemDto}
    (hnodup : (payload.map (·.bookVariantId)).Nodup)
    (hi : i ∈ payload) :
    payload.find? (fun p => decide (p.bookVariantId = i.bookVariantId)) = some i := by
  induction payload with
  | nil =>
      cases hi
  | cons j payload ih =>
      rw [List.map_cons, List.nodup_cons] at hnodup
      rcases List.mem_cons.mp hi with rfl | hi
      · simp
      · have hne : j.bookVariantId ≠ i.bookVariantId := by
          intro h
          exact hnodup.1 (h ▸ List.mem_map_of_mem (f := (·.bookVariantId)) hi)
        rw [List.find?_cons_of_neg (by simpa using hne)]
        exact ih hnodup.2 hi

/-- Where enough is left the database grants what is asked for. -/
theorem granted_eq_itemUnits
    {payload : List CheckoutItemDto}
    (hnodup : (payload.map (·.bookVariantId)).Nodup)
    (hpos : ∀ i, i ∈ payload → 0 < i.quantity)
    (hleft : ∀ i, i ∈ payload →
      i.quantity ≤ w.db.stock i.bookVariantId - w.db.reserved i.bookVariantId)
    (v : Nat) :
    ((w.db.variants.find v).map (granted payload)).getD 0 = itemUnits payload v := by
  by_cases hv : v ∈ payload.map (·.bookVariantId)
  · obtain ⟨i, hi, rfl⟩ := List.mem_map.mp hv
    have hunits : itemUnits payload i.bookVariantId = i.quantity := by
      refine quantityOf_of_mem ?_ (List.mem_map_of_mem (f := fun j : CheckoutItemDto =>
        (j.bookVariantId, j.quantity)) hi)
      rwa [List.map_map]
    have hle := hleft i hi
    have := hpos i hi
    cases hrow : w.db.variants.find i.bookVariantId with
    | none =>
        simp only [Database.stock, Database.reserved, hrow, Option.map_none,
          Option.getD_none] at hle
        omega
    | some r =>
        have hid : r.id = i.bookVariantId := Table.find_key hrow
        simp only [Database.stock, Database.reserved, hrow, Option.map_some,
          Option.getD_some] at hle
        rw [Option.map_some, Option.getD_some, granted, hid, find_item hnodup hi, hunits]
        exact if_pos hle
  · have hunits := itemUnits_of_not_mem hv
    rw [hunits]
    cases hrow : w.db.variants.find v with
    | none =>
        rfl
    | some r =>
        have hid : r.id = v := Table.find_key hrow
        refine granted_of_not_listed (List.any_eq_false.mpr fun p hp => ?_)
        intro h
        refine hv (List.mem_map.mpr ⟨p, hp, ?_⟩)
        rw [← hid]
        simpa using h

/-- The fallback grants the units; the checkout holds them. -/
theorem exec_updateReservedByIds_checkout
    {payload : List CheckoutItemDto} {lines : List (Nat × Int)}
    {r : Response (.updateReservedByIds payload .checkout)}
    (hinv : SupplyInv initial F w)
    (hnodup : (payload.map (·.bookVariantId)).Nodup)
    (hpos : ∀ i, i ∈ payload → 0 < i.quantity)
    (hlines : ∀ v, 0 ≤ quantityOf v lines ∧ quantityOf v lines ≤ itemUnits payload v)
    (hguard : ∀ i, i ∈ payload →
      i.quantity ≤ w.db.stock i.bookVariantId - w.db.reserved i.bookVariantId ∧
      i.quantity ≤ free w i.bookVariantId + w.history.givingBack i.bookVariantId ∧
      ∀ x, x ∈ w.redis i.bookVariantId → x + i.quantity ≤ free w i.bookVariantId)
    (h : exec dep (.updateReservedByIds payload .checkout) w = .ok (w', r)) :
    SupplyInv initial (toOrder lines + F) w' := by
  have hgranted := granted_eq_itemUnits hnodup hpos (fun i hi => (hguard i hi).1)
  have hunits : ∀ i, i ∈ payload → itemUnits payload i.bookVariantId = i.quantity := by
    intro i hi
    refine quantityOf_of_mem ?_ (List.mem_map_of_mem (f := fun j : CheckoutItemDto =>
      (j.bookVariantId, j.quantity)) hi)
    rwa [List.map_map]
  simp only [exec] at h
  split at h
  · cases h
  cases h
  have hcolumns := columns_updateReservedByIds w.db
    { w.db with variants := updateReservedByIds payload w.db.variants } rfl
  refine ⟨fun v => ?_, fun v => ?_, fun v y hy => ?_, fun v => ?_, fun v => ?_,
    hinv.requested⟩
  · have hold := hinv.ordered v
    have hcast : ((unitsFor lines v : ℕ) : Int) = quantityOf v lines :=
      Int.toNat_of_nonneg (hlines v).1
    have := (hlines v).2
    simp only [Prod.fst_add, Pi.add_apply, Nat.cast_add, hcast]
    show orderedUnits w v + _ ≤ w.history.held v + (w.history.bookedByCheckouts v +
      ((w.db.variants.find v).map (granted payload)).getD 0)
    rw [hgranted]
    unfold committed at hold
    omega
  · have hold := hinv.committed_le v
    show w.history.held v + (w.history.bookedByCheckouts v +
      ((w.db.variants.find v).map (granted payload)).getD 0) ≤
        initial v + w.history.imported v
    rw [hgranted]
    by_cases hmem : v ∈ payload.map (·.bookVariantId)
    · obtain ⟨i, hi, rfl⟩ := List.mem_map.mp hmem
      have := (hguard i hi).2.1
      rw [hinv.free_eq] at this
      rw [hunits i hi]
      unfold committed at this
      omega
    · rw [itemUnits_of_not_mem hmem]
      unfold committed at hold
      omega
  · have hold := hinv.key v y hy
    show y + w.history.givingBack v + (w.history.held v + (w.history.bookedByCheckouts v +
      ((w.db.variants.find v).map (granted payload)).getD 0)) ≤
        initial v + w.history.imported v
    rw [hgranted]
    by_cases hmem : v ∈ payload.map (·.bookVariantId)
    · obtain ⟨i, hi, rfl⟩ := List.mem_map.mp hmem
      have := (hguard i hi).2.2 y hy
      rw [hinv.free_eq] at this
      rw [hunits i hi]
      unfold committed at this
      omega
    · rw [itemUnits_of_not_mem hmem]
      unfold committed at hold
      omega
  · have hold : (F.2 v : Int) ≤ w.history.givingBack v := hinv.givingBack v
    simpa using hold
  · have hold := hinv.columns v
    obtain ⟨hstock, hreserved⟩ := hcolumns v
    simp only [hstock, hreserved]
    omega

theorem exec_importStock
    {data : StockImportInput} {r : Response (.importStock data)}
    (hinv : SupplyInv initial m w)
    (h : exec dep (.importStock data) w = .ok (w', r)) :
    SupplyInv initial m w' := by
  simp only [exec] at h
  split at h
  · cases h
  rename_i hcheck
  cases h
  have hadd : ∀ v, 0 ≤ quantityOf v
      (data.lines.map fun l => (l.bookVariantId, (l.realQuantity : Int))) := by
    intro v
    refine quantityOf_nonneg (fun l hl => ?_)
    obtain ⟨line, -, rfl⟩ := List.mem_map.mp hl
    exact Int.natCast_nonneg _
  have hcolumns := columns_incrementStockById w.db
    (BookStore.importStock (dep.cuids w.db.stockImports.length) data w.db)
    rfl
  refine ⟨hinv.ordered, fun v => ?_, fun v x hx => ?_, hinv.givingBack, fun v => ?_,
    hinv.requested⟩
  · have := hinv.committed_le v
    have := hadd v
    show committed w v ≤ initial v + (w.history.imported v + _)
    omega
  · have := hinv.key v x hx
    have := hadd v
    show x + w.history.givingBack v + committed w v ≤
      initial v + (w.history.imported v + _)
    omega
  · have hold := hinv.columns v
    obtain ⟨hstock, hreserved⟩ := hcolumns v
    simp only [hstock, hreserved, List.map_map]
    -- every imported variant has a row
    by_cases hv : w.db.hasVariant v
    · rw [if_pos hv]
      simp only [Function.comp_def]
      omega
    · have hnone : quantityOf v
          (data.lines.map fun l => (l.bookVariantId, (l.realQuantity : Int))) = 0 := by
        refine quantityOf_of_not_mem (fun hmem => ?_)
        obtain ⟨e, he, rfl⟩ := List.mem_map.mp hmem
        obtain ⟨l, hl, rfl⟩ := List.mem_map.mp he
        refine hcheck (.inr (.inr (List.any_eq_true.mpr ⟨l, hl, ?_⟩)))
        simpa [Database.hasVariant] using hv
      rw [if_neg hv, hnone]
      omega

/-! ### The logic -/

variable (initial) in
/-- Checkouts hold the units that they have been granted. -/
def supplyLogic : Logic Stmt World Units where
  inv := SupplyInv initial
  rely := fun _ _ => True
  rely_refl := fun _ => trivial
  rely_trans := fun _ _ _ _ _ => trivial
  guard := WithinFree
  done := fun _ => True

/-- Statements that need nothing to be held. -/
def NeedsNothing : Stmt → Prop
  | .setAvailable _ _ => True
  | .importStock _ => True
  | s => LeavesBooks s

theorem harmless_of_needsNothing
    {s : Stmt}
    (hs : NeedsNothing s) :
    Harmless (supplyLogic initial) (exec dep) .database (fun _ => True) s := by
  intro v m o _ hinv hguard
  refine attempt_cases (motive := fun x => SupplyInv initial m x.1 ∧ True)
    (fun _ => ⟨hinv, trivial⟩) (fun v' r ho h => ?_)
  suffices hinv' : SupplyInv initial m v' from ⟨⟨hinv', trivial⟩, hinv', trivial⟩
  have hleaves : LeavesBooks s → SupplyInv initial m v' :=
    fun hs => SupplyInv.of_leavesBooks hinv hs h
  cases s with
  | setAvailable u x =>
      exact exec_setAvailable hinv (hguard ho) h
  | importStock data =>
      exact exec_importStock hinv h
  | _ =>
      exact hleaves hs

section Services

/-- A service without statements that admit units is safe. -/
theorem supply_of_all
    {p : Service Answer}
    (hp : p.All NeedsNothing) :
    SafeHandler (supplyLogic initial) (exec dep) .database p m w :=
  Safe.of_all (K := fun _ => True) (fun _ _ _ _ => trivial)
    (hp.mono fun _ => harmless_of_needsNothing) trivial (fun _ _ _ => trivial) trivial

/-- The lines of an order are what its checkout asked for. -/
theorem mem_requestedLines
    {items : List CheckoutItemDto} {variants : List BookVariant} {l : Nat × Int}
    (hnodup : (items.map (·.bookVariantId)).Nodup)
    (hl : l ∈ requestedLines variants (mapVariantIds items)) :
    l.2 = itemUnits items l.1 := by
  obtain ⟨v, -, rfl⟩ := List.mem_map.mp hl
  have hlines : ((items.map fun i => (i.bookVariantId, i.quantity)).map Prod.fst).Nodup := by
    rwa [List.map_map]
  exact mapQuantity_mapOf hlines v.id

theorem quantityOf_requestedLines
    {items : List CheckoutItemDto} {variants : List BookVariant}
    (h : FoundFor items variants)
    (hnodup : (items.map (·.bookVariantId)).Nodup)
    (hpos : ∀ i, i ∈ items → 0 < i.quantity)
    (v : Nat) :
    0 ≤ quantityOf v (requestedLines variants (mapVariantIds items)) ∧
      quantityOf v (requestedLines variants (mapVariantIds items)) ≤
        itemUnits items v := by
  have hnonneg := itemUnits_nonneg hpos v
  have hids : ((requestedLines variants (mapVariantIds items)).map Prod.fst).Nodup := by
    rw [requestedLines, List.map_map]
    exact h.nodup
  by_cases hv : v ∈ (requestedLines variants (mapVariantIds items)).map Prod.fst
  · obtain ⟨l, hl, rfl⟩ := List.mem_map.mp hv
    rw [quantityOf_of_mem (q := l.2) hids hl, mem_requestedLines hnodup hl]
    exact ⟨hnonneg, le_refl _⟩
  · rw [quantityOf_of_not_mem hv]
    exact ⟨le_refl _, hnonneg⟩

/-- What the checkout knows of its items when it starts to reserve. -/
structure Checked (items : List CheckoutItemDto) (lines : List (Nat × Int)) : Prop where
  nodup : (items.map (·.bookVariantId)).Nodup
  pos : ∀ i, i ∈ items → 0 < i.quantity
  lines : ∀ v, 0 ≤ quantityOf v lines ∧ quantityOf v lines ≤ itemUnits items v

variable {items : List CheckoutItemDto} {lines : List (Nat × Int)}

/-- The Redis path ends with the units held, or throws. -/
theorem reserveInRedis_supply
    (hchecked : Checked items lines)
    (variants : List BookVariant) :
    Safe (supplyLogic initial) (exec dep) .database
      (fun x m _ =>
        match x with
        | .ok _ => m = toOrder lines
        | .error _ => True)
      (reserveInRedis items variants) m w := by
  refine Safe.bind (Safe.of_all (K := fun _ => True) (fun _ _ _ _ => trivial) ?_ trivial
    (fun x v _ => ?_) trivial)
  · exact All.forEach fun v _ => (All.await (harmless_of_needsNothing
      (s := .setAvailable v.id (v.stock - v.reserved)) trivial)).tryCatch fun _ => trivial
  rcases x with e | _
  · trivial
  refine Safe.await_bind (StatementSafe.of_exec (fun _ _ _ _ _ => trivial) ?_)
  intro v F o v' results _ hinv hguard ho h
  have hinv := SupplyInv.drop hinv
  have hguard := hguard ho
  dsimp only
  rw [checkRemaining_eq]
  cases hshort : firstShort items results with
  | none =>
      exact ⟨toOrder lines,
        exec_decrbyAvailable_enough hinv hchecked.pos hchecked.lines hguard hshort h,
        trivial, fun _ _ => rfl, fun _ _ => trivial⟩
  | some i =>
      have hi := hchecked.pos i (firstShort_mem hshort)
      refine ⟨toGiveBack i.bookVariantId i.quantity,
        exec_decrbyAvailable_short hinv hchecked.pos hguard hshort h, trivial, ?_,
        fun _ _ => trivial⟩
      refine Safe.await_bind (StatementSafe.of_exec (fun _ _ _ _ _ => trivial) ?_)
      intro u F' o' u' r _ hinv' hguard' ho' h'
      exact ⟨0, by
        rw [zero_add]
        exact exec_incrbyAvailable hinv' hi.le (hguard' ho') h',
        trivial, fun _ _ => trivial, fun _ _ => trivial⟩

/-- The database path ends with the units held, or throws. -/
theorem reserveInDatabase_supply
    (hchecked : Checked items lines)
    (variants : List BookVariant) :
    Safe (supplyLogic initial) (exec dep) .database
      (fun x m _ =>
        match x with
        | .ok _ => m = toOrder lines
        | .error _ => True)
      (reserveInDatabase items variants) m w := by
  unfold reserveInDatabase
  split_ifs
  · exact fun _ _ => trivial
  refine Safe.call_resume (StatementSafe.of_exec (fun _ _ _ _ _ => trivial) ?_)
  intro v F o v' r _ hinv hguard ho h
  exact ⟨toOrder lines,
    exec_updateReservedByIds_checkout (SupplyInv.drop hinv) hchecked.nodup hchecked.pos
      hchecked.lines (hguard ho) h,
    trivial, fun _ _ => rfl, fun _ _ => trivial⟩

/-- Whichever path is taken, the units are held when the order is placed. -/
theorem reserveItems_supply
    (hchecked : Checked items lines)
    (variants : List BookVariant) :
    Safe (supplyLogic initial) (exec dep) .database
      (fun x m _ =>
        match x with
        | .ok _ => m = toOrder lines
        | .error _ => True)
      (reserveItems items variants) m w := by
  refine Safe.tryCatch (Safe.bind (Safe.mono
    (reserveInRedis_supply hchecked variants) fun x m v _ hx => ?_))
  cases x with
  | ok _ =>
      exact fun _ _ => hx
  | error e =>
      refine Safe.bind (Safe.mono (reserveInDatabase_supply hchecked variants)
        fun x m v _ hx => ?_)
      cases x with
      | ok _ =>
          exact fun _ _ => hx
      | error e =>
          trivial

theorem createCheckout_supply
    {body : CreateCheckOutDTO}
    (guestSessionId : Option String)
    (userId : Option Nat)
    (hpos : ∀ i, i ∈ body.items → 0 < i.quantity) :
    SafeHandler (supplyLogic initial) (exec dep) .database
      (createCheckout dep body guestSessionId userId) 0 w := by
  have hshopper : (checkShopper body guestSessionId userId).All
      (Harmless (supplyLogic initial) (exec dep) .database fun _ => True) := by
    unfold checkShopper
    split_ifs
    · trivial
    · trivial
    · trivial
    · trivial
    · refine All.bind (All.await (harmless_of_needsNothing trivial)) (fun address => ?_)
      cases address <;> trivial
  refine Safe.bind (Safe.of_all (K := fun _ => True) (fun _ _ _ _ => trivial) hshopper
    trivial (fun x v _ => ?_) trivial)
  rcases x with e | email
  · trivial
  refine Safe.await_bind (StatementSafe.of_read _ (fun _ => rfl) ?_
    (fun _ _ _ _ _ => trivial))
  intro v F _ _
  have hfound := foundFor_findByIds body.items v.db.variants
  revert hfound
  generalize v.db.variants.filter _ = variants
  intro hfound
  show Safe _ _ _ _ (if _ then _ else _) _ _
  split
  · exact fun _ _ => trivial
  rename_i hlength
  have hnodup := hfound.items_nodup (not_not.mp hlength)
  have hchecked : Checked body.items (requestedLines variants (mapVariantIds body.items)) :=
    ⟨hnodup, hpos, quantityOf_requestedLines hfound hnodup hpos⟩
  refine Safe.bind (Safe.mono (reserveItems_supply hchecked variants)
    fun x m v _ hx => ?_)
  rcases x with e | isError
  · trivial
  -- the order takes the units; what follows needs nothing
  refine Safe.await_bind (StatementSafe.of_exec (fun _ _ _ _ _ => trivial) ?_)
  intro u F o u' order _ hinv _ _ h
  obtain rfl : m = _ := hx
  have hinv : SupplyInv initial (toOrder
      (orderCreateInput body guestSessionId userId variants).requested + F) u := hinv
  refine ⟨0, ?_, trivial, ?_, fun _ _ => trivial⟩
  · rw [zero_add]
    refine exec_createOrder hinv (fun l hl => ?_) h
    rw [mem_requestedLines hnodup hl]
    exact itemUnits_nonneg hpos l.1
  · refine supply_of_all (All.bind ?_ fun result =>
      All.bind (All.await trivial) fun _ => trivial)
    unfold BookStore.createPaymentIntent
    split_ifs
    · trivial
    · exact All.bind (All.await trivial) (fun _ => trivial)

end Services

/-! ### Runs -/

theorem handler_supply
    {r : Request}
    (hpositive : SellsPositive w (.arrive r)) :
    SafeHandler (supplyLogic initial) (exec dep) .database (handler dep r) 0 w := by
  cases r with
  | createCheckout body guestSessionId userId =>
      exact createCheckout_supply guestSessionId userId hpositive
  | sepayWebhook body =>
      exact supply_of_all ((handleSepayWebhook_all body).mono fun s hs => by
        cases s <;> first | trivial | (rcases hs with hs | ⟨_, _, hs⟩ <;> cases hs))
  | getPaymentStatus orderCode =>
      exact supply_of_all ((getPaymentStatus_all orderCode).mono fun s hs => by
        cases s <;> trivial)
  | cleanOrder =>
      exact hpositive.elim
  | updateOrderStatus orderId body =>
      exact supply_of_all ((updateOrderStatus_all orderId body).mono fun s hs => by
        cases s <;> trivial)
  | createStockImport createdById body =>
      exact supply_of_all ((createStockImport_all createdById body).mono fun s hs => by
        cases s <;> trivial)

theorem environment_supply :
    EnvSafe (supplyLogic initial) (server dep) SellsPositive := by
  refine envSafe_of_events dep (fun w _ r _ hpositive => handler_supply hpositive)
    ?_ ?_ ?_
  · intro w F i payload hinv _ _
    refine ⟨trivial, 0, by
      rw [zero_add]
      exact ⟨hinv.1, hinv.2, hinv.3, hinv.4, hinv.5, hinv.6⟩, ?_⟩
    refine supply_of_all ((processCheckout_all payload).mono fun s hs => ?_)
    cases s with
    | updateReservedByIds payload origin =>
        exact hs
    | _ =>
        trivial
  · intro w F v hinv _
    refine ⟨trivial, hinv.1, hinv.2, fun u x hx => hinv.3 u x ?_, hinv.4, hinv.5, hinv.6⟩
    by_cases hu : u = v
    · subst hu
      have hx : Function.update w.redis u none u = some x := hx
      rw [Function.update_self] at hx
      cases hx
    · have hx : Function.update w.redis v none u = some x := hx
      rwa [Function.update_of_ne hu] at hx
  · exact fun w F ms hinv _ => ⟨trivial, hinv.1, hinv.2, hinv.3, hinv.4, hinv.5, hinv.6⟩

theorem supplyInv_fresh
    (hw : Fresh w)
    (hreserved : ∀ v, w.db.reserved v = 0)
    (hstock : ∀ v, 0 ≤ w.db.stock v) :
    SupplyInv w.db.stock 0 w := by
  constructor
  · simp [orderedUnits, Table.total, committed, hw.orders, hw.history]
  · simpa [committed, hw.history] using hstock
  · simp [hw.redis]
  · simp [hw.history]
  · simp [hw.history, hreserved]
  · simp [hw.orders]

variable (dep)

/--
In every run whose statements find the units that they admit free, the units of
`v` over the orders that are not `CANCELLED` never exceed the initial stock of
`v` and its imports.
-/
theorem no_oversell
    {w : World} {c' : ServerState} {as : List (Action Event)}
    (hw : Fresh w)
    (hreserved : ∀ v, w.db.reserved v = 0)
    (hstock : ∀ v, 0 ≤ w.db.stock v)
    (hmeets : Meets (server dep).step
      (System.Conforms SellsPositive WithinFree) ⟨w, []⟩ as)
    (hrun : runs (server dep).step ⟨w, []⟩ as = some c') :
    ∀ v, soldUnits c'.world v ≤ w.db.stock v + c'.world.history.imported v := by
  intro v
  have hstart : Balanced (supplyLogic w.db.stock) (server dep) ⟨w, []⟩ :=
    balanced_start (supplyInv_fresh hw hreserved hstock)
  obtain ⟨ms, -, hinv⟩ := balanced_runs environment_supply hstart hmeets hrun
  have hinv : SupplyInv w.db.stock ms.sum c'.world := hinv
  have hsold := soldUnits_le_orderedUnits hinv.requested v
  have hordered := hinv.ordered v
  have hcommitted := hinv.committed_le v
  omega

theorem sampleWorld_columns (n : Int) (v : Nat) :
    (sampleWorld n).db.reserved v = 0 ∧
      ((sampleWorld n).db.stock v = 0 ∨ (sampleWorld n).db.stock v = n) := by
  simp only [Database.reserved, Database.stock, sampleWorld, Table.find_insert]
  split_ifs <;> simp

set_option maxRecDepth 4000 in
/-- The order of `placedThenPaid` sells one of five copies. -/
theorem no_oversell_placedThenPaid :
    ∃ c', runs (server sampleDeployment).step ⟨sampleWorld 5, []⟩ placedThenPaid =
        some c' ∧ soldUnits c'.world 1 = 1 ∧
      ∀ v, soldUnits c'.world v ≤ (sampleWorld 5).db.stock v +
        c'.world.history.imported v := by
  obtain ⟨c', hrun, hsold⟩ := Option.map_eq_some_iff.mp
    (by decide +kernel : (runs (server sampleDeployment).step ⟨sampleWorld 5, []⟩
      placedThenPaid).map (fun c => soldUnits c.world 1) = some 1)
  refine ⟨c', hrun, hsold, no_oversell sampleDeployment (sampleWorld_fresh 5)
    (fun v => (sampleWorld_columns 5 v).1) (fun v => ?_) (by decide +kernel) hrun⟩
  rcases (sampleWorld_columns 5 v).2 with h | h <;> omega

/-- A guest asks for five copies where there is one. -/
def fiveOfOne : List (Action Event) :=
  .env (.arrive (sampleGuest .cod 5)) :: steps 0 7

set_option maxRecDepth 4000 in
/-- Redis refuses, the fallback adds nothing to `reserved`, the order is placed. -/
theorem fiveOfOne_oversells :
    ¬ ∀ (w : World) (as : List (Action Event)) (c' : ServerState), Fresh w →
      (∀ v, w.db.reserved v = 0) → (∀ v, 0 ≤ w.db.stock v) →
      Meets (server sampleDeployment).step
        (System.Conforms SellsPositive fun _ _ _ => True) ⟨w, []⟩ as →
      runs (server sampleDeployment).step ⟨w, []⟩ as = some c' →
      ∀ v, soldUnits c'.world v ≤ w.db.stock v + c'.world.history.imported v := by
  intro h
  obtain ⟨c', hrun, hsold⟩ := Option.map_eq_some_iff.mp
    (by decide +kernel : (runs (server sampleDeployment).step ⟨sampleWorld 1, []⟩
      fiveOfOne).map (fun c => (soldUnits c.world 1, c.world.history.imported 1)) =
        some (5, 0))
  have hle := h (sampleWorld 1) fiveOfOne c' (sampleWorld_fresh 1)
    (fun v => (sampleWorld_columns 1 v).1)
    (fun v => by rcases (sampleWorld_columns 1 v).2 with h | h <;> omega)
    (by decide +kernel) hrun 1
  obtain ⟨hfive, hzero⟩ := Prod.mk.inj hsold
  rw [hfive, hzero] at hle
  revert hle
  decide

end BookStore
