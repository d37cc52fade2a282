import BookStore.Effects
import BookStore.Inventory

/-!
# What a cleanup releases

`cleanOrder` reads the items of the expired orders in one query, adds them up and
gives the sums to a transaction, which selects the expired orders once more.

* `seenUnits` are the units that the query adds up, `expiredUnits` those of the orders
  that the transaction cancels.
* `cleanup_releases_iff` is the result, for whatever happens between the two.
-/

namespace BookStore

open Async Program

/-- The units of `v` in the orders that meet a condition. -/
def unitsWhere (w : World) (p : Order → Bool) (v : Nat) : Int :=
  ((w.db.orders.filter p).map fun o => quantityOf v (w.db.itemQuantities o.id)).sum

/-- The units of `v` that `findOrderIsExpire` reads. -/
def seenUnits (w : World) : Nat → Int :=
  unitsWhere w fun o => isExpired w.now o && decide (o.paymentStatus = some .pending)

/-- The units of `v` in the orders that `clearOrder` cancels. -/
def expiredUnits (w : World) : Nat → Int :=
  unitsWhere w (isExpired w.now)

/-- The order was unpaid in `w` and is cancelled in `w'`. -/
def movedToCancelled (w' : World) (o : Order) : Bool :=
  decide (o.status = some .pendingPayment) &&
    (w'.db.orders.find o.id).any fun o' => decide (o'.status = some .cancelled)

/-- The units of `v` in the orders that were cancelled between `w` and `w'`. -/
def cancelledUnits (w w' : World) : Nat → Int :=
  unitsWhere w (movedToCancelled w')

/-! ### The map of the query -/

theorem mapQuantity_mapSet (m : List (Nat × Int)) (k : Nat) (q : Int) (v : Nat) :
    mapQuantity (mapSet m k q) v = if k = v then q else mapQuantity m v := by
  unfold mapQuantity
  rw [mapGet_mapSet]
  split_ifs <;> rfl

/-- `mapAdd` adds up what each variant has in the entries. -/
theorem mapQuantity_mapAdd (lines : List (Nat × Int)) (v : Nat) :
    mapQuantity (mapAdd lines) v = quantityOf v lines := by
  have key : ∀ (lines m : List (Nat × Int)),
      mapQuantity (lines.foldl
        (fun m e => mapSet m e.1 ((mapGet m e.1).getD 0 + e.2)) m) v =
        mapQuantity m v + quantityOf v lines := by
    intro lines
    induction lines with
    | nil =>
        intro m
        simp [quantityOf]
    | cons l lines ih =>
        intro m
        rw [List.foldl_cons, ih, mapQuantity_mapSet, quantityOf_cons]
        split_ifs with hl
        · subst hl
          unfold mapQuantity
          omega
        · omega
  have := key lines []
  rwa [show mapQuantity [] v = 0 from rfl, zero_add] at this

theorem quantityOf_flatten (v : Nat) (ls : List (List (Nat × Int))) :
    quantityOf v ls.flatten = (ls.map (quantityOf v)).sum := by
  induction ls with
  | nil =>
      rfl
  | cons l ls ih =>
      rw [List.flatten_cons, quantityOf_append, ih, List.map_cons, List.sum_cons]

/-- The orders that the query returns. -/
def expiredOrders (w : World) : List (List (Nat × Int)) :=
  (w.db.orders.filter fun o =>
    isExpired w.now o && decide (o.paymentStatus = some .pending)).map fun o =>
      w.db.itemQuantities o.id

theorem mapQuantity_expiredOrders (w : World) (v : Nat) :
    mapQuantity (mapAdd (expiredOrders w).flatten) v = seenUnits w v := by
  rw [mapQuantity_mapAdd, quantityOf_flatten, expiredOrders, List.map_map]
  rfl

variable {dep : Deployment}

/-! ### The transaction -/

/-- The transaction cancels the expired orders and releases the units of its map. -/
theorem exec_clearOrder
    {m : List (Nat × Int)} {w w' : World} {r : Unit}
    (h : exec dep (.clearOrder m) w = .ok (w', r)) (v : Nat) :
    cancelledUnits w w' v = expiredUnits w v ∧
      (w.db.hasVariant v = true →
        w.db.reserved v - w'.db.reserved v = mapQuantity m v) := by
  have heff := exec_effects dep h
  have horders := heff.orders
  simp only [ordersAfter] at horders
  constructor
  · unfold cancelledUnits expiredUnits unitsWhere
    congr 2
    refine List.filter_congr fun o ho => ?_
    have hfind := Table.find_of_mem ho
    rw [movedToCancelled, horders, Table.find_updateWhere,
      show w.db.orders.find o.id = some o from hfind, Option.map_some, Option.any_some]
    by_cases hexpired : isExpired w.now o = true
    · have hstatus : o.status = some .pendingPayment := by
        simp only [isExpired, Bool.and_eq_true, decide_eq_true_eq] at hexpired
        exact hexpired.2
      simp [hexpired, hstatus]
    · by_cases hstatus : o.status = some .pendingPayment
      · simp [hexpired, hstatus]
      · simp [hexpired, hstatus]
  · intro hv
    have := (columns_shiftVariants w.db w'.db heff.variants v).2
    rw [if_pos hv] at this
    omega

/-! ### One cleanup -/

/-- A cleanup that has reached its transaction has read the map in its query. -/
theorem cleanOrder_step
    {c c' d d' : ServerState} {i j j' : Nat} {o o' : Outcome}
    {as : List (Action Event)}
    (hi : c.threads[i]? = some cleanOrder)
    (hquery : (server dep).step c (.run i j o) = some c')
    (hbetween : runs (server dep).step c' as = some d)
    (hothers : ∀ a, a ∈ as → a.thread ≠ some i)
    (hclear : (server dep).step d (.run i j' o') = some d') :
    d'.world = (attempt (exec dep) .database
      (.clearOrder (mapAdd (expiredOrders c.world).flatten)) o' d.world).1 := by
  have hcall : cleanOrder = .call .findOrderIsExpire (resume
      fun expiredOrders : List (List (Nat × Int)) =>
        if expiredOrders.length = 0 then .ret .nothingToClean
        else .call (.clearOrder (mapAdd expiredOrders.flatten))
          (resume fun _ => .ret .cleaned)) := by
    simp only [cleanOrder, bind_eq_bind, bind_await]
  rw [hcall] at hi
  obtain ⟨-, hthread⟩ := System.step_call (server dep) hi hquery
  replace hthread := System.runs_other (server dep) hthread hothers hbetween
  have hended : ∀ x : Except Failure Answer, d.threads[i]? ≠ some (Program.ended x) := by
    intro x hx
    cases x <;> simp [System.step, hx, Program.ended, System.advance] at hclear
  cases o with
  | ok =>
      have hread : (attempt (server dep).exec (server dep).fault .findOrderIsExpire .ok
          c.world).2 = .ok (expiredOrders c.world) := rfl
      rw [hread, Program.resume] at hthread
      split_ifs at hthread with hlength
      · exact absurd hthread (hended (.ok .nothingToClean))
      · exact (System.step_call (server dep) (s := .clearOrder _) hthread hclear).1
  | fail =>
      exact absurd hthread (hended (.error .database))
  | lost =>
      exact absurd hthread (hended (.error .database))

variable (dep) in
/--
One cleanup, its query executed in `c`, its transaction in `d`, with any steps of
others between them.  It lowers what is reserved by exactly the units of the orders
that it cancels, or its transaction has no effect, exactly if the query has read as
many units of each variant as the transaction finds expired.
-/
theorem cleanup_releases_iff
    {c c' d d' : ServerState} {i j j' : Nat} {o o' : Outcome}
    {as : List (Action Event)}
    (hi : c.threads[i]? = some cleanOrder)
    (hquery : (server dep).step c (.run i j o) = some c')
    (hbetween : runs (server dep).step c' as = some d)
    (hothers : ∀ a, a ∈ as → a.thread ≠ some i)
    (hclear : (server dep).step d (.run i j' o') = some d') :
    (∀ v, d.world.db.hasVariant v = true →
      d.world.db.reserved v - d'.world.db.reserved v =
        cancelledUnits d.world d'.world v) ↔
      o' = .fail ∨ ∀ v, d.world.db.hasVariant v = true →
        seenUnits c.world v = expiredUnits d.world v := by
  have hworld := cleanOrder_step hi hquery hbetween hothers hclear
  by_cases ho : o' = .fail
  · subst ho
    refine iff_of_true (fun v _ => ?_) (.inl rfl)
    have hsame : d'.world = d.world := hworld
    have hnone : cancelledUnits d.world d.world v = 0 := by
      unfold cancelledUnits unitsWhere
      rw [Table.filter, List.filter_eq_nil_iff.mpr]
      · rfl
      · intro r hr
        rw [movedToCancelled, show d.world.db.orders.find r.id = some r from
          Table.find_of_mem hr]
        by_cases hstatus : r.status = some .pendingPayment <;> simp [hstatus]
    rw [hsame, hnone, sub_self]
  · have hexec : exec dep (.clearOrder (mapAdd (expiredOrders c.world).flatten))
        d.world = .ok (d'.world, ()) := by
      obtain ⟨w', hw'⟩ : ∃ w', exec dep
          (.clearOrder (mapAdd (expiredOrders c.world).flatten)) d.world = .ok (w', ()) :=
        ⟨_, rfl⟩
      rw [hworld, attempt_fst ho hw', hw']
    simp only [ho, false_or]
    refine forall₂_congr fun v hv => ?_
    obtain ⟨hcancelled, hreserved⟩ := exec_clearOrder hexec v
    rw [hreserved hv, hcancelled, mapQuantity_expiredOrders]

/-- Where the expired orders await their payment the query reads them all. -/
theorem seenUnits_eq
    {w : World}
    (h : ∀ o, o ∈ w.db.orders.rows → isExpired w.now o = true →
      o.paymentStatus = some .pending) (v : Nat) :
    seenUnits w v = expiredUnits w v := by
  unfold seenUnits expiredUnits unitsWhere
  congr 2
  refine List.filter_congr fun o ho => ?_
  cases hexpired : isExpired w.now o with
  | false =>
      rfl
  | true =>
      simp [h o ho hexpired]

/-- An order was placed 41 minutes ago, and a transfer for it arrives. -/
def transferArrived : ServerState :=
  (runs (server sampleDeployment).step ⟨sampleWorld 5, []⟩
    (.env (.arrive (sampleUser .sepay 1)) :: steps 0 7 ++
      .env (.startJob 0) :: steps 1 4 ++
      [.env (.tick (41 * 60 * 1000)),
        .env (.arrive (sampleTransfer 7 "VLR0" 120000))])).getD ⟨sampleWorld 5, []⟩

/-- Then the cleanup starts. -/
def cleanupStarted : ServerState :=
  ⟨transferArrived.world, transferArrived.threads ++ [cleanOrder]⟩

theorem cleanupStarted_thread : cleanupStarted.threads[3]? = some cleanOrder := by
  have hlength : transferArrived.threads.length = 3 := by decide +kernel
  rw [cleanupStarted, List.getElem?_append_right (by omega), hlength]
  rfl

set_option maxRecDepth 4000 in
theorem cleanup_releases_iff_alone :
    ∃ d d', (server sampleDeployment).step cleanupStarted (.run 3 0 .ok) = some d ∧
      (server sampleDeployment).step d (.run 3 0 .ok) = some d' ∧
      ∀ v, d.world.db.hasVariant v = true →
        d.world.db.reserved v - d'.world.db.reserved v =
          cancelledUnits d.world d'.world v := by
  obtain ⟨d', hd'⟩ := Option.isSome_iff_exists.mp
    (by decide +kernel : (((server sampleDeployment).step cleanupStarted
      (.run 3 0 .ok)).bind fun d => (server sampleDeployment).step d
        (.run 3 0 .ok)).isSome)
  obtain ⟨d, hd, hd'⟩ := Option.bind_eq_some_iff.mp hd'
  refine ⟨d, d', hd, hd', (cleanup_releases_iff sampleDeployment cleanupStarted_thread
    hd (rfl : runs (server sampleDeployment).step d [] = some d) (by simp) hd').mpr
    (.inr fun v _ => ?_)⟩
  have hread : d.world = cleanupStarted.world :=
    (System.step_call (server sampleDeployment) (s := .findOrderIsExpire)
      cleanupStarted_thread hd).1
  rw [hread]
  exact seenUnits_eq (by decide +kernel) v

set_option maxRecDepth 4000 in
/-- The order is paid between the query and the transaction. -/
theorem paidMeanwhile_releases :
    ¬ ∀ (c c' d d' : ServerState) (i : Nat) (as : List (Action Event)),
      c.threads[i]? = some cleanOrder →
      (server sampleDeployment).step c (.run i 0 .ok) = some c' →
      runs (server sampleDeployment).step c' as = some d →
      (∀ a, a ∈ as → a.thread ≠ some i) →
      (server sampleDeployment).step d (.run i 0 .ok) = some d' →
      ∀ v, d.world.db.hasVariant v = true →
        d.world.db.reserved v - d'.world.db.reserved v =
          cancelledUnits d.world d'.world v := by
  intro h
  have hrun : (((server sampleDeployment).step cleanupStarted (.run 3 0 .ok)).bind
      fun c' => (runs (server sampleDeployment).step c' (steps 2 15)).bind fun d =>
        ((server sampleDeployment).step d (.run 3 0 .ok)).filter fun d' =>
          d.world.db.hasVariant 1 &&
            decide (d.world.db.reserved 1 - d'.world.db.reserved 1 ≠
              cancelledUnits d.world d'.world 1)).isSome = true := by
    decide +kernel
  obtain ⟨d', hd'⟩ := Option.isSome_iff_exists.mp hrun
  obtain ⟨c', hc', hd'⟩ := Option.bind_eq_some_iff.mp hd'
  obtain ⟨d, hd, hd'⟩ := Option.bind_eq_some_iff.mp hd'
  obtain ⟨hd', hunits⟩ := Option.filter_eq_some_iff.mp hd'
  simp only [Bool.and_eq_true, decide_eq_true_eq] at hunits
  exact hunits.2 (h cleanupStarted c' d d' 3 (steps 2 15) cleanupStarted_thread hc' hd
    (by simp [steps, Action.thread]) hd' 1 hunits.1)

end BookStore
