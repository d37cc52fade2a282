import BookStore.Inventory
import BookStore.OrderItems

/-!
# Redelivery of a checkout job

BullMQ may hand a job to a worker more than once.  The snapshots are written
once (`skipDuplicates`), but the items are appended at every delivery, and the
address of a guest order is unique: a second delivery finds the key taken and
deletes the order.

* `redeliver k` runs `processCheckout` on the same data `k` times.
* `SameOutcome` compares what two worlds hold about an order.
* `redeliver_sameOutcome_iff`: exactly which payloads tolerate redelivery.
-/

namespace BookStore

open Async Program

variable (dep : Deployment)

/-- The world after one delivery of the job. -/
def deliver (payload : CheckoutJobPayload) (w : World) : Option World :=
  ((processCheckout payload).alone (exec dep) .database w).map Prod.fst

/-- The world after `k` deliveries of the job, one after the other. -/
def redeliver (payload : CheckoutJobPayload) : Nat → World → Option World
  | 0, w => some w
  | k + 1, w => (deliver dep payload w).bind (redeliver payload k)

/-- Two worlds agree on order `k`, on the snapshots and on the inventory. -/
structure SameOutcome (k : Nat) (w w' : World) : Prop where
  order : w'.db.orders.find k = w.db.orders.find k
  /-- The items, up to their own numbers. -/
  items : (w'.db.itemsOf k).map (fun i => { i with id := 0 }) =
    (w.db.itemsOf k).map (fun i => { i with id := 0 })
  /-- The address, up to its own number. -/
  address : (w'.db.orderAddresses.filter (fun a => decide (a.orderId = k))).map
      (fun a => { a with id := 0 }) =
    (w.db.orderAddresses.filter (fun a => decide (a.orderId = k))).map
      (fun a => { a with id := 0 })
  snapshots : w'.db.snapshots.rows = w.db.snapshots.rows
  stock : ∀ v, w'.db.stock v = w.db.stock v
  reserved : ∀ v, w'.db.reserved v = w.db.reserved v

theorem SameOutcome.refl (k : Nat) (w : World) : SameOutcome k w w :=
  ⟨rfl, rfl, rfl, rfl, fun _ => rfl, fun _ => rfl⟩

namespace CheckoutJobPayload

/-- The job reserves the items in the database. -/
def Reserves (payload : CheckoutJobPayload) : Prop :=
  payload.isError = false ∧ (payload.isGuest = true → payload.payment = .cod)

instance (payload : CheckoutJobPayload) : Decidable payload.Reserves :=
  inferInstanceAs (Decidable (_ ∧ (_ → _)))

/-- Already the first delivery throws and deletes the order. -/
def Rejected (payload : CheckoutJobPayload) : Prop :=
  ¬ payload.Complete ∨
    payload.isGuest = true ∧ payload.guestAddress = none ∨
    payload.variants = [] ∧ payload.Reserves

end CheckoutJobPayload

/-- The order of the job has been placed and has no address yet. -/
structure Placed (payload : CheckoutJobPayload) (w : World) : Prop where
  order : (w.db.orders.find payload.orderId).isSome
  address : ∀ a, a ∈ w.db.orderAddresses.rows → a.orderId ≠ payload.orderId

/-! ### The parts of a delivery -/

variable (payload : CheckoutJobPayload)

/-- The world once the snapshots of the job are written. -/
def snapshotted (w : World) : World :=
  { w with
    db.snapshots := (payload.variants.map snapshotOf).foldl insertSnapshot
      w.db.snapshots }

/-- The items that the job computes from the snapshots it finds. -/
def jobItems (w : World) : List OrderItemInput :=
  snapshotItems payload (w.db.snapshots.filter fun s =>
    s.contentHash.any fun h =>
      ((payload.variants.map snapshotOf).map (·.contentHash)).contains h)

/-- The `try` block of the job. -/
def writeOrder (items : List OrderItemInput) : Service Unit :=
  if payload.isGuest then writeGuestOrder payload items
  else writeUserOrder payload items

/-- The world after the `catch` block. -/
def withoutOrder (k : Nat) (w : World) : World :=
  match w.db.orders.find k with
  | none => w
  | some o => { w with db := removeOrder dep o w.db }

/-- Every variant of the job has a snapshot. -/
def AllSnapshotted (w : World) : Prop :=
  ∀ i, i ∈ payload.variants.map snapshotOf →
    HasSnapshot w.db.snapshots i.contentHash

theorem allSnapshotted_snapshotted (w : World) :
    AllSnapshotted payload (snapshotted payload w) :=
  fun _ hi => has_createSnapshots hi

variable {payload}

theorem snapshotted_eq_self
    {w : World}
    (h : AllSnapshotted payload w) :
    snapshotted payload w = w := by
  simp only [snapshotted, createSnapshots_of_has h]

theorem processCheckout_alone (w : World) :
    (processCheckout payload).alone (exec dep) .database w =
      ((((writeOrder payload (jobItems payload (snapshotted payload w))).tryCatch
        (deleteAndThrow payload.orderId)).bind fun _ => ret .jobDone).alone
        (exec dep) .database (snapshotted payload w)) := by
  rfl

/-- A `try` block that returns ends the delivery. -/
theorem deliver_of_ok
    {w w' : World}
    (h : (writeOrder payload (jobItems payload (snapshotted payload w))).alone
      (exec dep) .database (snapshotted payload w) = some (w', .ok ())) :
    deliver dep payload w = some w' := by
  rw [deliver, processCheckout_alone, alone_bind, alone_tryCatch, h]
  rfl

/-- A `try` block that throws deletes the order. -/
theorem deliver_of_error
    {w w' : World} {e : Failure}
    (h : (writeOrder payload (jobItems payload (snapshotted payload w))).alone
      (exec dep) .database (snapshotted payload w) = some (w', .error e)) :
    deliver dep payload w = some (withoutOrder dep payload.orderId w') := by
  rw [deliver, processCheckout_alone, alone_bind, alone_tryCatch, h]
  simp only [Option.bind_some, deleteAndThrow, bind_eq_bind, bind_await,
    Program.alone, attempt, exec, withoutOrder]
  cases w'.db.orders.find payload.orderId <;> rfl

/-! ### The items -/

theorem jobItems_eq_nil {w : World} :
    jobItems payload w = [] ↔ payload.variants = [] := by
  simp [jobItems, snapshotItems]

theorem length_jobItems (w : World) :
    (jobItems payload w).length = payload.variants.length := by
  simp [jobItems, snapshotItems]

/-- The items are accepted iff every variant has a quantity. -/
theorem insertItems_jobItems_isSome_iff
    {k : Nat} {w : World} {t : Table OrderItem}
    (hw : AllSnapshotted payload w) :
    (insertItems k (jobItems payload w) t).isSome ↔ payload.Complete := by
  constructor
  · intro h v hv
    obtain ⟨i, hi, hquantity⟩ := exists_mem_snapshotItems _ hv
    rw [← hquantity]
    exact (insertItems_complete h i hi).2
  · intro hcomplete
    refine insertItems_isSome (snapshotItems_complete hcomplete fun v hv => ?_)
    have hi : snapshotOf v ∈ payload.variants.map snapshotOf :=
      List.mem_map_of_mem hv
    obtain ⟨s, hs, hhash⟩ := hw _ hi
    refine ⟨s, List.mem_filter.mpr ⟨hs, ?_⟩, hhash⟩
    rw [hhash, Option.any_some, List.contains_iff_mem]
    exact List.mem_map_of_mem hi

/-- The order exists, or there is nothing to write: `createItems` goes through. -/
theorem exec_createItems_of_some
    {k : Nat} {items : List OrderItemInput} {w : World} {t : Table OrderItem}
    (horder : items ≠ [] → w.db.orders.find k ≠ none)
    (h : insertItems k items w.db.orderItems = some t) :
    exec dep (.createItems k items) w =
      .ok ({ w with db.orderItems := t }, ()) := by
  have : ¬ (items ≠ [] ∧ w.db.orders.find k = none) := fun hn => horder hn.1 hn.2
  simp only [exec, this, if_false, h]

theorem exec_createItems_of_none
    {k : Nat} {items : List OrderItemInput} {w : World}
    (h : items ≠ [] ∧ w.db.orders.find k = none ∨
      insertItems k items w.db.orderItems = none) :
    exec dep (.createItems k items) w = .error .database := by
  rcases h with h | h
  · rw [exec, if_pos h]
  · simp only [exec, h]
    split_ifs <;> rfl

/-! ### The `try` block -/

variable (payload) in
/-- The `try` block throws on this world. -/
def Throws (w : World) : Prop :=
  payload.Rejected ∨
    w.db.orders.find payload.orderId = none ∧
      (payload.variants ≠ [] ∨ payload.isGuest = true) ∨
    payload.isGuest = true ∧
      ∃ a, a ∈ w.db.orderAddresses.rows ∧ a.orderId = payload.orderId

/-- What the `try` block keeps, whether it returns or throws. -/
structure Written (payload : CheckoutJobPayload) (w w' : World) : Prop where
  orders : w'.db.orders = w.db.orders
  snapshots : w'.db.snapshots = w.db.snapshots
  /-- Without an order, or without anything to write, nothing is written. -/
  idle : w.db.orders.find payload.orderId = none ∨
    payload.variants = [] ∧ payload.isGuest = false → w' = w

/-- What the `try` block has added when it returns. -/
structure Appended (payload : CheckoutJobPayload) (w w' : World) : Prop where
  items : (w'.db.itemsOf payload.orderId).length =
    (w.db.itemsOf payload.orderId).length + payload.variants.length
  address : payload.isGuest = true →
    ∃ a, a ∈ w'.db.orderAddresses.rows ∧ a.orderId = payload.orderId

theorem Written.refl (w : World) : Written payload w w :=
  ⟨rfl, rfl, fun _ => rfl⟩

/-- The items of an order after `createMany`. -/
theorem length_itemsOf_insertItems
    {k : Nat} {items : List OrderItemInput} {db : Database} {t : Table OrderItem}
    (h : insertItems k items db.orderItems = some t) :
    (Database.itemsOf { db with orderItems := t } k).length =
      (db.itemsOf k).length + items.length := by
  have hcount : ∀ rows : List OrderItem,
      (rows.filter (fun i => decide (i.orderId = k))).length =
        ((rows.map itemEntry).filter (fun e => decide (e.1 = k))).length := by
    intro rows
    rw [List.filter_map, List.length_map]
    rfl
  have hnew : (items.map fun i => (k, i.bookVariantSnapshotId, i.quantity)).filter
        (fun e => decide (e.1 = k)) =
      items.map fun i => (k, i.bookVariantSnapshotId, i.quantity) := by
    refine List.filter_eq_self.mpr (fun e he => ?_)
    obtain ⟨i, -, rfl⟩ := List.mem_map.mp he
    simp
  simp only [Database.itemsOf, Table.filter]
  rw [hcount, insertItems_entries h, List.filter_append, hnew, List.length_append,
    List.length_map, ← hcount]

variable (payload) in
/-- The reservation throws on an empty list and writes only variants otherwise. -/
theorem reserve_alone
    (c : Prop) [Decidable c]
    (w : World) :
    (c ∧ payload.variants = [] ∧ ∃ e,
      (if c then query (.updateReservedByIds (reservedVariant payload) .job)
        else ret () : Service Unit).alone (exec dep) .database w =
        some (w, .error e)) ∨
    ¬ (c ∧ payload.variants = []) ∧ ∃ w',
      (if c then query (.updateReservedByIds (reservedVariant payload) .job)
        else ret () : Service Unit).alone (exec dep) .database w =
        some (w', .ok ()) ∧
      w'.db = { w.db with variants := w'.db.variants } ∧
      (payload.variants = [] → w' = w) := by
  have hempty : reservedVariant payload = [] ↔ payload.variants = [] :=
    List.map_eq_nil_iff
  by_cases hc : c
  · by_cases hv : payload.variants = []
    · refine .inl ⟨hc, hv, ?_⟩
      rw [if_pos hc]
      exact ⟨_, alone_await_error (if_pos (hempty.mpr hv))⟩
    · refine .inr ⟨fun h => hv h.2, ?_⟩
      rw [if_pos hc]
      have hexec : exec dep (.updateReservedByIds (reservedVariant payload) .job) w = _ :=
        if_neg (mt hempty.mp hv)
      exact ⟨_, alone_await_ok hexec, rfl, fun h => absurd h hv⟩
  · refine .inr ⟨fun h => hc h.1, w, ?_, rfl, fun _ => rfl⟩
    rw [if_neg hc]
    rfl

/-- The first statement of the block writes all the items or throws. -/
theorem createItems_cases
    {w : World}
    (hw : AllSnapshotted payload w) :
    ((¬ payload.Complete ∨
        payload.variants ≠ [] ∧ w.db.orders.find payload.orderId = none) ∧
      exec dep (.createItems payload.orderId (jobItems payload w)) w =
        .error .database) ∨
    payload.Complete ∧
      (payload.variants ≠ [] → w.db.orders.find payload.orderId ≠ none) ∧
      ∃ t, insertItems payload.orderId (jobItems payload w) w.db.orderItems = some t ∧
        exec dep (.createItems payload.orderId (jobItems payload w)) w =
          .ok ({ w with db.orderItems := t }, ()) := by
  have hnil : ¬ jobItems payload w = [] ↔ _ := jobItems_eq_nil.not
  cases hinsert : insertItems payload.orderId (jobItems payload w) w.db.orderItems with
  | none =>
      refine .inl ⟨.inl fun hcomplete => ?_, exec_createItems_of_none dep (.inr hinsert)⟩
      have := (insertItems_jobItems_isSome_iff (k := payload.orderId)
        (t := w.db.orderItems) hw).mpr hcomplete
      rw [hinsert] at this
      cases this
  | some t =>
      by_cases horder : payload.variants ≠ [] ∧ w.db.orders.find payload.orderId = none
      · exact .inl ⟨.inr horder,
          exec_createItems_of_none dep (.inl ⟨hnil.mpr horder.1, horder.2⟩)⟩
      · have horder' : payload.variants ≠ [] →
            w.db.orders.find payload.orderId ≠ none :=
          fun h h' => horder ⟨h, h'⟩
        refine .inr ⟨?_, horder', t, rfl,
          exec_createItems_of_some dep (fun h => horder' (hnil.mp h)) hinsert⟩
        refine (insertItems_jobItems_isSome_iff (k := payload.orderId)
          (t := w.db.orderItems) hw).mp ?_
        rw [hinsert]
        rfl

/-- Without variants the items table stays. -/
theorem insertItems_jobItems_idle
    {w : World} {t : Table OrderItem}
    (hv : payload.variants = [])
    (ht : insertItems payload.orderId (jobItems payload w) w.db.orderItems = some t) :
    t = w.db.orderItems := by
  rw [jobItems_eq_nil.mpr hv] at ht
  exact (Option.some.inj ht).symm

/-- A user order: the items, then the reservation. -/
theorem writeUserOrder_alone
    {w : World}
    (hw : AllSnapshotted payload w)
    (hguest : payload.isGuest = false) :
    ∃ w', Written payload w w' ∧
      (Throws payload w ∧ (∃ e,
        (writeUserOrder payload (jobItems payload w)).alone (exec dep) .database w =
          some (w', .error e)) ∨
      ¬ Throws payload w ∧ Appended payload w w' ∧
        (writeUserOrder payload (jobItems payload w)).alone (exec dep) .database w =
          some (w', .ok ())) := by
  have hnguest : ¬ payload.isGuest = true := by simp [hguest]
  have hreserves : payload.Reserves ↔ payload.isError = false :=
    ⟨fun h => h.1, fun h => ⟨h, fun hg => absurd hg hnguest⟩⟩
  rcases createItems_cases dep hw with ⟨hthrow, hexec⟩ | ⟨hcomplete, horder, t, ht, hexec⟩
  · refine ⟨w, .refl w, .inl ⟨?_, .database, ?_⟩⟩
    · rcases hthrow with h | h
      · exact .inl (.inl h)
      · exact .inr (.inl ⟨h.2, .inl h.1⟩)
    · rw [writeUserOrder, bind_eq_bind, alone_bind, alone_await_error hexec]
      rfl
  · have hidle : payload.variants = [] → { w with db.orderItems := t } = w :=
      fun h => by rw [insertItems_jobItems_idle h ht]
    have hrun : ∀ x,
        (if payload.isError = false then
            query (.updateReservedByIds (reservedVariant payload) .job)
          else ret () : Service Unit).alone (exec dep) .database
            { w with db.orderItems := t } = x →
        (writeUserOrder payload (jobItems payload w)).alone (exec dep) .database w = x := by
      intro x hx
      rw [writeUserOrder, bind_eq_bind, alone_bind, alone_await_ok hexec]
      exact hx
    rcases reserve_alone dep payload (payload.isError = false)
        { w with db.orderItems := t } with ⟨hc, hv, e, he⟩ | ⟨hc, w', hw', hdb, hsame⟩
    · refine ⟨w, .refl w, .inl ⟨.inl (.inr (.inr ⟨hv, hreserves.mpr hc⟩)), e, ?_⟩⟩
      rw [hrun _ he, hidle hv]
    · refine ⟨w', ⟨by rw [hdb], by rw [hdb], fun h => ?_⟩,
        .inr ⟨?_, ⟨?_, fun h => absurd h hnguest⟩, hrun _ hw'⟩⟩
      · have hv : payload.variants = [] := by
          rcases h with h | h
          · by_contra hv
            exact horder hv h
          · exact h.1
        rw [hsame hv, hidle hv]
      · rintro ((h | h | h) | h | h)
        · exact h hcomplete
        · exact hnguest h.1
        · exact hc ⟨hreserves.mp h.2, h.1⟩
        · exact h.2.elim (fun hv => horder hv h.1) hnguest
        · exact hnguest h.1
      · have : w'.db.itemsOf payload.orderId =
            Database.itemsOf { w.db with orderItems := t } payload.orderId := by
          rw [hdb]
          rfl
        rw [this, length_itemsOf_insertItems ht, length_jobItems]

/-- The address is written once for each order. -/
theorem createAddress_cases
    (k : Nat) (a : GuestAddressDto) (w : World) :
    ((w.db.orders.find k = none ∨
        ∃ r, r ∈ w.db.orderAddresses.rows ∧ r.orderId = k) ∧
      exec dep (.createAddress k a) w = .error .database) ∨
    w.db.orders.find k ≠ none ∧
      (∀ r, r ∈ w.db.orderAddresses.rows → r.orderId ≠ k) ∧
      ∃ t, (∃ r, r ∈ t.rows ∧ r.orderId = k) ∧
        exec dep (.createAddress k a) w =
          .ok ({ w with db.orderAddresses := t }, ()) := by
  by_cases h : w.db.orders.find k = none ∨
      w.db.orderAddresses.rows.any (fun r => decide (r.orderId = k)) = true
  · exact .inl ⟨h.imp id fun h => by simpa using h, if_pos h⟩
  · obtain ⟨horder, haddress⟩ := not_or.mp h
    exact .inr ⟨horder, by simpa using haddress, _,
      ⟨_, List.mem_append_right _ (List.mem_singleton.mpr rfl), rfl⟩, if_neg h⟩

/-- A guest order: the items, the address, then the reservation. -/
theorem writeGuestOrder_alone
    {w : World}
    (hw : AllSnapshotted payload w)
    (hguest : payload.isGuest = true) :
    ∃ w', Written payload w w' ∧
      (Throws payload w ∧ (∃ e,
        (writeGuestOrder payload (jobItems payload w)).alone (exec dep) .database w =
          some (w', .error e)) ∨
      ¬ Throws payload w ∧ Appended payload w w' ∧
        (writeGuestOrder payload (jobItems payload w)).alone (exec dep) .database w =
          some (w', .ok ())) := by
  have hreserves : payload.Reserves ↔
      payload.isError = false ∧ payload.payment = .cod :=
    and_congr_right fun _ => ⟨fun h => h hguest, fun h _ => h⟩
  have hidle : ∀ {u : World}, w.db.orders.find payload.orderId ≠ none →
      w.db.orders.find payload.orderId = none ∨
        payload.variants = [] ∧ payload.isGuest = false → u = w :=
    fun horder h => (h.elim horder fun h => by simp [hguest] at h).elim
  rcases createItems_cases dep hw with ⟨hthrow, hexec⟩ | ⟨hcomplete, horder, t, ht, hexec⟩
  · refine ⟨w, .refl w, .inl ⟨?_, .database, ?_⟩⟩
    · rcases hthrow with h | h
      · exact .inl (.inl h)
      · exact .inr (.inl ⟨h.2, .inl h.1⟩)
    · rw [writeGuestOrder, bind_eq_bind, alone_bind, alone_await_error hexec]
      rfl
  -- without an order there is nothing to write, or `createItems` has thrown
  have hgone : w.db.orders.find payload.orderId = none →
      { w with db.orderItems := t } = w := by
    intro h
    have hv : payload.variants = [] := by
      by_contra hv
      exact horder hv h
    rw [insertItems_jobItems_idle hv ht]
  cases haddress : payload.guestAddress with
  | none =>
      refine ⟨{ w with db.orderItems := t },
        ⟨rfl, rfl, fun h => hgone (h.elim id fun h => by simp [hguest] at h)⟩,
        .inl ⟨.inl (.inr (.inl ⟨hguest, haddress⟩)), .typeError, ?_⟩⟩
      rw [writeGuestOrder, bind_eq_bind, alone_bind, alone_await_ok hexec]
      simp only [Option.bind_some, haddress]
      rfl
  | some a =>
      have hrun : ∀ x,
          ((query (.createAddress payload.orderId a)).bind fun _ =>
            (if payload.isError = false ∧ payload.payment = .cod then
              query (.updateReservedByIds (reservedVariant payload) .job)
            else ret () : Service Unit)).alone (exec dep) .database
              { w with db.orderItems := t } = x →
          (writeGuestOrder payload (jobItems payload w)).alone (exec dep) .database w =
            x := by
        intro x hx
        rw [writeGuestOrder, bind_eq_bind, alone_bind, alone_await_ok hexec]
        simp only [Option.bind_some, haddress]
        exact hx
      rcases createAddress_cases dep payload.orderId a { w with db.orderItems := t } with
        ⟨htaken, herror⟩ | ⟨hfound, hfree, t', htaken, hok⟩
      · refine ⟨{ w with db.orderItems := t },
          ⟨rfl, rfl, fun h => hgone (h.elim id fun h => by simp [hguest] at h)⟩,
          .inl ⟨?_, .database, hrun _ ?_⟩⟩
        · rcases htaken with h | h
          · exact .inr (.inl ⟨h, .inr hguest⟩)
          · exact .inr (.inr ⟨hguest, h⟩)
        · rw [alone_bind, alone_await_error herror]
          rfl
      · rcases reserve_alone dep payload
            (payload.isError = false ∧ payload.payment = .cod)
            { w with db.orderItems := t, db.orderAddresses := t' } with
          ⟨hc, hv, e, he⟩ | ⟨hc, w', hw', hdb, -⟩
        · refine ⟨{ w with db.orderItems := t, db.orderAddresses := t' },
            ⟨rfl, rfl, hidle hfound⟩,
            .inl ⟨.inl (.inr (.inr ⟨hv, hreserves.mpr hc⟩)), e, hrun _ ?_⟩⟩
          rw [alone_bind, alone_await_ok hok]
          exact he
        · refine ⟨w', ⟨by rw [hdb], by rw [hdb], hidle hfound⟩,
            .inr ⟨?_, ⟨?_, fun _ => by rw [hdb]; exact htaken⟩, hrun _ ?_⟩⟩
          · rintro ((h | h | h) | h | h)
            · exact h hcomplete
            · rw [haddress] at h
              cases h.2
            · exact hc ⟨hreserves.mp h.2, h.1⟩
            · exact hfound h.1
            · obtain ⟨-, r, hr, hk⟩ := h
              exact hfree r hr hk
          · have : w'.db.itemsOf payload.orderId =
                Database.itemsOf { w.db with orderItems := t } payload.orderId := by
              rw [hdb]
              rfl
            rw [this, length_itemsOf_insertItems ht, length_jobItems]
          · rw [alone_bind, alone_await_ok hok]
            exact hw'

/-- **The block.** It throws exactly on the worlds of `Throws`. -/
theorem writeOrder_alone
    {w : World}
    (hw : AllSnapshotted payload w) :
    ∃ w', Written payload w w' ∧
      (Throws payload w ∧ (∃ e,
        (writeOrder payload (jobItems payload w)).alone (exec dep) .database w =
          some (w', .error e)) ∨
      ¬ Throws payload w ∧ Appended payload w w' ∧
        (writeOrder payload (jobItems payload w)).alone (exec dep) .database w =
          some (w', .ok ())) := by
  unfold writeOrder
  cases hguest : payload.isGuest with
  | true =>
      exact writeGuestOrder_alone dep hw hguest
  | false =>
      exact writeUserOrder_alone dep hw hguest

/-! ### Deliveries -/

variable {dep}

theorem find_withoutOrder (k : Nat) (w : World) :
    (withoutOrder dep k w).db.orders.find k = none := by
  unfold withoutOrder
  cases ho : w.db.orders.find k with
  | none =>
      exact ho
  | some o =>
      have hk : o.id = k := Table.find_key ho
      show (w.db.orders.deleteWhere (fun r => decide (key r = o.id))).find k = none
      rw [Table.find_deleteWhere, ho, hk]
      simp [Table.find_key ho]

theorem snapshots_withoutOrder (k : Nat) (w : World) :
    (withoutOrder dep k w).db.snapshots = w.db.snapshots := by
  unfold withoutOrder
  cases w.db.orders.find k <;> rfl

/-- The order is gone and the snapshots are written: nothing is left to do. -/
structure Gone (payload : CheckoutJobPayload) (w : World) : Prop where
  order : w.db.orders.find payload.orderId = none
  snapshots : AllSnapshotted payload w

variable (dep) in
/-- A delivery that throws leaves nothing of the order. -/
theorem deliver_of_throws
    {w : World}
    (h : Throws payload (snapshotted payload w)) :
    ∃ w', deliver dep payload w = some w' ∧ Gone payload w' := by
  have hall := allSnapshotted_snapshotted payload w
  obtain ⟨w', hwritten, ⟨-, e, he⟩ | ⟨hn, -⟩⟩ := writeOrder_alone dep hall
  · refine ⟨_, deliver_of_error dep he, find_withoutOrder _ _, ?_⟩
    rw [AllSnapshotted, snapshots_withoutOrder, hwritten.snapshots]
    exact hall
  · exact absurd h hn

variable (dep) in
/-- A delivery that returns appends. -/
theorem deliver_of_not_throws
    {w : World}
    (h : ¬ Throws payload (snapshotted payload w)) :
    ∃ w', deliver dep payload w = some w' ∧
      Written payload (snapshotted payload w) w' ∧
      Appended payload (snapshotted payload w) w' := by
  have hall := allSnapshotted_snapshotted payload w
  obtain ⟨w', hwritten, ⟨ht, -⟩ | ⟨-, happended, hok⟩⟩ := writeOrder_alone dep hall
  · exact absurd ht h
  · exact ⟨w', deliver_of_ok dep hok, hwritten, happended⟩

/-- Once the order is gone, a delivery changes nothing. -/
theorem deliver_of_gone
    {w : World}
    (h : Gone payload w) :
    deliver dep payload w = some w := by
  have hself := snapshotted_eq_self h.snapshots
  obtain ⟨w', hwritten, hrun⟩ := writeOrder_alone dep h.snapshots
  obtain rfl := hwritten.idle (.inl h.order)
  rw [← hself] at hrun
  rcases hrun with ⟨-, e, he⟩ | ⟨-, -, hok⟩
  · rw [deliver_of_error dep he, withoutOrder, hself, h.order]
  · rw [deliver_of_ok dep hok, hself]

theorem redeliver_of_fixed
    {w : World}
    (h : deliver dep payload w = some w)
    (k : Nat) :
    redeliver dep payload k w = some w := by
  induction k with
  | zero =>
      rfl
  | succ k ih =>
      rw [redeliver, h, Option.bind_some, ih]

variable (dep) in
/-- A guest order survives the first delivery and not the second. -/
theorem redeliver_guest
    {w : World}
    (hw : Placed payload w)
    (hguest : payload.isGuest = true)
    (hnot : ¬ payload.Rejected) :
    ∃ w₁ w₂, deliver dep payload w = some w₁ ∧
      (w₁.db.orders.find payload.orderId).isSome ∧
      ∀ k, redeliver dep payload (k + 2) w = some w₂ ∧
        w₂.db.orders.find payload.orderId = none := by
  have hfirst : ¬ Throws payload (snapshotted payload w) := by
    rintro (h | h | ⟨-, a, ha, hk⟩)
    · exact hnot h
    · have := hw.order
      rw [show w.db.orders.find payload.orderId = none from h.1] at this
      cases this
    · exact hw.address a ha hk
  obtain ⟨w₁, h₁, hwritten, happended⟩ := deliver_of_not_throws dep hfirst
  -- now the address of the order is taken
  have hsecond : Throws payload (snapshotted payload w₁) :=
    .inr (.inr ⟨hguest, happended.address hguest⟩)
  obtain ⟨w₂, h₂, hgone⟩ := deliver_of_throws dep hsecond
  refine ⟨w₁, w₂, h₁, ?_, fun k => ⟨?_, hgone.order⟩⟩
  · rw [hwritten.orders]
    exact hw.order
  · rw [redeliver, h₁, Option.bind_some, redeliver, h₂, Option.bind_some,
      redeliver_of_fixed (deliver_of_gone hgone)]

variable (dep) in
/-- Every delivery of a user order appends all the items once more. -/
theorem redeliver_user
    {w : World}
    (horder : (w.db.orders.find payload.orderId).isSome)
    (hguest : payload.isGuest = false)
    (hnot : ¬ payload.Rejected)
    (k : Nat) :
    ∃ w', redeliver dep payload k w = some w' ∧
      (w'.db.itemsOf payload.orderId).length =
        (w.db.itemsOf payload.orderId).length + k * payload.variants.length := by
  have hnguest : ¬ payload.isGuest = true := by simp [hguest]
  induction k generalizing w with
  | zero =>
      exact ⟨w, rfl, by simp⟩
  | succ k ih =>
      have hthrows : ¬ Throws payload (snapshotted payload w) := by
        rintro (h | h | h)
        · exact hnot h
        · rw [show w.db.orders.find payload.orderId = none from h.1] at horder
          cases horder
        · exact hnguest h.1
      obtain ⟨w₁, h₁, hwritten, happended⟩ := deliver_of_not_throws dep hthrows
      obtain ⟨w', h', hitems⟩ := ih (w := w₁) (by rw [hwritten.orders]; exact horder)
      refine ⟨w', by rw [redeliver, h₁, Option.bind_some, h'], ?_⟩
      have hw : (Database.itemsOf (snapshotted payload w).db payload.orderId).length =
          (w.db.itemsOf payload.orderId).length := rfl
      rw [hitems, happended.items, hw, Nat.succ_mul]
      omega

variable (dep) in
/-- Without variants a delivery of a user order has nothing to do. -/
theorem deliver_user_nil
    {w : World}
    (horder : (w.db.orders.find payload.orderId).isSome)
    (hguest : payload.isGuest = false)
    (hvariants : payload.variants = [])
    (hnot : ¬ payload.Rejected) :
    deliver dep payload w = some w := by
  have hself : snapshotted payload w = w :=
    snapshotted_eq_self (fun i hi => by simp [hvariants] at hi)
  have hthrows : ¬ Throws payload (snapshotted payload w) := by
    rintro (h | h | h)
    · exact hnot h
    · rw [show w.db.orders.find payload.orderId = none from h.1] at horder
      cases horder
    · simp [hguest] at h
  obtain ⟨w₁, h₁, hwritten, -⟩ := deliver_of_not_throws dep hthrows
  rw [h₁, hwritten.idle (.inr ⟨hvariants, hguest⟩), hself]

variable (dep)

/--
Running the job `k` times has the outcome of running it once exactly if `k` is
one, if the first run already deletes the order, or if a user's job has no
variants.
-/
theorem redeliver_sameOutcome_iff
    {w : World}
    (hw : Placed payload w)
    {k : Nat}
    (hk : 1 ≤ k) :
    ∃ w₁ wₖ, redeliver dep payload 1 w = some w₁ ∧
      redeliver dep payload k w = some wₖ ∧
      (SameOutcome payload.orderId w₁ wₖ ↔
        k = 1 ∨ payload.Rejected ∨
          payload.isGuest = false ∧ payload.variants = []) := by
  obtain ⟨k, rfl⟩ := Nat.exists_eq_add_of_le' hk
  by_cases hrejected : payload.Rejected
  · obtain ⟨w₁, h₁, hgone⟩ := deliver_of_throws dep
      (.inl hrejected : Throws payload (snapshotted payload w))
    have hall : ∀ j, redeliver dep payload (j + 1) w = some w₁ := by
      intro j
      rw [redeliver, h₁, Option.bind_some, redeliver_of_fixed (deliver_of_gone hgone)]
    exact ⟨w₁, w₁, hall 0, hall k, by simp [hrejected, SameOutcome.refl]⟩
  cases hguest : payload.isGuest with
  | true =>
      obtain ⟨w₁, w₂, h₁, hsome, h₂⟩ :=
        redeliver_guest dep hw hguest hrejected
      have hone : redeliver dep payload 1 w = some w₁ := by
        rw [redeliver, h₁, Option.bind_some, redeliver]
      cases k with
      | zero =>
          exact ⟨w₁, w₁, hone, hone, by simp [SameOutcome.refl]⟩
      | succ k =>
          refine ⟨w₁, w₂, hone, (h₂ k).1, iff_of_false ?_ ?_⟩
          · intro hsame
            have := hsame.order
            rw [(h₂ k).2] at this
            rw [← this] at hsome
            cases hsome
          · simp [hrejected]
  | false =>
      by_cases hvariants : payload.variants = []
      · have hfixed := deliver_user_nil dep hw.order hguest hvariants hrejected
        exact ⟨w, w, redeliver_of_fixed hfixed 1, redeliver_of_fixed hfixed (k + 1), by
          simp [hvariants, SameOutcome.refl]⟩
      · obtain ⟨w₁, h₁, hitems₁⟩ :=
          redeliver_user dep hw.order hguest hrejected 1
        obtain ⟨wₖ, hₖ, hitemsₖ⟩ :=
          redeliver_user dep hw.order hguest hrejected (k + 1)
        refine ⟨w₁, wₖ, h₁, hₖ, ?_⟩
        constructor
        · intro hsame
          have hlength := congrArg List.length hsame.items
          rw [List.length_map, List.length_map, hitems₁, hitemsₖ] at hlength
          have hpos : 0 < payload.variants.length := List.length_pos_iff.mpr hvariants
          have : k * payload.variants.length = 0 := by
            rw [Nat.add_mul] at hlength
            omega
          rcases Nat.mul_eq_zero.mp this with hk | hn
          · exact .inl (by omega)
          · omega
        · rintro (hk | h | h)
          · obtain rfl : k = 0 := by omega
            rw [h₁] at hₖ
            cases hₖ
            exact .refl _ _
          · exact absurd h hrejected
          · exact absurd h.2 hvariants

/-! ### The jobs of checkouts -/

/-- A checkout of some variants enqueues a job that is not rejected. -/
theorem checkoutJobPayload_not_rejected
    {body : CreateCheckOutDTO} {guestSessionId : Option String}
    {userId : Option Nat} {email : Option String} {variants : List BookVariant}
    {isError : Bool} {order : Order}
    (hvariants : ∀ v, v ∈ variants → v.id ∈ body.items.map (·.bookVariantId))
    (hne : variants ≠ [])
    (haddress : body.isGuest = true → body.guestAddress ≠ none) :
    ¬ (checkoutJobPayload body guestSessionId userId email variants isError
      order).Rejected := by
  rintro (h | ⟨hguest, h⟩ | ⟨h, -⟩)
  · exact h (checkoutJobPayload_complete hvariants)
  · have hguest : body.isGuest = true := hguest
    have h : (if body.isGuest then body.guestAddress else none) = none := h
    rw [if_pos hguest] at h
    exact haddress hguest h
  · exact hne (List.map_eq_nil_iff.mp h)

/-- A guest's order over one copy, waiting for its job. -/
def sampleOrdered : World :=
  match runs (server sampleDeployment).step ⟨sampleWorld 10, []⟩
      (.env (.arrive (sampleGuest .cod 1)) :: steps 0 5) with
  | some c => c.world
  | none => sampleWorld 10

/-- The job of that order. -/
def sampleJob : CheckoutJobPayload where
  orderId := 1
  isGuest := true
  orderCode := "VLR0"
  totalAmount := 120000
  subtotal := 100000
  variants := [⟨1, .paperback, "9780306406157", some 100000, 10, true, 1⟩]
  mapVariantIds := [(1, 1)]
  guestEmail := none
  guestSessionId := some "guest"
  guestAddress := some ⟨"Nguyễn Văn A", "123", "HCM", none, none, "09", none⟩
  addressId := none
  userId := none
  email := none
  isError := false
  payment := .cod

example : sampleOrdered.queue = [sampleJob] := by decide +kernel

theorem sampleOrdered_placed : Placed sampleJob sampleOrdered where
  order := by decide +kernel
  address := by decide +kernel

/-- The second delivery of the guest's job is not tolerated. -/
theorem redeliver_sameOutcome_iff_sample :
    ∃ w₁ w₂, redeliver sampleDeployment sampleJob 1 sampleOrdered = some w₁ ∧
      redeliver sampleDeployment sampleJob 2 sampleOrdered = some w₂ ∧
      (SameOutcome 1 w₁ w₂ ↔
        2 = 1 ∨ sampleJob.Rejected ∨
          sampleJob.isGuest = false ∧ sampleJob.variants = []) :=
  redeliver_sameOutcome_iff sampleDeployment sampleOrdered_placed (by decide)

/-- The second delivery finds the address taken and deletes the order. -/
theorem secondDelivery_deletes_order :
    ¬ ∀ (payload : CheckoutJobPayload) (w w₁ wₖ : World) (k : Nat),
      Placed payload w → 1 ≤ k →
      redeliver sampleDeployment payload 1 w = some w₁ →
      redeliver sampleDeployment payload k w = some wₖ →
      SameOutcome payload.orderId w₁ wₖ := by
  intro h
  have hone : ((redeliver sampleDeployment sampleJob 1 sampleOrdered).map
      fun w => (w.db.orders.find 1).isSome) = some true := by decide +kernel
  have htwo : ((redeliver sampleDeployment sampleJob 2 sampleOrdered).map
      fun w => (w.db.orders.find 1).isSome) = some false := by decide +kernel
  obtain ⟨w₁, h₁, hsome⟩ := Option.map_eq_some_iff.mp hone
  obtain ⟨w₂, h₂, hnone⟩ := Option.map_eq_some_iff.mp htwo
  have hsame := h sampleJob sampleOrdered w₁ w₂ 2 sampleOrdered_placed (by decide) h₁ h₂
  have horder : w₂.db.orders.find 1 = w₁.db.orders.find 1 := hsame.order
  rw [horder, hsome] at hnone
  cases hnone

end BookStore
