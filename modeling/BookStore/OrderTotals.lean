import BookStore.Async.Numbered
import BookStore.OrderHistory
import BookStore.Traversals
import Mathlib.Algebra.Group.Pi.Basic

/-!
# The totals of an order

A checkout that returns has placed an order, and the one job of the order writes its items.
Then there is one item for each requested variant, and the totals of the order, of the answer
and of the payment request are those of the items.

* A share of `ItemRights` is the right to write the items of an order or to delete it; it passes
  from the checkout to the queue and from the queue to the job.
* `TotalsInv` is the invariant: whoever holds the second right has written the items.
* `createCheckout_totals` and `processCheckout_totals` are what the two handlers end in.
* `order_addsUp` is the result.
-/

namespace BookStore

open Async Program Logic

variable (dep : Deployment)

/-! ### Requested lines -/

/-- The lines of an order are the items of its checkout, each with its quantity. -/
theorem requestedLines_perm
    {items : List CheckoutItemDto} {variants : List BookVariant}
    (hfound : FoundFor items variants)
    (hlength : variants.length = items.length) :
    (requestedLines variants (mapVariantIds items)).Perm
      (items.map fun i => (i.bookVariantId, i.quantity)) := by
  have hperm := (hfound.perm hlength).map fun id =>
    (id, (mapGet (mapVariantIds items) id).getD 0)
  rw [List.map_map, List.map_map] at hperm
  refine hperm.trans (.of_eq (List.map_congr_left fun i hi => ?_))
  have hnodup : ((items.map fun i => (i.bookVariantId, i.quantity)).map Prod.fst).Nodup := by
    rw [List.map_map]
    exact hfound.items_nodup hlength
  have hget := mapGet_mapOf_of_mem hnodup (List.mem_map_of_mem hi)
  rw [Function.comp, mapVariantIds, hget]
  rfl

/-- The line totals of a job -/
def lineTotals (payload : CheckoutJobPayload) : List ℚ :=
  payload.variants.map fun v =>
    v.price.getD 0 * (((mapGet payload.mapVariantIds v.id).getD 0 : Int) : ℚ)

theorem sum_lineTotals
    (body : CreateCheckOutDTO) (guestSessionId : Option String) (userId : Option Nat)
    (email : Option String) (variants : List BookVariant) (isError : Bool) (order : Order) :
    (lineTotals (checkoutJobPayload body guestSessionId userId email variants isError
      order)).sum = subtotalOf variants (mapVariantIds body.items) := by
  rw [lineTotals, subtotalOf, checkoutJobPayload, List.map_map]
  rfl

/-! ### Written rows -/

/-- The row that `createMany` makes of an input. -/
structure RowOf (orderId : Nat) (input : OrderItemInput) (row : OrderItem) : Prop where
  order : row.orderId = orderId
  snapshot : input.bookVariantSnapshotId = some row.bookVariantSnapshotId
  quantity : input.quantity = some row.quantity
  lineTotal : row.lineTotal = row.unitPrice * row.quantity
  price : row.unitPrice = input.unitPrice

theorem rows_insertItems
    {orderId : Nat} {inputs : List OrderItemInput} {t t' : Table OrderItem}
    (h : insertItems orderId inputs t = some t') :
    ∃ rows, t'.rows = t.rows ++ rows ∧ List.Forall₂ (RowOf orderId) inputs rows := by
  induction inputs generalizing t with
  | nil =>
      cases h
      exact ⟨[], (List.append_nil _).symm, .nil⟩
  | cons i inputs ih =>
      simp only [insertItems] at h
      split at h
      · rename_i snapshotId quantity hid hquantity
        obtain ⟨rows, hrows, hall⟩ := ih h
        rw [Table.rows_insert, List.append_assoc, List.singleton_append] at hrows
        exact ⟨_, hrows, .cons ⟨rfl, hid, hquantity, rfl, rfl⟩ hall⟩
      · cases h

/-- The items of an order that had none are the new rows. -/
theorem itemsOf_insertItems
    {db : Database} {orderId : Nat} {t : Table OrderItem} {rows : List OrderItem}
    {inputs : List OrderItemInput}
    (hempty : db.itemsOf orderId = [])
    (hrows : t.rows = db.orderItems.rows ++ rows)
    (hall : List.Forall₂ (RowOf orderId) inputs rows) :
    Database.itemsOf { db with orderItems := t } orderId = rows := by
  have hnew : ∀ r, r ∈ rows → decide (r.orderId = orderId) = true := by
    intro r hr
    obtain ⟨i, -, hi⟩ := exists_of_forall₂ hall.flip hr
    exact decide_eq_true hi.order
  rw [Database.itemsOf, Table.filter] at hempty ⊢
  rw [hrows, List.filter_append, hempty, List.nil_append, List.filter_eq_self.mpr hnew]

theorem lineTotals_of_rows
    {payload : CheckoutJobPayload} {found : List BookVariantSnapshot} {orderId : Nat}
    {rows : List OrderItem}
    (hall : List.Forall₂ (RowOf orderId) (snapshotItems payload found) rows) :
    rows.map (·.lineTotal) = lineTotals payload := by
  have hrow : ∀ (i : OrderItemInput) (r : OrderItem), RowOf orderId i r →
      r.lineTotal = i.unitPrice * ((i.quantity.getD 0 : Int) : ℚ) := by
    intro i r h
    rw [h.lineTotal, h.price, h.quantity, Option.getD_some]
  rw [map_eq_of_forall₂ hall hrow, snapshotItems, List.map_map, List.map_map]
  rfl

/-! ### The invariant -/

/-- What no step takes back -/
structure TotalsRely (w w' : World) : Prop extends FulfilRely w w' where
  subtotals : ∀ k o', k < w.db.orders.next → w'.db.orders.find k = some o' →
    ∃ o, w.db.orders.find k = some o ∧ o'.subtotal = o.subtotal

/-- The items of the order are its lines, and their totals add up to its subtotal. -/
structure Itemized (db : Database) (o : Order) : Prop where
  lines : db.itemQuantities o.id = o.requested
  subtotal : o.subtotal = some ((db.itemsOf o.id).map (·.lineTotal)).sum

/-- The job says of its order what the row says. -/
structure OrderedJob (payload : CheckoutJobPayload) (w : World) : Prop
    extends JobOf payload w where
  code : payload.orderCode = dep.orderCodes payload.orderId
  subtotal : ∀ o, w.db.orders.find payload.orderId = some o →
    o.subtotal = some (lineTotals payload).sum

/-- For each order, who may still write its items, and who has written them. -/
abbrev ItemRights := (Nat → ℕ) × (Nat → ℕ)

/-- The right to write the items of order `k`. -/
def mayWrite (k : Nat) : ItemRights := (Pi.single k 1, 0)

/-- What is left of the right once the items are written. -/
def hasWritten (k : Nat) : ItemRights := (0, Pi.single k 1)

@[simp] theorem fst_mayWrite (k j : Nat) : (mayWrite k).1 j = if j = k then 1 else 0 := by
  simp [mayWrite, Pi.single_apply]

@[simp] theorem snd_mayWrite (k j : Nat) : (mayWrite k).2 j = 0 := rfl

@[simp] theorem fst_hasWritten (k j : Nat) : (hasWritten k).1 j = 0 := rfl

@[simp] theorem snd_hasWritten (k j : Nat) : (hasWritten k).2 j = if j = k then 1 else 0 := by
  simp [hasWritten, Pi.single_apply]

structure TotalsInv (m : ItemRights) (w : World) : Prop where
  snapshots : SnapshotsSound w.db.snapshots
  item : ∀ i, i ∈ w.db.orderItems.rows →
    (w.db.snapshots.find i.bookVariantSnapshotId).isSome ∧
      i.lineTotal = i.unitPrice * i.quantity
  job : ∀ p, p ∈ w.queue → OrderedJob dep p w
  once : ∀ k, m.1 k + m.2 k + queued k w ≤ 1
  present : ∀ k, m.1 k + m.2 k + queued k w ≠ 0 → (w.db.orders.find k).isSome
  empty : ∀ k, m.2 k = 0 → w.db.itemsOf k = []
  full : ∀ k o, m.2 k ≠ 0 → w.db.orders.find k = some o → Itemized w.db o

variable {dep} {w w' : World}

theorem TotalsRely.refl (w : World) : TotalsRely w w :=
  ⟨.refl w, fun _ o' _ ho' => ⟨o', ho', rfl⟩⟩

theorem TotalsRely.trans {u v : World} (huv : TotalsRely u v) (hvw : TotalsRely v w) :
    TotalsRely u w where
  toFulfilRely := huv.toFulfilRely.trans hvw.toFulfilRely
  subtotals := by
    intro k o'' hk ho''
    obtain ⟨o', ho', hsame'⟩ := hvw.subtotals k o'' (hk.trans_le huv.orders.next_le) ho''
    obtain ⟨o, ho, hsame⟩ := huv.subtotals k o' hk ho'
    exact ⟨o, ho, hsame'.trans hsame⟩

theorem exec_totalsRely
    {s : Stmt} {r : Response s}
    (h : exec dep s w = .ok (w', r)) :
    TotalsRely w w' where
  toFulfilRely := exec_fulfilRely h
  subtotals := fun _ _ hk ho' => exec_order_column dep (·.subtotal) (fun _ _ _ _ => rfl) h hk ho'

/-- Where the orders, the snapshots and the ids of the variants are the same -/
theorem TotalsRely.of_eq
    (horders : w'.db.orders = w.db.orders)
    (hsnapshots : w'.db.snapshots = w.db.snapshots)
    (hvariants : ∀ v, w'.db.hasVariant v = w.db.hasVariant v) :
    TotalsRely w w' where
  orders := .of_eq horders
  snapshots := fun _ _ hs => by rwa [hsnapshots]
  variants := hvariants
  subtotals := fun _ o' _ ho' => ⟨o', by rwa [← horders], rfl⟩

theorem OrderedJob.of_rely
    {payload : CheckoutJobPayload}
    (h : OrderedJob dep payload w)
    (hrely : TotalsRely w w') :
    OrderedJob dep payload w' where
  toJobOf := h.toJobOf.of_rely hrely.toFulfilRely
  code := h.code
  subtotal := by
    intro o' ho'
    obtain ⟨o, ho, hsame⟩ := hrely.subtotals _ o' h.lt ho'
    rw [hsame]
    exact h.subtotal o ho

/-- The same row, in other columns that do not matter -/
theorem Itemized.of_rely
    {k : Nat} {o' : Order}
    (h : ∀ o, w.db.orders.find k = some o → Itemized w.db o)
    (hitems : w'.db.itemsOf k = w.db.itemsOf k)
    (hfound : ∀ i, i ∈ w.db.orderItems.rows →
      (w.db.snapshots.find i.bookVariantSnapshotId).isSome)
    (hrely : TotalsRely w w')
    (hk : k < w.db.orders.next)
    (ho' : w'.db.orders.find k = some o') :
    Itemized w'.db o' := by
  obtain ⟨o, ho, hsame⟩ := hrely.orders.persist k o' hk ho'
  obtain ⟨o₂, ho₂, hsubtotal⟩ := hrely.subtotals k o' hk ho'
  rw [ho, Option.some.injEq] at ho₂
  subst ho₂
  obtain ⟨hlines, hsum⟩ := h o ho
  have hid : o.id = k := Table.find_key ho
  have hid' : o'.id = k := Table.find_key ho'
  rw [hid] at hlines hsum
  have hquantities : w'.db.itemQuantities k = w.db.itemQuantities k := by
    refine itemQuantities_congr hitems fun i hi => ?_
    obtain ⟨s, hs⟩ := Option.isSome_iff_exists.mp (hfound i (List.mem_of_mem_filter hi))
    rw [hs]
    exact hrely.snapshots _ s hs
  constructor
  · rw [hid', hquantities, hlines, hsame.requested]
  · rw [hid', hitems, hsubtotal, hsum]

/-! ### Statements -/

variable (dep) in
/-- The rights as shares; every handler may keep the rights it has not used. -/
def totalsLogic : Logic Stmt World ItemRights where
  inv := TotalsInv dep
  rely := TotalsRely
  rely_refl := .refl
  rely_trans := fun _ _ _ => .trans
  guard _ _ _ := True
  done _ := True

/-- Statements that neither place nor delete an order, nor write or queue its items -/
def LeavesOrders : Stmt → Prop
  | .createOrder _ => False
  | .deleteOrder _ => False
  | .createItems _ _ => False
  | .enqueueCheckout _ => False
  | .createSnapshots items => ∀ i, i ∈ items → i.bookVariantId = i.contentHash.id
  | _ => True

/-- The orders stay, in other columns that do not matter, and so do the items. -/
theorem exec_leavesOrders
    {s : Stmt} {r : Response s}
    (hs : LeavesOrders s)
    (h : exec dep s w = .ok (w', r)) :
    (∀ k, (w'.db.orders.find k).isSome = (w.db.orders.find k).isSome) ∧
      w'.db.orderItems = w.db.orderItems ∧ w'.queue = w.queue := by
  have hupdate : ∀ (p : Order → Bool) (g : Order → Order) (hg : ∀ o, key (g o) = key o) (k : Nat),
      ((w.db.orders.updateWhere p g hg).find k).isSome = (w.db.orders.find k).isSome := by
    intro p g hg k
    rw [Table.find_updateWhere, Option.isSome_map]
  have horders := (exec_effects dep h).orders
  have hitems := (exec_effects dep h).orderItems
  have hqueue := (exec_effects dep h).queue
  cases s with
  | createOrder data =>
      cases hs
  | deleteOrder k =>
      cases hs
  | createItems k items =>
      cases hs
  | enqueueCheckout payload =>
      cases hs
  | markOrderAndPaymentSuccess j =>
      exact ⟨fun k => by rw [horders]; exact hupdate _ _ key_paidOrder k, hitems, hqueue⟩
  | updateOrderStatusById j status =>
      exact ⟨fun k => by rw [horders]; exact hupdate _ _ (key_orderStatus status) k, hitems,
        hqueue⟩
  | updateOrderStatus j status note =>
      exact ⟨fun k => by rw [horders]; exact hupdate _ _ (key_orderStatusNote status note) k,
        hitems, hqueue⟩
  | clearOrder variantMap =>
      exact ⟨fun k => by rw [horders]; exact hupdate _ _ key_cancelledOrder k, hitems, hqueue⟩
  | _ =>
      exact ⟨fun k => by rw [horders]; rfl, hitems, hqueue⟩

theorem TotalsInv.of_leavesOrders
    {m : ItemRights} {s : Stmt} {r : Response s}
    (hinv : TotalsInv dep m w)
    (hs : LeavesOrders s)
    (h : exec dep s w = .ok (w', r)) :
    TotalsInv dep m w' := by
  have hrely : TotalsRely w w' := exec_totalsRely h
  obtain ⟨hpresent, hitems, hqueue⟩ := exec_leavesOrders hs h
  have hitemsOf : ∀ k, w'.db.itemsOf k = w.db.itemsOf k := fun k => by
    rw [Database.itemsOf, Database.itemsOf, hitems]
  have hqueued : ∀ k, queued k w' = queued k w := fun k => by
    rw [queued, queued, hqueue]
  refine ⟨?_, fun i hi => ?_, fun p hp => ?_, fun k => ?_, fun k hk => ?_, fun k hk => ?_,
    fun k o' hk ho' => ?_⟩
  · rw [(exec_effects dep h).snapshots]
    cases s with
    | createSnapshots items =>
        exact createSnapshots_sound hinv.snapshots hs
    | _ =>
        exact hinv.snapshots
  · rw [hitems] at hi
    obtain ⟨hsome, htotal⟩ := hinv.item i hi
    obtain ⟨row, hrow⟩ := Option.isSome_iff_exists.mp hsome
    exact ⟨by rw [hrely.snapshots _ row hrow]; rfl, htotal⟩
  · rw [hqueue] at hp
    exact (hinv.job p hp).of_rely hrely
  · rw [hqueued]
    exact hinv.once k
  · rw [hqueued] at hk
    rw [hpresent]
    exact hinv.present k hk
  · rw [hitemsOf]
    exact hinv.empty k hk
  · obtain ⟨o, ho⟩ := Option.isSome_iff_exists.mp
      (hinv.present k (fun hzero => hk (by omega)))
    exact Itemized.of_rely (fun o ho => hinv.full k o hk ho) (hitemsOf k)
      (fun i hi => (hinv.item i hi).1) hrely (Table.find_lt ho) ho'

theorem harmless_of_leavesOrders
    {s : Stmt} (hs : LeavesOrders s) :
    Harmless (totalsLogic dep) (exec dep) .database (fun _ => True) s := by
  intro v m o _ hinv _
  refine attempt_cases (motive := fun x => TotalsInv dep m x.1 ∧ TotalsRely v x.1)
    (fun _ => ⟨hinv, .refl v⟩) fun v' r _ h => ?_
  have hinv' := TotalsInv.of_leavesOrders hinv hs h
  exact ⟨⟨hinv', exec_totalsRely h⟩, hinv', exec_totalsRely h⟩

/-! ### ItemRights that change hands -/

/-- The order that is placed is new. -/
theorem TotalsInv.createOrder
    {m : ItemRights} {data : OrderCreateInput} {r : Order}
    (hinv : TotalsInv dep m w)
    (h : exec dep (.createOrder data) w = .ok (w', r)) :
    TotalsInv dep (mayWrite w.db.orders.next + m) w' := by
  have hrely : TotalsRely w w' := exec_totalsRely h
  cases h
  have hnew : w.db.orders.find w.db.orders.next = none := by
    refine Option.eq_none_iff_forall_ne_some.mpr fun o ho => ?_
    exact lt_irrefl _ (Table.find_lt ho)
  have hfree : m.1 w.db.orders.next + m.2 w.db.orders.next + queued w.db.orders.next w = 0 := by
    by_contra hne
    have := hinv.present _ hne
    rw [hnew] at this
    cases this
  refine ⟨hinv.snapshots, hinv.item, fun p hp => (hinv.job p hp).of_rely hrely, fun k => ?_,
    fun k hk => ?_, fun k hk => hinv.empty k ?_, fun k o hk ho => ?_⟩
  · have hk := hinv.once k
    simp only [Prod.fst_add, Prod.snd_add, Pi.add_apply, fst_mayWrite, snd_mayWrite]
    change _ + queued k w ≤ 1
    by_cases hkey : k = w.db.orders.next
    · subst hkey
      rw [if_pos rfl]
      omega
    · rw [if_neg hkey]
      omega
  · rw [Table.find_insert]
    split_ifs with hkey
    · rfl
    · refine hinv.present k ?_
      simp only [Prod.fst_add, Prod.snd_add, Pi.add_apply, fst_mayWrite, snd_mayWrite,
        if_neg hkey, Nat.zero_add] at hk
      exact hk
  · simpa using hk
  · simp only [Prod.snd_add, Pi.add_apply, snd_mayWrite, Nat.zero_add] at hk
    rw [Table.find_insert, if_neg (fun hkey => hk (by rw [hkey]; omega))] at ho
    have hold := hinv.full k o hk ho
    exact ⟨hold.lines, hold.subtotal⟩

/-- The right goes with the job. -/
theorem TotalsInv.enqueueCheckout
    {F : ItemRights} {payload : CheckoutJobPayload} {r : Unit}
    (hinv : TotalsInv dep (mayWrite payload.orderId + F) w)
    (hjob : OrderedJob dep payload w)
    (h : exec dep (.enqueueCheckout payload) w = .ok (w', r)) :
    TotalsInv dep F w' := by
  have hrely : TotalsRely w w' := exec_totalsRely h
  cases h
  have hqueued : ∀ k, queued k { w with queue := w.queue ++ [payload] } =
      queued k w + if k = payload.orderId then 1 else 0 := by
    intro k
    rw [queued, queued, List.filter_append, List.length_append, List.filter_cons,
      List.filter_nil]
    by_cases hk : k = payload.orderId
    · simp [hk]
    · simp [hk, Ne.symm hk]
  refine ⟨hinv.snapshots, hinv.item, fun p hp => ?_, fun k => ?_, fun k hk => hinv.present k ?_,
    fun k hk => hinv.empty k ?_, fun k o hk ho => ?_⟩
  · rcases List.mem_append.mp hp with hp | hp
    · exact (hinv.job p hp).of_rely hrely
    · exact List.mem_singleton.mp hp ▸ hjob.of_rely hrely
  · have hk := hinv.once k
    simp only [Prod.fst_add, Prod.snd_add, Pi.add_apply, fst_mayWrite, snd_mayWrite] at hk
    rw [hqueued]
    omega
  · rw [hqueued] at hk
    simp only [Prod.fst_add, Prod.snd_add, Pi.add_apply, fst_mayWrite, snd_mayWrite]
    omega
  · simpa using hk
  · have hold := hinv.full k o (by simpa using hk) ho
    exact ⟨hold.lines, hold.subtotal⟩

/-- The right goes with the handler of the job. -/
theorem TotalsInv.startJob
    {F : ItemRights} {payload : CheckoutJobPayload} {n : Nat}
    (hinv : TotalsInv dep F w)
    (hpayload : w.queue[n]? = some payload) :
    TotalsInv dep (mayWrite payload.orderId + F) { w with queue := w.queue.eraseIdx n } := by
  obtain ⟨hlt, hget⟩ := List.getElem?_eq_some_iff.mp hpayload
  have hperm := List.getElem_cons_eraseIdx_perm hlt
  rw [hget] at hperm
  have hqueued : ∀ k, queued k { w with queue := w.queue.eraseIdx n } +
      (if k = payload.orderId then 1 else 0) = queued k w := by
    intro k
    rw [queued, queued, ← (hperm.filter _).length_eq, List.filter_cons]
    by_cases hk : k = payload.orderId
    · simp [hk]
    · simp [hk, Ne.symm hk]
  refine ⟨hinv.snapshots, hinv.item, fun p hp => ?_, fun k => ?_, fun k hk => hinv.present k ?_,
    fun k hk => hinv.empty k ?_, fun k o hk ho => ?_⟩
  · have hold := hinv.job p (List.mem_of_mem_eraseIdx hp)
    exact hold.of_rely (.of_eq rfl rfl fun _ => rfl)
  · have hk := hinv.once k
    have := hqueued k
    simp only [Prod.fst_add, Prod.snd_add, Pi.add_apply, fst_mayWrite, snd_mayWrite]
    omega
  · have := hqueued k
    simp only [Prod.fst_add, Prod.snd_add, Pi.add_apply, fst_mayWrite, snd_mayWrite] at hk
    omega
  · simpa using hk
  · have hold := hinv.full k o (by simpa using hk) ho
    exact ⟨hold.lines, hold.subtotal⟩

theorem itemsOf_append
    {db : Database} {k j : Nat} {t : Table OrderItem} {rows : List OrderItem}
    {inputs : List OrderItemInput}
    (hj : j ≠ k)
    (hrows : t.rows = db.orderItems.rows ++ rows)
    (hall : List.Forall₂ (RowOf k) inputs rows) :
    Database.itemsOf { db with orderItems := t } j = db.itemsOf j := by
  have hnone : rows.filter (fun i => decide (i.orderId = j)) = [] := by
    refine List.filter_eq_nil_iff.mpr fun r hr hdecide => hj ?_
    obtain ⟨i, -, hi⟩ := exists_of_forall₂ hall.flip hr
    rw [← of_decide_eq_true hdecide, hi.order]
  rw [Database.itemsOf, Database.itemsOf, Table.filter, Table.filter, hrows, List.filter_append,
    hnone, List.append_nil]

/-- The items are written by the holder of the right. -/
theorem TotalsInv.createItems
    {F : ItemRights} {payload : CheckoutJobPayload} {found : List BookVariantSnapshot} {r : Unit}
    (hinv : TotalsInv dep (mayWrite payload.orderId + F) w)
    (hjob : OrderedJob dep payload w)
    (hfound : FoundSnapshots payload found w.db.snapshots)
    (h : exec dep (.createItems payload.orderId (snapshotItems payload found)) w = .ok (w', r)) :
    TotalsInv dep (hasWritten payload.orderId + F) w' := by
  have hrely : TotalsRely w w' := exec_totalsRely h
  obtain ⟨-, ht⟩ := exec_createItems h
  have hw' : w' = { w with db.orderItems := w'.db.orderItems } := by
    simp only [exec] at h
    split at h
    · cases h
    · split at h
      · cases h
      · cases h
        rfl
  generalize w'.db.orderItems = t at ht hw'
  subst hw'
  obtain ⟨rows, hrows, hall⟩ := rows_insertItems ht
  have honce := hinv.once payload.orderId
  simp only [Prod.fst_add, Prod.snd_add, Pi.add_apply, fst_mayWrite, snd_mayWrite, if_true]
    at honce
  have hnone : w.db.itemsOf payload.orderId = [] :=
    hinv.empty _ (by
      simp only [Prod.snd_add, Pi.add_apply, snd_mayWrite]
      omega)
  have hsame : ∀ k, (hasWritten payload.orderId + F).1 k + (hasWritten payload.orderId + F).2 k =
      (mayWrite payload.orderId + F).1 k + (mayWrite payload.orderId + F).2 k := by
    intro k
    simp only [Prod.fst_add, Prod.snd_add, Pi.add_apply, fst_mayWrite, snd_mayWrite,
      fst_hasWritten, snd_hasWritten]
    omega
  refine ⟨hinv.snapshots, fun i hi => ?_, fun p hp => (hinv.job p hp).of_rely hrely,
    fun k => ?_, fun k hk => hinv.present k ?_, fun k hk => ?_, fun k o hk ho => ?_⟩
  · rw [hrows] at hi
    rcases List.mem_append.mp hi with hi | hi
    · exact hinv.item i hi
    · obtain ⟨input, hinput, hrow⟩ := exists_of_forall₂ hall.flip hi
      obtain ⟨x, hx, rfl⟩ := List.mem_map.mp hinput
      obtain ⟨s, hs, -, hid⟩ := snapshotIdOf_eq_some hrow.snapshot
      refine ⟨?_, hrow.lineTotal⟩
      rw [← hid, hfound.find s hs]
      rfl
  · rw [hsame]
    exact hinv.once k
  · rwa [← hsame]
  · have hne : k ≠ payload.orderId := by
      rintro rfl
      simp at hk
    rw [itemsOf_append hne hrows hall]
    refine hinv.empty k ?_
    simpa [hne] using hk
  · by_cases hkey : k = payload.orderId
    · subst hkey
      have hid : o.id = payload.orderId := Table.find_key ho
      constructor
      · rw [hid, hjob.lines o ho]
        exact itemQuantities_createItems hjob.complete hfound hinv.snapshots hnone ht
      · rw [hid, hjob.subtotal o ho, itemsOf_insertItems hnone hrows hall,
          lineTotals_of_rows hall]
    · refine Itemized.of_rely (w := w) (fun o ho => hinv.full k o ?_ ho)
        (itemsOf_append hkey hrows hall) (fun i hi => (hinv.item i hi).1) hrely
        (Table.find_lt (show w.db.orders.find k = some o from ho)) ho
      simpa [hkey] using hk

/-- Items are kept, except those of the deleted order. -/
theorem orderItems_deleteOrder
    {j : Nat} {r : Unit}
    (h : exec dep (.deleteOrder j) w = .ok (w', r)) :
    (∀ i, i ∈ w'.db.orderItems.rows → i ∈ w.db.orderItems.rows) ∧
      ∀ k, (w'.db.orders.find k).isSome → w'.db.itemsOf k = w.db.itemsOf k := by
  have hitems := (exec_effects dep h).orderItems
  refine ⟨fun i hi => ?_, fun k hk => ?_⟩
  · rw [hitems] at hi
    exact List.mem_of_mem_filter hi
  · rw [(exec_effects dep h).orders] at hk
    obtain ⟨o', ho'⟩ := Option.isSome_iff_exists.mp hk
    have hkj : k ≠ j := by
      rintro rfl
      have := (Table.find_deleteWhere_old ho').2
      simp [Table.find_key ho'] at this
    rw [Database.itemsOf, hitems, Table.filter, Database.itemsOf, Table.filter]
    show ((w.db.orderItems.deleteWhere _).rows.filter _) = _
    rw [Table.rows_deleteWhere, List.filter_filter]
    refine List.filter_congr (fun i _ => ?_)
    by_cases hi : i.orderId = k <;> simp [hi, hkj]

/-- The holder of the right deletes the order. -/
theorem TotalsInv.deleteOrder
    {x F : ItemRights} {k : Nat} {r : Unit}
    (hinv : TotalsInv dep (x + F) w)
    (hx : x = mayWrite k ∨ x = hasWritten k)
    (h : exec dep (.deleteOrder k) w = .ok (w', r)) :
    TotalsInv dep F w' := by
  have hrely : TotalsRely w w' := exec_totalsRely h
  have horders := (exec_effects dep h).orders
  have hitems := (exec_effects dep h).orderItems
  have hsnapshots := (exec_effects dep h).snapshots
  have hqueue : w'.queue = w.queue := (exec_effects dep h).queue
  obtain ⟨hsub, hkept⟩ := orderItems_deleteOrder h
  have hqueued : ∀ j, queued j w' = queued j w := fun j => by
    rw [queued, queued, hqueue]
  have hone : x.1 k + x.2 k = 1 := by
    rcases hx with rfl | rfl <;> simp
  have hzero : F.1 k + F.2 k + queued k w = 0 := by
    have := hinv.once k
    simp only [Prod.fst_add, Prod.snd_add, Pi.add_apply] at this
    omega
  have hother : ∀ j, j ≠ k → x.1 j = 0 ∧ x.2 j = 0 := by
    intro j hj
    rcases hx with rfl | rfl <;> simp [hj]
  refine ⟨?_, fun i hi => ?_, fun p hp => ?_, fun j => ?_, fun j hj => ?_, fun j hj => ?_,
    fun j o' hj ho' => ?_⟩
  · rw [hsnapshots]
    exact hinv.snapshots
  · rw [hsnapshots]
    exact hinv.item i (hsub i hi)
  · rw [hqueue] at hp
    exact (hinv.job p hp).of_rely hrely
  · have := hinv.once j
    simp only [Prod.fst_add, Prod.snd_add, Pi.add_apply] at this
    rw [hqueued]
    omega
  · rw [hqueued] at hj
    have hjk : j ≠ k := by
      rintro rfl
      exact hj hzero
    have hsome := hinv.present j (by
      simp only [Prod.fst_add, Prod.snd_add, Pi.add_apply]
      omega)
    obtain ⟨o, ho⟩ := Option.isSome_iff_exists.mp hsome
    rw [horders, ordersAfter, Table.find_deleteWhere, ho, Option.filter_some, Table.find_key ho]
    simp [hjk]
  · by_cases hjk : j = k
    · subst hjk
      rw [Database.itemsOf, hitems]
      refine List.filter_eq_nil_iff.mpr fun i hi hdecide => ?_
      have := (List.mem_filter.mp hi).2
      simp [of_decide_eq_true hdecide] at this
    · have hold := hinv.empty j (by
        simp only [Prod.snd_add, Pi.add_apply]
        have := (hother j hjk).2
        omega)
      refine List.eq_nil_iff_forall_not_mem.mpr fun i hi => ?_
      obtain ⟨hmem, hdecide⟩ := List.mem_filter.mp hi
      have : i ∈ w.db.itemsOf j := List.mem_filter.mpr ⟨hsub i hmem, hdecide⟩
      rw [hold] at this
      cases this
  · have hold : (x + F).2 j ≠ 0 := by
      simp only [Prod.snd_add, Pi.add_apply]
      omega
    obtain ⟨o, ho⟩ := Option.isSome_iff_exists.mp
      (hinv.present j fun hnone => hold (by omega))
    exact Itemized.of_rely (fun o ho => hinv.full j o hold ho)
      (hkept j (by rw [ho']; rfl)) (fun i hi => (hinv.item i hi).1) hrely (Table.find_lt ho) ho'

/-! ### The checkout -/

/-- What a checkout that returns has found and placed -/
structure CheckedOutWith (dep : Deployment) (body : CreateCheckOutDTO) (orderCode : String)
    (totalAmount : ℚ) (paymentUrl : Option QrUrl) (w : World) : Prop where
  distinct : (body.items.map (·.bookVariantId)).Nodup
  exist : ∀ i, i ∈ body.items → w.db.hasVariant i.bookVariantId = true
  request : paymentUrl = if body.paymentGateway = .cod then none
    else some (generateQrUrl dep totalAmount orderCode).paymentUrl
  order : ∃ k subtotal, k < w.db.orders.next ∧ orderCode = dep.orderCodes k ∧
    totalAmount = subtotal + shippingFee ∧
    ∀ o, w.db.orders.find k = some o → o.orderCode = orderCode ∧
      o.subtotal = some subtotal ∧ o.totalAmount = some totalAmount ∧
      o.requested.Perm (body.items.map fun i => (i.bookVariantId, i.quantity))

theorem CheckedOutWith.of_rely
    {body : CreateCheckOutDTO} {orderCode : String} {totalAmount : ℚ}
    {paymentUrl : Option QrUrl}
    (h : CheckedOutWith dep body orderCode totalAmount paymentUrl w)
    (hrely : TotalsRely w w') :
    CheckedOutWith dep body orderCode totalAmount paymentUrl w' := by
  obtain ⟨k, subtotal, hlt, hcode, htotal, hrow⟩ := h.order
  refine ⟨h.distinct, fun i hi => by rw [hrely.variants]; exact h.exist i hi, h.request,
    k, subtotal, hlt.trans_le hrely.orders.next_le, hcode, htotal, fun o' ho' => ?_⟩
  obtain ⟨o, ho, hsame⟩ := hrely.orders.persist k o' hlt ho'
  obtain ⟨o₂, ho₂, hsubtotal⟩ := hrely.subtotals k o' hlt ho'
  rw [ho, Option.some.injEq] at ho₂
  subst ho₂
  rw [hsame.orderCode, hsubtotal, hsame.totalAmount, hsame.requested]
  exact hrow o ho

/-- What a handler of `createCheckout` ends in -/
def CheckoutEnds (dep : Deployment) (body : CreateCheckOutDTO) (x : Except Failure Answer)
    (_ : ItemRights) (w : World) : Prop :=
  ∀ isTransfer orderCode totalAmount orderVariants shipFee tokenUrl paymentUrl content,
    x = .ok (.checkout isTransfer orderCode totalAmount orderVariants shipFee tokenUrl
      paymentUrl content) →
    CheckedOutWith dep body orderCode totalAmount paymentUrl w

theorem checkoutEnds_error
    (body : CreateCheckOutDTO) (e : Failure) (m : ItemRights) (w : World) :
    CheckoutEnds dep body (.error e) m w := by
  intro _ _ _ _ _ _ _ _ h
  cases h

abbrev KeepsTotals (dep : Deployment) {α : Type}
    (Q : Except Failure α → ItemRights → World → Prop) :
    Service α → ItemRights → World → Prop :=
  (totalsLogic dep).Safe (exec dep) .database Q

/-- The variants that have been found are those of the items. -/
structure FoundAll (items : List CheckoutItemDto) (variants : List BookVariant) (w : World) :
    Prop extends FoundFor items variants where
  length : variants.length = items.length
  known : ∀ v, v ∈ variants → w.db.hasVariant v.id = true

theorem FoundAll.exist
    {items : List CheckoutItemDto} {variants : List BookVariant}
    (h : FoundAll items variants w) :
    ∀ i, i ∈ items → w.db.hasVariant i.bookVariantId = true := by
  intro i hi
  have hmem := (h.perm h.length).mem_iff.mpr (List.mem_map_of_mem hi)
  obtain ⟨v, hv, hid⟩ := List.mem_map.mp hmem
  rw [← hid]
  exact h.known v hv

theorem FoundAll.of_rely
    {items : List CheckoutItemDto} {variants : List BookVariant}
    (h : FoundAll items variants w)
    (hrely : TotalsRely w w') :
    FoundAll items variants w' :=
  ⟨h.toFoundFor, h.length, fun v hv => by rw [hrely.variants]; exact h.known v hv⟩

/-- The row of a placed order -/
structure PlacedRow (data : OrderCreateInput) (order : Order) (w : World) : Prop where
  lt : order.id < w.db.orders.next
  row : ∀ o, w.db.orders.find order.id = some o →
    o.orderCode = order.orderCode ∧ o.subtotal = some data.subtotal ∧
      o.totalAmount = some data.totalAmount ∧ o.requested = data.requested

theorem PlacedRow.of_rely
    {data : OrderCreateInput} {order : Order}
    (h : PlacedRow data order w)
    (hrely : TotalsRely w w') :
    PlacedRow data order w' where
  lt := h.lt.trans_le hrely.orders.next_le
  row := by
    intro o' ho'
    obtain ⟨o, ho, hsame⟩ := hrely.orders.persist _ o' h.lt ho'
    obtain ⟨o₂, ho₂, hsubtotal⟩ := hrely.subtotals _ o' h.lt ho'
    rw [ho, Option.some.injEq] at ho₂
    subst ho₂
    rw [hsame.orderCode, hsubtotal, hsame.totalAmount, hsame.requested]
    exact h.row o ho

theorem placedRow_createOrder
    {data : OrderCreateInput} {order : Order}
    (h : exec dep (.createOrder data) w = .ok (w', order)) :
    order.id = w.db.orders.next ∧ order.orderCode = dep.orderCodes order.id ∧
      PlacedRow data order w' := by
  cases h
  refine ⟨rfl, rfl, Nat.lt_succ_self _, fun o ho => ?_⟩
  have hid : (newOrder dep data w.now w.db.orders.next).id = w.db.orders.next := rfl
  rw [hid, Table.find_insert, if_pos rfl, Option.some.injEq] at ho
  subst ho
  exact ⟨rfl, rfl, rfl, rfl⟩

/-- Once the job is queued, the checkout returns. -/
theorem enqueue_totals
    {body : CreateCheckOutDTO} {guestSessionId : Option String} {userId : Option Nat}
    {email : Option String} {variants : List BookVariant} {isError : Bool} {order : Order}
    {result : Option CreateUrlPayment}
    (hfound : FoundAll body.items variants w)
    (hcode : order.orderCode = dep.orderCodes order.id)
    (hplaced : PlacedRow (orderCreateInput body guestSessionId userId variants) order w)
    (hresult : result.map (·.paymentUrl) = if body.paymentGateway = .cod then none
      else some (generateQrUrl dep
        (subtotalOf variants (mapVariantIds body.items) + shippingFee)
          order.orderCode).paymentUrl) :
    KeepsTotals dep (CheckoutEnds dep body)
      ((query (.enqueueCheckout
        (checkoutJobPayload body guestSessionId userId email variants isError order))).bind
        fun _ => ret (.checkout (decide (body.paymentGateway ≠ .cod)) order.orderCode
          (subtotalOf variants (mapVariantIds body.items) + shippingFee)
          (variants.map orderVariantOf) shippingFee (result.map (·.tokenUrl))
          (result.map (·.paymentUrl)) (result.map (·.content))))
      (mayWrite order.id) w := by
  have hjob : OrderedJob dep
      (checkoutJobPayload body guestSessionId userId email variants isError order) w := by
    refine ⟨⟨hplaced.lt, checkoutJobPayload_complete hfound.mem, fun o ho => ?_⟩, hcode,
      fun o ho => ?_⟩
    · rw [(hplaced.row o ho).2.2.2, jobLines, checkoutJobPayload, List.map_map]
      rfl
    · rw [(hplaced.row o ho).2.1, sum_lineTotals]
      rfl
  have hdone : CheckedOutWith dep body order.orderCode
      (subtotalOf variants (mapVariantIds body.items) + shippingFee)
      (result.map (·.paymentUrl)) w := by
    refine ⟨hfound.items_nodup hfound.length, hfound.exist, hresult, order.id, _, hplaced.lt,
      hcode, rfl, fun o ho => ?_⟩
    obtain ⟨hcode', hsubtotal, htotal, hrequested⟩ := hplaced.row o ho
    refine ⟨hcode', hsubtotal, htotal, ?_⟩
    rw [hrequested]
    exact requestedLines_perm hfound.toFoundFor hfound.length
  refine Safe.await_bind (StatementSafe.of_exec (fun v e _ v' _ => checkoutEnds_error body e _ v')
    fun v F o v' r hwv hinv _ _ h => ?_)
  have hvv' : TotalsRely v v' := exec_totalsRely h
  refine ⟨0, ?_, hvv', fun u hu => ?_, fun u _ => checkoutEnds_error body _ _ u⟩
  · have hheld : TotalsInv dep (mayWrite (checkoutJobPayload body guestSessionId userId email
        variants isError order).orderId + F) v := hinv
    rw [zero_add]
    exact hheld.enqueueCheckout (hjob.of_rely hwv) h
  · intro _ _ _ _ _ _ _ _ heq
    cases heq
    exact hdone.of_rely ((hwv.trans hvv').trans hu)

/-- The order, its payment request and its job -/
theorem placeOrder_totals
    {body : CreateCheckOutDTO} {guestSessionId : Option String} {userId : Option Nat}
    {email : Option String} {variants : List BookVariant} {isError : Bool}
    (hfound : FoundAll body.items variants w) :
    KeepsTotals dep (CheckoutEnds dep body)
      (placeOrder dep body guestSessionId userId email variants isError) 0 w := by
  refine Safe.await_bind (StatementSafe.of_exec (fun v e _ v' _ => checkoutEnds_error body e _ v')
    fun v F o v' order hwv hinv _ _ h => ?_)
  have hheld : TotalsInv dep F v := by
    have hinv : TotalsInv dep (0 + F) v := hinv
    rwa [zero_add] at hinv
  have hvv' : TotalsRely v v' := exec_totalsRely h
  have hinv' := hheld.createOrder h
  obtain ⟨hid, hcode, hplaced⟩ := placedRow_createOrder h
  rw [← hid] at hinv'
  refine ⟨mayWrite order.id, hinv', hvv', ?_, fun u _ => checkoutEnds_error body _ _ u⟩
  have hfound' := hfound.of_rely (hwv.trans hvv')
  have hend : ∀ result : Option CreateUrlPayment, ∀ u, TotalsRely v' u →
      (result.map (·.paymentUrl) = if body.paymentGateway = .cod then none
        else some (generateQrUrl dep
          (subtotalOf variants (mapVariantIds body.items) + shippingFee)
            order.orderCode).paymentUrl) →
      KeepsTotals dep (CheckoutEnds dep body)
        ((query (.enqueueCheckout
          (checkoutJobPayload body guestSessionId userId email variants isError order))).bind
          fun _ => ret (.checkout (decide (body.paymentGateway ≠ .cod)) order.orderCode
            (subtotalOf variants (mapVariantIds body.items) + shippingFee)
            (variants.map orderVariantOf) shippingFee (result.map (·.tokenUrl))
            (result.map (·.paymentUrl)) (result.map (·.content))))
        (mayWrite order.id) u := by
    intro result u hu hresult
    exact enqueue_totals (hfound'.of_rely hu) hcode (hplaced.of_rely hu) hresult
  change KeepsTotals dep (CheckoutEnds dep body)
    ((createPaymentIntent dep body.paymentGateway _ order.orderCode).bind _) _ v'
  by_cases hcod : body.paymentGateway = .cod
  · rw [createPaymentIntent, if_pos hcod]
    exact hend none v' (.refl v') (by rw [if_pos hcod]; rfl)
  · rw [createPaymentIntent, if_neg hcod]
    have hharmless : ∀ content tokenUrl paymentUrl,
        Harmless (totalsLogic dep) (exec dep) .database (fun _ => True)
          (.createPaymentIntent order.orderCode content tokenUrl paymentUrl) :=
      fun _ _ _ => harmless_of_leavesOrders trivial
    refine Safe.bind (Safe.await_bind ((hharmless _ _ _).statementSafe (fun _ _ => trivial)
      fun x u hu => ?_))
    cases x with
    | ok r =>
        exact fun u' hu' => hend (some _) u' (hu.trans hu') (by rw [if_neg hcod]; rfl)
    | error e =>
        exact fun u' _ => checkoutEnds_error body e _ u'

theorem createCheckout_totals
    (body : CreateCheckOutDTO) (guestSessionId : Option String) (userId : Option Nat) :
    KeepsTotals dep (CheckoutEnds dep body)
      (createCheckout dep body guestSessionId userId) 0 w := by
  have hquiet : ∀ s, ReservationStatement s →
      Harmless (totalsLogic dep) (exec dep) .database (fun _ => True) s := by
    intro s hs
    refine harmless_of_leavesOrders ?_
    cases s <;> trivial
  refine Safe.bind_all trivial ((checkShopper_all body guestSessionId userId).mono hquiet)
    (fun email v _ => ?_) fun e v => checkoutEnds_error body e _ v
  refine Safe.await_bind (StatementSafe.of_read
    (fun u : World => u.db.variants.filter fun r =>
      (body.items.map (·.bookVariantId)).contains r.id)
    (fun _ => rfl) (fun u F _ _ => ?_) fun u e _ u' _ => checkoutEnds_error body e _ u')
  have hfor := foundFor_findByIds body.items u.db.variants
  dsimp only
  split_ifs with hlength
  · exact fun u' _ => checkoutEnds_error body _ _ u'
  · have hall : FoundAll body.items (u.db.variants.filter fun r =>
        (body.items.map (·.bookVariantId)).contains r.id) u := by
      refine ⟨hfor, not_not.mp hlength, fun v hv => ?_⟩
      rw [Database.hasVariant, show v.id = key v from rfl,
        Table.find_of_mem (List.mem_of_mem_filter hv)]
      rfl
    refine Safe.bind_all trivial ((reserveItems_all body.items _).mono hquiet)
      (fun isError v' hv' => ?_) fun e v => checkoutEnds_error body e _ v
    exact placeOrder_totals (hall.of_rely hv')

/-! ### The job -/

/-- What the handler of a job ends in -/
def JobEnds (dep : Deployment) (payload : CheckoutJobPayload) (x : Except Failure Answer)
    (m : ItemRights) (_ : World) : Prop :=
  x = .ok .jobDone →
    payload.orderCode = dep.orderCodes payload.orderId ∧ m.2 payload.orderId ≠ 0

theorem jobEnds_error
    (payload : CheckoutJobPayload) (e : Failure) (m : ItemRights) (w : World) :
    JobEnds dep payload (.error e) m w := by
  intro h
  cases h

/-- The items of the order are written, or the right to it is still held. -/
def ItemsWritten (k : Nat) (x : Except Failure Unit) (m : ItemRights) (_ : World) : Prop :=
  match x with
  | .ok _ => m = hasWritten k
  | .error _ => m = mayWrite k ∨ m = hasWritten k

/-- The items, then statements that leave them alone. -/
theorem writeItems_totals
    {payload : CheckoutJobPayload} {found : List BookVariantSnapshot} {p : Service Unit}
    (hjob : OrderedJob dep payload w)
    (hfound : FoundSnapshots payload found w.db.snapshots)
    (hp : p.All LeavesOrders) :
    KeepsTotals dep (ItemsWritten payload.orderId)
      ((query (.createItems payload.orderId (snapshotItems payload found))).bind fun _ => p)
      (mayWrite payload.orderId) w := by
  refine Safe.await_bind (StatementSafe.of_exec (fun v e _ v' _ => .inl rfl)
    fun v F o v' r hwv hinv _ _ h => ?_)
  have hfound' : FoundSnapshots payload found v.db.snapshots :=
    ⟨fun s hs => hwv.snapshots _ s (hfound.find s hs), hfound.has⟩
  refine ⟨hasWritten payload.orderId, TotalsInv.createItems hinv (hjob.of_rely hwv) hfound' h,
    exec_totalsRely h, ?_, fun u _ => .inr rfl⟩
  refine Safe.of_all (K := fun _ => True) (fun _ _ _ _ => trivial)
    (hp.mono fun s hs => harmless_of_leavesOrders hs) trivial (fun x u _ => ?_) trivial
  cases x with
  | ok a =>
      exact rfl
  | error e =>
      exact .inr rfl

theorem writeOrder_totals
    {payload : CheckoutJobPayload} {found : List BookVariantSnapshot}
    (hjob : OrderedJob dep payload w)
    (hfound : FoundSnapshots payload found w.db.snapshots) :
    KeepsTotals dep (ItemsWritten payload.orderId)
      (if payload.isGuest then writeGuestOrder payload (snapshotItems payload found)
        else writeUserOrder payload (snapshotItems payload found))
      (mayWrite payload.orderId) w := by
  split_ifs
  · refine writeItems_totals hjob hfound ?_
    cases payload.guestAddress with
    | none =>
        trivial
    | some a =>
        refine All.bind (All.await trivial) (fun _ => ?_)
        split_ifs
        · exact All.await trivial
        · trivial
  · refine writeItems_totals hjob hfound ?_
    split_ifs
    · exact All.await trivial
    · trivial

theorem deleteAndThrow_totals
    {payload : CheckoutJobPayload} {m : ItemRights}
    {Q : Except Failure Unit → ItemRights → World → Prop}
    (err : Failure)
    (hm : m = mayWrite payload.orderId ∨ m = hasWritten payload.orderId)
    (hQ : ∀ e m v, Q (.error e) m v) :
    KeepsTotals dep Q (deleteAndThrow payload.orderId err) m w := by
  refine Safe.await_bind (StatementSafe.of_exec (fun v e _ v' _ => hQ e _ v')
    fun v F o v' r _ hinv _ _ h => ?_)
  refine ⟨0, ?_, exec_totalsRely h, fun u _ => hQ _ _ u, fun u _ => hQ _ _ u⟩
  rw [zero_add]
  exact TotalsInv.deleteOrder hinv hm h

theorem processCheckout_totals
    {payload : CheckoutJobPayload}
    (hjob : OrderedJob dep payload w) :
    KeepsTotals dep (JobEnds dep payload) (processCheckout payload)
      (mayWrite payload.orderId) w := by
  refine Safe.await_bind (StatementSafe.of_exec (fun v e _ v' _ => jobEnds_error payload e _ v')
    fun v F o v' r hwv hinv _ _ h => ?_)
  have hvv' : TotalsRely v v' := exec_totalsRely h
  have hsound : LeavesOrders (.createSnapshots (payload.variants.map snapshotOf)) := by
    intro x hx
    obtain ⟨y, -, rfl⟩ := List.mem_map.mp hx
    rfl
  refine ⟨mayWrite payload.orderId, TotalsInv.of_leavesOrders hinv hsound h, hvv', ?_,
    fun u _ => jobEnds_error payload _ _ u⟩
  have hjob' := hjob.of_rely (hwv.trans hvv')
  have hhas : ∀ variant, variant ∈ payload.variants →
      HasSnapshot v'.db.snapshots (generateContentHash variant) := by
    intro variant hvariant
    cases h
    exact has_createSnapshots (List.mem_map_of_mem hvariant)
  refine Safe.await_bind (StatementSafe.of_read
    (fun u : World => u.db.snapshots.filter fun s =>
      s.contentHash.any fun h =>
        ((payload.variants.map snapshotOf).map (·.contentHash)).contains h)
    (fun _ => rfl) (fun u F hu _ => ?_) fun u e _ u' _ => jobEnds_error payload e _ u')
  have hfound : FoundSnapshots payload (u.db.snapshots.filter fun s =>
      s.contentHash.any fun h =>
        ((payload.variants.map snapshotOf).map (·.contentHash)).contains h) u.db.snapshots := by
    refine ⟨fun s hs => Table.find_of_mem (List.mem_of_mem_filter hs), fun variant hvariant => ?_⟩
    obtain ⟨s, hs, hhash⟩ := hhas variant hvariant
    have hs' := hu.snapshots _ s (Table.find_of_mem hs)
    refine ⟨s, List.mem_filter.mpr ⟨Table.find_mem hs', ?_⟩, hhash⟩
    simp only [hhash, Option.any_some, List.contains_iff_mem]
    exact List.mem_map_of_mem (List.mem_map_of_mem hvariant)
  refine Safe.bind (Safe.tryCatch ((writeOrder_totals (hjob'.of_rely hu) hfound).mono
    fun x m u' _ hx => ?_))
  cases x with
  | ok a =>
      refine fun u'' _ _ => ⟨hjob.code, ?_⟩
      rw [show m = hasWritten payload.orderId from hx]
      simp
  | error e =>
      exact deleteAndThrow_totals e hx fun e m v => jobEnds_error payload e m v

/-! ### Runs -/

/-- What the handler that event `b` has started in `d` ends in -/
def Ends (dep : Deployment) (b : Event ⊕ VariantEdit) (d : World) (x : Except Failure Answer)
    (m : ItemRights) (w : World) : Prop :=
  match b with
  | .inl (.arrive (.createCheckout body _ _)) => CheckoutEnds dep body x m w
  | .inl (.startJob n) =>
      ∀ payload, d.queue[n]? = some payload → JobEnds dep payload x m w
  | _ => True

/-- What handler `i` of the run ends in -/
def EndsAs (dep : Deployment) (w₀ : World) (as : List (Action (Event ⊕ VariantEdit)))
    (i : Nat) (x : Except Failure Answer) (m : ItemRights) (w : World) : Prop :=
  ∀ b d, Started (editedServer dep) ⟨w₀, []⟩ as i b d → Ends dep b d.world x m w

theorem ends_none
    (b : Event ⊕ VariantEdit) (d : World) (m : ItemRights) (w : World) :
    Ends dep b d (.ok .none) m w := by
  unfold Ends
  split
  · intro _ _ _ _ _ _ _ _ h
    cases h
  · intro _ _ h
    cases h
  · trivial

theorem totals_of_all
    {p : Service Answer} {Q : Except Failure Answer → ItemRights → World → Prop} {m : ItemRights}
    (hp : p.All LeavesOrders)
    (hQ : ∀ x v, Q x m v) :
    KeepsTotals dep Q p m w :=
  Safe.of_all (K := fun _ => True) (fun _ _ _ _ => trivial)
    (hp.mono fun _ hs => harmless_of_leavesOrders hs) trivial (fun x v _ => hQ x v) trivial

theorem handler_totals
    (r : Request) (d : World) :
    KeepsTotals dep (Ends dep (.inl (.arrive r)) d) (handler dep r) 0 w := by
  cases r with
  | createCheckout body guestSessionId userId =>
      exact createCheckout_totals body guestSessionId userId
  | sepayWebhook body =>
      refine totals_of_all ((handleSepayWebhook_all body).mono ?_) fun _ _ => trivial
      rintro s (hs | ⟨code, k, hs⟩) <;> cases s <;> trivial
  | getPaymentStatus orderCode =>
      refine totals_of_all ((getPaymentStatus_all orderCode).mono fun s hs => ?_)
        fun _ _ => trivial
      cases s <;> trivial
  | cleanOrder =>
      refine totals_of_all (cleanOrder_all.mono fun s hs => ?_) fun _ _ => trivial
      cases s <;> trivial
  | updateOrderStatus orderId body =>
      refine totals_of_all ((updateOrderStatus_all orderId body).mono fun s hs => ?_)
        fun _ _ => trivial
      cases s <;> trivial
  | createStockImport createdById body =>
      refine totals_of_all ((createStockImport_all createdById body).mono fun s hs => ?_)
        fun _ _ => trivial
      cases s <;> trivial

/-- Keys, the clock and the prices of variants do not matter. -/
theorem TotalsInv.of_same
    {m : ItemRights}
    (hinv : TotalsInv dep m w)
    (hrely : TotalsRely w w')
    (horders : w'.db.orders = w.db.orders)
    (hitems : w'.db.orderItems = w.db.orderItems)
    (hsnapshots : w'.db.snapshots = w.db.snapshots)
    (hqueue : w'.queue = w.queue) :
    TotalsInv dep m w' := by
  have hitemsOf : ∀ k, w'.db.itemsOf k = w.db.itemsOf k := fun k => by
    rw [Database.itemsOf, Database.itemsOf, hitems]
  have hqueued : ∀ k, queued k w' = queued k w := fun k => by
    rw [queued, queued, hqueue]
  refine ⟨hsnapshots ▸ hinv.snapshots, fun i hi => ?_, fun p hp => ?_, fun k => ?_,
    fun k hk => ?_, fun k hk => ?_, fun k o' hk ho' => ?_⟩
  · rw [hsnapshots]
    exact hinv.item i (hitems ▸ hi)
  · exact (hinv.job p (hqueue ▸ hp)).of_rely hrely
  · rw [hqueued]
    exact hinv.once k
  · rw [hqueued] at hk
    rw [horders]
    exact hinv.present k hk
  · rw [hitemsOf]
    exact hinv.empty k hk
  · rw [horders] at ho'
    exact Itemized.of_rely (fun o ho => hinv.full k o hk ho) (hitemsOf k)
      (fun i hi => (hinv.item i hi).1) hrely (Table.find_lt ho') (horders ▸ ho')

/-- The environment starts handlers with the rights they need. -/
theorem editedServer_env_totals
    {b : Event ⊕ VariantEdit} {F : ItemRights} {p : Option (Service Answer)}
    (h : (editedServer dep).env b w = some (w', p))
    (hinv : TotalsInv dep F w) :
    TotalsRely w w' ∧ (p = none → TotalsInv dep F w') ∧
      ∀ q, p = some q → ∃ m, TotalsInv dep (m + F) w' ∧
        KeepsTotals dep (Ends dep b w) q m w' := by
  have hquiet : ∀ u : World, TotalsRely w u → u.db.orders = w.db.orders →
      u.db.orderItems = w.db.orderItems → u.db.snapshots = w.db.snapshots →
      u.queue = w.queue → p = none → TotalsRely w u ∧ (p = none → TotalsInv dep F u) ∧
        ∀ q, p = some q → ∃ m, TotalsInv dep (m + F) u ∧
          KeepsTotals dep (Ends dep b w) q m u := by
    intro u hrely horders hitems hsnapshots hqueue hp
    refine ⟨hrely, fun _ => hinv.of_same hrely horders hitems hsnapshots hqueue, fun q hq => ?_⟩
    rw [hp] at hq
    cases hq
  cases b with
  | inl e =>
      cases e with
      | arrive r =>
          cases h
          refine ⟨.refl w, fun hp => (by cases hp), fun q hq => ⟨0, ?_, ?_⟩⟩
          · rwa [zero_add]
          · cases hq
            exact handler_totals r w
      | startJob j =>
          obtain ⟨payload, hpayload, heq⟩ := Option.map_eq_some_iff.mp h
          cases heq
          have hrely : TotalsRely w { w with queue := w.queue.eraseIdx j } :=
            .of_eq rfl rfl fun _ => rfl
          refine ⟨hrely, fun hp => (by cases hp), fun q hq =>
            ⟨mayWrite payload.orderId, hinv.startJob hpayload, ?_⟩⟩
          cases hq
          have hjob := (hinv.job payload (List.mem_of_getElem? hpayload)).of_rely hrely
          refine (processCheckout_totals hjob).mono fun x m v _ hx payload' hpayload' => ?_
          rw [hpayload, Option.some.injEq] at hpayload'
          subst hpayload'
          exact hx
      | expireKey v =>
          cases h
          exact hquiet _ (.of_eq rfl rfl fun _ => rfl) rfl rfl rfl rfl rfl
      | tick ms =>
          cases h
          exact hquiet _ (.of_eq rfl rfl fun _ => rfl) rfl rfl rfl rfl rfl
  | inr e =>
      cases h
      refine hquiet _ (.of_eq rfl rfl fun v => ?_) rfl rfl rfl rfl rfl
      rw [Database.hasVariant, Database.hasVariant, editVariant, Table.update,
        Table.find_updateWhere, Option.isSome_map]

theorem totalsInv_start
    (hw : Fresh w)
    (hsnapshots : SnapshotsSound w.db.snapshots) :
    TotalsInv dep 0 w where
  snapshots := hsnapshots
  item := by
    intro i hi
    rw [hw.orderItems] at hi
    cases hi
  job := by
    intro p hp
    rw [hw.queue] at hp
    cases hp
  once := by
    intro k
    simp [queued, hw.queue]
  present := by
    intro k hk
    simp [queued, hw.queue] at hk
  empty := by
    intro k _
    simp [Database.itemsOf, Table.filter, hw.orderItems]
  full := by
    intro k o hk
    simp at hk

/-- Every run keeps the invariant, and every handler ends as it should. -/
theorem runs_totals
    {c : ServerState} {as : List (Action (Event ⊕ VariantEdit))}
    (hw : Fresh w)
    (hsnapshots : SnapshotsSound w.db.snapshots)
    (hrun : runs (editedServer dep).step ⟨w, []⟩ as = some c) :
    BalancedAt (totalsLogic dep) (editedServer dep) (EndsAs dep w as) c := by
  refine balancedAt_runs (fun n m v _ b d _ => ends_none b (Config.world d) m v)
    (fun _ _ _ => trivial) (fun d b w' p F hoccurs hb hinv => ?_)
    (balancedAt_start (totalsInv_start hw hsnapshots)) hrun
  obtain ⟨hrely, hnone, hsome⟩ := editedServer_env_totals hb hinv
  refine ⟨hrely, hnone, fun q hq => ?_⟩
  subst hq
  obtain ⟨m, hinv', hsafe⟩ := hsome q rfl
  refine ⟨m, hinv', hsafe.mono fun x m' v _ hx b' d' hstarted => ?_⟩
  obtain ⟨rfl, rfl⟩ := Started.unique ⟨hoccurs, rfl, w', q, hb⟩ hstarted
  exact hx

/-- The totals of an order, of its answer and of the payment request are those of its items. -/
structure AddsUp (body : CreateCheckOutDTO) (totalAmount : ℚ) (paymentUrl : Option QrUrl)
    (o : Order) (db : Database) : Prop where
  distinct : (body.items.map (·.bookVariantId)).Nodup
  exist : ∀ i, i ∈ body.items → db.hasVariant i.bookVariantId = true
  /-- One item for each requested variant -/
  lines : ((db.itemsOf o.id).map fun i =>
      (db.variantOfSnapshot i.bookVariantSnapshotId, i.quantity)).Perm
    (body.items.map fun i => (some i.bookVariantId, i.quantity))
  lineTotal : ∀ i, i ∈ db.itemsOf o.id → i.lineTotal = i.unitPrice * i.quantity
  subtotal : o.subtotal = some ((db.itemsOf o.id).map (·.lineTotal)).sum
  total : totalAmount = ((db.itemsOf o.id).map (·.lineTotal)).sum + shippingFee
  answered : o.totalAmount = some totalAmount
  request : paymentUrl.map (·.amount) =
    if body.paymentGateway = .cod then none else some totalAmount

/-- Where all snapshots are there, no item is left out. -/
theorem map_variantOfSnapshot
    {db : Database} {items : List OrderItem}
    (h : ∀ i, i ∈ items → (db.snapshots.find i.bookVariantSnapshotId).isSome) :
    items.map (fun i => (db.variantOfSnapshot i.bookVariantSnapshotId, i.quantity)) =
      (items.filterMap fun i => (db.variantOfSnapshot i.bookVariantSnapshotId).map
        fun v => (v, i.quantity)).map fun l => (some l.1, l.2) := by
  induction items with
  | nil =>
      rfl
  | cons i items ih =>
      obtain ⟨s, hs⟩ := Option.isSome_iff_exists.mp (h i (by simp))
      have hvariant : db.variantOfSnapshot i.bookVariantSnapshotId = some s.bookVariantId := by
        rw [Database.variantOfSnapshot, hs]
        rfl
      rw [List.map_cons, List.filterMap_cons, hvariant, Option.map_some, List.map_cons,
        ih fun j hj => h j (List.mem_cons_of_mem i hj)]

variable (dep)

/--
Once a checkout has returned and the job with its order code is done, the order is there and
its totals add up, whatever else has happened in the meantime.
-/
theorem order_addsUp
    {w : World} {c : ServerState} {as : List (Action (Event ⊕ VariantEdit))}
    {i j n : Nat} {d d' : ServerState}
    {body : CreateCheckOutDTO} {guestSessionId : Option String} {userId : Option Nat}
    {payload : CheckoutJobPayload}
    {isTransfer : Bool} {orderCode : String} {totalAmount shipFee : ℚ}
    {orderVariants : List OrderVariant} {tokenUrl : Option String} {paymentUrl : Option QrUrl}
    {content : Option String}
    (hw : Fresh w)
    (hsnapshots : SnapshotsSound w.db.snapshots)
    (hrun : runs (editedServer dep).step ⟨w, []⟩ as = some c)
    (hcheckout : Started (editedServer dep) ⟨w, []⟩ as i
      (.inl (.arrive (.createCheckout body guestSessionId userId))) d)
    (hreturned : c.threads[i]? = some (.ret (.checkout isTransfer orderCode totalAmount
      orderVariants shipFee tokenUrl paymentUrl content)))
    (hjob : Started (editedServer dep) ⟨w, []⟩ as j (.inl (.startJob n)) d')
    (hpayload : d'.world.queue[n]? = some payload)
    (hcode : payload.orderCode = orderCode)
    (hdone : c.threads[j]? = some (.ret .jobDone)) :
    ∃ o, c.world.db.orders.find payload.orderId = some o ∧ o.orderCode = orderCode ∧
      AddsUp body totalAmount paymentUrl o c.world.db := by
  have hbalanced := runs_totals hw hsnapshots hrun
  obtain ⟨_, _, -, hends⟩ := hbalanced.returned hreturned
  have hout : CheckedOutWith dep body orderCode totalAmount paymentUrl c.world :=
    hends _ d hcheckout isTransfer orderCode totalAmount orderVariants shipFee tokenUrl
      paymentUrl content rfl
  obtain ⟨m, F, hinv, hends'⟩ := hbalanced.returned hdone
  obtain ⟨hcode', hwritten⟩ := hends' _ d' hjob payload hpayload rfl
  have hheld : (m + F).2 payload.orderId ≠ 0 := by
    simp only [Prod.snd_add, Pi.add_apply]
    omega
  obtain ⟨o, ho⟩ := Option.isSome_iff_exists.mp (hinv.present payload.orderId fun hnone =>
    hheld (by omega))
  have hid : o.id = payload.orderId := Table.find_key ho
  have hitemized := hinv.full _ o hheld ho
  obtain ⟨k, subtotal, -, hk, htotal, hrow⟩ := hout.order
  have hkey : payload.orderId = k :=
    dep.orderCodes_injective (congrArg dep.collate (hcode'.symm.trans (hcode.trans hk)))
  obtain ⟨hordered, hsubtotal, hanswered, hlines⟩ := hrow o (hkey ▸ ho)
  have hsum := hitemized.subtotal
  rw [hsubtotal, Option.some.injEq] at hsum
  have hitem : ∀ x, x ∈ c.world.db.itemsOf o.id →
      (c.world.db.snapshots.find x.bookVariantSnapshotId).isSome ∧
        x.lineTotal = x.unitPrice * x.quantity :=
    fun x hx => hinv.item x (List.mem_of_mem_filter hx)
  refine ⟨o, ho, hordered, hout.distinct, hout.exist, ?_, fun x hx => (hitem x hx).2,
    hitemized.subtotal, by rw [← hsum]; exact htotal, hanswered, ?_⟩
  · rw [map_variantOfSnapshot fun x hx => (hitem x hx).1]
    have hperm := hlines
    rw [← hitemized.lines] at hperm
    have := hperm.map fun l : Nat × Int => (some l.1, l.2)
    rwa [List.map_map] at this
  · rw [hout.request]
    split_ifs <;> rfl

set_option maxRecDepth 4000 in
/-- One copy at 100000 and the shipping fee, at the price before the edit. -/
theorem order_addsUp_placedThenEdited :
    ∃ c body o, sampleGuest .sepay 1 = .createCheckout body (some "guest") none ∧
      runs (editedServer sampleDeployment).step ⟨sampleWorld 5, []⟩ placedThenEdited = some c ∧
      c.world.db.orders.find 1 = some o ∧
      AddsUp body 120000 (some ⟨"MB", "0123456789", "compact", 120000, "VLR0"⟩) o c.world.db := by
  have hran : (runs (editedServer sampleDeployment).step ⟨sampleWorld 5, []⟩
      placedThenEdited).any (fun c =>
        decide (c.threads[0]?.bind Program.answer = some (.checkout true "VLR0" 120000
          [⟨1, .paperback, "9780306406157", some 100000, 5, true, 1⟩] 20000 (some "VLR0")
          (some ⟨"MB", "0123456789", "compact", 120000, "VLR0"⟩) (some "VLR0"))) &&
        decide (c.threads[1]?.bind Program.answer = some .jobDone)) = true := by
    decide +kernel
  have hqueued : (runs (editedServer sampleDeployment).step ⟨sampleWorld 5, []⟩
      (placedThenEdited.take 8)).any (fun d =>
        decide (d.threads.length = 1) && d.world.queue[0]?.any fun p =>
          decide (p.orderId = 1) && decide (p.orderCode = "VLR0")) = true := by
    decide +kernel
  obtain ⟨c, hrun, hanswers⟩ := Option.any_eq_true _ _ |>.mp hran
  obtain ⟨d, hd, hjob⟩ := Option.any_eq_true _ _ |>.mp hqueued
  obtain ⟨hanswer, hdone⟩ := Bool.and_eq_true_iff.mp hanswers
  obtain ⟨hlength, hany⟩ := Bool.and_eq_true_iff.mp hjob
  obtain ⟨payload, hpayload, hpair⟩ := Option.any_eq_true _ _ |>.mp hany
  obtain ⟨hid, hcode⟩ := Bool.and_eq_true_iff.mp hpair
  have hsnapshots : SnapshotsSound (sampleWorld 5).db.snapshots := by
    intro s hs
    cases hs
  have hstarted : Started (editedServer sampleDeployment) ⟨sampleWorld 5, []⟩ placedThenEdited 1
      (.inl (.startJob 0)) d :=
    ⟨⟨placedThenEdited.take 8, placedThenEdited.drop 9, rfl, hd⟩, of_decide_eq_true hlength,
      _, _, congrArg (Option.map _) hpayload⟩
  obtain ⟨o, ho, -, hadds⟩ := order_addsUp sampleDeployment (sampleWorld_fresh 5) hsnapshots hrun
    ⟨⟨[], placedThenEdited.tail, rfl, rfl⟩, rfl, _, _, rfl⟩
    (bind_answer_eq_some_iff.mp (of_decide_eq_true hanswer)) hstarted hpayload
    (of_decide_eq_true hcode) (bind_answer_eq_some_iff.mp (of_decide_eq_true hdone))
  rw [of_decide_eq_true hid] at ho
  exact ⟨c, _, o, rfl, hrun, ho, hadds⟩

end BookStore
