import BookStore.Checkout.Jobs
import BookStore.Checkout.Restoration
import BookStore.OrderItems

/-!
# What a failed checkout job leaves

The copies of an order are withheld by `createCheckout` before its job runs.  When the job
throws, the order should be gone and the copies given back.

* `job_done_iff`: which jobs come to an end without an error.
* `gone_iff`: which failed jobs have deleted their order.  The statements for the snapshots
  stand outside the `try` block.
* `job_leavesNoTrace_iff`: a job that fails gives nothing back, so that a trace is left
  wherever something was withheld.
-/

namespace BookStore
namespace Numbers

open Async Program

/-- How the statements of a job end; the deletion is carried out. -/
structure JobOutcomes where
  snapshots : Outcome
  lookup : Outcome
  items : Outcome
  address : Outcome
  book : Outcome

def JobOutcomes.of (o : JobOutcomes) : JobStmt → Outcome
  | .createSnapshots _ => o.snapshots
  | .findAllByContentHashes _ => o.lookup
  | .createItems _ _ => o.items
  | .createAddress _ _ => o.address
  | .updateReservedByIds _ => o.book
  | .deleteOrder _ => .ok

/-- A part of a job by itself. -/
abbrev JobEnds {α : Type} (dep : Deployment) (column : IntColumn) (o : JobOutcomes)
    (p : Worker α) (w w' : World) (x : Except Failure α) : Prop :=
  p.Ends (execJob dep column) .database o.of w w' x

/-- The order is not there, nor its items or its address. -/
structure Gone (orderId : Nat) (db : Database) : Prop where
  order : db.orders.find orderId = none
  items : ∀ i, i ∈ db.orderItems.rows → i.orderId ≠ orderId
  address : ∀ a, a ∈ db.orderAddresses.rows → a.orderId ≠ orderId

/--
What `createCheckout` has withheld of a variant: in Redis the quantity asked for, in
`reserved` what it has booked there.
-/
def CheckoutJobPayload.withheld (payload : CheckoutJobPayload) (booked : Nat → Int) (v : Nat) :
    ℚ :=
  if payload.isError then booked v else (mapGet payload.mapVariantIds v).getD 0

/-- The order is gone, and what was withheld has been given back. -/
structure NoTrace (payload : CheckoutJobPayload) (booked : Nat → Int) (w w' : World) :
    Prop where
  gone : Gone payload.orderId w'.db
  redis : payload.isError = false → ∀ v,
    (w'.level v : ℚ) = w.level v + payload.withheld booked v
  reserved : payload.isError = true → ∀ v,
    (w'.db.reserved v : ℚ) = w.db.reserved v - payload.withheld booked v

/-- A job that fails leaves no trace. -/
def LeavesNoTrace (dep : Deployment) (column : IntColumn) (o : JobOutcomes)
    (payload : CheckoutJobPayload) (booked : Nat → Int) (w : World) : Prop :=
  ∀ w' e, JobEnds dep column o (processCheckout payload) w w' (.error e) →
    NoTrace payload booked w w'

/-! ### Jobs that are done -/

/-- Every variant of the job has a quantity, and a whole one. -/
def CheckoutJobPayload.Complete (payload : CheckoutJobPayload) : Prop :=
  ∀ v, v ∈ payload.variants → ∃ q, mapGet payload.mapVariantIds v.id = some q ∧ Whole q

structure ItemsWritten (o : JobOutcomes) (payload : CheckoutJobPayload) (w : World) : Prop where
  answered : o.items = .ok
  order : payload.variants = [] ∨ (w.db.orders.find payload.orderId).isSome = true
  complete : payload.Complete

structure AddressWritten (o : JobOutcomes) (payload : CheckoutJobPayload) (w : World) :
    Prop where
  given : payload.guestAddress.isSome = true
  answered : o.address = .ok
  order : (w.db.orders.find payload.orderId).isSome = true
  fresh : ∀ a, a ∈ w.db.orderAddresses.rows → a.orderId ≠ payload.orderId

structure CopiesReserved (o : JobOutcomes) (payload : CheckoutJobPayload) : Prop where
  answered : o.book = .ok
  nonempty : payload.variants ≠ []

/-- The job does not throw. -/
structure JobDone (o : JobOutcomes) (payload : CheckoutJobPayload) (w : World) : Prop where
  snapshots : o.snapshots = .ok
  lookup : o.lookup = .ok
  items : ItemsWritten o payload w
  address : payload.isGuest = true → AddressWritten o payload w
  reserved : payload.isError = false → (payload.isGuest = true → payload.payment = .cod) →
    CopiesReserved o payload

section Done

variable {dep : Deployment} {column : IntColumn} {o : JobOutcomes}
variable {payload : CheckoutJobPayload} {w w' : World}

/-- An item can be written: it has a snapshot and a whole quantity. -/
def OrderItemInput.Writable (i : OrderItemInput) : Prop :=
  i.bookVariantSnapshotId.isSome = true ∧ ∃ q, i.quantity = some q ∧ Whole q

theorem insertItems_isSome_iff {k : Nat} {items : List OrderItemInput} {t : Table OrderItem} :
    (insertItems k items t).isSome = true ↔ ∀ i, i ∈ items → i.Writable := by
  induction items generalizing t with
  | nil =>
      simp [insertItems]
  | cons i items ih =>
      rw [List.forall_mem_cons]
      cases hid : i.bookVariantSnapshotId with
      | none =>
          simp [insertItems, OrderItemInput.Writable, hid]
      | some snapshotId =>
          cases hq : i.quantity with
          | none =>
              simp [insertItems, OrderItemInput.Writable, hid, hq]
          | some q =>
              have hwritable : i.Writable ↔ Whole q := by
                simp [OrderItemInput.Writable, hid, hq]
              simp only [insertItems, hid, hq, hwritable]
              split_ifs with hwhole
              · rw [ih, and_iff_right hwhole]
              · simp only [hwhole, false_and, Option.isSome_none, Bool.false_eq_true]

/-- The world once the snapshots of the job are written. -/
def World.snapshotted (payload : CheckoutJobPayload) (w : World) : World :=
  { w with
    db.snapshots := (payload.variants.map snapshotOf).foldl insertSnapshot w.db.snapshots }

/-- The snapshots that the job finds. -/
def World.foundSnapshots (payload : CheckoutJobPayload) (w : World) :
    List BookVariantSnapshot :=
  w.db.snapshots.filter fun s => s.contentHash.any fun h =>
    ((payload.variants.map snapshotOf).map (·.contentHash)).contains h

/-- The items that the job computes. -/
abbrev jobItems (payload : CheckoutJobPayload) (w : World) : List OrderItemInput :=
  snapshotItems payload ((w.snapshotted payload).foundSnapshots payload)

/-- The `try` block of the job. -/
def writeOrder (payload : CheckoutJobPayload) (items : List OrderItemInput) : Worker Unit :=
  if payload.isGuest then writeGuestOrder payload items else writeUserOrder payload items

theorem snapshot_found {v : OrderVariant} (hv : v ∈ payload.variants) :
    ∃ s, s ∈ (w.snapshotted payload).foundSnapshots payload ∧
      s.contentHash = some (generateContentHash v) := by
  have hmem : snapshotOf v ∈ payload.variants.map snapshotOf := List.mem_map_of_mem hv
  obtain ⟨s, hs, hhash⟩ := has_createSnapshots (t := w.db.snapshots) hmem
  refine ⟨s, List.mem_filter.mpr ⟨hs, ?_⟩, hhash⟩
  rw [hhash]
  simpa using ⟨v, hv, rfl⟩

/-- The items can be written exactly if the job is complete: each has its snapshot. -/
theorem jobItems_writable_iff :
    (∀ i, i ∈ jobItems payload w → i.Writable) ↔ payload.Complete := by
  unfold jobItems snapshotItems CheckoutJobPayload.Complete
  rw [List.map_map, List.forall_mem_map]
  refine forall₂_congr fun v hv => and_iff_right ?_
  obtain ⟨s, hs, hhash⟩ := snapshot_found (w := w) hv
  exact snapshotIdOf_isSome hs hhash

theorem jobItems_eq_nil_iff : jobItems payload w = [] ↔ payload.variants = [] := by
  simp [jobItems, snapshotItems]

/-- The state once the items are written. -/
def World.withItems (t : Table OrderItem) (w : World) : World :=
  { w with db.orderItems := t }

theorem exec_createItems_iff {k : Nat} {items : List OrderItemInput} {r : Unit} :
    execJob dep column (.createItems k items) w = .ok (w', r) ↔
      (items = [] ∨ (w.db.orders.find k).isSome = true) ∧
        ∃ t, insertItems k items w.db.orderItems = some t ∧ w' = w.withItems t := by
  rw [execJob]
  split_ifs with h
  · refine iff_of_false (by simp) ?_
    rintro ⟨hnil | hsome, -⟩
    · exact h.1 hnil
    · rw [h.2] at hsome
      cases hsome
  · have hwritable : items = [] ∨ (w.db.orders.find k).isSome = true := by
      rw [Option.isSome_iff_ne_none]
      exact (not_and_or.mp h).imp_left not_not.mp
    rw [and_iff_right hwritable]
    cases insertItems k items w.db.orderItems with
    | none =>
        simp
    | some t =>
        simp [World.withItems, eq_comm]

theorem exec_updateReservedByIds_iff {items : List CheckoutItemDto} {r : Unit} :
    execJob dep column (.updateReservedByIds items) w = .ok (w', r) ↔
      items ≠ [] ∧ w' = w.booked column items := by
  rw [execJob]
  split_ifs with h
  · simp [h]
  · simp [h, World.booked, eq_comm]

variable (dep column w) in
theorem exec_createAddress_ok (k : Nat) (a : GuestAddressDto) :
    (∃ w' r, execJob dep column (.createAddress k a) w = .ok (w', r)) ↔
      (w.db.orders.find k).isSome = true ∧
        ∀ a, a ∈ w.db.orderAddresses.rows → a.orderId ≠ k := by
  rw [execJob]
  split_ifs with h
  · refine iff_of_false (by simp) ?_
    rintro ⟨hsome, hfresh⟩
    rcases h with hnone | hany
    · rw [hnone] at hsome
      cases hsome
    · obtain ⟨a, ha, hk⟩ := List.any_eq_true.mp hany
      exact hfresh a ha (of_decide_eq_true hk)
  · rw [not_or] at h
    refine iff_of_true ⟨_, _, rfl⟩ ⟨Option.isSome_iff_ne_none.mpr h.1, fun a ha hk => h.2 ?_⟩
    exact List.any_eq_true.mpr ⟨a, ha, decide_eq_true hk⟩

/-! ### Without an error -/

/-- The part can end without an error. -/
def CanReturn (dep : Deployment) (column : IntColumn) (o : JobOutcomes) {α : Type}
    (p : Worker α) (w : World) : Prop :=
  ∃ w' a, JobEnds dep column o p w w' (.ok a)

theorem canReturn_createItems {items : List OrderItemInput} {f : Unit → Worker Unit} :
    CanReturn dep column o ((run (.createItems payload.orderId items)).bind f) w ↔
      o.items = .ok ∧ (items = [] ∨ (w.db.orders.find payload.orderId).isSome = true) ∧
        ∃ t, insertItems payload.orderId items w.db.orderItems = some t ∧
          CanReturn dep column o (f ()) (w.withItems t) := by
  unfold CanReturn JobEnds
  simp only [ends_bind_await_ok]
  constructor
  · rintro ⟨w', a, ho, v, r, hexec, hf⟩
    obtain ⟨horder, t, ht, rfl⟩ := exec_createItems_iff.mp hexec
    exact ⟨ho, horder, t, ht, w', a, hf⟩
  · rintro ⟨ho, horder, t, ht, w', a, hf⟩
    exact ⟨w', a, ho, _, (), exec_createItems_iff.mpr ⟨horder, t, ht, rfl⟩, hf⟩

theorem canReturn_updateReservedByIds :
    CanReturn dep column o (run (.updateReservedByIds (reservedVariant payload))) w ↔
      CopiesReserved o payload := by
  have hne : reservedVariant payload ≠ [] ↔ payload.variants ≠ [] := by
    simp [reservedVariant]
  unfold CanReturn JobEnds
  simp only [ends_await_ok]
  constructor
  · rintro ⟨w', a, ho, hexec⟩
    exact ⟨ho, hne.mp (exec_updateReservedByIds_iff.mp hexec).1⟩
  · rintro ⟨ho, hvariants⟩
    exact ⟨_, (), ho, exec_updateReservedByIds_iff.mpr ⟨hne.mpr hvariants, rfl⟩⟩

theorem canReturn_ret {a : Unit} : CanReturn dep column o (ret a) w :=
  ⟨w, a, rfl, rfl⟩

theorem canReturn_createAddress {a : GuestAddressDto} {f : Unit → Worker Unit} {P : Prop}
    (hf : ∀ v, CanReturn dep column o (f ()) v ↔ P) :
    CanReturn dep column o ((run (.createAddress payload.orderId a)).bind f) w ↔
      o.address = .ok ∧ ((w.db.orders.find payload.orderId).isSome = true ∧
        ∀ a, a ∈ w.db.orderAddresses.rows → a.orderId ≠ payload.orderId) ∧ P := by
  rw [← exec_createAddress_ok dep column w payload.orderId a]
  unfold CanReturn JobEnds at hf ⊢
  simp only [ends_bind_await_ok]
  constructor
  · rintro ⟨w', b, ho, v, r, hexec, hrest⟩
    exact ⟨ho, ⟨v, r, hexec⟩, (hf v).mp ⟨w', b, hrest⟩⟩
  · rintro ⟨ho, ⟨v, r, hexec⟩, hP⟩
    obtain ⟨w', b, hrest⟩ := (hf v).mpr hP
    exact ⟨w', b, ho, v, r, hexec, hrest⟩

theorem items_written_iff :
    (o.items = .ok ∧ (jobItems payload w = [] ∨
        (w.db.orders.find payload.orderId).isSome = true) ∧
      ∃ t, insertItems payload.orderId (jobItems payload w) w.db.orderItems = some t) ↔
      ItemsWritten o payload w := by
  rw [jobItems_eq_nil_iff, ← Option.isSome_iff_exists, insertItems_isSome_iff,
    jobItems_writable_iff]
  exact ⟨fun ⟨ho, horder, hcomplete⟩ => ⟨ho, horder, hcomplete⟩,
    fun ⟨ho, horder, hcomplete⟩ => ⟨ho, horder, hcomplete⟩⟩

theorem canReturn_writeUserOrder :
    CanReturn dep column o (writeUserOrder payload (jobItems payload w))
        (w.snapshotted payload) ↔
      ItemsWritten o payload w ∧ (payload.isError = false → CopiesReserved o payload) := by
  have hrest : ∀ v, CanReturn dep column o
      (if payload.isError = false then run (.updateReservedByIds (reservedVariant payload))
        else ret ()) v ↔ (payload.isError = false → CopiesReserved o payload) := by
    intro v
    split_ifs with herror
    · rw [canReturn_updateReservedByIds, forall_prop_of_true herror]
    · exact iff_of_true canReturn_ret fun h => absurd h herror
  rw [← items_written_iff]
  refine canReturn_createItems.trans ?_
  simp only [hrest]
  constructor
  · rintro ⟨ho, horder, t, ht, hreserved⟩
    exact ⟨⟨ho, horder, t, ht⟩, hreserved⟩
  · rintro ⟨⟨ho, horder, t, ht⟩, hreserved⟩
    exact ⟨ho, horder, t, ht, hreserved⟩

theorem canReturn_writeGuestOrder :
    CanReturn dep column o (writeGuestOrder payload (jobItems payload w))
        (w.snapshotted payload) ↔
      ItemsWritten o payload w ∧ AddressWritten o payload w ∧
        (payload.isError = false → payload.payment = .cod → CopiesReserved o payload) := by
  have hreserve : ∀ v, CanReturn dep column o
      (if payload.isError = false ∧ payload.payment = .cod then
        run (.updateReservedByIds (reservedVariant payload)) else ret ()) v ↔
      (payload.isError = false → payload.payment = .cod → CopiesReserved o payload) := by
    intro v
    rw [← and_imp]
    split_ifs with herror
    · rw [canReturn_updateReservedByIds, forall_prop_of_true herror]
    · exact iff_of_true canReturn_ret fun h => absurd h herror
  rw [← items_written_iff]
  refine canReturn_createItems.trans ?_
  cases haddress : payload.guestAddress with
  | none =>
      refine iff_of_false ?_ fun h => ?_
      · rintro ⟨-, -, t, -, w', a, -, he⟩
        cases he
      · have hgiven := h.2.1.given
        rw [haddress] at hgiven
        cases hgiven
  | some a =>
      have hgiven : payload.guestAddress.isSome = true := by rw [haddress]; rfl
      constructor
      · rintro ⟨ho, horder, t, ht, hrest⟩
        obtain ⟨ha, ⟨hsome, hfresh⟩, hreserved⟩ := (canReturn_createAddress hreserve).mp hrest
        exact ⟨⟨ho, horder, t, ht⟩, ⟨hgiven, ha, hsome, hfresh⟩, hreserved⟩
      · rintro ⟨⟨ho, horder, t, ht⟩, haddress, hreserved⟩
        exact ⟨ho, horder, t, ht, (canReturn_createAddress hreserve).mpr
          ⟨haddress.answered, ⟨haddress.order, haddress.fresh⟩, hreserved⟩⟩

theorem canReturn_writeOrder :
    CanReturn dep column o (writeOrder payload (jobItems payload w)) (w.snapshotted payload) ↔
      ItemsWritten o payload w ∧ (payload.isGuest = true → AddressWritten o payload w) ∧
        (payload.isError = false → (payload.isGuest = true → payload.payment = .cod) →
          CopiesReserved o payload) := by
  unfold writeOrder
  by_cases hguest : payload.isGuest = true
  · simp only [if_pos hguest, canReturn_writeGuestOrder, forall_prop_of_true hguest]
  · rw [if_neg hguest, canReturn_writeUserOrder]
    exact ⟨fun h => ⟨h.1, fun hg => absurd hg hguest, fun he _ => h.2 he⟩,
      fun h => ⟨h.1, fun he => h.2.2 he fun hg => absurd hg hguest⟩⟩

/-- The `catch` block throws. -/
theorem not_canReturn_deleteAndThrow {e : Failure} :
    ¬ CanReturn dep column o (deleteAndThrow payload.orderId e) w := by
  rintro ⟨w', a, h⟩
  obtain ⟨-, v, r, -, -, he⟩ := ends_bind_await_ok.mp h
  cases he

variable (dep column) in
/-- The job ends without an error exactly if it is done. -/
theorem job_done_iff :
    CanReturn dep column o (processCheckout payload) w ↔ JobDone o payload w := by
  constructor
  · rintro ⟨w', a, h⟩
    obtain ⟨hsnapshots, v, r, hv, h⟩ := ends_bind_await_ok.mp h
    cases hv
    obtain ⟨hlookup, v, found, hv, h⟩ := ends_bind_await_ok.mp h
    cases hv
    obtain ⟨v, b, htry, -⟩ := ends_bind_ok.mp h
    rcases ends_tryCatch.mp htry with ⟨b, hok, -⟩ | ⟨u, e, -, hcatch⟩
    · obtain ⟨hitems, haddress, hreserved⟩ := canReturn_writeOrder.mp ⟨v, b, hok⟩
      exact ⟨hsnapshots, hlookup, hitems, haddress, hreserved⟩
    · exact absurd ⟨v, b, hcatch⟩ not_canReturn_deleteAndThrow
  · rintro ⟨hsnapshots, hlookup, hitems, haddress, hreserved⟩
    obtain ⟨v, b, hok⟩ := (canReturn_writeOrder (w := w)).mpr ⟨hitems, haddress, hreserved⟩
    refine ⟨v, .jobDone, ends_bind_await_ok.mpr ⟨hsnapshots, _, (), rfl, ?_⟩⟩
    refine ends_bind_await_ok.mpr ⟨hlookup, _, _, rfl, ?_⟩
    exact ends_bind_ok.mpr ⟨v, b, ends_tryCatch.mpr (.inl ⟨b, hok, rfl⟩), rfl, rfl⟩

end Done

/-! ### Jobs that fail -/

section Failed

variable {dep : Deployment} {column : IntColumn} {o : JobOutcomes}
variable {payload : CheckoutJobPayload} {booked : Nat → Int} {w w' : World}

/-- The job with its order. -/
def OfJob (payload : CheckoutJobPayload) : JobStmt → Prop
  | .createItems orderId _ => orderId = payload.orderId
  | .createAddress orderId _ => orderId = payload.orderId
  | .updateReservedByIds _ => payload.isError = false
  | .deleteOrder orderId => orderId = payload.orderId
  | _ => True

/-- A statement of the `try` block -/
def OfTry (payload : CheckoutJobPayload) (s : JobStmt) : Prop :=
  OfJob payload s ∧ ∀ orderId, s ≠ .deleteOrder orderId

theorem writeOrder_all (items : List OrderItemInput) :
    (writeOrder payload items).All (OfTry payload) := by
  have hreserve : payload.isError = false →
      (run (.updateReservedByIds (reservedVariant payload))).All (OfTry payload) :=
    fun herror => .await ⟨herror, fun _ h => by cases h⟩
  unfold writeOrder
  split_ifs
  · refine (All.await ⟨rfl, fun _ h => by cases h⟩).bind fun _ => ?_
    cases payload.guestAddress with
    | none =>
        trivial
    | some a =>
        refine (All.await ⟨rfl, fun _ h => by cases h⟩).bind fun _ => ?_
        split_ifs with herror
        · exact hreserve herror.1
        · trivial
  · refine (All.await ⟨rfl, fun _ h => by cases h⟩).bind fun _ => ?_
    split_ifs with herror
    · exact hreserve herror
    · trivial

theorem processCheckout_all : (processCheckout payload).All (OfJob payload) := by
  refine (All.await trivial).bind fun _ => (All.await trivial).bind fun found => ?_
  refine All.bind (All.tryCatch ?_ fun e => ?_) fun _ => trivial
  · exact (writeOrder_all _).mono fun s hs => hs.1
  · have hdelete : OfJob payload (.deleteOrder payload.orderId) := rfl
    exact (All.await hdelete).bind fun _ => trivial

theorem determined_writeOrder (items : List OrderItemInput) :
    (writeOrder payload items).Determined := by
  unfold writeOrder
  split_ifs
  · refine (Determined.await _).bind fun _ => ?_
    cases payload.guestAddress with
    | none =>
        trivial
    | some a =>
        refine (Determined.await _).bind fun _ => ?_
        split_ifs
        · exact Determined.await _
        · trivial
  · refine (Determined.await _).bind fun _ => ?_
    split_ifs
    · exact Determined.await _
    · trivial

theorem determined_processCheckout : (processCheckout payload).Determined := by
  refine (Determined.await _).bind fun _ => (Determined.await _).bind fun found => ?_
  refine Determined.bind (Determined.tryCatch (determined_writeOrder _) fun e => ?_)
    fun _ => trivial
  exact (Determined.await _).bind fun _ => trivial

/-- What a statement of the job leaves alone. -/
structure JobFrame (payload : CheckoutJobPayload) (w w' : World) : Prop where
  redis : w'.redis = w.redis
  variants : payload.isError = true → w'.db.variants = w.db.variants

theorem JobFrame.refl (w : World) : JobFrame payload w w :=
  ⟨rfl, fun _ => rfl⟩

theorem JobFrame.trans {u v : World} (h : JobFrame payload u v) (h' : JobFrame payload v w) :
    JobFrame payload u w :=
  ⟨h'.redis.trans h.redis, fun herror => (h'.variants herror).trans (h.variants herror)⟩

theorem exec_jobFrame {s : JobStmt} {r : JobResponse s}
    (hs : OfJob payload s)
    (h : execJob dep column s w = .ok (w', r)) :
    JobFrame payload w w' := by
  cases s with
  | createSnapshots items =>
      cases h
      exact ⟨rfl, fun _ => rfl⟩
  | findAllByContentHashes hashes =>
      cases h
      exact .refl w
  | createItems orderId items =>
      obtain ⟨-, t, -, rfl⟩ := exec_createItems_iff.mp h
      exact ⟨rfl, fun _ => rfl⟩
  | createAddress orderId a =>
      rw [execJob] at h
      split_ifs at h
      cases h
      exact ⟨rfl, fun _ => rfl⟩
  | updateReservedByIds items =>
      obtain ⟨-, rfl⟩ := exec_updateReservedByIds_iff.mp h
      refine ⟨rfl, fun herror => ?_⟩
      cases herror.symm.trans hs
  | deleteOrder orderId =>
      rw [execJob] at h
      split at h
      · cases h
      · cases h
        exact ⟨rfl, fun _ => rfl⟩

/-- The job does not write to Redis, and it reserves only what Redis holds. -/
theorem job_frame {x : Except Failure Answer}
    (h : JobEnds dep column o (processCheckout payload) w w' x) : JobFrame payload w w' :=
  h.of_all JobFrame.refl (fun _ _ _ => JobFrame.trans) (processCheckout_all.mono fun _ hs _ =>
    attempt_of_exec JobFrame.refl (fun _ _ hexec => exec_jobFrame hs hexec) _)

/-- Nothing is written for an order that is not there. -/
structure OrderFrame (orderId : Nat) (w w' : World) : Prop where
  orders : w'.db.orders = w.db.orders
  items : w.db.orders.find orderId = none → w'.db.orderItems = w.db.orderItems
  address : w.db.orders.find orderId = none → w'.db.orderAddresses = w.db.orderAddresses

theorem OrderFrame.refl {orderId : Nat} (w : World) : OrderFrame orderId w w :=
  ⟨rfl, fun _ => rfl, fun _ => rfl⟩

theorem OrderFrame.trans {orderId : Nat} {u v : World}
    (h : OrderFrame orderId u v) (h' : OrderFrame orderId v w) : OrderFrame orderId u w :=
  ⟨h'.orders.trans h.orders,
    fun hnone => (h'.items (h.orders ▸ hnone)).trans (h.items hnone),
    fun hnone => (h'.address (h.orders ▸ hnone)).trans (h.address hnone)⟩

theorem exec_orderFrame {s : JobStmt} {r : JobResponse s}
    (hs : OfTry payload s)
    (h : execJob dep column s w = .ok (w', r)) :
    OrderFrame payload.orderId w w' := by
  obtain ⟨hs, hdelete⟩ := hs
  cases s with
  | createSnapshots items =>
      cases h
      exact ⟨rfl, fun _ => rfl, fun _ => rfl⟩
  | findAllByContentHashes hashes =>
      cases h
      exact .refl w
  | createItems orderId items =>
      cases hs
      obtain ⟨horder, t, ht, rfl⟩ := exec_createItems_iff.mp h
      refine ⟨rfl, fun hnone => ?_, fun _ => rfl⟩
      rw [hnone, Option.isSome_none] at horder
      obtain rfl := horder.resolve_right Bool.false_ne_true
      exact (Option.some.inj ht).symm
  | createAddress orderId a =>
      cases hs
      rw [execJob] at h
      split_ifs at h with hrefused
      cases h
      exact ⟨rfl, fun _ => rfl, fun hnone => absurd (.inl hnone) hrefused⟩
  | updateReservedByIds items =>
      obtain ⟨-, rfl⟩ := exec_updateReservedByIds_iff.mp h
      exact ⟨rfl, fun _ => rfl, fun _ => rfl⟩
  | deleteOrder orderId =>
      exact absurd rfl (hdelete orderId)

theorem try_frame {items : List OrderItemInput} {x : Except Failure Unit}
    (h : JobEnds dep column o (writeOrder payload items) w w' x) :
    OrderFrame payload.orderId w w' :=
  h.of_all OrderFrame.refl (fun _ _ _ => OrderFrame.trans) ((writeOrder_all items).mono
    fun _ hs _ =>
      attempt_of_exec OrderFrame.refl (fun _ _ hexec => exec_orderFrame hs hexec) _)

theorem gone_removeOrder {order : Order} (horder : order.id = payload.orderId) (db : Database) :
    Gone payload.orderId (removeOrder dep order db) where
  order := by
    rw [removeOrder, Table.find_deleteWhere, horder]
    cases hfind : db.orders.find payload.orderId with
    | none =>
        rfl
    | some row =>
        simp [Option.filter, Table.find_key hfind]
  items i hi := by
    have hne := (List.mem_filter.mp hi).2
    simpa [horder] using hne
  address a ha := by
    have hne := (List.mem_filter.mp ha).2
    simpa [horder] using hne

/-- The `catch` block leaves no order behind. -/
theorem gone_deleteAndThrow {v : World} {e : Failure} {x : Except Failure Unit}
    (hframe : OrderFrame payload.orderId w v)
    (h : JobEnds dep column o (deleteAndThrow payload.orderId e) v w' x) :
    Gone payload.orderId w'.db ↔
      Gone payload.orderId w.db ∨ (w.db.orders.find payload.orderId).isSome = true := by
  have hfind : v.db.orders.find payload.orderId = w.db.orders.find payload.orderId := by
    rw [hframe.orders]
  cases horder : w.db.orders.find payload.orderId with
  | none =>
      have hrefused : execJob dep column (.deleteOrder payload.orderId) v =
          .error .database := by
        simp only [execJob, hfind, horder]
      obtain ⟨rfl, -⟩ := (ends_bind_await_of_error hrefused).mp h
      have hsame : Gone payload.orderId w'.db ↔ Gone payload.orderId w.db := by
        constructor
        · rintro ⟨-, hitems, haddress⟩
          exact ⟨horder, hframe.items horder ▸ hitems, hframe.address horder ▸ haddress⟩
        · rintro ⟨-, hitems, haddress⟩
          exact ⟨hfind.trans horder, (hframe.items horder).symm ▸ hitems,
            (hframe.address horder).symm ▸ haddress⟩
      simpa using hsame
  | some order =>
      have hdeleted : execJob dep column (.deleteOrder payload.orderId) v =
          .ok ({ v with db := removeOrder dep order v.db }, ()) := by
        simp only [execJob, hfind, horder]
      have hid : order.id = payload.orderId := Table.find_key horder
      have hgone : Gone payload.orderId w'.db := by
        rcases (ends_bind_await_of_ok hdeleted).mp h with
          ⟨-, rfl, -⟩ | ⟨ho, -⟩ | ⟨ho, -⟩
        · exact gone_removeOrder hid v.db
        · cases ho
        · cases ho
      exact iff_of_true hgone (.inr rfl)

/--
A failed job leaves no order exactly if there was none, or the statements for the snapshots
have succeeded and there was one to delete.
-/
theorem gone_iff {e : Failure}
    (h : JobEnds dep column o (processCheckout payload) w w' (.error e)) :
    Gone payload.orderId w'.db ↔ Gone payload.orderId w.db ∨
      o.snapshots = .ok ∧ o.lookup = .ok ∧
        (w.db.orders.find payload.orderId).isSome = true := by
  have hsame : Gone payload.orderId (w.snapshotted payload).db ↔ Gone payload.orderId w.db :=
    ⟨fun ⟨h₁, h₂, h₃⟩ => ⟨h₁, h₂, h₃⟩, fun ⟨h₁, h₂, h₃⟩ => ⟨h₁, h₂, h₃⟩⟩
  have hwritten : execJob dep column (.createSnapshots (payload.variants.map snapshotOf)) w =
      .ok (w.snapshotted payload, ()) := rfl
  rcases (ends_bind_await_of_ok hwritten).mp h with
    ⟨hsnapshots, h⟩ | ⟨ho, rfl, -⟩ | ⟨ho, rfl, -⟩
  · have hok : o.snapshots = .ok := hsnapshots
    have hfound : execJob dep column (.findAllByContentHashes
        ((payload.variants.map snapshotOf).map (·.contentHash))) (w.snapshotted payload) =
        .ok (w.snapshotted payload, (w.snapshotted payload).foundSnapshots payload) := rfl
    rcases (ends_bind_await_of_ok hfound).mp h with
      ⟨hlookup, h⟩ | ⟨ho, rfl, -⟩ | ⟨ho, rfl, -⟩
    · have hlok : o.lookup = .ok := hlookup
      simp only [hok, hlok, true_and]
      rcases ends_bind.mp h with ⟨v, a, -, he⟩ | ⟨e', htry, -⟩
      · cases he.2
      · rcases ends_tryCatch.mp htry with ⟨a, -, he⟩ | ⟨v, e'', htry, hcatch⟩
        · cases he
        · have hframe : OrderFrame payload.orderId (w.snapshotted payload) v := try_frame htry
          exact gone_deleteAndThrow ⟨hframe.orders, hframe.items, hframe.address⟩ hcatch
    · have hfail : o.lookup = .fail := ho
      simp [hfail, hsame]
    · have hlost : o.lookup = .lost := ho
      simp [hlost, hsame]
  · have hfail : o.snapshots = .fail := ho
    simp [hfail]
  · have hlost : o.snapshots = .lost := ho
    simp [hlost, hsame]

variable (dep column) in
/-- A job that is not done fails. -/
theorem exists_failed (h : ¬ JobDone o payload w) :
    ∃ w' e, JobEnds dep column o (processCheckout payload) w w' (.error e) := by
  obtain ⟨w', x, hends⟩ : ∃ w' x, JobEnds dep column o (processCheckout payload) w w' x :=
    exists_ends determined_processCheckout.live w
  cases x with
  | ok a =>
      exact absurd ((job_done_iff dep column).mp ⟨w', a, hends⟩) h
  | error e =>
      exact ⟨w', e, hends⟩

/--
**A failed job leaves no trace.** That is so exactly if the job does not fail, or its order
has gone and nothing was withheld for it.
-/
theorem job_leavesNoTrace_iff :
    LeavesNoTrace dep column o payload booked w ↔
      JobDone o payload w ∨
        (Gone payload.orderId w.db ∨ o.snapshots = .ok ∧ o.lookup = .ok ∧
          (w.db.orders.find payload.orderId).isSome = true) ∧
        ∀ v, payload.withheld booked v = 0 := by
  constructor
  · intro h
    refine or_iff_not_imp_left.mpr fun hnot => ?_
    obtain ⟨w', e, hends⟩ := exists_failed dep column hnot
    have htrace := h w' e hends
    have hframe := job_frame hends
    refine ⟨(gone_iff hends).mp htrace.gone, fun v => ?_⟩
    cases herror : payload.isError with
    | false =>
        have hlevel := htrace.redis herror v
        rw [World.level, hframe.redis, ← World.level] at hlevel
        exact left_eq_add.mp hlevel
    | true =>
        have hreserved := htrace.reserved herror v
        rw [Database.reserved, hframe.variants herror, ← Database.reserved] at hreserved
        exact sub_eq_self.mp hreserved.symm
  · intro hcond w' e hends
    have hnot : ¬ JobDone o payload w := by
      intro hdone
      obtain ⟨v, a, hok⟩ := (job_done_iff dep column).mpr hdone
      cases (determined_processCheckout.unique hends hok).2
    obtain ⟨hgone, hzero⟩ := hcond.resolve_left hnot
    have hframe := job_frame hends
    refine ⟨(gone_iff hends).mpr hgone, fun _ v => ?_, fun herror v => ?_⟩
    · rw [World.level, hframe.redis, hzero v, add_zero, World.level]
    · rw [Database.reserved, hframe.variants herror, hzero v, sub_zero, Database.reserved]

end Failed

/-! ### What the checkout of a job has withheld -/

section Withheld

variable {dep : Deployment} {column : IntColumn} {o : Outcomes} {w w' : World}
variable {body : CreateCheckOutDTO} {guestSessionId : Option String} {userId : Option Nat}
variable {items : List CheckoutItemDto} {k : Nat}

/-- With an item of its own for each variant, the map has what the items come to. -/
theorem amountAt_eq_mapGet
    (hids : ∀ i, i ∈ items → ∃ n : Nat, i.bookVariantId = n)
    (hquantities : ∀ i, i ∈ items → Whole i.quantity)
    (hkeys : (items.map CheckoutItemDto.key).Nodup) :
    (amountAt items k : ℚ) = (mapGet (mapVariantIds items) k).getD 0 := by
  rcases mapGet_mapVariantIds_cases items k with ⟨hnone, hnot⟩ | ⟨i, hi, hid, hget⟩
  · have hother : amountAt items k = 0 := by
      refine amountAt_of_not_mem fun i hi hkey => hnot ?_
      obtain ⟨n, hn⟩ := hids i hi
      have hid : i.bookVariantId = (k : ℚ) := by
        rw [← hkey, CheckoutItemDto.key, hn, Nat.floor_natCast]
      exact hid ▸ List.mem_map_of_mem (f := fun i : CheckoutItemDto => i.bookVariantId) hi
    rw [hother, hnone, Int.cast_zero, Option.getD_none]
  · have hkey : i.key = k := by
      rw [CheckoutItemDto.key, hid, Nat.floor_natCast]
    rw [hget, Option.getD_some, ← hkey, amountAt_of_mem hkeys hi]
    exact (Rat.den_eq_one_iff _).mp (hquantities i hi)

/--
A job that relies on Redis carries what its checkout has taken of the counters, so that
`withheld` says what it says.
-/
theorem level_of_withheld
    {job : CheckoutJobPayload} {x : Except Failure Answer} {booked : Nat → Int}
    (h : CheckoutEnds dep column o (createCheckout dep body guestSessionId userId) w w' x)
    (hqueue : w'.queue = w.queue ++ [job])
    (herror : job.isError = false) :
    (w'.level k : ℚ) =
      (w.seeded o (w.found body.items)).level k - job.withheld booked k := by
  have hsent : w'.queue ≠ w.queue := by
    rw [hqueue]
    exact fun h => List.cons_ne_nil job [] (List.self_eq_append_right.mp h.symm)
  obtain ⟨-, rfl⟩ | ⟨hreached, v, y, hreserved, hrest⟩ := ends_createCheckout h
  · exact absurd rfl hsent
  obtain ⟨isError, rfl, hplaced⟩ := hrest.resolve_left fun hthrown => by
    obtain ⟨e, -, rfl⟩ := hthrown
    exact hsent hreserved.queue
  obtain ⟨-, job', hjob, herror', hmap⟩ := hplaced.queue.resolve_right fun hnot =>
    hsent (hnot.2.trans hreserved.queue)
  rw [hqueue, hreserved.queue] at hjob
  obtain rfl : job = job' := by simpa using hjob
  have hheld : Held o body.items (w.seeded o (w.found body.items)) := by
    rcases hreserved.answer with ⟨hheld, -⟩ | ⟨-, -, he, -⟩ | ⟨-, -, e, he⟩
    · exact hheld
    · cases (Except.ok.inj he).symm.trans (herror'.symm.trans herror)
    · cases he
  have hids : ∀ i, i ∈ body.items → ∃ n : Nat, i.bookVariantId = n := by
    intro i hi
    have hmem := (perm_of_found hreached.found).mem_iff.mpr
      (List.mem_map_of_mem (f := fun i : CheckoutItemDto => i.bookVariantId) hi)
    obtain ⟨v, -, hid⟩ := List.mem_map.mp hmem
    exact ⟨v.id, hid.symm⟩
  have hlevel : w'.level k = v.level k := by rw [World.level, hplaced.redis, World.level]
  rw [hlevel, hreserved.level, leftTaken_of_held hheld, Int.cast_sub,
    amountAt_eq_mapGet hids hheld.whole (nodup_of_found hreached.found), ← hmap]
  simp [CheckoutJobPayload.withheld, herror]

end Withheld

/-! ### A sample -/

/-- The items of the job are refused. -/
def itemsRefused : JobOutcomes where
  snapshots := .ok
  lookup := .ok
  items := .fail
  address := .ok
  book := .ok

/-- The order row of a guest who asks for one copy of each variant. -/
def shelfOrder : OrderCreateInput :=
  orderCreateInput (sampleBody 1 1) (some "guest") none
    ((sampleShelf 3).found (sampleBody 1 1).items)

/-- The order has been placed, and its copies are taken of the counters. -/
def orderedShelf : World :=
  { (sampleShelf 3).ordered sampleDeployment shelfOrder with
    redis := fun v => if v = 1 ∨ v = 2 then some 2 else none }

/-- The job of that order. -/
def shelfJob : CheckoutJobPayload :=
  checkoutJobPayload (sampleBody 1 1) (some "guest") none none
    ((sampleShelf 3).found (sampleBody 1 1).items) false
    (newOrder sampleDeployment shelfOrder 0 (sampleShelf 3).db.orders.next)

/-- The items are refused: the order is deleted and the counters stay lowered. -/
theorem counters_stay_lowered :
    ¬ ∀ (dep : Deployment) (column : IntColumn) (o : JobOutcomes)
      (payload : CheckoutJobPayload) (booked : Nat → Int) (w : World),
      LeavesNoTrace dep column o payload booked w := by
  intro h
  have hnot : ¬ JobDone itemsRefused shelfJob orderedShelf := fun hdone => by
    cases hdone.items.answered
  obtain ⟨w', e, hends⟩ := exists_failed sampleDeployment sampleColumn hnot
  have hlevel := (h sampleDeployment sampleColumn itemsRefused shelfJob (fun _ => 0)
    orderedShelf w' e hends).redis rfl 1
  rw [World.level, (job_frame hends).redis, ← World.level] at hlevel
  have hzero : shelfJob.withheld (fun _ => 0) 1 = 0 := left_eq_add.mp hlevel
  revert hzero
  decide +kernel

end Numbers
end BookStore
