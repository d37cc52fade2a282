import BookStore.Catalog.Tables
import BookStore.Checkout.Restoration
import Mathlib.Algebra.Order.BigOperators.Group.List

/-!
# Which carts a checkout admits

* `orderCreated_iff`: when a checkout creates an order, however its statements end.
* `sellable_iff`: when an order is for goods that the storefront shows.  Nothing looks at
  the sign of a quantity, at a fraction or at what the storefront shows.
* `admission_iff`: when the Redis path and the database path admit what is in stock.  An
  item that Redis finds short is judged again by whether anything of it is in stock.
-/

namespace BookStore
namespace Numbers

open Async Program

/-- A checkout has created an order. -/
def OrderCreated (w w' : World) : Prop :=
  ∃ order, order ∈ w'.db.orders.rows ∧ order ∉ w.db.orders.rows

/-- The items are taken in one of the two stores, and the order row is inserted. -/
structure Admitted (o : Outcomes) (body : CreateCheckOutDTO) (guestSessionId : Option String)
    (userId : Option Nat) (w : World) : Prop where
  reached : Reached o body guestSessionId userId w
  reserved : Held o body.items (w.seeded o (w.found body.items)) ∨
    Booked o body.items (w.found body.items)
  order : o.order ≠ .fail

/-- `stock - reserved` of a variant -/
def World.availability (w : World) (k : Nat) : Int :=
  w.db.stock k - w.db.reserved k

section Admission

variable {dep : Deployment} {column : IntColumn} {o : Outcomes} {w w' : World}
variable {body : CreateCheckOutDTO} {guestSessionId : Option String} {userId : Option Nat}
variable {items : List CheckoutItemDto}

/-- What an admitted checkout has done. -/
structure AdmittedEnd (dep : Deployment) (column : IntColumn) (o : Outcomes)
    (body : CreateCheckOutDTO) (guestSessionId : Option String) (userId : Option Nat)
    (w w' : World) : Prop where
  order : ∀ order, order ∈ w'.db.orders.rows → order ∉ w.db.orders.rows →
    order = newOrder dep (orderCreateInput body guestSessionId userId (w.found body.items))
      w.now w.db.orders.next
  level : ∀ k, w'.level k = (w.seeded o (w.found body.items)).level k -
    amountAt (leftTaken o body.items (w.seeded o (w.found body.items))) k
  present : ∀ k, ((w.seeded o (w.found body.items)).redis k).isSome = true →
    (w'.redis k).isSome = true
  variants :
    Held o body.items (w.seeded o (w.found body.items)) ∧ w'.db.variants = w.db.variants ∨
    ¬ Held o body.items (w.seeded o (w.found body.items)) ∧
      w'.db.variants = updateReservedByIds column body.items w.db.variants

/-- An order is created exactly if the checkout is admitted. -/
theorem orderCreated_iff {x : Except Failure Answer}
    (h : CheckoutEnds dep column o (createCheckout dep body guestSessionId userId) w w' x) :
    (OrderCreated w w' ↔ Admitted o body guestSessionId userId w) ∧
      (Admitted o body guestSessionId userId w →
        AdmittedEnd dep column o body guestSessionId userId w w') := by
  have hnone : w'.db.orders = w.db.orders → ¬ OrderCreated w w' := by
    rintro hsame ⟨order, hnew, hold⟩
    exact hold (hsame ▸ hnew)
  obtain ⟨hnot, rfl⟩ | ⟨hreached, v, y, hreserved, hrest⟩ := ends_createCheckout h
  · have hrefused : ¬ Admitted o body guestSessionId userId w' := fun h => hnot h.reached
    exact ⟨iff_of_false (hnone rfl) hrefused, fun h => absurd h hrefused⟩
  rcases hrest with ⟨e, rfl, rfl⟩ | ⟨isError, rfl, hplaced⟩
  · have hrefused : ¬ Admitted o body guestSessionId userId w := by
      rintro ⟨-, hheld | hbooked, -⟩
      · rcases hreserved.answer with ⟨-, he, -⟩ | ⟨hnot, -⟩ | ⟨hnot, -⟩
        · cases he
        · exact hnot hheld
        · exact hnot hheld
      · rcases hreserved.answer with ⟨-, he, -⟩ | ⟨-, -, he, -⟩ | ⟨-, hnot, -⟩
        · cases he
        · cases he
        · exact hnot hbooked
    exact ⟨iff_of_false (hnone hreserved.orders) hrefused, fun h => absurd h hrefused⟩
  · have hvariants :
        (Held o body.items (w.seeded o (w.found body.items)) ∧
          w'.db.variants = w.db.variants) ∨
        ¬ Held o body.items (w.seeded o (w.found body.items)) ∧
          Booked o body.items (w.found body.items) ∧
          w'.db.variants = updateReservedByIds column body.items w.db.variants := by
      rw [hplaced.variants]
      rcases hreserved.answer with ⟨hheld, -, hv⟩ | ⟨hnot, hbooked, -, hv⟩ | ⟨-, -, e, he⟩
      · exact .inl ⟨hheld, hv⟩
      · exact .inr ⟨hnot, hbooked, hv⟩
      · cases he
    rcases hplaced.orders with ⟨hfail, horders⟩ | ⟨hdone, horders⟩
    · have hrefused : ¬ Admitted o body guestSessionId userId w := fun h => h.order hfail
      exact ⟨iff_of_false (hnone (horders.trans hreserved.orders)) hrefused,
        fun h => absurd h hrefused⟩
    · rw [hreserved.orders, hreserved.now] at horders
      have hadmitted : Admitted o body guestSessionId userId w :=
        ⟨hreached, hvariants.imp And.left fun h => h.2.1, hdone⟩
      let data := orderCreateInput body guestSessionId userId (w.found body.items)
      refine ⟨iff_of_true ⟨newOrder dep data w.now w.db.orders.next, ?_, ?_⟩ hadmitted,
        fun _ => ⟨?_, ?_, ?_, ?_⟩⟩
      · rw [horders]
        exact List.mem_append_right _ (List.mem_singleton.mpr rfl)
      · intro hmem
        have hlt := w.db.orders.below _ hmem
        rw [key_newOrder] at hlt
        exact lt_irrefl _ hlt
      · intro order hnew hold
        rw [horders] at hnew
        exact List.mem_singleton.mp ((List.mem_append.mp hnew).resolve_left hold)
      · intro k
        rw [World.level, hplaced.redis]
        exact hreserved.level k
      · intro k hk
        rw [hplaced.redis]
        exact hreserved.present k hk
      · exact hvariants.imp_right fun h => ⟨h.1, h.2.2⟩

end Admission

/-! ### What is on sale -/

/-- Active, with a price, of a book that is active and not deleted. -/
def Shown (books : List Book) (v : BookVariant) : Prop :=
  v.isActive = true ∧ (∃ price, v.price = some price ∧ 0 < price) ∧
    ∃ b, b ∈ books ∧ b.id = v.bookId ∧ b.isActive = true ∧ b.deletedAt = none

/-- The storefront lists it: it is a variant on sale of a visible book. -/
theorem shown_iff {catalog : CatalogDb} {v : CatalogVariant} (hv : v ∈ catalog.variants) :
    Shown catalog.books v.toBookVariant ↔
      ∃ b, b ∈ catalog.books ∧ catalog.visible b = true ∧ v ∈ catalog.activeVariants b := by
  have hactive : ∀ b : Book, v ∈ catalog.activeVariants b ↔
      v.bookId = b.id ∧ v.isActive = true ∧ ∃ price, v.price = some price ∧ 0 < price := by
    intro b
    simp [CatalogDb.activeVariants, hv, and_assoc, Option.any_eq_true]
  constructor
  · rintro ⟨hv, hprice, b, hb, hid, hbook, hkept⟩
    have hmem := (hactive b).mpr ⟨hid.symm, hv, hprice⟩
    refine ⟨b, hb, ?_, hmem⟩
    have hne : catalog.activeVariants b ≠ [] := List.ne_nil_of_mem hmem
    simp [CatalogDb.visible, hbook, hkept, hne]
  · rintro ⟨b, hb, hvisible, hmem⟩
    obtain ⟨hid, hv, hprice⟩ := (hactive b).mp hmem
    simp only [CatalogDb.visible, Bool.and_eq_true, Option.isNone_iff_eq_none] at hvisible
    exact ⟨hv, hprice, b, hb, hid.symm, hvisible.1.1, hvisible.1.2⟩

/-- The items are for goods on sale, in positive whole quantities. -/
structure Sellable (books : List Book) (items : List CheckoutItemDto) (w : World) : Prop where
  nonempty : items ≠ []
  quantities : ∀ i, i ∈ items → Whole i.quantity ∧ 0 < i.quantity
  shown : ∀ v, v ∈ w.found items → Shown books v

/-- What an order must satisfy: goods on sale, a positive subtotal, no counter increased. -/
structure SaleInOrder (books : List Book) (items : List CheckoutItemDto) (order : Order)
    (w w' : World) : Prop where
  nonempty : items ≠ []
  quantities : ∀ i, i ∈ items → Whole i.quantity ∧ 0 < i.quantity
  shown : ∀ i, i ∈ items → ∃ v, v ∈ w.db.variants.rows ∧ (v.id : ℚ) = i.bookVariantId ∧
    Shown books v
  total : ∃ total, order.totalAmount = some total ∧ shippingFee < total
  redis : ∀ k x, w.redis k = some x → ∃ y, w'.redis k = some y ∧ y ≤ x
  availability : ∀ k, w'.availability k ≤ w.availability k

/-- Every order that the checkout creates is a sale in order. -/
def SellsInOrder (dep : Deployment) (column : IntColumn) (o : Outcomes) (books : List Book)
    (body : CreateCheckOutDTO) (guestSessionId : Option String) (userId : Option Nat)
    (w : World) : Prop :=
  ∀ w' x, CheckoutEnds dep column o (createCheckout dep body guestSessionId userId) w w' x →
    ∀ order, order ∈ w'.db.orders.rows → order ∉ w.db.orders.rows →
      SaleInOrder books body.items order w w'

section Sale

variable {dep : Deployment} {column : IntColumn} {o : Outcomes} {w w' : World}
variable {body : CreateCheckOutDTO} {guestSessionId : Option String} {userId : Option Nat}
variable {items : List CheckoutItemDto} {books : List Book}

/-- With goods on sale the subtotal is positive. -/
theorem subtotal_pos
    (hfound : (w.found items).length = items.length)
    (h : Sellable books items w) :
    0 < subtotalOf (w.found items) (mapVariantIds items) := by
  have hterm : ∀ v, v ∈ w.found items →
      0 < v.price.getD 0 * (mapGet (mapVariantIds items) v.id).getD 0 := by
    intro v hv
    obtain ⟨-, ⟨price, hprice, hpos⟩, -⟩ := h.shown v hv
    obtain ⟨i, hi, -, hget⟩ := mapGet_mapVariantIds (id_of_found hv)
    rw [hprice, hget]
    exact mul_pos hpos (h.quantities i hi).2
  have hne : w.found items ≠ [] := fun hnil =>
    h.nonempty (List.length_eq_zero_iff.mp (hfound.symm.trans (by rw [hnil]; rfl)))
  refine List.sum_pos _ (fun x hx => ?_) (by simpa using hne)
  obtain ⟨v, hv, rfl⟩ := List.mem_map.mp hx
  exact hterm v hv

theorem granted_eq_intCast
    (h : ∀ i, i ∈ items → Whole i.quantity ∧ 0 < i.quantity) (r : BookVariant) :
    ∃ n : Int, granted items r = n ∧ 0 ≤ n := by
  unfold granted
  cases hfind : items.find? fun p => decide (p.bookVariantId = (r.id : ℚ)) with
  | none =>
      exact ⟨0, by simp⟩
  | some i =>
      obtain ⟨hwhole, hpos⟩ := h i (List.mem_of_find?_eq_some hfind)
      have hcast : (i.quantity.num : ℚ) = i.quantity := (Rat.den_eq_one_iff _).mp hwhole
      dsimp only
      split_ifs
      · exact ⟨i.quantity.num, hcast.symm, (Rat.num_pos.mpr hpos).le⟩
      · exact ⟨0, by simp⟩

/-- What the database books never makes more available. -/
theorem availability_updateReservedByIds
    (h : ∀ i, i ∈ items → Whole i.quantity ∧ 0 < i.quantity)
    (hvariants : w'.db.variants = updateReservedByIds column items w.db.variants) (k : Nat) :
    w'.availability k ≤ w.availability k := by
  have hfind : w'.db.variants.find k = (w.db.variants.find k).map fun r =>
      if (items.any fun p => decide (p.bookVariantId = (r.id : ℚ))) = true then
        { r with reserved := column.store (r.reserved + granted items r) } else r := by
    rw [hvariants]
    exact Table.find_updateWhere _ _ _ _ k
  unfold World.availability Database.stock Database.reserved
  rw [hfind]
  cases w.db.variants.find k with
  | none =>
      exact le_refl _
  | some r =>
      simp only [Option.map_some, Option.getD_some]
      split_ifs
      · obtain ⟨n, hn, hnonneg⟩ := granted_eq_intCast h r
        rw [hn, ← Int.cast_add, column.store_intCast]
        dsimp only
        omega
      · exact le_refl _

theorem amountAt_nonneg (k : Nat) (h : ∀ i, i ∈ items → 0 ≤ i.quantity.num) :
    0 ≤ amountAt items k := by
  refine List.sum_nonneg fun x hx => ?_
  obtain ⟨i, hi, rfl⟩ := List.mem_map.mp hx
  split_ifs
  · exact h i hi
  · exact le_refl 0

/--
**Only sellable goods.** Every order that a checkout creates is for goods on sale in positive
whole quantities, for more than the shipping fee and without increasing a counter, exactly
if the cart is sellable or not admitted.
-/
theorem sellable_iff :
    SellsInOrder dep column o books body guestSessionId userId w ↔
      (Admitted o body guestSessionId userId w → Sellable books body.items w) := by
  constructor
  · intro h hadmitted
    obtain ⟨w', x, hends⟩ := exists_createCheckout dep column o w body guestSessionId userId
    obtain ⟨order, hnew, hold⟩ := (orderCreated_iff hends).1.mpr hadmitted
    have hsale := h w' x hends order hnew hold
    refine ⟨hsale.nonempty, hsale.quantities, fun v hv => ?_⟩
    obtain ⟨i, hi, heq⟩ := List.mem_map.mp (id_of_found hv)
    obtain ⟨r, hr, hrid, hshown⟩ := hsale.shown i hi
    have hkey : r.id = v.id := by
      rw [heq] at hrid
      exact_mod_cast hrid
    have hsame : r = v := List.inj_on_of_nodup_map w.db.variants.nodup hr
      (List.mem_of_mem_filter hv) hkey
    exact hsame ▸ hshown
  · intro hcond w' x hends order hnew hold
    obtain ⟨hiff, hdone⟩ := orderCreated_iff hends
    have hadmitted := hiff.mp ⟨order, hnew, hold⟩
    have hsellable := hcond hadmitted
    have hend := hdone hadmitted
    have hfound := hadmitted.reached.found
    constructor
    case nonempty => exact hsellable.nonempty
    case quantities => exact hsellable.quantities
    case shown =>
      intro i hi
      have hmem := (perm_of_found hfound).mem_iff.mpr
        (List.mem_map_of_mem (f := fun i : CheckoutItemDto => i.bookVariantId) hi)
      obtain ⟨v, hv, hid⟩ := List.mem_map.mp hmem
      exact ⟨v, List.mem_of_mem_filter hv, hid, hsellable.shown v hv⟩
    case total =>
      rw [hend.order order hnew hold]
      refine ⟨_, rfl, ?_⟩
      have hpos := subtotal_pos hfound hsellable
      exact lt_add_of_pos_left shippingFee hpos
    case redis =>
      intro k x hk
      obtain ⟨y, hy⟩ := Option.isSome_iff_exists.mp (hend.present k
        (isSome_seeded (by rw [hk]; rfl)))
      refine ⟨y, hy, ?_⟩
      have hlevel := hend.level k
      have hleft : 0 ≤ amountAt (leftTaken o body.items (w.seeded o (w.found body.items))) k :=
        amountAt_nonneg k fun i hi =>
          (Rat.num_pos.mpr (hsellable.quantities i (leftTaken_sublist.mem hi)).2).le
      rw [World.level, World.level, hy, redis_seeded, hk, Option.some_or] at hlevel
      simp only [Option.getD_some] at hlevel
      exact hlevel ▸ sub_le_self x hleft
    case availability =>
      intro k
      rcases hend.variants with ⟨-, hsame⟩ | ⟨-, hbooked⟩
      · rw [World.availability, Database.stock, Database.reserved, hsame]
        exact le_refl _
      · exact availability_updateReservedByIds hsellable.quantities hbooked k

end Sale

/-! ### Both paths -/

/-- Redis carries out the commands and answers. -/
structure RedisUp (o : Outcomes) : Prop where
  seed : ∀ k, o.seed k = .ok
  script : o.script = .ok
  giveBack : o.giveBack = .ok

/-- No command is answered. -/
structure RedisDown (o : Outcomes) : Prop where
  seed : ∀ k, o.seed k ≠ .ok
  script : o.script ≠ .ok
  giveBack : o.giveBack ≠ .ok

/-- The statements that decide about the order do not fail. -/
structure DatabaseUp (o : Outcomes) : Prop where
  address : o.address = .ok
  variants : o.variants = .ok
  book : o.book = .ok
  order : o.order = .ok

/-- What the next checkout judges a variant by. -/
def World.judged (o : Outcomes) (w : World) (k : Nat) : Int :=
  if o.script = .ok then (w.redis k).getD (w.availability k) else w.availability k

/-- There is enough of every item. -/
def Covered (items : List CheckoutItemDto) (w : World) : Prop :=
  ∀ i, i ∈ items → i.quantity ≤ w.availability i.key

/-- The keys of the items are absent or in step with the database. -/
def InStep (items : List CheckoutItemDto) (w : World) : Prop :=
  ∀ i, i ∈ items → ∀ x, w.redis i.key = some x → x = w.availability i.key

/--
An order is created exactly if the items are covered, and then the next checkout finds that
much less of every item.
-/
def AdmissionExact (dep : Deployment) (column : IntColumn) (o : Outcomes)
    (body : CreateCheckOutDTO) (guestSessionId : Option String) (userId : Option Nat)
    (w : World) : Prop :=
  ∀ w' x, CheckoutEnds dep column o (createCheckout dep body guestSessionId userId) w w' x →
    (OrderCreated w w' ↔ Covered body.items w) ∧
      (OrderCreated w w' → ∀ i, i ∈ body.items →
        (w'.judged o i.key : ℚ) = w.judged o i.key - i.quantity)

section BothPaths

variable {dep : Deployment} {column : IntColumn} {o : Outcomes} {w w' : World}
variable {body : CreateCheckOutDTO} {guestSessionId : Option String} {userId : Option Nat}
variable {items : List CheckoutItemDto} {i : CheckoutItemDto}

theorem availability_of_mem {v : BookVariant} (hv : v ∈ w.db.variants.rows) :
    w.availability v.id = v.stock - v.reserved := by
  have hfind : w.db.variants.find v.id = some v := Table.find_of_mem hv
  rw [World.availability, Database.stock, Database.reserved, hfind]
  rfl

/-- The variant of an item. -/
theorem variant_of_item
    (hexist : ∃ v, v ∈ w.db.variants.rows ∧ (v.id : ℚ) = i.bookVariantId)
    (hi : i ∈ items) :
    ∃ v, v ∈ w.found items ∧ (v.id : ℚ) = i.bookVariantId ∧ v.id = i.key ∧
      w.availability i.key = v.stock - v.reserved := by
  obtain ⟨v, hv, hid⟩ := hexist
  have hkey : v.id = i.key := by
    rw [CheckoutItemDto.key, ← hid, Nat.floor_natCast]
  refine ⟨v, List.mem_filter.mpr ⟨hv, ?_⟩, hid, hkey, hkey ▸ availability_of_mem hv⟩
  rw [List.contains_iff_mem, hid]
  exact List.mem_map_of_mem (f := fun i : CheckoutItemDto => i.bookVariantId) hi

theorem found_length
    (hdistinct : (items.map (·.bookVariantId)).Nodup)
    (hexist : ∀ i, i ∈ items → ∃ v, v ∈ w.db.variants.rows ∧ (v.id : ℚ) = i.bookVariantId) :
    (w.found items).length = items.length := by
  have hsub : (items.map (·.bookVariantId)).Subperm
      ((w.found items).map fun v => (v.id : ℚ)) := by
    refine List.subperm_of_subset hdistinct fun k hk => ?_
    obtain ⟨i, hi, rfl⟩ := List.mem_map.mp hk
    obtain ⟨v, hv, hid, -⟩ := variant_of_item (hexist i hi) hi
    exact hid ▸ List.mem_map_of_mem (f := fun v : BookVariant => (v.id : ℚ)) hv
  have hle := hsub.length_le
  have hge : ((w.found items).map fun v => (v.id : ℚ)).length ≤
      (items.map (·.bookVariantId)).length := subperm_of_found.length_le
  simp only [List.length_map] at hle hge
  omega

theorem num_le_iff {n : Int} (h : Whole i.quantity) : i.quantity.num ≤ n ↔ i.quantity ≤ n := by
  have hcast : (i.quantity.num : ℚ) = i.quantity := (Rat.den_eq_one_iff _).mp h
  rw [← hcast, Int.cast_le, hcast]

/-- Under the key of an item Redis finds what is available. -/
theorem seeded_of_inStep
    (hup : RedisUp o)
    (hstep : InStep items w)
    (hexist : ∃ v, v ∈ w.db.variants.rows ∧ (v.id : ℚ) = i.bookVariantId)
    (hi : i ∈ items) :
    (w.seeded o (w.found items)).redis i.key = some (w.availability i.key) := by
  rw [redis_seeded, hup.seed, if_neg (by decide)]
  cases hkey : w.redis i.key with
  | some x =>
      rw [hstep i hi x hkey, Option.some_or]
  | none =>
      obtain ⟨v, hv, -, hid, havailable⟩ := variant_of_item hexist hi
      have hfind : (w.found items).find? (fun v => decide (v.id = i.key)) = some v := by
        cases hfind : (w.found items).find? (fun v => decide (v.id = i.key)) with
        | none =>
            have hnone := List.find?_eq_none.mp hfind v hv
            simp [hid] at hnone
        | some r =>
            have hr : r.id = i.key := by simpa using List.find?_some hfind
            have hsame := List.inj_on_of_nodup_map w.db.variants.nodup
              (List.mem_of_mem_filter (List.mem_of_find?_eq_some hfind))
              (List.mem_of_mem_filter hv) (hr.trans hid.symm)
            rw [hsame]
      rw [hfind, havailable]
      rfl

/-- The database books an item that is covered. -/
theorem availability_of_booked
    (hdistinct : (items.map (·.bookVariantId)).Nodup)
    (hexist : ∃ v, v ∈ w.db.variants.rows ∧ (v.id : ℚ) = i.bookVariantId)
    (hi : i ∈ items)
    (hwhole : Whole i.quantity)
    (hcovered : i.quantity ≤ w.availability i.key)
    (hbooked : w'.db.variants = updateReservedByIds column items w.db.variants) :
    w'.availability i.key = w.availability i.key - i.quantity.num := by
  obtain ⟨v, hv, hid, hkey, havailable⟩ := variant_of_item hexist hi
  have hany : (items.any fun p => decide (p.bookVariantId = (v.id : ℚ))) = true :=
    List.any_eq_true.mpr ⟨i, hi, decide_eq_true hid.symm⟩
  have hgranted : granted items v = i.quantity := by
    have hfind : items.find? (fun p => decide (p.bookVariantId = (v.id : ℚ))) = some i := by
      cases hfind : items.find? (fun p => decide (p.bookVariantId = (v.id : ℚ))) with
      | none =>
          have hnone := List.find?_eq_none.mp hfind i hi
          simp [hid] at hnone
      | some j =>
          have hj : j.bookVariantId = (v.id : ℚ) := by simpa using List.find?_some hfind
          rw [List.inj_on_of_nodup_map hdistinct (List.mem_of_find?_eq_some hfind) hi
            (hj.trans hid)]
    have hge : ((v.stock - v.reserved : Int) : ℚ) ≥ i.quantity := havailable ▸ hcovered
    rw [granted, hfind]
    exact if_pos hge
  have hcast : (i.quantity.num : ℚ) = i.quantity := (Rat.den_eq_one_iff _).mp hwhole
  have hfind : w'.db.variants.find v.id =
      some { v with reserved := v.reserved + i.quantity.num } := by
    have hrow : w.db.variants.find v.id = some v := Table.find_of_mem (List.mem_of_mem_filter hv)
    rw [hbooked]
    refine (Table.find_updateWhere _ _ _ _ _).trans ?_
    have hsum : (v.reserved : ℚ) + granted items v = (v.reserved + i.quantity.num : Int) := by
      rw [hgranted, Int.cast_add, hcast]
    rw [hrow, Option.map_some, if_pos hany, hsum, column.store_intCast]
  rw [havailable, World.availability, Database.stock, Database.reserved, ← hkey, hfind]
  simp only [Option.map_some, Option.getD_some]
  omega

theorem held_iff_covered
    (hexist : ∀ i, i ∈ items → ∃ v, v ∈ w.db.variants.rows ∧ (v.id : ℚ) = i.bookVariantId)
    (hpositive : ∀ i, i ∈ items → Whole i.quantity ∧ 0 < i.quantity)
    (hup : RedisUp o)
    (hstep : InStep items w) :
    Held o items (w.seeded o (w.found items)) ↔ Covered items w := by
  have hlevel : ∀ i, i ∈ items →
      (w.seeded o (w.found items)).level i.key = w.availability i.key := fun i hi => by
    rw [World.level, seeded_of_inStep hup hstep (hexist i hi) hi, Option.getD_some]
  constructor
  · intro hheld i hi
    rw [← num_le_iff (hpositive i hi).1, ← hlevel i hi]
    exact hheld.enough i hi
  · intro hcovered
    refine ⟨hup.script, fun i hi => (hpositive i hi).1, fun i hi => ?_⟩
    rw [hlevel i hi, num_le_iff (hpositive i hi).1]
    exact hcovered i hi

theorem booked_iff
    (hexist : ∀ i, i ∈ items → ∃ v, v ∈ w.db.variants.rows ∧ (v.id : ℚ) = i.bookVariantId)
    (hbook : o.book = .ok) :
    Booked o items (w.found items) ↔
      items ≠ [] ∧ ∀ i, i ∈ items → 0 < w.availability i.key := by
  constructor
  · rintro ⟨hstock, hne, -⟩
    refine ⟨hne, fun i hi => ?_⟩
    obtain ⟨v, hv, -, -, havailable⟩ := variant_of_item (hexist i hi) hi
    exact havailable ▸ hstock v hv
  · rintro ⟨hne, hstock⟩
    refine ⟨fun v hv => ?_, hne, hbook⟩
    obtain ⟨i, hi, hid⟩ := List.mem_map.mp (id_of_found hv)
    have hkey : i.key = v.id := by
      rw [CheckoutItemDto.key, hid, Nat.floor_natCast]
    rw [← availability_of_mem (List.mem_of_mem_filter hv), ← hkey]
    exact hstock i hi

theorem reached_iff_accepted
    (hdistinct : (body.items.map (·.bookVariantId)).Nodup)
    (hexist : ∀ i, i ∈ body.items →
      ∃ v, v ∈ w.db.variants.rows ∧ (v.id : ℚ) = i.bookVariantId)
    (hdatabase : DatabaseUp o) :
    Reached o body guestSessionId userId w ↔ Accepted o body guestSessionId userId w := by
  refine ⟨fun h => h.accepted, fun h => ⟨h, hdatabase.variants, fun i hi => ?_,
    found_length hdistinct hexist⟩⟩
  obtain ⟨v, -, hid⟩ := hexist i hi
  rw [← hid]
  exact Rat.den_natCast v.id

/-- When the checkout takes the items. -/
theorem admitted_iff
    (hdistinct : (body.items.map (·.bookVariantId)).Nodup)
    (hexist : ∀ i, i ∈ body.items →
      ∃ v, v ∈ w.db.variants.rows ∧ (v.id : ℚ) = i.bookVariantId)
    (hpositive : ∀ i, i ∈ body.items → Whole i.quantity ∧ 0 < i.quantity)
    (hdatabase : DatabaseUp o)
    (hredis : RedisUp o ∧ InStep body.items w ∨ RedisDown o) :
    Admitted o body guestSessionId userId w ↔
      Accepted o body guestSessionId userId w ∧
        (o.script = .ok ∧ Covered body.items w ∨
          body.items ≠ [] ∧ ∀ i, i ∈ body.items → 0 < w.availability i.key) := by
  have hheld : Held o body.items (w.seeded o (w.found body.items)) ↔
      o.script = .ok ∧ Covered body.items w := by
    rcases hredis with ⟨hup, hstep⟩ | hdown
    · exact (held_iff_covered hexist hpositive hup hstep).trans
        (and_iff_right hup.script).symm
    · exact iff_of_false (fun h => hdown.script h.script) fun h => hdown.script h.1
  rw [← reached_iff_accepted hdistinct hexist hdatabase, ← hheld,
    ← booked_iff hexist hdatabase.book]
  exact ⟨fun h => ⟨h.reached, h.reserved⟩,
    fun h => ⟨h.1, h.2, by rw [hdatabase.order]; decide⟩⟩

/--
**Admission on both paths.** For a cart of different variants in positive quantities, with
Redis in step or not answering, a checkout admits what is covered and withholds all of it
exactly if the cart is covered and not empty where Redis does not answer, or nothing is left
of one of its variants; and, where the shopper is refused, if the cart is not covered.
-/
theorem admission_iff
    (hdistinct : (body.items.map (·.bookVariantId)).Nodup)
    (hexist : ∀ i, i ∈ body.items →
      ∃ v, v ∈ w.db.variants.rows ∧ (v.id : ℚ) = i.bookVariantId)
    (hpositive : ∀ i, i ∈ body.items → Whole i.quantity ∧ 0 < i.quantity)
    (hdatabase : DatabaseUp o)
    (hredis : RedisUp o ∧ InStep body.items w ∨ RedisDown o) :
    AdmissionExact dep column o body guestSessionId userId w ↔
      Accepted o body guestSessionId userId w ∧
          (Covered body.items w ∧ (o.script = .ok ∨ body.items ≠ []) ∨
            ∃ i, i ∈ body.items ∧ w.availability i.key ≤ 0) ∨
        ¬ Accepted o body guestSessionId userId w ∧ ¬ Covered body.items w := by
  have hadmitted : Admitted o body guestSessionId userId w ↔ _ :=
    admitted_iff hdistinct hexist hpositive hdatabase hredis
  have hpos : Covered body.items w → ∀ i, i ∈ body.items → 0 < w.availability i.key := by
    intro hcovered i hi
    exact_mod_cast (hpositive i hi).2.trans_le (hcovered i hi)
  constructor
  · intro h
    obtain ⟨w', x, hends⟩ := exists_createCheckout dep column o w body guestSessionId userId
    have hiff := (orderCreated_iff hends).1.symm.trans (h w' x hends).1
    by_cases haccepted : Accepted o body guestSessionId userId w
    · refine .inl ⟨haccepted, ?_⟩
      by_cases hcovered : Covered body.items w
      · refine .inl ⟨hcovered, ?_⟩
        exact (hadmitted.mp (hiff.mpr hcovered)).2.imp And.left And.left
      · refine .inr ?_
        by_contra hnone
        push Not at hnone
        refine hcovered (hiff.mp (hadmitted.mpr ⟨haccepted, .inr ⟨?_, hnone⟩⟩))
        rintro hnil
        exact hcovered (by rw [Covered, hnil]; simp)
    · exact .inr ⟨haccepted, fun hcovered =>
        haccepted (hadmitted.mp (hiff.mpr hcovered)).1⟩
  · intro hcond w' x hends
    obtain ⟨hcreated, hdone⟩ := orderCreated_iff hends
    have hiff : Admitted o body guestSessionId userId w ↔ Covered body.items w := by
      rw [hadmitted]
      rcases hcond with ⟨haccepted, ⟨hcovered, hfilled⟩ | ⟨i, hi, hle⟩⟩ | ⟨hrefused, hnot⟩
      · refine iff_of_true ⟨haccepted, ?_⟩ hcovered
        exact hfilled.imp (fun hok => ⟨hok, hcovered⟩) fun hne => ⟨hne, hpos hcovered⟩
      · have hnot : ¬ Covered body.items w := fun hcovered =>
          absurd (hpos hcovered i hi) (not_lt.mpr hle)
        refine iff_of_false ?_ hnot
        rintro ⟨-, ⟨-, hcovered⟩ | ⟨-, hall⟩⟩
        · exact hnot hcovered
        · exact absurd (hall i hi) (not_lt.mpr hle)
      · exact iff_of_false (fun h => hrefused h.1) hnot
    refine ⟨hcreated.trans hiff, fun hcreate i hi => ?_⟩
    have hadm := hcreated.mp hcreate
    have hcovered := hiff.mp hadm
    have hend := hdone hadm
    obtain ⟨hwhole, -⟩ := hpositive i hi
    have hcast : (i.quantity.num : ℚ) = i.quantity := (Rat.den_eq_one_iff _).mp hwhole
    rw [← hcast, ← Int.cast_sub]
    refine congrArg Int.cast ?_
    rcases hend.variants with ⟨hheld, -⟩ | ⟨hnot, hbooked⟩
    · obtain ⟨hup, hstep⟩ := hredis.resolve_right fun hdown => hdown.script hheld.script
      have hseeded := seeded_of_inStep hup hstep (hexist i hi) hi
      obtain ⟨y, hy⟩ := Option.isSome_iff_exists.mp (hend.present i.key (by rw [hseeded]; rfl))
      have hlevel := hend.level i.key
      rw [leftTaken_of_held hheld, amountAt_of_mem (nodup_of_found hadm.reached.found) hi,
        World.level, World.level, hy, hseeded, Option.getD_some, Option.getD_some] at hlevel
      rw [World.judged, World.judged, if_pos hup.script, if_pos hup.script, hy,
        Option.getD_some, hlevel]
      cases hkey : w.redis i.key with
      | none =>
          rfl
      | some x =>
          rw [hstep i hi x hkey, Option.getD_some]
    · have hdown : RedisDown o := hredis.resolve_left fun hup =>
        hnot ((held_iff_covered hexist hpositive hup.1 hup.2).mpr hcovered)
      rw [World.judged, World.judged, if_neg hdown.script, if_neg hdown.script]
      exact availability_of_booked hdistinct (hexist i hi) hi hwhole (hcovered i hi) hbooked

end BothPaths

/-! ### Samples -/

theorem allOk_redisUp : RedisUp allOk :=
  ⟨fun _ => rfl, rfl, rfl⟩

theorem allOk_databaseUp : DatabaseUp allOk :=
  ⟨rfl, rfl, rfl, rfl⟩

theorem sampleShelf_inStep (stock : Int) (items : List CheckoutItemDto) :
    InStep items (sampleShelf stock) := by
  intro i _ x hx
  cases hx

/-- What is covered is admitted. -/
theorem admission_exact_covered :
    AdmissionExact sampleDeployment sampleColumn allOk (sampleBody 1 2) (some "guest") none
      (sampleShelf 3) :=
  (admission_iff (by decide +kernel) (by decide +kernel) (by decide +kernel) allOk_databaseUp
    (.inl ⟨allOk_redisUp, sampleShelf_inStep 3 _⟩)).mpr
    (.inl ⟨⟨by decide, by decide⟩, .inl ⟨by unfold Covered; decide +kernel, .inl rfl⟩⟩)

/-- Of 3 copies 5 are sold, none of which is withheld. -/
theorem short_item_admitted :
    ¬ ∀ (dep : Deployment) (column : IntColumn) (o : Outcomes) (body : CreateCheckOutDTO)
      (guestSessionId : Option String) (userId : Option Nat) (w : World),
      (body.items.map (·.bookVariantId)).Nodup →
      (∀ i, i ∈ body.items → ∃ v, v ∈ w.db.variants.rows ∧ (v.id : ℚ) = i.bookVariantId) →
      (∀ i, i ∈ body.items → Whole i.quantity ∧ 0 < i.quantity) →
      DatabaseUp o → RedisUp o ∧ InStep body.items w ∨ RedisDown o →
      AdmissionExact dep column o body guestSessionId userId w := by
  intro h
  have hadmitted : Admitted allOk (sampleBody 1 5) (some "guest") none (sampleShelf 3) := by
    refine ⟨⟨⟨by decide, by decide⟩, rfl, ?_, ?_⟩, .inr ⟨?_, ?_, rfl⟩, by decide⟩
    · decide +kernel
    · decide +kernel
    · decide +kernel
    · decide
  obtain ⟨w', x, hends⟩ := exists_createCheckout sampleDeployment sampleColumn allOk
    (sampleShelf 3) (sampleBody 1 5) (some "guest") none
  have hexact := h sampleDeployment sampleColumn allOk (sampleBody 1 5) (some "guest") none
    (sampleShelf 3) (by decide +kernel) (by decide +kernel) (by decide +kernel)
    allOk_databaseUp (.inl ⟨allOk_redisUp, sampleShelf_inStep 3 _⟩) w' x hends
  have hcovered := hexact.1.mp ((orderCreated_iff hends).1.mpr hadmitted)
    ⟨2, 5⟩ (by decide +kernel)
  revert hcovered
  decide +kernel

/-- Half a copy is sold: the script stops there, and the database path takes it. -/
theorem half_a_copy_sold :
    ¬ ∀ (dep : Deployment) (column : IntColumn) (o : Outcomes) (books : List Book)
      (body : CreateCheckOutDTO) (guestSessionId : Option String) (userId : Option Nat)
      (w : World), SellsInOrder dep column o books body guestSessionId userId w := by
  intro h
  have hadmitted : Admitted allOk (sampleBody (1 / 2) 1) (some "guest") none (sampleShelf 3) := by
    refine ⟨⟨⟨by decide, by decide⟩, rfl, ?_, ?_⟩, .inr ⟨?_, ?_, rfl⟩, by decide⟩
    · decide +kernel
    · decide +kernel
    · decide +kernel
    · decide
  obtain ⟨w', x, hends⟩ := exists_createCheckout sampleDeployment sampleColumn allOk
    (sampleShelf 3) (sampleBody (1 / 2) 1) (some "guest") none
  obtain ⟨order, hnew, hold⟩ := (orderCreated_iff hends).1.mpr hadmitted
  have hsale := h sampleDeployment sampleColumn allOk [] (sampleBody (1 / 2) 1) (some "guest")
    none (sampleShelf 3) w' x hends order hnew hold
  have hwhole := (hsale.quantities ⟨1, 1 / 2⟩ (by decide +kernel)).1
  revert hwhole
  decide +kernel

end Numbers
end BookStore
