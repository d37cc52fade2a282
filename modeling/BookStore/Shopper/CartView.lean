import BookStore.Async.Sequential
import BookStore.Catalog.Listing
import BookStore.Shopper.CartService
import BookStore.Traversals

/-!
# The view of a cart

`getCartUser` and `getCartGuest` read a cart with its items, each with the translations of
its book in the language asked for, and group the items by the day on which they were
added.  A `FaithfulView` of the cart has every item once, in the group of its day.

The title and the slug are read from `translations[0]`, so an item without a translation
ends the call: the view is faithful exactly for the carts all of whose items are
translated.
-/

namespace BookStore

open Async Program

/-! ### What a faithful view is -/

/-- The first translation of the book in the language: the title and the slug. -/
def CartItemRow.translation (row : CartItemRow) : Option (String × Option String) :=
  row.variant.bind fun v => v.book.bind fun b => b.translations.head?

/-- The day of `addedAt` -/
def CartItemRow.day (row : CartItemRow) : Nat :=
  row.item.addedAt / (24 * 60 * 60 * 1000)

/-- What is shown of an item; a translation can be without a slug. -/
structure Shows (row : CartItemRow) (item : CartItemDto) : Prop where
  id : item.id = row.item.id
  bookVariantId : item.bookVariantId = row.item.bookVariantId
  quantity : item.quantity = row.item.quantity
  addedAt : item.addedAt = row.item.addedAt
  translated : ∀ t, row.translation = some t → item.title = some t.1 ∧ item.slug = t.2
  untranslated : item.title = none ∧ item.slug = none ↔ row.translation = none

structure FaithfulView (cart : CartWithItems) (response : CartResponseDto) : Prop where
  id : response.id = cart.cart.id
  once : ((response.groups.flatMap CartDayGroupDto.items).map CartItemDto.id).Perm
    (cart.items.map fun row => row.item.id)
  grouped : ∀ row, row ∈ cart.items → ∃ g, g ∈ response.groups ∧ g.date = row.day
  inOrder : ∀ g, g ∈ response.groups → List.Forall₂ Shows
    (cart.items.filter fun row => decide (row.day = g.date)) g.items
  latestFirst : response.groups.Pairwise fun g g' => g'.date < g.date

section Calls

variable (who : Requester) (s : Shopper) (langId : Nat) (w : CartWorld)

/-- The cart that a call reads: the newest one of the shopper, or a new one. -/
inductive CartRead : CartWithItems → Prop
  | found {c : Cart} (h : w.db.newestCart s = some c) : CartRead (w.db.cartWithItems langId c)
  | created {v : CartWorld} {cart : CartWithItems} (hnone : w.db.newestCart s = none)
      (h : cartExec ⟨who, .createCart s langId⟩ w = .ok (v, cart)) : CartRead cart

/-- The call returns, and what it returns is a faithful view. -/
def FaithfullyShown (cart : CartWithItems) : Prop :=
  ∃ w' response, FaithfulView cart response ∧ ∀ v x,
    (getCartOf who s langId).Yields cartExec .database w v x ↔
      v = w' ∧ x = .ok (.cart response)

end Calls

/-! ### The rows and the groups -/

theorem shows_toCartItemDto {row : CartItemRow} {item : CartItemDto}
    (h : toCartItemDto row = some item) : Shows row item := by
  simp only [toCartItemDto, Option.bind_eq_some_iff, Option.map_eq_some_iff] at h
  obtain ⟨v, hv, b, hb, t, ht, rfl⟩ := h
  have hrow : row.translation = some t := by
    simp only [CartItemRow.translation, hv, hb, ht, Option.bind_some]
  refine ⟨rfl, rfl, rfl, rfl, fun t' ht' => ?_, ?_⟩
  · obtain rfl := Option.some.inj (hrow.symm.trans ht')
    exact ⟨rfl, rfl⟩
  · rw [hrow]
    simp

theorem isSome_toCartItemDto (row : CartItemRow) :
    (toCartItemDto row).isSome = row.translation.isSome := by
  cases hv : row.variant with
  | none =>
      simp [toCartItemDto, CartItemRow.translation, hv]
  | some v =>
      cases hb : v.book with
      | none =>
          simp [toCartItemDto, CartItemRow.translation, hv, hb]
      | some b =>
          simp [toCartItemDto, CartItemRow.translation, hv, hb]

theorem mem_groupByDay {items : List CartItemDto} {g : CartDayGroupDto} :
    g ∈ groupByDay items ↔ (g.date, g.items) ∈ groupsOf CartItemDto.day items := by
  simp only [groupByDay, orderBy, List.mem_map, List.mem_insertionSort]
  constructor
  · rintro ⟨e, he, rfl⟩
    exact he
  · exact fun h => ⟨_, h, rfl⟩

theorem groupByDay_latestFirst (items : List CartItemDto) :
    (groupByDay items).Pairwise fun g g' => g'.date < g.date := by
  have hperm := List.perm_insertionSort
    (fun g g' : Nat × List CartItemDto => decide (g.1 < g'.1) = false)
    (groupsOf CartItemDto.day items)
  have hnodup := (hperm.map Prod.fst).nodup_iff.mpr
    (grouped_groupsOf CartItemDto.day items).nodup
  refine List.pairwise_map.mpr ?_
  exact (pairwise_orderBy_desc Prod.fst _).imp₂ (fun _ _ h hne => lt_of_le_of_ne h (Ne.symm hne))
    (List.pairwise_map.mp hnodup)

theorem groupByDay_perm (items : List CartItemDto) :
    ((groupByDay items).flatMap CartDayGroupDto.items).Perm items := by
  unfold groupByDay
  rw [List.flatMap_map]
  exact ((List.perm_insertionSort _ _).flatMap_right _).trans
    (grouped_groupsOf CartItemDto.day items).perm

theorem day_of_shows {row : CartItemRow} {item : CartItemDto} (h : Shows row item) :
    item.day = row.day := by
  rw [CartItemDto.day, CartItemRow.day, h.addedAt]

theorem faithfulView_groupByDay
    {cart : CartWithItems} {items : List CartItemDto}
    (h : cart.items.mapM toCartItemDto = some items) :
    FaithfulView cart ⟨cart.cart.id, groupByDay items⟩ := by
  have hshows : List.Forall₂ Shows cart.items items :=
    (forall₂_mapM h).imp fun _ _ => shows_toCartItemDto
  have hgroups := grouped_groupsOf CartItemDto.day items
  refine ⟨rfl, ?_, fun row hrow => ?_, fun g hg => ?_, groupByDay_latestFirst items⟩
  · rw [← map_eq_of_forall₂ hshows fun _ _ h => h.id]
    exact (groupByDay_perm items).map _
  · have hday : row.day ∈ (groupsOf CartItemDto.day items).map Prod.fst := by
      rw [hgroups.keys, map_eq_of_forall₂ hshows fun _ _ => day_of_shows]
      exact List.mem_map_of_mem hrow
    obtain ⟨g, hg, hdate⟩ := List.mem_map.mp hday
    exact ⟨⟨g.1, g.2⟩, mem_groupByDay.mpr hg, hdate⟩
  · have hitems : g.items = items.filter fun item => decide (item.day = g.date) :=
      hgroups.holds _ (mem_groupByDay.mp hg)
    rw [hitems]
    refine List.rel_filter (fun row item h => ?_) hshows
    simp only [decide_eq_true_eq, day_of_shows h]

/-! ### The call -/

section Calls

variable {who : Requester} {s : Shopper} {langId : Nat} {w : CartWorld} {cart : CartWithItems}

variable (who s langId w) in
theorem cartExec_findWithItems :
    cartExec ⟨who, .findWithItems s langId⟩ w =
      .ok ({ w with accesses := w.accesses ++
        (w.db.newestCart s).toList.map fun c => ⟨who, c.id, c.userId⟩ },
        (w.db.newestCart s).map (w.db.cartWithItems langId)) :=
  rfl

/-- The call ends in the view of the cart that it reads. -/
theorem yields_getCartOf (hcart : CartRead who s langId w cart) :
    ∃ w', ∀ v x, (getCartOf who s langId).Yields cartExec .database w v x ↔
      (toGroupedCart cart).Yields cartExec .database w' v x := by
  cases hcart with
  | found hfound =>
      have hcart := cartExec_findWithItems who s langId w
      rw [hfound] at hcart
      exact ⟨_, fun v x => yields_await_bind hcart⟩
  | @created u cart hnone hcreate =>
      have hnothing : cartExec ⟨who, .findWithItems s langId⟩ w = .ok (w, none) := by
        simp [cartExec_findWithItems, hnone]
      exact ⟨u, fun v x => (yields_await_bind hnothing).trans (yields_await_bind hcreate)⟩

/-- The call ends in an error if some item is without a translation. -/
theorem not_faithfullyShown
    (hcart : CartRead who s langId w cart)
    (hitems : cart.items.mapM toCartItemDto = none) :
    ¬ FaithfullyShown who s langId w cart := by
  obtain ⟨w', hends⟩ := yields_getCartOf hcart
  rintro ⟨v, response, -, hreturns⟩
  have hend : (toGroupedCart cart).Yields cartExec .database w' w' (.error .typeError) := by
    rw [toGroupedCart, hitems]
    exact ⟨rfl, rfl⟩
  cases ((hreturns _ _).mp ((hends _ _).mpr hend)).2

/--
**The view of a cart.** A call that reads a cart returns a faithful view of it if and only
if every item of the cart has a translation.
-/
theorem getCart_faithful_iff (hcart : CartRead who s langId w cart) :
    FaithfullyShown who s langId w cart ↔
      ∀ row, row ∈ cart.items → row.translation.isSome := by
  have hrows : (∀ row, row ∈ cart.items → row.translation.isSome) ↔
      (cart.items.mapM toCartItemDto).isSome := by
    simp only [isSome_mapM, isSome_toCartItemDto]
  rw [hrows]
  cases hitems : cart.items.mapM toCartItemDto with
  | none =>
      exact iff_of_false (not_faithfullyShown hcart hitems) (by simp)
  | some items =>
      refine iff_of_true ?_ rfl
      obtain ⟨w', hends⟩ := yields_getCartOf hcart
      refine ⟨w', _, faithfulView_groupByDay hitems, fun v x => ?_⟩
      rw [hends, toGroupedCart, hitems]
      exact Iff.rfl

end Calls

/-- A guest has two editions of one book in the cart, added on two days. -/
def sampleBasket : CartWorld where
  db :=
    { sampleVisitors with
      carts := ⟨[⟨1, none, some "guest", 0⟩], 2, by decide, by decide⟩
      cartItems :=
        ⟨[⟨1, 1, 1, 2, 0⟩, ⟨2, 1, 2, 1, 86400000⟩], 3, by decide, by decide⟩
      variants := [sampleVariant 1 1, sampleVariant 2 1]
      books := [sampleBook 1]
      translations := [⟨1, 1, "Lean", none, some "lean"⟩] }
  now := 86400000
  accesses := []

/-- The cart of the guest as it is read in a language. -/
def sampleBasketIn (langId : Nat) : CartWithItems :=
  sampleBasket.db.cartWithItems langId ⟨1, none, some "guest", 0⟩

theorem cartRead_sampleBasket (langId : Nat) :
    CartRead ⟨none, some "guest"⟩ (.guest "guest") langId sampleBasket
      (sampleBasketIn langId) :=
  .found (by decide +kernel)

theorem getCart_faithful_sampleBasket :
    FaithfullyShown ⟨none, some "guest"⟩ (.guest "guest") 1 sampleBasket (sampleBasketIn 1) :=
  (getCart_faithful_iff (cartRead_sampleBasket 1)).mpr (by decide +kernel)

/-- The book is not translated into the language 2. -/
theorem getCart_untranslated :
    ¬ ∀ (who : Requester) (s : Shopper) (langId : Nat) (w : CartWorld) (cart : CartWithItems),
      CartRead who s langId w cart → FaithfullyShown who s langId w cart := by
  intro h
  have hnone : (sampleBasketIn 2).items.mapM toCartItemDto = none := by
    decide +kernel
  exact not_faithfullyShown (cartRead_sampleBasket 2) hnone
    (h _ _ _ _ _ (cartRead_sampleBasket 2))

end BookStore
