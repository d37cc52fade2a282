import BookStore.Shopper.CartCalls
import BookStore.Shopper.CartPrivacy

/-!
# Merging carts

`mergeCart` by itself.  A guest cart is adopted by a user who has none; otherwise its
items are added to the cart of the user and the carts of the guest session are deleted.

* `quantityIn` is the quantity of a variant in a list of items; `quantitiesSet_upsertItems`
  says what the transaction of `mergeCartUser` makes of it.
* `merge_conserves`: the cart of the user has the quantities of both carts, unless a sum is
  too large for its column.
* `merge_once_iff`: when a second call leaves the cart of the user as the first one did.
  The adopted cart keeps its guest session, so that a second call deletes it.
-/

namespace BookStore

open Async Program

/-! ### Quantities of lists of items -/

/-- The quantity of a variant. -/
def quantityIn (items : List CartItem) (v : Nat) : Nat :=
  ((items.filter fun i => decide (i.bookVariantId = v)).map CartItem.quantity).sum

section Quantities

variable {items : List CartItem} {i : CartItem} {v : Nat}

theorem quantityIn_cons :
    quantityIn (i :: items) v =
      (if i.bookVariantId = v then i.quantity else 0) + quantityIn items v := by
  unfold quantityIn
  rw [List.filter_cons]
  split_ifs <;> simp_all

theorem quantityIn_append {items' : List CartItem} :
    quantityIn (items ++ items') v = quantityIn items v + quantityIn items' v := by
  simp [quantityIn]

theorem quantityIn_of_not_mem (h : v ∉ items.map CartItem.bookVariantId) :
    quantityIn items v = 0 := by
  induction items with
  | nil =>
      rfl
  | cons i items ih =>
      rw [List.map_cons, List.mem_cons, not_or] at h
      rw [quantityIn_cons, if_neg (Ne.symm h.1), ih h.2]

/-- With one item for each variant, the item has all of it. -/
theorem quantityIn_of_mem
    (hnodup : (items.map CartItem.bookVariantId).Nodup)
    (h : i ∈ items) :
    quantityIn items i.bookVariantId = i.quantity := by
  induction items with
  | nil =>
      cases h
  | cons j items ih =>
      rw [List.map_cons, List.nodup_cons] at hnodup
      rw [quantityIn_cons]
      rcases List.mem_cons.mp h with rfl | h
      · rw [if_pos rfl, quantityIn_of_not_mem hnodup.1, Nat.add_zero]
      · have hne : j.bookVariantId ≠ i.bookVariantId := fun heq =>
          hnodup.1 (heq ▸ List.mem_map_of_mem h)
        rw [if_neg hne, ih hnodup.2 h, Nat.zero_add]

/-- The map of `mergeCart` has the quantities of the items. -/
theorem quantityInCart_eq (hnodup : (items.map CartItem.bookVariantId).Nodup) :
    quantityInCart items v = quantityIn items v := by
  unfold quantityInCart
  cases hlast : (items.filter fun i => decide (i.bookVariantId = v)).getLast? with
  | none =>
      rw [quantityIn, List.getLast?_eq_none_iff.mp hlast]
      rfl
  | some i =>
      obtain ⟨hi, hv⟩ := List.mem_filter.mp (List.mem_of_getLast? hlast)
      obtain rfl := of_decide_eq_true hv
      exact (quantityIn_of_mem hnodup hi).symm

end Quantities

/-! ### The upserts -/

section Upserts

variable {t : Table CartItem} {cartId now v : Nat}

/-- The items of a cart. -/
abbrev itemsIn (t : Table CartItem) (cartId : Nat) : List CartItem :=
  t.filter fun i => decide (i.cartId = cartId)

/-- The variants of a cart. -/
abbrev variantsIn (t : Table CartItem) (cartId : Nat) : List Nat :=
  (itemsIn t cartId).map CartItem.bookVariantId

/-- The `update` of an upsert. -/
def CartItem.setQuantity (line : Nat × Nat) (i : CartItem) : CartItem :=
  if i.bookVariantId = line.1 then { i with quantity := line.2 } else i

@[simp] theorem CartItem.bookVariantId_setQuantity (line : Nat × Nat) (i : CartItem) :
    (i.setQuantity line).bookVariantId = i.bookVariantId := by
  unfold setQuantity
  split_ifs <;> rfl

theorem map_bookVariantId_setQuantity {items : List CartItem} {line : Nat × Nat} :
    (items.map (CartItem.setQuantity line)).map CartItem.bookVariantId =
      items.map CartItem.bookVariantId := by
  rw [List.map_map]
  exact List.map_congr_left fun i _ => i.bookVariantId_setQuantity line

theorem quantityIn_setQuantity_of_ne
    {items : List CartItem} {line : Nat × Nat} (hv : line.1 ≠ v) :
    quantityIn (items.map (CartItem.setQuantity line)) v = quantityIn items v := by
  induction items with
  | nil =>
      rfl
  | cons i items ih =>
      rw [List.map_cons, quantityIn_cons, quantityIn_cons, ih,
        CartItem.bookVariantId_setQuantity]
      split_ifs with hi
      · rw [CartItem.setQuantity, if_neg (hi ▸ Ne.symm hv)]
      · rfl

/-- What an upsert makes of the items of its cart. -/
theorem itemsIn_upsertItem (t : Table CartItem) (cartId now : Nat) (line : Nat × Nat) :
    itemsIn (upsertItem cartId now t line) cartId =
      if line.1 ∈ variantsIn t cartId then
        (itemsIn t cartId).map (CartItem.setQuantity line)
      else itemsIn t cartId ++ [⟨t.next, cartId, line.1, line.2, now⟩] := by
  have hany : (t.rows.any fun i =>
      decide (i.cartId = cartId) && decide (i.bookVariantId = line.1)) = true ↔
        line.1 ∈ variantsIn t cartId := by
    simp [variantsIn, Table.filter, and_assoc]
  unfold upsertItem
  dsimp only
  by_cases hmem : line.1 ∈ variantsIn t cartId
  · rw [if_pos hmem, if_pos (hany.mpr hmem)]
    simp only [itemsIn, Table.filter, Table.rows_updateWhere, List.filter_map]
    have hcart : ((fun i => decide (i.cartId = cartId)) ∘ fun i : CartItem =>
        if (decide (i.cartId = cartId) && decide (i.bookVariantId = line.1)) = true then
          { i with quantity := line.2 } else i) = fun i => decide (i.cartId = cartId) := by
      funext i
      simp only [Function.comp]
      split_ifs <;> rfl
    rw [hcart]
    refine List.map_congr_left fun i hi => ?_
    simp only [(List.mem_filter.mp hi).2, Bool.true_and, decide_eq_true_eq]
    rfl
  · rw [if_neg hmem, if_neg (fun h => hmem (hany.mp h))]
    simp [itemsIn, Table.filter]

theorem variantsIn_upsertItem (t : Table CartItem) (cartId now : Nat) (line : Nat × Nat) :
    variantsIn (upsertItem cartId now t line) cartId =
      if line.1 ∈ variantsIn t cartId then variantsIn t cartId
      else variantsIn t cartId ++ [line.1] := by
  rw [variantsIn, itemsIn_upsertItem]
  split_ifs
  · exact map_bookVariantId_setQuantity
  · rw [List.map_append]
    rfl

theorem nodup_upsertItem {line : Nat × Nat} (h : (variantsIn t cartId).Nodup) :
    (variantsIn (upsertItem cartId now t line) cartId).Nodup := by
  rw [variantsIn_upsertItem]
  split_ifs with hmem
  · exact h
  · exact List.nodup_append.mpr ⟨h, by simp, fun v hv v' hv' heq =>
      hmem (List.mem_singleton.mp hv' ▸ heq ▸ hv)⟩

/-- The quantity of the line is set, the others stay. -/
theorem quantityIn_upsertItem {line : Nat × Nat} (h : (variantsIn t cartId).Nodup) :
    quantityIn (itemsIn (upsertItem cartId now t line) cartId) v =
      if line.1 = v then line.2 else quantityIn (itemsIn t cartId) v := by
  rw [itemsIn_upsertItem]
  split_ifs with hmem hv hv
  · subst hv
    obtain ⟨i, hi, hvariant⟩ := List.mem_map.mp hmem
    have hset := quantityIn_of_mem (map_bookVariantId_setQuantity.symm ▸ h)
      (List.mem_map_of_mem (f := CartItem.setQuantity line) hi)
    rw [CartItem.bookVariantId_setQuantity, hvariant] at hset
    rw [hset, CartItem.setQuantity, if_pos hvariant]
  · exact quantityIn_setQuantity_of_ne hv
  · subst hv
    rw [quantityIn_append, quantityIn_of_not_mem hmem]
    simp [quantityIn]
  · rw [quantityIn_append]
    simp [quantityIn, hv]

/-- In the cart the quantities of the variants `vs` have been set to `q`. -/
structure QuantitiesSet (q : Nat → Nat) (vs : List Nat) (t t' : Table CartItem) (cartId : Nat) :
    Prop where
  nodup : (variantsIn t' cartId).Nodup
  variants : ∀ v, v ∈ variantsIn t' cartId ↔ v ∈ variantsIn t cartId ∨ v ∈ vs
  quantity : ∀ v, quantityIn (itemsIn t' cartId) v =
    if v ∈ vs then q v else quantityIn (itemsIn t cartId) v

variable (now) in
theorem quantitiesSet_upsertItems
    {q : Nat → Nat} {lines : List (Nat × Nat)}
    (hnodup : (variantsIn t cartId).Nodup)
    (hq : ∀ line, line ∈ lines → line.2 = q line.1) :
    QuantitiesSet q (lines.map Prod.fst) t (lines.foldl (upsertItem cartId now) t) cartId := by
  induction lines generalizing t with
  | nil =>
      exact ⟨hnodup, by simp, by simp⟩
  | cons line lines ih =>
      have hrest := ih (t := upsertItem cartId now t line) (nodup_upsertItem hnodup)
        fun l hl => hq l (List.mem_cons_of_mem line hl)
      refine ⟨hrest.nodup, fun v => ?_, fun v => ?_⟩
      · rw [List.foldl_cons, hrest.variants, variantsIn_upsertItem, List.map_cons,
          List.mem_cons]
        split_ifs with hmem
        · constructor
          · rintro (h | h)
            · exact .inl h
            · exact .inr (.inr h)
          · rintro (h | rfl | h)
            · exact .inl h
            · exact .inl hmem
            · exact .inr h
        · rw [List.mem_append, List.mem_singleton, or_assoc]
      · rw [List.foldl_cons, hrest.quantity, quantityIn_upsertItem hnodup, List.map_cons]
        by_cases hv : v = line.1
        · subst hv
          simp [hq line (by simp)]
        · simp only [List.mem_cons, hv, Ne.symm hv, false_or, if_false]

end Upserts

/-! ### The merged items -/

theorem map_fst_mergedItems (userItems guestItems : List CartItem) :
    (mergedItems userItems guestItems).map Prod.fst = guestItems.map CartItem.bookVariantId := by
  rw [mergedItems, List.map_map]
  rfl

theorem quantity_mergedItems
    {userItems guestItems : List CartItem} {line : Nat × Nat}
    (huser : (userItems.map CartItem.bookVariantId).Nodup)
    (hguest : (guestItems.map CartItem.bookVariantId).Nodup)
    (h : line ∈ mergedItems userItems guestItems) :
    line.2 = quantityIn userItems line.1 + quantityIn guestItems line.1 := by
  obtain ⟨i, hi, rfl⟩ := List.mem_map.mp h
  rw [quantityInCart_eq huser, quantityIn_of_mem hguest hi]

/-- With the merged items a cart has the quantities of both. -/
theorem quantityIn_upsert_mergedItems
    {t : Table CartItem} {cartId now v : Nat} {guestItems : List CartItem}
    (huser : (variantsIn t cartId).Nodup)
    (hguest : (guestItems.map CartItem.bookVariantId).Nodup) :
    quantityIn (itemsIn ((mergedItems (itemsIn t cartId) guestItems).foldl
        (upsertItem cartId now) t) cartId) v =
      quantityIn (itemsIn t cartId) v + quantityIn guestItems v := by
  have hset := quantitiesSet_upsertItems now
    (q := fun v => quantityIn (itemsIn t cartId) v + quantityIn guestItems v) huser
    fun _ h => quantity_mergedItems huser hguest h
  rw [hset.quantity, map_fst_mergedItems]
  split_ifs with hv
  · rfl
  · rw [quantityIn_of_not_mem hv, Nat.add_zero]

/-! ### What a merge leaves -/

/-- The variants in the carts of a shopper. -/
def ShopperDb.variantsOf (db : ShopperDb) (s : Shopper) : List Nat :=
  (db.cartsOf s).flatMap fun c => variantsIn db.cartItems c.id

/--
The guest session owns one cart, without a user, and the user at most one, each with one
item for each variant and positive quantities.  All quantities are in their column.
-/
structure MergeStart (db : ShopperDb) (guestSessionId : String) (userId : Nat)
    (guestCart : Cart) : Prop where
  guest : db.cartsOf (.guest guestSessionId) = [guestCart]
  anonymous : guestCart.userId = none
  user : (db.cartsOf (.user userId)).length ≤ 1
  known : userId ∈ db.users
  keys : db.ForeignKeys
  distinct : ∀ s, s = .guest guestSessionId ∨ s = .user userId →
    ∀ c, c ∈ db.cartsOf s → (variantsIn db.cartItems c.id).Nodup
  positive : ∀ s, s = .guest guestSessionId ∨ s = .user userId →
    ∀ c, c ∈ db.cartsOf s → ∀ i, i ∈ itemsIn db.cartItems c.id → 0 < i.quantity
  stored : ∀ i, i ∈ db.cartItems.rows → i.quantity ≤ maxQuantity

/-- Each variant has a sum that its column can take. -/
def ShopperDb.SumsFit (db : ShopperDb) (guestSessionId : String) (userId : Nat) : Prop :=
  ∀ v, db.cartQuantity (.user userId) v + db.cartQuantity (.guest guestSessionId) v ≤
    maxQuantity

/-- A quantity that a merge of the two carts writes is too large for its column. -/
def ShopperDb.MergeOverflows (db : ShopperDb) (guestCart userCart : Cart) : Prop :=
  ∃ line, line ∈ mergedItems (db.itemsOfCart userCart.id) (db.itemsOfCart guestCart.id) ∧
    maxQuantity < line.2

/-- The user has one cart, with what was in the two; all other carts stay. -/
structure MergedInto (db db' : ShopperDb) (guestSessionId : String) (userId : Nat) : Prop where
  cart : ∃ c, db'.cartsOf (.user userId) = [c] ∧ (variantsIn db'.cartItems c.id).Nodup
  variants : ∀ v, v ∈ db'.variantsOf (.user userId) ↔
    v ∈ db.variantsOf (.user userId) ∨ v ∈ db.variantsOf (.guest guestSessionId)
  quantity : ∀ v, db'.cartQuantity (.user userId) v =
    db.cartQuantity (.user userId) v + db.cartQuantity (.guest guestSessionId) v
  noGuestCart : ∀ c, c ∈ db'.cartsOf (.guest guestSessionId) → c.userId = some userId
  others : ∀ c, c ∈ db.carts.rows → c ∉ db.cartsOf (.user userId) →
    c ∉ db.cartsOf (.guest guestSessionId) → CartKept c db db'
  noneAdded : ∀ c, c ∈ db'.carts.rows → c ∉ db'.cartsOf (.user userId) → c ∈ db.carts.rows

section Merge

variable {db : ShopperDb} {guestSessionId : String} {userId now : Nat} {guestCart userCart : Cart}

theorem newestCart_of_cartsOf {s : Shopper} {c : Cart} (h : db.cartsOf s = [c]) :
    db.newestCart s = some c := by
  rw [ShopperDb.newestCart, h]
  rfl

theorem newestCart_eq_none {s : Shopper} : db.newestCart s = none ↔ db.cartsOf s = [] := by
  rw [ShopperDb.newestCart, orderBy, List.head?_eq_none_iff, ← List.length_eq_zero_iff,
    List.length_insertionSort, List.length_eq_zero_iff]

theorem cartQuantity_of_cart {s : Shopper} {c : Cart} {v : Nat} (h : db.cartsOf s = [c]) :
    db.cartQuantity s v = quantityIn (itemsIn db.cartItems c.id) v :=
  cartQuantity_of_cartsOf_eq h

theorem variantsOf_of_cart {s : Shopper} {c : Cart} (h : db.cartsOf s = [c]) :
    db.variantsOf s = variantsIn db.cartItems c.id := by
  rw [ShopperDb.variantsOf, h, List.flatMap_singleton]

variable (now) in
/-- An adopted cart is the only one of a user who had none. -/
theorem cartsOf_updateGuestCart
    (hnone : db.cartsOf (.user userId) = [])
    (hcart : db.carts.find guestCart.id = some guestCart) :
    ((CartOp.updateGuestCart guestCart.id userId).effect now db).cartsOf (.user userId) =
      [{ guestCart with userId := some userId, updatedAt := now }] := by
  let adopt (c : Cart) : Cart :=
    if decide (key c = guestCart.id) = true then
      { c with userId := some userId, updatedAt := now } else c
  have howns : ∀ c, c ∈ db.carts.rows →
      (Shopper.user userId).owns (adopt c).userId (adopt c).guestSessionId =
        decide (key c = guestCart.id) := by
    intro c hc
    have hfree := List.filter_eq_nil_iff.mp hnone c hc
    by_cases hid : decide (key c = guestCart.id) = true
    · simp [adopt, Shopper.owns, of_decide_eq_true hid]
    · simp only [adopt, if_neg hid]
      rw [Bool.eq_false_iff.mpr hfree, Bool.eq_false_iff.mpr hid]
  have hrow : db.carts.filter (fun c => decide (key c = guestCart.id)) = [guestCart] := by
    rw [Table.filter_key, hcart]
    rfl
  calc ((CartOp.updateGuestCart guestCart.id userId).effect now db).cartsOf (.user userId)
      = (db.carts.filter fun c => (Shopper.user userId).owns (adopt c).userId
          (adopt c).guestSessionId).map adopt := List.filter_map
    _ = (db.carts.filter fun c => decide (key c = guestCart.id)).map adopt :=
        congrArg (List.map adopt) (List.filter_congr howns)
    _ = [{ guestCart with userId := some userId, updatedAt := now }] := by
        rw [hrow, List.map_singleton]
        exact congrArg (fun c => [c]) (if_pos (decide_eq_true rfl))

theorem MergeStart.find_guestCart (h : MergeStart db guestSessionId userId guestCart) :
    db.carts.find guestCart.id = some guestCart :=
  find_of_newestCart (newestCart_of_cartsOf h.guest)

/-- A user without a cart adopts the one of the guest session. -/
theorem MergeStart.adopted
    (h : MergeStart db guestSessionId userId guestCart)
    (hnone : db.cartsOf (.user userId) = []) :
    MergedInto db ((CartOp.updateGuestCart guestCart.id userId).effect now db)
      guestSessionId userId := by
  have hcart := cartsOf_updateGuestCart now hnone h.find_guestCart
  -- a row is the adopted cart or an old one
  have hrows : ∀ c, c ∈ ((CartOp.updateGuestCart guestCart.id userId).effect now db).carts.rows →
      c.userId = some userId ∨ c ∈ db.carts.rows ∧ c.id ≠ guestCart.id := by
    intro c hc
    obtain ⟨r, hr, rfl⟩ := List.mem_map.mp hc
    split_ifs with hid
    · exact .inl rfl
    · exact .inr ⟨hr, fun heq => hid (decide_eq_true heq)⟩
  constructor
  case cart =>
    exact ⟨_, hcart, h.distinct _ (.inl rfl) guestCart (by rw [h.guest]; simp)⟩
  case variants =>
    intro v
    rw [variantsOf_of_cart hcart, variantsOf_of_cart h.guest, ShopperDb.variantsOf, hnone]
    simp only [List.flatMap_nil, List.not_mem_nil, false_or]
    exact Iff.rfl
  case quantity =>
    intro v
    rw [cartQuantity_of_cart hcart, cartQuantity_of_cart h.guest, cartQuantity_of_no_cart hnone,
      Nat.zero_add]
    rfl
  case noGuestCart =>
    intro c hc
    obtain ⟨hrow, howns⟩ := List.mem_filter.mp hc
    rcases hrows c hrow with huser | ⟨hold, hid⟩
    · exact huser
    · have hguest : c ∈ db.cartsOf (.guest guestSessionId) := List.mem_filter.mpr ⟨hold, howns⟩
      rw [h.guest, List.mem_singleton] at hguest
      exact absurd (congrArg Cart.id hguest) hid
  case others =>
    intro c hc _ hguest
    refine effect_untouched hc ?_
    rw [h.guest, List.mem_singleton] at hguest
    simpa [CartOp.touched, h.find_guestCart] using hguest
  case noneAdded =>
    intro c hc huser
    rcases hrows c hc with hid | ⟨hold, -⟩
    · exact absurd (List.mem_filter.mpr ⟨hc, by simp [Shopper.owns, hid]⟩) huser
    · exact hold

/-- The carts after `mergeCartUser`: those of the guest session are gone. -/
theorem cartsOf_mergeCartUser
    (cartId now : Nat) (guestSessionId : String) (items : List (Nat × Nat)) (s : Shopper) :
    ((CartOp.mergeCartUser cartId guestSessionId items).effect now db).cartsOf s =
      ((db.cartsOf s).filter fun c =>
          !(Shopper.guest guestSessionId).owns c.userId c.guestSessionId).map fun c =>
        if decide (key c = cartId) = true then { c with updatedAt := now } else c := by
  let touch (c : Cart) : Cart :=
    if decide (key c = cartId) = true then { c with updatedAt := now } else c
  have howns : ∀ s : Shopper, (fun c : Cart => s.owns c.userId c.guestSessionId) ∘ touch =
      fun c => s.owns c.userId c.guestSessionId := by
    intro s
    funext c
    simp only [Function.comp, touch]
    split_ifs <;> rfl
  calc ((CartOp.mergeCartUser cartId guestSessionId items).effect now db).cartsOf s
      = ((db.carts.rows.map touch).filter fun c =>
          !(Shopper.guest guestSessionId).owns c.userId c.guestSessionId).filter fun c =>
            s.owns c.userId c.guestSessionId := rfl
    _ = ((db.carts.rows.filter fun c =>
          !(Shopper.guest guestSessionId).owns c.userId c.guestSessionId).filter fun c =>
            s.owns c.userId c.guestSessionId).map touch := by
        rw [List.filter_map, List.filter_map, howns]
        have hguest := howns (.guest guestSessionId)
        congr 3
        funext c
        exact congrArg not (congrFun hguest c)
    _ = _ := by rw [List.filter_comm]; rfl

theorem guestCarts_mergeCartUser
    (cartId now : Nat) (guestSessionId : String) (items : List (Nat × Nat)) :
    ((CartOp.mergeCartUser cartId guestSessionId items).effect now db).cartsOf
      (.guest guestSessionId) = [] := by
  rw [cartsOf_mergeCartUser, List.map_eq_nil_iff, List.filter_eq_nil_iff]
  intro c hc
  simp [(List.mem_filter.mp hc).2]

/-- The items of a cart that the guest session does not own are the upserted ones. -/
theorem itemsIn_mergeCartUser
    {items : List (Nat × Nat)}
    (hcart : db.carts.find userCart.id = some userCart)
    (hother : (Shopper.guest guestSessionId).owns userCart.userId userCart.guestSessionId = false) :
    itemsIn ((CartOp.mergeCartUser userCart.id guestSessionId items).effect now db).cartItems
        userCart.id =
      itemsIn (items.foldl (upsertItem userCart.id now) db.cartItems) userCart.id := by
  let merged : ShopperDb :=
    { db with
      carts := db.carts.update userCart.id fun c => { c with updatedAt := now }
      cartItems := items.foldl (upsertItem userCart.id now) db.cartItems }
  have hmem : { userCart with updatedAt := now } ∈ merged.carts.rows :=
    List.mem_map.mpr ⟨userCart, Table.find_mem hcart, if_pos (decide_eq_true rfl)⟩
  exact (cartKept_withoutCarts hmem hother).2

/-- The items of the guest session are added to the cart of the user. -/
theorem MergeStart.combined
    (h : MergeStart db guestSessionId userId guestCart)
    (huser : db.cartsOf (.user userId) = [userCart]) :
    MergedInto db ((CartOp.mergeCartUser userCart.id guestSessionId
        (mergedItems (db.itemsOfCart userCart.id) (db.itemsOfCart guestCart.id))).effect now db)
      guestSessionId userId := by
  have hfind := find_of_newestCart (newestCart_of_cartsOf huser)
  have huserId : userCart.userId = some userId := by
    have hmem : userCart ∈ db.cartsOf (.user userId) := by simp [huser]
    exact of_decide_eq_true (List.mem_filter.mp hmem).2
  -- the guest session owns another cart
  have hother : (Shopper.guest guestSessionId).owns userCart.userId userCart.guestSessionId =
      false := by
    refine Bool.eq_false_iff.mpr fun hguest => ?_
    have hmem : userCart ∈ db.cartsOf (.guest guestSessionId) :=
      List.mem_filter.mpr ⟨Table.find_mem hfind, hguest⟩
    rw [h.guest, List.mem_singleton] at hmem
    rw [hmem, h.anonymous] at huserId
    cases huserId
  have hnodup := h.distinct _ (.inr rfl) userCart (by rw [huser]; simp)
  have hnodup' := h.distinct _ (.inl rfl) guestCart (by rw [h.guest]; simp)
  let items := mergedItems (db.itemsOfCart userCart.id) (db.itemsOfCart guestCart.id)
  let db' := (CartOp.mergeCartUser userCart.id guestSessionId items).effect now db
  have hcart : db'.cartsOf (.user userId) = [{ userCart with updatedAt := now }] := by
    rw [cartsOf_mergeCartUser, huser, List.filter_singleton, hother, Bool.not_false, cond_true,
      List.map_singleton]
    exact congrArg (fun c => [c]) (if_pos (decide_eq_true rfl))
  have hset : QuantitiesSet (fun v => quantityIn (itemsIn db.cartItems userCart.id) v +
      quantityIn (itemsIn db.cartItems guestCart.id) v) (items.map Prod.fst) db.cartItems
      (items.foldl (upsertItem userCart.id now) db.cartItems) userCart.id :=
    quantitiesSet_upsertItems now hnodup fun _ hline =>
      quantity_mergedItems hnodup hnodup' hline
  have hitems : itemsIn db'.cartItems userCart.id =
      itemsIn (items.foldl (upsertItem userCart.id now) db.cartItems) userCart.id :=
    itemsIn_mergeCartUser hfind hother
  constructor
  case cart =>
    refine ⟨_, hcart, ?_⟩
    rw [variantsIn, hitems]
    exact hset.nodup
  case variants =>
    intro v
    rw [variantsOf_of_cart hcart, variantsOf_of_cart h.guest, variantsOf_of_cart huser,
      variantsIn, hitems]
    exact (hset.variants v).trans (by rw [map_fst_mergedItems]; exact Iff.rfl)
  case quantity =>
    intro v
    rw [cartQuantity_of_cart hcart, cartQuantity_of_cart h.guest, cartQuantity_of_cart huser,
      hitems]
    exact quantityIn_upsert_mergedItems hnodup hnodup'
  case noGuestCart =>
    intro c hc
    rw [guestCarts_mergeCartUser] at hc
    cases hc
  case others =>
    intro c hc hnotUser hnotGuest
    refine effect_untouched hc ?_
    rw [huser, List.mem_singleton] at hnotUser
    simpa [CartOp.touched, hfind, h.guest, hnotUser] using hnotGuest
  case noneAdded =>
    intro c hc hnotUser
    obtain ⟨r, hr, rfl⟩ := List.mem_map.mp (List.mem_of_mem_filter hc)
    by_cases hid : decide (key r = userCart.id) = true
    · refine absurd (List.mem_filter.mpr ⟨hc, ?_⟩) hnotUser
      have hrow : db.carts.find userCart.id = some r :=
        Table.find_eq_some_iff.mpr ⟨hr, of_decide_eq_true hid⟩
      obtain rfl := Option.some.inj (hfind.symm.trans hrow)
      simp [Shopper.owns, hid, huserId]
    · rw [if_neg hid]
      exact hr

/-- The merged items are for variants that exist, so that only a sum can be refused. -/
theorem any_refusesItem_iff
    (hvariants : ∀ i, i ∈ db.cartItems.rows → (db.availableOf i.bookVariantId).isSome = true) :
    (mergedItems (db.itemsOfCart userCart.id) (db.itemsOfCart guestCart.id)).any
      db.refusesItem = true ↔ db.MergeOverflows guestCart userCart := by
  rw [List.any_eq_true, ShopperDb.MergeOverflows]
  refine exists_congr fun line => and_congr_right fun hline => ?_
  obtain ⟨i, hi, rfl⟩ := List.mem_map.mp hline
  have hsome := hvariants i (List.mem_of_mem_filter hi)
  simp only [ShopperDb.refusesItem, ← Option.not_isSome, hsome, Bool.not_true, Bool.false_or,
    decide_eq_true_eq]

variable (now) in
/-- A merge of two carts writes all the sums. -/
theorem mergeOutcome_combines
    (hvariants : ∀ i, i ∈ db.cartItems.rows → (db.availableOf i.bookVariantId).isSome = true)
    (hguest : db.newestCart (.guest guestSessionId) = some guestCart)
    (huser : db.newestCart (.user userId) = some userCart)
    (hfits : ¬ db.MergeOverflows guestCart userCart) :
    mergeOutcome now db guestSessionId userId =
      ((CartOp.mergeCartUser userCart.id guestSessionId
          (mergedItems (db.itemsOfCart userCart.id) (db.itemsOfCart guestCart.id))).effect now db,
        .ok (.merged ((db.itemsOfCart guestCart.id).filter fun i =>
          decide (quantityInCart (db.itemsOfCart userCart.id) i.bookVariantId = 0)).length)) := by
  rw [mergeOutcome, hguest, huser]
  dsimp only
  rw [if_neg fun hany => hfits ((any_refusesItem_iff hvariants).mp hany)]

variable (now) in
/-- Or it throws and writes none of them. -/
theorem mergeOutcome_overflows
    (hvariants : ∀ i, i ∈ db.cartItems.rows → (db.availableOf i.bookVariantId).isSome = true)
    (hguest : db.newestCart (.guest guestSessionId) = some guestCart)
    (huser : db.newestCart (.user userId) = some userCart)
    (hoverflows : db.MergeOverflows guestCart userCart) :
    mergeOutcome now db guestSessionId userId = (db, .error .database) := by
  rw [mergeOutcome, hguest, huser]
  dsimp only
  rw [if_pos ((any_refusesItem_iff hvariants).mpr hoverflows)]

/-- The variants that the user has none of are those that are not in the cart. -/
theorem MergeStart.quantityInCart_eq_zero_iff {v : Nat}
    (h : MergeStart db guestSessionId userId guestCart)
    (huser : db.cartsOf (.user userId) = [userCart]) :
    quantityInCart (db.itemsOfCart userCart.id) v = 0 ↔ v ∉ db.variantsOf (.user userId) := by
  have hnodup := h.distinct _ (.inr rfl) userCart (by simp [huser])
  have hquantity : quantityInCart (db.itemsOfCart userCart.id) v =
      quantityIn (itemsIn db.cartItems userCart.id) v := quantityInCart_eq hnodup
  rw [hquantity, variantsOf_of_cart huser]
  constructor
  · intro hzero hmem
    obtain ⟨i, hi, rfl⟩ := List.mem_map.mp hmem
    have hpos := h.positive _ (.inr rfl) userCart (by simp [huser]) i hi
    rw [quantityIn_of_mem hnodup hi] at hzero
    omega
  · exact quantityIn_of_not_mem

theorem quantityIn_le_of_stored
    {items : List CartItem} {v : Nat}
    (hnodup : (items.map CartItem.bookVariantId).Nodup)
    (hstored : ∀ i, i ∈ items → i.quantity ≤ maxQuantity) :
    quantityIn items v ≤ maxQuantity := by
  by_cases hv : v ∈ items.map CartItem.bookVariantId
  · obtain ⟨i, hi, rfl⟩ := List.mem_map.mp hv
    rw [quantityIn_of_mem hnodup hi]
    exact hstored i hi
  · rw [quantityIn_of_not_mem hv]
    exact Nat.zero_le _

/-- The sums of an adopted cart are its own quantities. -/
theorem MergeStart.sumsFit
    (h : MergeStart db guestSessionId userId guestCart)
    (hnone : db.cartsOf (.user userId) = []) :
    db.SumsFit guestSessionId userId := by
  intro v
  rw [cartQuantity_of_no_cart hnone, cartQuantity_of_cart h.guest, Nat.zero_add]
  exact quantityIn_le_of_stored (h.distinct _ (.inl rfl) guestCart (by simp [h.guest]))
    fun i hi => h.stored i (List.mem_of_mem_filter hi)

/-- The sums that a merge writes are those of the variants of the guest cart. -/
theorem MergeStart.sumsFit_iff
    (h : MergeStart db guestSessionId userId guestCart)
    (huser : db.cartsOf (.user userId) = [userCart]) :
    db.SumsFit guestSessionId userId ↔ ¬ db.MergeOverflows guestCart userCart := by
  have hnodup := h.distinct _ (.inr rfl) userCart (by simp [huser])
  have hnodup' := h.distinct _ (.inl rfl) guestCart (by simp [h.guest])
  constructor
  · rintro hfits ⟨line, hline, hlarge⟩
    have hsum := hfits line.1
    rw [cartQuantity_of_cart huser, cartQuantity_of_cart h.guest] at hsum
    have hquantity := quantity_mergedItems hnodup hnodup' hline
    omega
  · intro hfits v
    rw [cartQuantity_of_cart huser, cartQuantity_of_cart h.guest]
    by_cases hv : v ∈ variantsIn db.cartItems guestCart.id
    · obtain ⟨i, hi, rfl⟩ := List.mem_map.mp hv
      by_contra hlarge
      have hline := List.mem_map_of_mem (f := fun i => (i.bookVariantId,
        quantityInCart (db.itemsOfCart userCart.id) i.bookVariantId + i.quantity)) hi
      refine hfits ⟨_, hline, ?_⟩
      rw [quantity_mergedItems hnodup hnodup' hline]
      exact not_le.mp hlarge
    · rw [quantityIn_of_not_mem hv, Nat.add_zero]
      exact quantityIn_le_of_stored hnodup fun i hi => h.stored i (List.mem_of_mem_filter hi)

/--
**Merging carts.** The call comes to an end.  If each sum fits into its column, the call
returns; then the user has one cart, with the quantities of both, and the answer counts the
variants that only the guest had.  Otherwise it throws and leaves all carts as they were.
-/
theorem merge_conserves
    {who : Requester} {w : CartWorld}
    (h : MergeStart w.db guestSessionId userId guestCart) :
    (∃ w' x, CartYields (mergeCart who guestSessionId userId) w w' x) ∧
      ∀ w' x, CartYields (mergeCart who guestSessionId userId) w w' x →
        (w.db.SumsFit guestSessionId userId →
          MergedInto w.db w'.db guestSessionId userId ∧
            x = .ok (.merged ((itemsIn w.db.cartItems guestCart.id).filter fun i =>
              decide (i.bookVariantId ∉ w.db.variantsOf (.user userId))).length)) ∧
        (¬ w.db.SumsFit guestSessionId userId → w'.db = w.db ∧ x = .error .database) := by
  refine ⟨exists_mergeCart who guestSessionId userId w, fun w' x hyields => ?_⟩
  obtain ⟨hdb, rfl, -⟩ := yields_mergeCart hyields
  rw [hdb]
  have hguest := newestCart_of_cartsOf h.guest
  cases hcarts : w.db.cartsOf (.user userId) with
  | nil =>
      refine ⟨fun _ => ?_, fun hnot => absurd (h.sumsFit hcarts) hnot⟩
      rw [mergeOutcome, hguest, newestCart_eq_none.mpr hcarts]
      dsimp only
      rw [if_pos h.known]
      refine ⟨h.adopted hcarts, ?_⟩
      simp [ShopperDb.variantsOf, hcarts, ShopperDb.itemsOfCart]
  | cons userCart rest =>
      have huser : w.db.cartsOf (.user userId) = [userCart] := by
        have hlength := h.user
        rw [hcarts, List.length_cons] at hlength
        rw [hcarts, List.length_eq_zero_iff.mp (by omega : rest.length = 0)]
      have huserCart := newestCart_of_cartsOf huser
      rw [h.sumsFit_iff huser, not_not]
      refine ⟨fun hfits => ?_, fun hoverflows => ?_⟩
      · rw [mergeOutcome_combines w.now h.keys.variants hguest huserCart hfits]
        refine ⟨h.combined huser, ?_⟩
        simp only [h.quantityInCart_eq_zero_iff huser]
        rfl
      · rw [mergeOutcome_overflows w.now h.keys.variants hguest huserCart hoverflows]
        exact ⟨rfl, rfl⟩

end Merge

/-! ### Merging again -/

/-- What is in the cart of a user. -/
def userCartLines (db : ShopperDb) (userId : Nat) : Option (List (Nat × Nat)) :=
  (db.newestCart (.user userId)).map fun c =>
    (itemsIn db.cartItems c.id).map fun i => (i.bookVariantId, i.quantity)

/--
After a call the user has a cart if there was one to merge, and a second call, at any later
time, leaves in it what the first one did.
-/
def MergesOnce (who : Requester) (guestSessionId : String) (userId : Nat) (w : CartWorld) :
    Prop :=
  ∀ w₁ x₁, CartYields (mergeCart who guestSessionId userId) w w₁ x₁ →
    (w.db.cartsOf (.guest guestSessionId) ≠ [] ∨ w.db.cartsOf (.user userId) ≠ [] →
      (userCartLines w₁.db userId).isSome = true) ∧
    ∀ ms w₂ x₂,
      CartYields (mergeCart who guestSessionId userId) { w₁ with now := w₁.now + ms } w₂ x₂ →
        userCartLines w₂.db userId = userCartLines w₁.db userId

theorem key_datedCart (now : Nat) (c : Cart) : key { c with updatedAt := now } = key c := rfl

/-- The carts once one of them has been written to. -/
def ShopperDb.dated (db : ShopperDb) (cartId now : Nat) : ShopperDb :=
  { db with
    carts := db.carts.update cartId (fun c => { c with updatedAt := now }) (key_datedCart now) }

/--
A merge that would delete the carts of the user is refused for its sums: the first one, or,
if the guest cart has been adopted, the second one.
-/
def ShopperDb.DeletionRefused (db : ShopperDb) (now : Nat) (guestSessionId : String)
    (userId : Nat) : Prop :=
  ∃ guestCart, db.newestCart (.guest guestSessionId) = some guestCart ∧
    match db.newestCart (.user userId) with
    | some userCart => db.MergeOverflows guestCart userCart
    | none => userId ∈ db.users ∧ ∃ next,
        (db.dated guestCart.id now).newestCart (.guest guestSessionId) = some next ∧
          db.MergeOverflows next guestCart

section Twice

variable {db : ShopperDb} {guestSessionId : String} {userId now : Nat} {guestCart userCart : Cart}

theorem userCartLines_isSome_iff :
    (userCartLines db userId).isSome = true ↔ db.cartsOf (.user userId) ≠ [] := by
  rw [userCartLines, Option.isSome_map, Option.isSome_iff_ne_none, Ne, newestCart_eq_none]

/-- Without a guest cart nothing is done. -/
theorem mergeOutcome_of_no_guestCart (h : db.cartsOf (.guest guestSessionId) = []) :
    mergeOutcome now db guestSessionId userId = (db, .ok (.merged 0)) := by
  rw [mergeOutcome, newestCart_eq_none.mpr h]

theorem cartsOf_ne_nil_of_newestCart {s : Shopper} {c : Cart} (h : db.newestCart s = some c) :
    db.cartsOf s ≠ [] :=
  List.ne_nil_of_mem (newestCart_mem h)

/-- Carts of the user that carry the guest session are deleted as well. -/
theorem userCarts_mergeCartUser
    {cartId : Nat} {items : List (Nat × Nat)}
    (hall : ∀ c, c ∈ db.cartsOf (.user userId) → c.guestSessionId = some guestSessionId) :
    ((CartOp.mergeCartUser cartId guestSessionId items).effect now db).cartsOf (.user userId) =
      [] := by
  rw [cartsOf_mergeCartUser, List.map_eq_nil_iff, List.filter_eq_nil_iff]
  intro c hc
  simp [Shopper.owns, hall c hc]

/-- The two calls, one after the other. -/
theorem mergesOnce_iff {who : Requester} {w : CartWorld} {db₁ : ShopperDb}
    (h : (mergeOutcome w.now w.db guestSessionId userId).1 = db₁) :
    MergesOnce who guestSessionId userId w ↔
      (w.db.cartsOf (.guest guestSessionId) ≠ [] ∨ w.db.cartsOf (.user userId) ≠ [] →
        db₁.cartsOf (.user userId) ≠ []) ∧
      ∀ ms, userCartLines (mergeOutcome (w.now + ms) db₁ guestSessionId userId).1 userId =
        userCartLines db₁ userId := by
  subst h
  constructor
  · intro honce
    obtain ⟨w₁, x₁, h₁⟩ := exists_mergeCart who guestSessionId userId w
    obtain ⟨hexists, hagain⟩ := honce w₁ x₁ h₁
    obtain ⟨hdb₁, -, hnow₁⟩ := yields_mergeCart h₁
    rw [← hdb₁]
    refine ⟨fun hor => userCartLines_isSome_iff.mp (hexists hor), fun ms => ?_⟩
    obtain ⟨w₂, x₂, h₂⟩ := exists_mergeCart who guestSessionId userId
      { w₁ with now := w₁.now + ms }
    rw [← hagain ms w₂ x₂ h₂, (yields_mergeCart h₂).1, hnow₁]
  · rintro ⟨hexists, hagain⟩ w₁ x₁ h₁
    obtain ⟨hdb₁, -, hnow₁⟩ := yields_mergeCart h₁
    rw [← hdb₁] at hexists hagain
    refine ⟨fun hor => userCartLines_isSome_iff.mpr (hexists hor), fun ms w₂ x₂ h₂ => ?_⟩
    rw [(yields_mergeCart h₂).1, ← hagain ms, hnow₁]

variable (now) in
/-- The guest cart that is newest after an adoption. -/
theorem newestCart_updateGuestCart
    {cartId : Nat} {next : Cart}
    (h : (db.dated cartId now).newestCart (.guest guestSessionId) = some next) :
    ∃ next', ((CartOp.updateGuestCart cartId userId).effect now db).newestCart
        (.guest guestSessionId) = some next' ∧ next'.id = next.id := by
  let give (c : Cart) : Cart :=
    if decide (key c = cartId) = true then { c with userId := some userId } else c
  have hrows : ((CartOp.updateGuestCart cartId userId).effect now db).carts.rows =
      (db.dated cartId now).carts.rows.map give := by
    change db.carts.rows.map _ = (db.carts.rows.map _).map give
    rw [List.map_map]
    refine List.map_congr_left fun c _ => ?_
    by_cases hid : decide (key c = cartId) = true
    · have hkey : decide (key ({ c with updatedAt := now } : Cart) = cartId) = true := hid
      simp only [Function.comp, hid, if_true, give, hkey]
    · simp only [Function.comp, if_neg hid, give]
  have hid : ∀ c, (give c).id = c.id ∧ (give c).updatedAt = c.updatedAt ∧
      (give c).guestSessionId = c.guestSessionId := by
    intro c
    simp only [give]
    split_ifs <;> exact ⟨rfl, rfl, rfl⟩
  have hcarts : ((CartOp.updateGuestCart cartId userId).effect now db).cartsOf
      (.guest guestSessionId) = ((db.dated cartId now).cartsOf (.guest guestSessionId)).map
        give := by
    unfold ShopperDb.cartsOf Table.filter
    rw [hrows, List.filter_map]
    congr 2
    funext c
    simp only [Function.comp, Shopper.owns, (hid c).2.2]
  refine ⟨give next, ?_, (hid next).1⟩
  rw [ShopperDb.newestCart, hcarts, orderBy_map, List.head?_map]
  · exact congrArg (Option.map give) h
  · intro a b
    rw [(hid a).2.1, (hid b).2.1]

/-- The guest cart is adopted: a second call deletes it, unless it is refused. -/
theorem mergesOnce_adopted_iff
    {who : Requester} {w : CartWorld}
    (hvariants : ∀ i, i ∈ w.db.cartItems.rows →
      (w.db.availableOf i.bookVariantId).isSome = true)
    (hguest : w.db.newestCart (.guest guestSessionId) = some guestCart)
    (hnone : w.db.cartsOf (.user userId) = [])
    (hknown : userId ∈ w.db.users) :
    MergesOnce who guestSessionId userId w ↔
      ∃ next, (w.db.dated guestCart.id w.now).newestCart (.guest guestSessionId) = some next ∧
        w.db.MergeOverflows next guestCart := by
  let adopted : ShopperDb := (CartOp.updateGuestCart guestCart.id userId).effect w.now w.db
  have hfirst : (mergeOutcome w.now w.db guestSessionId userId).1 = adopted := by
    rw [mergeOutcome, hguest, newestCart_eq_none.mpr hnone]
    dsimp only
    rw [if_pos hknown]
  have hcarts : adopted.cartsOf (.user userId) =
      [{ guestCart with userId := some userId, updatedAt := w.now }] :=
    cartsOf_updateGuestCart w.now hnone (find_of_newestCart hguest)
  have huserCart := newestCart_of_cartsOf hcarts
  have hvariants' : ∀ i, i ∈ adopted.cartItems.rows →
      (adopted.availableOf i.bookVariantId).isSome = true := hvariants
  -- the adopted cart is still one of the guest session
  have hsession : guestCart.guestSessionId = some guestSessionId :=
    of_decide_eq_true (List.mem_filter.mp (newestCart_mem hguest)).2
  have hfound : (w.db.dated guestCart.id w.now).cartsOf (.guest guestSessionId) ≠ [] := by
    refine List.ne_nil_of_mem (a := { guestCart with updatedAt := w.now })
      (List.mem_filter.mpr ⟨List.mem_map.mpr ⟨guestCart,
        Table.find_mem (find_of_newestCart hguest), if_pos (decide_eq_true rfl)⟩, ?_⟩)
    exact decide_eq_true hsession
  obtain ⟨next, hnext⟩ := Option.ne_none_iff_exists'.mp fun hnone =>
    hfound (newestCart_eq_none.mp hnone)
  obtain ⟨next', hnext', hid⟩ : ∃ next', adopted.newestCart (.guest guestSessionId) = some next' ∧
      next'.id = next.id := newestCart_updateGuestCart w.now hnext
  have hsums : adopted.MergeOverflows next'
      { guestCart with userId := some userId, updatedAt := w.now } ↔
        w.db.MergeOverflows next guestCart := by
    unfold ShopperDb.MergeOverflows
    rw [hid]
    rfl
  have hadopted : adopted.cartsOf (.user userId) ≠ [] := hcarts ▸ List.cons_ne_nil _ _
  rw [mergesOnce_iff hfirst, hnext]
  simp only [Option.some.injEq, exists_eq_left']
  constructor
  · rintro ⟨-, hagain⟩
    by_contra hfits
    have hsecond := hagain 0
    rw [mergeOutcome_combines _ hvariants' hnext' huserCart fun h => hfits (hsums.mp h)]
      at hsecond
    refine userCartLines_isSome_iff.mp (hsecond ▸ userCartLines_isSome_iff.mpr hadopted)
      (userCarts_mergeCartUser fun c hc => ?_)
    rw [hcarts, List.mem_singleton] at hc
    rw [hc, hsession]
  · intro hoverflows
    refine ⟨fun _ => hadopted, fun ms => ?_⟩
    rw [mergeOutcome_overflows _ hvariants' hnext' huserCart (hsums.mpr hoverflows)]

/-- The items are added to the cart of the user: all is done, unless the cart is deleted. -/
theorem mergesOnce_combined_iff
    {who : Requester} {w : CartWorld}
    (hvariants : ∀ i, i ∈ w.db.cartItems.rows →
      (w.db.availableOf i.bookVariantId).isSome = true)
    (hguest : w.db.newestCart (.guest guestSessionId) = some guestCart)
    (huser : w.db.newestCart (.user userId) = some userCart) :
    MergesOnce who guestSessionId userId w ↔
      w.db.MergeOverflows guestCart userCart ∨
        ∃ c, c ∈ w.db.cartsOf (.user userId) ∧ c.guestSessionId ≠ some guestSessionId := by
  by_cases hoverflows : w.db.MergeOverflows guestCart userCart
  · refine iff_of_true ?_ (.inl hoverflows)
    have hrefused := fun now => mergeOutcome_overflows now hvariants hguest huser hoverflows
    rw [mergesOnce_iff (congrArg Prod.fst (hrefused w.now))]
    exact ⟨fun _ => cartsOf_ne_nil_of_newestCart huser, fun ms => by rw [hrefused]⟩
  · have hfirst := mergeOutcome_combines w.now hvariants hguest huser hoverflows
    rw [mergesOnce_iff (congrArg Prod.fst hfirst), or_iff_right hoverflows]
    constructor
    · rintro ⟨hexists, -⟩
      by_contra hnot
      refine hexists (.inr (cartsOf_ne_nil_of_newestCart huser))
        (userCarts_mergeCartUser fun c hc => by_contra fun hne => hnot ⟨c, hc, hne⟩)
    · rintro ⟨c, hc, hsession⟩
      refine ⟨fun _ => ?_, fun ms => ?_⟩
      · rw [cartsOf_mergeCartUser]
        refine List.ne_nil_of_mem (List.mem_map_of_mem (List.mem_filter.mpr ⟨hc, ?_⟩))
        simpa [Shopper.owns] using hsession
      · rw [mergeOutcome_of_no_guestCart (guestCarts_mergeCartUser _ _ _ _)]

/--
**Merging twice.** A second call changes nothing, and the user has a cart, exactly if there
was no guest cart, or a cart of the user that does not carry the guest session, or the call
that would delete the cart is refused.
-/
theorem merge_once_iff
    {who : Requester} {w : CartWorld}
    (hkeys : w.db.ForeignKeys) :
    MergesOnce who guestSessionId userId w ↔
      w.db.cartsOf (.guest guestSessionId) = [] ∨
        (∃ c, c ∈ w.db.cartsOf (.user userId) ∧ c.guestSessionId ≠ some guestSessionId) ∨
        w.db.DeletionRefused w.now guestSessionId userId := by
  unfold ShopperDb.DeletionRefused
  cases hguest : w.db.newestCart (.guest guestSessionId) with
  | none =>
      have hnone := newestCart_eq_none.mp hguest
      refine iff_of_true ?_ (.inl hnone)
      have houtcome : ∀ now, mergeOutcome now w.db guestSessionId userId =
          (w.db, .ok (.merged 0)) := fun _ => mergeOutcome_of_no_guestCart hnone
      rw [mergesOnce_iff (congrArg Prod.fst (houtcome w.now))]
      exact ⟨fun hor => hor.resolve_left fun hne => hne hnone, fun ms => by rw [houtcome]⟩
  | some guestCart =>
      rw [or_iff_right (cartsOf_ne_nil_of_newestCart hguest)]
      simp only [Option.some.injEq, exists_eq_left']
      cases huser : w.db.newestCart (.user userId) with
      | some userCart =>
          rw [mergesOnce_combined_iff hkeys.variants hguest huser, or_comm]
      | none =>
          have hnone := newestCart_eq_none.mp huser
          simp only [hnone, List.not_mem_nil, false_and, exists_false, false_or]
          by_cases hknown : userId ∈ w.db.users
          · rw [mergesOnce_adopted_iff hkeys.variants hguest hnone hknown, and_iff_right hknown]
          · refine iff_of_false (fun honce => ?_) fun h => hknown h.1
            have hfirst : (mergeOutcome w.now w.db guestSessionId userId).1 = w.db := by
              rw [mergeOutcome, hguest, huser]
              dsimp only
              rw [if_neg hknown]
            exact ((mergesOnce_iff hfirst).mp honce).1
              (.inl (cartsOf_ne_nil_of_newestCart hguest)) hnone

end Twice

/-! ### Samples -/

def sampleCopies (id : Nat) : CatalogVariant :=
  ⟨⟨id, 1, .paperback, "978030640615" ++ toString id, some 100000, 10, 10, true, 0, 1⟩, "VND"⟩

/-- The guest has two variants in a cart, the user has one of them. -/
def sampleTwoCarts : ShopperDb :=
  { sampleVisitors with
    carts := ⟨[⟨1, none, some "guest", 0⟩, ⟨2, some 1, none, 0⟩], 3, by decide, by decide⟩
    cartItems :=
      ⟨[⟨1, 1, 1, 2, 0⟩, ⟨2, 1, 2, 1, 0⟩, ⟨3, 2, 1, 3, 0⟩], 4, by decide, by decide⟩
    variants := [sampleCopies 1, sampleCopies 2] }

theorem sampleTwoCarts_keys : sampleTwoCarts.ForeignKeys where
  itemsInCarts := by unfold ShopperDb.ItemsInCarts; decide +kernel
  variants := by decide +kernel
  users := by
    intro c hc userId huser
    have hall : ∀ c, c ∈ sampleTwoCarts.carts.rows → c.userId = none ∨ c.userId = some 1 := by
      decide +kernel
    rcases hall c hc with h | h
    · rw [h] at huser
      cases huser
    · rw [h] at huser
      cases huser
      decide

theorem merge_conserves_bothCarts :
    ∃ w' x,
      CartYields (mergeCart ⟨some 1, some "guest"⟩ "guest" 1) ⟨sampleTwoCarts, 0, []⟩ w' x ∧
        MergedInto sampleTwoCarts w'.db "guest" 1 ∧ x = .ok (.merged 1) ∧
        w'.db.cartQuantity (.user 1) 1 = 5 := by
  have hstart : MergeStart sampleTwoCarts "guest" 1 ⟨1, none, some "guest", 0⟩ :=
    { guest := by decide +kernel
      anonymous := rfl
      user := by decide +kernel
      known := by decide
      keys := sampleTwoCarts_keys
      distinct := by rintro s (rfl | rfl) <;> decide +kernel
      positive := by rintro s (rfl | rfl) <;> decide +kernel
      stored := by decide +kernel }
  have hfits : sampleTwoCarts.SumsFit "guest" 1 :=
    (hstart.sumsFit_iff (show _ = [⟨2, some 1, none, 0⟩] by decide +kernel)).mpr (by
      unfold ShopperDb.MergeOverflows
      decide +kernel)
  obtain ⟨w', x, hyields⟩ := exists_mergeCart ⟨some 1, some "guest"⟩ "guest" 1
    ⟨sampleTwoCarts, 0, []⟩
  obtain ⟨hinto, hanswer⟩ := ((merge_conserves hstart).2 w' x hyields).1 hfits
  refine ⟨w', x, hyields, hinto, hanswer.trans ?_, (hinto.quantity 1).trans ?_⟩
  · decide +kernel
  · decide +kernel

/-- Both carts have all the copies of a variant. -/
def sampleLargeCarts : ShopperDb :=
  { sampleTwoCarts with
    cartItems :=
      ⟨[⟨1, 1, 1, 2000000000, 0⟩, ⟨3, 2, 1, 2000000000, 0⟩], 4, by decide, by decide⟩
    variants := [{ sampleCopies 1 with stock := 2000000000, available := 2000000000 }] }

/-- The sum of the two quantities is too large for the column. -/
theorem merge_beyondColumn :
    ¬ ∀ (who : Requester) (guestSessionId : String) (userId : Nat) (guestCart : Cart)
      (w : CartWorld), MergeStart w.db guestSessionId userId guestCart → ∀ w' x,
        CartYields (mergeCart who guestSessionId userId) w w' x →
          MergedInto w.db w'.db guestSessionId userId := by
  intro h
  have hkeys : sampleLargeCarts.ForeignKeys :=
    { itemsInCarts := by unfold ShopperDb.ItemsInCarts; decide +kernel
      variants := by decide +kernel
      users := sampleTwoCarts_keys.users }
  have hstart : MergeStart sampleLargeCarts "guest" 1
      ⟨1, none, some "guest", 0⟩ :=
    { guest := by decide +kernel
      anonymous := rfl
      user := by decide +kernel
      known := by decide
      keys := hkeys
      distinct := by rintro s (rfl | rfl) <;> decide +kernel
      positive := by rintro s (rfl | rfl) <;> decide +kernel
      stored := by decide +kernel }
  have hoverflows : sampleLargeCarts.MergeOverflows
      ⟨1, none, some "guest", 0⟩ ⟨2, some 1, none, 0⟩ := by
    unfold ShopperDb.MergeOverflows
    decide +kernel
  obtain ⟨w', x, hyields⟩ := exists_mergeCart ⟨some 1, some "guest"⟩ "guest" 1
    ⟨sampleLargeCarts, 0, []⟩
  have hquantity := (h _ _ _ _ _ hstart w' x hyields).quantity 1
  have hrefused : mergeOutcome 0 sampleLargeCarts "guest" 1 =
      (sampleLargeCarts, .error .database) :=
    mergeOutcome_overflows 0 hkeys.variants (by decide +kernel) (by decide +kernel) hoverflows
  rw [(yields_mergeCart hyields).1, hrefused] at hquantity
  revert hquantity
  decide +kernel

/-- The user has a cart that the guest session does not reach. -/
theorem merge_once_bothCarts :
    MergesOnce ⟨some 1, some "guest"⟩ "guest" 1 ⟨sampleTwoCarts, 0, []⟩ :=
  (merge_once_iff sampleTwoCarts_keys).mpr
    (.inr (.inl ⟨⟨2, some 1, none, 0⟩, by decide +kernel⟩))

theorem sampleGuestCart_nodup :
    (([⟨1, none, some "guest", 0⟩] : List Cart).map key).Nodup := by
  decide

/-- Only the guest has a cart. -/
def sampleGuestCart : ShopperDb :=
  { sampleTwoCarts with
    carts := ⟨[⟨1, none, some "guest", 0⟩], 3, sampleGuestCart_nodup, by decide⟩
    cartItems := ⟨[⟨1, 1, 1, 2, 0⟩, ⟨2, 1, 2, 1, 0⟩], 4, by decide, by decide⟩ }

/-- The second call deletes the cart that the first one has given to the user. -/
theorem merged_twice_deletes :
    ¬ ∀ (who : Requester) (guestSessionId : String) (userId : Nat) (w : CartWorld),
      w.db.ForeignKeys → MergesOnce who guestSessionId userId w := by
  intro h
  have hkeys : sampleGuestCart.ForeignKeys :=
    { itemsInCarts := by unfold ShopperDb.ItemsInCarts; decide +kernel
      variants := by decide +kernel
      users := fun c hc userId huser => by
        have hnone : ∀ c, c ∈ sampleGuestCart.carts.rows → c.userId = none := by decide +kernel
        rw [hnone c hc] at huser
        cases huser }
  obtain ⟨w₁, x₁, h₁⟩ := exists_mergeCart ⟨some 1, some "guest"⟩ "guest" 1
    ⟨sampleGuestCart, 0, []⟩
  obtain ⟨w₂, x₂, h₂⟩ := exists_mergeCart ⟨some 1, some "guest"⟩ "guest" 1
    { w₁ with now := w₁.now + 0 }
  have hagain := (h ⟨some 1, some "guest"⟩ "guest" 1 ⟨sampleGuestCart, 0, []⟩ hkeys w₁ x₁ h₁).2
    0 w₂ x₂ h₂
  rw [(yields_mergeCart h₂).1, (yields_mergeCart h₁).1, (yields_mergeCart h₁).2.2] at hagain
  dsimp only at hagain
  revert hagain
  decide +kernel

end BookStore
