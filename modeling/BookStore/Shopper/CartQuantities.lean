import BookStore.Shopper.CartMerge

/-!
# Cart quantities and stock

What the cart calls write, by themselves.

* `deltaOutcome` is what `updateCartItemDelta` leaves and ends in.
* `delta_allOrNothing_iff`: when it changes the cart as it answers, or not at all.  An item
  is deleted before the stock is looked up, and without stock the call throws.
* `cart_quantities_iff`: when every quantity that a request writes is within the stock.
  Only the merged items are not limited.
-/

namespace BookStore

open Async Program

/-! ### Changing a quantity -/

/-- What `updateCartItemDelta` leaves and ends in. -/
def deltaOutcome (now : Nat) (db : ShopperDb) (s : Shopper) (item : CartItem) (delta : Int) :
    ShopperDb × Except CartFailure CartAnswer :=
  let desiredQuantity := (item.quantity + delta).toNat
  let db' := if desiredQuantity = 0 then (CartOp.deleteItem item.id s).effect now db else db
  match limited db item.bookVariantId desiredQuantity with
  | .error e => (db', .error e)
  | .ok quantity =>
      if quantity = 0 then (db', .ok (.removed { item.toDto with quantity := 0 }))
      else
        ((CartOp.updateQuantityById item.id quantity item.quantity).effect now db',
          .ok (.cartItem { item with quantity := quantity }.toDto))

section Delta

variable {who : Requester} {w w' : CartWorld} {s : Shopper} {itemId : Nat} {item : CartItem}
variable {delta : Int} {x : Except CartFailure CartAnswer}

theorem id_of_itemOf {db : ShopperDb} (h : db.itemOf itemId s = some item) : item.id = itemId :=
  Table.find_key (find_of_itemOf h)

theorem yields_updateItemDelta
    (hitem : w.db.itemOf itemId s = some item)
    (h : CartYields (updateItemDelta who s itemId delta) w w' x) :
    w'.db = (deltaOutcome w.now w.db s item delta).1 ∧
      x = (deltaOutcome w.now w.db s item delta).2 := by
  have hanswer : (CartOp.findItem itemId s).answer w.now w.db = .ok (some item) :=
    congrArg Except.ok hitem
  replace h := (yields_cartQuery_bind hanswer).mp h
  -- the state once the item has been deleted or not
  have hadjusted : ∀ v, v = (w.after who (.findItem itemId s)).adjusted who s item.id
      item.bookVariantId (item.quantity + delta).toNat → v.now = w.now ∧
        v.db = if (item.quantity + delta).toNat = 0 then
          (CartOp.deleteItem item.id s).effect w.now w.db else w.db := by
    rintro v rfl
    exact ⟨by simp, CartWorld.adjusted_db _ _⟩
  unfold deltaOutcome
  dsimp only
  rcases yields_bind.mp h with ⟨v, quantity, hresolved, hrest⟩ | ⟨e, hresolved, rfl⟩
  · obtain ⟨hv, hlimited⟩ := yields_resolveAdjustedQuantity.mp hresolved
    obtain ⟨hnow, hdb⟩ := hadjusted v hv
    have hlimited : limited w.db item.bookVariantId (item.quantity + delta).toNat =
      .ok quantity := hlimited.symm
    rw [hlimited]
    by_cases hzero : quantity = 0
    · rw [if_pos hzero] at hrest
      obtain ⟨rfl, rfl⟩ := hrest
      simp only [if_pos hzero, and_true]
      exact hdb
    · rw [if_neg hzero] at hrest
      -- a quantity is left, so the item has not been deleted
      obtain ⟨available, -, -, hmin⟩ := limited_ok.mp hlimited
      have hdesired : (item.quantity + delta).toNat ≠ 0 := by omega
      simp only [if_neg hzero, if_neg hdesired] at hdb ⊢
      have hanswer : (CartOp.updateQuantityById item.id quantity item.quantity).answer v.now v.db =
          .ok { item with quantity := quantity } := by
        simp only [CartOp.answer, hdb, id_of_itemOf hitem, find_of_itemOf hitem]
      obtain ⟨rfl, rfl⟩ := (yields_cartQuery_bind hanswer).mp hrest
      rw [← hdb]
      exact ⟨rfl, rfl⟩
  · obtain ⟨hv, hlimited⟩ := yields_resolveAdjustedQuantity.mp hresolved
    have hlimited : limited w.db item.bookVariantId (item.quantity + delta).toNat =
      .error e := hlimited.symm
    rw [hlimited]
    exact ⟨(hadjusted w' hv).2, rfl⟩

/-- The owner of an item is known. -/
theorem user_of_itemOf {db : ShopperDb} {userId : Nat}
    (hkeys : db.ForeignKeys)
    (hitem : db.itemOf itemId (.user userId) = some item) :
    userId ∈ db.users := by
  obtain ⟨-, hcart⟩ := Option.filter_eq_some_iff.mp hitem
  obtain ⟨c, hc, howns⟩ := (Option.any_eq_true _ _).mp hcart
  exact hkeys.users c (Table.find_mem hc) userId (of_decide_eq_true howns)

theorem yields_updateCartItemDelta
    (hkeys : w.db.ForeignKeys)
    (hwho : who.shopper = some s)
    (hitem : w.db.itemOf itemId s = some item)
    (h : CartYields (updateCartItemDelta who itemId delta) w w' x) :
    w'.db = (deltaOutcome w.now w.db s item delta).1 ∧
      x = (deltaOutcome w.now w.db s item delta).2 := by
  unfold updateCartItemDelta at h
  rcases Requester.shopper_cases hwho with ⟨userId, huser, rfl⟩ | ⟨sessionId, huser, hguest, rfl⟩
  · rw [huser] at h
    have hknown := user_of_itemOf hkeys hitem
    rcases yields_bind.mp h with ⟨v, id, hfound, hrest⟩ | ⟨e, hfound, -⟩
    · obtain ⟨rfl, hid⟩ := yields_foundUser.mp hfound
      rw [if_pos hknown] at hid
      obtain rfl := Except.ok.inj hid
      exact yields_updateItemDelta (w := w.after who (.findUserById id)) hitem hrest
    · have hid := (yields_foundUser.mp hfound).2
      rw [if_pos hknown] at hid
      cases hid
  · rw [huser, hguest] at h
    exact yields_updateItemDelta hitem h

theorem live_limitToStock {v desiredQuantity : Nat} :
    (limitToStock who v desiredQuantity).Live := by
  refine (Live.await _).bind fun stock => ?_
  cases stock with
  | none =>
      trivial
  | some available =>
      dsimp only
      split_ifs <;> trivial

theorem live_resolveAdjustedQuantity {v currentQuantity : Nat} :
    (resolveAdjustedQuantity who s itemId v currentQuantity delta).Live := by
  unfold resolveAdjustedQuantity
  dsimp only
  split_ifs
  · exact (Live.await _).bind fun _ => live_limitToStock
  · exact live_limitToStock

theorem live_updateItemDelta : (updateItemDelta who s itemId delta).Live := by
  refine (Live.await _).bind fun item => ?_
  cases item with
  | none =>
      trivial
  | some item =>
      refine live_resolveAdjustedQuantity.bind fun quantity => ?_
      dsimp only
      split_ifs
      · trivial
      · exact (Live.await _).bind fun _ => trivial

theorem live_foundUser {userId : Nat} : (foundUser who userId).Live := by
  refine (Live.await _).bind fun found => ?_
  cases found <;> trivial

/-- The call comes to an end. -/
theorem exists_updateCartItemDelta (who : Requester) (itemId : Nat) (delta : Int)
    (w : CartWorld) : ∃ w' x, CartYields (updateCartItemDelta who itemId delta) w w' x := by
  refine exists_yields ?_ w
  unfold updateCartItemDelta
  split
  · exact live_foundUser.bind fun _ => live_updateItemDelta
  · exact live_updateItemDelta
  · trivial

/-! ### All or nothing -/

/-- The answer is what has been done to the item; all else stays. -/
structure DeltaApplied (item : CartItem) (delta : Int) (db db' : ShopperDb) (a : CartAnswer) :
    Prop where
  carts : db'.carts = db.carts
  others : ∀ id, id ≠ item.id → db'.cartItems.find id = db.cartItems.find id
  removed : item.quantity + delta ≤ 0 →
    db'.cartItems.find item.id = none ∧ a = .removed { item.toDto with quantity := 0 }
  updated : 0 < item.quantity + delta → ∃ available quantity,
    db.availableOf item.bookVariantId = some available ∧
      ((quantity : Nat) : Int) = min (item.quantity + delta) available ∧
      db'.cartItems.find item.id = some { item with quantity := quantity } ∧
      a = .cartItem { item with quantity := quantity }.toDto

/-- A call that throws changes nothing; one that removes or lowers does not throw. -/
def DeltaAllOrNothing (who : Requester) (item : CartItem) (delta : Int) (w : CartWorld) : Prop :=
  ∀ w' x, CartYields (updateCartItemDelta who item.id delta) w w' x →
    (∀ e, x = .error e → w'.db = w.db) ∧
    (∀ a, x = .ok a → DeltaApplied item delta w.db w'.db a) ∧
    (delta < 0 ∨ item.quantity + delta ≤ 0 → ∃ a, x = .ok a)

/-- Some copies of the variant are available. -/
def ShopperDb.inStock (db : ShopperDb) (bookVariantId : Nat) : Prop :=
  ∃ available, db.availableOf bookVariantId = some available ∧ 0 < available

theorem find_deleteItem {db : ShopperDb} {now id : Nat} (hitem : db.itemOf itemId s = some item) :
    ((CartOp.deleteItem itemId s).effect now db).cartItems.find id =
      if id = itemId then none else db.cartItems.find id := by
  have hdelete : ((CartOp.deleteItem itemId s).effect now db).cartItems.find id =
      (db.cartItems.find id).filter fun i => !(decide (i.id = itemId) && true) := by
    rw [← show (db.itemOf itemId s).isSome = true by rw [hitem]; rfl]
    exact Table.find_deleteWhere _ _ _
  rw [hdelete]
  cases hfind : db.cartItems.find id with
  | none =>
      simp
  | some i =>
      have hid : i.id = id := Table.find_key hfind
      split_ifs with h
      · simp [hid, h]
      · simp [hid, h]

theorem find_updateQuantityById {db : ShopperDb} {now quantity read id : Nat} :
    ((CartOp.updateQuantityById itemId quantity read).effect now db).cartItems.find id =
      if id = itemId then (db.cartItems.find itemId).map fun i => { i with quantity := quantity }
      else db.cartItems.find id :=
  Table.find_update db.cartItems itemId (fun i => { i with quantity := quantity })
    (fun _ => rfl) id

/-- With copies available the outcome is what the answer says. -/
theorem deltaApplied_of_inStock {db : ShopperDb} (now : Nat) (delta : Int)
    (hitem : db.itemOf item.id s = some item)
    (hstock : db.inStock item.bookVariantId) :
    ∃ a, (deltaOutcome now db s item delta).2 = .ok a ∧
      DeltaApplied item delta db (deltaOutcome now db s item delta).1 a := by
  obtain ⟨available, havailable, hpos⟩ := hstock
  have hlimited := limited_ok.mpr ⟨available, havailable, hpos,
    (rfl : min (item.quantity + delta).toNat available.toNat = _)⟩
  unfold deltaOutcome
  dsimp only
  rw [hlimited]
  dsimp only
  by_cases hleft : item.quantity + delta ≤ 0
  · have hzero : (item.quantity + delta).toNat = 0 := Int.toNat_of_nonpos hleft
    simp only [hzero, Nat.zero_min, if_true]
    refine ⟨_, rfl, rfl, fun id hid => ?_, fun _ => ⟨?_, rfl⟩, fun hpos => ?_⟩
    · rw [find_deleteItem hitem, if_neg hid]
    · rw [find_deleteItem hitem, if_pos rfl]
    · omega
  · have hdesired : (item.quantity + delta).toNat ≠ 0 := by omega
    have hquantity : min (item.quantity + delta).toNat available.toNat ≠ 0 := by omega
    simp only [if_neg hdesired, if_neg hquantity]
    refine ⟨_, rfl, rfl, fun id hid => ?_, fun h => absurd h hleft, fun _ =>
      ⟨available, _, havailable, ?_, ?_, rfl⟩⟩
    · rw [find_updateQuantityById, if_neg hid]
    · omega
    · rw [find_updateQuantityById, if_pos rfl, find_of_itemOf hitem]
      rfl

/-- Without copies the call throws, once it has deleted an item with nothing left. -/
theorem deltaOutcome_of_not_inStock {db : ShopperDb} {now : Nat}
    (hstock : ¬ db.inStock item.bookVariantId) :
    deltaOutcome now db s item delta =
      (if (item.quantity + delta).toNat = 0 then (CartOp.deleteItem item.id s).effect now db
        else db, .error (.notFound CartMessage.outOfStock)) := by
  have hlimited : limited db item.bookVariantId (item.quantity + delta).toNat =
      .error (.notFound CartMessage.outOfStock) := by
    unfold limited
    cases havailable : db.availableOf item.bookVariantId with
    | none =>
        rfl
    | some available =>
        exact if_pos (not_lt.mp fun hpos => hstock ⟨available, havailable, hpos⟩)
  unfold deltaOutcome
  dsimp only
  rw [hlimited]

/--
**Changing a quantity.** The call is all or nothing, and removes or lowers, exactly if copies
of the variant are available, or the quantity is not lowered and something is left of it.
-/
theorem delta_allOrNothing_iff
    (hkeys : w.db.ForeignKeys)
    (hwho : who.shopper = some s)
    (hitem : w.db.itemOf item.id s = some item) :
    DeltaAllOrNothing who item delta w ↔
      w.db.inStock item.bookVariantId ∨ 0 ≤ delta ∧ 0 < item.quantity + delta := by
  constructor
  · intro hall
    by_contra hnot
    rw [not_or] at hnot
    obtain ⟨w', x, h⟩ := exists_updateCartItemDelta who item.id delta w
    obtain ⟨-, -, hreturns⟩ := hall w' x h
    obtain ⟨a, hx⟩ := hreturns (by omega)
    have houtcome := (yields_updateCartItemDelta hkeys hwho hitem h).2
    rw [deltaOutcome_of_not_inStock hnot.1, hx] at houtcome
    cases houtcome
  · intro hcond w' x h
    obtain ⟨hdb, rfl⟩ := yields_updateCartItemDelta hkeys hwho hitem h
    by_cases hstock : w.db.inStock item.bookVariantId
    · obtain ⟨a, ha, happlied⟩ := deltaApplied_of_inStock w.now delta hitem hstock
      rw [ha]
      rw [← hdb] at happlied
      exact ⟨fun _ he => (by cases he), fun a' ha' => Except.ok.inj ha' ▸ happlied,
        fun _ => ⟨a, rfl⟩⟩
    · obtain ⟨hdelta, hleft⟩ := hcond.resolve_left hstock
      rw [deltaOutcome_of_not_inStock hstock, if_neg (by omega)] at hdb ⊢
      refine ⟨fun _ _ => hdb, fun _ ha => (by cases ha), fun hlower => ?_⟩
      omega

end Delta

/-! ### Within the stock -/

/-- At least one, and no more than what is available. -/
def WithinStock (db : ShopperDb) (i : CartItem) : Prop :=
  1 ≤ i.quantity ∧
    ∃ available, db.availableOf i.bookVariantId = some available ∧ (i.quantity : Int) ≤ available

/-- The items that have been written are within the stock. -/
structure StockKept (db db' : ShopperDb) : Prop where
  variants : db'.variants = db.variants
  written : ∀ i, i ∈ db'.cartItems.rows → i ∉ db.cartItems.rows → WithinStock db' i

/-- The statements that write a quantity. -/
def CartOp.writes : CartOp → Bool
  | .updateQuantityById _ _ _ => true
  | .createByCartIdAndBookVariantId _ _ _ => true
  | .mergeCartUser _ _ _ => true
  | _ => false

/-- The handler sends no statement that writes a quantity. -/
abbrev WritesNothing {α : Type} (p : CartService α) : Prop :=
  p.All fun st => st.op.writes = false

section Stock

variable {α β : Type} {db db' : ShopperDb} {who : Requester} {w w' : CartWorld} {s : Shopper}
variable {item : CartItem}

theorem WithinStock.congr {i : CartItem} (hvariants : db'.variants = db.variants) :
    WithinStock db' i ↔ WithinStock db i := by
  unfold WithinStock ShopperDb.availableOf
  rw [hvariants]

theorem StockKept.refl (db : ShopperDb) : StockKept db db :=
  ⟨rfl, fun _ h h' => absurd h h'⟩

theorem StockKept.trans {u : ShopperDb} (h : StockKept db db') (h' : StockKept db' u) :
    StockKept db u where
  variants := h'.variants.trans h.variants
  written := by
    intro i hi hnew
    by_cases hold : i ∈ db'.cartItems.rows
    · exact (WithinStock.congr h'.variants).mpr (h.written i hold hnew)
    · exact h'.written i hi hold

/-- No row is new. -/
theorem StockKept.of_subset
    (hvariants : db'.variants = db.variants)
    (hrows : ∀ i, i ∈ db'.cartItems.rows → i ∈ db.cartItems.rows) :
    StockKept db db' :=
  ⟨hvariants, fun i hi hnew => absurd (hrows i hi) hnew⟩

theorem stockKept_effect {op : CartOp} {now : Nat} (h : op.writes = false) :
    StockKept db (op.effect now db) := by
  cases op with
  | deleteItem id s =>
      exact .of_subset rfl fun i hi => List.mem_of_mem_filter hi
  | deleteCarts s =>
      exact .of_subset rfl fun i hi => List.mem_of_mem_filter hi
  | updateQuantityById id quantity read =>
      cases h
  | createByCartIdAndBookVariantId cartId bookVariantId quantity =>
      cases h
  | mergeCartUser cartId guestSessionId items =>
      cases h
  | _ =>
      exact .of_subset rfl fun i hi => hi

theorem stockKept_updateQuantityById
    (now read : Nat) {quantity : Nat}
    (hfind : db.cartItems.find item.id = some item)
    (hwithin : WithinStock db { item with quantity := quantity }) :
    StockKept db ((CartOp.updateQuantityById item.id quantity read).effect now db) where
  variants := rfl
  written := by
    intro i hi hnew
    obtain ⟨j, hj, rfl⟩ := List.mem_map.mp hi
    split_ifs at hnew ⊢ with hid
    · have hrow : db.cartItems.find item.id = some j :=
        Table.find_eq_some_iff.mpr ⟨hj, of_decide_eq_true hid⟩
      obtain rfl := Option.some.inj (hfind.symm.trans hrow)
      exact hwithin
    · exact absurd hj hnew

/-- A handler that writes no quantity. -/
theorem stockKept_of_all
    {p : CartService α} {x : Except CartFailure α}
    (hp : WritesNothing p)
    (h : CartYields p w w' x) :
    StockKept w.db w'.db := by
  refine Program.Yields.of_all (T := fun w w' : CartWorld => StockKept w.db w'.db)
    (fun w => .refl w.db) (fun _ _ _ => StockKept.trans) (hp.mono fun st hst w => ?_) h
  refine attempt_of_exec (P := fun w w' : CartWorld => StockKept w.db w'.db)
    (fun w => .refl w.db) ?_ .ok
  intro w' r hexec
  obtain ⟨-, rfl⟩ := cartExec_ok.mp hexec
  exact stockKept_effect hst

theorem stockKept_bind
    {p : CartService α} {f : α → CartService β} {x : Except CartFailure β}
    (hp : WritesNothing p)
    (hf : ∀ v a, CartYields p w v (.ok a) → CartYields (f a) v w' x → StockKept v.db w'.db)
    (h : CartYields (p.bind f) w w' x) :
    StockKept w.db w'.db := by
  rcases yields_bind.mp h with ⟨v, a, hyields, hrest⟩ | ⟨e, hyields, -⟩
  · exact (stockKept_of_all hp hyields).trans (hf v a hyields hrest)
  · exact stockKept_of_all hp hyields

/-! ### The requests -/

theorem writesNothing_query {op : CartOp} (h : op.writes = false) :
    WritesNothing (cartQuery who op) :=
  All.await h

theorem writesNothing_foundUser {userId : Nat} : WritesNothing (foundUser who userId) := by
  refine All.bind (writesNothing_query rfl) fun found => ?_
  cases found <;> trivial

theorem writesNothing_findOrCreateCart {langId : Nat} :
    WritesNothing (findOrCreateCart who s langId) := by
  refine All.bind (writesNothing_query rfl) fun found => ?_
  cases found with
  | none =>
      exact writesNothing_query rfl
  | some cart =>
      trivial

theorem writesNothing_toGroupedCart {cart : CartWithItems} :
    WritesNothing (toGroupedCart cart) := by
  unfold toGroupedCart
  split <;> trivial

theorem writesNothing_getCartOf {langId : Nat} : WritesNothing (getCartOf who s langId) := by
  refine All.bind (writesNothing_query rfl) fun found => ?_
  cases found with
  | none =>
      exact All.bind (writesNothing_query rfl) fun _ => writesNothing_toGroupedCart
  | some cart =>
      exact writesNothing_toGroupedCart

theorem writesNothing_removeItem {itemId : Nat} : WritesNothing (removeItem who s itemId) := by
  refine All.bind (writesNothing_query rfl) fun deleted => ?_
  split_ifs <;> trivial

/-- An item that is not deleted gets a quantity within the stock. -/
theorem stockKept_resolveAdjustedQuantity_bind
    {delta : Int} {f : Nat → CartService α} {x : Except CartFailure α}
    (hfind : w.db.cartItems.find item.id = some item)
    (hf : ∀ v quantity, ((item.quantity + delta).toNat ≠ 0 → quantity ≠ 0) →
      (quantity ≠ 0 → v.db.cartItems.find item.id = some item ∧
        WithinStock v.db { item with quantity := quantity }) →
      CartYields (f quantity) v w' x → StockKept v.db w'.db)
    (h : CartYields ((resolveAdjustedQuantity who s item.id item.bookVariantId item.quantity
      delta).bind f) w w' x) :
    StockKept w.db w'.db := by
  have hadjusted : ∀ v, v = w.adjusted who s item.id item.bookVariantId
      (item.quantity + delta).toNat → StockKept w.db v.db := by
    rintro v rfl
    rw [CartWorld.adjusted_db]
    split_ifs
    · exact stockKept_effect rfl
    · exact .refl w.db
  rcases yields_bind.mp h with ⟨v, quantity, hresolved, hrest⟩ | ⟨e, hresolved, -⟩
  · obtain ⟨hv, hlimited⟩ := yields_resolveAdjustedQuantity.mp hresolved
    obtain ⟨available, havailable, hpos, hquantity⟩ := limited_ok.mp hlimited.symm
    refine (hadjusted v hv).trans (hf v quantity (by omega) (fun hne => ?_) hrest)
    have hdb : v.db = w.db := by
      rw [hv, CartWorld.adjusted_db, if_neg (by omega)]
    rw [hdb]
    exact ⟨hfind, by dsimp only; omega, available, havailable, by dsimp only; omega⟩
  · exact hadjusted w' (yields_resolveAdjustedQuantity.mp hresolved).1

/-- The quantity of an item is written. -/
theorem stockKept_updateQuantity_bind
    {quantity read : Nat} {f : CartItem → CartService α} {x : Except CartFailure α}
    (hfind : w.db.cartItems.find item.id = some item)
    (hwithin : WithinStock w.db { item with quantity := quantity })
    (hf : ∀ i, WritesNothing (f i))
    (h : CartYields ((cartQuery who (.updateQuantityById item.id quantity read)).bind f) w w' x) :
    StockKept w.db w'.db := by
  have hanswer : (CartOp.updateQuantityById item.id quantity read).answer w.now w.db =
      .ok { item with quantity := quantity } := by
    simp only [CartOp.answer, hfind]
  exact (stockKept_updateQuantityById w.now read hfind hwithin).trans
    (stockKept_of_all (hf _) ((yields_cartQuery_bind hanswer).mp h))

/-- An item is inserted. -/
theorem stockKept_createByCartId_bind
    {u : CartWorld} {cartId v quantity : Nat} {f : CartItem → CartService α}
    {x : Except CartFailure α}
    (hwithin : WithinStock u.db ⟨u.db.cartItems.next, cartId, v, quantity, u.now⟩)
    (hf : ∀ i, WritesNothing (f i))
    (h : CartYields ((cartQuery who (.createByCartIdAndBookVariantId cartId v quantity)).bind f)
      u w' x) :
    StockKept u.db w'.db := by
  cases hanswer : (CartOp.createByCartIdAndBookVariantId cartId v quantity).answer u.now u.db with
  | error e =>
      exact ((yields_cartQuery_bind_error hanswer).mp h).1 ▸ .refl u.db
  | ok created =>
      let op : CartOp := .createByCartIdAndBookVariantId cartId v quantity
      have hrest := stockKept_of_all (hf created) ((yields_cartQuery_bind hanswer).mp h)
      have hinsert : StockKept u.db (u.after who op).db := by
        refine ⟨rfl, fun i hi hnew => ?_⟩
        rcases List.mem_append.mp hi with hi | hi
        · exact absurd hi hnew
        · exact List.mem_singleton.mp hi ▸ hwithin
      exact hinsert.trans hrest

theorem stockKept_createCartItem
    {cartId v quantity : Nat} {x : Except CartFailure CartAnswer}
    (hquantity : 1 ≤ quantity)
    (h : CartYields (createCartItem who cartId v quantity) w w' x) :
    StockKept w.db w'.db := by
  unfold createCartItem at h
  replace h := (yields_cartQuery_bind rfl).mp h
  cases havailable : w.db.availableOf v with
  | none =>
      rw [havailable] at h
      exact h.1 ▸ .refl w.db
  | some available =>
      rw [havailable] at h
      dsimp only at h
      split_ifs at h with hshort
      · exact h.1 ▸ .refl w.db
      · exact stockKept_createByCartId_bind (u := w.after who (.getStockByBookVariantId v))
          ⟨hquantity, available, havailable, not_lt.mp hshort⟩ (fun _ => by trivial) h

theorem stockKept_addCartItemUser
    {userId langId : Nat} {body : AddCartItemRequestDto} {x : Except CartFailure CartAnswer}
    (h : CartYields (addCartItemUser who userId body langId) w w' x) :
    StockKept w.db w'.db := by
  refine stockKept_bind writesNothing_foundUser (fun u id _ h => ?_) h
  refine stockKept_bind writesNothing_findOrCreateCart (fun u cart _ h => ?_) h
  let op : CartOp := .findByCartIdAndBookVariantId cart.cart.id body.bookVariantId
  replace h := (yields_cartQuery_bind (show op.answer u.now u.db = .ok _ from rfl)).mp h
  change StockKept (u.after who op).db w'.db
  cases hfirst : u.db.cartItems.findFirst fun i =>
      decide (i.cartId = cart.cart.id) && decide (i.bookVariantId = body.bookVariantId) with
  | none =>
      rw [hfirst] at h
      exact stockKept_createCartItem body.added_pos h
  | some existedItem =>
      rw [hfirst] at h
      have hrow := List.find?_some hfirst
      rw [Bool.and_eq_true, decide_eq_true_eq, decide_eq_true_eq] at hrow
      have hfind := Table.find_of_mem (List.mem_of_find?_eq_some hfirst)
      rw [← hrow.2] at h
      refine stockKept_resolveAdjustedQuantity_bind (w := u.after who op) hfind
        (fun v quantity hpos hv h => ?_) h
      have hadded := body.added_pos
      obtain ⟨hfind, hwithin⟩ := hv (hpos (by omega))
      exact stockKept_updateQuantity_bind hfind hwithin (fun _ => by trivial) h

/-- The items that come with a cart are in the table. -/
theorem find_of_findOrCreateCart
    {langId : Nat} {cart : CartWithItems} {row : CartItemRow}
    (h : CartYields (findOrCreateCart who s langId) w w' (.ok cart))
    (hrow : row ∈ cart.items) :
    w'.db.cartItems.find row.item.id = some row.item := by
  unfold findOrCreateCart at h
  let op : CartOp := .findWithItems s langId
  replace h := (yields_cartQuery_bind (show op.answer w.now w.db = .ok _ from rfl)).mp h
  cases hfound : w.db.newestCart s with
  | none =>
      rw [hfound] at h
      obtain ⟨hanswer, -⟩ := cartExec_ok.mp (yields_await.mp h)
      rw [answer_createCart hanswer] at hrow
      cases hrow
  | some c =>
      rw [hfound] at h
      obtain ⟨rfl, hcart⟩ := h
      obtain rfl := Except.ok.inj hcart
      obtain ⟨i, hi, rfl⟩ := List.mem_map.mp hrow
      exact Table.find_of_mem (List.mem_of_mem_filter (List.mem_insertionSort _ |>.mp hi))

theorem stockKept_addCartItemGuest
    {sessionId : String} {langId : Nat} {body : AddCartItemRequestDto}
    {x : Except CartFailure CartAnswer}
    (h : CartYields (addCartItemGuest who sessionId body langId) w w' x) :
    StockKept w.db w'.db := by
  refine stockKept_bind writesNothing_findOrCreateCart (fun u guestCart hcart h => ?_) h
  cases hfirst : guestCart.items.find? fun row =>
      decide (row.item.bookVariantId = body.bookVariantId) with
  | none =>
      rw [hfirst] at h
      exact stockKept_createCartItem body.added_pos h
  | some existedItem =>
      rw [hfirst] at h
      have hfind := find_of_findOrCreateCart hcart (List.mem_of_find?_eq_some hfirst)
      have hvariant := List.find?_some hfirst
      rw [decide_eq_true_eq] at hvariant
      rw [← hvariant] at h
      refine stockKept_resolveAdjustedQuantity_bind hfind (fun v quantity _ hv h => ?_) h
      split_ifs at h with hzero
      · exact h.1 ▸ .refl v.db
      · obtain ⟨hfind, hwithin⟩ := hv hzero
        exact stockKept_updateQuantity_bind hfind hwithin (fun _ => by trivial) h

theorem stockKept_updateItemDelta
    {itemId : Nat} {delta : Int} {x : Except CartFailure CartAnswer}
    (h : CartYields (updateItemDelta who s itemId delta) w w' x) :
    StockKept w.db w'.db := by
  let op : CartOp := .findItem itemId s
  replace h := (yields_cartQuery_bind (show op.answer w.now w.db = .ok _ from rfl)).mp h
  change StockKept (w.after who op).db w'.db
  cases hitem : w.db.itemOf itemId s with
  | none =>
      rw [hitem] at h
      exact h.1 ▸ .refl _
  | some item =>
      rw [hitem] at h
      have hfind : w.db.cartItems.find item.id = some item :=
        id_of_itemOf hitem ▸ find_of_itemOf hitem
      refine stockKept_resolveAdjustedQuantity_bind (w := w.after who op) hfind
        (fun v quantity _ hv h => ?_) h
      split_ifs at h with hzero
      · exact h.1 ▸ .refl v.db
      · obtain ⟨hfind, hwithin⟩ := hv hzero
        exact stockKept_updateQuantity_bind hfind hwithin (fun _ => by trivial) h

/-- What is done for a user and for a guest session. -/
theorem stockKept_forShopper
    {f : Shopper → CartService CartAnswer} {e : CartFailure} {x : Except CartFailure CartAnswer}
    (hf : ∀ s u, CartYields (f s) u w' x → StockKept u.db w'.db)
    (h : CartYields (match who.user, truthy who.guestSessionId with
      | some userId, _ => (foundUser who userId).bind fun id => f (.user id)
      | none, some guestSessionId => f (.guest guestSessionId)
      | none, none => raise e) w w' x) :
    StockKept w.db w'.db := by
  cases huser : who.user with
  | some userId =>
      rw [huser] at h
      exact stockKept_bind writesNothing_foundUser (fun u id _ h => hf (.user id) u h) h
  | none =>
      rw [huser] at h
      cases hguest : truthy who.guestSessionId with
      | some guestSessionId =>
          rw [hguest] at h
          exact hf _ w h
      | none =>
          rw [hguest] at h
          exact h.1 ▸ .refl w.db

/-- All requests but a merge. -/
theorem stockKept_handler
    {r : CartRequest} {x : Except CartFailure CartAnswer}
    (hr : r ≠ .mergeCart)
    (h : CartYields (r.handler who) w w' x) :
    StockKept w.db w'.db := by
  cases r with
  | getCart langId =>
      refine stockKept_of_all ?_ h
      dsimp only [CartRequest.handler]
      split
      · exact writesNothing_getCartOf
      · exact writesNothing_getCartOf
      · trivial
  | addCartItem body langId =>
      change CartYields (addCartItem who body langId) w w' x at h
      unfold addCartItem at h
      split at h
      · exact stockKept_addCartItemUser h
      · exact stockKept_addCartItemGuest h
      · exact h.1 ▸ .refl w.db
  | updateCartItemDelta itemId delta =>
      exact stockKept_forShopper (f := fun s => updateItemDelta who s itemId delta)
        (fun s u h => stockKept_updateItemDelta h) h
  | removeCartItem itemId =>
      exact stockKept_forShopper (f := fun s => removeItem who s itemId)
        (fun s u h => stockKept_of_all writesNothing_removeItem h) h
  | clearCart =>
      refine stockKept_forShopper
        (f := fun s => (cartQuery who (.deleteCarts s)).bind fun _ => ret .success)
        (fun s u h => stockKept_of_all ?_ h) h
      exact All.bind (writesNothing_query rfl) fun _ => trivial
  | mergeCart =>
      exact absurd rfl hr

end Stock

/-! ### What may be written -/

/-- `@@unique([cartId, bookVariantId])` of `cart_items` -/
def ShopperDb.OneItemEach (db : ShopperDb) : Prop :=
  (db.cartItems.rows.map fun i => (i.cartId, i.bookVariantId)).Nodup

/-- The shoppers that the handlers take the requester for. -/
def Requester.holds (who : Requester) : Shopper → Prop
  | .user userId => who.user = some userId
  | .guest sessionId => truthy who.guestSessionId = some sessionId

/-- The carts of the requester are within the stock. -/
def CartsWithinStock (who : Requester) (db : ShopperDb) : Prop :=
  ∀ s, who.holds s → ∀ c, c ∈ db.cartsOf s → ∀ i, i ∈ itemsIn db.cartItems c.id →
    WithinStock db i

/-- Once the request has returned, an item that is new or was within the stock is within it. -/
def WritesWithinStock (who : Requester) (r : CartRequest) (w : CartWorld) : Prop :=
  ∀ w' a, CartYields (r.handler who) w w' (.ok a) → ∀ i, i ∈ w'.db.cartItems.rows →
    (i ∈ w.db.cartItems.rows → WithinStock w.db i) → WithinStock w'.db i

/--
The carts that a merge combines have no more together than what is available, or so much
that nothing is written.
-/
def MergeFits (who : Requester) (db : ShopperDb) : Prop :=
  ∀ sessionId userId guestCart userCart, truthy who.guestSessionId = some sessionId →
    who.user = some userId → userId ≠ 0 →
    db.newestCart (.guest sessionId) = some guestCart →
    db.newestCart (.user userId) = some userCart →
    -- an adopted cart is deleted along with the guest cart
    userCart.guestSessionId ≠ some sessionId →
    ¬ db.MergeOverflows guestCart userCart →
    ∀ i, i ∈ itemsIn db.cartItems guestCart.id → ∀ available,
      db.availableOf i.bookVariantId = some available →
      quantityInCart (itemsIn db.cartItems userCart.id) i.bookVariantId + i.quantity ≤ available

section Merge

variable {db : ShopperDb} {who : Requester} {r : CartRequest} {w : CartWorld}
variable {sessionId : String} {userId now : Nat} {guestCart userCart : Cart}

theorem ShopperDb.OneItemEach.nodup (h : db.OneItemEach) (cartId : Nat) :
    (variantsIn db.cartItems cartId).Nodup := by
  have hpairs : ((itemsIn db.cartItems cartId).map fun i => (i.cartId, i.bookVariantId)) =
      (variantsIn db.cartItems cartId).map fun v => (cartId, v) := by
    rw [List.map_map]
    exact List.map_congr_left fun i hi =>
      Prod.ext (of_decide_eq_true (List.mem_filter.mp hi).2) rfl
  refine List.Nodup.of_map (fun v => (cartId, v)) ?_
  rw [← hpairs]
  exact h.sublist (List.filter_sublist.map _)

theorem StockKept.writesWithinStock {db' : ShopperDb} {i : CartItem}
    (h : StockKept db db')
    (hi : i ∈ db'.cartItems.rows)
    (hold : i ∈ db.cartItems.rows → WithinStock db i) :
    WithinStock db' i := by
  by_cases hmem : i ∈ db.cartItems.rows
  · exact (WithinStock.congr h.variants).mpr (hold hmem)
  · exact h.written i hi hmem

variable (now guestCart) in
/-- The items of a cart that the merge leaves to the user. -/
theorem quantitiesSet_mergeCartUser
    (hunique : db.OneItemEach)
    (hcart : db.carts.find userCart.id = some userCart)
    (hother : userCart.guestSessionId ≠ some sessionId) :
    QuantitiesSet
      (fun v => quantityInCart (itemsIn db.cartItems userCart.id) v +
        quantityIn (itemsIn db.cartItems guestCart.id) v)
      (variantsIn db.cartItems guestCart.id) db.cartItems
      ((CartOp.mergeCartUser userCart.id sessionId (mergedItems (db.itemsOfCart userCart.id)
        (db.itemsOfCart guestCart.id))).effect now db).cartItems userCart.id := by
  let lines := mergedItems (db.itemsOfCart userCart.id) (db.itemsOfCart guestCart.id)
  let q : Nat → Nat := fun v => quantityInCart (itemsIn db.cartItems userCart.id) v +
    quantityIn (itemsIn db.cartItems guestCart.id) v
  have hq : ∀ line, line ∈ lines → line.2 = q line.1 := by
    intro line hline
    obtain ⟨i, hi, rfl⟩ := List.mem_map.mp hline
    exact congrArg _ (quantityIn_of_mem (hunique.nodup guestCart.id) hi).symm
  have hset := quantitiesSet_upsertItems now (hunique.nodup userCart.id) hq
  rw [map_fst_mergedItems] at hset
  have hitems : itemsIn ((CartOp.mergeCartUser userCart.id sessionId lines).effect now
      db).cartItems userCart.id =
      itemsIn (lines.foldl (upsertItem userCart.id now) db.cartItems) userCart.id :=
    itemsIn_mergeCartUser hcart (decide_eq_false hother)
  exact ⟨by rw [variantsIn, hitems]; exact hset.nodup,
    fun v => by rw [variantsIn, hitems]; exact hset.variants v,
    fun v => by rw [hitems]; exact hset.quantity v⟩

/-- An item that a merge leaves is an old one of another cart, or is in the cart of the user. -/
theorem mem_mergeCartUser
    {items : List (Nat × Nat)} {i : CartItem}
    (hcart : db.carts.find userCart.id = some userCart)
    (hi : i ∈ ((CartOp.mergeCartUser userCart.id sessionId items).effect now db).cartItems.rows) :
    i ∈ db.cartItems.rows ∨ i.cartId = userCart.id ∧ userCart.guestSessionId ≠ some sessionId := by
  obtain ⟨hrow, hkept⟩ := List.mem_filter.mp hi
  by_cases hcartId : i.cartId = userCart.id
  · refine .inr ⟨hcartId, fun hsession => ?_⟩
    -- the cart of the user carries the guest session, so that it has been deleted
    have hfind : (db.carts.update userCart.id fun c : Cart => { c with updatedAt := now }).find
        i.cartId = some { userCart with updatedAt := now } := by
      rw [hcartId]
      exact (Table.find_update _ _ _ _ _).trans (by rw [if_pos rfl, hcart]; rfl)
    dsimp only at hkept
    rw [hfind] at hkept
    simp [Shopper.owns, hsession] at hkept
  · have hmem : i ∈ itemsIn (items.foldl (upsertItem userCart.id now) db.cartItems) i.cartId :=
      List.mem_filter.mpr ⟨hrow, decide_eq_true rfl⟩
    rw [itemsIn, itemsOfCart_upsertItems (Ne.symm hcartId)] at hmem
    exact .inl (List.mem_of_mem_filter hmem)

theorem handler_mergeCart
    (huser : who.user = some userId)
    (hne : userId ≠ 0)
    (hguest : truthy who.guestSessionId = some sessionId) :
    CartRequest.mergeCart.handler who = mergeCart who sessionId userId := by
  simp only [CartRequest.handler, huser, hguest, if_neg hne]

/-- A merge that returns is one of a user with a guest session. -/
theorem merge_of_handler
    {w' : CartWorld} {a : CartAnswer}
    (h : CartYields (CartRequest.mergeCart.handler who) w w' (.ok a)) :
    ∃ sessionId userId, truthy who.guestSessionId = some sessionId ∧ who.user = some userId ∧
      userId ≠ 0 ∧ CartYields (mergeCart who sessionId userId) w w' (.ok a) := by
  cases huser : who.user with
  | none =>
      simp only [CartRequest.handler, huser] at h
      cases h.2
  | some userId =>
      by_cases hzero : userId = 0
      · simp only [CartRequest.handler, huser, if_pos hzero] at h
        cases h.2
      · cases hguest : truthy who.guestSessionId with
        | none =>
            simp only [CartRequest.handler, huser, hguest, if_neg hzero] at h
            cases h.2
        | some sessionId =>
            rw [handler_mergeCart huser hzero hguest] at h
            exact ⟨sessionId, userId, rfl, rfl, hzero, h⟩

/-- The merged items are within the stock if the carts fit. -/
theorem stockKept_mergeCart
    {w' : CartWorld} {a : CartAnswer}
    (hkeys : w.db.ForeignKeys)
    (hunique : w.db.OneItemEach)
    (hstart : CartsWithinStock who w.db)
    (hfits : MergeFits who w.db)
    (h : CartYields (CartRequest.mergeCart.handler who) w w' (.ok a)) :
    StockKept w.db w'.db := by
  obtain ⟨sessionId, userId, hsession, huser, hzero, h⟩ := merge_of_handler h
  have hdb := (yields_mergeCart h).1
  cases hguestCart : w.db.newestCart (.guest sessionId) with
  | none =>
      rw [mergeOutcome, hguestCart] at hdb
      exact hdb ▸ .refl w.db
  | some guestCart =>
      cases huserCart : w.db.newestCart (.user userId) with
      | none =>
          rw [mergeOutcome, hguestCart, huserCart] at hdb
          dsimp only at hdb
          split_ifs at hdb
          · exact hdb ▸ .of_subset rfl fun i hi => hi
          · exact hdb ▸ .refl w.db
      | some userCart =>
          by_cases hoverflows : w.db.MergeOverflows guestCart userCart
          · exact hdb.trans (congrArg Prod.fst
              (mergeOutcome_overflows w.now hkeys.variants hguestCart huserCart hoverflows)) ▸
                .refl w.db
          rw [mergeOutcome_combines w.now hkeys.variants hguestCart huserCart hoverflows] at hdb
          rw [hdb]
          refine ⟨rfl, fun i hi hnew => ?_⟩
          have hfind := find_of_newestCart huserCart
          obtain ⟨hcartId, hother⟩ := (mem_mergeCartUser hfind hi).resolve_left hnew
          have hset := quantitiesSet_mergeCartUser w.now guestCart hunique hfind hother
          have hmem := List.mem_filter (p := fun i : CartItem =>
            decide (i.cartId = userCart.id)) |>.mpr ⟨hi, decide_eq_true hcartId⟩
          have hquantity := hset.quantity i.bookVariantId
          rw [quantityIn_of_mem hset.nodup hmem] at hquantity
          have hvariant := (hset.variants i.bookVariantId).mp (List.mem_map_of_mem hmem)
          unfold WithinStock
          rw [hquantity]
          split_ifs with hguestVariant
          · obtain ⟨j, hj, hjv⟩ := List.mem_map.mp hguestVariant
            have hjwithin := hstart (.guest sessionId) hsession guestCart
              (newestCart_mem hguestCart) j hj
            obtain ⟨hjpos, available, havailable, -⟩ := hjwithin
            have hjfits := hfits sessionId userId guestCart userCart hsession huser hzero
              hguestCart huserCart hother hoverflows j hj available havailable
            rw [← hjv, quantityIn_of_mem (hunique.nodup guestCart.id) hj]
            exact ⟨by omega, available, havailable, by push_cast; exact hjfits⟩
          · obtain ⟨j, hj, hjv⟩ := List.mem_map.mp (hvariant.resolve_right hguestVariant)
            rw [← hjv, quantityIn_of_mem (hunique.nodup userCart.id) hj]
            exact hstart (.user userId) huser userCart (newestCart_mem huserCart) j hj

/-- A merge that keeps within the stock combines carts that fit. -/
theorem mergeFits_of_writesWithinStock
    (hkeys : w.db.ForeignKeys)
    (hunique : w.db.OneItemEach)
    (hstart : CartsWithinStock who w.db)
    (h : WritesWithinStock who .mergeCart w) :
    MergeFits who w.db := by
  intro sessionId userId guestCart userCart hsession huser hzero hguestCart huserCart hother
    hfits i hi available havailable
  obtain ⟨w', x, hyields⟩ := exists_mergeCart who sessionId userId w
  obtain ⟨hdb, hx, -⟩ := yields_mergeCart hyields
  rw [mergeOutcome_combines w.now hkeys.variants hguestCart huserCart hfits] at hdb hx
  rw [hx, ← handler_mergeCart huser hzero hsession] at hyields
  have hset := quantitiesSet_mergeCartUser w.now guestCart hunique
    (find_of_newestCart huserCart) hother
  rw [← show w'.db.cartItems = _ from congrArg ShopperDb.cartItems hdb] at hset
  have hvariant := List.mem_map_of_mem (f := CartItem.bookVariantId) hi
  obtain ⟨j, hj, hjv⟩ := List.mem_map.mp ((hset.variants i.bookVariantId).mpr (.inr hvariant))
  -- the merged item; if it was there before, it was in the cart of the user
  obtain ⟨-, available', havailable', hle⟩ := h w' _ hyields j (List.mem_of_mem_filter hj)
    fun hold => hstart (.user userId) huser userCart (newestCart_mem huserCart) j
      (List.mem_filter.mpr ⟨hold, (List.mem_filter.mp hj).2⟩)
  have hquantity := hset.quantity j.bookVariantId
  rw [quantityIn_of_mem hset.nodup hj, if_pos (hjv ▸ hvariant), hjv,
    quantityIn_of_mem (hunique.nodup guestCart.id) hi] at hquantity
  rw [hjv, hdb] at havailable'
  obtain rfl := Option.some.inj (havailable.symm.trans havailable')
  rw [hquantity] at hle
  push_cast at hle
  exact hle

/--
**Cart quantities and stock.** Each quantity that a request writes is within the stock, with
the one exception of a merge of two carts that have more together than is available, where
the sums still fit into their column.
-/
theorem cart_quantities_iff
    (hkeys : w.db.ForeignKeys)
    (hunique : w.db.OneItemEach)
    (hstart : CartsWithinStock who w.db) :
    WritesWithinStock who r w ↔ (r = .mergeCart → MergeFits who w.db) := by
  constructor
  · rintro h rfl
    exact mergeFits_of_writesWithinStock hkeys hunique hstart h
  · intro hfits w' a h i hi hold
    by_cases hr : r = .mergeCart
    · subst hr
      exact (stockKept_mergeCart hkeys hunique hstart (hfits rfl) h).writesWithinStock hi hold
    · exact (stockKept_handler hr h).writesWithinStock hi hold

end Merge


/-! ### Samples -/

/-- One of the two items is lowered. -/
theorem delta_allOrNothing_lowered :
    DeltaAllOrNothing ⟨some 1, none⟩ ⟨3, 2, 1, 3, 0⟩ (-1) ⟨sampleTwoCarts, 0, []⟩ :=
  (delta_allOrNothing_iff (s := .user 1) sampleTwoCarts_keys rfl (by decide +kernel)).mpr
    (.inl ⟨10, by decide +kernel, by decide⟩)

/-- The two carts, with so many copies of each variant. -/
def sampleTwoCartsOf (copies : Int) : ShopperDb :=
  { sampleTwoCarts with
    variants := sampleTwoCarts.variants.map fun v =>
      { v with stock := copies, available := copies } }

theorem sampleTwoCartsOf_keys (copies : Int) : (sampleTwoCartsOf copies).ForeignKeys where
  itemsInCarts := sampleTwoCarts_keys.itemsInCarts
  variants := by
    have hall : ∀ i, i ∈ sampleTwoCarts.cartItems.rows → i.bookVariantId = 1 ∨
        i.bookVariantId = 2 := by decide +kernel
    intro i hi
    rcases hall i hi with h | h
    · rw [h]
      rfl
    · rw [h]
      rfl
  users := sampleTwoCarts_keys.users

/-- The last copies are taken out of the cart: the item is gone, and the call throws. -/
theorem soldOut_item_deleted :
    ¬ ∀ (who : Requester) (s : Shopper) (item : CartItem) (delta : Int) (w : CartWorld),
      w.db.ForeignKeys → who.shopper = some s → w.db.itemOf item.id s = some item →
        DeltaAllOrNothing who item delta w := by
  intro h
  have hitem : (sampleTwoCartsOf 0).itemOf 3 (.user 1) = some ⟨3, 2, 1, 3, 0⟩ := by
    decide +kernel
  have hkeys := sampleTwoCartsOf_keys 0
  obtain ⟨w', x, hyields⟩ := exists_updateCartItemDelta ⟨some 1, none⟩ 3 (-3)
    ⟨sampleTwoCartsOf 0, 0, []⟩
  obtain ⟨hkept, -, -⟩ := h ⟨some 1, none⟩ (.user 1) ⟨3, 2, 1, 3, 0⟩ (-3)
    ⟨sampleTwoCartsOf 0, 0, []⟩ hkeys rfl hitem w' x hyields
  obtain ⟨hdb, hx⟩ := yields_updateCartItemDelta (s := .user 1) hkeys rfl hitem hyields
  have hthrown : x = .error (.notFound CartMessage.outOfStock) := hx.trans (by decide +kernel)
  have hgone : w'.db.cartItems.find 3 = none := by
    rw [hdb]
    decide +kernel
  rw [hkept _ hthrown] at hgone
  revert hgone
  decide +kernel

theorem sampleTwoCartsOf_unique (copies : Int) : (sampleTwoCartsOf copies).OneItemEach := by
  have hnodup : (sampleTwoCarts.cartItems.rows.map fun i => (i.cartId, i.bookVariantId)).Nodup := by
    decide +kernel
  exact hnodup

/-- The user and the guest session each have three copies at most. -/
theorem sampleTwoCartsOf_within {copies : Int} (h : 3 ≤ copies) (who : Requester) :
    CartsWithinStock who (sampleTwoCartsOf copies) := by
  have hall : ∀ i, i ∈ sampleTwoCarts.cartItems.rows → (1 ≤ i.quantity ∧ i.quantity ≤ 3) ∧
      (i.bookVariantId = 1 ∨ i.bookVariantId = 2) := by decide +kernel
  intro s _ c _ i hi
  obtain ⟨hquantity, hvariant⟩ := hall i (List.mem_of_mem_filter hi)
  refine ⟨hquantity.1, copies, ?_, by omega⟩
  rcases hvariant with h | h
  · rw [h]
    rfl
  · rw [h]
    rfl

/-- With five copies the two carts fit. -/
theorem cart_quantities_merged :
    WritesWithinStock ⟨some 1, some "guest"⟩ .mergeCart ⟨sampleTwoCartsOf 5, 0, []⟩ := by
  refine (cart_quantities_iff (sampleTwoCartsOf_keys 5) (sampleTwoCartsOf_unique 5)
    (sampleTwoCartsOf_within (by decide) _)).mpr fun _ => ?_
  intro sessionId userId guestCart userCart hsession huser _ hguestCart huserCart _ _ i hi
    available havailable
  obtain rfl := Option.some.inj (hsession.symm.trans (by decide : _ = some "guest"))
  obtain rfl := Option.some.inj huser
  have hg : (sampleTwoCartsOf 5).newestCart (.guest "guest") =
    some ⟨1, none, some "guest", 0⟩ := by decide +kernel
  have hu : (sampleTwoCartsOf 5).newestCart (.user 1) = some ⟨2, some 1, none, 0⟩ := by
    decide +kernel
  obtain rfl := Option.some.inj (hguestCart.symm.trans hg)
  obtain rfl := Option.some.inj (huserCart.symm.trans hu)
  have hall : ∀ i, i ∈ itemsIn (sampleTwoCartsOf 5).cartItems 1 →
      (sampleTwoCartsOf 5).availableOf i.bookVariantId = some 5 ∧
        quantityInCart (itemsIn (sampleTwoCartsOf 5).cartItems 2) i.bookVariantId +
          i.quantity ≤ 5 := by decide +kernel
  obtain ⟨hfive, hle⟩ := hall i hi
  obtain rfl := Option.some.inj (havailable.symm.trans hfive)
  exact_mod_cast hle

/-- With four copies the merge writes five. -/
theorem merged_over_stock :
    ¬ ∀ (who : Requester) (r : CartRequest) (w : CartWorld),
      w.db.ForeignKeys → w.db.OneItemEach → CartsWithinStock who w.db →
        WritesWithinStock who r w := by
  intro h
  obtain ⟨w', x, hyields⟩ := exists_mergeCart ⟨some 1, some "guest"⟩ "guest" 1
    ⟨sampleTwoCartsOf 4, 0, []⟩
  obtain ⟨hdb, hx, -⟩ := yields_mergeCart hyields
  have hreturned : x = .ok (.merged 1) := hx.trans (by decide +kernel)
  rw [hreturned] at hyields
  have hmem : (⟨3, 2, 1, 5, 0⟩ : CartItem) ∈ w'.db.cartItems.rows := by
    rw [hdb]
    decide +kernel
  obtain ⟨-, available, havailable, hle⟩ := h ⟨some 1, some "guest"⟩ .mergeCart
    ⟨sampleTwoCartsOf 4, 0, []⟩ (sampleTwoCartsOf_keys 4) (sampleTwoCartsOf_unique 4)
    (sampleTwoCartsOf_within (by decide) _) w' (.merged 1) hyields _ hmem
    fun hold => absurd hold (by decide +kernel)
  have hfour : w'.db.availableOf 1 = some 4 := by
    rw [hdb]
    decide +kernel
  obtain rfl := Option.some.inj (havailable.symm.trans hfour)
  exact absurd hle (by decide)

end BookStore
