import BookStore.Async.Logic
import BookStore.Async.Sequential
import BookStore.Shopper.CartView
import Mathlib.Algebra.Group.Pi.Basic
import Mathlib.Algebra.Order.BigOperators.Group.List
import Mathlib.Algebra.Order.Group.Nat

/-!
# Adding to a cart

Calls of `addCartItem` by one shopper, statement by statement in any order.  A call
reads the quantity of an item and writes the sum; between the two another call may have
written.

* `FreshWrites`: a quantity is written over the one that was read, and a cart is created
  only where the shopper has none.
* `addsLogic` counts what the calls under way have yet to add, variant by variant.
* `adds_kept` is the result, for the tables and for what `getCart` shows; in
  `add_lost` two calls add to what both have read.
-/

namespace BookStore

open Async Program Logic

/-- Whom a request is for. -/
def Requester.shopper (who : Requester) : Option Shopper :=
  match who.user, truthy who.guestSessionId with
  | some userId, _ => some (.user userId)
  | none, some guestSessionId => some (.guest guestSessionId)
  | none, none => none

theorem Requester.shopper_cases {who : Requester} {s : Shopper} (h : who.shopper = some s) :
    (∃ userId, who.user = some userId ∧ s = .user userId) ∨
      ∃ sessionId, who.user = none ∧ truthy who.guestSessionId = some sessionId ∧
        s = .guest sessionId := by
  unfold Requester.shopper at h
  cases huser : who.user with
  | some userId =>
      rw [huser] at h
      exact .inl ⟨userId, rfl, (Option.some.inj h).symm⟩
  | none =>
      rw [huser] at h
      cases hguest : truthy who.guestSessionId with
      | some sessionId =>
          rw [hguest] at h
          exact .inr ⟨sessionId, rfl, rfl, (Option.some.inj h).symm⟩
      | none =>
          rw [hguest] at h
          cases h

/-- A call of `addCartItem`. -/
structure AddCall where
  who : Requester
  body : AddCartItemRequestDto
  langId : Nat

def AddCall.handler (call : AddCall) : CartService CartAnswer :=
  addCartItem call.who call.body call.langId

/-- What the calls add of a variant. -/
def addedBy (calls : List AddCall) (bookVariantId : Nat) : Nat :=
  ((calls.filter fun call => decide (call.body.bookVariantId = bookVariantId)).map
    fun call => call.body.added).sum

namespace ShopperDb

variable (db : ShopperDb)

/-- The item is in a cart of the shopper. -/
def inCartOf (s : Shopper) (i : CartItem) : Bool :=
  (db.carts.find i.cartId).any fun c => s.owns c.userId c.guestSessionId

/-- The quantity of a variant in the carts of a shopper. -/
def cartQuantity (s : Shopper) (bookVariantId : Nat) : Nat :=
  ((db.cartItems.filter fun i =>
    db.inCartOf s i && decide (i.bookVariantId = bookVariantId)).map CartItem.quantity).sum

/-- The foreign key `cart_id` -/
def ItemsInCarts : Prop :=
  ∀ i, i ∈ db.cartItems.rows → (db.carts.find i.cartId).isSome = true

end ShopperDb

/-- A quantity is written over the one it was computed from; no second cart is created. -/
def FreshWrites (w : CartWorld) (st : CartStmt) (o : Outcome) : Prop :=
  match st.op with
  | .createCart s _ => o = .fail ∨ w.db.cartsOf s = []
  | .updateQuantityById id _ read =>
      o = .fail ∨ ∀ i, w.db.cartItems.find id = some i → i.quantity = read
  | _ => True

/-- Carts and items stay, and so do the variants. -/
structure OnlyAdded (db db' : ShopperDb) : Prop where
  carts : ∀ c, c ∈ db.carts.rows → c ∈ db'.carts.rows
  cartItems : ∀ i, i ∈ db.cartItems.rows → ∃ i', i' ∈ db'.cartItems.rows ∧
    i'.id = i.id ∧ i'.cartId = i.cartId ∧ i'.bookVariantId = i.bookVariantId
  variants : db'.variants = db.variants

/-- What is in the cart and what the calls have yet to add make up `total`. -/
structure AddsInv (s : Shopper) (total pending : Nat → Nat) (db : ShopperDb) : Prop where
  itemsInCarts : db.ItemsInCarts
  oneCart : (db.cartsOf s).length ≤ 1
  sums : ∀ v, db.cartQuantity s v + pending v = total v

/-- The stock covers `total`. -/
def Covers (total : Nat → Nat) (bookVariantId : Nat) (db : ShopperDb) : Prop :=
  ∀ available, db.availableOf bookVariantId = some available →
    (total bookVariantId : Int) ≤ available

/-- A cart of the shopper. -/
def CartThere (s : Shopper) (cartId : Nat) (db : ShopperDb) : Prop :=
  ∃ c, c ∈ db.cartsOf s ∧ c.id = cartId

/-- An item of a variant in a cart of the shopper. -/
def ItemThere (s : Shopper) (bookVariantId itemId : Nat) (db : ShopperDb) : Prop :=
  ∃ i, i ∈ db.cartItems.rows ∧ i.id = itemId ∧ i.bookVariantId = bookVariantId ∧
    db.inCartOf s i = true

section Adds

variable {db db' : ShopperDb} {s : Shopper} {total pending : Nat → Nat} {cartId itemId v : Nat}

/-! ### What lasts -/

theorem OnlyAdded.refl (db : ShopperDb) : OnlyAdded db db :=
  ⟨fun _ h => h, fun i h => ⟨i, h, rfl, rfl, rfl⟩, rfl⟩

theorem OnlyAdded.trans {u : ShopperDb} (h : OnlyAdded db db') (h' : OnlyAdded db' u) :
    OnlyAdded db u where
  carts := fun c hc => h'.carts c (h.carts c hc)
  cartItems := by
    intro i hi
    obtain ⟨i', hi', hid, hcart, hvariant⟩ := h.cartItems i hi
    obtain ⟨i'', hi'', hid', hcart', hvariant'⟩ := h'.cartItems i' hi'
    exact ⟨i'', hi'', hid'.trans hid, hcart'.trans hcart, hvariant'.trans hvariant⟩
  variants := h'.variants.trans h.variants

theorem Covers.mono (h : Covers total v db) (hadded : OnlyAdded db db') : Covers total v db' := by
  unfold Covers ShopperDb.availableOf
  rw [hadded.variants]
  exact h

theorem CartThere.mono (h : CartThere s cartId db) (hadded : OnlyAdded db db') :
    CartThere s cartId db' := by
  obtain ⟨c, hc, hid⟩ := h
  obtain ⟨hrow, howns⟩ := List.mem_filter.mp hc
  exact ⟨c, List.mem_filter.mpr ⟨hadded.carts c hrow, howns⟩, hid⟩

theorem inCartOf_iff {i : CartItem} :
    db.inCartOf s i = true ↔ CartThere s i.cartId db := by
  simp only [ShopperDb.inCartOf, CartThere, ShopperDb.cartsOf, Table.filter, Option.any_eq_true,
    List.mem_filter, Table.find_eq_some_iff]
  constructor
  · rintro ⟨c, ⟨hrow, hid⟩, howns⟩
    exact ⟨c, ⟨hrow, howns⟩, hid⟩
  · rintro ⟨c, ⟨hrow, howns⟩, hid⟩
    exact ⟨c, ⟨hrow, hid⟩, howns⟩

theorem ItemThere.mono (h : ItemThere s v itemId db) (hadded : OnlyAdded db db') :
    ItemThere s v itemId db' := by
  obtain ⟨i, hi, hid, hvariant, hcart⟩ := h
  obtain ⟨i', hi', hid', hcart', hvariant'⟩ := hadded.cartItems i hi
  refine ⟨i', hi', hid'.trans hid, hvariant'.trans hvariant, inCartOf_iff.mpr ?_⟩
  rw [hcart']
  exact (inCartOf_iff.mp hcart).mono hadded

/-! ### What a statement adds -/

/-- What an item counts for. -/
def ShopperDb.weight (db : ShopperDb) (s : Shopper) (v : Nat) (i : CartItem) : Int :=
  if (db.inCartOf s i && decide (i.bookVariantId = v)) = true then i.quantity else 0

theorem weight_of_inCartOf {i : CartItem} (h : db.inCartOf s i = true) :
    db.weight s v i = if i.bookVariantId = v then (i.quantity : Int) else 0 := by
  simp [ShopperDb.weight, h]

variable (db) in
/-- The quantity as a sum over all items. -/
theorem cartQuantity_eq_total (hcarts : db'.carts = db.carts) :
    (db'.cartQuantity s v : Int) = Table.total (db.weight s v) db'.cartItems := by
  unfold ShopperDb.cartQuantity Table.total Table.filter ShopperDb.weight ShopperDb.inCartOf
  rw [hcarts]
  induction db'.cartItems.rows with
  | nil =>
      rfl
  | cons i rows ih =>
      rw [List.filter_cons, List.map_cons, List.sum_cons, ← ih]
      split_ifs
      · simp
      · simp

theorem quantity_le_cartQuantity {i : CartItem}
    (hi : i ∈ db.cartItems.rows)
    (hcart : db.inCartOf s i = true) :
    i.quantity ≤ db.cartQuantity s i.bookVariantId :=
  List.le_sum_of_mem (List.mem_map_of_mem (List.mem_filter.mpr ⟨hi, by simp [hcart]⟩))

theorem effect_createCart
    (s' : Shopper) (langId now : Nat)
    (hitems : db.ItemsInCarts) :
    OnlyAdded db ((CartOp.createCart s' langId).effect now db) ∧
      ((CartOp.createCart s' langId).effect now db).ItemsInCarts ∧
      ∀ v, ((CartOp.createCart s' langId).effect now db).cartQuantity s v =
        db.cartQuantity s v := by
  have hfind : ∀ i, i ∈ db.cartItems.rows →
      (db.carts.insert (newCart s' now) (key_newCart s' now)).find i.cartId =
        db.carts.find i.cartId := by
    intro i hi
    obtain ⟨c, hc⟩ := Option.isSome_iff_exists.mp (hitems i hi)
    rw [Table.find_insert, if_neg (Table.find_lt hc).ne]
  refine ⟨⟨fun c hc => List.mem_append_left _ hc, fun i hi => ⟨i, hi, rfl, rfl, rfl⟩, rfl⟩,
    fun i hi => ?_, fun v => ?_⟩
  · exact (congrArg Option.isSome (hfind i hi)).trans (hitems i hi)
  · refine congrArg (fun l => (l.map CartItem.quantity).sum) (List.filter_congr fun i hi => ?_)
    unfold ShopperDb.inCartOf
    rw [show ((CartOp.createCart s' langId).effect now db).carts.find i.cartId =
      db.carts.find i.cartId from hfind i hi]

theorem effect_updateQuantity
    (quantity read now : Nat) {i : CartItem}
    (hitems : db.ItemsInCarts)
    (hi : db.cartItems.find itemId = some i)
    (hcart : db.inCartOf s i = true) :
    OnlyAdded db ((CartOp.updateQuantityById itemId quantity read).effect now db) ∧
      ((CartOp.updateQuantityById itemId quantity read).effect now db).ItemsInCarts ∧
      ∀ v, ((CartOp.updateQuantityById itemId quantity read).effect now db).cartQuantity s v +
          (if i.bookVariantId = v then i.quantity else 0) =
        db.cartQuantity s v + if i.bookVariantId = v then quantity else 0 := by
  refine ⟨⟨fun c hc => hc, fun j hj => ?_, rfl⟩, fun j hj => ?_, fun v => ?_⟩
  · refine ⟨_, List.mem_map.mpr ⟨j, hj, rfl⟩, ?_⟩
    split_ifs <;> exact ⟨rfl, rfl, rfl⟩
  · obtain ⟨j, hrow, rfl⟩ := List.mem_map.mp hj
    split_ifs
    · exact hitems j hrow
    · exact hitems j hrow
  · have hold := cartQuantity_eq_total db (s := s) (v := v) (rfl : db.carts = db.carts)
    have hnew := cartQuantity_eq_total db (s := s) (v := v)
      (rfl : ((CartOp.updateQuantityById itemId quantity read).effect now db).carts = db.carts)
    have hupdate := Table.total_update (db.weight s v) db.cartItems itemId
      (fun i => { i with quantity := quantity }) fun _ => rfl
    have hcart' : db.inCartOf s { i with quantity := quantity } = true := hcart
    rw [hi, Option.elim_some, weight_of_inCartOf hcart', weight_of_inCartOf hcart] at hupdate
    simp only [CartOp.effect] at hnew hupdate ⊢
    split_ifs at hupdate ⊢ <;> omega

theorem effect_createItem
    (v quantity now : Nat)
    (hitems : db.ItemsInCarts)
    (hcart : CartThere s cartId db) :
    OnlyAdded db ((CartOp.createByCartIdAndBookVariantId cartId v quantity).effect now db) ∧
      ((CartOp.createByCartIdAndBookVariantId cartId v quantity).effect now db).ItemsInCarts ∧
      ∀ v', ((CartOp.createByCartIdAndBookVariantId cartId v quantity).effect
          now db).cartQuantity s v' =
        db.cartQuantity s v' + if v = v' then quantity else 0 := by
  refine ⟨⟨fun c hc => hc, fun j hj => ⟨j, List.mem_append_left _ hj, rfl, rfl, rfl⟩, rfl⟩,
    fun j hj => ?_, fun v' => ?_⟩
  · rcases List.mem_append.mp hj with hj | hj
    · exact hitems j hj
    · rw [List.mem_singleton.mp hj]
      obtain ⟨c, hc, rfl⟩ := hcart
      exact Option.isSome_iff_exists.mpr ⟨c, Table.find_of_mem (List.mem_filter.mp hc).1⟩
  · have hold := cartQuantity_eq_total db (s := s) (v := v') (rfl : db.carts = db.carts)
    have hnew := cartQuantity_eq_total db (s := s) (v := v')
      (rfl : ((CartOp.createByCartIdAndBookVariantId cartId v quantity).effect
        now db).carts = db.carts)
    have hinsert := Table.total_insert (db.weight s v') db.cartItems
      (fun n => ⟨n, cartId, v, quantity, now⟩) fun _ => rfl
    rw [weight_of_inCartOf (inCartOf_iff.mpr hcart)] at hinsert
    simp only [CartOp.effect] at hnew hinsert ⊢
    split_ifs at hinsert ⊢ <;> omega

/-! ### One call -/

def addsLogic (s : Shopper) (total : Nat → Nat) : Logic CartStmt CartWorld (Nat → Nat) where
  inv := fun pending w => AddsInv s total pending w.db
  rely := fun w w' => OnlyAdded w.db w'.db
  rely_refl := fun w => .refl w.db
  rely_trans := fun _ _ _ h h' => h.trans h'
  guard := FreshWrites
  done := fun pending => pending = 0

/-- The call that has yet to add `pending` adds it and returns what meets `Q`. -/
abbrev Adds {α : Type} (s : Shopper) (total : Nat → Nat)
    (Q : α → (Nat → Nat) → ShopperDb → Prop)
    (p : CartService α) (pending : Nat → Nat) (w : CartWorld) : Prop :=
  Safe (addsLogic s total) cartExec .database (fun x m v => ∀ a, x = .ok a → Q a m v.db)
    p pending w

variable {α β : Type} {who : Requester} {w : CartWorld}

theorem adds_ret {a : α} {Q : α → (Nat → Nat) → ShopperDb → Prop}
    (h : ∀ db', OnlyAdded w.db db' → Q a pending db') :
    Adds s total Q (ret a) pending w :=
  fun v hwv b hb => by
    cases hb
    exact h v.db hwv

theorem adds_raise {e : CartFailure} {Q : α → (Nat → Nat) → ShopperDb → Prop} :
    Adds s total Q (raise e) pending w :=
  fun _ _ _ h => by cases h

theorem adds_bind
    {p : CartService α} {f : α → CartService β}
    {P : α → (Nat → Nat) → ShopperDb → Prop} {Q : β → (Nat → Nat) → ShopperDb → Prop}
    (hp : Adds s total P p pending w)
    (hf : ∀ a m v, OnlyAdded w.db v.db → P a m v.db → Adds s total Q (f a) m v) :
    Adds s total Q (p.bind f) pending w := by
  refine Safe.bind (hp.mono fun x m v hwv hx => ?_)
  cases x with
  | ok a =>
      exact hf a m v hwv (hx a rfl)
  | error e =>
      exact fun _ h => by cases h

theorem adds_await_bind
    {op : CartOp} {f : CartOpResponse op → CartService β}
    {Q : β → (Nat → Nat) → ShopperDb → Prop}
    (h : ∀ (v v' : CartWorld) o r F, OnlyAdded w.db v.db →
      AddsInv s total (pending + F) v.db → FreshWrites v ⟨who, op⟩ o → o ≠ .fail →
      op.answer v.now v.db = .ok r → v'.db = op.effect v.now v.db →
      ∃ m, AddsInv s total (m + F) v'.db ∧ OnlyAdded v.db v'.db ∧
        Adds s total Q (f r) m v') :
    Adds s total Q ((cartQuery who op).bind f) pending w := by
  refine Safe.await_bind (StatementSafe.of_exec (fun v e _ v' _ a h => by cases h) ?_)
  intro v F o v' r hwv hinv hguard ho hexec
  obtain ⟨hanswer, hv'⟩ := cartExec_ok.mp hexec
  have heffect : v'.db = op.effect v.now v.db := by rw [hv']
  obtain ⟨m, hinv', hadded, hsafe⟩ := h v v' o r F hwv hinv hguard ho hanswer heffect
  exact ⟨m, hinv', hadded, hsafe, fun _ _ a h => by cases h⟩

/-- A statement that changes no table. -/
theorem adds_read_bind
    {op : CartOp} {f : CartOpResponse op → CartService β}
    {Q : β → (Nat → Nat) → ShopperDb → Prop}
    (hop : ∀ now db, op.effect now db = db)
    (h : ∀ (v : CartWorld) now r, OnlyAdded w.db v.db → op.answer now v.db = .ok r →
      Adds s total Q (f r) pending v) :
    Adds s total Q ((cartQuery who op).bind f) pending w := by
  refine adds_await_bind fun v v' o r F hwv hinv _ _ hanswer heffect => ?_
  rw [hop] at heffect
  refine ⟨pending, heffect ▸ hinv, heffect ▸ .refl v.db, h v' v.now r ?_ ?_⟩
  · rw [heffect]
    exact hwv
  · rw [heffect]
    exact hanswer

theorem adds_foundUser {userId : Nat} :
    Adds s total (fun id m _ => id = userId ∧ m = pending) (foundUser who userId) pending w := by
  refine adds_read_bind (fun _ _ => rfl) fun v now found _ hanswer => ?_
  simp only [CartOp.answer, Except.ok.injEq] at hanswer
  subst hanswer
  split_ifs
  · exact adds_ret fun _ _ => ⟨rfl, rfl⟩
  · exact adds_raise

/-- The cart that is found or created, with the items that were read. -/
def CartSeen (s : Shopper) (cart : CartWithItems) (db : ShopperDb) : Prop :=
  CartThere s cart.cart.id db ∧
    ∀ row, row ∈ cart.items → ItemThere s row.item.bookVariantId row.item.id db

theorem CartSeen.mono {cart : CartWithItems} (h : CartSeen s cart db)
    (hadded : OnlyAdded db db') : CartSeen s cart db' :=
  ⟨h.1.mono hadded, fun row hrow => (h.2 row hrow).mono hadded⟩

theorem cartSeen_of_newestCart {langId : Nat} {c : Cart} (hc : db.newestCart s = some c) :
    CartSeen s (db.cartWithItems langId c) db := by
  have hmem := newestCart_mem hc
  refine ⟨⟨c, hmem, rfl⟩, fun row hrow => ?_⟩
  obtain ⟨i, hi, rfl⟩ := List.mem_map.mp hrow
  obtain ⟨hi, hcart⟩ := List.mem_filter.mp ((List.mem_insertionSort _).mp hi)
  refine ⟨i, hi, rfl, rfl, inCartOf_iff.mpr ⟨c, hmem, ?_⟩⟩
  exact (of_decide_eq_true hcart).symm

theorem adds_findOrCreateCart {langId : Nat} :
    Adds s total (fun cart m db => CartSeen s cart db ∧ m = pending)
      (findOrCreateCart who s langId) pending w := by
  refine adds_read_bind (fun _ _ => rfl) fun v now found _ hanswer => ?_
  simp only [CartOp.answer, Except.ok.injEq] at hanswer
  subst hanswer
  cases hc : v.db.newestCart s with
  | some c =>
      exact adds_ret fun db' hadded => ⟨(cartSeen_of_newestCart hc).mono hadded, rfl⟩
  | none =>
      have hcreate : Adds s total (fun cart m db => CartSeen s cart db ∧ m = pending)
          ((cartQuery who (.createCart s langId)).bind ret) pending v := by
        refine adds_await_bind fun u u' o created F hu hinv hguard ho hanswer heffect => ?_
        obtain ⟨hadded, hitems, hsums⟩ := effect_createCart (s := s) s langId u.now
          hinv.itemsInCarts
        have hcarts : u'.db.cartsOf s = [newCart s u.now u.db.carts.next] := by
          rw [heffect, cartsOf_createCart, hguard.resolve_left ho]
          rfl
        rw [← heffect] at hadded hitems hsums
        refine ⟨pending, ⟨hitems, by simp [hcarts], fun v => ?_⟩, hadded,
          adds_ret fun db' hdb' => ⟨CartSeen.mono ⟨⟨_, ?_, rfl⟩, ?_⟩ hdb', rfl⟩⟩
        · rw [hsums]
          exact hinv.sums v
        · rw [hcarts, answer_createCart hanswer]
          exact List.mem_singleton_self _
        · rw [answer_createCart hanswer]
          exact fun _ h => by cases h
      rwa [Program.bind_await] at hcreate

/-- What `resolveAdjustedQuantity` returns for a quantity that has grown. -/
def Limited (desiredQuantity bookVariantId quantity : Nat) (db : ShopperDb) : Prop :=
  ∃ available, db.availableOf bookVariantId = some available ∧ 0 < available ∧
    quantity = min desiredQuantity available.toNat

theorem Limited.mono {desired quantity : Nat} (h : Limited desired v quantity db)
    (hadded : OnlyAdded db db') : Limited desired v quantity db' := by
  unfold Limited ShopperDb.availableOf
  rw [hadded.variants]
  exact h

theorem adds_resolveAdjustedQuantity
    {currentQuantity added : Nat}
    (hpos : 0 < added) :
    Adds s total (fun q m db => Limited (currentQuantity + added) v q db ∧ m = pending)
      (resolveAdjustedQuantity who s itemId v currentQuantity added) pending w := by
  unfold resolveAdjustedQuantity
  have hdesired : ((currentQuantity : Int) + (added : Int)).toNat = currentQuantity + added := by
    omega
  dsimp only
  rw [hdesired, if_neg (by omega)]
  refine adds_read_bind (fun _ _ => rfl) fun u now stock _ hanswer => ?_
  simp only [CartOp.answer, Except.ok.injEq] at hanswer
  cases stock with
  | none =>
      exact adds_raise
  | some available =>
      dsimp only
      split_ifs with hsold
      · exact adds_raise
      · exact adds_ret fun db' hadded =>
          ⟨Limited.mono ⟨available, hanswer, by omega, rfl⟩ hadded, rfl⟩

/-- The write over the quantity that was read. -/
theorem adds_updateQuantity_bind
    {added read quantity : Nat} {f : CartItem → CartService CartAnswer}
    (hitem : ItemThere s v itemId w.db)
    (hcovers : Covers total v w.db)
    (hlimited : Limited (read + added) v quantity w.db)
    (hf : ∀ i u, Adds s total (fun _ m _ => m = 0) (f i) 0 u) :
    Adds s total (fun _ m _ => m = 0)
      ((cartQuery who (.updateQuantityById itemId quantity read)).bind f)
      (Pi.single v added) w := by
  refine adds_await_bind fun u u' o r F hu hinv hguard ho _ heffect => ?_
  obtain ⟨i, hi, hid, rfl, hcart⟩ := hitem.mono hu
  have hfind : u.db.cartItems.find itemId = some i := Table.find_eq_some_iff.mpr ⟨hi, hid⟩
  have hfresh : i.quantity = read := hguard.resolve_left ho i hfind
  obtain ⟨hadded, hitems, hsums⟩ := effect_updateQuantity (s := s) quantity read u.now
    hinv.itemsInCarts hfind hcart
  rw [← heffect] at hadded hitems hsums
  refine ⟨0, ⟨hitems, ?_, fun v' => ?_⟩, hadded, hf r u'⟩
  · rw [heffect]
    exact hinv.oneCart
  · -- the stock covers what was read and what is added
    have hv := hinv.sums i.bookVariantId
    have hold := hsums i.bookVariantId
    have hq : quantity = read + added := by
      obtain ⟨available, havailable, hpos, hquantity⟩ := hlimited.mono hu
      have hcovered := hcovers.mono hu available havailable
      have hread := quantity_le_cartQuantity (Table.find_mem hfind) hcart
      rw [Pi.add_apply, Pi.single_eq_same] at hv
      omega
    have hv' := hinv.sums v'
    have hnew := hsums v'
    simp only [Pi.add_apply, Pi.zero_apply, Pi.single_apply] at hv' ⊢
    split_ifs at hv' hnew <;> omega

theorem adds_createCartItem
    {added : Nat}
    (hcart : CartThere s cartId w.db) :
    Adds s total (fun _ m _ => m = 0) (createCartItem who cartId v added)
      (Pi.single v added) w := by
  refine adds_read_bind (fun _ _ => rfl) fun u now stock hu _ => ?_
  cases stock with
  | none =>
      exact adds_raise
  | some available =>
      dsimp only
      split_ifs
      · exact adds_raise
      · refine adds_await_bind fun u' u'' o r F hu' hinv _ _ _ heffect => ?_
        obtain ⟨hadded, hitems, hsums⟩ := effect_createItem v added u'.now
          hinv.itemsInCarts ((hcart.mono hu).mono hu')
        rw [← heffect] at hadded hitems hsums
        refine ⟨0, ⟨hitems, ?_, fun v' => ?_⟩, hadded, adds_ret fun _ _ => rfl⟩
        · rw [heffect]
          exact hinv.oneCart
        · have hv' := hinv.sums v'
          rw [hsums]
          simp only [Pi.add_apply, Pi.zero_apply, Pi.single_apply] at hv' ⊢
          split_ifs at hv' ⊢ <;> omega

theorem adds_addCartItemUser
    {userId langId : Nat} {body : AddCartItemRequestDto}
    (hcovers : Covers total body.bookVariantId w.db)
    (hpos : 0 < body.added) :
    Adds (.user userId) total (fun _ m _ => m = 0) (addCartItemUser who userId body langId)
      (Pi.single body.bookVariantId body.added) w := by
  refine adds_bind adds_foundUser fun id m v hv hid => ?_
  obtain ⟨rfl, rfl⟩ := hid
  refine adds_bind adds_findOrCreateCart fun cart m v' hv' hcart => ?_
  obtain ⟨hcart, rfl⟩ := hcart
  refine adds_read_bind (fun _ _ => rfl) fun u now existedItem hu hanswer => ?_
  have hcovers := ((hcovers.mono hv).mono hv').mono hu
  have hcart := hcart.mono hu
  cases existedItem with
  | none =>
      exact adds_createCartItem hcart.1
  | some i =>
      simp only [CartOp.answer, Except.ok.injEq] at hanswer
      obtain ⟨hi, hcond⟩ := Table.findFirst_eq_some hanswer
      simp only [Bool.and_eq_true, decide_eq_true_eq] at hcond
      have hitem : ItemThere (.user id) body.bookVariantId i.id u.db :=
        ⟨i, hi, rfl, hcond.2, inCartOf_iff.mpr (hcond.1 ▸ hcart.1)⟩
      refine adds_bind (adds_resolveAdjustedQuantity hpos) fun q m u' hu' hq => ?_
      obtain ⟨hq, rfl⟩ := hq
      exact adds_updateQuantity_bind (hitem.mono hu') (hcovers.mono hu') hq
        fun _ _ => adds_ret fun _ _ => rfl

theorem adds_addCartItemGuest
    {guestSessionId : String} {langId : Nat} {body : AddCartItemRequestDto}
    (hcovers : Covers total body.bookVariantId w.db)
    (hpos : 0 < body.added) :
    Adds (.guest guestSessionId) total (fun _ m _ => m = 0)
      (addCartItemGuest who guestSessionId body langId)
      (Pi.single body.bookVariantId body.added) w := by
  refine adds_bind adds_findOrCreateCart fun cart m v hv hcart => ?_
  obtain ⟨hcart, rfl⟩ := hcart
  split
  · rename_i row hrow
    have hvariant : row.item.bookVariantId = body.bookVariantId := by
      simpa using List.find?_some hrow
    have hitem := hcart.2 row (List.mem_of_find?_eq_some hrow)
    rw [hvariant] at hitem
    refine adds_bind (adds_resolveAdjustedQuantity hpos) fun q m u hu hq => ?_
    obtain ⟨hq, rfl⟩ := hq
    split_ifs with hzero
    · -- the quantity is positive
      obtain ⟨available, -, havailable, hmin⟩ := hq
      omega
    · exact adds_updateQuantity_bind (hitem.mono hu) ((hcovers.mono hv).mono hu) hq
        fun _ _ => adds_ret fun _ _ => rfl
  · exact adds_createCartItem hcart.1

theorem AddCartItemRequestDto.added_pos (body : AddCartItemRequestDto) : 0 < body.added := by
  unfold AddCartItemRequestDto.added
  cases hq : body.quantity with
  | none =>
      exact Nat.one_pos
  | some q =>
      exact body.quantity_pos q hq

theorem adds_call {call : AddCall}
    (hcall : call.who.shopper = some s)
    (hcovers : Covers total call.body.bookVariantId w.db) :
    Adds s total (fun _ m _ => m = 0) call.handler
      (Pi.single call.body.bookVariantId call.body.added) w := by
  unfold AddCall.handler addCartItem
  rcases Requester.shopper_cases hcall with ⟨userId, huser, rfl⟩ | ⟨sessionId, huser, hguest, rfl⟩
  · rw [huser]
    exact adds_addCartItemUser hcovers call.body.added_pos
  · rw [huser, hguest]
    exact adds_addCartItemGuest hcovers call.body.added_pos

end Adds

/-! ### What `getCart` shows -/

/-- The quantity of a variant in an answer of `getCart`. -/
def CartResponseDto.quantityOf (response : CartResponseDto) (bookVariantId : Nat) : Nat :=
  (((response.groups.flatMap CartDayGroupDto.items).filter fun item =>
    decide (item.bookVariantId = bookVariantId)).map CartItemDto.quantity).sum

section Shown

variable {db : ShopperDb} {s : Shopper} {v : Nat}

/-- The rows of a cart are shown as they are. -/
theorem quantity_mapM_toCartItemDto
    {rows : List CartItemRow} {items : List CartItemDto}
    (h : rows.mapM toCartItemDto = some items) :
    (items.filter fun item => decide (item.bookVariantId = v)).map CartItemDto.quantity =
      ((rows.map CartItemRow.item).filter fun i => decide (i.bookVariantId = v)).map
        CartItem.quantity := by
  have hshows : List.Forall₂ Shows rows items :=
    (forall₂_mapM h).imp fun _ _ => shows_toCartItemDto
  have hvariant : List.Forall₂ Shows
      (rows.filter fun row => decide (row.item.bookVariantId = v))
      (items.filter fun item => decide (item.bookVariantId = v)) :=
    List.rel_filter (fun row item h => by simp [h.bookVariantId]) hshows
  rw [List.filter_map, List.map_map]
  exact map_eq_of_forall₂ hvariant fun _ _ h => h.quantity

theorem quantityOf_toGroupedCart
    {cart : CartWithItems} {w w' : CartWorld} {response : CartResponseDto}
    (h : (toGroupedCart cart).Yields cartExec .database w w' (.ok (.cart response))) :
    response.quantityOf v =
      (((cart.items.map CartItemRow.item).filter fun i =>
        decide (i.bookVariantId = v)).map CartItem.quantity).sum := by
  unfold toGroupedCart at h
  cases hitems : cart.items.mapM toCartItemDto with
  | none =>
      rw [hitems] at h
      cases h.2
  | some items =>
      rw [hitems] at h
      cases h.2
      rw [← quantity_mapM_toCartItemDto hitems]
      exact (((groupByDay_perm items).filter _).map _).sum_eq

theorem cartQuantity_of_cartsOf_eq {c : Cart} (h : db.cartsOf s = [c]) :
    db.cartQuantity s v = (((db.itemsOfCart c.id).filter fun i =>
      decide (i.bookVariantId = v)).map CartItem.quantity).sum := by
  have hin : ∀ i : CartItem, db.inCartOf s i = decide (i.cartId = c.id) := by
    intro i
    rw [Bool.eq_iff_iff, inCartOf_iff, CartThere, h, decide_eq_true_eq]
    simp [eq_comm]
  unfold ShopperDb.cartQuantity ShopperDb.itemsOfCart Table.filter
  simp only [hin, List.filter_filter, Bool.and_comm]

theorem cartQuantity_of_no_cart (h : db.cartsOf s = []) : db.cartQuantity s v = 0 := by
  have hin : ∀ i : CartItem, db.inCartOf s i = false := by
    intro i
    rw [Bool.eq_false_iff, Ne, inCartOf_iff, CartThere, h]
    simp
  simp [ShopperDb.cartQuantity, Table.filter, hin]

theorem handler_getCart {who : Requester} {langId : Nat} (hwho : who.shopper = some s) :
    (CartRequest.getCart langId).handler who = getCartOf who s langId := by
  unfold CartRequest.handler
  rcases Requester.shopper_cases hwho with ⟨userId, huser, rfl⟩ | ⟨sessionId, huser, hguest, rfl⟩
  · rw [huser]
  · rw [huser, hguest]

/-- `getCart` shows what is in the cart of the shopper. -/
theorem quantityOf_getCart
    {who : Requester} {langId : Nat} {w w' : CartWorld} {response : CartResponseDto}
    (hwho : who.shopper = some s)
    (hone : (w.db.cartsOf s).length ≤ 1)
    (h : ((CartRequest.getCart langId).handler who).Yields cartExec .database w w'
      (.ok (.cart response))) :
    response.quantityOf v = w.db.cartQuantity s v := by
  rw [handler_getCart hwho] at h
  unfold getCartOf at h
  have hfind : cartExec ⟨who, .findWithItems s langId⟩ w = .ok (_, _) := rfl
  rw [bind_eq_bind, yields_await_bind hfind] at h
  cases hcarts : w.db.cartsOf s with
  | nil =>
      have hnewest : w.db.newestCart s = none := by
        rw [ShopperDb.newestCart, hcarts]
        rfl
      rw [hnewest] at h
      rw [cartQuantity_of_no_cart hcarts]
      rcases yields_bind.mp h with ⟨u, created, hcreate, h⟩ | ⟨e, -, h⟩
      · obtain ⟨hanswer, -⟩ := cartExec_ok.mp (yields_await.mp hcreate)
        rw [quantityOf_toGroupedCart h, answer_createCart hanswer]
        rfl
      · cases h
  | cons c rest =>
      have hrest : rest = [] := by
        rw [hcarts, List.length_cons] at hone
        exact List.eq_nil_of_length_eq_zero (by omega)
      subst hrest
      have hnewest : w.db.newestCart s = some c := by
        rw [ShopperDb.newestCart, hcarts]
        rfl
      rw [hnewest] at h
      rw [quantityOf_toGroupedCart h, cartQuantity_of_cartsOf_eq hcarts]
      have hitems : ((w.db.cartWithItems langId c).items.map CartItemRow.item).Perm
          (w.db.itemsOfCart c.id) := by
        simp only [ShopperDb.cartWithItems, List.map_map, Function.comp_def, List.map_id']
        exact List.perm_insertionSort _ _
      exact ((hitems.filter _).map _).sum_eq

end Shown

/-- Time passes, and no further request arrives. -/
def OnlyTime (_ : CartWorld) : CartEvent → Prop
  | .tick _ => True
  | .arrive _ _ => False

instance (w : CartWorld) (e : CartEvent) : Decidable (OnlyTime w e) := by
  apply CartEvent.casesOn (motive := fun e => Decidable (OnlyTime w e)) e <;>
    intros <;> unfold OnlyTime <;> infer_instance

theorem cartServer_onlyTime {s : Shopper} {total : Nat → Nat}
    {Q : Except CartFailure CartAnswer → (Nat → Nat) → CartWorld → Prop} :
    EnvSafeTo (addsLogic s total) cartServer Q OnlyTime := by
  intro w F e w' p hinv hguard henv
  cases e with
  | arrive who r =>
      cases hguard
  | tick ms =>
      cases henv
      exact ⟨.refl w.db, hinv⟩

theorem sum_shares (calls : List AddCall) (v : Nat) :
    (calls.map fun call =>
      (Pi.single call.body.bookVariantId call.body.added : Nat → Nat)).sum v =
        addedBy calls v := by
  induction calls with
  | nil =>
      rfl
  | cons call calls ih =>
      rw [List.map_cons, List.sum_cons, Pi.add_apply, ih, Pi.single_apply]
      by_cases h : v = call.body.bookVariantId
      · simp [addedBy, h]
      · simp [addedBy, h, Ne.symm h]

/--
**Adds to a cart.** In every run of calls of `addCartItem` by one shopper in which each
quantity is written over the one that was read, no second cart is created and the stock
covers what is in the cart and what is added: once all calls have returned the shopper
has one cart, and `getCart` shows for every variant what was there and what was added.
-/
theorem adds_kept
    {s : Shopper} {calls : List AddCall} {w : CartWorld} {as : List (Action CartEvent)}
    {c : CartState}
    (hcalls : ∀ call, call ∈ calls → call.who.shopper = some s)
    (hitems : w.db.ItemsInCarts)
    (hone : (w.db.cartsOf s).length ≤ 1)
    (hcovers : ∀ call, call ∈ calls →
      Covers (fun v => w.db.cartQuantity s v + addedBy calls v) call.body.bookVariantId w.db)
    (hmeets : Meets cartServer.step (System.Conforms OnlyTime FreshWrites)
      ⟨w, calls.map AddCall.handler⟩ as)
    (hrun : runs cartServer.step ⟨w, calls.map AddCall.handler⟩ as = some c)
    (hreturned : ∀ p, p ∈ c.threads → p.answer.isSome = true) :
    (calls ≠ [] → ∃ cart, c.world.db.cartsOf s = [cart]) ∧
      (∀ v, c.world.db.cartQuantity s v = w.db.cartQuantity s v + addedBy calls v) ∧
      ∀ who langId w' response, who.shopper = some s →
        ((CartRequest.getCart langId).handler who).Yields cartExec .database c.world w'
          (.ok (.cart response)) →
        ∀ v, response.quantityOf v = w.db.cartQuantity s v + addedBy calls v := by
  have hstart : BalancedTo (addsLogic s fun v => w.db.cartQuantity s v + addedBy calls v)
      cartServer (fun x m _ => ∀ a, x = .ok a → m = 0) ⟨w, calls.map AddCall.handler⟩ := by
    refine balancedTo_threads (fun call hcall => adds_call (hcalls call hcall)
      (hcovers call hcall)) ⟨hitems, hone, fun v => ?_⟩
    rw [sum_shares]
  have hend := balancedTo_runs (fun m v (h : m = 0) _ _ => h) cartServer_onlyTime hstart
    hmeets hrun
  obtain ⟨-, hone', hsums⟩ := hend.all_returned (fun a m v h => h a rfl) hreturned
  simp only [Pi.zero_apply, Nat.add_zero] at hsums
  refine ⟨fun hne => ?_, hsums, fun who langId w' response hwho hget v => ?_⟩
  · -- something was added, so there is a cart that it is in
    obtain ⟨call, rest, rfl⟩ := List.exists_cons_of_ne_nil hne
    have hpos := call.body.added_pos
    have hadded : call.body.added ≤ addedBy (call :: rest) call.body.bookVariantId := by
      simp [addedBy]
    have hsum := hsums call.body.bookVariantId
    refine List.length_eq_one_iff.mp (Nat.le_antisymm hone' ?_)
    rw [Nat.one_le_iff_ne_zero, Ne, List.length_eq_zero_iff]
    intro hnone
    rw [cartQuantity_of_no_cart hnone] at hsum
    omega
  · rw [quantityOf_getCart hwho hone' hget, hsums]

/-- A user with one copy of a variant in the cart, of which ten are left. -/
def sampleOneCopy : CartWorld where
  db :=
    { sampleVisitors with
      carts := (Table.empty : Table Cart).insert fun n => ⟨n, some 1, none, 0⟩
      cartItems := (Table.empty : Table CartItem).insert fun n => ⟨n, 1, 1, 1, 0⟩
      variants := [⟨⟨1, 1, .paperback, "9780306406157", some 100000, 10, 10, true, 0, 1⟩, "VND"⟩] }
  now := 0
  accesses := []

def sampleAdd (quantity : Nat) (h : 1 ≤ quantity) : AddCall where
  who := ⟨some 1, none⟩
  body := ⟨1, some quantity, fun q hq => by cases hq; exact h⟩
  langId := 1

/-- Two copies are added, and three. -/
def sampleAdds : List AddCall :=
  [sampleAdd 2 (by decide), sampleAdd 3 (by decide)]

theorem sampleAdds_covers :
    ∀ call, call ∈ sampleAdds →
      Covers (fun v => sampleOneCopy.db.cartQuantity (.user 1) v + addedBy sampleAdds v)
        call.body.bookVariantId sampleOneCopy.db := by
  intro call hcall available havailable
  have hvariants : ∀ call, call ∈ sampleAdds → call.body.bookVariantId = 1 := by
    decide +kernel
  have hvariant := hvariants call hcall
  rw [hvariant] at havailable ⊢
  have hten : sampleOneCopy.db.availableOf 1 = some 10 := by decide +kernel
  have hsix : sampleOneCopy.db.cartQuantity (.user 1) 1 + addedBy sampleAdds 1 = 6 := by
    decide +kernel
  rw [hten] at havailable
  cases havailable
  simp only [hsix]
  decide

/-- The statements of one call after those of the other. -/
def oneAfterTheOther : List (Action CartEvent) :=
  List.replicate 5 (.run 0 0 .ok) ++ List.replicate 5 (.run 1 0 .ok)

instance (w : CartWorld) (s : CartStmt) (o : Outcome) : Decidable (FreshWrites w s o) := by
  apply CartStmt.casesOn (motive := fun s => Decidable (FreshWrites w s o)) s
  intro who op
  apply CartOp.casesOn (motive := fun op => Decidable (FreshWrites w ⟨who, op⟩ o)) op <;>
    intros <;> unfold FreshWrites <;> infer_instance

theorem adds_kept_oneAfterTheOther :
    ∃ c, runs cartServer.step ⟨sampleOneCopy, sampleAdds.map AddCall.handler⟩
        oneAfterTheOther = some c ∧
      (∃ cart, c.world.db.cartsOf (.user 1) = [cart]) ∧
      c.world.db.cartQuantity (.user 1) 1 = 6 := by
  have hreturned : (runs cartServer.step ⟨sampleOneCopy, sampleAdds.map AddCall.handler⟩
      oneAfterTheOther).map (fun c => c.threads.all fun p => p.answer.isSome) = some true := by
    decide +kernel
  obtain ⟨c, hrun, hreturned⟩ := Option.map_eq_some_iff.mp hreturned
  have hkept := adds_kept (s := .user 1) (by decide +kernel)
    (by unfold ShopperDb.ItemsInCarts; decide +kernel) (by decide +kernel) sampleAdds_covers
    (by decide +kernel) hrun (List.all_eq_true.mp hreturned)
  refine ⟨c, hrun, hkept.1 (by decide), (hkept.2.1 1).trans ?_⟩
  decide +kernel

/-- Both calls read the item, then both write it. -/
def bothRead : List (Action CartEvent) :=
  List.replicate 3 (.run 0 0 .ok) ++ List.replicate 5 (.run 1 0 .ok) ++
    List.replicate 2 (.run 0 0 .ok)

/-- The three copies that one call has added are lost. -/
theorem add_lost :
    ¬ ∀ (s : Shopper) (calls : List AddCall) (w : CartWorld) (as : List (Action CartEvent))
        (c : CartState),
      (∀ call, call ∈ calls → call.who.shopper = some s) →
      w.db.ItemsInCarts →
      (w.db.cartsOf s).length ≤ 1 →
      (∀ call, call ∈ calls →
        Covers (fun v => w.db.cartQuantity s v + addedBy calls v) call.body.bookVariantId
          w.db) →
      Meets cartServer.step (System.Conforms OnlyTime fun _ _ _ => True)
        ⟨w, calls.map AddCall.handler⟩ as →
      runs cartServer.step ⟨w, calls.map AddCall.handler⟩ as = some c →
      (∀ p, p ∈ c.threads → p.answer.isSome = true) →
      ∀ v, c.world.db.cartQuantity s v = w.db.cartQuantity s v + addedBy calls v := by
  intro h
  have hend : (runs cartServer.step ⟨sampleOneCopy, sampleAdds.map AddCall.handler⟩
      bothRead).map (fun c => (c.threads.all (fun p => p.answer.isSome),
        c.world.db.cartQuantity (.user 1) 1)) = some (true, 3) := by
    decide +kernel
  obtain ⟨c, hrun, hend⟩ := Option.map_eq_some_iff.mp hend
  obtain ⟨hreturned, hthree⟩ := Prod.mk.inj hend
  have hsum := h (.user 1) sampleAdds sampleOneCopy bothRead c (by decide +kernel)
    (by unfold ShopperDb.ItemsInCarts; decide +kernel) (by decide +kernel) sampleAdds_covers
    (by decide +kernel) hrun (List.all_eq_true.mp hreturned) 1
  rw [hthree] at hsum
  revert hsum
  decide +kernel

end BookStore
