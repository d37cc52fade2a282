import BookStore.Async.Logic
import BookStore.Shopper.CartService
import Mathlib.Algebra.Order.PUnit

/-!
# Whose carts are touched

Cart requests of users and guests, statement by statement in any order.  A cart that a
user or a guest has created carries one owner; `updateGuestCart` gives a cart a user and
leaves it its guest session.

* `CartAccess.Private`: a cart of a user is touched for that user.
* `CartsSeparate`: no cart has both a user and a guest session.
* `NoneAdopted`: `updateGuestCart` finds nothing to update.
* `carts_private` is the result; in `merged_cart_shown` an anonymous request is shown
  the cart that a user has taken over.
-/

namespace BookStore

open Async Program Logic

/-- A cart of a user is touched for that user. -/
def CartAccess.Private (a : CartAccess) : Prop :=
  ∀ userId, a.userId = some userId → a.who.user = some userId

/-- The statement does not give a cart to a user. -/
def NoneAdopted (w : CartWorld) (s : CartStmt) (o : Outcome) : Prop :=
  match s.op with
  | .updateGuestCart guestCartId userId =>
      o = .fail ∨ w.db.carts.find guestCartId = none ∨ userId ∉ w.db.users
  | _ => True

instance (w : CartWorld) (s : CartStmt) (o : Outcome) : Decidable (NoneAdopted w s o) := by
  apply CartStmt.casesOn (motive := fun s => Decidable (NoneAdopted w s o)) s
  intro who op
  apply CartOp.casesOn (motive := fun op => Decidable (NoneAdopted w ⟨who, op⟩ o)) op <;>
    intros <;> unfold NoneAdopted <;> infer_instance

/-- No cart has both a user and a guest session. -/
def CartsSeparate (db : ShopperDb) : Prop :=
  ∀ c, c ∈ db.carts.rows → c.userId = none ∨ c.guestSessionId = none

/-- Carts keep their owners, and items their cart. -/
structure OwnersKept (db db' : ShopperDb) : Prop where
  carts : Table.Fixed (fun c => (c.userId, c.guestSessionId)) db.carts db'.carts
  cartItems : Table.Fixed CartItem.cartId db.cartItems db'.cartItems

/-- The cart is not one of another user. -/
def NotOthers (who : Requester) (cartId : Nat) (db : ShopperDb) : Prop :=
  cartId < db.carts.next ∧
    ∀ c, db.carts.find cartId = some c → ∀ userId, c.userId = some userId →
      who.user = some userId

/-- The item is in the cart, as long as it is there. -/
def ItemIn (cartId itemId : Nat) (db : ShopperDb) : Prop :=
  itemId < db.cartItems.next ∧ ∀ i, db.cartItems.find itemId = some i → i.cartId = cartId

/-- The statements that select by the shopper may be sent for the request. -/
def Speaks (who : Requester) : Shopper → Prop
  | .user userId => who.user = some userId
  | .guest _ => True

section Privacy

variable {db db' : ShopperDb} {who : Requester} {s : Shopper} {cartId itemId : Nat}

/-! ### What lasts -/

theorem OwnersKept.refl (db : ShopperDb) : OwnersKept db db :=
  ⟨.refl _, .refl _⟩

theorem OwnersKept.trans {u : ShopperDb} (h : OwnersKept db db') (h' : OwnersKept db' u) :
    OwnersKept db u :=
  ⟨h.carts.trans h'.carts, h.cartItems.trans h'.cartItems⟩

theorem NotOthers.mono (h : NotOthers who cartId db) (hkept : OwnersKept db db') :
    NotOthers who cartId db' := by
  refine ⟨h.1.trans_le hkept.carts.next_le, fun c' hc' userId huser => ?_⟩
  obtain ⟨c, hc, howner⟩ := hkept.carts.old cartId c' h.1 hc'
  exact h.2 c hc userId ((congrArg Prod.fst howner).symm.trans huser)

theorem ItemIn.mono (h : ItemIn cartId itemId db) (hkept : OwnersKept db db') :
    ItemIn cartId itemId db' := by
  refine ⟨h.1.trans_le hkept.cartItems.next_le, fun i' hi' => ?_⟩
  obtain ⟨i, hi, hcart⟩ := hkept.cartItems.old itemId i' h.1 hi'
  exact hcart.trans (h.2 i hi)

theorem fixed_upsertItem {now : Nat} {t : Table CartItem} {line : Nat × Nat} :
    Table.Fixed CartItem.cartId t (upsertItem cartId now t line) := by
  unfold upsertItem
  dsimp only
  split_ifs
  · exact .updateWhere
  · exact .insert

theorem fixed_upsertItems {now : Nat} {items : List (Nat × Nat)} {t : Table CartItem} :
    Table.Fixed CartItem.cartId t (items.foldl (upsertItem cartId now) t) := by
  induction items generalizing t with
  | nil =>
      exact .refl t
  | cons line items ih =>
      exact fixed_upsertItem.trans ih

/-- Only `updateGuestCart` changes an owner. -/
theorem effect_ownersKept {op : CartOp} {now : Nat}
    (hop : ∀ k userId, op ≠ .updateGuestCart k userId) :
    OwnersKept db (op.effect now db) := by
  cases op with
  | createCart s langId =>
      exact ⟨.insert (key_newCart s now), .refl _⟩
  | updateQuantityById id quantity read =>
      exact ⟨.refl _, .updateWhere⟩
  | createByCartIdAndBookVariantId cartId bookVariantId quantity =>
      have hitems : Table.Fixed CartItem.cartId db.cartItems
          (db.cartItems.insert fun n => ⟨n, cartId, bookVariantId, quantity, now⟩) := .insert
      exact ⟨.refl _, hitems⟩
  | deleteItem id s =>
      exact ⟨.refl _, .deleteWhere⟩
  | updateGuestCart k userId =>
      exact absurd rfl (hop k userId)
  | mergeCartUser cartId guestSessionId items =>
      have hcarts : Table.Fixed (fun c => (c.userId, c.guestSessionId)) db.carts
          (db.carts.update cartId fun c => { c with updatedAt := now }) :=
        .updateWhere
      exact ⟨hcarts.trans .deleteWhere, fixed_upsertItems.trans .deleteWhere⟩
  | deleteCarts s =>
      exact ⟨.deleteWhere, .deleteWhere⟩
  | _ =>
      exact .refl db

/-- Nor does any other put a user and a guest session on one cart. -/
theorem effect_separate {op : CartOp} {now : Nat}
    (hop : ∀ k userId, op ≠ .updateGuestCart k userId)
    (h : CartsSeparate db) :
    CartsSeparate (op.effect now db) := by
  cases op with
  | createCart s langId =>
      intro c hc
      rcases List.mem_append.mp hc with hc | hc
      · exact h c hc
      · rw [List.mem_singleton.mp hc]
        cases s with
        | user userId =>
            exact .inr rfl
        | guest sessionId =>
            exact .inl rfl
  | updateGuestCart k userId =>
      exact absurd rfl (hop k userId)
  | mergeCartUser cartId guestSessionId items =>
      intro c hc
      obtain ⟨c', hc', rfl⟩ := List.mem_map.mp (List.mem_of_mem_filter hc)
      split_ifs
      · exact h c' hc'
      · exact h c' hc'
  | deleteCarts s =>
      exact fun c hc => h c (List.mem_of_mem_filter hc)
  | _ =>
      exact h

/-! ### What is touched -/

/-- A cart that is selected by a shopper. -/
theorem owned_private {c : Cart}
    (h : CartsSeparate db)
    (hspeaks : Speaks who s)
    (hc : c ∈ db.cartsOf s)
    {userId : Nat} (huser : c.userId = some userId) :
    who.user = some userId := by
  obtain ⟨hrow, howns⟩ := List.mem_filter.mp hc
  cases s with
  | user id =>
      have hid : c.userId = some id := by simpa [Shopper.owns] using howns
      rw [hid] at huser
      exact hspeaks.trans huser
  | guest sessionId =>
      have hid : c.guestSessionId = some sessionId := by simpa [Shopper.owns] using howns
      rcases h c hrow with hnone | hnone
      · rw [hnone] at huser
        cases huser
      · rw [hnone] at hid
        cases hid

theorem notOthers_of_mem {c : Cart}
    (h : CartsSeparate db)
    (hspeaks : Speaks who s)
    (hc : c ∈ db.cartsOf s) :
    NotOthers who c.id db := by
  have hrow := (List.mem_filter.mp hc).1
  refine ⟨db.carts.below c hrow, fun c' hc' userId huser => ?_⟩
  have hfind : db.carts.find c.id = some c := Table.find_of_mem hrow
  rw [hfind] at hc'
  cases hc'
  exact owned_private h hspeaks hc huser

theorem itemIn_of_mem {i : CartItem} (h : i ∈ db.cartItems.rows) : ItemIn i.cartId i.id db := by
  refine ⟨db.cartItems.below i h, fun i' hi' => ?_⟩
  have hfind : db.cartItems.find i.id = some i := Table.find_of_mem h
  rw [hfind] at hi'
  cases hi'
  rfl

theorem itemOf_eq_some {i : CartItem} (h : db.itemOf itemId s = some i) :
    db.cartItems.find itemId = some i ∧
      ∃ c, db.carts.find i.cartId = some c ∧ c ∈ db.cartsOf s := by
  obtain ⟨hi, hcart⟩ := Option.filter_eq_some_iff.mp h
  obtain ⟨c, hc, howns⟩ := (Option.any_eq_true _ _).mp hcart
  exact ⟨hi, c, hc, List.mem_filter.mpr ⟨Table.find_mem hc, howns⟩⟩

/-- A cart is there, with these items. -/
def CartKept (c : Cart) (db db' : ShopperDb) : Prop :=
  c ∈ db'.carts.rows ∧ db'.itemsOfCart c.id = db.itemsOfCart c.id

theorem CartKept.trans {u : ShopperDb} {c : Cart}
    (h : CartKept c db db') (h' : CartKept c db' u) :
    CartKept c db u :=
  ⟨h'.1, h'.2.trans h.2⟩

/-- The items of a cart that no condition reaches. -/
theorem itemsOfCart_updateWhere
    {t : Table CartItem} {p : CartItem → Bool} {f : CartItem → CartItem}
    (h : ∀ i, i ∈ t.rows → p i = true → i.cartId ≠ cartId)
    (hf : ∀ i, key (f i) = key i := by intro i; rfl)
    (hcart : ∀ i, (f i).cartId = i.cartId := by intro i; rfl) :
    (t.updateWhere p f hf).filter (fun i => decide (i.cartId = cartId)) =
      t.filter fun i => decide (i.cartId = cartId) :=
  Table.filter_updateWhere_of_not (fun i => by rw [hcart])
    fun i hi hp => decide_eq_false (h i hi hp)

theorem itemsOfCart_upsertItems
    {cartId' now : Nat} {items : List (Nat × Nat)} {t : Table CartItem}
    (hne : cartId' ≠ cartId) :
    (items.foldl (upsertItem cartId' now) t).filter (fun i => decide (i.cartId = cartId)) =
      t.filter fun i => decide (i.cartId = cartId) := by
  induction items generalizing t with
  | nil =>
      rfl
  | cons line items ih =>
      rw [List.foldl_cons, ih, upsertItem]
      split_ifs
      · refine itemsOfCart_updateWhere ?_
        intro i _ hp
        simp only [Bool.and_eq_true, decide_eq_true_eq] at hp
        exact hp.1 ▸ hne
      · exact Table.filter_insert_of_not (decide_eq_false hne)

theorem cartKept_withoutCarts {c : Cart}
    (hc : c ∈ db.carts.rows)
    (howns : s.owns c.userId c.guestSessionId = false) :
    CartKept c db (CartOp.withoutCarts db s) := by
  refine ⟨List.mem_filter.mpr ⟨hc, by simp [howns]⟩, Table.filter_deleteWhere_of_not ?_⟩
  intro i _ hi
  have hfind : db.carts.find i.cartId = some c := by
    rw [of_decide_eq_true hi]
    exact Table.find_of_mem hc
  rw [hfind, Option.any_some, howns]

/-- A cart that a statement does not touch stays as it is, with its items. -/
theorem effect_untouched {op : CartOp} {now : Nat} {c : Cart}
    (hc : c ∈ db.carts.rows)
    (huntouched : c ∉ op.touched db) :
    CartKept c db (op.effect now db) := by
  have hfind : db.carts.find c.id = some c := Table.find_of_mem hc
  have howns : ∀ s : Shopper, c ∉ db.cartsOf s → s.owns c.userId c.guestSessionId = false :=
    fun s hs => Bool.eq_false_iff.mpr fun howns => hs (List.mem_filter.mpr ⟨hc, howns⟩)
  cases op with
  | createCart s langId =>
      exact ⟨List.mem_append_left _ hc, rfl⟩
  | updateQuantityById id quantity read =>
      refine ⟨hc, itemsOfCart_updateWhere ?_⟩
      intro i hi hid hcart
      refine huntouched ?_
      have hitem : db.cartItems.find id = some i :=
        Table.find_eq_some_iff.mpr ⟨hi, of_decide_eq_true hid⟩
      simp [CartOp.touched, hitem, hcart, hfind]
  | createByCartIdAndBookVariantId cartId bookVariantId quantity =>
      refine ⟨hc, Table.filter_insert_of_not (decide_eq_false fun hcart => huntouched ?_)⟩
      dsimp only at hcart
      simp [CartOp.touched, hcart, hfind]
  | deleteItem id s =>
      refine ⟨hc, Table.filter_deleteWhere_of_not fun i hi hcart => ?_⟩
      refine Bool.eq_false_iff.mpr fun hid => huntouched ?_
      simp only [Bool.and_eq_true, decide_eq_true_eq, Option.isSome_iff_exists] at hid hcart
      obtain ⟨rfl, i', hi'⟩ := hid
      have hitem : db.cartItems.find i.id = some i := Table.find_of_mem hi
      obtain rfl : i' = i := Option.some.inj ((itemOf_eq_some hi').1.symm.trans hitem)
      simp [CartOp.touched, hi', hcart, hfind]
  | updateGuestCart guestCartId userId =>
      refine ⟨List.mem_map.mpr ⟨c, hc, if_neg fun hid => huntouched ?_⟩, rfl⟩
      have hid : c.id = guestCartId := of_decide_eq_true hid
      simp [CartOp.touched, ← hid, hfind]
  | mergeCartUser cartId guestSessionId items =>
      simp only [CartOp.touched, List.mem_append, not_or] at huntouched
      have hne : cartId ≠ c.id := by
        rintro rfl
        exact huntouched.1 (by simp [hfind])
      let merged : ShopperDb :=
        { db with
          carts := db.carts.update cartId fun c => { c with updatedAt := now }
          cartItems := items.foldl (upsertItem cartId now) db.cartItems }
      have hmerged : CartKept c db merged := by
        refine ⟨List.mem_map.mpr ⟨c, hc, if_neg fun hid => ?_⟩, itemsOfCart_upsertItems hne⟩
        exact hne (of_decide_eq_true hid).symm
      exact hmerged.trans (cartKept_withoutCarts hmerged.1 (howns _ huntouched.2))
  | deleteCarts s =>
      exact cartKept_withoutCarts hc (howns s huntouched)
  | _ =>
      exact ⟨hc, rfl⟩

/-! ### One statement -/

def privacyLogic : Logic CartStmt CartWorld Unit where
  inv := fun _ w => CartsSeparate w.db ∧ ∀ a, a ∈ w.accesses → a.Private
  rely := fun w w' => OwnersKept w.db w'.db
  rely_refl := fun w => .refl w.db
  rely_trans := fun _ _ _ h h' => h.trans h'
  guard := NoneAdopted
  done := fun _ => True

/-- The handler touches carts privately and returns what meets `Q`. -/
abbrev Privately {α : Type} (Q : α → ShopperDb → Prop) (p : CartService α) (w : CartWorld) :
    Prop :=
  Safe privacyLogic cartExec .database (fun x _ v => ∀ a, x = .ok a → Q a v.db) p () w

/-- A cart is adopted by no statement that is accepted. -/
theorem not_adopted {st : CartStmt} {w : CartWorld} {o : Outcome} {r : CartResponse st}
    (hguard : NoneAdopted w st o)
    (ho : o ≠ .fail)
    (hanswer : st.op.answer w.now w.db = .ok r)
    (k userId : Nat) :
    st.op ≠ .updateGuestCart k userId := by
  obtain ⟨who, op⟩ := st
  rintro rfl
  simp only [NoneAdopted] at hguard
  simp only [CartOp.answer] at hanswer
  rcases hguard with h | h | h
  · exact ho h
  · simp [h] at hanswer
  · simp [h] at hanswer

variable {α β : Type}

/-- One statement for a request that may touch the carts that it touches. -/
theorem statement_private
    {op : CartOp} {K : CartOpResponse op → CartWorld → Prop} {w : CartWorld}
    (htouched : ∀ v : CartWorld, OwnersKept w.db v.db → CartsSeparate v.db →
      ∀ c, c ∈ op.touched v.db → ∀ userId, c.userId = some userId → who.user = some userId)
    (hnext : ∀ v v' : CartWorld, ∀ r, OwnersKept w.db v.db → CartsSeparate v.db →
      OwnersKept v.db v'.db → op.answer v.now v.db = .ok r → v'.db = op.effect v.now v.db →
      K r v') :
    StatementSafe privacyLogic cartExec .database ⟨who, op⟩
      (fun x m v => m = () ∧ ∀ r, x = .ok r → K r v) () w := by
  refine StatementSafe.of_exec (fun v e _ => ⟨rfl, fun _ h => by cases h⟩) ?_
  intro v F o v' r hwv hinv hguard ho h
  obtain ⟨hanswer, rfl⟩ := cartExec_ok.mp h
  have hop := not_adopted hguard ho hanswer
  refine ⟨(), ⟨effect_separate hop hinv.1, fun a ha => ?_⟩, effect_ownersKept hop,
    ⟨rfl, fun r' hr' => ?_⟩, ⟨rfl, fun _ h => by cases h⟩⟩
  · rcases List.mem_append.mp ha with ha | ha
    · exact hinv.2 a ha
    · obtain ⟨c, hc, rfl⟩ := List.mem_map.mp ha
      exact htouched v hwv hinv.1 c hc
  · cases hr'
    exact hnext v _ r hwv hinv.1 (effect_ownersKept hop) hanswer rfl

theorem privately_await_bind
    {op : CartOp} {f : CartOpResponse op → CartService β} {Q : β → ShopperDb → Prop}
    {w : CartWorld}
    (htouched : ∀ v : CartWorld, OwnersKept w.db v.db → CartsSeparate v.db →
      ∀ c, c ∈ op.touched v.db → ∀ userId, c.userId = some userId → who.user = some userId)
    (hnext : ∀ v v' : CartWorld, ∀ r, OwnersKept w.db v.db → CartsSeparate v.db →
      OwnersKept v.db v'.db → op.answer v.now v.db = .ok r → v'.db = op.effect v.now v.db →
      Privately Q (f r) v') :
    Privately Q ((cartQuery who op).bind f) w := by
  refine Safe.await_bind ((statement_private htouched hnext).mono fun x m v _ hx => ?_)
  cases x with
  | ok r =>
      exact hx.2 r rfl
  | error e =>
      exact fun _ _ _ h => by cases h

theorem privately_bind
    {p : CartService α} {f : α → CartService β} {P : α → ShopperDb → Prop}
    {Q : β → ShopperDb → Prop} {w : CartWorld}
    (hp : Privately P p w)
    (hf : ∀ a v, OwnersKept w.db v.db → P a v.db → Privately Q (f a) v) :
    Privately Q (p.bind f) w := by
  refine Safe.bind (hp.mono fun x _ v hwv hx => ?_)
  cases x with
  | ok a =>
      exact hf a v hwv (hx a rfl)
  | error e =>
      exact fun _ h => by cases h

theorem privately_ret {a : α} {Q : α → ShopperDb → Prop} {w : CartWorld}
    (h : ∀ db', OwnersKept w.db db' → Q a db') :
    Privately Q (ret a) w :=
  fun v hwv b hb => by
    cases hb
    exact h v.db hwv

theorem privately_raise {e : CartFailure} {Q : α → ShopperDb → Prop} {w : CartWorld} :
    Privately Q (raise e) w :=
  fun _ _ _ h => by cases h

/-- The last statement of a service. -/
theorem privately_await
    {op : CartOp} {Q : CartOpResponse op → ShopperDb → Prop} {w : CartWorld}
    (htouched : ∀ v : CartWorld, OwnersKept w.db v.db → CartsSeparate v.db →
      ∀ c, c ∈ op.touched v.db → ∀ userId, c.userId = some userId → who.user = some userId)
    (hnext : ∀ v v' : CartWorld, ∀ r, OwnersKept w.db v.db → CartsSeparate v.db →
      OwnersKept v.db v'.db → op.answer v.now v.db = .ok r → v'.db = op.effect v.now v.db →
      ∀ db', OwnersKept v'.db db' → Q r db') :
    Privately Q (cartQuery who op) w := by
  have h : Privately Q ((cartQuery who op).bind ret) w :=
    privately_await_bind htouched fun v v' r hv hsep hv' hanswer heffect =>
      privately_ret (hnext v v' r hv hsep hv' hanswer heffect)
  rwa [Program.bind_await] at h

/-! ### The services -/

/-- A statement that touches no cart. -/
theorem touches_nothing {op : CartOp} {w : CartWorld}
    (h : ∀ db, op.touched db = []) :
    ∀ v : CartWorld, OwnersKept w.db v.db → CartsSeparate v.db →
      ∀ c, c ∈ op.touched v.db → ∀ userId, c.userId = some userId → who.user = some userId :=
  fun v _ _ c hc => by rw [h] at hc; cases hc

/-- A statement that selects a cart by its shopper. -/
theorem touches_owned {op : CartOp} {w : CartWorld}
    (hspeaks : Speaks who s)
    (h : ∀ db c, c ∈ op.touched db → c ∈ db.cartsOf s) :
    ∀ v : CartWorld, OwnersKept w.db v.db → CartsSeparate v.db →
      ∀ c, c ∈ op.touched v.db → ∀ userId, c.userId = some userId → who.user = some userId :=
  fun v _ hsep c hc _ huser => owned_private hsep hspeaks (h v.db c hc) huser

theorem mem_touched_newestCart {c : Cart} (h : c ∈ (db.newestCart s).toList) :
    c ∈ db.cartsOf s :=
  newestCart_mem (Option.mem_toList.mp h)

theorem mem_touched_itemOf {c : Cart}
    (h : c ∈ ((db.itemOf itemId s).bind fun i => db.carts.find i.cartId).toList) :
    c ∈ db.cartsOf s := by
  obtain ⟨i, hi, hc⟩ := Option.bind_eq_some_iff.mp (Option.mem_toList.mp h)
  obtain ⟨-, c', hc', hmem⟩ := itemOf_eq_some hi
  rw [hc] at hc'
  cases hc'
  exact hmem

theorem privately_foundUser {userId : Nat} {w : CartWorld} :
    Privately (fun id _ => id = userId) (foundUser who userId) w := by
  refine privately_await_bind (touches_nothing fun _ => rfl) ?_
  intro v v' found _ _ _ hanswer _
  simp only [CartOp.answer, Except.ok.injEq] at hanswer
  subst hanswer
  split_ifs
  · exact privately_ret fun _ _ => rfl
  · exact privately_raise

theorem privately_limitToStock {bookVariantId desiredQuantity : Nat} {w : CartWorld} :
    Privately (fun _ _ => True) (limitToStock who bookVariantId desiredQuantity) w := by
  refine privately_await_bind (touches_nothing fun _ => rfl) ?_
  intro _ _ stock _ _ _ _ _
  cases stock with
  | none =>
      exact privately_raise
  | some available =>
      dsimp only
      split_ifs
      · exact privately_raise
      · exact privately_ret fun _ _ => trivial

theorem privately_resolveAdjustedQuantity
    {bookVariantId currentQuantity : Nat} {delta : Int} {w : CartWorld}
    (hspeaks : Speaks who s) :
    Privately (fun _ _ => True)
      (resolveAdjustedQuantity who s itemId bookVariantId currentQuantity delta) w := by
  unfold resolveAdjustedQuantity
  dsimp only
  split_ifs
  · exact privately_await_bind (touches_owned hspeaks fun _ _ => mem_touched_itemOf)
      fun _ _ _ _ _ _ _ _ => privately_limitToStock
  · exact privately_limitToStock

theorem privately_createCartItem
    {bookVariantId quantity : Nat} {w : CartWorld}
    (hcart : NotOthers who cartId w.db) :
    Privately (fun _ _ => True) (createCartItem who cartId bookVariantId quantity) w := by
  refine privately_await_bind (touches_nothing fun _ => rfl) ?_
  intro v v' stock hv _ hv' _ _
  cases stock with
  | none =>
      exact privately_raise
  | some available =>
      dsimp only
      split_ifs
      · exact privately_raise
      · refine privately_await_bind ?_ fun _ _ _ _ _ _ _ _ => privately_ret fun _ _ => trivial
        intro u hu _ c hc
        exact ((hcart.mono (hv.trans hv')).mono hu).2 c (Option.mem_toList.mp hc)

/-- A cart of the shopper, with items that are in it. -/
def CartFound (who : Requester) (cart : CartWithItems) (db : ShopperDb) : Prop :=
  NotOthers who cart.cart.id db ∧
    ∀ row, row ∈ cart.items → ItemIn cart.cart.id row.item.id db

theorem CartFound.mono {cart : CartWithItems}
    (h : CartFound who cart db) (hkept : OwnersKept db db') :
    CartFound who cart db' :=
  ⟨h.1.mono hkept, fun row hrow => (h.2 row hrow).mono hkept⟩

theorem cartFound_of_newestCart {langId : Nat} {c : Cart}
    (hsep : CartsSeparate db)
    (hspeaks : Speaks who s)
    (hc : db.newestCart s = some c) :
    CartFound who (db.cartWithItems langId c) db := by
  refine ⟨notOthers_of_mem hsep hspeaks (newestCart_mem hc), fun row hrow => ?_⟩
  obtain ⟨i, hi, rfl⟩ := List.mem_map.mp hrow
  obtain ⟨hi, hcart⟩ := List.mem_filter.mp ((List.mem_insertionSort _).mp hi)
  have hcart : i.cartId = c.id := of_decide_eq_true hcart
  exact hcart ▸ itemIn_of_mem hi

theorem privately_findWithItems_bind
    {langId : Nat} {f : Option CartWithItems → CartService β} {Q : β → ShopperDb → Prop}
    {w : CartWorld}
    (hspeaks : Speaks who s)
    (hnone : ∀ v : CartWorld, OwnersKept w.db v.db → Privately Q (f none) v)
    (hsome : ∀ (v : CartWorld) cart, OwnersKept w.db v.db → CartFound who cart v.db →
      Privately Q (f (some cart)) v) :
    Privately Q ((cartQuery who (.findWithItems s langId)).bind f) w := by
  refine privately_await_bind (touches_owned hspeaks fun _ _ => mem_touched_newestCart) ?_
  intro v v' found hv hsep hv' hanswer _
  simp only [CartOp.answer, Except.ok.injEq] at hanswer
  subst hanswer
  cases hc : v.db.newestCart s with
  | none =>
      exact hnone v' (hv.trans hv')
  | some c =>
      exact hsome v' _ (hv.trans hv') ((cartFound_of_newestCart hsep hspeaks hc).mono hv')

theorem privately_createCart
    {langId : Nat} {w : CartWorld}
    (hspeaks : Speaks who s) :
    Privately (CartFound who) (cartQuery who (.createCart s langId)) w := by
  refine privately_await (touches_nothing fun _ => rfl) ?_
  intro v v' created _ _ _ hanswer heffect db' hdb'
  have hcreated := answer_createCart hanswer
  have hid : created.cart.id = v.db.carts.next := by
    rw [hcreated]
    exact key_newCart s _ _
  refine CartFound.mono ⟨⟨?_, fun c hc userId huser => ?_⟩, fun _ h => ?_⟩ hdb'
  · rw [heffect, hid]
    exact Nat.lt_succ_self _
  · rw [heffect, hid, CartOp.effect, Table.find_insert, if_pos rfl] at hc
    cases hc
    cases s with
    | user id =>
        exact hspeaks.trans huser
    | guest sessionId =>
        cases huser
  · rw [hcreated] at h
    cases h

theorem privately_findOrCreateCart
    {langId : Nat} {w : CartWorld}
    (hspeaks : Speaks who s) :
    Privately (CartFound who) (findOrCreateCart who s langId) w :=
  privately_findWithItems_bind hspeaks (fun _ _ => privately_createCart hspeaks)
    fun _ _ _ hcart => privately_ret fun _ hkept => hcart.mono hkept

theorem privately_updateQuantity_bind
    {quantity read : Nat} {f : CartItem → CartService CartAnswer} {w : CartWorld}
    (hcart : NotOthers who cartId w.db)
    (hitem : ItemIn cartId itemId w.db)
    (hf : ∀ i v, Privately (fun _ _ => True) (f i) v) :
    Privately (fun _ _ => True)
      ((cartQuery who (.updateQuantityById itemId quantity read)).bind f) w := by
  refine privately_await_bind ?_ fun _ v' i _ _ _ _ _ => hf i v'
  intro v hv _ c hc
  obtain ⟨i, hi, hc⟩ := Option.bind_eq_some_iff.mp (Option.mem_toList.mp hc)
  rw [(hitem.mono hv).2 i hi] at hc
  exact (hcart.mono hv).2 c hc

theorem privately_addCartItemUser
    {userId langId : Nat} {body : AddCartItemRequestDto} {w : CartWorld}
    (huser : who.user = some userId) :
    Privately (fun _ _ => True) (addCartItemUser who userId body langId) w := by
  refine privately_bind privately_foundUser fun id v hv hid => ?_
  subst hid
  refine privately_bind (privately_findOrCreateCart huser) fun cart v hv hcart => ?_
  refine privately_await_bind (fun u hu _ c hc => (hcart.1.mono hu).2 c (Option.mem_toList.mp hc))
    ?_
  intro u u' existedItem hu _ hu' hanswer _
  have hcart := hcart.mono (hu.trans hu')
  cases existedItem with
  | none =>
      exact privately_createCartItem hcart.1
  | some i =>
      simp only [CartOp.answer, Except.ok.injEq] at hanswer
      obtain ⟨hi, hcond⟩ := Table.findFirst_eq_some hanswer
      simp only [Bool.and_eq_true, decide_eq_true_eq] at hcond
      have hin : ItemIn cart.cart.id i.id u.db := by
        rw [← hcond.1]
        exact itemIn_of_mem hi
      refine privately_bind (privately_resolveAdjustedQuantity huser) fun q v' hv' _ => ?_
      exact privately_updateQuantity_bind (hcart.1.mono hv') ((hin.mono hu').mono hv')
        fun _ _ => privately_ret fun _ _ => trivial

theorem privately_addCartItemGuest
    {guestSessionId : String} {langId : Nat} {body : AddCartItemRequestDto} {w : CartWorld} :
    Privately (fun _ _ => True) (addCartItemGuest who guestSessionId body langId) w := by
  refine privately_bind (privately_findOrCreateCart trivial) fun cart v hv hcart => ?_
  split
  · rename_i row hrow
    refine privately_bind (privately_resolveAdjustedQuantity trivial) fun q v' hv' _ => ?_
    split_ifs
    · exact privately_ret fun _ _ => trivial
    · exact privately_updateQuantity_bind (hcart.1.mono hv')
        ((hcart.2 row (List.mem_of_find?_eq_some hrow)).mono hv')
        fun _ _ => privately_ret fun _ _ => trivial
  · exact privately_createCartItem hcart.1

theorem privately_addCartItem
    {body : AddCartItemRequestDto} {langId : Nat} {w : CartWorld} :
    Privately (fun _ _ => True) (addCartItem who body langId) w := by
  unfold addCartItem
  cases huser : who.user with
  | some userId =>
      exact privately_addCartItemUser huser
  | none =>
      cases truthy who.guestSessionId with
      | some guestSessionId =>
          exact privately_addCartItemGuest
      | none =>
          exact privately_raise

theorem privately_updateItemDelta {delta : Int} {w : CartWorld} (hspeaks : Speaks who s) :
    Privately (fun _ _ => True) (updateItemDelta who s itemId delta) w := by
  refine privately_await_bind (touches_owned hspeaks fun _ _ => mem_touched_itemOf) ?_
  intro v v' item _ hsep hv' hanswer _
  simp only [CartOp.answer, Except.ok.injEq] at hanswer
  cases item with
  | none =>
      exact privately_raise
  | some i =>
      obtain ⟨hi, c, hc, hmem⟩ := itemOf_eq_some hanswer
      have hcart : NotOthers who i.cartId v.db := by
        rw [← Table.find_key hc]
        exact notOthers_of_mem hsep hspeaks hmem
      have hin : ItemIn i.cartId i.id v.db := itemIn_of_mem (Table.find_mem hi)
      refine privately_bind (privately_resolveAdjustedQuantity hspeaks) fun q u hu _ => ?_
      split_ifs
      · exact privately_ret fun _ _ => trivial
      · exact privately_updateQuantity_bind ((hcart.mono hv').mono hu) ((hin.mono hv').mono hu)
          fun _ _ => privately_ret fun _ _ => trivial

/-- What is done for a user who has been found, or for a guest. -/
theorem privately_forShopper
    {f : Shopper → CartService CartAnswer} {e : CartFailure} {w : CartWorld}
    (hf : ∀ s v, Speaks who s → Privately (fun _ _ => True) (f s) v) :
    Privately (fun _ _ => True)
      (match who.user, truthy who.guestSessionId with
        | some userId, _ => (foundUser who userId).bind fun id => f (.user id)
        | none, some guestSessionId => f (.guest guestSessionId)
        | none, none => raise e) w := by
  cases huser : who.user with
  | some userId =>
      refine privately_bind privately_foundUser fun id v _ hid => hf _ v ?_
      rw [hid]
      exact huser
  | none =>
      cases truthy who.guestSessionId with
      | some guestSessionId =>
          exact hf _ w trivial
      | none =>
          exact privately_raise

theorem privately_updateCartItemDelta {delta : Int} {w : CartWorld} :
    Privately (fun _ _ => True) (updateCartItemDelta who itemId delta) w :=
  privately_forShopper (f := fun s => updateItemDelta who s itemId delta)
    fun _ _ hspeaks => privately_updateItemDelta hspeaks

theorem privately_removeCartItem {w : CartWorld} :
    Privately (fun _ _ => True) (removeCartItem who itemId) w := by
  refine privately_forShopper (f := fun s => removeItem who s itemId) fun s v hspeaks => ?_
  refine privately_await_bind (touches_owned hspeaks fun _ _ => mem_touched_itemOf) ?_
  intro _ _ deleted _ _ _ _ _
  split_ifs
  · exact privately_raise
  · exact privately_ret fun _ _ => trivial

theorem privately_clearCart {w : CartWorld} :
    Privately (fun _ _ => True) (clearCart who) w := by
  refine privately_forShopper
    (f := fun s => (cartQuery who (.deleteCarts s)).bind fun _ => ret .success)
    fun s v hspeaks => ?_
  exact privately_await_bind (touches_owned hspeaks fun _ _ hc => hc)
    fun _ _ _ _ _ _ _ _ => privately_ret fun _ _ => trivial

theorem privately_toGroupedCart {cart : CartWithItems} {w : CartWorld} :
    Privately (fun _ _ => True) (toGroupedCart cart) w := by
  unfold toGroupedCart
  cases cart.items.mapM toCartItemDto with
  | none =>
      exact privately_raise
  | some items =>
      exact privately_ret fun _ _ => trivial

theorem privately_getCartOf {langId : Nat} {w : CartWorld} (hspeaks : Speaks who s) :
    Privately (fun _ _ => True) (getCartOf who s langId) w :=
  privately_findWithItems_bind hspeaks
    (fun _ _ => privately_bind (privately_createCart hspeaks)
      fun _ _ _ _ => privately_toGroupedCart)
    fun _ _ _ _ => privately_toGroupedCart

/-- `findCart` for a shopper answers with a cart that may be touched. -/
theorem findCart_private {w : CartWorld} (hspeaks : Speaks who s) :
    StatementSafe privacyLogic cartExec .database ⟨who, .findCart s⟩
      (fun x m v => m = () ∧ ∀ found, x = .ok found →
        ∀ f, found = some f → NotOthers who f.1.id v.db) () w := by
  have hown : ∀ db c, c ∈ (CartOp.findCart s).touched db → c ∈ db.cartsOf s :=
    fun _ _ => mem_touched_newestCart
  refine statement_private
    (K := fun (found : Option (Cart × List CartItem)) v =>
      ∀ f, found = some f → NotOthers who f.1.id v.db)
    (touches_owned hspeaks hown) ?_
  rintro v v' found _ hsep hv' hanswer _ f rfl
  simp only [CartOp.answer, Except.ok.injEq] at hanswer
  obtain ⟨c, hc, rfl⟩ := Option.map_eq_some_iff.mp hanswer
  exact (notOthers_of_mem hsep hspeaks (newestCart_mem hc)).mono hv'

theorem privately_mergeCart
    {guestSessionId : String} {userId : Nat} {w : CartWorld}
    (huser : who.user = some userId) :
    Privately (fun _ _ => True) (mergeCart who guestSessionId userId) w := by
  have hmono : ∀ (found : Option (Cart × List CartItem)) (v v' : CartWorld),
      (∀ f, found = some f → NotOthers who f.1.id v.db) → privacyLogic.rely v v' →
      ∀ f, found = some f → NotOthers who f.1.id v'.db :=
    fun _ _ _ h hv f hf => (h f hf).mono hv
  have hreads := Safe.alongside_await hmono hmono
    (findCart_private (w := w) (s := .guest guestSessionId) trivial)
    (findCart_private (s := .user userId) huser)
  refine Safe.bind (hreads.mono fun x _ v _ hx => ?_)
  cases x with
  | error e =>
      exact fun _ h => by cases h
  | ok carts =>
      obtain ⟨hguest, hown⟩ := hx.2 carts rfl
      obtain ⟨guest, own⟩ := carts
      change Privately (fun _ _ => True) _ v
      cases guest with
      | none =>
          exact privately_ret fun _ _ => trivial
      | some guest =>
          cases own with
          | none =>
              refine privately_await_bind (fun u hu _ c hc => ?_)
                fun _ _ _ _ _ _ _ _ => privately_ret fun _ _ => trivial
              exact ((hguest guest rfl).mono hu).2 c (Option.mem_toList.mp hc)
          | some own =>
              refine privately_await_bind (fun u hu hsep c hc => ?_)
                fun _ _ _ _ _ _ _ _ => privately_ret fun _ _ => trivial
              rcases List.mem_append.mp hc with hc | hc
              · exact ((hown own rfl).mono hu).2 c (Option.mem_toList.mp hc)
              · exact fun _ => owned_private (s := .guest guestSessionId) hsep trivial hc

theorem privately_handler (r : CartRequest) (w : CartWorld) :
    Privately (fun _ _ => True) (r.handler who) w := by
  cases r with
  | getCart langId =>
      unfold CartRequest.handler
      cases huser : who.user with
      | some userId =>
          exact privately_getCartOf huser
      | none =>
          cases truthy who.guestSessionId with
          | some guestSessionId =>
              exact privately_getCartOf trivial
          | none =>
              exact privately_raise
  | addCartItem body langId =>
      exact privately_addCartItem
  | updateCartItemDelta itemId delta =>
      exact privately_updateCartItemDelta
  | removeCartItem itemId =>
      exact privately_removeCartItem
  | clearCart =>
      exact privately_clearCart
  | mergeCart =>
      unfold CartRequest.handler
      cases huser : who.user with
      | none =>
          exact privately_raise
      | some userId =>
          dsimp only
          split_ifs
          · exact privately_raise
          · cases truthy who.guestSessionId with
            | some guestSessionId =>
                exact privately_mergeCart huser
            | none =>
                exact privately_raise

end Privacy

theorem cartServer_safe :
    EnvSafe privacyLogic cartServer fun _ _ => True := by
  intro w F e w' p hinv _ henv
  cases e with
  | arrive who r =>
      cases henv
      exact ⟨.refl w.db, (), hinv, (privately_handler r w).mono fun _ _ _ _ _ => trivial⟩
  | tick ms =>
      cases henv
      exact ⟨.refl w.db, hinv⟩

/--
**Privacy of carts.** From any tables in which no cart has both a user and a guest
session, every run in which no guest cart is given to a user touches the carts of a user
for that user only.
-/
theorem carts_private
    (db : ShopperDb) (now : Nat) (as : List (Action CartEvent)) (c : CartState)
    (hsep : CartsSeparate db)
    (hmeets : Meets cartServer.step (System.Conforms (fun _ _ => True) NoneAdopted)
      ⟨⟨db, now, []⟩, []⟩ as)
    (hrun : runs cartServer.step ⟨⟨db, now, []⟩, []⟩ as = some c) :
    ∀ a, a ∈ c.world.accesses → a.Private := by
  have hstart : privacyLogic.inv () (⟨db, now, []⟩ : CartWorld) :=
    ⟨hsep, fun _ h => by cases h⟩
  obtain ⟨_, -, -, hprivate⟩ :=
    balanced_runs cartServer_safe (balanced_start hstart) hmeets hrun
  exact hprivate

/-- A request that is answered with `n` statements and choices. -/
def cartRound (i n : Nat) (who : Requester) (r : CartRequest) : List (Action CartEvent) :=
  .env (.arrive who r) :: List.replicate n (.run i 0 .ok)

/-- Two guest sessions, a user and ten copies of a variant -/
def sampleStall : ShopperDb :=
  { sampleVisitors with
    guestSessions :=
      ⟨[⟨"guest", none, none, 0, some 0, none, none⟩, ⟨"other", none, none, 0, some 0, none, none⟩],
        by simp⟩
    variants := [⟨⟨1, 1, .paperback, "9780306406157", some 100000, 10, 10, true, 0, 1⟩, "VND"⟩] }

theorem addCopies_pos (more : Nat) : ∀ q, some (more + 1) = some q → 1 ≤ q := by
  rintro _ ⟨⟩
  exact Nat.le_add_left 1 more

/-- One copy is added, and `more`. -/
def addCopies (more : Nat) : CartRequest :=
  .addCartItem ⟨1, some (more + 1), addCopies_pos more⟩ 1

/--
A guest fills a cart, the user of this browser another one; they are merged.  A second visitor
fills a cart, and the guest looks at the cart, a new one by now.
-/
def visitorsInTurn : List (Action CartEvent) :=
  cartRound 0 4 ⟨none, some "guest"⟩ (addCopies 1) ++
    cartRound 1 6 ⟨some 1, some "guest"⟩ (addCopies 0) ++
    cartRound 2 4 ⟨some 1, some "guest"⟩ .mergeCart ++
    cartRound 3 4 ⟨none, some "other"⟩ (addCopies 2) ++
    cartRound 4 2 ⟨none, some "guest"⟩ (.getCart 1)

theorem carts_private_visitorsInTurn :
    ∃ c, runs cartServer.step ⟨⟨sampleStall, 0, []⟩, []⟩ visitorsInTurn = some c ∧
      c.world.db.cartItems.rows.map (fun i => (i.cartId, i.quantity)) = [(2, 3), (3, 3)] ∧
      (c.world.accesses.filter fun a => a.userId.isSome).length = 4 ∧
      ∀ a, a ∈ c.world.accesses → a.Private := by
  obtain ⟨c, hrun, hend⟩ := (Option.any_eq_true
    (fun c : CartState => c.quiet &&
      decide (c.world.db.cartItems.rows.map (fun i => (i.cartId, i.quantity)) = [(2, 3), (3, 3)]) &&
      decide ((c.world.accesses.filter fun a => a.userId.isSome).length = 4)) _).mp
    (by decide +kernel : (runs cartServer.step ⟨⟨sampleStall, 0, []⟩, []⟩
      visitorsInTurn).any _ = true)
  simp only [Bool.and_eq_true, decide_eq_true_eq] at hend
  exact ⟨c, hrun, hend.1.2, hend.2, carts_private sampleStall 0 visitorsInTurn c
    (fun _ h => by cases h) (by decide +kernel) hrun⟩

/-- A guest opens a cart, a user takes it over, the guest looks at it again. -/
def guestLooksAfterMerge : List (Action CartEvent) :=
  cartRound 0 2 ⟨none, some "guest"⟩ (.getCart 1) ++
    cartRound 1 4 ⟨some 1, some "guest"⟩ .mergeCart ++
    cartRound 2 1 ⟨none, some "guest"⟩ (.getCart 1)

/-- A guest is shown the cart of a user. -/
theorem merged_cart_shown :
    ¬ ∀ (db : ShopperDb) (now : Nat) (as : List (Action CartEvent)) (c : CartState),
      CartsSeparate db → runs cartServer.step ⟨⟨db, now, []⟩, []⟩ as = some c →
      ∀ a, a ∈ c.world.accesses → a.Private := by
  intro h
  have haccesses : (runs cartServer.step ⟨⟨sampleVisitors, 0, []⟩, []⟩
      guestLooksAfterMerge).map (fun c => c.world.accesses) =
        some [⟨⟨some 1, some "guest"⟩, 1, none⟩, ⟨⟨some 1, some "guest"⟩, 1, none⟩,
          ⟨⟨none, some "guest"⟩, 1, some 1⟩] := by
    decide +kernel
  obtain ⟨c, hrun, haccesses⟩ := Option.map_eq_some_iff.mp haccesses
  have hprivate := h sampleVisitors 0 guestLooksAfterMerge c (fun _ h => by cases h) hrun
    ⟨⟨none, some "guest"⟩, 1, some 1⟩ (by simp [haccesses])
  cases hprivate 1 rfl

end BookStore
