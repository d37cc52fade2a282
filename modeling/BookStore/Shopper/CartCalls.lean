import BookStore.Async.Parallel
import BookStore.Shopper.CartAdds

/-!
# Cart calls by themselves

What the calls of the cart service come to while no other request is running: the state
after them and what they end in.

* `CartWorld.after` is the state after a statement that is accepted.
* `limited` is the quantity that `resolveAdjustedQuantity` arrives at.
* `ForeignKeys` collects what the schema promises of the rows of carts.
-/

namespace BookStore

open Async Program

/-- The foreign keys of `carts` and `cart_items`. -/
structure ShopperDb.ForeignKeys (db : ShopperDb) : Prop where
  itemsInCarts : db.ItemsInCarts
  variants : ∀ i, i ∈ db.cartItems.rows → (db.availableOf i.bookVariantId).isSome = true
  users : ∀ c, c ∈ db.carts.rows → ∀ userId, c.userId = some userId → userId ∈ db.users

/-- The state after a statement that is accepted. -/
def CartWorld.after (w : CartWorld) (who : Requester) (op : CartOp) : CartWorld :=
  { w with
    db := op.effect w.now w.db
    accesses := w.accesses ++ (op.touched w.db).map fun c => ⟨who, c.id, c.userId⟩ }

@[simp] theorem CartWorld.after_db (w : CartWorld) (who : Requester) (op : CartOp) :
    (w.after who op).db = op.effect w.now w.db := rfl

@[simp] theorem CartWorld.after_now (w : CartWorld) (who : Requester) (op : CartOp) :
    (w.after who op).now = w.now := rfl

/-- A call by itself takes `w` to `w'` and ends in `x`. -/
abbrev CartYields {α : Type} (p : CartService α) (w w' : CartWorld) (x : Except CartFailure α) :
    Prop :=
  p.Yields cartExec .database w w' x

/-- No more than what is available. -/
def limited (db : ShopperDb) (bookVariantId desiredQuantity : Nat) : Except CartFailure Nat :=
  match db.availableOf bookVariantId with
  | none => .error (.notFound CartMessage.outOfStock)
  | some available =>
      if available ≤ 0 then .error (.notFound CartMessage.outOfStock)
      else .ok (min desiredQuantity available.toNat)

section Calls

variable {α : Type} {who : Requester} {w w' : CartWorld} {s : Shopper} {v itemId : Nat}

/-- A statement that is accepted. -/
theorem yields_cartQuery_bind
    {op : CartOp} {r : CartOpResponse op} {f : CartOpResponse op → CartService α}
    {x : Except CartFailure α}
    (h : op.answer w.now w.db = .ok r) :
    CartYields ((cartQuery who op).bind f) w w' x ↔ CartYields (f r) (w.after who op) w' x :=
  yields_await_bind (cartExec_ok.mpr ⟨h, rfl⟩)

/-- A statement that is refused. -/
theorem yields_cartQuery_bind_error
    {op : CartOp} {e : CartFailure} {f : CartOpResponse op → CartService α}
    {x : Except CartFailure α}
    (h : op.answer w.now w.db = .error e) :
    CartYields ((cartQuery who op).bind f) w w' x ↔ w' = w ∧ x = .error e := by
  refine yields_await_bind_error ?_
  unfold cartExec
  rw [h]

theorem limited_ok {desiredQuantity quantity : Nat} {db : ShopperDb} :
    limited db v desiredQuantity = .ok quantity ↔
      ∃ available, db.availableOf v = some available ∧ 0 < available ∧
        quantity = min desiredQuantity available.toNat := by
  unfold limited
  cases db.availableOf v with
  | none =>
      simp
  | some available =>
      dsimp only
      split_ifs with h
      · simp [h]
      · simp [not_le.mp h, eq_comm]

theorem yields_limitToStock {desiredQuantity : Nat} {x : Except CartFailure Nat} :
    CartYields (limitToStock who v desiredQuantity) w w' x ↔
      w' = w.after who (.getStockByBookVariantId v) ∧ x = limited w.db v desiredQuantity := by
  unfold limitToStock limited
  rw [bind_eq_bind, yields_cartQuery_bind rfl]
  cases w.db.availableOf v with
  | none =>
      exact Iff.rfl
  | some available =>
      dsimp only
      split_ifs
      · exact Iff.rfl
      · exact Iff.rfl

/-- The state in which `resolveAdjustedQuantity` ends: an item with no quantity is gone. -/
def CartWorld.adjusted (w : CartWorld) (who : Requester) (s : Shopper)
    (itemId bookVariantId desiredQuantity : Nat) : CartWorld :=
  (if desiredQuantity = 0 then w.after who (.deleteItem itemId s) else w).after who
    (.getStockByBookVariantId bookVariantId)

theorem CartWorld.adjusted_db (w : CartWorld) (desiredQuantity : Nat) :
    (w.adjusted who s itemId v desiredQuantity).db =
      if desiredQuantity = 0 then (CartOp.deleteItem itemId s).effect w.now w.db else w.db := by
  unfold CartWorld.adjusted
  split_ifs
  · rfl
  · rfl

@[simp] theorem CartWorld.adjusted_now (w : CartWorld) (desiredQuantity : Nat) :
    (w.adjusted who s itemId v desiredQuantity).now = w.now := by
  unfold CartWorld.adjusted
  split_ifs
  · rfl
  · rfl

theorem yields_resolveAdjustedQuantity
    {currentQuantity : Nat} {delta : Int} {x : Except CartFailure Nat} :
    CartYields (resolveAdjustedQuantity who s itemId v currentQuantity delta) w w' x ↔
      w' = w.adjusted who s itemId v (currentQuantity + delta).toNat ∧
        x = limited w.db v (currentQuantity + delta).toNat := by
  unfold resolveAdjustedQuantity CartWorld.adjusted
  dsimp only
  split_ifs
  · rw [bind_eq_bind, yields_cartQuery_bind rfl, yields_limitToStock]
    exact Iff.rfl
  · exact yields_limitToStock

theorem yields_foundUser {userId : Nat} {x : Except CartFailure Nat} :
    CartYields (foundUser who userId) w w' x ↔
      w' = w.after who (.findUserById userId) ∧
        x = if userId ∈ w.db.users then .ok userId else .error (.forbidden none) := by
  unfold foundUser
  rw [bind_eq_bind, yields_cartQuery_bind rfl]
  split_ifs
  · exact Iff.rfl
  · exact Iff.rfl

/-- A statement leaves the tables as they are and answers `r`. -/
structure CartReads (op : CartOp) (r : CartOpResponse op) (w : CartWorld) : Prop where
  effect : op.effect w.now w.db = w.db
  answer : op.answer w.now w.db = .ok r

/-- Two reading statements together: one comes first. -/
theorem yields_alongside
    {op op' : CartOp} {r : CartOpResponse op} {r' : CartOpResponse op'}
    {x : Except CartFailure (CartOpResponse op × CartOpResponse op')}
    (h : CartReads op r w)
    (h' : CartReads op' r' w) :
    CartYields (alongside (⟨who, op⟩ : CartStmt) (cartQuery who op')) w w' x ↔
      (w' = (w.after who op).after who op' ∨ w' = (w.after who op').after who op) ∧
        x = .ok (r, r') := by
  have hattempt : ∀ {op : CartOp} {r : CartOpResponse op} (v : CartWorld), v.db = w.db →
      v.now = w.now → CartReads op r w → attempt cartExec .database ⟨who, op⟩ .ok v =
        (v.after who op, .ok r) := by
    intro op r v hdb hnow h
    have hok : cartExec ⟨who, op⟩ v = .ok (v.after who op, r) :=
      cartExec_ok.mpr ⟨by rw [hdb, hnow, h.answer], rfl⟩
    simp only [attempt, hok]
  have hthen := hattempt (w.after who op) h.effect rfl h'
  have hthen' := hattempt (w.after who op') h'.effect rfl h
  simp [CartYields, await, alongside, Program.Yields, Fin.exists_fin_two, resume,
    hattempt w rfl rfl h, hattempt w rfl rfl h', hthen, hthen', or_and_right]

/-- What `mergeCart` leaves and ends in. -/
def mergeOutcome (now : Nat) (db : ShopperDb) (guestSessionId : String) (userId : Nat) :
    ShopperDb × Except CartFailure CartAnswer :=
  match db.newestCart (.guest guestSessionId), db.newestCart (.user userId) with
  | none, _ => (db, .ok (.merged 0))
  | some guestCart, none =>
      if userId ∈ db.users then
        ((CartOp.updateGuestCart guestCart.id userId).effect now db,
          .ok (.merged (db.itemsOfCart guestCart.id).length))
      else (db, .error .database)
  | some guestCart, some userCart =>
      let items := mergedItems (db.itemsOfCart userCart.id) (db.itemsOfCart guestCart.id)
      if items.any db.refusesItem then (db, .error .database)
      else
        ((CartOp.mergeCartUser userCart.id guestSessionId items).effect now db,
          .ok (.merged ((db.itemsOfCart guestCart.id).filter fun i =>
            decide (quantityInCart (db.itemsOfCart userCart.id) i.bookVariantId = 0)).length))

theorem find_of_newestCart {db : ShopperDb} {c : Cart} (h : db.newestCart s = some c) :
    db.carts.find c.id = some c :=
  Table.find_of_mem (List.mem_of_mem_filter (newestCart_mem h))

theorem answer_updateGuestCart
    {db : ShopperDb} {c : Cart} (now userId : Nat) (h : db.carts.find c.id = some c) :
    (CartOp.updateGuestCart c.id userId).answer now db =
      if userId ∈ db.users then .ok () else .error .database := by
  simp [CartOp.answer, h, ite_not]

theorem answer_mergeCartUser
    {db : ShopperDb} {c : Cart} (now : Nat) (guestSessionId : String) (items : List (Nat × Nat))
    (h : db.carts.find c.id = some c) :
    (CartOp.mergeCartUser c.id guestSessionId items).answer now db =
      if items.any db.refusesItem then .error .database else .ok () := by
  have hfound : (db.carts.find c.id).isNone = false := by rw [h]; rfl
  simp only [CartOp.answer, hfound, Bool.false_eq_true, false_or]

theorem yields_mergeCart
    {guestSessionId : String} {userId : Nat} {x : Except CartFailure CartAnswer}
    (h : CartYields (mergeCart who guestSessionId userId) w w' x) :
    w'.db = (mergeOutcome w.now w.db guestSessionId userId).1 ∧
      x = (mergeOutcome w.now w.db guestSessionId userId).2 ∧ w'.now = w.now := by
  rcases yields_bind.mp h with ⟨v, carts, hread, hrest⟩ | ⟨e, hread, -⟩
  · obtain ⟨hv, heq⟩ := (yields_alongside ⟨rfl, rfl⟩ ⟨rfl, rfl⟩).mp hread
    have hdb : v.db = w.db := by rcases hv with rfl | rfl <;> rfl
    have hnow : v.now = w.now := by rcases hv with rfl | rfl <;> rfl
    obtain rfl := Except.ok.inj heq
    unfold mergeOutcome
    rw [← hdb, ← hnow] at *
    cases hguest : v.db.newestCart (.guest guestSessionId) with
    | none =>
        rw [hguest] at hrest
        obtain ⟨rfl, rfl⟩ := hrest
        exact ⟨rfl, rfl, rfl⟩
    | some guestCart =>
        cases huser : v.db.newestCart (.user userId) with
        | none =>
            rw [hguest, huser] at hrest
            have hanswer := answer_updateGuestCart v.now userId (find_of_newestCart hguest)
            dsimp only
            split_ifs at hanswer ⊢
            · obtain ⟨rfl, rfl⟩ := (yields_cartQuery_bind hanswer).mp hrest
              exact ⟨rfl, rfl, rfl⟩
            · obtain ⟨rfl, rfl⟩ := (yields_cartQuery_bind_error hanswer).mp hrest
              exact ⟨rfl, rfl, rfl⟩
        | some userCart =>
            rw [hguest, huser] at hrest
            have hanswer := answer_mergeCartUser v.now guestSessionId
              (mergedItems (v.db.itemsOfCart userCart.id) (v.db.itemsOfCart guestCart.id))
              (find_of_newestCart huser)
            dsimp only
            split_ifs at hanswer ⊢
            · obtain ⟨rfl, rfl⟩ := (yields_cartQuery_bind_error hanswer).mp hrest
              exact ⟨rfl, rfl, rfl⟩
            · obtain ⟨rfl, rfl⟩ := (yields_cartQuery_bind hanswer).mp hrest
              exact ⟨rfl, rfl, rfl⟩
  · cases ((yields_alongside ⟨rfl, rfl⟩ ⟨rfl, rfl⟩).mp hread).2

/-- The call comes to an end. -/
theorem exists_mergeCart (who : Requester) (guestSessionId : String) (userId : Nat)
    (w : CartWorld) : ∃ w' x, CartYields (mergeCart who guestSessionId userId) w w' x := by
  refine exists_yields (Live.bind (Live.alongside (Live.await _)) ?_) w
  rintro ⟨guestCart, userCart⟩
  cases guestCart with
  | none =>
      trivial
  | some guest =>
      cases userCart with
      | none =>
          exact (Live.await _).bind fun _ => trivial
      | some user =>
          exact (Live.await _).bind fun _ => trivial

/-- An item of the shopper is in the table. -/
theorem find_of_itemOf {db : ShopperDb} {i : CartItem} (h : db.itemOf itemId s = some i) :
    db.cartItems.find itemId = some i :=
  (Option.filter_eq_some_iff.mp h).1

end Calls

end BookStore
