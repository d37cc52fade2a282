import BookStore.Shopper.Orders

/-!
# The cleanup of guest sessions

`GuestSessionRepository.cleanupInactiveGuestData`, a transaction of three deletes, with
the foreign keys of `guest_sessions`, `carts` and `wishlists`: carts, wishlists, events
and the items follow their parent, an order loses its `guestSessionId`.

* `cleanup_effect`: what is left of each table.
* `AbandonedOnly` is what the cleanup should do to sessions, carts and orders.
* `cleanup_abandonedOnly_iff` is the result: it does so exactly if no cart of a user and
  no order carries the id of a session that is deleted.
-/

namespace BookStore

/-! ### Deleting with foreign keys -/

namespace ShopperDb

/-- `cartItem.deleteMany` -/
def deleteCartItems (db : ShopperDb) (p : CartItem → Bool) : ShopperDb :=
  { db with cartItems := db.cartItems.deleteWhere p }

/-- `cart.deleteMany`; the items cascade. -/
def deleteCarts (db : ShopperDb) (p : Cart → Bool) : ShopperDb :=
  { db with
    carts := db.carts.deleteWhere p
    cartItems := db.cartItems.deleteWhere fun i => (db.carts.find i.cartId).any p }

/-- The column refers to a session that meets `p`. -/
def refersTo (db : ShopperDb) (p : GuestSession → Bool) (guestSessionId : Option String) : Bool :=
  guestSessionId.any fun id => (db.guestSessions.find id).any p

/-- `guestSession.deleteMany`; all but the orders cascade. -/
def deleteGuestSessions (db : ShopperDb) (p : GuestSession → Bool) : ShopperDb :=
  { db.deleteCarts fun c => db.refersTo p c.guestSessionId with
    guestSessions := db.guestSessions.deleteWhere p
    wishlists := db.wishlists.filter fun l => !db.refersTo p l.guestSessionId
    wishlistItems := db.wishlistItems.filter fun i =>
      !db.wishlists.any fun l => decide (l.id = i.wishlistId) && db.refersTo p l.guestSessionId
    userEvents := db.userEvents.filter fun e => !db.refersTo p e.guestSessionId
    -- `onDelete: SetNull`
    orders := db.orders.updateWhere (fun o => db.refersTo p o.guestSessionId)
      fun o => { o with guestSessionId := none } }

end ShopperDb

/-! ### The cleanup -/

structure GuestSessionCleanupResult where
  deletedCartItems : Nat
  deletedCarts : Nat
  deletedSessions : Nat
  deriving DecidableEq

/-- `where` of the sessions that are looked up. -/
def inactiveGuest (cutoff : Nat) (s : GuestSession) : Bool :=
  s.convertedUserId.isNone &&
    (s.lastSeenAt.any (fun t => decide (t < cutoff)) ||
      s.lastSeenAt.isNone && decide (s.createdAt < cutoff))

def cleanupInactiveGuestData (cutoff : Nat) (db : ShopperDb) :
    GuestSessionCleanupResult × ShopperDb :=
  let sessions := db.guestSessions.rows.filter (inactiveGuest cutoff)
  if sessions.isEmpty then
    (⟨0, 0, 0⟩, db)
  else
    let guestSessionIds := sessions.map GuestSession.id
    let ofThem (c : Cart) : Bool :=
      c.guestSessionId.any fun id => decide (id ∈ guestSessionIds)
    let cartIds := (db.carts.filter ofThem).map Cart.id
    let ofCarts (i : CartItem) : Bool := decide (i.cartId ∈ cartIds)
    let deletedCartItems := if cartIds.isEmpty then 0 else (db.cartItems.filter ofCarts).length
    let db₁ := if cartIds.isEmpty then db else db.deleteCartItems ofCarts
    let deletedCarts := (db₁.carts.filter ofThem).length
    let db₂ := db₁.deleteCarts ofThem
    let deletedSessions :=
      (db₂.guestSessions.rows.filter fun s => decide (s.id ∈ guestSessionIds)).length
    (⟨deletedCartItems, deletedCarts, deletedSessions⟩,
      db₂.deleteGuestSessions fun s => decide (s.id ∈ guestSessionIds))

/-! ### What it should do -/

/-- Never converted, and last seen (or created, if never seen) before the cutoff. -/
def Abandoned (cutoff : Nat) (s : GuestSession) : Prop :=
  s.convertedUserId = none ∧ s.lastSeenAt.getD s.createdAt < cutoff

structure AbandonedOnly (cutoff : Nat) (db db' : ShopperDb) : Prop where
  /-- Exactly the abandoned sessions are deleted. -/
  sessions : ∀ s, s ∈ db'.guestSessions.rows ↔ s ∈ db.guestSessions.rows ∧ ¬ Abandoned cutoff s
  /-- A cart that is deleted has no user. -/
  carts : ∀ c, c ∈ db.carts.rows → c ∉ db'.carts.rows → c.userId = none
  /-- An item that is deleted was in a cart without a user. -/
  cartItems : ∀ i, i ∈ db.cartItems.rows → i ∉ db'.cartItems.rows →
    ∀ c, db.carts.find i.cartId = some c → c.userId = none
  /-- A shopper still finds every order that the shopper has found before. -/
  orders : ∀ s o, o ∈ db.newestOrders s → ∃ o', o' ∈ db'.newestOrders s ∧ key o' = key o

/-- The column refers to a session that is abandoned. -/
def RefersToAbandoned (cutoff : Nat) (db : ShopperDb) (guestSessionId : Option String) : Prop :=
  ∃ s, s ∈ db.guestSessions.rows ∧ Abandoned cutoff s ∧ guestSessionId = some s.id

section Cleanup

variable {cutoff : Nat} {db : ShopperDb} {s : GuestSession} {guestSessionId : Option String}

theorem inactiveGuest_iff : inactiveGuest cutoff s = true ↔ Abandoned cutoff s := by
  unfold inactiveGuest Abandoned
  cases s.lastSeenAt <;> simp

theorem GuestSessions.find_eq_some {t : GuestSessions} {id : String} :
    t.find id = some s ↔ s ∈ t.rows ∧ s.id = id := by
  constructor
  · intro h
    exact ⟨List.mem_of_find?_eq_some h, by simpa using List.find?_some h⟩
  · rintro ⟨hs, rfl⟩
    cases h : t.find s.id with
    | none =>
        exact absurd (List.find?_eq_none.mp h s hs) (by simp)
    | some s' =>
        have hid : s'.id = s.id := by simpa using List.find?_some h
        rw [List.inj_on_of_nodup_map t.nodup (List.mem_of_find?_eq_some h) hs hid]

theorem refersTo_iff {p : GuestSession → Bool} :
    db.refersTo p guestSessionId = true ↔
      ∃ s, s ∈ db.guestSessions.rows ∧ p s = true ∧ guestSessionId = some s.id := by
  cases guestSessionId with
  | none =>
      simp [ShopperDb.refersTo]
  | some id =>
      simp only [ShopperDb.refersTo, Option.any_some, Option.any_eq_true,
        GuestSessions.find_eq_some, Option.some.injEq]
      constructor
      · rintro ⟨s, ⟨hs, hid⟩, hp⟩
        exact ⟨s, hs, hp, hid.symm⟩
      · rintro ⟨s, hs, hp, hid⟩
        exact ⟨s, ⟨hs, hid.symm⟩, hp⟩

/-- What the cleanup leaves, where `stale` says which references it drops. -/
structure CleanedUp (cutoff : Nat) (db : ShopperDb) (stale : Option String → Bool)
    (db' : ShopperDb) : Prop where
  guestSessions : ∀ s, s ∈ db'.guestSessions.rows ↔
    s ∈ db.guestSessions.rows ∧ inactiveGuest cutoff s = false
  carts : ∀ c, c ∈ db'.carts.rows ↔ c ∈ db.carts.rows ∧ stale c.guestSessionId = false
  cartItems : ∀ i, i ∈ db'.cartItems.rows ↔
    i ∈ db.cartItems.rows ∧ (db.carts.find i.cartId).any (fun c => stale c.guestSessionId) = false
  orders : db'.orders.rows = db.orders.rows.map fun o =>
    if stale o.guestSessionId then { o with guestSessionId := none } else o

variable (cutoff db) in
/-- **Cleanup.** The explicit deletes delete no more than the foreign keys do. -/
theorem cleanup_effect :
    CleanedUp cutoff db (db.refersTo (inactiveGuest cutoff))
      (cleanupInactiveGuestData cutoff db).2 := by
  unfold cleanupInactiveGuestData
  dsimp only
  by_cases hnone : (db.guestSessions.rows.filter (inactiveGuest cutoff)).isEmpty = true
  · rw [if_pos hnone]
    have hactive : ∀ s, s ∈ db.guestSessions.rows → inactiveGuest cutoff s = false := by
      intro s hs
      simpa using List.filter_eq_nil_iff.mp (List.isEmpty_iff.mp hnone) s hs
    have hstale : ∀ sid, db.refersTo (inactiveGuest cutoff) sid = false := by
      intro sid
      refine Bool.eq_false_iff.mpr fun h => ?_
      obtain ⟨s, hs, hinactive, -⟩ := refersTo_iff.mp h
      rw [hactive s hs] at hinactive
      cases hinactive
    refine ⟨fun s => ?_, fun c => ?_, fun i => ?_, ?_⟩
    · exact ⟨fun hs => ⟨hs, hactive s hs⟩, And.left⟩
    · simp [hstale]
    · simp [hstale]
    · simp [hstale]
  · rw [if_neg hnone]
    -- the ids that were collected are those of the inactive sessions
    have hids : ∀ s, s ∈ db.guestSessions.rows →
        (s.id ∈ (db.guestSessions.rows.filter (inactiveGuest cutoff)).map GuestSession.id ↔
          inactiveGuest cutoff s = true) := by
      intro s hs
      simp only [List.mem_map, List.mem_filter]
      constructor
      · rintro ⟨s', ⟨hs', hinactive⟩, hid⟩
        rwa [← List.inj_on_of_nodup_map db.guestSessions.nodup hs' hs hid]
      · exact fun h => ⟨s, ⟨hs, h⟩, rfl⟩
    generalize hcollected : (db.guestSessions.rows.filter (inactiveGuest cutoff)).map
      GuestSession.id = ids at hids ⊢
    have hofThem : ∀ sid : Option String, sid.any (fun id => decide (id ∈ ids)) =
        db.refersTo (inactiveGuest cutoff) sid := by
      intro sid
      rw [Bool.eq_iff_iff, refersTo_iff, Option.any_eq_true, ← hcollected]
      simp only [decide_eq_true_eq, List.mem_map, List.mem_filter]
      constructor
      · rintro ⟨_, hsid, s, ⟨hs, hinactive⟩, rfl⟩
        exact ⟨s, hs, hinactive, hsid⟩
      · rintro ⟨s, hs, hinactive, hsid⟩
        exact ⟨s.id, hsid, s, ⟨hs, hinactive⟩, rfl⟩
    have hrefers : ∀ sid : Option String, db.refersTo (fun s => decide (s.id ∈ ids)) sid =
        db.refersTo (inactiveGuest cutoff) sid := by
      intro sid
      rw [Bool.eq_iff_iff, refersTo_iff, refersTo_iff]
      refine exists_congr fun s => and_congr_right fun hs => ?_
      rw [decide_eq_true_eq, hids s hs]
    simp only [hofThem]
    have hcartIds : ∀ k, k ∈ (db.carts.filter fun c =>
        db.refersTo (inactiveGuest cutoff) c.guestSessionId).map Cart.id ↔
          (db.carts.find k).any (fun c => db.refersTo (inactiveGuest cutoff) c.guestSessionId) =
            true := by
      intro k
      simp only [Table.filter, List.mem_map, List.mem_filter, Option.any_eq_true,
        Table.find_eq_some_iff]
      constructor
      · rintro ⟨c, ⟨hc, hstale⟩, rfl⟩
        exact ⟨c, ⟨hc, rfl⟩, hstale⟩
      · rintro ⟨c, ⟨hc, rfl⟩, hstale⟩
        exact ⟨c, ⟨hc, hstale⟩, rfl⟩
    generalize (db.carts.filter fun c =>
      db.refersTo (inactiveGuest cutoff) c.guestSessionId).map Cart.id = cartIds at hcartIds ⊢
    -- the items of those carts are deleted, if there are any
    obtain ⟨db₁, hdb₁, hsessions, hcarts, horders, hitems⟩ : ∃ db₁ : ShopperDb,
        (if cartIds.isEmpty = true then db
          else db.deleteCartItems fun i => decide (i.cartId ∈ cartIds)) = db₁ ∧
        db₁.guestSessions = db.guestSessions ∧ db₁.carts = db.carts ∧ db₁.orders = db.orders ∧
        ∀ i, i ∈ db₁.cartItems.rows ↔ i ∈ db.cartItems.rows ∧ i.cartId ∉ cartIds := by
      refine ⟨_, rfl, ?_⟩
      split_ifs with hempty
      · rw [List.isEmpty_iff.mp hempty]
        simp
      · simp [ShopperDb.deleteCartItems]
    rw [hdb₁]
    have hrefers₁ : ∀ p sid, db₁.refersTo p sid = db.refersTo p sid := by
      intro p sid
      simp only [ShopperDb.refersTo, hsessions]
    have hrefers₂ : ∀ q p sid, (db₁.deleteCarts q).refersTo p sid = db.refersTo p sid :=
      fun _ => hrefers₁
    refine ⟨fun s => ?_, fun c => ?_, fun i => ?_, ?_⟩
    · simp only [ShopperDb.deleteGuestSessions, ShopperDb.deleteCarts, GuestSessions.deleteWhere,
        hsessions, List.mem_filter, Bool.not_eq_true', decide_eq_false_iff_not]
      refine and_congr_right fun hs => ?_
      rw [hids s hs, Bool.not_eq_true]
    · simp only [ShopperDb.deleteGuestSessions, hrefers₂, hrefers]
      simp [ShopperDb.deleteCarts, hcarts]
    · simp only [ShopperDb.deleteGuestSessions, hrefers₂, hrefers]
      simp only [ShopperDb.deleteCarts, Table.rows_deleteWhere, List.mem_filter, hitems, hcarts,
        hcartIds, Bool.not_eq_true', Table.find_deleteWhere]
      cases db.carts.find i.cartId with
      | none =>
          simp
      | some c =>
          cases hstale : db.refersTo (inactiveGuest cutoff) c.guestSessionId <;> simp [hstale]
    · simp only [ShopperDb.deleteGuestSessions, hrefers₂, hrefers]
      simp [ShopperDb.deleteCarts, horders]

theorem stale_iff :
    db.refersTo (inactiveGuest cutoff) guestSessionId = true ↔
      RefersToAbandoned cutoff db guestSessionId := by
  simp only [refersTo_iff, inactiveGuest_iff]
  rfl

/-- The orders of the cleaned up database that a shopper finds. -/
theorem mem_newestOrders_cleanup {shopper : Shopper} {o' : ShopperOrder} :
    o' ∈ (cleanupInactiveGuestData cutoff db).2.newestOrders shopper ↔
      ∃ o, o ∈ db.orders.rows ∧
        (if db.refersTo (inactiveGuest cutoff) o.guestSessionId = true then
          { o with guestSessionId := none } else o) = o' ∧
        shopper.owns o'.userId o'.guestSessionId = true := by
  rw [mem_newestOrders, (cleanup_effect cutoff db).orders]
  simp only [List.mem_map]
  constructor
  · rintro ⟨⟨o, ho, heq⟩, howns⟩
    exact ⟨o, ho, heq, howns⟩
  · rintro ⟨o, ho, heq, howns⟩
    exact ⟨⟨o, ho, heq⟩, howns⟩

/--
**Cleanup of guests.** It deletes the abandoned sessions, and only the carts and items of
no user, and leaves every order with its owner, exactly if no cart of a user and no order
carries the id of an abandoned session.
-/
theorem cleanup_abandonedOnly_iff :
    AbandonedOnly cutoff db (cleanupInactiveGuestData cutoff db).2 ↔
      (∀ c, c ∈ db.carts.rows → RefersToAbandoned cutoff db c.guestSessionId →
        c.userId = none) ∧
      ∀ o, o ∈ db.orders.rows → ¬ RefersToAbandoned cutoff db o.guestSessionId := by
  have heffect := cleanup_effect cutoff db
  constructor
  · intro h
    refine ⟨fun c hc hstale => h.carts c hc fun hkept => ?_, fun o ho hstale => ?_⟩
    · have hfresh := ((heffect.carts c).mp hkept).2
      rw [stale_iff.mpr hstale] at hfresh
      cases hfresh
    · -- the session itself no longer finds the order
      have hdropped := stale_iff.mpr hstale
      obtain ⟨s, -, -, hsid⟩ := hstale
      have howns : (Shopper.guest s.id).owns o.userId o.guestSessionId = true := by
        simp [Shopper.owns, hsid]
      obtain ⟨o', ho', hkey⟩ := h.orders (.guest s.id) o (mem_newestOrders.mpr ⟨ho, howns⟩)
      obtain ⟨o₁, ho₁, rfl, howns'⟩ := mem_newestOrders_cleanup.mp ho'
      have hkey₁ : key o₁ = key o := by
        rw [← hkey]
        split_ifs <;> rfl
      obtain rfl : o₁ = o := List.inj_on_of_nodup_map db.orders.nodup ho₁ ho hkey₁
      rw [if_pos hdropped] at howns'
      simp [Shopper.owns] at howns'
  · rintro ⟨hcarts, horders⟩
    refine ⟨fun s => ?_, fun c hc hgone => ?_, fun i hi hgone c hc => ?_, fun shopper o ho => ?_⟩
    · rw [heffect.guestSessions, ← inactiveGuest_iff, Bool.not_eq_true]
    · refine hcarts c hc (stale_iff.mp ?_)
      by_contra hfresh
      exact hgone ((heffect.carts c).mpr ⟨hc, Bool.eq_false_iff.mpr hfresh⟩)
    · refine hcarts c (Table.find_mem hc) (stale_iff.mp ?_)
      by_contra hfresh
      refine hgone ((heffect.cartItems i).mpr ⟨hi, ?_⟩)
      rw [hc, Option.any_some]
      exact Bool.eq_false_iff.mpr hfresh
    · obtain ⟨hrow, howns⟩ := mem_newestOrders.mp ho
      refine ⟨o, mem_newestOrders_cleanup.mpr ⟨o, hrow, if_neg fun hstale => ?_, howns⟩, rfl⟩
      exact horders o hrow (stale_iff.mp hstale)

end Cleanup

/-- An abandoned session whose cart user 1 has taken over. -/
def sampleAbandoned : ShopperDb :=
  { sampleShopper.db with
    carts := (Table.empty : Table Cart).insert fun n => ⟨n, some 1, some "guest", 0⟩
    orders := .empty }

/-- The cleanup deletes the cart of a user. -/
theorem adopted_cart_deleted :
    ¬ ∀ (cutoff : Nat) (db : ShopperDb),
      AbandonedOnly cutoff db (cleanupInactiveGuestData cutoff db).2 := by
  intro h
  have hgone : ⟨1, some 1, some "guest", 0⟩ ∉
      (cleanupInactiveGuestData 1 sampleAbandoned).2.carts.rows := by
    decide +kernel
  have huser := (h 1 sampleAbandoned).carts ⟨1, some 1, some "guest", 0⟩
    (by simp [sampleAbandoned, Table.empty]) hgone
  cases huser

end BookStore
