import BookStore.Catalog.Tables

/-!
# What a shopper leaves behind

The tables of `prisma/schema.prisma` that belong to a user or to a guest session: carts,
wishlists, events and orders, with the books that they refer to.  A row keeps the columns
some modelled function uses.

A `Shopper` is a user or a guest session.  A row of a cart or an order can carry both.
-/

namespace BookStore

/-- `guest_sessions` -/
structure GuestSession where
  id : String
  ipFirst : Option String
  userAgentHash : Option String
  createdAt : Nat
  lastSeenAt : Option Nat
  convertedUserId : Option Nat
  convertedAt : Option Nat
  deriving DecidableEq

/-- `carts` -/
structure Cart where
  id : Nat
  userId : Option Nat
  guestSessionId : Option String
  updatedAt : Nat
  deriving DecidableEq

/-- `cart_items`; a cart has one for each variant -/
structure CartItem where
  id : Nat
  cartId : Nat
  bookVariantId : Nat
  quantity : Nat
  addedAt : Nat
  deriving DecidableEq

/-- `wishlists` -/
structure Wishlist where
  id : Nat
  userId : Option Nat
  guestSessionId : Option String
  deriving DecidableEq

/-- `wishlist_items` -/
structure WishlistItem where
  id : Nat
  wishlistId : Nat
  bookVariantId : Nat
  deriving DecidableEq

/-- `user_events` -/
structure UserEvent where
  id : Nat
  userId : Option Nat
  guestSessionId : Option String
  deriving DecidableEq

/-- `orderListSelect` -/
structure OrderListRow where
  id : Nat
  orderCode : String
  status : Option OrderStatus
  subtotal : Option ℚ
  discountAmount : Option ℚ
  shippingFee : Option ℚ
  totalAmount : Option ℚ
  placedAt : Option Nat
  createdAt : Nat
  deriving DecidableEq

/-- `orders` -/
structure ShopperOrder extends OrderListRow where
  userId : Option Nat
  guestSessionId : Option String
  deriving DecidableEq

/-- `order_items` -/
structure ShopperOrderItem where
  id : Nat
  orderId : Nat
  bookVariantSnapshotId : Nat
  quantity : Nat
  createdAt : Nat
  deriving DecidableEq

/-- `book_variant_snapshots` -/
structure PriceSnapshot where
  id : Nat
  bookVariantId : Nat
  priceSnapshot : ℚ
  deriving DecidableEq

instance : Keyed Cart := ⟨Cart.id⟩
instance : Keyed CartItem := ⟨CartItem.id⟩
instance : Keyed ShopperOrder := ⟨fun o => o.id⟩

/-- The guest sessions; the id is the primary key. -/
structure GuestSessions where
  rows : List GuestSession
  nodup : (rows.map GuestSession.id).Nodup

namespace GuestSessions

variable (t : GuestSessions)

def find (id : String) : Option GuestSession :=
  t.rows.find? fun s => decide (s.id = id)

def insert (s : GuestSession) (hs : t.find s.id = none) : GuestSessions where
  rows := t.rows ++ [s]
  nodup := by
    rw [List.map_append, List.nodup_append]
    refine ⟨t.nodup, by simp, ?_⟩
    rintro a ha _ hb rfl
    obtain ⟨r, hr, hid⟩ := List.mem_map.mp ha
    rw [List.map_singleton, List.mem_singleton] at hb
    simpa [hid, hb] using List.find?_eq_none.mp hs r hr

/-- `lastSeenAt: new Date()` -/
def seen (id : String) (now : Nat) : GuestSessions where
  rows := t.rows.map fun s => if s.id = id then { s with lastSeenAt := some now } else s
  nodup := by
    have hids : (t.rows.map fun s =>
        if s.id = id then { s with lastSeenAt := some now } else s).map GuestSession.id =
          t.rows.map GuestSession.id := by
      rw [List.map_map]
      refine List.map_congr_left fun s _ => ?_
      simp only [Function.comp]
      split_ifs <;> rfl
    rw [hids]
    exact t.nodup

def deleteWhere (p : GuestSession → Bool) : GuestSessions where
  rows := t.rows.filter fun s => !p s
  nodup := t.nodup.sublist (List.filter_sublist.map _)

end GuestSessions

structure ShopperDb where
  /-- `users`, by id -/
  users : List Nat
  guestSessions : GuestSessions
  carts : Table Cart
  cartItems : Table CartItem
  wishlists : List Wishlist
  wishlistItems : List WishlistItem
  userEvents : List UserEvent
  orders : Table ShopperOrder
  orderItems : List ShopperOrderItem
  snapshots : List PriceSnapshot
  variants : List CatalogVariant
  books : List Book
  translations : List BookTranslation

/-- Whom a row of a cart or an order belongs to. -/
inductive Shopper
  | user (id : Nat)
  | guest (sessionId : String)
  deriving DecidableEq

/-- `where: { userId }` or `where: { guestSessionId }` -/
def Shopper.owns (s : Shopper) (userId : Option Nat) (guestSessionId : Option String) : Bool :=
  match s with
  | .user id => decide (userId = some id)
  | .guest sessionId => decide (guestSessionId = some sessionId)

end BookStore
