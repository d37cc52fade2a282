import BookStore.Shopper.CartService

/-!
# Wishlists: the statements and the service

`WishlistController`, `WishlistService`, `WishlistItemService` and the two repositories.  Where
the service has one branch for users and the same one for guests, it is a function of the
`Shopper`.

A list is deleted by its `deleteAt`; its items stay in the table.
-/

namespace BookStore
namespace Wish

open Async Program

/-- What the service throws. -/
inductive WishFailure
  | forbidden
  | notFound (message : String)
  | database
  deriving DecidableEq, Repr

/-- `WishlistMessage.WISHLIST_ITEM_NOT_FOUND` -/
def wishlistItemNotFound : String := "Không tìm thấy mục yêu thích"

/-! ### Tables -/

/-- `wishlists` -/
structure WishlistRow extends Wishlist where
  updatedAt : Nat
  deleteAt : Option Nat
  deriving DecidableEq

/-- `wishlist_items`; a list has one for each variant -/
structure WishlistItemRow extends WishlistItem where
  addedAt : Nat
  deriving DecidableEq

instance : Keyed WishlistRow := ⟨fun l => l.id⟩
instance : Keyed WishlistItemRow := ⟨fun i => i.id⟩

structure WishWorld where
  /-- The users, guest sessions, variants and books. -/
  shop : ShopperDb
  wishlists : Table WishlistRow
  items : Table WishlistItemRow
  now : Nat

/-! ### Rows as they are selected -/

structure WishBookRow where
  id : Nat
  coverImageUrl : Option String
  /-- `title`, `description` and `slug` -/
  translations : List (String × Option String × Option String)
  deriving DecidableEq

structure WishVariantRow where
  id : Nat
  price : Option ℚ
  format : BookFormat
  currencyCode : String
  stock : Int
  book : Option WishBookRow
  deriving DecidableEq

structure WishItemRow where
  item : WishlistItemRow
  variant : Option WishVariantRow
  deriving DecidableEq

/-- `buildWishlistWithItemsInclude` -/
structure WishlistWithItems where
  list : WishlistRow
  items : List WishItemRow
  deriving DecidableEq

namespace WishWorld

variable (w : WishWorld)

/-- A list of the shopper that is not deleted. -/
def liveOf (s : Shopper) (l : WishlistRow) : Bool :=
  s.owns l.userId l.guestSessionId && decide (l.deleteAt = none)

/-- `orderBy: { updatedAt: 'desc' }`, `take: 1` -/
def newestList (s : Shopper) : Option WishlistRow :=
  (orderBy (fun l l' => decide (l'.updatedAt < l.updatedAt)) (w.wishlists.filter (liveOf s))).head?

def itemsOfList (wishlistId : Nat) : List WishlistItemRow :=
  w.items.filter fun i => decide (i.wishlistId = wishlistId)

/-- The first translation in the language; in any, where none is asked for. -/
def wishTranslations (languageId : Option Nat) (bookId : Nat) :
    List (String × Option String × Option String) :=
  let inLanguage (t : BookTranslation) : Bool :=
    match languageId with
    | none => true
    | some n => decide (n = 0) || decide (t.languageId = n)
  ((orderBy (fun t t' => decide (t.languageId < t'.languageId))
    (w.shop.translations.filter fun t => decide (t.bookId = bookId) && inLanguage t)).take 1).map
      fun t => (t.title, t.description, t.slug)

def wishVariantRow (languageId : Option Nat) (bookVariantId : Nat) : Option WishVariantRow :=
  (w.shop.variants.find? fun v => decide (v.id = bookVariantId)).map fun v =>
    { id := v.id
      price := v.price
      format := v.format
      currencyCode := v.currencyCode
      stock := v.stock
      book := (w.shop.books.find? fun b => decide (b.id = v.bookId)).map fun b =>
        { id := b.id
          coverImageUrl := b.coverImageUrl
          translations := w.wishTranslations languageId b.id } }

def listWithItems (languageId : Option Nat) (l : WishlistRow) : WishlistWithItems where
  list := l
  items := (orderBy (fun i i' => decide (i'.addedAt < i.addedAt)) (w.itemsOfList l.id)).map
    fun i => ⟨i, w.wishVariantRow languageId i.bookVariantId⟩

/-- The row that a list would refer to. -/
def known (s : Shopper) : Bool :=
  match s with
  | .user userId => decide (userId ∈ w.shop.users)
  | .guest sessionId => (w.shop.guestSessions.find sessionId).isSome

def stocked (bookVariantId : Nat) : Bool :=
  w.shop.variants.any fun v => decide (v.id = bookVariantId)

def pair (wishlistId bookVariantId : Nat) (i : WishlistItemRow) : Bool :=
  decide (i.wishlistId = wishlistId) && decide (i.bookVariantId = bookVariantId)

end WishWorld

/-! ### Statements -/

inductive WishStmt
  /-- `findUserById`; the answer is the id -/
  | findUserById (id : Nat)
  /-- `findByUserId` and `findByGuestSessionId` -/
  | findList (s : Shopper) (languageId : Option Nat)
  /-- `createByUserId` and `createByGuestSessionId` -/
  | createList (s : Shopper) (languageId : Option Nat)
  | softDeleteById (id : Nat)
  | findByWishlistIdAndBookVariantId (wishlistId bookVariantId : Nat)
  | createByWishlistIdAndBookVariantId (wishlistId bookVariantId : Nat)
  /-- `none` is a number that is no integer. -/
  | deleteByIdAndWishlistId (id : Option Int) (wishlistId : Nat)
  deriving DecidableEq

abbrev WishResponse : WishStmt → Type
  | .findUserById _ => Option Nat
  | .findList _ _ => Option WishlistWithItems
  | .createList _ _ => WishlistWithItems
  | .softDeleteById _ => WishlistRow
  | .findByWishlistIdAndBookVariantId _ _ => Option WishlistItemRow
  | .createByWishlistIdAndBookVariantId _ _ => WishlistItemRow
  | .deleteByIdAndWishlistId _ _ => Nat

/-- The row that `createList` inserts. -/
def newList (s : Shopper) (now n : Nat) : WishlistRow :=
  match s with
  | .user userId => ⟨⟨n, some userId, none⟩, now, none⟩
  | .guest sessionId => ⟨⟨n, none, some sessionId⟩, now, none⟩

theorem key_newList (s : Shopper) (now n : Nat) : key (newList s now n) = n := by
  cases s <;> rfl

/-- The effect and the answer of a statement; a constraint that would not hold is an error. -/
def wishExec : (s : WishStmt) → WishWorld → Except WishFailure (WishWorld × WishResponse s)
  | .findUserById id, w => .ok (w, if id ∈ w.shop.users then some id else none)
  | .findList s languageId, w => .ok (w, (w.newestList s).map (w.listWithItems languageId))
  | .createList s languageId, w =>
      if w.known s then
        let w' : WishWorld :=
          { w with wishlists := w.wishlists.insert (newList s w.now) (key_newList s w.now) }
        .ok (w', w'.listWithItems languageId (newList s w.now w.wishlists.next))
      else
        .error .database
  | .softDeleteById id, w =>
      match w.wishlists.find id with
      | none => .error .database
      | some l =>
          .ok ({ w with
            wishlists := w.wishlists.update id fun l =>
              { l with updatedAt := w.now, deleteAt := some w.now } },
            { l with updatedAt := w.now, deleteAt := some w.now })
  | .findByWishlistIdAndBookVariantId wishlistId bookVariantId, w =>
      .ok (w, w.items.findFirst (WishWorld.pair wishlistId bookVariantId))
  | .createByWishlistIdAndBookVariantId wishlistId bookVariantId, w =>
      if (w.wishlists.find wishlistId).isNone || !w.stocked bookVariantId ||
          w.items.rows.any (WishWorld.pair wishlistId bookVariantId) then
        .error .database
      else
        .ok ({ w with
          items := w.items.insert fun n => ⟨⟨n, wishlistId, bookVariantId⟩, w.now⟩ },
          ⟨⟨w.items.next, wishlistId, bookVariantId⟩, w.now⟩)
  | .deleteByIdAndWishlistId none _, _ => .error .database
  | .deleteByIdAndWishlistId (some id) wishlistId, w =>
      let hit (i : WishlistItemRow) : Bool :=
        decide ((i.id : Int) = id) && decide (i.wishlistId = wishlistId)
      .ok ({ w with items := w.items.deleteWhere hit }, (w.items.filter hit).length)

abbrev WishService := Program WishStmt WishResponse WishFailure

/-! ### The service -/

structure AddWishItemRequestDto where
  bookVariantId : Nat
  /-- `@Min(1)` -/
  bookVariantId_pos : 1 ≤ bookVariantId
  deriving DecidableEq

structure WishItemResponseDto where
  itemKey : String
  bookVariantId : Nat
  deriving DecidableEq

inductive WishAnswer
  | wishlist (list : WishlistWithItems)
  | added (created : Bool) (wishItem : WishItemResponseDto)
  | success
  /-- A statement that was abandoned by its sender. -/
  | none
  deriving DecidableEq

/-- `WishlistItemMapper.toDto` -/
def WishlistItemRow.toDto (item : WishlistItemRow) : WishItemResponseDto where
  itemKey := toString item.id
  bookVariantId := item.bookVariantId

/-- What `resolveWishlistByActor` does for a shopper. -/
def resolveWishlist (s : Shopper) (createIfMissing : Bool) (languageId : Option Nat) :
    WishService (Option WishlistWithItems) := do
  let existing : Option WishlistWithItems ← await (.findList s languageId : WishStmt)
  if existing.isSome || !createIfMissing then
    ret existing
  else do
    let created : WishlistWithItems ← await (.createList s languageId : WishStmt)
    ret (some created)

section Service

variable (guestSessionId : Option String) (userId : Option Nat)

/-- A user id of `0` counts as none. -/
def resolveWishlistByActor (createIfMissing : Bool) (languageId : Option Nat) :
    WishService (Option WishlistWithItems) :=
  match userId.filter fun n => decide (n ≠ 0), truthy guestSessionId with
  | some userId, _ => do
      let user : Option Nat ← await (.findUserById userId : WishStmt)
      match user with
      | none => raise .forbidden
      | some id => resolveWishlist (.user id) createIfMissing languageId
  | none, some sessionId => resolveWishlist (.guest sessionId) createIfMissing languageId
  | none, none => ret none

def getWishlist (languageId : Option Nat) : WishService WishlistWithItems := do
  let wishlist ← resolveWishlistByActor guestSessionId userId true languageId
  match wishlist with
  | none => raise .forbidden
  | some wishlist => ret wishlist

def addWishItem (body : AddWishItemRequestDto) (languageId : Option Nat) :
    WishService WishAnswer := do
  let wishlist ← getWishlist guestSessionId userId languageId
  let existed : Option WishlistItemRow ← await
    (.findByWishlistIdAndBookVariantId wishlist.list.id body.bookVariantId : WishStmt)
  match existed with
  | some existed => ret (.added false existed.toDto)
  | none => do
      let createdItem : WishlistItemRow ← await
        (.createByWishlistIdAndBookVariantId wishlist.list.id body.bookVariantId : WishStmt)
      ret (.added true createdItem.toDto)

def deleteWishItem (itemId : Option Int) (languageId : Option Nat) : WishService WishAnswer := do
  let wishlist ← resolveWishlistByActor guestSessionId userId false languageId
  match wishlist with
  | none => raise (.notFound wishlistItemNotFound)
  | some wishlist => do
      let deleted : Nat ← await (.deleteByIdAndWishlistId itemId wishlist.list.id : WishStmt)
      if deleted = 0 then raise (.notFound wishlistItemNotFound) else ret .success

def deleteWishlist (languageId : Option Nat) : WishService WishAnswer := do
  let wishlist ← resolveWishlistByActor guestSessionId userId false languageId
  match wishlist with
  | none => ret .success
  | some wishlist => do
      let _ : WishlistRow ← await (.softDeleteById wishlist.list.id : WishStmt)
      ret .success

end Service

/-! ### The controller and the server -/

inductive WishRequest
  | getWish
  | addWish (body : AddWishItemRequestDto)
  /-- `Number(itemKey)` -/
  | deleteWishItem (itemKey : Option Int)
  | deleteWish
  deriving DecidableEq

/-- `resolveActor`: the guest session counts where there is no user. -/
def resolveActor (who : Requester) : Option String × Option Nat :=
  let userId := who.user.filter fun n => decide (n ≠ 0)
  (if userId.isSome then none else who.guestSessionId, who.user)

def WishRequest.handler (who : Requester) (languageId : Option Nat) :
    WishRequest → WishService WishAnswer
  | .getWish => do
      let wishlist ← getWishlist (resolveActor who).1 (resolveActor who).2 languageId
      ret (.wishlist wishlist)
  | .addWish body => addWishItem (resolveActor who).1 (resolveActor who).2 body languageId
  | .deleteWishItem itemKey =>
      Wish.deleteWishItem (resolveActor who).1 (resolveActor who).2 itemKey languageId
  | .deleteWish => deleteWishlist (resolveActor who).1 (resolveActor who).2 languageId

/-- A step of the environment. -/
inductive WishEvent
  | arrive (who : Requester) (languageId : Option Nat) (r : WishRequest)
  | tick (ms : Nat)
  deriving DecidableEq

/-- The running server. -/
def wishServer : System WishStmt WishResponse WishFailure WishAnswer WishWorld WishEvent where
  exec := wishExec
  fault := .database
  idle := .none
  env := fun e w =>
    match e with
    | .arrive who languageId r => some (w, some (r.handler who languageId))
    | .tick ms => some ({ w with now := w.now + ms }, none)

/-- The server's state: the tables and the handlers under way. -/
abbrev WishState := Config WishStmt WishResponse WishFailure WishAnswer WishWorld

end Wish
end BookStore
