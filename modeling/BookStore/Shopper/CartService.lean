import BookStore.Auth.Services
import BookStore.Grouping
import BookStore.Shopper.Carts

/-!
# Carts: the service

`CartController` and `CartService`, from what `ShopperSessionGuard` attaches to a request
on.  Where the service has one branch for users and the same one for guests, it is a
function of the `Shopper`; the branches of `addCartItem` differ and are written out.
-/

namespace BookStore

open Async Program

abbrev CartService := Program CartStmt CartResponse CartFailure

/-- Await a statement for a request. -/
abbrev cartQuery (who : Requester) (op : CartOp) : CartService (CartOpResponse op) :=
  await (⟨who, op⟩ : CartStmt)

namespace CartMessage

def cartItemNotFound : String := "Không tìm thấy sản phẩm trong giỏ hàng"
def outOfStock : String := "Sản phẩm đã hết hàng"
def shopperRequired : String := "Guest session or user is required"
def tryAgainLater : String := "Vui lòng thử lại sau"
def bookVariantNotFound : String := "Book variant not found"
def notEnoughStock : String := "Not enough stock"
def requiredToClear : String := "Guest session or user is required to clear cart"
def userRequiredToMerge : String := "User is required to merge cart"
def guestRequiredToMerge : String := "Guest session is required to merge cart"

end CartMessage

/-! ### What is sent and returned -/

structure AddCartItemRequestDto where
  bookVariantId : Nat
  quantity : Option Nat
  /-- `@Min(1)` -/
  quantity_pos : ∀ q, quantity = some q → 1 ≤ q
  deriving DecidableEq

/-- `body.quantity ?? 1` -/
def AddCartItemRequestDto.added (body : AddCartItemRequestDto) : Nat :=
  body.quantity.getD 1

structure CartItemDto where
  id : Nat
  bookVariantId : Nat
  quantity : Nat
  addedAt : Nat
  variantId : Nat
  /-- The price stands for its text. -/
  price : Option ℚ
  format : BookFormat
  currencyCode : String
  stock : Int
  bookId : Nat
  coverImageUrl : Option String
  title : Option String
  slug : Option String
  deriving DecidableEq

/-- A date is the number of its day. -/
structure CartDayGroupDto where
  date : Nat
  items : List CartItemDto
  deriving DecidableEq

structure CartResponseDto where
  id : Nat
  groups : List CartDayGroupDto
  deriving DecidableEq

structure CartItemResponseDto where
  itemKey : String
  bookVariantId : Nat
  quantity : Nat
  deriving DecidableEq

inductive CartAnswer
  | cart (response : CartResponseDto)
  | cartItem (cartItem : CartItemResponseDto)
  /-- `{ ...cartItem, quantity, remove: true }` -/
  | removed (cartItem : CartItemResponseDto)
  | success
  | merged (mergeCount : Nat)
  /-- A statement that was abandoned by its sender. -/
  | none
  deriving DecidableEq

/-- `CartItemMapper.toDto` -/
def CartItem.toDto (item : CartItem) : CartItemResponseDto where
  itemKey := toString item.id
  bookVariantId := item.bookVariantId
  quantity := item.quantity

/-- `undefined` if the variant, the book or a first translation is missing. -/
def toCartItemDto (row : CartItemRow) : Option CartItemDto :=
  row.variant.bind fun v => v.book.bind fun b => b.translations.head?.map fun t =>
    { id := row.item.id
      bookVariantId := row.item.bookVariantId
      quantity := row.item.quantity
      addedAt := row.item.addedAt
      variantId := v.id
      price := v.price
      format := v.format
      currencyCode := v.currencyCode
      stock := v.stock
      bookId := b.id
      coverImageUrl := b.coverImageUrl
      title := some t.1
      slug := t.2 }

/-- `toISOString().slice(0, 10)` -/
def CartItemDto.day (item : CartItemDto) : Nat :=
  item.addedAt / (24 * 60 * 60 * 1000)

/-- The entries of the map, latest date first. -/
def groupByDay (items : List CartItemDto) : List CartDayGroupDto :=
  (orderBy (fun g g' => decide (g'.1 < g.1)) (groupsOf CartItemDto.day items)).map fun g =>
    ⟨g.1, g.2⟩

def toGroupedCart (cart : CartWithItems) : CartService CartAnswer :=
  match cart.items.mapM toCartItemDto with
  | none => raise .typeError
  | some items => ret (.cart ⟨cart.cart.id, groupByDay items⟩)

section Service

variable (who : Requester)

/-- `getCartUser` and `getCartGuest` -/
def getCartOf (s : Shopper) (langId : Nat) : CartService CartAnswer := do
  let found : Option CartWithItems ← cartQuery who (.findWithItems s langId)
  match found with
  | some cart => toGroupedCart cart
  | none => do
      let created : CartWithItems ← cartQuery who (.createCart s langId)
      toGroupedCart created

/-- The end of `resolveAdjustedQuantity`: no more than what is available. -/
def limitToStock (bookVariantId desiredQuantity : Nat) : CartService Nat := do
  let stock : Option Int ← cartQuery who (.getStockByBookVariantId bookVariantId)
  match stock with
  | none => raise (.notFound CartMessage.outOfStock)
  | some available =>
      if available ≤ 0 then
        raise (.notFound CartMessage.outOfStock)
      else
        ret (min desiredQuantity available.toNat)

/-- The quantity, or 0 once the item has been deleted. -/
def resolveAdjustedQuantity
    (s : Shopper) (itemId bookVariantId currentQuantity : Nat) (delta : Int) :
    CartService Nat :=
  let desiredQuantity := (currentQuantity + delta).toNat
  if desiredQuantity = 0 then do
    let _ : Nat ← cartQuery who (.deleteItem itemId s)
    limitToStock who bookVariantId desiredQuantity
  else
    limitToStock who bookVariantId desiredQuantity

/-- `CartItemService.createByCartIdAndBookVariantId` -/
def createCartItem (cartId bookVariantId quantity : Nat) : CartService CartAnswer := do
  let bookVariant : Option Int ← cartQuery who (.getStockByBookVariantId bookVariantId)
  match bookVariant with
  | none => raise (.error CartMessage.bookVariantNotFound)
  | some available =>
      if available < quantity then
        raise (.error CartMessage.notEnoughStock)
      else do
        let created : CartItem ←
          cartQuery who (.createByCartIdAndBookVariantId cartId bookVariantId quantity)
        ret (.cartItem created.toDto)

/-- The user is looked up. -/
def foundUser (userId : Nat) : CartService Nat := do
  let found : Option Nat ← cartQuery who (.findUserById userId)
  match found with
  | none => raise (.forbidden none)
  | some id => ret id

/-- The cart of a shopper, with its items: found or created. -/
def findOrCreateCart (s : Shopper) (langId : Nat) : CartService CartWithItems := do
  let found : Option CartWithItems ← cartQuery who (.findWithItems s langId)
  match found with
  | some cart => ret cart
  | none => cartQuery who (.createCart s langId)

/-- `addCartItem`, with a user -/
def addCartItemUser (userId : Nat) (body : AddCartItemRequestDto) (langId : Nat) :
    CartService CartAnswer := do
  let id ← foundUser who userId
  let cart ← findOrCreateCart who (.user id) langId
  let existedItem : Option CartItem ←
    cartQuery who (.findByCartIdAndBookVariantId cart.cart.id body.bookVariantId)
  match existedItem with
  | some existedItem => do
      let adjustedQuantity ← resolveAdjustedQuantity who (.user userId) existedItem.id
        body.bookVariantId existedItem.quantity body.added
      let updatedItem : CartItem ← cartQuery who
        (.updateQuantityById existedItem.id adjustedQuantity existedItem.quantity)
      ret (.cartItem updatedItem.toDto)
  | none => createCartItem who cart.cart.id body.bookVariantId body.added

/-- `addCartItem`, with a guest session -/
def addCartItemGuest (guestSessionId : String) (body : AddCartItemRequestDto) (langId : Nat) :
    CartService CartAnswer := do
  let guestCart ← findOrCreateCart who (.guest guestSessionId) langId
  match guestCart.items.find? fun row =>
    decide (row.item.bookVariantId = body.bookVariantId) with
  | some existedItem => do
      let adjustedQuantity ← resolveAdjustedQuantity who (.guest guestSessionId)
        existedItem.item.id body.bookVariantId existedItem.item.quantity body.added
      if adjustedQuantity = 0 then
        ret .success
      else do
        let updatedItem : CartItem ← cartQuery who
          (.updateQuantityById existedItem.item.id adjustedQuantity existedItem.item.quantity)
        ret (.cartItem updatedItem.toDto)
  | none => createCartItem who guestCart.cart.id body.bookVariantId body.added

def addCartItem (body : AddCartItemRequestDto) (langId : Nat) : CartService CartAnswer :=
  match who.user, truthy who.guestSessionId with
  | some userId, _ => addCartItemUser who userId body langId
  | none, some guestSessionId => addCartItemGuest who guestSessionId body langId
  | none, none => raise (.forbidden (some CartMessage.shopperRequired))

/-- What `updateCartItemDelta` does for a shopper. -/
def updateItemDelta (s : Shopper) (itemId : Nat) (delta : Int) : CartService CartAnswer := do
  let item : Option CartItem ← cartQuery who (.findItem itemId s)
  match item with
  | none => raise (.notFound CartMessage.cartItemNotFound)
  | some item => do
      let quantity ← resolveAdjustedQuantity who s item.id item.bookVariantId item.quantity delta
      if quantity = 0 then
        ret (.removed { item.toDto with quantity := 0 })
      else do
        let updatedItem : CartItem ←
          cartQuery who (.updateQuantityById item.id quantity item.quantity)
        ret (.cartItem updatedItem.toDto)

def updateCartItemDelta (itemId : Nat) (delta : Int) : CartService CartAnswer :=
  match who.user, truthy who.guestSessionId with
  | some userId, _ => do
      let id ← foundUser who userId
      updateItemDelta who (.user id) itemId delta
  | none, some guestSessionId => updateItemDelta who (.guest guestSessionId) itemId delta
  | none, none => raise (.forbidden (some CartMessage.shopperRequired))

/-- What `removeCartItem` does for a shopper. -/
def removeItem (s : Shopper) (itemId : Nat) : CartService CartAnswer := do
  let deleted : Nat ← cartQuery who (.deleteItem itemId s)
  if deleted = 0 then raise (.notFound CartMessage.cartItemNotFound) else ret .success

def removeCartItem (itemId : Nat) : CartService CartAnswer :=
  match who.user, truthy who.guestSessionId with
  | some userId, _ => do
      let id ← foundUser who userId
      removeItem who (.user id) itemId
  | none, some guestSessionId => removeItem who (.guest guestSessionId) itemId
  | none, none => raise (.forbidden (some CartMessage.tryAgainLater))

def clearCart : CartService CartAnswer :=
  match who.user, truthy who.guestSessionId with
  | some userId, _ => do
      let id ← foundUser who userId
      let _ ← cartQuery who (.deleteCarts (.user id))
      ret .success
  | none, some guestSessionId => do
      let _ ← cartQuery who (.deleteCarts (.guest guestSessionId))
      ret .success
  | none, none => raise (.error CartMessage.requiredToClear)

/-- `userCartMap.get(bookVariantId) || 0` -/
def quantityInCart (userItems : List CartItem) (bookVariantId : Nat) : Nat :=
  ((userItems.filter fun i => decide (i.bookVariantId = bookVariantId)).getLast?.map
    CartItem.quantity).getD 0

def mergedItems (userItems guestItems : List CartItem) : List (Nat × Nat) :=
  guestItems.map fun i => (i.bookVariantId, quantityInCart userItems i.bookVariantId + i.quantity)

def mergeCart (guestSessionId : String) (userId : Nat) : CartService CartAnswer := do
  let carts : Option (Cart × List CartItem) × Option (Cart × List CartItem) ←
    alongside (⟨who, .findCart (.guest guestSessionId)⟩ : CartStmt)
      (cartQuery who (.findCart (.user userId)))
  match carts.1, carts.2 with
  | none, _ => ret (.merged 0)
  | some (guestCart, guestItems), none => do
      let _ ← cartQuery who (.updateGuestCart guestCart.id userId)
      ret (.merged guestItems.length)
  | some (_, guestItems), some (userCart, userItems) => do
      let _ ← cartQuery who
        (.mergeCartUser userCart.id guestSessionId (mergedItems userItems guestItems))
      ret (.merged (guestItems.filter fun i =>
        decide (quantityInCart userItems i.bookVariantId = 0)).length)

/-! ### The controller and the server -/

inductive CartRequest
  | getCart (langId : Nat)
  | addCartItem (body : AddCartItemRequestDto) (langId : Nat)
  | updateCartItemDelta (itemId : Nat) (delta : Int)
  | removeCartItem (itemId : Nat)
  | clearCart
  | mergeCart
  deriving DecidableEq

def CartRequest.handler : CartRequest → CartService CartAnswer
  | .getCart langId =>
      match who.user, truthy who.guestSessionId with
      | some userId, _ => getCartOf who (.user userId) langId
      | none, some guestSessionId => getCartOf who (.guest guestSessionId) langId
      | none, none => raise (.error CartMessage.shopperRequired)
  | .addCartItem body langId => BookStore.addCartItem who body langId
  | .updateCartItemDelta itemId delta => BookStore.updateCartItemDelta who itemId delta
  | .removeCartItem itemId => BookStore.removeCartItem who itemId
  | .clearCart => BookStore.clearCart who
  | .mergeCart =>
      match who.user with
      | none => raise (.error CartMessage.userRequiredToMerge)
      | some userId =>
          if userId = 0 then
            raise (.error CartMessage.userRequiredToMerge)
          else
            match truthy who.guestSessionId with
            | none => raise (.error CartMessage.guestRequiredToMerge)
            | some guestSessionId => BookStore.mergeCart who guestSessionId userId

end Service

/-- A step of the environment. -/
inductive CartEvent
  | arrive (who : Requester) (r : CartRequest)
  | tick (ms : Nat)
  deriving DecidableEq

/-- The running server. -/
def cartServer :
    System CartStmt CartResponse CartFailure CartAnswer CartWorld CartEvent where
  exec := cartExec
  fault := .database
  idle := .none
  env := fun e w =>
    match e with
    | .arrive who r => some (w, some (r.handler who))
    | .tick ms => some ({ w with now := w.now + ms }, none)

/-- The server's state: the tables and the handlers under way. -/
abbrev CartState := Config CartStmt CartResponse CartFailure CartAnswer CartWorld

/-- A user and a guest session, and no carts. -/
def sampleVisitors : ShopperDb where
  users := [1]
  guestSessions := ⟨[⟨"guest", none, none, 0, some 0, none, none⟩], by simp⟩
  carts := .empty
  cartItems := .empty
  wishlists := []
  wishlistItems := []
  userEvents := []
  orders := .empty
  orderItems := []
  snapshots := []
  variants := []
  books := []
  translations := []

end BookStore
