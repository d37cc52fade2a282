import BookStore.Async.Pool
import BookStore.Shopper.Tables

/-!
# Carts: the statements

The functions of `CartRepository` and `CartItemRepository`.  Those that select by user
and those that select by guest session are one function of a `Shopper`.

`CartOp.touched` says which carts a statement reads, changes or deletes.  The list
`accesses` records them along with the owner and the request they are for; no statement
reads it.  Nor does any read the quantity `read` of `updateQuantityById`, which is the one
that the new quantity was computed from.
-/

namespace BookStore

/-- What the services of the cart throw. -/
inductive CartFailure
  | forbidden (message : Option String)
  | notFound (message : String)
  /-- `new Error(message)` -/
  | error (message : String)
  /-- A property of `undefined` was read. -/
  | typeError
  | database
  deriving DecidableEq, Repr

/-- What the guard has attached to a request. -/
structure Requester where
  user : Option Nat
  guestSessionId : Option String
  deriving DecidableEq

/-- A request has touched a cart. -/
structure CartAccess where
  who : Requester
  cartId : Nat
  /-- The `userId` of the cart at that moment. -/
  userId : Option Nat
  deriving DecidableEq

structure CartWorld where
  db : ShopperDb
  now : Nat
  /-- History. -/
  accesses : List CartAccess

/-! ### Rows as they are selected -/

structure CartBookRow where
  id : Nat
  coverImageUrl : Option String
  /-- `title` and `slug` -/
  translations : List (String × Option String)
  deriving DecidableEq

structure CartVariantRow where
  id : Nat
  price : Option ℚ
  format : BookFormat
  currencyCode : String
  stock : Int
  book : Option CartBookRow
  deriving DecidableEq

structure CartItemRow where
  item : CartItem
  variant : Option CartVariantRow
  deriving DecidableEq

/-- `buildCartWithItemsInclude` -/
structure CartWithItems where
  cart : Cart
  items : List CartItemRow
  deriving DecidableEq

/-- The largest value of the column `quantity` of `cart_items` -/
def maxQuantity : Nat := 2147483647

namespace ShopperDb

variable (db : ShopperDb)

/-- The carts of a shopper. -/
def cartsOf (s : Shopper) : List Cart :=
  db.carts.filter fun c => s.owns c.userId c.guestSessionId

/-- `findFirst` with `orderBy: { updatedAt: 'desc' }` -/
def newestCart (s : Shopper) : Option Cart :=
  (orderBy (fun c c' => decide (c'.updatedAt < c.updatedAt)) (db.cartsOf s)).head?

def itemsOfCart (cartId : Nat) : List CartItem :=
  db.cartItems.filter fun i => decide (i.cartId = cartId)

def cartVariantRow (langId : Nat) (bookVariantId : Nat) : Option CartVariantRow :=
  (db.variants.find? fun v => decide (v.id = bookVariantId)).map fun v =>
    { id := v.id
      price := v.price
      format := v.format
      currencyCode := v.currencyCode
      stock := v.stock
      book := (db.books.find? fun b => decide (b.id = v.bookId)).map fun b =>
        { id := b.id
          coverImageUrl := b.coverImageUrl
          translations := (db.translations.filter fun t =>
            decide (t.bookId = b.id) && decide (t.languageId = langId)).map
              fun t => (t.title, t.slug) } }

def cartWithItems (langId : Nat) (c : Cart) : CartWithItems where
  cart := c
  items := (orderBy (fun i i' => decide (i'.addedAt < i.addedAt)) (db.itemsOfCart c.id)).map
    fun i => ⟨i, db.cartVariantRow langId i.bookVariantId⟩

/-- `where: { id, cart: { userId } }`, or with `guestSessionId` -/
def itemOf (id : Nat) (s : Shopper) : Option CartItem :=
  (db.cartItems.find id).filter fun i =>
    (db.carts.find i.cartId).any fun c => s.owns c.userId c.guestSessionId

/-- `available` of a variant -/
def availableOf (bookVariantId : Nat) : Option Int :=
  (db.variants.find? fun v => decide (v.id = bookVariantId)).map fun v => v.available

/-- An item is refused: its variant is missing, or its quantity is too large. -/
def refusesItem (line : Nat × Nat) : Bool :=
  (db.availableOf line.1).isNone || decide (maxQuantity < line.2)

end ShopperDb

theorem newestCart_mem {db : ShopperDb} {s : Shopper} {c : Cart} (h : db.newestCart s = some c) :
    c ∈ db.cartsOf s :=
  List.mem_insertionSort _ |>.mp (List.mem_of_mem_head? h)

/-! ### Statements -/

inductive CartOp
  /-- `findUserById`; the answer is the id -/
  | findUserById (id : Nat)
  /-- `findByUserId` and `findByGuestSessionId` -/
  | findWithItems (s : Shopper) (langId : Nat)
  /-- `createCartByUserId` and `createCartByGuestSessionId` -/
  | createCart (s : Shopper) (langId : Nat)
  | findByCartIdAndBookVariantId (cartId bookVariantId : Nat)
  /-- `findByIdAndUserId` and `findByIdAndGuestSessionId` -/
  | findItem (id : Nat) (s : Shopper)
  | updateQuantityById (id quantity read : Nat)
  | createByCartIdAndBookVariantId (cartId bookVariantId quantity : Nat)
  /-- `deleteByIdAndUserId` and `deleteByIdAndGuestSessionId` -/
  | deleteItem (id : Nat) (s : Shopper)
  | getStockByBookVariantId (bookVariantId : Nat)
  /-- `findCartByUserId` and `findCartByGuestSessionId` -/
  | findCart (s : Shopper)
  | updateGuestCart (guestCartId userId : Nat)
  /-- The transaction of `mergeCartUser`: a variant and a quantity for each item. -/
  | mergeCartUser (cartId : Nat) (guestSessionId : String) (items : List (Nat × Nat))
  /-- `deleteByUserId` and `deleteByGuestSessionId` -/
  | deleteCarts (s : Shopper)
  deriving DecidableEq

abbrev CartOpResponse : CartOp → Type
  | .findUserById _ => Option Nat
  | .findWithItems _ _ => Option CartWithItems
  | .createCart _ _ => CartWithItems
  | .findByCartIdAndBookVariantId _ _ => Option CartItem
  | .findItem _ _ => Option CartItem
  | .updateQuantityById _ _ _ => CartItem
  | .createByCartIdAndBookVariantId _ _ _ => CartItem
  | .deleteItem _ _ => Nat
  | .getStockByBookVariantId _ => Option Int
  | .findCart _ => Option (Cart × List CartItem)
  | _ => Unit

/-- A statement and the request it is for. -/
structure CartStmt where
  who : Requester
  op : CartOp
  deriving DecidableEq

abbrev CartResponse (s : CartStmt) : Type :=
  CartOpResponse s.op

/-- The row that `createCart` inserts. -/
def newCart (s : Shopper) (now n : Nat) : Cart :=
  match s with
  | .user userId => ⟨n, some userId, none, now⟩
  | .guest sessionId => ⟨n, none, some sessionId, now⟩

theorem key_newCart (s : Shopper) (now n : Nat) : key (newCart s now n) = n := by
  cases s <;> rfl

/-- One `upsert` of `updateCartByUserId` -/
def upsertItem (cartId now : Nat) (t : Table CartItem) (line : Nat × Nat) : Table CartItem :=
  let hit (i : CartItem) : Bool :=
    decide (i.cartId = cartId) && decide (i.bookVariantId = line.1)
  if t.rows.any hit then
    t.updateWhere hit fun i => { i with quantity := line.2 }
  else
    t.insert fun n => ⟨n, cartId, line.1, line.2, now⟩

namespace CartOp

/-- The carts that are read, changed or deleted. -/
def touched (db : ShopperDb) : CartOp → List Cart
  | .findUserById _ => []
  | .findWithItems s _ => (db.newestCart s).toList
  | .createCart _ _ => []
  | .findByCartIdAndBookVariantId cartId _ => (db.carts.find cartId).toList
  | .findItem id s =>
      ((db.itemOf id s).bind fun i => db.carts.find i.cartId).toList
  | .updateQuantityById id _ _ =>
      ((db.cartItems.find id).bind fun i => db.carts.find i.cartId).toList
  | .createByCartIdAndBookVariantId cartId _ _ => (db.carts.find cartId).toList
  | .deleteItem id s =>
      ((db.itemOf id s).bind fun i => db.carts.find i.cartId).toList
  | .getStockByBookVariantId _ => []
  | .findCart s => (db.newestCart s).toList
  | .updateGuestCart guestCartId _ => (db.carts.find guestCartId).toList
  | .mergeCartUser cartId guestSessionId _ =>
      (db.carts.find cartId).toList ++ db.cartsOf (.guest guestSessionId)
  | .deleteCarts s => db.cartsOf s

/-- `cart.deleteMany`; the items cascade. -/
def withoutCarts (db : ShopperDb) (s : Shopper) : ShopperDb :=
  { db with
    carts := db.carts.deleteWhere fun c => s.owns c.userId c.guestSessionId
    cartItems := db.cartItems.deleteWhere fun i =>
      (db.carts.find i.cartId).any fun c => s.owns c.userId c.guestSessionId }

/-- What a statement that is accepted makes of the tables. -/
def effect (now : Nat) (db : ShopperDb) : CartOp → ShopperDb
  | .createCart s _ =>
      { db with carts := db.carts.insert (newCart s now) (key_newCart s now) }
  | .updateQuantityById id quantity _ =>
      { db with cartItems := db.cartItems.update id fun i => { i with quantity := quantity } }
  | .createByCartIdAndBookVariantId cartId bookVariantId quantity =>
      { db with cartItems := db.cartItems.insert fun n =>
        ⟨n, cartId, bookVariantId, quantity, now⟩ }
  | .deleteItem id s =>
      { db with
        cartItems := db.cartItems.deleteWhere fun i =>
          decide (i.id = id) && (db.itemOf id s).isSome }
  | .updateGuestCart guestCartId userId =>
      { db with carts := db.carts.update guestCartId fun c =>
        { c with userId := some userId, updatedAt := now } }
  | .mergeCartUser cartId guestSessionId items =>
      let merged : ShopperDb :=
        { db with
          carts := db.carts.update cartId fun c => { c with updatedAt := now }
          cartItems := items.foldl (upsertItem cartId now) db.cartItems }
      withoutCarts merged (.guest guestSessionId)
  | .deleteCarts s => withoutCarts db s
  | _ => db

/--
A statement is refused where a row is missing, or one is there that must be unique, or a
quantity does not fit into its column.  Only a merge adds quantities; the others that are
written are at most what is available, which has a column of the same type.
-/
def answer (now : Nat) (db : ShopperDb) : (op : CartOp) →
    Except CartFailure (CartOpResponse op)
  | .findUserById id => .ok (if id ∈ db.users then some id else none)
  | .findWithItems s langId => .ok ((db.newestCart s).map (db.cartWithItems langId))
  | .createCart s _ =>
      let parent : Bool := match s with
        | .user userId => decide (userId ∈ db.users)
        | .guest sessionId => (db.guestSessions.find sessionId).isSome
      if parent then .ok ⟨newCart s now db.carts.next, []⟩ else .error .database
  | .findByCartIdAndBookVariantId cartId bookVariantId =>
      .ok (db.cartItems.findFirst fun i =>
        decide (i.cartId = cartId) && decide (i.bookVariantId = bookVariantId))
  | .findItem id s => .ok (db.itemOf id s)
  | .updateQuantityById id quantity _ =>
      match db.cartItems.find id with
      | none => .error .database
      | some i => .ok { i with quantity := quantity }
  | .createByCartIdAndBookVariantId cartId bookVariantId quantity =>
      if (db.carts.find cartId).isNone ∨ (db.availableOf bookVariantId).isNone ∨
          db.cartItems.rows.any (fun i =>
            decide (i.cartId = cartId) && decide (i.bookVariantId = bookVariantId)) then
        .error .database
      else
        .ok ⟨db.cartItems.next, cartId, bookVariantId, quantity, now⟩
  | .deleteItem id s => .ok (if (db.itemOf id s).isSome then 1 else 0)
  | .getStockByBookVariantId bookVariantId => .ok (db.availableOf bookVariantId)
  | .findCart s => .ok ((db.newestCart s).map fun c => (c, db.itemsOfCart c.id))
  | .updateGuestCart guestCartId userId =>
      if (db.carts.find guestCartId).isNone ∨ userId ∉ db.users then .error .database
      else .ok ()
  | .mergeCartUser cartId _ items =>
      if (db.carts.find cartId).isNone ∨ items.any db.refusesItem then .error .database
      else .ok ()
  | .deleteCarts _ => .ok ()

end CartOp

/-- The effect and the answer of a statement. -/
def cartExec (s : CartStmt) (w : CartWorld) : Except CartFailure (CartWorld × CartResponse s) :=
  match s.op.answer w.now w.db with
  | .error e => .error e
  | .ok r =>
      .ok ({ w with
        db := s.op.effect w.now w.db
        accesses := w.accesses ++
          (s.op.touched w.db).map fun c => ⟨s.who, c.id, c.userId⟩ }, r)

theorem cartExec_ok {st : CartStmt} {w w' : CartWorld} {r : CartResponse st} :
    cartExec st w = .ok (w', r) ↔
      st.op.answer w.now w.db = .ok r ∧
        w' = { w with
          db := st.op.effect w.now w.db
          accesses := w.accesses ++
            (st.op.touched w.db).map fun c => ⟨st.who, c.id, c.userId⟩ } := by
  unfold cartExec
  cases st.op.answer w.now w.db with
  | error e =>
      simp
  | ok r' =>
      simp only [Except.ok.injEq, Prod.mk.injEq]
      exact ⟨fun h => ⟨h.2, h.1.symm⟩, fun h => ⟨h.2.symm, h.1⟩⟩

theorem answer_createCart
    {s : Shopper} {langId now : Nat} {db : ShopperDb} {r : CartWithItems}
    (h : (CartOp.createCart s langId).answer now db = .ok r) :
    r = ⟨newCart s now db.carts.next, []⟩ := by
  cases s with
  | user userId =>
      simp only [CartOp.answer] at h
      split_ifs at h
      exact (Except.ok.inj h).symm
  | guest sessionId =>
      simp only [CartOp.answer] at h
      split_ifs at h
      exact (Except.ok.inj h).symm

theorem cartsOf_createCart {s : Shopper} {langId now : Nat} {db : ShopperDb} :
    ((CartOp.createCart s langId).effect now db).cartsOf s =
      db.cartsOf s ++ [newCart s now db.carts.next] := by
  have howns : s.owns (newCart s now db.carts.next).userId
      (newCart s now db.carts.next).guestSessionId = true := by
    cases s <;> simp [Shopper.owns, newCart]
  simp [CartOp.effect, ShopperDb.cartsOf, Table.filter, howns]

end BookStore
