import BookStore.Async.Sequential
import BookStore.Auth.Services
import BookStore.Shopper.Tables

/-!
# The orders of a shopper

`ShopperSessionGuard` and the two routes of `OrderController` behind it.  The guard takes
the user from the access token and then attaches a guest session in any case; the
controller asks for the guest session first.

* `claimant`: the user of a valid token, else the attached session.
* `SameOrders`: the route gives the same for a user and for a session.
* `own_orders_iff` is the result: the route answers for the claimant exactly if there
  is no valid token or the two give the same.
-/

namespace BookStore

open Async Program

/-! ### Statements -/

/-- Libraries. -/
structure ShopperDeployment where
  /-- The claims of a token whose signature is right. -/
  verify : String → Option JwtClaims
  /-- The id that `@default(uuid())` draws as number `n`. -/
  uuid : Nat → String
  uuid_length : ∀ n, (uuid n).length = 36

structure ShopperWorld where
  db : ShopperDb
  now : Nat
  /-- How many ids have been drawn. -/
  uuids : Nat

/-- A row of `findOrderItemsByOrderId`, with what it is joined with. -/
structure OrderBookRow where
  id : Nat
  coverImageUrl : Option String
  translations : List (String × Option String)
  deriving DecidableEq

structure OrderDetailRow where
  quantity : Nat
  bookVariantSnapshotId : Nat
  bookVariantSnapshot : Option (ℚ × Nat × Option OrderBookRow)
  deriving DecidableEq

inductive ShopperStmt
  | verifyAsync (token : String)
  /-- `updateMany` of `lastSeenAt`, with the number of rows -/
  | updateLastSeenAt (guestSessionId : String)
  | findGuestSession (guestSessionId : String)
  | createGuestSession (guestSessionId ipFirst userAgentHash : Option String)
  | findOrderBySessionGuestId (guestId : String) (page limit : Nat)
  | findOrderByUserId (userId page limit : Nat)
  | findOrderItemsByOrderId (orderId userId langId : Nat)
  | findOrderDetailBySessionGuestId (orderId : Nat) (sessionGuestId : String) (langId : Nat)
  deriving DecidableEq

abbrev ShopperResponse : ShopperStmt → Type
  | .verifyAsync _ => JwtClaims
  | .updateLastSeenAt _ => Nat
  | .findGuestSession _ => Option GuestSession
  | .createGuestSession _ _ _ => GuestSession
  | .findOrderBySessionGuestId _ _ _ => List OrderListRow
  | .findOrderByUserId _ _ _ => List OrderListRow
  | .findOrderItemsByOrderId _ _ _ => List OrderDetailRow
  | .findOrderDetailBySessionGuestId _ _ _ => List OrderDetailRow

namespace ShopperDb

variable (db : ShopperDb)

/-- The orders of a shopper, `orderBy: { createdAt: 'desc' }`. -/
def newestOrders (s : Shopper) : List ShopperOrder :=
  orderBy (fun o o' => decide (o'.createdAt < o.createdAt))
    (db.orders.filter fun o => s.owns o.userId o.guestSessionId)

def findOrders (s : Shopper) (page limit : Nat) : List OrderListRow :=
  (pageOf page limit (db.newestOrders s)).map ShopperOrder.toOrderListRow

def orderDetailRow (langId : Nat) (i : ShopperOrderItem) : OrderDetailRow where
  quantity := i.quantity
  bookVariantSnapshotId := i.bookVariantSnapshotId
  bookVariantSnapshot :=
    (db.snapshots.find? fun s => decide (s.id = i.bookVariantSnapshotId)).map fun s =>
      (s.priceSnapshot, s.bookVariantId,
        (db.variants.find? fun v => decide (v.id = s.bookVariantId)).bind fun v =>
          (db.books.find? fun b => decide (b.id = v.bookId)).map fun b =>
            { id := b.id
              coverImageUrl := b.coverImageUrl
              translations := ((db.translations.filter fun t =>
                decide (t.bookId = b.id) && decide (t.languageId = langId)).take 1).map
                  fun t => (t.title, t.slug) })

/-- The items of an order, `orderBy: { createdAt: 'desc' }`. -/
def newestItems (orderId : Nat) : List ShopperOrderItem :=
  orderBy (fun i i' => decide (i'.createdAt < i.createdAt))
    (db.orderItems.filter fun i => decide (i.orderId = orderId))

/-- `where: { orderId, order: { userId } }`, or with `guestSessionId` -/
def findOrderItems (s : Shopper) (orderId langId : Nat) : List OrderDetailRow :=
  (orderBy (fun i i' => decide (i'.createdAt < i.createdAt))
    (db.orderItems.filter fun i => decide (i.orderId = orderId) &&
      (db.orders.find i.orderId).any fun o => s.owns o.userId o.guestSessionId)).map
        (db.orderDetailRow langId)

end ShopperDb

section Exec

variable (dep : ShopperDeployment)

/-- The claims of a token that is valid at this moment. -/
def ShopperDeployment.claims (token : String) (now : Nat) : Option JwtClaims :=
  (dep.verify token).filter fun c => !(c.exp.any fun t => decide (t ≤ now / 1000))

/-- The row that `createGuestSession` inserts. -/
def newGuestSession (id : String) (ipFirst userAgentHash : Option String) (now : Nat) :
    GuestSession where
  id := id
  ipFirst := ipFirst
  userAgentHash := userAgentHash
  createdAt := now
  lastSeenAt := some now
  convertedUserId := none
  convertedAt := none

/-- The effect and the answer of a statement. -/
def shopperExec : (s : ShopperStmt) → ShopperWorld →
    Except AuthFailure (ShopperWorld × ShopperResponse s)
  | .verifyAsync token, w =>
      match dep.claims token w.now with
      | none => .error .jwt
      | some claims => .ok (w, claims)
  | .updateLastSeenAt guestSessionId, w =>
      .ok ({ w with
        db := { w.db with guestSessions := w.db.guestSessions.seen guestSessionId w.now } },
        (w.db.guestSessions.rows.filter fun s => decide (s.id = guestSessionId)).length)
  | .findGuestSession guestSessionId, w =>
      .ok (w, w.db.guestSessions.find guestSessionId)
  | .createGuestSession guestSessionId ipFirst userAgentHash, w =>
      let session := newGuestSession (guestSessionId.getD (dep.uuid w.uuids)) ipFirst
        userAgentHash w.now
      if hfresh : w.db.guestSessions.find session.id = none then
        -- the column has 36 characters
        if 36 < session.id.length then
          .error .database
        else
          .ok ({ w with
            db := { w.db with guestSessions := w.db.guestSessions.insert session hfresh }
            uuids := if guestSessionId.isNone then w.uuids + 1 else w.uuids }, session)
      else
        .error .database
  | .findOrderBySessionGuestId guestId page limit, w =>
      .ok (w, w.db.findOrders (.guest guestId) page limit)
  | .findOrderByUserId userId page limit, w =>
      .ok (w, w.db.findOrders (.user userId) page limit)
  | .findOrderItemsByOrderId orderId userId langId, w =>
      .ok (w, w.db.findOrderItems (.user userId) orderId langId)
  | .findOrderDetailBySessionGuestId orderId sessionGuestId langId, w =>
      .ok (w, w.db.findOrderItems (.guest sessionGuestId) orderId langId)

end Exec

abbrev ShopperService := Program ShopperStmt ShopperResponse AuthFailure

/-- Await a statement of the repositories. -/
abbrev shopperQuery (s : ShopperStmt) : ShopperService (ShopperResponse s) :=
  await s

/-! ### The guard -/

/-- What the guards see of a request. -/
structure ShopperHeaders where
  authorization : Option String
  /-- The cookie `guestSessionId`. -/
  guestSessionId : Option String
  ip : Option String
  userAgentHash : Option String
  deriving DecidableEq

namespace ShopperSessionGuard

/-- `updateGuestSessionSeenDate` -/
def updateGuestSessionSeenDate (guestSessionId : String) :
    ShopperService (Option GuestSession) := do
  let count : Nat ← shopperQuery (.updateLastSeenAt guestSessionId)
  if count = 0 then ret none else shopperQuery (.findGuestSession guestSessionId)

def attachGuestSession (req : ShopperHeaders) : ShopperService GuestSession :=
  match truthy req.guestSessionId with
  | none => shopperQuery (.createGuestSession none req.ip req.userAgentHash)
  | some sessionId => do
      let guestSession ← updateGuestSessionSeenDate sessionId
      match guestSession with
      | some guestSession => ret guestSession
      | none => shopperQuery (.createGuestSession (some sessionId) req.ip req.userAgentHash)

/-- The answer is `request.user` and `request.guestSession`. -/
def canActivate (req : ShopperHeaders) : ShopperService (Option JwtClaims × GuestSession) :=
  match truthy (bearerToken req.authorization) with
  | none => do
      let guestSession ← attachGuestSession req
      ret (none, guestSession)
  | some token => do
      let user ← (do
        let payload : JwtClaims ← shopperQuery (.verifyAsync token)
        ret (some payload)).tryCatch fun _ => ret none
      -- `finally`
      let guestSession ← attachGuestSession req
      ret (user, guestSession)

end ShopperSessionGuard

/-! ### `OrderController` -/

@[ext]
structure GetOrderDto where
  page : Option Nat
  limit : Option Nat
  /-- `@Min(1)` -/
  page_pos : ∀ p, page = some p → 1 ≤ p
  /-- `@Min(1)` and `@Max(100)` -/
  limit_bounds : ∀ l, limit = some l → 1 ≤ l ∧ l ≤ 100

instance : DecidableEq GetOrderDto := fun _ _ =>
  decidable_of_iff _ GetOrderDto.ext_iff.symm

structure OrderListItemResponse where
  id : Nat
  orderCode : String
  status : Option OrderStatus
  placedAt : Nat
  subtotal : Option ℚ
  shippingFee : Option ℚ
  discountAmount : Option ℚ
  totalAmount : Option ℚ
  deriving DecidableEq

/-- `OrderMapper.toListItem` -/
def toListItem (row : OrderListRow) : OrderListItemResponse where
  id := row.id
  orderCode := row.orderCode
  status := row.status
  placedAt := row.placedAt.getD row.createdAt
  subtotal := row.subtotal
  shippingFee := row.shippingFee
  discountAmount := row.discountAmount
  totalAmount := row.totalAmount

inductive OrdersRoute
  | getOrders (query : GetOrderDto)
  | getOrder (orderId langId : Nat)
  deriving DecidableEq

inductive OrdersAnswer
  | orders (list : List OrderListItemResponse)
  | items (rows : List OrderDetailRow)
  deriving DecidableEq

/-- `Number(user.sub)`; `NaN` is refused by the client. -/
def userIdOf (user : JwtClaims) : Option Nat :=
  let digits := user.payload.sub.toList
  if digits ≠ [] ∧ digits.all Char.isDigit then some (Nat.ofDigitChars 10 digits 0) else none

/-- `user?.sub`, which is checked for being truthy, as a number. -/
def requireUser (user : Option JwtClaims) : ShopperService Nat :=
  match user with
  | none => raise (.unauthorized none)
  | some user =>
      if user.payload.sub = "" then
        raise (.unauthorized none)
      else
        match userIdOf user with
        | none => raise .database
        | some userId => ret userId

def getOrders (query : GetOrderDto) (user : Option JwtClaims) (guestSessionId : Option String) :
    ShopperService OrdersAnswer :=
  let page := query.page.getD 1
  let limit := query.limit.getD 12
  match truthy guestSessionId with
  | some guestSessionId => do
      let orders : List OrderListRow ←
        shopperQuery (.findOrderBySessionGuestId guestSessionId page limit)
      ret (.orders (orders.map toListItem))
  | none => do
      let userId ← requireUser user
      let orders : List OrderListRow ← shopperQuery (.findOrderByUserId userId page limit)
      ret (.orders (orders.map toListItem))

def getOrder (user : Option JwtClaims) (guestSessionId : Option String) (orderId langId : Nat) :
    ShopperService OrdersAnswer :=
  match truthy guestSessionId with
  | some guestSessionId => do
      let rows : List OrderDetailRow ←
        shopperQuery (.findOrderDetailBySessionGuestId orderId guestSessionId langId)
      ret (.items rows)
  | none => do
      let userId ← requireUser user
      let rows : List OrderDetailRow ←
        shopperQuery (.findOrderItemsByOrderId orderId userId langId)
      ret (.items rows)

structure OrdersRequest where
  headers : ShopperHeaders
  route : OrdersRoute
  deriving DecidableEq

/-- A request behind its guard. -/
def OrdersRequest.handler (req : OrdersRequest) : ShopperService OrdersAnswer := do
  let x ← ShopperSessionGuard.canActivate req.headers
  match req.route with
  | .getOrders query => getOrders query x.1 (some x.2.id)
  | .getOrder orderId langId => getOrder x.1 (some x.2.id) orderId langId

/-! ### Whose orders are shown -/

section Shown

variable (dep : ShopperDeployment)

/-- The user of a valid access token. -/
def tokenUser (w : ShopperWorld) (req : OrdersRequest) : Option Nat :=
  (truthy (bearerToken req.headers.authorization)).bind fun token =>
    (dep.claims token w.now).bind userIdOf

/-- The guest session that the guard attaches. -/
def attachedSession (w : ShopperWorld) (req : OrdersRequest) : String :=
  (truthy req.headers.guestSessionId).getD (dep.uuid w.uuids)

/-- Whom the request speaks for. -/
def claimant (w : ShopperWorld) (req : OrdersRequest) : Shopper :=
  match tokenUser dep w req with
  | some userId => .user userId
  | none => .guest (attachedSession dep w req)

/-- The page of the shopper's orders, or the items of an order of the shopper. -/
def OrdersRoute.view (db : ShopperDb) (s : Shopper) : OrdersRoute → OrdersAnswer
  | .getOrders query =>
      .orders ((db.findOrders s (query.page.getD 1) (query.limit.getD 12)).map toListItem)
  | .getOrder orderId langId =>
      .items (if (db.orders.find orderId).any fun o => s.owns o.userId o.guestSessionId then
        (db.newestItems orderId).map (db.orderDetailRow langId)
      else [])

/--
On the page the two have the same orders, place by place; or the order belongs to both
or neither, if it has items.
-/
def SameOrders (db : ShopperDb) (s s' : Shopper) : OrdersRoute → Prop
  | .getOrders query =>
      let page := query.page.getD 1
      let limit := query.limit.getD 12
      ∀ i, (page - 1) * limit ≤ i → i < (page - 1) * limit + limit →
        (db.newestOrders s)[i]? = (db.newestOrders s')[i]?
  | .getOrder orderId _ =>
      (∃ i, i ∈ db.orderItems ∧ i.orderId = orderId) →
        ∀ o, db.orders.find orderId = some o →
          s.owns o.userId o.guestSessionId = s'.owns o.userId o.guestSessionId

variable {dep} {w w' : ShopperWorld} {db : ShopperDb} {s s' : Shopper}

/-! ### The guard -/

/-- Only the guest sessions have changed. -/
def SessionsOnly (w w' : ShopperWorld) : Prop :=
  ∃ guestSessions, w'.db = { w.db with guestSessions := guestSessions }

theorem yields_createGuestSession
    {guestSessionId ip userAgentHash : Option String} {session : GuestSession}
    (h : (shopperQuery (.createGuestSession guestSessionId ip userAgentHash)).Yields
      (shopperExec dep) .database w w' (.ok session)) :
    session.id = guestSessionId.getD (dep.uuid w.uuids) ∧ SessionsOnly w w' := by
  have hexec := yields_await.mp h
  simp only [shopperExec] at hexec
  split at hexec
  · split at hexec <;> cases hexec
    exact ⟨rfl, _, rfl⟩
  · cases hexec

theorem yields_updateGuestSessionSeenDate
    {guestSessionId : String} {session : Option GuestSession}
    (h : (ShopperSessionGuard.updateGuestSessionSeenDate guestSessionId).Yields
      (shopperExec dep) .database w w' (.ok session)) :
    (∀ s, session = some s → s.id = guestSessionId) ∧ SessionsOnly w w' ∧ w'.uuids = w.uuids := by
  have h := (yields_await_bind rfl).mp h
  split_ifs at h
  · obtain ⟨rfl, hsession⟩ := h
    cases hsession
    exact ⟨(fun _ h => by cases h), ⟨_, rfl⟩, rfl⟩
  · have hexec := yields_await.mp h
    cases hexec
    refine ⟨fun s hs => ?_, ⟨_, rfl⟩, rfl⟩
    simpa using List.find?_some hs

theorem yields_attachGuestSession
    {req : OrdersRequest} {session : GuestSession}
    (h : (ShopperSessionGuard.attachGuestSession req.headers).Yields (shopperExec dep) .database
      w w' (.ok session)) :
    session.id = attachedSession dep w req ∧ SessionsOnly w w' := by
  unfold ShopperSessionGuard.attachGuestSession at h
  unfold attachedSession
  cases hcookie : truthy req.headers.guestSessionId with
  | none =>
      rw [hcookie] at h
      exact yields_createGuestSession h
  | some sessionId =>
      rw [hcookie] at h
      rcases yields_bind.mp h with ⟨v, found, hfound, hrest⟩ | ⟨e, -, he⟩
      · obtain ⟨hid, ⟨sessions, hv⟩, -⟩ := yields_updateGuestSessionSeenDate hfound
        cases found with
        | some found =>
            obtain ⟨rfl, hsession⟩ := hrest
            cases hsession
            exact ⟨hid _ rfl, sessions, hv⟩
        | none =>
            obtain ⟨hsession, sessions', hw'⟩ := yields_createGuestSession hrest
            exact ⟨hsession, sessions', by rw [hw', hv]⟩
      · cases he

theorem yields_verify {token : String} {x : Except AuthFailure (Option JwtClaims)} :
    ((do let payload : JwtClaims ← shopperQuery (.verifyAsync token)
         ret (some payload)).tryCatch fun _ => ret none).Yields (shopperExec dep) .database
      w w' x ↔ w' = w ∧ x = .ok (dep.claims token w.now) := by
  cases hclaims : dep.claims token w.now <;>
    simp [Program.tryCatch, Program.Yields, attempt, shopperExec, hclaims, resume]

theorem yields_canActivate
    {req : OrdersRequest} {x : Option JwtClaims × GuestSession}
    (h : (ShopperSessionGuard.canActivate req.headers).Yields (shopperExec dep) .database
      w w' (.ok x)) :
    x.2.id = attachedSession dep w req ∧ SessionsOnly w w' := by
  unfold ShopperSessionGuard.canActivate at h
  split at h
  · rcases yields_bind.mp h with ⟨v, session, hsession, rfl, hx⟩ | ⟨e, -, he⟩
    · cases hx
      exact yields_attachGuestSession hsession
    · cases he
  · rcases yields_bind.mp h with ⟨v, user, huser, hrest⟩ | ⟨e, -, he⟩
    · obtain ⟨rfl, -⟩ := yields_verify.mp huser
      rcases yields_bind.mp hrest with ⟨v, session, hsession, rfl, hx⟩ | ⟨e, -, he⟩
      · cases hx
        exact yields_attachGuestSession hsession
      · cases he
    · cases he

/-! ### The controller -/

/-- An id is not falsy. -/
theorem attachedSession_ne_empty {req : OrdersRequest} : attachedSession dep w req ≠ "" := by
  unfold attachedSession
  cases hcookie : truthy req.headers.guestSessionId with
  | none =>
      intro h
      have hlength := dep.uuid_length w.uuids
      rw [Option.getD_none] at h
      rw [h] at hlength
      cases hlength
  | some sessionId =>
      simpa using (Option.filter_eq_some_iff.mp hcookie).2

theorem findOrderItems_eq {orderId langId : Nat} :
    db.findOrderItems s orderId langId =
      if (db.orders.find orderId).any fun o => s.owns o.userId o.guestSessionId then
        (db.newestItems orderId).map (db.orderDetailRow langId)
      else [] := by
  have hfilter : (fun i : ShopperOrderItem => decide (i.orderId = orderId) &&
      (db.orders.find i.orderId).any fun o => s.owns o.userId o.guestSessionId) =
      fun i => decide (i.orderId = orderId) &&
        (db.orders.find orderId).any fun o => s.owns o.userId o.guestSessionId := by
    funext i
    by_cases hi : i.orderId = orderId
    · rw [hi]
    · simp [hi]
  unfold ShopperDb.findOrderItems ShopperDb.newestItems
  rw [hfilter]
  cases (db.orders.find orderId).any fun o => s.owns o.userId o.guestSessionId <;> simp [orderBy]

/-- The route answers for the session of the guard, whoever the token is from. -/
theorem answers_for_session
    {req : OrdersRequest} {answer : OrdersAnswer}
    (h : req.handler.Yields (shopperExec dep) .database w w' (.ok answer)) :
    answer = req.route.view w.db (.guest (attachedSession dep w req)) := by
  unfold OrdersRequest.handler at h
  rcases yields_bind.mp h with ⟨v, x, hguard, hroute⟩ | ⟨e, -, he⟩
  · obtain ⟨hid, sessions, hv⟩ := yields_canActivate hguard
    have htruthy : truthy (some x.2.id) = some (attachedSession dep w req) := by
      rw [hid]
      simp [truthy, attachedSession_ne_empty]
    cases hreq : req.route with
    | getOrders query =>
        simp only [hreq, getOrders, htruthy] at hroute
        have hx := ((yields_await_bind rfl).mp hroute).2
        cases hx
        rw [hv]
        rfl
    | getOrder orderId langId =>
        simp only [hreq, getOrder, htruthy] at hroute
        have hx := ((yields_await_bind rfl).mp hroute).2
        cases hx
        rw [hv, OrdersRoute.view, ← findOrderItems_eq]
        rfl
  · cases he

/-- Lists with the same places from `a` on, `n` of them. -/
theorem drop_take_eq_iff {α : Type} {l l' : List α} {a n : Nat} :
    (l.drop a).take n = (l'.drop a).take n ↔ ∀ i, a ≤ i → i < a + n → l[i]? = l'[i]? := by
  constructor
  · intro h i hle hlt
    have hi := congrArg (·[i - a]?) h
    simpa [List.getElem?_take, List.getElem?_drop, show i - a < n by omega,
      show a + (i - a) = i by omega] using hi
  · intro h
    apply List.ext_getElem?
    intro i
    simp only [List.getElem?_take, List.getElem?_drop]
    split_ifs with hi
    · exact h _ (by omega) (by omega)
    · rfl

theorem map_eq_map_of_inj {α β : Type} {f : α → β} {l l' : List α}
    (hf : ∀ a b, a ∈ l → b ∈ l' → f a = f b → a = b) :
    l.map f = l'.map f ↔ l = l' := by
  refine ⟨fun h => ?_, fun h => by rw [h]⟩
  induction l generalizing l' with
  | nil =>
      exact (List.map_eq_nil_iff.mp h.symm).symm
  | cons a l ih =>
      cases l' with
      | nil =>
          cases h
      | cons b l' =>
          simp only [List.map_cons, List.cons.injEq] at h
          rw [hf a b (by simp) (by simp) h.1,
            ih (fun a b ha hb => hf a b (List.mem_cons_of_mem _ ha) (List.mem_cons_of_mem _ hb))
              h.2]

theorem mem_newestOrders {o : ShopperOrder} :
    o ∈ db.newestOrders s ↔ o ∈ db.orders.rows ∧ s.owns o.userId o.guestSessionId = true := by
  rw [ShopperDb.newestOrders, orderBy, List.mem_insertionSort, Table.filter, List.mem_filter]

/-- An order is listed with its id. -/
theorem toListItem_injective
    {o o' : ShopperOrder}
    (ho : o ∈ db.orders.rows)
    (ho' : o' ∈ db.orders.rows)
    (h : toListItem o.toOrderListRow = toListItem o'.toOrderListRow) :
    o = o' := by
  have hid : key o = key o' := congrArg OrderListItemResponse.id h
  have hfind := Table.find_of_mem ho
  rw [hid, Table.find_of_mem ho'] at hfind
  exact (Option.some.inj hfind).symm

theorem newestItems_eq_nil {orderId : Nat} :
    db.newestItems orderId = [] ↔ ¬ ∃ i, i ∈ db.orderItems ∧ i.orderId = orderId := by
  rw [ShopperDb.newestItems, orderBy, List.eq_nil_iff_forall_not_mem]
  simp only [List.mem_insertionSort, List.mem_filter, decide_eq_true_eq, not_exists]

theorem view_eq_iff {route : OrdersRoute} :
    route.view db s = route.view db s' ↔ SameOrders db s s' route := by
  cases route with
  | getOrders query =>
      simp only [OrdersRoute.view, OrdersAnswer.orders.injEq, ShopperDb.findOrders, SameOrders,
        List.map_map]
      refine (map_eq_map_of_inj fun o o' ho ho' h => ?_).trans drop_take_eq_iff
      exact toListItem_injective
        (mem_newestOrders.mp (List.mem_of_mem_drop (List.mem_of_mem_take ho))).1
        (mem_newestOrders.mp (List.mem_of_mem_drop (List.mem_of_mem_take ho'))).1 h
  | getOrder orderId langId =>
      simp only [OrdersRoute.view, OrdersAnswer.items.injEq, SameOrders]
      by_cases hitems : ∃ i, i ∈ db.orderItems ∧ i.orderId = orderId
      · have hne : (db.newestItems orderId).map (db.orderDetailRow langId) ≠ [] := by
          intro h
          exact newestItems_eq_nil.mp (List.map_eq_nil_iff.mp h) hitems
        cases hfind : db.orders.find orderId with
        | none =>
            simp
        | some o =>
            simp only [Option.any_some, Option.some.injEq, forall_eq', hitems, true_implies]
            split_ifs with hs hs' hs' <;> simp [hs, hs', hne, Ne.symm hne]
      · rw [newestItems_eq_nil.mpr hitems]
        simp [hitems]

/--
**Own orders.** The route shows the orders of the token's user, or of the guest session
where there is no valid token, exactly if there is no valid token or the user and the
session have the same.
-/
theorem own_orders_iff
    {req : OrdersRequest} {answer : OrdersAnswer}
    (h : req.handler.Yields (shopperExec dep) .database w w' (.ok answer)) :
    answer = req.route.view w.db (claimant dep w req) ↔
      ∀ userId, tokenUser dep w req = some userId →
        SameOrders w.db (.user userId) (.guest (attachedSession dep w req)) req.route := by
  rw [answers_for_session h]
  unfold claimant
  cases tokenUser dep w req with
  | none =>
      simp
  | some userId =>
      simp only [Option.some.injEq, forall_eq', ← view_eq_iff]
      exact eq_comm

end Shown

/-! ### A user who is logged in -/

def sampleShop : ShopperDeployment where
  verify := fun t =>
    if t = "jwt" then some ⟨⟨"1", true, ["customer"]⟩, none⟩ else none
  uuid := fun _ => String.ofList (List.replicate 36 'u')
  uuid_length := fun _ => by decide

/-- One order of user 1 and one of the guest session `guest`. -/
def sampleShopper : ShopperWorld where
  db :=
    { users := [1]
      guestSessions := ⟨[newGuestSession "guest" none none 0], by simp⟩
      carts := .empty
      cartItems := .empty
      wishlists := []
      wishlistItems := []
      userEvents := []
      orders :=
        ((Table.empty : Table ShopperOrder).insert fun n =>
          ⟨⟨n, "A", none, none, none, none, none, none, 0⟩, some 1, none⟩).insert fun n =>
          ⟨⟨n, "B", none, none, none, none, none, none, 0⟩, none, some "guest"⟩
      orderItems := []
      snapshots := []
      variants := []
      books := []
      translations := [] }
  now := 0
  uuids := 0

def sampleGetOrders (authorization guestSessionId : Option String) : OrdersRequest where
  headers := ⟨authorization, guestSessionId, none, none⟩
  route := .getOrders ⟨none, none, by simp, by simp⟩

/-- A user with a valid token is shown the orders of a new session: none. -/
theorem user_orders_hidden :
    ¬ ∀ (dep : ShopperDeployment) (w w' : ShopperWorld) (req : OrdersRequest)
        (answer : OrdersAnswer),
      req.handler.Yields (shopperExec dep) .database w w' (.ok answer) →
        answer = req.route.view w.db (claimant dep w req) := by
  intro h
  have hrun : ((sampleGetOrders (some "Bearer jwt") none).handler.alone (shopperExec sampleShop)
      .database sampleShopper).map (fun r => r.2) = some (.ok (.orders [])) := by
    decide +kernel
  have hview : (sampleGetOrders (some "Bearer jwt") none).route.view sampleShopper.db
      (claimant sampleShop sampleShopper (sampleGetOrders (some "Bearer jwt") none)) ≠
        .orders [] := by
    decide +kernel
  obtain ⟨⟨w', x⟩, hr, hx⟩ := Option.map_eq_some_iff.mp hrun
  dsimp only at hx
  subst hx
  exact hview (h _ _ _ _ _ (yields_of_alone hr)).symm

/-- A guest is shown the order of the session. -/
theorem own_orders_guest :
    OrdersAnswer.orders [⟨2, "B", none, 0, none, none, none, none⟩] =
      (sampleGetOrders none (some "guest")).route.view sampleShopper.db
        (claimant sampleShop sampleShopper (sampleGetOrders none (some "guest"))) := by
  have hrun : ((sampleGetOrders none (some "guest")).handler.alone (shopperExec sampleShop)
      .database sampleShopper).map (fun r => r.2) =
        some (.ok (.orders [⟨2, "B", none, 0, none, none, none, none⟩])) := by
    decide +kernel
  obtain ⟨⟨w', x⟩, hr, hx⟩ := Option.map_eq_some_iff.mp hrun
  dsimp only at hx
  subst hx
  refine (own_orders_iff (yields_of_alone hr)).mpr fun userId h => ?_
  cases h

end BookStore
