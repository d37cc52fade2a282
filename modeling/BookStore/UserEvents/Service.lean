import BookStore.AnyOrder
import BookStore.Catalog.Service
import BookStore.Maps

/-!
# User events: the service

`UserEventService.getRecommend` with the scores of `event-type.constant.ts` and the queries
it sends.  It only reads, so it is a function of the database and of the order in which the
rows of each query come.

Scores are exact.  `Number(text)` is `number`: it is defined where the result is an integer
that a query takes for an `Int` column, and any other number makes the query throw.
-/

namespace BookStore
namespace UserEvents

inductive EventType
  | viewBook
  | search
  | addToCart
  | removeFromCart
  | checkoutStart
  | placeOrder
  | paymentSuccess
  | paymentFailed
  | login
  | logout
  deriving DecidableEq, Repr

def EVENT_WEIGHT : EventType → ℚ
  | .viewBook => 1
  | .search => 1 / 5
  | .addToCart => 4
  | .removeFromCart => -2
  | .checkoutStart => 6
  | .placeOrder => 8
  | .paymentSuccess => 12
  | .paymentFailed => -1
  | .login => 0
  | .logout => 0

def timeDecay (daysAgo : Int) : ℚ :=
  if daysAgo ≤ 3 then 1
  else if daysAgo ≤ 14 then 7 / 10
  else if daysAgo ≤ 30 then 2 / 5
  else 1 / 5

def scoreEvent (type : EventType) (createdAt now : Nat) : ℚ :=
  let daysAgo : Int := ((now : Int) - createdAt) / (1000 * 60 * 60 * 24)
  EVENT_WEIGHT type * timeDecay (max 0 daysAgo)

def VARIANT_EVENT_TYPES : List EventType :=
  [.viewBook, .addToCart, .removeFromCart]

def ORDER_EVENT_TYPES : List EventType :=
  [.checkoutStart, .placeOrder, .paymentSuccess, .paymentFailed]

/-! ### Tables -/

/-- `user_events` -/
structure UserEventRow where
  userId : Option Nat
  eventType : EventType
  objectType : Option String
  objectId : Option String
  createdAt : Nat
  deriving DecidableEq

/-- `order_items` -/
structure OrderItemRow extends OrderItem where
  createdAt : Nat
  deriving DecidableEq

structure RecommendDb where
  userEvents : List UserEventRow
  /-- The ids of `orders` -/
  orders : List Nat
  orderItems : List OrderItemRow
  snapshots : List BookVariantSnapshot
  catalog : CatalogDb
  deriving DecidableEq

/-- A row of `findOrderItemsByOrderId` -/
structure OrderWithItemsRow where
  id : Nat
  items : List OrderItemRow
  deriving DecidableEq

/-- A row of `groupAlsoBoughtSnapshotCandidates` -/
structure AlsoBought where
  bookVariantSnapshotId : Nat
  count : Nat
  deriving DecidableEq

/-- A row of `findBooksVariantByIds`, with the book of the variant -/
structure VariantRow where
  variant : CatalogVariant
  book : Book
  deriving DecidableEq

/-- The orders in which the rows come that the candidates are computed from -/
structure CandidateOrder where
  variantEvents : Arrangement UserEventRow
  orderEvents : Arrangement UserEventRow
  orders : Arrangement Nat
  items : Arrangement OrderItemRow
  purchased : Arrangement BookVariantSnapshot
  seeds : Arrangement BookVariantSnapshot
  buyers : Arrangement OrderItemRow
  groups : Arrangement AlsoBought

/-- The orders in which the rows of all the queries come -/
structure AnswerOrder extends CandidateOrder where
  snapshots : Arrangement BookVariantSnapshot
  variants : Arrangement VariantRow

/-! ### Queries -/

namespace RecommendDb

variable (db : RecommendDb)

/-- `orderBy: { createdAt: 'desc' }` -/
def findEventTypeByUser (sql : SqlText) (order : Arrangement UserEventRow) (userId : Nat)
    (objectType : String) : List UserEventRow :=
  orderBy (fun ev ev' => decide (ev'.createdAt < ev.createdAt))
    (order.rows (db.userEvents.filter fun ev =>
      decide (ev.userId = some userId) && ev.objectType.any (sql.eq objectType)))

/-- `in` for numbers that came from texts -/
def idIn (ids : List (Option Int)) (id : Nat) : Bool :=
  decide (some (id : Int) ∈ ids)

def findOrderItemsByOrderId (o : CandidateOrder) (orderIds : List (Option Int)) :
    Except Failure (List OrderWithItemsRow) :=
  if orderIds = [] then .ok []
  else if none ∈ orderIds then .error .database
  else .ok ((o.orders.rows (db.orders.filter (idIn orderIds))).map fun id =>
    ⟨id, o.items.rows (db.orderItems.filter fun item => decide (item.orderId = id))⟩)

def findSnapshotIdsByVariantIds (o : CandidateOrder) (variantIds : List (Option Int)) :
    Except Failure (List Nat) :=
  if none ∈ variantIds then .error .database
  else .ok ((o.seeds.rows (db.snapshots.filter fun s => idIn variantIds s.bookVariantId)).map
    BookVariantSnapshot.id)

def findVariantIdsBySnapshotIds (order : Arrangement BookVariantSnapshot)
    (snapshotIds : List Nat) : List BookVariantSnapshot :=
  order.rows (db.snapshots.filter fun s => decide (s.id ∈ snapshotIds))

def findOrderIdsBySnapshotIds (o : CandidateOrder) (snapshotIds : List Nat) : List Nat :=
  (o.buyers.rows (db.orderItems.filter fun item =>
    decide (item.bookVariantSnapshotId ∈ snapshotIds))).map fun item => item.orderId

/-- `_count` of each snapshot, `desc` -/
def groupAlsoBoughtSnapshotCandidates (o : CandidateOrder)
    (orderIds excludeSnapshotIds : List Nat) (take : Nat) : List AlsoBought :=
  let bought := (db.orderItems.filter fun item =>
    decide (item.orderId ∈ orderIds) &&
      decide (item.bookVariantSnapshotId ∉ excludeSnapshotIds)).map fun item =>
        item.bookVariantSnapshotId
  (orderBy (fun c c' => decide (c'.count < c.count))
    (o.groups.rows (bought.dedup.map fun id => ⟨id, bought.count id⟩))).take take

/-- The variants on sale of books on sale -/
def variantsOnSale : List VariantRow :=
  db.catalog.variants.filterMap fun v =>
    if v.isActive && v.price.any fun p => decide (0 < p) then
      ((db.catalog.books.find? fun b => decide (b.id = v.bookId)).filter
        db.catalog.visible).map fun b => ⟨v, b⟩
    else none

/-- The card of a row of `findBooksVariantByIds` -/
def variantCard (languageId : Nat) (row : VariantRow) : CatalogBookCardDto :=
  let translation := (db.catalog.translationsOf row.book languageId).head?
  { id := row.book.id
    title := (translation.map BookTranslation.title).getD ("Book " ++ toString row.book.id)
    slug := translation.bind BookTranslation.slug
    coverImageUrl := row.book.coverImageUrl
    price := some (row.variant.price.getD 0)
    currencyCode := some row.variant.currencyCode
    description := none
    soldCount := some 0
    isOutOfStock := decide (row.variant.stock ≤ 0)
    bookVariantId := some row.variant.id
    format := some row.variant.format
    categories := []
    badges := row.book.badges
    createdAt := row.book.createdAt }

def findBooksVariantByIds (order : Arrangement VariantRow) (bookVariantId : List Nat)
    (languageId take : Nat) : List CatalogBookCardDto :=
  if bookVariantId = [] then []
  else ((order.rows (db.variantsOnSale.filter fun row =>
    decide (row.variant.id ∈ bookVariantId))).take take).map (db.variantCard languageId)

end RecommendDb

/-! ### Scores -/

structure ScoredObj where
  objectId : String
  objectType : String
  createdAt : Nat
  score : ℚ
  deriving DecidableEq

/-- `Map<string, ScoredObj>` -/
abbrev Scores : Type :=
  List (String × ScoredObj)

def upsertScore (map : Scores) (objectId objectType : String) (createdAt : Nat)
    (scoreDelta : ℚ) : Scores :=
  match JsMap.get map objectId with
  | some prev =>
      JsMap.set map objectId
        { objectId := objectId
          objectType := objectType
          createdAt := if prev.createdAt > createdAt then prev.createdAt else createdAt
          score := prev.score + scoreDelta }
  | none => JsMap.set map objectId ⟨objectId, objectType, createdAt, scoreDelta⟩

/-- The higher score, and the later one of two with the same score -/
def scoresHigher (a b : ScoredObj) : Bool :=
  decide (b.score < a.score) ||
    decide (a.score = b.score) && decide (b.createdAt < a.createdAt)

def getTopKFromMap (map : Scores) (k : Nat) : List ScoredObj :=
  (orderBy scoresHigher ((map.map Prod.snd).filter fun x => decide (0 < x.score))).take (max 1 k)

def getTopKMap (map : Scores) (k : Nat) : Scores :=
  JsMap.ofEntries ((getTopKFromMap map k).map fun x => (x.objectId, x))

/-! ### `UserEventService` -/

section Service

variable (sql : SqlText) (number : String → Option Int) (db : RecommendDb)
-- the clock when an event is scored
variable (now : UserEventRow → Nat)

/-- What `buildScoreWithRecommendVariant` and `buildScoreWithRecommendOrder` do with the
events they read, for any scoring of events -/
def buildScore (score : UserEventRow → ℚ) (objectType : String)
    (allowedTypes : List EventType) (events : List UserEventRow) : Scores :=
  getTopKMap (events.foldl (fun map ev =>
    match ev.objectId with
    | none => map
    | some objectId =>
        if objectId = "" then map
        else if ev.objectType ≠ some objectType then map
        else if ev.eventType ∉ allowedTypes then map
        else upsertScore map objectId objectType ev.createdAt (score ev)) []) 20

/-- The score of an event when it is read -/
def eventScore (ev : UserEventRow) : ℚ :=
  scoreEvent ev.eventType ev.createdAt (now ev)

def buildScoreWithRecommendVariant (o : CandidateOrder) (userId : Nat) : Scores :=
  buildScore (eventScore now) "bookVariant" VARIANT_EVENT_TYPES
    (db.findEventTypeByUser sql o.variantEvents userId "bookVariant")

def buildScoreWithRecommendOrder (o : CandidateOrder) (userId : Nat) : Scores :=
  buildScore (eventScore now) "order" ORDER_EVENT_TYPES
    (db.findEventTypeByUser sql o.orderEvents userId "order")

structure OrderSignal where
  snapshotId : Nat
  createdAt : Nat
  score : ℚ
  deriving DecidableEq

/-- The signals of the items of an order -/
def orderSignalsOf (orders : Scores) (orderRow : OrderWithItemsRow) : List OrderSignal :=
  match JsMap.get orders (toString orderRow.id) with
  | none => []
  | some orderScore =>
      (orderRow.items.filter fun item => decide (item.bookVariantSnapshotId ≠ 0)).map fun item =>
        { snapshotId := item.bookVariantSnapshotId
          createdAt :=
            if orderScore.createdAt > item.createdAt then orderScore.createdAt
            else item.createdAt
          score := orderScore.score * (max 1 item.quantity : Int) }

def mergerRecommendVariantAndOrder (o : CandidateOrder) (variants orders : Scores) :
    Except Failure Scores := do
  let orderIds := orders.map fun entry => number entry.1
  if orderIds = [] then return variants
  let ordersWithItems ← db.findOrderItemsByOrderId o orderIds
  if ordersWithItems = [] then return variants
  let orderSignals := ordersWithItems.flatMap (orderSignalsOf orders)
  if orderSignals = [] then return variants
  -- an id stands for its text
  let snapshotIds := JsMap.newSet (orderSignals.map OrderSignal.snapshotId)
  if snapshotIds = [] then return variants
  let variantBySnapshotRows := db.findVariantIdsBySnapshotIds o.purchased snapshotIds
  if variantBySnapshotRows = [] then return variants
  let variantBySnapshot := JsMap.ofEntries
    (variantBySnapshotRows.map fun row => (toString row.id, toString row.bookVariantId))
  let mergedMap := orderSignals.foldl (fun map signal =>
    match JsMap.get variantBySnapshot (toString signal.snapshotId) with
    | none => map
    | some variantId => upsertScore map variantId "bookVariant" signal.createdAt signal.score)
    variants
  return getTopKMap mergedMap 20

def pickRecommendCards (variantIds : List Nat) (variants : List CatalogBookCardDto)
    (limit : Nat) : List CatalogBookCardDto :=
  let cardMap := JsMap.ofEntries
    (variants.map fun variant => ((variant.bookVariantId.map toString).getD "", variant))
  (variantIds.filterMap fun id => JsMap.get cardMap (toString id)).take (max 1 limit)

def getRecommend (o : AnswerOrder) (userId langId limit : Nat) :
    Except Failure (List CatalogBookCardDto) := do
  let scoreVariant := buildScoreWithRecommendVariant sql db now o.toCandidateOrder userId
  let scoreOrder := buildScoreWithRecommendOrder sql db now o.toCandidateOrder userId
  let mergedVariantScores ←
    mergerRecommendVariantAndOrder number db o.toCandidateOrder scoreVariant scoreOrder
  let variantIdsBigint := mergedVariantScores.map fun entry => number entry.1
  if variantIdsBigint = [] then return []
  let seedSnapshotIds ← db.findSnapshotIdsByVariantIds o.toCandidateOrder variantIdsBigint
  if seedSnapshotIds = [] then return []
  let orderIds := db.findOrderIdsBySnapshotIds o.toCandidateOrder seedSnapshotIds
  if orderIds = [] then return []
  let candidates :=
    db.groupAlsoBoughtSnapshotCandidates o.toCandidateOrder orderIds seedSnapshotIds 200
  if candidates = [] then return []
  let snapShotIds := (candidates.map AlsoBought.bookVariantSnapshotId).filter fun id =>
    decide (id ≠ 0)
  if snapShotIds = [] then return []
  let recommendVariantIdsAndId := db.findVariantIdsBySnapshotIds o.snapshots snapShotIds
  let mapToRecommend := JsMap.newSet
    (recommendVariantIdsAndId.map BookVariantSnapshot.bookVariantId)
  if mapToRecommend = [] then return []
  let variantRecommend := db.findBooksVariantByIds o.variants mapToRecommend langId limit
  return pickRecommendCards mapToRecommend variantRecommend limit

end Service

end UserEvents
end BookStore
