import BookStore.Async.Sends
import BookStore.Fulfilment
import BookStore.Text
import Mathlib.Data.Rat.Floor

/-!
# The history of an order

While orders are placed and their jobs run, the administrator changes prices,
formats and the activation of variants.  An item that a job has written refers to a
snapshot with the price and the format that the checkout of its order has read, and
neither of them changes any more.

* `editedServer` is the server with the administrator's edits.
* `CheckedOut` says in a run which handler has placed an order and what it had read.
* `hashedText` is the text behind a content hash; no two versions share it.
* `HistoryInv` is the invariant, `ItemsKept` what no step takes back.
* `order_history` is the result.
-/

namespace BookStore

open Async Program

/-! ### The text of a content hash -/

/-- The digits after the point of `String(cents / 100)`. -/
def fractionText (cents : Nat) : List Char :=
  if cents % 10 = 0 then natText (cents % 100 / 10)
  else natText (cents % 100 / 10) ++ natText (cents % 10)

/-- `String(cents / 100)` -/
def centsText (cents : Nat) : List Char :=
  if cents % 100 = 0 then natText (cents / 100)
  else natText (cents / 100) ++ '.' :: fractionText cents

/-- A non-negative decimal with two fraction digits. -/
def IsCents (price : ℚ) : Prop :=
  ∃ cents : Nat, price = cents / 100

/-- `String(price)` -/
def priceText (price : ℚ) : List Char :=
  centsText ⌊price * 100⌋.toNat

def BookFormat.text : BookFormat → List Char
  | .hardcover => "HARDCOVER".toList
  | .paperback => "PAPERBACK".toList
  | .ebook => "EBOOK".toList
  | .audiobook => "AUDIOBOOK".toList

/-- The text whose digest `generateContentHash` takes. -/
def hashedText (h : ContentHash) : String :=
  String.ofList (((h.isbn.toList ++ '-' :: natText h.id) ++ '-' :: h.format.text) ++
    '-' :: priceText h.price)

theorem not_mem_fractionText {c : Char} (hc : c.isDigit = false) (n : Nat) :
    c ∉ fractionText n := by
  unfold fractionText
  split_ifs
  · exact not_mem_natText hc _
  · simp [not_mem_natText hc]

theorem not_mem_centsText {c : Char} (hc : c.isDigit = false) (hpoint : c ≠ '.') (n : Nat) :
    c ∉ centsText n := by
  unfold centsText
  split_ifs
  · exact not_mem_natText hc _
  · simp [not_mem_natText hc, not_mem_fractionText hc, hpoint]

theorem BookFormat.text_injective : Function.Injective BookFormat.text := by
  intro f g h
  cases f <;> cases g <;> first | rfl | exact absurd h (by decide)

/-- The cents that a fraction stands for. -/
def fractionValue : List Char → Nat
  | [d] => 10 * (d.toNat - '0'.toNat)
  | [d, e] => 10 * (d.toNat - '0'.toNat) + (e.toNat - '0'.toNat)
  | _ => 0

theorem fractionValue_fractionText (n : Nat) : fractionValue (fractionText n) = n % 100 := by
  have hsmall : ∀ r, r < 100 → fractionValue (fractionText r) = r := by
    decide +kernel
  have hmod : fractionText n = fractionText (n % 100) := by
    simp only [fractionText, Nat.mod_mod, Nat.mod_mod_of_dvd n (by decide : 10 ∣ 100)]
  rw [hmod, hsmall _ (Nat.mod_lt n (by decide))]

theorem centsText_injective : Function.Injective centsText := by
  intro m n h
  have hpoint : '.'.isDigit = false := rfl
  have hmod : m / 100 = n / 100 ∧ m % 100 = n % 100 := by
    unfold centsText at h
    split_ifs at h with hm hn hn
    · exact ⟨natText_injective h, hm.trans hn.symm⟩
    · exact absurd (h ▸ by simp) (not_mem_natText hpoint (m / 100))
    · exact absurd (h ▸ by simp) (not_mem_natText hpoint (n / 100))
    · obtain ⟨hint, hfraction⟩ := splitLast_inj (not_mem_fractionText hpoint m)
        (not_mem_fractionText hpoint n) h
      refine ⟨natText_injective hint, ?_⟩
      rw [← fractionValue_fractionText m, hfraction, fractionValue_fractionText]
  omega

theorem priceText_injective
    {p q : ℚ}
    (hp : IsCents p)
    (hq : IsCents q)
    (h : priceText p = priceText q) :
    p = q := by
  obtain ⟨m, rfl⟩ := hp
  obtain ⟨n, rfl⟩ := hq
  have hcents : ∀ k : Nat, ⌊(k / 100 : ℚ) * 100⌋.toNat = k := by
    intro k
    rw [div_mul_cancel₀ _ (by norm_num), Int.floor_natCast, Int.toNat_natCast]
  have := centsText_injective h
  rw [hcents, hcents] at this
  rw [this]

/-- **No two versions share their text**, whatever the ISBN is. -/
theorem hashedText_inj
    {h h' : ContentHash}
    (hprice : IsCents h.price)
    (hprice' : IsCents h'.price)
    (heq : hashedText h = hashedText h') :
    h = h' := by
  have hdash : '-'.isDigit = false := rfl
  have hformat : ∀ f : BookFormat, '-' ∉ f.text := by
    intro f
    cases f <;> decide
  obtain ⟨heq, hp⟩ := splitLast_inj (not_mem_centsText hdash (by decide) _)
    (not_mem_centsText hdash (by decide) _) (String.ofList_injective heq)
  obtain ⟨heq, hf⟩ := splitLast_inj (hformat _) (hformat _) heq
  obtain ⟨hisbn, hid⟩ := splitLast_inj (not_mem_natText hdash _) (not_mem_natText hdash _) heq
  cases h
  cases h'
  simp only [ContentHash.mk.injEq]
  exact ⟨String.toList_injective hisbn, natText_injective hid, BookFormat.text_injective hf,
    priceText_injective hprice hprice' hp⟩

/--
The text behind a content hash tells the ISBN, the id, the format and the price; the ISBN may
contain digits and separators.
-/
theorem hashedText_eq_iff
    {h h' : ContentHash}
    (hprice : IsCents h.price)
    (hprice' : IsCents h'.price) :
    hashedText h = hashedText h' ↔
      h.isbn = h'.isbn ∧ h.id = h'.id ∧ h.format = h'.format ∧ h.price = h'.price := by
  constructor
  · intro heq
    rw [hashedText_inj hprice hprice' heq]
    exact ⟨rfl, rfl, rfl, rfl⟩
  · rintro ⟨hisbn, hid, hformat, hcents⟩
    rw [hashedText, hashedText, hisbn, hid, hformat, hcents]

/-- An ISBN that ends like an id -/
theorem hashedText_eq_iff_hyphens :
    hashedText ⟨"978-1", 2, .ebook, 5 / 2⟩ ≠ hashedText ⟨"978", 1, .ebook, 5 / 2⟩ := by
  have hcents : IsCents (5 / 2) := ⟨250, by norm_num⟩
  intro heq
  exact absurd ((hashedText_eq_iff hcents hcents).mp heq).1 (by decide)

/-! ### The administrator -/

/-- New columns of a variant. -/
structure VariantEdit where
  variantId : Nat
  price : Option ℚ
  format : BookFormat
  isActive : Bool
  deriving DecidableEq

def editVariant (e : VariantEdit) (t : Table BookVariant) : Table BookVariant :=
  t.update e.variantId fun r =>
    { r with price := e.price, format := e.format, isActive := e.isActive }

variable (dep : Deployment)

/-- The server, in which variants are edited at any time. -/
def editedServer : System Stmt Response Failure Answer World (Event ⊕ VariantEdit) where
  exec := exec dep
  fault := .database
  idle := .none
  env
    | .inl e, w => environment dep e w
    | .inr e, w => some ({ w with db.variants := editVariant e w.db.variants }, none)

/-! ### What was read -/

section Run

variable (w₀ : World) (as : List (Action (Event ⊕ VariantEdit)))

/-- In the run, handler `i` reads the rows of `variants`. -/
def HasRead (i : Nat) (variants : List BookVariant) : Prop :=
  ∃ ids d, Sent (editedServer dep) ⟨w₀, []⟩ as i (.findByIds ids) d ∧
    variants = d.world.db.variants.filter fun r => ids.contains r.id

/-- In the run, handler `i` creates order `k`. -/
def HasCreated (i k : Nat) : Prop :=
  ∃ data d, Sent (editedServer dep) ⟨w₀, []⟩ as i (.createOrder data) d ∧
    d.world.db.orders.next = k

/-- In the run, the handler that creates order `k` has read `variants` for it. -/
def CheckedOut (k : Nat) (variants : List BookVariant) : Prop :=
  ∃ i, HasRead dep w₀ as i variants ∧ HasCreated dep w₀ as i k

/-- The job carries what the checkout of its order has read. -/
def Ordered (payload : CheckoutJobPayload) : Prop :=
  ∃ variants, CheckedOut dep w₀ as payload.orderId variants ∧
    payload.variants = variants.map orderVariantOf

/-- The item and its snapshot say what was read of a variant. -/
def ItemFaithful (db : Database) (item : OrderItem) : Prop :=
  ∃ variants row s, CheckedOut dep w₀ as item.orderId variants ∧ row ∈ variants ∧
    db.snapshots.find item.bookVariantSnapshotId = some s ∧
    s.bookVariantId = row.id ∧ s.priceSnapshot = row.price.getD 0 ∧
    s.formatSnapshot = row.format ∧ item.unitPrice = row.price.getD 0

end Run

/-- A snapshot says what its content hash says. -/
def SnapshotsFaithful (t : Table BookVariantSnapshot) : Prop :=
  ∀ s, s ∈ t.rows → ∀ h, s.contentHash = some h →
    s.bookVariantId = h.id ∧ s.priceSnapshot = h.price ∧ s.formatSnapshot = h.format

/-- Snapshots stay; items stay with their order. -/
structure ItemsKept (w w' : World) : Prop where
  orders : OrdersPersist w w'
  snapshots : ∀ id s, w.db.snapshots.find id = some s →
    w'.db.snapshots.find id = some s
  items : ∀ id item, w.db.orderItems.find id = some item →
    item.orderId < w.db.orders.next →
    w'.db.orderItems.find id = some item ∨ w'.db.orders.find item.orderId = none

variable {dep}

theorem ItemsKept.of_eq
    {w w' : World}
    (horders : w'.db.orders = w.db.orders)
    (hsnapshots : w'.db.snapshots = w.db.snapshots)
    (hitems : w'.db.orderItems = w.db.orderItems) :
    ItemsKept w w' where
  orders := .of_eq horders
  snapshots := fun _ _ hs => by rwa [hsnapshots]
  items := fun _ _ hitem _ => .inl (by rwa [hitems])

theorem ItemsKept.trans
    {u v w : World}
    (huv : ItemsKept u v)
    (hvw : ItemsKept v w) :
    ItemsKept u w where
  orders := huv.orders.trans hvw.orders
  snapshots := fun id s hs => hvw.snapshots id s (huv.snapshots id s hs)
  items := by
    intro id item hitem hlt
    have hlt' := hlt.trans_le huv.orders.next_le
    rcases huv.items id item hitem hlt with hkept | hgone
    · exact hvw.items id item hkept hlt'
    · refine .inr (Option.eq_none_iff_forall_ne_some.mpr fun o ho => ?_)
      obtain ⟨o', ho', -⟩ := hvw.orders.persist _ o hlt' ho
      rw [hgone] at ho'
      cases ho'

/-! ### One statement -/

/-- The rows of `createMany` are the old ones and those of its inputs. -/
theorem insertItems_mem
    {k : Nat} {items : List OrderItemInput} {t t' : Table OrderItem}
    (h : insertItems k items t = some t') :
    ∀ r, r ∈ t'.rows → r ∈ t.rows ∨ r.orderId = k ∧ ∃ x, x ∈ items ∧
      x.bookVariantSnapshotId = some r.bookVariantSnapshotId ∧
      r.unitPrice = x.unitPrice := by
  induction items generalizing t with
  | nil =>
      cases h
      exact fun r hr => .inl hr
  | cons i items ih =>
      simp only [insertItems] at h
      split at h
      · rename_i snapshotId quantity hid hq
        intro r hr
        rcases ih h r hr with hr | ⟨hk, x, hx, hrest⟩
        · rcases List.mem_append.mp hr with hr | hr
          · exact .inl hr
          · rw [List.mem_singleton.mp hr]
            exact .inr ⟨rfl, i, by simp, hid, rfl⟩
        · exact .inr ⟨hk, x, List.mem_cons_of_mem i hx, hrest⟩
      · cases h

theorem find_insertItems
    {k : Nat} {items : List OrderItemInput} {t t' : Table OrderItem} {id : Nat}
    {item : OrderItem}
    (h : insertItems k items t = some t')
    (hitem : t.find id = some item) :
    t'.find id = some item := by
  induction items generalizing t with
  | nil =>
      cases h
      exact hitem
  | cons i items ih =>
      simp only [insertItems] at h
      split at h
      · refine ih h ?_
        rw [Table.find_insert, if_neg (Nat.ne_of_lt (Table.find_lt hitem)), hitem]
      · cases h

/-- A statement keeps snapshots, and items with their order. -/
theorem exec_itemsKept
    {s : Stmt} {w w' : World} {r : Response s}
    (h : exec dep s w = .ok (w', r)) :
    ItemsKept w w' where
  orders := exec_ordersPersist dep h
  snapshots := (exec_fulfilRely h).snapshots
  items := by
    intro id item hitem _
    have hitems := (exec_effects dep h).orderItems
    cases s with
    | deleteOrder k =>
        by_cases hk : item.orderId = k
        · refine .inr ?_
          rw [(exec_effects dep h).orders, ordersAfter, Table.find_deleteWhere]
          refine Option.filter_eq_none_iff.mpr fun o ho => ?_
          simp [Table.find_key ho, hk]
        · refine .inl ?_
          rw [hitems, orderItemsAfter, Table.find_deleteWhere, hitem, Option.filter_some]
          simp [hk]
    | createItems k items =>
        refine .inl ?_
        rw [hitems, orderItemsAfter]
        cases ht : insertItems k items w.db.orderItems with
        | none =>
            exact hitem
        | some t =>
            exact find_insertItems ht hitem
    | _ =>
        exact .inl (by rw [hitems]; exact hitem)

/-! ### The handlers -/

variable (dep)

section Promises

variable (w₀ : World) (as : List (Action (Event ⊕ VariantEdit)))

/-- What the statements of all handlers meet. -/
def historyPromise : Promise Stmt World where
  rely := ItemsKept
  rely_refl := fun _ => .of_eq rfl rfl rfl
  rely_trans := fun _ _ _ => .trans
  sends w s :=
    match s with
    | .createSnapshots items => ∀ x, x ∈ items → x.bookVariantId = x.contentHash.id ∧
        x.priceSnapshot = x.contentHash.price ∧ x.formatSnapshot = x.contentHash.format
    | .createItems k items => ∃ payload found, Ordered dep w₀ as payload ∧
        payload.orderId = k ∧ items = snapshotItems payload found ∧
        FoundSnapshots payload found w.db.snapshots
    | .enqueueCheckout payload => Ordered dep w₀ as payload
    | _ => True

/-- What the statements of handler `i` are: statements of the run. -/
def historyGuard (i : Nat) (w : World) (s : Stmt) (_ : Outcome) : Prop :=
  match s with
  | .findByIds ids =>
      HasRead dep w₀ as i (w.db.variants.filter fun r => ids.contains r.id)
  | .createOrder _ => HasCreated dep w₀ as i w.db.orders.next
  | _ => True

/-- Statements of which nothing is asked. -/
def LeavesHistory : Stmt → Prop
  | .createSnapshots _ => False
  | .createItems _ _ => False
  | .enqueueCheckout _ => False
  | _ => True

end Promises

section Handlers

variable {dep}
variable {w₀ : World} {as : List (Action (Event ⊕ VariantEdit))} {i : Nat} {w : World}

/-- The handler keeps the promise. -/
abbrev KeepsHistory (dep : Deployment) (w₀ : World)
    (as : List (Action (Event ⊕ VariantEdit))) (i : Nat) :
    Service Answer → World → Prop :=
  Sends (historyPromise dep w₀ as) (historyGuard dep w₀ as i) (exec dep) .database
    fun _ _ => True

theorem attempt_itemsKept (s : Stmt) (w : World) (o : Outcome) :
    ItemsKept w (attempt (exec dep) .database s o w).1 :=
  attempt_of_exec (fun _ => .of_eq rfl rfl rfl) (fun _ _ h => exec_itemsKept h) o

theorem sends_of_leavesHistory
    {s : Stmt}
    (hs : LeavesHistory s) (v : World) :
    (historyPromise dep w₀ as).sends v s := by
  cases s <;> trivial

theorem history_of_all
    {p : Service Answer}
    (h : p.All LeavesHistory) :
    KeepsHistory dep w₀ as i p w :=
  Sends.of_all (K := fun _ => True) (fun _ _ _ _ => trivial)
    (fun s v o => attempt_itemsKept s v o)
    (h.mono fun _ hs v _ => sends_of_leavesHistory hs v) (fun _ _ _ => trivial) trivial

/-- A part of a service without such statements, then the rest. -/
theorem history_bind_all
    {α : Type} {p : Service α} {f : α → Service Answer}
    (h : p.All LeavesHistory)
    (hf : ∀ a v, KeepsHistory dep w₀ as i (f a) v) :
    KeepsHistory dep w₀ as i (p.bind f) w :=
  Sends.bind_all (fun s v o => attempt_itemsKept s v o)
    (h.mono fun _ hs v => sends_of_leavesHistory hs v) (fun _ _ => trivial)
    (fun a v _ => hf a v)

/-- The order that a handler creates, with the job that carries what it has read. -/
theorem placeOrder_history
    {body : CreateCheckOutDTO} {guestSessionId : Option String} {userId : Option Nat}
    {email : Option String} {variants : List BookVariant} {isError : Bool}
    (hread : HasRead dep w₀ as i variants) :
    KeepsHistory dep w₀ as i
      (placeOrder dep body guestSessionId userId email variants isError) w := by
  refine Sends.await_bind (fun _ _ => trivial) (fun _ _ => trivial) ?_
  intro v o v' order _ hcreated _ hexec
  have hid : order.id = v.db.orders.next := by
    cases hexec
    rfl
  refine history_bind_all ?_ fun result v => ?_
  · unfold createPaymentIntent
    split_ifs
    · trivial
    · exact All.bind (All.await trivial) (fun _ => trivial)
  · refine Sends.await_bind (fun _ _ => ⟨variants, ⟨i, hread, ?_⟩, rfl⟩)
      (fun _ _ => trivial) (fun _ _ _ _ _ _ _ _ _ _ => trivial)
    show HasCreated dep w₀ as i order.id
    rw [hid]
    exact hcreated

theorem createCheckout_history
    (body : CreateCheckOutDTO) (guestSessionId : Option String) (userId : Option Nat) :
    KeepsHistory dep w₀ as i (createCheckout dep body guestSessionId userId) w := by
  have hquiet : ∀ s, ReservationStatement s → LeavesHistory s := by
    intro s hs
    cases s <;> trivial
  refine history_bind_all ((checkShopper_all body guestSessionId userId).mono hquiet)
    fun email v => ?_
  refine Sends.await_bind (fun _ _ => trivial) (fun _ _ => trivial) ?_
  intro v o v' variants _ hread _ hexec
  cases hexec
  show KeepsHistory dep w₀ as i (if _ then _ else _) _
  split_ifs
  · exact fun _ _ => trivial
  · exact history_bind_all ((reserveItems_all body.items _).mono hquiet)
      fun isError v => placeOrder_history hread

/-- The job has created its snapshots. -/
theorem hasSnapshot_of_rely
    {h : ContentHash} {v v' : World}
    (hhas : HasSnapshot v.db.snapshots h)
    (hrely : ItemsKept v v') :
    HasSnapshot v'.db.snapshots h := by
  obtain ⟨s, hs, hhash⟩ := hhas
  exact ⟨s, Table.find_mem (hrely.snapshots _ s (Table.find_of_mem hs)), hhash⟩

/-- A job whose payload was ordered writes the items of what was read. -/
theorem processCheckout_history
    {payload : CheckoutJobPayload}
    (hordered : Ordered dep w₀ as payload) :
    KeepsHistory dep w₀ as i (processCheckout payload) w := by
  refine Sends.await_bind (fun _ _ x hx => ?_) (fun _ _ => trivial) ?_
  · obtain ⟨v, -, rfl⟩ := List.mem_map.mp hx
    exact ⟨rfl, rfl, rfl⟩
  intro v o v' _ _ _ _ hexec
  have hhas : ∀ variant, variant ∈ payload.variants →
      HasSnapshot v'.db.snapshots (generateContentHash variant) := by
    intro variant hvariant
    cases hexec
    exact has_createSnapshots (List.mem_map_of_mem hvariant)
  refine Sends.await_bind (fun _ _ => trivial) (fun _ _ => trivial) ?_
  intro u o' u' found hv'u _ _ hread
  have hfound : u' = u ∧ FoundSnapshots payload found u.db.snapshots := by
    cases hread
    refine ⟨rfl, fun s hs => Table.find_of_mem (List.mem_of_mem_filter hs),
      fun variant hvariant => ?_⟩
    obtain ⟨s, hs, hhash⟩ := hasSnapshot_of_rely (hhas variant hvariant) hv'u
    refine ⟨s, List.mem_filter.mpr ⟨hs, ?_⟩, hhash⟩
    simp only [hhash, Option.any_some, List.contains_iff_mem]
    exact List.mem_map_of_mem (List.mem_map_of_mem hvariant)
  obtain ⟨rfl, hfound⟩ := hfound
  refine Sends.of_all (K := fun v => FoundSnapshots payload found v.db.snapshots)
    (fun v v' hv hrely => ⟨fun s hs => hrely.snapshots _ s (hv.find s hs), hv.has⟩)
    (fun s v o => attempt_itemsKept s v o) ?_ (fun _ _ _ => trivial) hfound
  exact All.bind (writeOrder_all payload _
    (fun v hv => ⟨payload, found, hordered, rfl, rfl, hv⟩) (fun _ _ _ => trivial)
    (fun _ _ _ => trivial) fun _ _ => trivial) fun _ => trivial

/-- No handler breaks the promise. -/
theorem handler_history (r : Request) :
    KeepsHistory dep w₀ as i (handler dep r) w := by
  cases r with
  | createCheckout body guestSessionId userId =>
      exact createCheckout_history body guestSessionId userId
  | sepayWebhook body =>
      refine history_of_all ((handleSepayWebhook_all body).mono ?_)
      rintro s (hs | ⟨code, k, hs⟩) <;> cases s <;> trivial
  | getPaymentStatus orderCode =>
      refine history_of_all ((getPaymentStatus_all orderCode).mono fun s hs => ?_)
      cases s <;> trivial
  | cleanOrder =>
      refine history_of_all (cleanOrder_all.mono fun s hs => ?_)
      cases s <;> trivial
  | updateOrderStatus orderId body =>
      refine history_of_all ((updateOrderStatus_all orderId body).mono fun s hs => ?_)
      cases s <;> trivial
  | createStockImport createdById body =>
      refine history_of_all ((createStockImport_all createdById body).mono fun s hs => ?_)
      cases s <;> trivial

end Handlers

/-! ### Runs -/

/-- Snapshots, queued jobs and items say what was read. -/
structure HistoryInv (w₀ : World) (as : List (Action (Event ⊕ VariantEdit)))
    (w : World) : Prop where
  snapshots : SnapshotsFaithful w.db.snapshots
  job : ∀ payload, payload ∈ w.queue → Ordered dep w₀ as payload
  item : ∀ item, item ∈ w.db.orderItems.rows → item.orderId < w.db.orders.next ∧
    ItemFaithful dep w₀ as w.db item

variable {dep}
variable {w₀ : World} {as : List (Action (Event ⊕ VariantEdit))}

theorem ItemFaithful.of_rely
    {w w' : World} {item : OrderItem}
    (h : ItemFaithful dep w₀ as w.db item)
    (hrely : ItemsKept w w') :
    ItemFaithful dep w₀ as w'.db item := by
  obtain ⟨variants, row, s, hchecked, hrow, hs, hrest⟩ := h
  exact ⟨variants, row, s, hchecked, hrow, hrely.snapshots _ s hs, hrest⟩

/-- `createSnapshots` adds faithful rows. -/
theorem createSnapshots_faithful
    {items : List SnapshotInput} {t : Table BookVariantSnapshot}
    (ht : SnapshotsFaithful t)
    (hitems : ∀ x, x ∈ items → x.bookVariantId = x.contentHash.id ∧
      x.priceSnapshot = x.contentHash.price ∧ x.formatSnapshot = x.contentHash.format) :
    SnapshotsFaithful (items.foldl insertSnapshot t) := by
  induction items generalizing t with
  | nil =>
      exact ht
  | cons i items ih =>
      refine ih ?_ (fun j hj => hitems j (List.mem_cons_of_mem i hj))
      rcases rows_insertSnapshot t i with h | h
      · rwa [h]
      · intro s hs hash hhash
        rw [h] at hs
        rcases List.mem_append.mp hs with hs | hs
        · exact ht s hs hash hhash
        · rw [List.mem_singleton.mp hs] at hhash ⊢
          cases hhash
          exact hitems i (by simp)

/-- The items that a job writes are faithful. -/
theorem createItems_faithful
    {payload : CheckoutJobPayload} {found : List BookVariantSnapshot} {db : Database}
    {t : Table OrderItem}
    (hsnapshots : SnapshotsFaithful db.snapshots)
    (hordered : Ordered dep w₀ as payload)
    (hfound : FoundSnapshots payload found db.snapshots)
    (h : insertItems payload.orderId (snapshotItems payload found) db.orderItems = some t)
    {item : OrderItem}
    (hitem : item ∈ t.rows)
    (hnew : item ∉ db.orderItems.rows) :
    item.orderId = payload.orderId ∧ ItemFaithful dep w₀ as db item := by
  obtain ⟨horder, x, hx, hid, hprice⟩ := (insertItems_mem h item hitem).resolve_left hnew
  obtain ⟨variants, hchecked, hvariants⟩ := hordered
  obtain ⟨y, hy, rfl⟩ := List.mem_map.mp hx
  obtain ⟨variant, hvariant, rfl⟩ := List.mem_map.mp hy
  have hmem := hvariant
  rw [hvariants] at hmem
  obtain ⟨row, hrow, rfl⟩ := List.mem_map.mp hmem
  obtain ⟨s, hs, hhash, hsid⟩ := snapshotIdOf_eq_some hid
  have hfind := hfound.find s hs
  obtain ⟨hvariantId, hpriceSnapshot, hformat⟩ :=
    hsnapshots s (Table.find_mem hfind) _ hhash
  refine ⟨horder, variants, row, s, by rw [horder]; exact hchecked, hrow, ?_, hvariantId,
    hpriceSnapshot, hformat, hprice⟩
  rw [← hsid]
  exact hfind

/-- Items are only written to an order that is there. -/
theorem exec_createItems
    {k : Nat} {items : List OrderItemInput} {w w' : World}
    {r : Response (.createItems k items)}
    (h : exec dep (.createItems k items) w = .ok (w', r)) :
    (items ≠ [] → (w.db.orders.find k).isSome) ∧
      insertItems k items w.db.orderItems = some w'.db.orderItems := by
  simp only [exec] at h
  split at h
  · cases h
  · rename_i hguard
    split at h
    · cases h
    · rename_i t ht
      cases h
      refine ⟨fun hne => Option.ne_none_iff_isSome.mp fun hnone => hguard ⟨hne, hnone⟩, ht⟩

theorem exec_historyInv
    {s : Stmt} {w w' : World} {r : Response s}
    (hinv : HistoryInv dep w₀ as w)
    (hsends : (historyPromise dep w₀ as).sends w s)
    (h : exec dep s w = .ok (w', r)) :
    HistoryInv dep w₀ as w' := by
  have hkept : ItemsKept w w' := exec_itemsKept h
  have hold : ∀ item, item ∈ w.db.orderItems.rows → item.orderId < w'.db.orders.next ∧
      ItemFaithful dep w₀ as w'.db item := by
    intro item hitem
    obtain ⟨hlt, hfaithful⟩ := hinv.item item hitem
    exact ⟨hlt.trans_le hkept.orders.next_le, hfaithful.of_rely hkept⟩
  have hitems := (exec_effects dep h).orderItems
  have hsnapshots := (exec_effects dep h).snapshots
  have hqueue := (exec_effects dep h).queue
  cases s with
  | createSnapshots items =>
      refine ⟨?_, by rw [hqueue]; exact hinv.job, by rw [hitems]; exact hold⟩
      rw [hsnapshots]
      exact createSnapshots_faithful hinv.snapshots hsends
  | createItems k items =>
      obtain ⟨payload, found, hordered, rfl, rfl, hfound⟩ := hsends
      refine ⟨by rw [hsnapshots]; exact hinv.snapshots, by rw [hqueue]; exact hinv.job,
        fun item hitem => ?_⟩
      by_cases hmem : item ∈ w.db.orderItems.rows
      · exact hold item hmem
      obtain ⟨hne, ht⟩ := exec_createItems h
      obtain ⟨horder, hfaithful⟩ := createItems_faithful hinv.snapshots hordered hfound ht
        hitem hmem
      obtain ⟨-, x, hx, -⟩ := (insertItems_mem ht item hitem).resolve_left hmem
      obtain ⟨o, ho⟩ := Option.isSome_iff_exists.mp (hne (List.ne_nil_of_mem hx))
      refine ⟨?_, hfaithful.of_rely hkept⟩
      rw [horder]
      exact (Table.find_lt ho).trans_le hkept.orders.next_le
  | enqueueCheckout payload =>
      refine ⟨by rw [hsnapshots]; exact hinv.snapshots, fun p hp => ?_,
        by rw [hitems]; exact hold⟩
      rw [hqueue] at hp
      rcases List.mem_append.mp hp with hp | hp
      · exact hinv.job p hp
      · exact List.mem_singleton.mp hp ▸ hsends
  | deleteOrder k =>
      refine ⟨by rw [hsnapshots]; exact hinv.snapshots, by rw [hqueue]; exact hinv.job,
        fun item hitem => ?_⟩
      rw [hitems] at hitem
      exact hold item (List.mem_of_mem_filter hitem)
  | _ =>
      exact ⟨by rw [hsnapshots]; exact hinv.snapshots, by rw [hqueue]; exact hinv.job,
        by rw [hitems]; exact hold⟩

theorem editedServer_env_itemsKept
    {e : Event ⊕ VariantEdit} {w w' : World} {p : Option (Service Answer)}
    (h : (editedServer dep).env e w = some (w', p)) :
    ItemsKept w w' := by
  cases e with
  | inl e =>
      have hdb : w'.db = w.db := environment_db dep h
      exact .of_eq (by rw [hdb]) (by rw [hdb]) (by rw [hdb])
  | inr e =>
      cases h
      exact .of_eq rfl rfl rfl

theorem step_itemsKept
    {c c' : ServerState} {a : Action (Event ⊕ VariantEdit)}
    (h : (editedServer dep).step c a = some c') :
    ItemsKept c.world c'.world :=
  System.step_world (editedServer dep) (fun _ => .of_eq rfl rfl rfl)
    (fun _ _ _ _ hp => editedServer_env_itemsKept hp) (fun _ _ _ _ hr => exec_itemsKept hr) h

/-- The environment takes jobs off the queue and starts handlers that keep the promise. -/
theorem editedServer_env_history
    {e : Event ⊕ VariantEdit} {w w' : World} {p : Option (Service Answer)}
    (hinv : HistoryInv dep w₀ as w)
    (h : (editedServer dep).env e w = some (w', p)) :
    HistoryInv dep w₀ as w' ∧ ∀ q i, p = some q → KeepsHistory dep w₀ as i q w' := by
  have hsame : ∀ queue redis now history (variants : Table BookVariant),
      (∀ payload, payload ∈ queue → payload ∈ w.queue) →
      HistoryInv dep w₀ as
        ⟨{ w.db with variants := variants }, redis, queue, now, history⟩ :=
    fun queue _ _ _ _ hsub =>
      ⟨hinv.snapshots, fun payload hp => hinv.job payload (hsub payload hp), hinv.item⟩
  cases e with
  | inl e =>
      cases e with
      | arrive r =>
          cases h
          refine ⟨hinv, fun q i hq => ?_⟩
          cases hq
          exact handler_history r
      | startJob j =>
          obtain ⟨payload, hpayload, heq⟩ := Option.map_eq_some_iff.mp h
          cases heq
          refine ⟨hsame _ _ _ _ _ fun _ hp => List.mem_of_mem_eraseIdx hp,
            fun q i hq => ?_⟩
          cases hq
          exact processCheckout_history (hinv.job payload (List.mem_of_getElem? hpayload))
      | expireKey v =>
          cases h
          exact ⟨hsame _ _ _ _ _ fun _ hp => hp, fun q i hq => by cases hq⟩
      | tick ms =>
          cases h
          exact ⟨hsame _ _ _ _ _ fun _ hp => hp, fun q i hq => by cases hq⟩
  | inr e =>
      cases h
      exact ⟨hsame _ _ _ _ _ fun _ hp => hp, fun q i hq => by cases hq⟩

/-- **One step** of the run. -/
theorem step_history
    {c c' : ServerState} {a : Action (Event ⊕ VariantEdit)}
    (hoccurs : Occurs (editedServer dep) ⟨w₀, []⟩ as c a)
    (hc : AllSend (editedServer dep) (historyPromise dep w₀ as) (historyGuard dep w₀ as) c ∧
      HistoryInv dep w₀ as c.world)
    (hstep : (editedServer dep).step c a = some c') :
    AllSend (editedServer dep) (historyPromise dep w₀ as) (historyGuard dep w₀ as) c' ∧
      HistoryInv dep w₀ as c'.world := by
  obtain ⟨hsends, hinv⟩ := hc
  refine ⟨sends_step ?_ ?_ (step_itemsKept hstep) hsends hstep, ?_⟩
  · intro b w' p i _ hb
    exact (editedServer_env_history hinv hb).2 p i rfl
  · rintro i j o s rfl hs
    cases s with
    | findByIds ids =>
        exact ⟨ids, c, hoccurs.sent hs, rfl⟩
    | createOrder data =>
        exact ⟨data, c, hoccurs.sent hs, rfl⟩
    | _ =>
        trivial
  · cases a with
    | env b =>
        obtain ⟨p, hp⟩ := System.step_env_world _ hstep
        exact (editedServer_env_history hinv hp).1
    | run i j o =>
        rcases System.step_run_world _ hstep with ⟨s, hs, hw⟩ | ⟨-, hw⟩
        · rw [hw]
          refine attempt_cases (motive := fun x => HistoryInv dep w₀ as x.1) (fun _ => hinv)
            fun w' r _ h => ?_
          have hinv' := exec_historyInv hinv (Sends.next (hsends i) hs) h
          exact ⟨hinv', hinv'⟩
        · rw [hw]
          exact hinv

theorem runs_itemsKept
    {c c' : ServerState} {as : List (Action (Event ⊕ VariantEdit))}
    (hrun : runs (editedServer dep).step c as = some c') :
    ItemsKept c.world c'.world :=
  runs_invariant (G := fun _ _ => True) (I := fun d => ItemsKept c.world d.world)
    (fun _ _ _ hd _ hstep => hd.trans (step_itemsKept hstep)) (.of_eq rfl rfl rfl)
    (Meets.of_forall_mem fun _ _ _ => trivial) hrun

variable (dep)

/--
Every item that is there in a state of a run refers to a snapshot that is there,
with the variant, the price and the format that the checkout of its order has read
in the run, and its unit price is this price; no job sends an item without a
snapshot.  Whatever happens afterwards, the snapshot stays as it is, and so does the
item until its order is deleted.  The content hashes separate the versions of variants.
-/
theorem order_history
    {w : World} {c c' : ServerState} {as bs : List (Action (Event ⊕ VariantEdit))}
    (hw : Fresh w)
    (hsnapshots : SnapshotsFaithful w.db.snapshots)
    (hrun : runs (editedServer dep).step ⟨w, []⟩ as = some c)
    (hrun' : runs (editedServer dep).step c bs = some c') :
    (∀ item, item ∈ c.world.db.orderItems.rows →
      ItemFaithful dep w as c.world.db item ∧
        c'.world.db.snapshots.find item.bookVariantSnapshotId =
          c.world.db.snapshots.find item.bookVariantSnapshotId ∧
        (c'.world.db.orderItems.find item.id = some item ∨
          c'.world.db.orders.find item.orderId = none)) ∧
    (∀ i k items, System.nextStatement c i = some (.createItems k items) →
      ∀ x, x ∈ items → x.bookVariantSnapshotId.isSome) ∧
    ∀ h h', IsCents h.price → IsCents h'.price → hashedText h = hashedText h' → h = h' := by
  have hstart : AllSend (editedServer dep) (historyPromise dep w as)
      (historyGuard dep w as) ⟨w, []⟩ ∧ HistoryInv dep w as w := by
    refine ⟨fun i p hp => by simp at hp, hsnapshots, fun payload hp => ?_, fun item hitem => ?_⟩
    · simp [hw.queue] at hp
    · simp [hw.orderItems] at hitem
  obtain ⟨hsends, hinv⟩ := runs_invariant
    (I := fun d : ServerState => AllSend (editedServer dep) (historyPromise dep w as)
      (historyGuard dep w as) d ∧ HistoryInv dep w as d.world)
    (fun _ _ _ hd hoccurs hstep => step_history hoccurs hd hstep) hstart
    (meets_occurs _ as) hrun
  have hkept : ItemsKept c.world c'.world := runs_itemsKept hrun'
  refine ⟨?_, ?_, fun _ _ hprice hprice' => hashedText_inj hprice hprice'⟩
  · intro item hitem
    obtain ⟨hlt, hfaithful⟩ := hinv.item item hitem
    have hfaithful' := hfaithful
    obtain ⟨-, -, s, -, -, hs, -⟩ := hfaithful'
    exact ⟨hfaithful, by rw [hs]; exact hkept.snapshots _ s hs,
      hkept.items _ item (Table.find_of_mem hitem) hlt⟩
  · intro i k items hs x hx
    obtain ⟨payload, found, -, -, rfl, hfound⟩ := Sends.next (hsends i) hs
    obtain ⟨y, hy, rfl⟩ := List.mem_map.mp hx
    obtain ⟨variant, hvariant, rfl⟩ := List.mem_map.mp hy
    obtain ⟨s, hs, hhash⟩ := hfound.has variant hvariant
    exact snapshotIdOf_isSome hs hhash

/-- An order is placed; the variant gets another price and format; the job runs. -/
def placedThenEdited : List (Action (Event ⊕ VariantEdit)) :=
  .env (.inl (.arrive (sampleGuest .sepay 1))) :: List.replicate 6 (.run 0 0 .ok) ++
    .env (.inr ⟨1, some 5, .ebook, false⟩) ::
    .env (.inl (.startJob 0)) :: List.replicate 4 (.run 1 0 .ok)

set_option maxRecDepth 4000 in
/-- The one item of the order has the old price. -/
theorem order_history_placedThenEdited :
    ∃ c, runs (editedServer sampleDeployment).step ⟨sampleWorld 5, []⟩ placedThenEdited =
        some c ∧
      ∃ item, item ∈ c.world.db.orderItems.rows ∧ item.unitPrice = 100000 ∧
        ItemFaithful sampleDeployment (sampleWorld 5) placedThenEdited c.world.db item := by
  obtain ⟨c, hrun, hany⟩ := (Option.any_eq_true
    (fun c : ServerState =>
      c.world.db.orderItems.rows.any fun i => decide (i.unitPrice = 100000)) _).mp
    (by decide +kernel : (runs (editedServer sampleDeployment).step ⟨sampleWorld 5, []⟩
      placedThenEdited).any _ = true)
  obtain ⟨item, hitem, hprice⟩ := List.any_eq_true.mp hany
  have hsnapshots : SnapshotsFaithful (sampleWorld 5).db.snapshots := by
    intro s hs
    cases hs
  have hrefl : runs (editedServer sampleDeployment).step c [] = some c := rfl
  have hhistory := order_history sampleDeployment (sampleWorld_fresh 5) hsnapshots hrun hrefl
  exact ⟨c, hrun, item, hitem, of_decide_eq_true hprice, (hhistory.1 item hitem).1⟩

end BookStore
