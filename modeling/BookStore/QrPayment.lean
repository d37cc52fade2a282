import BookStore.PaidBacked
import BookStore.PaymentCompensation
import BookStore.Rounding
import Mathlib.Algebra.Order.BigOperators.Group.Multiset
import Mathlib.Algebra.Order.PUnit

/-!
# Paying what the QR code asks for

In every reachable state the QR code of a payment intent asks for the total of its order, with
the code of the order as the description.  A transfer of that amount with that description, in
time and before another has, settles the order: the order, its transactions, the intent and the
delivery are marked and the quantities of the order leave the stock.

The code adds up the total in doubles.  With whole prices, and as long as the amounts are not too
great for doubles, this is the exact total; otherwise the QR code may ask for another amount than
the one that the order row keeps.

* `WholeTotal` is the condition on the prices and the amounts, and `totalInDoubles_eq` what
  follows from it.
* `QrInv` is the invariant about the intents.
* `ends_settled` is what the webhook does with the transfer.
* `qr_settles` is the result.
-/

namespace BookStore

open Async Program Logic

variable (dep : Deployment)

/-! ### The total -/

/-- The price of a variant -/
def priceIn (w : World) (k : Nat) : ℚ :=
  ((w.db.variants.find k).bind BookVariant.price).getD 0

/-- Each variant has its price. -/
def Priced (prices : Nat → ℚ) (t : Table BookVariant) : Prop :=
  ∀ v, v ∈ t.rows → v.price.getD 0 = prices v.id

/-- The prices of the lines and their quantities -/
def pricedLines (prices : Nat → ℚ) (lines : List (Nat × Int)) : List (ℚ × ℚ) :=
  lines.map fun l => (prices l.1, (l.2 : ℚ))

/-- The exact total -/
def totalOf (prices : Nat → ℚ) (lines : List (Nat × Int)) : ℚ :=
  ((pricedLines prices lines).map fun pair => pair.1 * pair.2).sum + shippingFee

/-- `subtotal + SHIPPING_FEE`, as the code computes it -/
def totalInDoubles (d : Doubles) (prices : Nat → ℚ) (lines : List (Nat × Int)) : ℚ :=
  d.round (d.sumOfProducts 0 (pricedLines prices lines) + shippingFee)

/-- The prices are whole, and doubles hold the amounts. -/
structure WholeTotal (prices : Nat → ℚ) (lines : List (Nat × Int)) : Prop where
  whole : ∀ l, l ∈ lines → IsWhole (prices l.1) ∧ |prices l.1| ≤ 2 ^ 53
  size : ((pricedLines prices lines).map fun pair => |pair.1 * pair.2|).sum + shippingFee ≤ 2 ^ 53

section Totals

variable {prices : Nat → ℚ} {lines : List (Nat × Int)}

theorem wholeTotal_iff :
    WholeTotal prices lines ↔
      (∀ l, l ∈ lines → IsWhole (prices l.1) ∧ |prices l.1| ≤ 2 ^ 53) ∧
        ((pricedLines prices lines).map fun pair => |pair.1 * pair.2|).sum + shippingFee ≤ 2 ^ 53 :=
  ⟨fun h => ⟨h.whole, h.size⟩, fun h => ⟨h.1, h.2⟩⟩

instance : Decidable (WholeTotal prices lines) :=
  decidable_of_iff _ wholeTotal_iff.symm

theorem WholeTotal.isWhole_products (h : WholeTotal prices lines) :
    IsWhole ((pricedLines prices lines).map fun pair => pair.1 * pair.2).sum := by
  refine .sum fun x hx => ?_
  obtain ⟨pair, hpair, rfl⟩ := List.mem_map.mp hx
  obtain ⟨l, hl, rfl⟩ := List.mem_map.mp hpair
  exact (h.whole l hl).1.mul (isWhole_intCast l.2)

theorem isWhole_shippingFee : IsWhole shippingFee := by decide

theorem WholeTotal.isWhole (h : WholeTotal prices lines) : IsWhole (totalOf prices lines) :=
  h.isWhole_products.add isWhole_shippingFee

theorem WholeTotal.abs_le (h : WholeTotal prices lines) : |totalOf prices lines| ≤ 2 ^ 53 := by
  have hproducts : |((pricedLines prices lines).map fun pair => pair.1 * pair.2).sum| ≤
      ((pricedLines prices lines).map fun pair => |pair.1 * pair.2|).sum := by
    have hsum := Multiset.abs_sum_le_sum_abs
      (s := Multiset.ofList ((pricedLines prices lines).map fun pair => pair.1 * pair.2))
    rwa [Multiset.sum_coe, Multiset.map_coe, Multiset.sum_coe, List.map_map] at hsum
  have hfee : |shippingFee| = shippingFee := abs_of_nonneg (by decide)
  calc |totalOf prices lines|
      ≤ |((pricedLines prices lines).map fun pair => pair.1 * pair.2).sum| + |shippingFee| :=
        abs_add_le _ _
    _ ≤ ((pricedLines prices lines).map fun pair => |pair.1 * pair.2|).sum + shippingFee := by
        rw [hfee]
        exact add_le_add_left hproducts _
    _ ≤ 2 ^ 53 := h.size

/-- **The total in doubles** is the exact one. -/
theorem totalInDoubles_eq (d : Doubles) (h : WholeTotal prices lines) :
    totalInDoubles d prices lines = totalOf prices lines := by
  have hsum : d.sumOfProducts 0 (pricedLines prices lines) =
      0 + ((pricedLines prices lines).map fun pair => pair.1 * pair.2).sum := by
    refine d.sumOfProducts_eq (isWhole_intCast 0) (fun pair hpair => ?_) ?_
    · obtain ⟨l, hl, rfl⟩ := List.mem_map.mp hpair
      exact ⟨(h.whole l hl).1, isWhole_intCast l.2, (h.whole l hl).2⟩
    · have hfee : (0 : ℚ) ≤ shippingFee := by decide
      rw [abs_zero, zero_add]
      linarith [h.size]
  rw [totalInDoubles, hsum, zero_add]
  exact d.whole _ h.isWhole h.abs_le

/-- The total of a checkout that has read these prices -/
theorem subtotalOf_eq
    {variants : List BookVariant} {quantities : List (Nat × Int)}
    (hprices : ∀ v, v ∈ variants → v.price.getD 0 = prices v.id) :
    subtotalOf variants quantities + shippingFee =
      totalOf prices (requestedLines variants quantities) := by
  rw [totalOf, subtotalOf, pricedLines, requestedLines, List.map_map, List.map_map]
  refine congrArg (· + shippingFee) (congrArg List.sum (List.map_congr_left fun v hv => ?_))
  rw [hprices v hv]
  rfl

theorem Priced.of_rows
    {t t' : Table BookVariant} {f : BookVariant → BookVariant}
    (h : Priced prices t)
    (hrows : t'.rows = t.rows.map f)
    (hf : ∀ v, (f v).id = v.id ∧ (f v).price = v.price) :
    Priced prices t' := by
  intro v hv
  rw [hrows] at hv
  obtain ⟨v', hv', rfl⟩ := List.mem_map.mp hv
  rw [(hf v').1, (hf v').2]
  exact h v' hv'

/-- No statement changes a price. -/
theorem Priced.variantsAfter
    {t : Table BookVariant}
    (h : Priced prices t)
    (s : Stmt) :
    Priced prices (variantsAfter s t) := by
  cases s with
  | importStock data =>
      show Priced prices (incrementStockById _ t)
      generalize data.lines.map (fun l => (l.bookVariantId, l.realQuantity)) = items
      induction items generalizing t with
      | nil =>
          exact h
      | cons item items ih =>
          refine ih (h.of_rows rfl fun v => ?_)
          split_ifs <;> exact ⟨rfl, rfl⟩
  | updateReservedByIds _ _ | decrementVariantsStock _ _ _ | incrementVariantsStock _
  | clearOrder _ =>
      refine h.of_rows rfl fun v => ?_
      split_ifs <;> exact ⟨rfl, rfl⟩
  | _ =>
      exact h

theorem priced_priceIn (w : World) : Priced (priceIn w) w.db.variants := by
  intro v hv
  have hfind : w.db.variants.find v.id = some v := Table.find_of_mem hv
  rw [priceIn, hfind]
  rfl

end Totals

/-! ### The invariant -/

/-- The QR code of the intent asks for the total of the order. -/
structure AsksFor (i : PaymentIntent) (o : Order) : Prop where
  orderCode : i.orderCode = o.orderCode
  content : i.content = some o.orderCode
  paymentUrl : i.paymentUrl =
    some (generateQrUrl dep (o.totalAmount.getD 0) o.orderCode).paymentUrl

structure QrInv (prices : Nat → ℚ) (w : World) : Prop where
  priced : Priced prices w.db.variants
  total : ∀ o, o ∈ w.db.orders.rows → o.totalAmount = some (totalOf prices o.requested)
  orderCode : ∀ k o, w.db.orders.find k = some o → o.orderCode = dep.orderCodes k
  asks : ∀ i, i ∈ w.db.paymentIntents.rows → ∃ o, o ∈ w.db.orders.rows ∧ AsksFor dep i o
  unique : ∀ i, i ∈ w.db.paymentIntents.rows → ∀ j, j ∈ w.db.paymentIntents.rows →
    i.orderCode = j.orderCode → i = j

/-- What a statement needs to find. -/
def QrNeeds (prices : Nat → ℚ) (w : World) : Stmt → Prop
  | .createOrder data => data.totalAmount = totalOf prices data.requested
  | .createPaymentIntent orderCode content _ paymentUrl =>
      content = orderCode ∧ ∃ k, k < w.db.orders.next ∧ orderCode = dep.orderCodes k ∧
        ∀ o, w.db.orders.find k = some o →
          paymentUrl = (generateQrUrl dep (o.totalAmount.getD 0) orderCode).paymentUrl
  | _ => True

variable {dep} {prices : Nat → ℚ} {w w' v : World} {i : PaymentIntent} {o : Order}

/-! ### Statements -/

/-- An order is there as long as it is not deleted. -/
theorem exec_order_survives
    {s : Stmt} {r : Response s} {k : Nat}
    (h : exec dep s w = .ok (w', r))
    (ho : w.db.orders.find k = some o)
    (hs : s ≠ .deleteOrder k) :
    ∃ o', w'.db.orders.find k = some o' ∧ SameOrder o o' := by
  have hsome : (w'.db.orders.find k).isSome = true := by
    rw [(exec_effects dep h).orders]
    cases s with
    | createOrder data =>
        have hlt : k < w.db.orders.next := Table.find_lt ho
        rw [ordersAfter, Table.find_insert, if_neg hlt.ne, ho]
        rfl
    | deleteOrder j =>
        have hkey : key o = k := Table.find_key ho
        have hne : k ≠ j := fun hkj => hs (hkj ▸ rfl)
        rw [ordersAfter, Table.find_deleteWhere, ho, Option.filter_some, hkey]
        simp [hne]
    | markOrderAndPaymentSuccess j =>
        rw [ordersAfter, Table.update, Table.find_updateWhere, ho]
        rfl
    | updateOrderStatusById j status =>
        rw [ordersAfter, Table.update, Table.find_updateWhere, ho]
        rfl
    | updateOrderStatus j status note =>
        rw [ordersAfter, Table.update, Table.find_updateWhere, ho]
        rfl
    | clearOrder variantMap =>
        rw [ordersAfter, Table.find_updateWhere, ho]
        rfl
    | _ =>
        exact Option.isSome_iff_exists.mpr ⟨o, ho⟩
  obtain ⟨o', ho'⟩ := Option.isSome_iff_exists.mp hsome
  obtain ⟨o₁, ho₁, hsame⟩ := (exec_ordersPersist dep h).persist k o' (Table.find_lt ho) ho'
  rw [ho] at ho₁
  cases ho₁
  exact ⟨o', ho', hsame⟩

theorem AsksFor.of_sameOrder {o' : Order} (h : AsksFor dep i o) (hsame : SameOrder o o') :
    AsksFor dep i o' := by
  refine ⟨?_, ?_, ?_⟩
  · rw [hsame.orderCode]
    exact h.orderCode
  · rw [hsame.orderCode]
    exact h.content
  · rw [hsame.orderCode, hsame.totalAmount]
    exact h.paymentUrl

theorem AsksFor.of_status (h : AsksFor dep i o) (status : PaymentStatus) :
    AsksFor dep { i with status := some status } o :=
  ⟨h.orderCode, h.content, h.paymentUrl⟩

/-- An intent whose order is not deleted -/
theorem asks_exec
    {s : Stmt} {r : Response s}
    (h : exec dep s w = .ok (w', r))
    (hasks : ∃ o, o ∈ w.db.orders.rows ∧ AsksFor dep i o)
    (hs : ∀ k o, s = .deleteOrder k → w.db.orders.find k = some o → i.orderCode ≠ o.orderCode) :
    ∃ o, o ∈ w'.db.orders.rows ∧ AsksFor dep i o := by
  obtain ⟨o, ho, hio⟩ := hasks
  have hfind : w.db.orders.find o.id = some o := Table.find_of_mem ho
  obtain ⟨o', ho', hsame⟩ := exec_order_survives h hfind
    fun hdelete => hs o.id o hdelete hfind hio.orderCode
  exact ⟨o', Table.find_mem ho', hio.of_sameOrder hsame⟩

/-- Orders keep the codes that they are created with. -/
theorem exec_orderCode
    {s : Stmt} {r : Response s}
    (hcode : ∀ k o, w.db.orders.find k = some o → o.orderCode = dep.orderCodes k)
    (h : exec dep s w = .ok (w', r))
    (k : Nat) (o : Order)
    (ho : w'.db.orders.find k = some o) :
    o.orderCode = dep.orderCodes k := by
  rcases exec_order_origin h ho with hk | ⟨data, -, rfl⟩
  · obtain ⟨o', ho', hsame⟩ := (exec_ordersPersist dep h).persist k o hk ho
    rw [hsame.orderCode, hcode k o' ho']
  · rfl

/-- Orders keep the total that they are created with. -/
theorem exec_total
    {s : Stmt} {r : Response s}
    (htotal : ∀ o, o ∈ w.db.orders.rows → o.totalAmount = some (totalOf prices o.requested))
    (hneeds : QrNeeds dep prices w s)
    (h : exec dep s w = .ok (w', r))
    (o : Order)
    (ho : o ∈ w'.db.orders.rows) :
    o.totalAmount = some (totalOf prices o.requested) := by
  have hfind : w'.db.orders.find o.id = some o := Table.find_of_mem ho
  rcases exec_order_origin h hfind with hk | ⟨data, rfl, horder⟩
  · obtain ⟨o', ho', hsame⟩ := (exec_ordersPersist dep h).persist o.id o hk hfind
    rw [hsame.totalAmount, hsame.requested]
    exact htotal o' (Table.find_mem ho')
  · rw [horder]
    exact congrArg some hneeds

/-- The intents after a statement: one was created, some were marked, or the rest is left. -/
theorem exec_intent_cases
    {s : Stmt} {r : Response s}
    (h : exec dep s w = .ok (w', r)) :
    (∃ orderCode content tokenUrl paymentUrl,
      s = .createPaymentIntent orderCode content tokenUrl paymentUrl) ∨
    (∃ orderCode status, s = .markPaymentIntent orderCode status) ∨
    ∀ i, i ∈ w'.db.paymentIntents.rows → i ∈ w.db.paymentIntents.rows ∧
      ∀ k o, s = .deleteOrder k → w.db.orders.find k = some o →
        i.orderCode ≠ o.orderCode := by
  have hintents := (exec_effects dep h).paymentIntents
  clear h
  cases s with
  | createPaymentIntent orderCode content tokenUrl paymentUrl =>
      exact .inl ⟨_, _, _, _, rfl⟩
  | markPaymentIntent orderCode status =>
      exact .inr (.inl ⟨_, _, rfl⟩)
  | deleteOrder k =>
      refine .inr (.inr fun i hi => ?_)
      rw [hintents] at hi
      obtain ⟨hmem, hother⟩ := List.mem_filter.mp hi
      refine ⟨hmem, fun k' o hk ho heq => ?_⟩
      cases hk
      simp [ho, heq, Deployment.sameText] at hother
  | _ =>
      refine .inr (.inr fun i hi => ?_)
      rw [hintents] at hi
      exact ⟨hi, fun _ _ hdelete => by cases hdelete⟩

/-- An intent is created for an order that is there and that has no intent yet. -/
theorem exec_createPaymentIntent
    {orderCode content tokenUrl : String} {paymentUrl : QrUrl}
    {r : Response (.createPaymentIntent orderCode content tokenUrl paymentUrl)}
    (h : exec dep (.createPaymentIntent orderCode content tokenUrl paymentUrl) w = .ok (w', r)) :
    (∃ o, o ∈ w.db.orders.rows ∧ dep.sameText o.orderCode orderCode = true) ∧
      ∀ i, i ∈ w.db.paymentIntents.rows → i.orderCode ≠ orderCode := by
  simp only [exec] at h
  split at h
  swap
  · cases h
  rename_i hguard
  refine ⟨List.any_eq_true.mp hguard.1, fun i hi heq => ?_⟩
  have hother := List.all_eq_true.mp hguard.2 i hi
  simp [heq, Deployment.sameText] at hother

/-- The intent that is created is a new row, which asks for the total of its order. -/
theorem asks_createPaymentIntent
    {orderCode content tokenUrl : String} {paymentUrl : QrUrl}
    {r : Response (.createPaymentIntent orderCode content tokenUrl paymentUrl)}
    (hinv : QrInv dep prices w)
    (hneeds : QrNeeds dep prices w (.createPaymentIntent orderCode content tokenUrl paymentUrl))
    (h : exec dep (.createPaymentIntent orderCode content tokenUrl paymentUrl) w = .ok (w', r)) :
    ∃ j, w'.db.paymentIntents.rows = w.db.paymentIntents.rows ++ [j] ∧ j.orderCode = orderCode ∧
      ∃ o, o ∈ w.db.orders.rows ∧ AsksFor dep j o := by
  obtain ⟨⟨o, ho, hsame⟩, -⟩ := exec_createPaymentIntent h
  obtain ⟨rfl, k, hk, rfl, hurl⟩ := hneeds
  have hfind : w.db.orders.find o.id = some o := Table.find_of_mem ho
  have hocode : o.orderCode = dep.orderCodes o.id := hinv.orderCode o.id o hfind
  obtain rfl : o.id = k := by
    refine orderCodes_unique dep ?_ (decide_eq_true rfl)
    rw [sameText_comm, ← hocode]
    exact hsame
  refine ⟨_, congrArg Table.rows (exec_effects dep h).paymentIntents, rfl, o, ho, hocode.symm,
    congrArg some hocode.symm, ?_⟩
  rw [hocode]
  exact congrArg some (hurl o hfind)

/-- The intents of the order code are marked. -/
theorem mem_markPaymentIntent
    {orderCode : String} {status : PaymentStatus}
    {r : Response (.markPaymentIntent orderCode status)}
    (h : exec dep (.markPaymentIntent orderCode status) w = .ok (w', r))
    (hi : i ∈ w'.db.paymentIntents.rows) :
    ∃ i₀, i₀ ∈ w.db.paymentIntents.rows ∧
      (i = { i₀ with status := some status } ∧ dep.sameText i₀.orderCode orderCode = true ∨
        i = i₀ ∧ ¬ dep.sameText i₀.orderCode orderCode = true) := by
  rw [(exec_effects dep h).paymentIntents] at hi
  obtain ⟨i₀, hi₀, rfl⟩ := List.mem_map.mp hi
  refine ⟨i₀, hi₀, ?_⟩
  split_ifs with hsame
  · exact .inl ⟨rfl, hsame⟩
  · exact .inr ⟨rfl, hsame⟩

/-- **One statement** that finds what it needs keeps the invariant. -/
theorem exec_qrInv
    {s : Stmt} {r : Response s}
    (hinv : QrInv dep prices w)
    (hneeds : QrNeeds dep prices w s)
    (h : exec dep s w = .ok (w', r)) :
    QrInv dep prices w' := by
  have hcode := exec_orderCode hinv.orderCode h
  have htotal := exec_total hinv.total hneeds h
  have hpriced : Priced prices w'.db.variants := by
    rw [(exec_effects dep h).variants]
    exact hinv.priced.variantsAfter s
  rcases exec_intent_cases h with
    ⟨orderCode, content, tokenUrl, paymentUrl, rfl⟩ | ⟨orderCode, status, rfl⟩ | hold
  · obtain ⟨-, hfresh⟩ := exec_createPaymentIntent h
    obtain ⟨new, hrows, hnew, hasks⟩ := asks_createPaymentIntent hinv hneeds h
    have horders : w'.db.orders = w.db.orders := (exec_effects dep h).orders
    refine ⟨hpriced, htotal, hcode, fun j hj => ?_, fun i hi j hj hij => ?_⟩
    · rw [hrows] at hj
      rw [horders]
      rcases List.mem_append.mp hj with hj | hj
      · exact hinv.asks j hj
      · rw [List.mem_singleton.mp hj]
        exact hasks
    · rw [hrows] at hi hj
      rcases List.mem_append.mp hi with hi | hi <;> rcases List.mem_append.mp hj with hj | hj
      · exact hinv.unique i hi j hj hij
      · rw [List.mem_singleton.mp hj, hnew] at hij
        exact absurd hij (hfresh i hi)
      · rw [List.mem_singleton.mp hi, hnew] at hij
        exact absurd hij.symm (hfresh j hj)
      · rw [List.mem_singleton.mp hi, List.mem_singleton.mp hj]
  · refine ⟨hpriced, htotal, hcode, fun i hi => ?_, fun i hi j hj hij => ?_⟩
    · obtain ⟨i₀, hi₀, hcase⟩ := mem_markPaymentIntent h hi
      have hasks := asks_exec h (hinv.asks i₀ hi₀) fun _ _ hdelete => by cases hdelete
      rcases hcase with ⟨rfl, -⟩ | ⟨rfl, -⟩
      · exact hasks.imp fun o ho => ⟨ho.1, ho.2.of_status status⟩
      · exact hasks
    · obtain ⟨i₀, hi₀, hi'⟩ := mem_markPaymentIntent h hi
      obtain ⟨j₀, hj₀, hj'⟩ := mem_markPaymentIntent h hj
      have hij₀ : i₀ = j₀ := by
        refine hinv.unique i₀ hi₀ j₀ hj₀ ?_
        rcases hi' with ⟨rfl, -⟩ | ⟨rfl, -⟩ <;> rcases hj' with ⟨rfl, -⟩ | ⟨rfl, -⟩ <;> exact hij
      subst hij₀
      rcases hi' with ⟨rfl, hs⟩ | ⟨rfl, hs⟩ <;> rcases hj' with ⟨rfl, ht⟩ | ⟨rfl, ht⟩
      · rfl
      · exact absurd hs ht
      · exact absurd ht hs
      · rfl
  · refine ⟨hpriced, htotal, hcode, fun i hi => ?_, fun i hi j hj hij => ?_⟩
    · obtain ⟨hmem, hother⟩ := hold i hi
      exact asks_exec h (hinv.asks i hmem) hother
    · exact hinv.unique i (hold i hi).1 j (hold j hj).1 hij

variable (dep)

/-- The invariant for handlers that hold nothing. -/
def qrLogic (prices : Nat → ℚ) : Logic Stmt World Unit where
  inv := fun _ w => QrInv dep prices w
  rely := OrdersPersist
  rely_refl := .refl
  rely_trans := fun _ _ _ => .trans
  guard := fun _ _ _ => True
  done := fun _ => True

variable {dep}

theorem harmless_of_qrNeeds
    {K : World → Prop} {s : Stmt}
    (hneeds : ∀ w, K w → QrNeeds dep prices w s) :
    Harmless (qrLogic dep prices) (exec dep) .database K s := by
  intro w _ o hK hinv _
  refine attempt_cases (motive := fun x => QrInv dep prices x.1 ∧ OrdersPersist w x.1)
    (fun _ => ⟨hinv, .refl w⟩) (fun w' r _ h => ?_)
  have := exec_qrInv hinv (hneeds w hK) h
  exact ⟨⟨this, exec_ordersPersist dep h⟩, this, exec_ordersPersist dep h⟩

/-! ### The services -/

/-- A service that creates no intent is safe. -/
theorem qr_of_all
    {p : Service Answer}
    (h : p.All fun s => ∀ w, QrNeeds dep prices w s) :
    SafeHandler (qrLogic dep prices) (exec dep) .database p () w :=
  Safe.of_all (K := fun _ => True) (fun _ _ _ _ => trivial)
    (h.mono fun _ hs => harmless_of_qrNeeds fun w _ => hs w)
    trivial (fun _ _ _ => trivial) trivial

/-- Order `k` has been placed, with this total. -/
def Totals (k : Nat) (amount : ℚ) (w : World) : Prop :=
  k < w.db.orders.next ∧ ∀ o, w.db.orders.find k = some o → o.totalAmount.getD 0 = amount

theorem Totals.of_rely {k : Nat} {amount : ℚ}
    (h : Totals k amount w)
    (hrely : OrdersPersist w w') :
    Totals k amount w' := by
  refine ⟨h.1.trans_le hrely.next_le, fun o ho => ?_⟩
  obtain ⟨o', ho', hsame⟩ := hrely.persist k o h.1 ho
  rw [hsame.totalAmount]
  exact h.2 o' ho'

theorem placeOrder_qr
    {body : CreateCheckOutDTO} {guestSessionId : Option String} {userId : Option Nat}
    {email : Option String} {variants : List BookVariant} {isError : Bool}
    (hvariants : ∀ v, v ∈ variants → v.price.getD 0 = prices v.id) :
    SafeHandler (qrLogic dep prices) (exec dep) .database
      (placeOrder dep body guestSessionId userId email variants isError) () w := by
  refine Safe.await_bind (StatementSafe.of_exec (fun _ _ _ _ _ => trivial) ?_)
  intro v F o v' order hwv hinv _ _ hexec
  have hrely : OrdersPersist v v' := exec_ordersPersist dep hexec
  have hneeds : QrNeeds dep prices v
      (.createOrder (orderCreateInput body guestSessionId userId variants)) :=
    subtotalOf_eq hvariants
  refine ⟨(), exec_qrInv hinv hneeds hexec, hrely, ?_, fun _ _ => trivial⟩
  have horder : order = newOrder dep (orderCreateInput body guestSessionId userId variants) v.now
      v.db.orders.next ∧ v'.db.orders.find v.db.orders.next = some order := by
    cases hexec
    exact ⟨rfl, by dsimp only; rw [Table.find_insert, if_pos rfl]⟩
  obtain ⟨rfl, hfind⟩ := horder
  refine Safe.of_all (K := Totals v.db.orders.next
    (subtotalOf variants (mapVariantIds body.items) + shippingFee)) (fun _ _ => Totals.of_rely)
    ?_ trivial (fun _ _ _ => trivial) ⟨Table.find_lt hfind, fun o ho => ?_⟩
  · refine All.bind ?_ fun result => All.bind (All.await ?_) fun _ => trivial
    · unfold createPaymentIntent
      split_ifs
      · trivial
      · refine All.bind (All.await (harmless_of_qrNeeds fun u hu => ?_)) fun _ => trivial
        refine ⟨rfl, v.db.orders.next, hu.1, rfl, fun o ho => ?_⟩
        rw [hu.2 o ho]
    · exact harmless_of_qrNeeds fun _ _ => trivial
  · rw [hfind] at ho
    cases ho
    rfl

theorem createCheckout_qr
    (body : CreateCheckOutDTO)
    (guestSessionId : Option String)
    (userId : Option Nat) :
    SafeHandler (qrLogic dep prices) (exec dep) .database
      (createCheckout dep body guestSessionId userId) () w := by
  have hquiet : ∀ s, ReservationStatement s →
      Harmless (qrLogic dep prices) (exec dep) .database (fun _ => True) s := by
    intro s hs
    refine harmless_of_qrNeeds fun v _ => ?_
    cases s <;> trivial
  refine Safe.bind_all trivial ((checkShopper_all body guestSessionId userId).mono hquiet)
    (fun email v _ => ?_) (fun _ _ => trivial)
  refine Safe.await_bind (StatementSafe.of_read _ (fun _ => rfl) (fun u F _ hinv => ?_)
    fun _ _ _ _ _ => trivial)
  have hvariants : ∀ v, v ∈ u.db.variants.filter
      (fun r => (body.items.map (·.bookVariantId)).contains r.id) →
      v.price.getD 0 = prices v.id :=
    fun v hv => hinv.priced v (List.mem_of_mem_filter hv)
  dsimp only
  split_ifs
  · exact fun _ _ => trivial
  · exact Safe.bind_all trivial ((reserveItems_all body.items _).mono hquiet)
      (fun isError v _ => placeOrder_qr hvariants) (fun _ _ => trivial)

/-- Every handler keeps the invariant. -/
theorem handler_qr (r : Request) :
    SafeHandler (qrLogic dep prices) (exec dep) .database (handler dep r) () w := by
  cases r with
  | createCheckout body guestSessionId userId =>
      exact createCheckout_qr body guestSessionId userId
  | sepayWebhook body =>
      refine qr_of_all ((handleSepayWebhook_all body).mono ?_)
      rintro s (hs | ⟨code, k, hs⟩) w <;> cases s <;> trivial
  | getPaymentStatus orderCode =>
      refine qr_of_all ((getPaymentStatus_all orderCode).mono fun s hs w => ?_)
      cases s <;> trivial
  | cleanOrder =>
      refine qr_of_all (cleanOrder_all.mono fun s hs w => ?_)
      cases s <;> trivial
  | updateOrderStatus orderId body =>
      refine qr_of_all ((updateOrderStatus_all orderId body).mono fun s hs w => ?_)
      cases s <;> trivial
  | createStockImport createdById body =>
      refine qr_of_all ((createStockImport_all createdById body).mono fun s hs w => ?_)
      cases s <;> trivial

theorem processCheckout_qr (payload : CheckoutJobPayload) :
    SafeHandler (qrLogic dep prices) (exec dep) .database (processCheckout payload) () w := by
  refine qr_of_all ((processCheckout_all payload).mono fun s hs w => ?_)
  cases s <;> trivial

/-! ### Runs -/

theorem QrInv.of_eq
    (hinv : QrInv dep prices w)
    (hdb : w'.db = w.db) :
    OrdersPersist w w' ∧ QrInv dep prices w' := by
  refine ⟨.of_eq (by rw [hdb]), ?_⟩
  constructor <;> rw [hdb]
  · exact hinv.priced
  · exact hinv.total
  · exact hinv.orderCode
  · exact hinv.asks
  · exact hinv.unique

theorem environment_qr :
    EnvSafe (qrLogic dep prices) (server dep) (fun _ _ => True) := by
  refine envSafe_of_events dep (fun w F r _ _ => handler_qr r)
    (fun w F i payload hinv _ _ => ?_) (fun w F v hinv _ => QrInv.of_eq hinv rfl)
    (fun w F ms hinv _ => QrInv.of_eq hinv rfl)
  have htaken : OrdersPersist w { w with queue := w.queue.eraseIdx i } ∧
      QrInv dep prices { w with queue := w.queue.eraseIdx i } := hinv.of_eq rfl
  exact ⟨htaken.1, (), htaken.2, processCheckout_qr payload⟩

theorem qrInv_fresh (hw : Fresh w) : QrInv dep (priceIn w) w where
  priced := priced_priceIn w
  total := by simp [hw.orders]
  orderCode := by
    intro k o ho
    have := Table.find_mem ho
    simp [hw.orders] at this
  asks := by simp [hw.paymentIntents]
  unique := by simp [hw.paymentIntents]

/-- In every state of a run the intents ask for what their orders cost. -/
theorem qr_runs
    {c : ServerState} {as : List (Action Event)}
    (hw : Fresh w)
    (hrun : runs (server dep).step ⟨w, []⟩ as = some c) :
    QrInv dep (priceIn w) c.world := by
  have hmeets : Meets (server dep).step
      (System.Conforms (fun _ _ => True) (qrLogic dep (priceIn w)).guard) ⟨w, []⟩ as := by
    refine Meets.of_forall_mem fun a _ c => ?_
    cases a with
    | env e =>
        trivial
    | run i j o =>
        simp only [System.Conforms, qrLogic]
        split <;> trivial
  have hstart : Balanced (qrLogic dep (priceIn w)) (server dep) ⟨w, []⟩ :=
    balanced_start (qrInv_fresh hw)
  obtain ⟨_, _, hinv⟩ := balanced_runs environment_qr hstart hmeets hrun
  exact hinv

/-! ### The transfer -/

/-- The transfer that the QR code describes, in time and the first of its kind. -/
structure AnswersQr (dep : Deployment) (body : SePayHooksDto) (i : PaymentIntent) (w : World) :
    Prop where
  event : body.id ≠ 0
  content : orderCodeContent body ≠ ""
  described : i.paymentUrl.any fun url =>
    dep.sameText url.des (orderCodeContent body) && decide (body.transferAmount = url.amount)
  inTime : w.now ≤ i.expiredAt
  unpaid : i.status ≠ some .success

/-- In a state of a run the webhook finds the intent of the transfer and its order. -/
theorem AnswersQr.pays
    {body : SePayHooksDto}
    (hinv : QrInv dep prices w)
    (hi : i ∈ w.db.paymentIntents.rows)
    (ho : o ∈ w.db.orders.rows)
    (hasks : AsksFor dep i o)
    (h : AnswersQr dep body i w) :
    PaysExactly dep body w i o := by
  obtain ⟨hevent, hcontent, hdescribed, htime, hunpaid⟩ := h
  rw [hasks.paymentUrl, Option.any_some, Bool.and_eq_true, decide_eq_true_eq] at hdescribed
  obtain ⟨hdes, hamount⟩ := hdescribed
  change dep.sameText o.orderCode (orderCodeContent body) = true at hdes
  have hcode : ∀ o', o' ∈ w.db.orders.rows → o'.orderCode = dep.orderCodes o'.id :=
    fun o' ho' => hinv.orderCode o'.id o' (Table.find_of_mem ho')
  -- the codes of two orders are the same text for one order only
  have hsame : ∀ o', o' ∈ w.db.orders.rows → dep.sameText o'.orderCode o.orderCode = true →
      o' = o := by
    intro o' ho' htext
    have hid : o'.id = o.id := by
      refine orderCodes_unique dep (s := o.orderCode) ?_ ?_
      · rw [← hcode o' ho', sameText_comm]
        exact htext
      · rw [← hcode o ho]
        exact decide_eq_true rfl
    have hfind' : w.db.orders.find o'.id = some o' := Table.find_of_mem ho'
    rw [hid] at hfind'
    exact Option.some.inj (hfind'.symm.trans (Table.find_of_mem ho))
  refine ⟨hevent, hcontent, ?_, ?_, htime, hunpaid, hamount⟩
  · cases hnamed : w.db.paymentIntents.findFirst fun i =>
        i.content.any fun c => dep.sameText c (orderCodeContent body) with
    | none =>
        have hnone := List.find?_eq_none.mp hnamed i hi
        rw [hasks.content, Option.any_some] at hnone
        exact absurd hdes hnone
    | some j =>
        obtain ⟨hj, hnames⟩ := Table.findFirst_eq_some hnamed
        obtain ⟨o', ho', hasks'⟩ := hinv.asks j hj
        rw [hasks'.content, Option.any_some] at hnames
        obtain rfl : o' = o := hsame o' ho' (sameText_trans dep hnames (by
          rw [sameText_comm]
          exact hdes))
        exact congrArg some (hinv.unique j hj i hi (hasks'.orderCode.trans hasks.orderCode.symm))
  · cases hplaced : w.db.orders.findFirst fun o => dep.sameText o.orderCode i.orderCode with
    | none =>
        have hnone := List.find?_eq_none.mp hplaced o ho
        rw [hasks.orderCode] at hnone
        exact absurd (decide_eq_true rfl) hnone
    | some o' =>
        obtain ⟨ho', htext⟩ := Table.findFirst_eq_some hplaced
        rw [hasks.orderCode] at htext
        exact congrArg some (hsame o' ho' htext)

/-! ### The webhook by itself -/

/-- Every statement is carried out. -/
def allDone : DeductionOutcomes :=
  ⟨.ok, .ok, .ok, .ok⟩

theorem allDone_of : allDone.of = fun _ => .ok := by
  funext s
  cases s with
  | updateOrderStatusById k status =>
      exact ite_self _
  | _ =>
      rfl

section Webhook

variable {orderId webHookId attempts : Nat} {orderCode : String} {key delivery : Int}
variable {variantMap : List (Nat × Int)}

/-- What a statement that sets columns of order `k` makes of the orders. -/
def setOrder (k : Nat) (f : Order → Order) (orders : Nat → Option Order) :
    Nat → Option Order :=
  Function.update orders k ((orders k).map f)

def paidOrder (o : Order) : Order :=
  { o with status := some .paid, paymentStatus := some .success }

theorem find_markOrder :
    (attempt (exec dep) .database (.markOrderAndPaymentSuccess orderId) .ok w).1.db.orders.find =
      setOrder orderId paidOrder w.db.orders.find := by
  funext k
  rw [setOrder, Function.update_apply]
  cases ho : w.db.orders.find orderId with
  | none =>
      simp only [attempt, exec, ho]
      split_ifs with hk
      · rw [hk, ho]
        rfl
      · rfl
  | some o =>
      simp only [attempt, exec, ho]
      rw [Table.find_update, ho]
      rfl

theorem find_updateStatus :
    (attempt (exec dep) .database (.updateOrderStatusById orderId .paid) .ok w).1.db.orders.find =
      setOrder orderId (fun o => { o with status := some .paid }) w.db.orders.find := by
  funext k
  rw [setOrder, Function.update_apply]
  cases ho : w.db.orders.find orderId with
  | none =>
      simp only [attempt, exec, ho]
      split_ifs with hk
      · rw [hk, ho]
        rfl
      · rfl
  | some o =>
      simp only [attempt, exec, ho]
      rw [Table.find_update, ho]

theorem find_marking {x : Except Failure Unit}
    (h : WebhookEnds dep allDone
      (promiseAll (markingStatements orderId webHookId attempts orderCode)) w w' x) :
    w'.db.orders.find = setOrder orderId paidOrder w.db.orders.find := by
  obtain ⟨l, hl, rfl⟩ := h.promiseAll_perm
  refine sendAll_part (fun w : World => w.db.orders.find) (fun w => find_markOrder)
    (fun s hs w => ?_) hl
  refine attempt_of_exec (P := fun w w' : World => w'.db.orders.find = w.db.orders.find)
    (fun _ => rfl) (fun w' r hexec => ?_) _
  rw [(exec_effects dep hexec).orders]
  rcases List.mem_cons.mp hs with rfl | hs
  · rfl
  · rw [List.mem_singleton.mp hs]
    rfl

/-- The statements of the deduction -/
theorem mem_deduction {s : Stmt}
    (hs : s ∈ (if variantMap = [] then []
      else [.decrementVariantsStock variantMap delivery orderId])) :
    variantMap ≠ [] ∧ s = .decrementVariantsStock variantMap delivery orderId := by
  split_ifs at hs with hitems
  · cases hs
  · exact ⟨hitems, List.mem_singleton.mp hs⟩

/-- The statements of the deduction do not fail while the order is there. -/
theorem updateOrderDone_answered {x : Except Failure Unit}
    (hmissing : missingQuantity variantMap = none)
    (horder : (w.db.orders.find orderId).isSome = true)
    (h : WebhookEnds dep allDone (updateOrderDone variantMap orderId delivery) w w' x) :
    x = .ok () := by
  unfold updateOrderDone at h
  rw [hmissing] at h
  refine h.promiseAll_answered (I := fun v => (v.db.orders.find orderId).isSome = true)
    (fun s hs v hv => ?_) horder
  rcases List.mem_append.mp hs with hs | hs
  · obtain ⟨-, rfl⟩ := mem_deduction hs
    exact ⟨_, _, rfl, hv⟩
  · rw [List.mem_singleton.mp hs, allDone_of]
    obtain ⟨o, ho⟩ := Option.isSome_iff_exists.mp hv
    simp only [attempt, exec, ho]
    refine ⟨_, _, rfl, ?_⟩
    rw [Table.find_update, if_pos rfl, ho]
    rfl

theorem find_updateOrderDone {x : Except Failure Unit}
    (hmissing : missingQuantity variantMap = none)
    (h : WebhookEnds dep allDone (updateOrderDone variantMap orderId delivery) w w' x) :
    w'.db.orders.find =
      setOrder orderId (fun o => { o with status := some .paid }) w.db.orders.find := by
  unfold updateOrderDone at h
  rw [hmissing] at h
  obtain ⟨l, hl, rfl⟩ := h.promiseAll_perm
  refine sendAll_part (fun w : World => w.db.orders.find) (fun w => ?_) (fun s hs w => ?_)
    (hl.trans List.perm_append_comm)
  · rw [allDone_of]
    exact find_updateStatus
  · obtain ⟨-, rfl⟩ := mem_deduction hs
    rfl

theorem columns_updateOrderDone {x : Except Failure Unit}
    (hmissing : missingQuantity variantMap = none)
    (h : WebhookEnds dep allDone (updateOrderDone variantMap orderId delivery) w w' x)
    (v : Nat) :
    w'.db.stock v =
        w.db.stock v - (if w.db.hasVariant v then mapQuantity variantMap v else 0) ∧
      w'.db.reserved v =
        w.db.reserved v - (if w.db.hasVariant v then mapQuantity variantMap v else 0) := by
  have hvariants : w'.db.variants = decrementVariantsStock variantMap w.db.variants ∨
      variantMap = [] ∧ w'.db.variants = w.db.variants := by
    by_cases hitems : variantMap = []
    · subst hitems
      refine .inr ⟨rfl, ?_⟩
      obtain ⟨l, hl, rfl⟩ := h.promiseAll_perm
      refine sendAll_keeps (Q := fun u : World => u.db.variants = w.db.variants)
        (fun s hs u hu => ?_) rfl
      rw [List.mem_singleton.mp (hl.mem_iff.mp hs)]
      exact (attempt_of_exec (P := fun u u' : World => u'.db.variants = u.db.variants)
        (fun _ => rfl) (fun u' r hexec => (exec_effects dep hexec).variants) _).trans hu
    · exact .inl (variants_updateOrderDone hmissing hitems h)
  rcases hvariants with hvariants | ⟨rfl, hvariants⟩
  · have hcolumns := columns_shiftVariants w.db w'.db hvariants v
    split_ifs at hcolumns ⊢ <;> omega
  · simp only [Database.stock, Database.reserved, hvariants]
    have hzero : mapQuantity [] v = 0 := rfl
    simp [hzero]

/-- The deduction answers, pays the order and takes its quantities out of the stock. -/
theorem ends_deductStock_done {x : Except Failure Unit}
    (hmissing : missingQuantity variantMap = none)
    (horder : (w.db.orders.find orderId).isSome = true)
    (h : WebhookEnds dep allDone (deductStock variantMap orderId delivery) w w' x) :
    x = .ok () ∧
      WebhookEnds dep allDone (updateOrderDone variantMap orderId delivery) w w' (.ok ()) := by
  rcases ends_tryCatch.mp h with ⟨⟨⟩, hdone, rfl⟩ | ⟨v, e, hfailed, -⟩
  · exact ⟨rfl, hdone⟩
  · cases updateOrderDone_answered hmissing horder hfailed

variable {body : SePayHooksDto} {outcomes : DeductionOutcomes}

/-- The state in which the webhook marks the payment. -/
structure Recorded (dep : Deployment) (body : SePayHooksDto) (i : PaymentIntent) (o : Order)
    (webHookId : Nat) (w u : World) : Prop where
  present : RowsPresent dep o.id webHookId i.orderCode body.id u
  orders : u.db.orders = w.db.orders
  variants : u.db.variants = w.db.variants
  variantMap : u.variantMap o = w.variantMap o

/-- A transfer that pays exactly is recorded and then marked. -/
theorem ends_exactPayment {x : Except Failure Answer}
    (hpays : PaysExactly dep body w i o)
    (h : WebhookEnds dep outcomes (handleSepayWebhook body) w w' x) :
    ∃ u webHookId attempts, Recorded dep body i o webHookId w u ∧
      WebhookEnds dep outcomes
        ((handleSepayWebhookMarkDone o.id webHookId attempts i.orderCode body.id).bind fun _ =>
          ret (.paymentAccepted body.id (orderCodeContent body) webHookId o.id o.orderCode .paid
            .success)) u w' x := by
  rw [handleSepayWebhook_eq, if_neg hpays.event] at h
  obtain ⟨v, row, hsaved, hv⟩ := exec_saved dep body w
  replace h := (ends_bind_await_of_done rfl hsaved).mp h
  have hpending : ¬ row.status = some .done := by
    rw [hv.pending]
    exact fun hdone => by cases hdone
  unfold handleSaved at h
  dsimp only at h
  rw [if_neg hpending, if_neg hpays.content] at h
  obtain ⟨inbox, hdb⟩ := hv.db
  have hfound : exec dep (.findByContent (orderCodeContent body)) v =
      .ok (v, some (i, some o)) := by
    simp only [exec, hdb, hpays.named, hpays.placed, Option.map_some]
  replace h := (ends_bind_await_of_done rfl hfound).mp h
  have hnow : exec dep (.newDate body) v =
      .ok ({ v with history.handled := v.history.handled ++ [(body, v.now)] }, v.now) := rfl
  replace h := (ends_bind_await_of_done rfl hnow).mp h
  have htime : ¬ i.expiredAt < v.now := by
    rw [hv.now]
    exact not_lt.mpr hpays.inTime
  simp only [if_neg htime, if_neg hpays.unpaid, if_neg (not_not.mpr hpays.amount)] at h
  have hrow : v.db.orders.find o.id = some o := by
    rw [hdb]
    exact Table.find_of_mem (Table.findFirst_eq_some hpays.placed).1
  let v' : World := { v with history.handled := v.history.handled ++ [(body, v.now)] }
  have hcreated : ∃ u t, exec dep (.createWebhookSepayTransaction body.transferAmount
      (some (o.id, o.userId)) .success body.id) v' = .ok (u, t) ∧
      (∃ t, t ∈ u.db.paymentTransactions.rows ∧ t.orderId = some o.id) ∧
      ∃ transactions, u.db = { v.db with paymentTransactions := transactions } := by
    simp only [exec, Option.all_some, hrow, v']
    exact ⟨_, _, rfl, ⟨_, List.mem_append_right _ (List.mem_singleton.mpr rfl), rfl⟩, _, rfl⟩
  obtain ⟨u, t, hexec, htransaction, transactions, hu⟩ := hcreated
  replace h := (ends_bind_await_of_done rfl hexec).mp h
  refine ⟨u, row.id, _, ⟨⟨?_, ?_, htransaction, ?_⟩, ?_, ?_, ?_⟩, h⟩
  · rw [hu]
    exact Option.isSome_iff_exists.mpr ⟨o, hrow⟩
  · rw [hu, hdb]
    exact ⟨i, (Table.findFirst_eq_some hpays.named).1, decide_eq_true rfl⟩
  · rw [hu]
    exact hv.inbox
  · rw [hu, hdb]
  · rw [hu, hdb]
  · rw [World.variantMap, hu, hdb]
    rfl

/-- Marking the payment and deducting the stock both end well. -/
theorem ends_markDone_done {x : Except Failure Unit}
    (hpresent : RowsPresent dep o.id webHookId orderCode key w)
    (hmissing : missingQuantity (w.variantMap o) = none)
    (h : WebhookEnds dep allDone
      (handleSepayWebhookMarkDone o.id webHookId attempts orderCode key) w w' x) :
    x = .ok () ∧ ∃ v,
      WebhookEnds dep allDone
        (promiseAll (markingStatements o.id webHookId attempts orderCode)) w v (.ok ()) ∧
      WebhookEnds dep allDone (updateOrderDone (w.variantMap o) o.id key) v w' (.ok ()) := by
  rcases ends_bind.mp h with ⟨v, ⟨⟩, hmark, hrest⟩ | ⟨e, hmark, -⟩
  · obtain ⟨-, hpresent', -, hframe⟩ := ends_marking hpresent hmark
    have hfound : exec dep (.findOrderItems o.id) v =
        .ok (v, some (v.db.itemQuantities o.id)) := by
      obtain ⟨row, hrow⟩ := Option.isSome_iff_exists.mp hpresent'.order
      simp only [exec, hrow, Option.map_some]
    have hdeduct : WebhookEnds dep allDone (deductStock (v.variantMap o) o.id key) v w' x :=
      (ends_bind_await_of_done rfl hfound).mp hrest
    rw [hframe.variantMap o] at hdeduct
    obtain ⟨hx, hdone⟩ := ends_deductStock_done hmissing hpresent'.order hdeduct
    exact ⟨hx, v, hmark, hdone⟩
  · cases (ends_marking hpresent hmark).1

/-- The order is settled: it is paid, the transactions, the intent and the delivery say so, and
its quantities have left the stock. -/
structure SettledPayment (dep : Deployment) (body : SePayHooksDto) (i : PaymentIntent) (o : Order)
    (webHookId : Nat) (w w' : World) : Prop where
  orders : w'.db.orders.find =
    Function.update w.db.orders.find o.id
      (some { o with status := some .paid, paymentStatus := some .success })
  present : RowsPresent dep o.id webHookId i.orderCode body.id w'
  marked : RowsMarked dep o.id webHookId i.orderCode w'
  stock : ∀ v, w'.db.stock v =
    w.db.stock v - (if w.db.hasVariant v then mapQuantity (w.variantMap o) v else 0)
  reserved : ∀ v, w'.db.reserved v =
    w.db.reserved v - (if w.db.hasVariant v then mapQuantity (w.variantMap o) v else 0)

/-- **The webhook** settles what is paid exactly. -/
theorem ends_settled {x : Except Failure Answer}
    (hpays : PaysExactly dep body w i o)
    (hmissing : missingQuantity (w.variantMap o) = none)
    (h : WebhookEnds dep allDone (handleSepayWebhook body) w w' x) :
    ∃ webHookId, x = .ok (.paymentAccepted body.id (orderCodeContent body) webHookId o.id
      o.orderCode .paid .success) ∧ SettledPayment dep body i o webHookId w w' := by
  obtain ⟨u, webHookId, attempts, hu, hrest⟩ := ends_exactPayment hpays h
  have hrow : u.db.orders.find o.id = some o := by
    rw [hu.orders]
    exact Table.find_of_mem (Table.findFirst_eq_some hpays.placed).1
  have hmissing' : missingQuantity (u.variantMap o) = none := by
    rw [hu.variantMap]
    exact hmissing
  rcases ends_bind.mp hrest with ⟨u', ⟨⟩, hdone, rfl, rfl⟩ | ⟨e, hdone, -⟩
  swap
  · cases (ends_markDone_done hu.present hmissing' hdone).1
  obtain ⟨-, v, hmark, hdeduct⟩ := ends_markDone_done hu.present hmissing' hdone
  obtain ⟨-, hpresent, hmarked, hframe⟩ := ends_marking hu.present hmark
  have hkept : DeductionFrame v w' := deduction_frame (ends_tryCatch.mpr (.inl ⟨(), hdeduct, rfl⟩))
  have hvariants : v.db.variants = w.db.variants := hframe.variants.trans hu.variants
  have hcolumns := columns_updateOrderDone hmissing' hdeduct
  simp only [hu.variantMap, Database.stock, Database.reserved, Database.hasVariant, hvariants]
    at hcolumns
  have hrow' : w.db.orders.find o.id = some o := hu.orders ▸ hrow
  have hfind : w'.db.orders.find = Function.update w.db.orders.find o.id
      (some { o with status := some .paid, paymentStatus := some .success }) := by
    rw [find_updateOrderDone hmissing' hdeduct, find_marking hmark, hu.orders]
    simp only [setOrder, Function.update_self, Function.update_idem, hrow', Option.map_some,
      paidOrder]
  refine ⟨webHookId, rfl, hfind, ⟨?_, ?_, ?_, ?_⟩, ⟨?_, ?_, ?_⟩, fun k => (hcolumns k).1,
    fun k => (hcolumns k).2⟩
  · rw [hfind, Function.update_self]
    rfl
  · rw [hkept.intents]
    exact hpresent.intent
  · rw [hkept.transactions]
    exact hpresent.transaction
  · rw [hkept.inbox]
    exact hpresent.inbox
  · rw [IntentsMarked, hkept.intents]
    exact hmarked.intents
  · rw [TransactionsMarked, hkept.transactions]
    exact hmarked.transactions
  · rw [DeliveryMarked, hkept.inbox]
    exact hmarked.delivery

end Webhook

variable (dep)

/--
In every state of a run an intent that is there belongs to an order.  Where the prices of its
variants (no request changes one) are whole and doubles hold the amounts, the total that the code
computes is the total of the order row, the QR code asks for it, and the first transfer that has
the amount and the description of the code and arrives in time is accepted when it is handled by
itself: it settles this order, and no other.
-/
theorem qr_settles
    {c : ServerState} {as : List (Action Event)}
    (hw : Fresh w)
    (hrun : runs (server dep).step ⟨w, []⟩ as = some c) :
    ∀ i, i ∈ c.world.db.paymentIntents.rows → ∃ o, o ∈ c.world.db.orders.rows ∧
      i.orderCode = o.orderCode ∧
      (WholeTotal (priceIn w) o.requested →
        (∀ d, some (totalInDoubles d (priceIn w) o.requested) = o.totalAmount) ∧
        AsksFor dep i o ∧
        ∀ body, AnswersQr dep body i c.world →
          missingQuantity (c.world.variantMap o) = none →
          (∃ w' x, (handleSepayWebhook body).Yields (exec dep) .database c.world w' x) ∧
          ∀ w' x, (handleSepayWebhook body).Yields (exec dep) .database c.world w' x →
            ∃ webHookId, x = .ok (.paymentAccepted body.id (orderCodeContent body) webHookId o.id
              o.orderCode .paid .success) ∧
              SettledPayment dep body i o webHookId c.world w') := by
  intro i hi
  have hinv : QrInv dep (priceIn w) c.world := qr_runs hw hrun
  obtain ⟨o, ho, hasks⟩ := hinv.asks i hi
  refine ⟨o, ho, hasks.orderCode, fun hwhole => ⟨fun d => ?_, hasks,
    fun body hanswers hmissing => ⟨?_, fun w' x hyields => ?_⟩⟩⟩
  · rw [hinv.total o ho, totalInDoubles_eq d hwhole]
  · obtain ⟨w', x, hends⟩ := exists_ends live_handleSepayWebhook c.world
    exact ⟨w', x, yields_iff_ends.mpr hends⟩
  · have hpays : PaysExactly dep body c.world i o := hanswers.pays hinv hi ho hasks
    have hends := yields_iff_ends.mp hyields
    rw [← allDone_of] at hends
    exact ends_settled hpays hmissing hends

/-- An order of one copy is placed, and its job has run. -/
def placedUnpaid : List (Action Event) :=
  .env (.arrive (sampleGuest .sepay 1)) :: steps 0 6 ++ .env (.startJob 0) :: steps 1 4

set_option maxRecDepth 4000 in
theorem qr_settles_placedUnpaid :
    ∃ c, runs (server sampleDeployment).step ⟨sampleWorld 10, []⟩ placedUnpaid = some c ∧
      ∃ i o w' webHookId, i ∈ c.world.db.paymentIntents.rows ∧ AsksFor sampleDeployment i o ∧
        SettledPayment sampleDeployment exactTransfer i o webHookId c.world w' := by
  obtain ⟨c, hrun, hany⟩ := (Option.any_eq_true
    (fun c : ServerState =>
      (c.world.db.paymentIntents.rows.any fun i =>
        (i.paymentUrl.any fun url =>
          sampleDeployment.sameText url.des (orderCodeContent exactTransfer) &&
            decide (exactTransfer.transferAmount = url.amount)) &&
          (decide (c.world.now ≤ i.expiredAt) && decide (i.status ≠ some .success))) &&
        c.world.db.orders.rows.all fun o =>
          (missingQuantity (c.world.variantMap o)).isNone &&
            decide (WholeTotal (priceIn (sampleWorld 10)) o.requested)) _).mp
    (by decide +kernel : (runs (server sampleDeployment).step ⟨sampleWorld 10, []⟩
      placedUnpaid).any _ = true)
  obtain ⟨hintent, horders⟩ := Bool.and_eq_true_iff.mp hany
  obtain ⟨i, hi, hurl⟩ := List.any_eq_true.mp hintent
  simp only [Bool.and_eq_true, decide_eq_true_eq] at hurl
  obtain ⟨o, ho, -, hsettles⟩ := qr_settles sampleDeployment (sampleWorld_fresh 10) hrun i hi
  obtain ⟨hnone, hwhole⟩ := Bool.and_eq_true_iff.mp (List.all_eq_true.mp horders o ho)
  obtain ⟨-, hasks, hsettles⟩ := hsettles (of_decide_eq_true hwhole)
  have hanswers : AnswersQr sampleDeployment exactTransfer i c.world := by
    refine ⟨by decide, by decide +kernel, ?_, hurl.2.1, hurl.2.2⟩
    simpa only [Bool.and_eq_true, decide_eq_true_eq] using hurl.1
  obtain ⟨⟨w', x, hyields⟩, hall⟩ :=
    hsettles exactTransfer hanswers (Option.isNone_iff_eq_none.mp hnone)
  obtain ⟨webHookId, -, hsettled⟩ := hall w' x hyields
  exact ⟨c, hrun, i, o, w', webHookId, hi, hasks, hsettled⟩

end BookStore
