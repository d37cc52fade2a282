import BookStore.Inventory
import BookStore.Maps
import BookStore.Sql
import BookStore.Text
import BookStore.Traversals

/-!
# The statements that change the stock

`updateReservedByIds` of `BookVariantRepository`, `decrementVariantsStock` and
`incrementVariantsStock` of `OrderRepository`, as the SQL that they generate.

* `updateReservedByIds_reserves`: a reservation keeps within the stock.
* `increment_decrement`: increment and decrement undo one another.

`run_updateReservedByIds` and `run_shiftVariants` say that on the table the statements do
what the model of the server takes them to do.
-/

namespace BookStore
namespace VariantSql

open Sql

/-- The columns that the statements read or write. -/
inductive VariantColumn
  | id
  | stock
  | reserved
  deriving DecidableEq

def variantLayout : Layout BookVariant VariantColumn where
  get := fun r c =>
    match c with
    | .id => some r.id
    | .stock => some r.stock
    | .reserved => some r.reserved
  put := fun r c n =>
    match c with
    | .id => { r with id := n.toNat }
    | .stock => { r with stock := n }
    | .reserved => { r with reserved := n }

/-- The values of an `INTEGER` column -/
def fitsInteger (n : Int) : Bool :=
  decide (-2147483648 ≤ n) && decide (n ≤ 2147483647)

/-- Why a statement is not executed. -/
inductive StatementError
  /-- `throw new Error(message)` -/
  | error (message : String)
  /-- `Prisma.join([])` -/
  | emptyJoin
  | database
  deriving DecidableEq

/-- A generated statement, or none, is executed. -/
def execute (statement : Except StatementError (Option (Update VariantColumn)))
    (rows : List BookVariant) : Except StatementError (List BookVariant) :=
  match statement with
  | .error e => .error e
  | .ok none => .ok rows
  | .ok (some u) =>
      match u.run variantLayout fitsInteger rows with
      | some rows' => .ok rows'
      | none => .error .database

/-! ### `updateReservedByIds` -/

/-- `CASE WHEN (stock - reserved) >= quantity THEN quantity ELSE 0 END` -/
def reserveCase (quantity : Int) : Expr VariantColumn :=
  .whenGe (.sub (.column .stock) (.column .reserved)) (.int quantity) (.int quantity) (.int 0)

def reservedUpdate (payload : List CheckoutItemDto) : Update VariantColumn where
  assignments :=
    [(.reserved, .add (.column .reserved)
      (simpleCase (.column .id)
        (payload.map fun p => (.int p.bookVariantId, reserveCase p.quantity)) .null))]
  column := .id
  keys := payload.map fun p => (p.bookVariantId : Int)

def updateReservedByIds (payload : List CheckoutItemDto) :
    Except StatementError (Option (Update VariantColumn)) :=
  if payload = [] then .error .emptyJoin else .ok (some (reservedUpdate payload))

variable {payload : List CheckoutItemDto} {r r' : BookVariant} {rows rows' : List BookVariant}

theorem eval_reserveCase (quantity : Int) :
    eval (variantLayout.get r) (reserveCase quantity) =
      some (if r.stock - r.reserved ≥ quantity then quantity else 0) := by
  have hfree : eval (variantLayout.get r) (.sub (.column .stock) (.column .reserved)) =
      some (r.stock - r.reserved) := rfl
  rw [reserveCase, eval_whenGe hfree rfl]
  split_ifs <;> rfl

/-- What the statement makes of a row. -/
theorem row_reservedUpdate (hfits : fitsInteger (r.reserved + granted payload r) = true) :
    (reservedUpdate payload).row variantLayout fitsInteger r =
      some { r with reserved := r.reserved + granted payload r } := by
  have hid : eval (variantLayout.get r) (.column .id) = some (r.id : Int) := rfl
  have hcase := eval_simpleCase .null hid (fun p : CheckoutItemDto => (p.bookVariantId : Int))
    (fun p => reserveCase p.quantity) payload
  simp only [Nat.cast_inj] at hcase
  unfold granted at hfits ⊢
  cases hfind : payload.find? fun p => decide (p.bookVariantId = r.id) with
  | none =>
      rw [Update.row_of_not_hits]
      · simp
      · have hnone : r.id ∉ payload.map (·.bookVariantId) := by
          simpa using List.find?_eq_none.mp hfind
        simpa [Update.hits, reservedUpdate, variantLayout] using hnone
  | some p =>
      rw [hfind, Option.map_some, Option.getD_some, eval_reserveCase] at hcase
      rw [hfind] at hfits
      have hid : p.bookVariantId = r.id := by
        simpa using List.find?_some hfind
      rw [Update.row_of_hits]
      · have hreserved : eval (variantLayout.get r) (.column .reserved) = some r.reserved := rfl
        rw [reservedUpdate, List.foldlM_cons, assign_of_eval _ (eval_add hreserved hcase),
          if_pos hfits]
        rfl
      · have hsome : r.id ∈ payload.map (·.bookVariantId) :=
          List.mem_map.mpr ⟨p, List.mem_of_find?_eq_some hfind, hid⟩
        simpa [Update.hits, reservedUpdate, variantLayout] using hsome

theorem granted_of_find {p : CheckoutItemDto}
    (hfind : payload.find? (fun p => decide (p.bookVariantId = r.id)) = some p) :
    granted payload r = if r.stock - r.reserved ≥ p.quantity then p.quantity else 0 := by
  rw [granted, hfind]

/-- No more is granted than there is. -/
theorem granted_bounds
    (hquantity : ∀ p, p ∈ payload → 0 ≤ p.quantity)
    (hrow : r.reserved ≤ r.stock) :
    0 ≤ granted payload r ∧ r.reserved + granted payload r ≤ r.stock := by
  cases hfind : payload.find? fun p => decide (p.bookVariantId = r.id) with
  | none =>
      have hzero : granted payload r = 0 := by
        rw [granted, hfind]
      omega
  | some p =>
      have hp := hquantity p (List.mem_of_find?_eq_some hfind)
      rw [granted_of_find hfind]
      split_ifs <;> omega

/-- What the reservation makes of a row. -/
structure Reserved (payload : List CheckoutItemDto) (r r' : BookVariant) : Prop where
  bounds : 0 ≤ r'.reserved ∧ r'.reserved ≤ r'.stock
  otherColumns : r' = { r with reserved := r'.reserved }
  unlisted : (∀ p, p ∈ payload → p.bookVariantId ≠ r.id) → r' = r
  listed : ∀ before p after, payload = before ++ p :: after → p.bookVariantId = r.id →
    (∀ q, q ∈ before → q.bookVariantId ≠ r.id) →
    r'.reserved = r.reserved + if r.stock - r.reserved ≥ p.quantity then p.quantity else 0

theorem reserved_granted
    (hquantity : ∀ p, p ∈ payload → 0 ≤ p.quantity)
    (hrow : 0 ≤ r.reserved ∧ r.reserved ≤ r.stock) :
    Reserved payload r { r with reserved := r.reserved + granted payload r } := by
  obtain ⟨hgranted, hbound⟩ := granted_bounds hquantity hrow.2
  refine ⟨⟨by dsimp only; omega, hbound⟩, rfl, fun hunlisted => ?_,
    fun before p after hpayload hp hbefore => ?_⟩
  · have hnone : granted payload r = 0 := by
      refine granted_of_not_listed (List.any_eq_false.mpr fun p hp => ?_)
      simpa using hunlisted p hp
    rw [hnone, Int.add_zero]
  · refine congrArg (r.reserved + ·) (granted_of_find ?_)
    rw [List.find?_eq_some_iff_append]
    exact ⟨by simpa using hp, before, after, hpayload, fun q hq => by simpa using hbefore q hq⟩

/-- The rows that the statement leaves. -/
theorem run_reservedUpdate
    (hquantity : ∀ p, p ∈ payload → 0 ≤ p.quantity)
    (hrows : ∀ r, r ∈ rows → 0 ≤ r.reserved ∧ r.reserved ≤ r.stock)
    (hstored : ∀ r, r ∈ rows → fitsInteger r.stock = true) :
    (reservedUpdate payload).run variantLayout fitsInteger rows =
      some (rows.map fun r => { r with reserved := r.reserved + granted payload r }) := by
  refine mapM_eq_some_iff.mpr (List.forall₂_map_right_iff.mpr (List.forall₂_same.mpr
    fun r hr => row_reservedUpdate ?_))
  obtain ⟨hgranted, hbound⟩ := granted_bounds hquantity (hrows r hr).2
  have hreserved := (hrows r hr).1
  have hstock := hstored r hr
  simp only [fitsInteger, Bool.and_eq_true, decide_eq_true_eq] at hstock ⊢
  omega

/-- On a table the generated statement does what the server's model takes it to do. -/
theorem run_updateReservedByIds
    {t : Table BookVariant}
    (hquantity : ∀ p, p ∈ payload → 0 ≤ p.quantity)
    (hrows : ∀ r, r ∈ t.rows → 0 ≤ r.reserved ∧ r.reserved ≤ r.stock)
    (hstored : ∀ r, r ∈ t.rows → fitsInteger r.stock = true) :
    (reservedUpdate payload).run variantLayout fitsInteger t.rows =
      some (BookStore.updateReservedByIds payload t).rows := by
  rw [run_reservedUpdate hquantity hrows hstored, rows_updateReservedByIds]
  exact congrArg some (List.map_congr_left fun r _ => by simp [BookVariant.add])

/--
On rows with `0 ≤ reserved ≤ stock` the statement reserves for each row the quantity of its
first item, if so much is free, and changes nothing else.
-/
theorem updateReservedByIds_reserves
    (hne : payload ≠ [])
    (hquantity : ∀ p, p ∈ payload → 0 ≤ p.quantity)
    (hrows : ∀ r, r ∈ rows → 0 ≤ r.reserved ∧ r.reserved ≤ r.stock)
    (hstored : ∀ r, r ∈ rows → fitsInteger r.stock = true) :
    ∃ rows', execute (updateReservedByIds payload) rows = .ok rows' ∧
      List.Forall₂ (Reserved payload) rows rows' := by
  refine ⟨_, ?_, List.forall₂_map_right_iff.mpr (List.forall₂_same.mpr fun r hr =>
    reserved_granted hquantity (hrows r hr))⟩
  rw [updateReservedByIds, if_neg hne]
  simp only [execute, run_reservedUpdate hquantity hrows hstored]

/-- Two variants in stock -/
def sampleVariants : List BookVariant :=
  [⟨1, 1, .paperback, "1", some 10, 5, 5, true, 2, 1⟩,
    ⟨2, 1, .hardcover, "2", some 20, 3, 3, true, 0, 1⟩]

/-- The first item of a variant counts; an unknown variant does not matter. -/
theorem updateReservedByIds_reserves_twoItems :
    ∃ rows', execute (updateReservedByIds [⟨1, 3⟩, ⟨1, 1⟩, ⟨9, 1⟩]) sampleVariants = .ok rows' ∧
      List.Forall₂ (Reserved [⟨1, 3⟩, ⟨1, 1⟩, ⟨9, 1⟩]) sampleVariants rows' :=
  updateReservedByIds_reserves (by decide) (by decide) (by decide) (by decide)

/-! ### `decrementVariantsStock` and `incrementVariantsStock` -/

/-- `Number(v)` of a decimal numeral -/
def idNumber (v : String) : Nat :=
  Nat.ofDigitChars 10 v.toList 0

/-- A branch of one of the `CASE` expressions; a quantity of 0 counts as missing. -/
def quantityCase
    (op : Expr VariantColumn → Expr VariantColumn → Expr VariantColumn) (c : VariantColumn)
    (variantMap : List (String × Int)) (v : String) :
    Except StatementError (Expr VariantColumn × Expr VariantColumn) :=
  match (JsMap.get variantMap v).filter fun quantity => decide (quantity ≠ 0) with
  | none => .error (.error ("Missing quantity for variant id " ++ v))
  | some quantity => .ok (.int (idNumber v), op (.column c) (.int quantity))

/-- `stock` and `reserved` of the listed rows are changed by `op`. -/
def shiftUpdate
    (ids : List Nat)
    (stockCases reservedCases : List (Expr VariantColumn × Expr VariantColumn)) :
    Update VariantColumn where
  assignments :=
    [(.stock, simpleCase (.column .id) stockCases (.column .stock)),
      (.reserved, simpleCase (.column .id) reservedCases (.column .reserved))]
  column := .id
  keys := ids.map fun id : Nat => (id : Int)

def shiftVariantsStock
    (op : Expr VariantColumn → Expr VariantColumn → Expr VariantColumn)
    (variantKeys : List String) (variantMap : List (String × Int)) :
    Except StatementError (Option (Update VariantColumn)) :=
  if variantKeys = [] then .ok none
  else do
    let stockCases ← variantKeys.mapM (quantityCase op .stock variantMap)
    let reservedCases ← variantKeys.mapM (quantityCase op .reserved variantMap)
    .ok (some (shiftUpdate (variantKeys.map idNumber) stockCases reservedCases))

def decrementVariantsStock (variantKeys : List String) (variantMap : List (String × Int)) :
    Except StatementError (Option (Update VariantColumn)) :=
  shiftVariantsStock .sub variantKeys variantMap

def incrementVariantsStock (variantKeys : List String) (variantMap : List (String × Int)) :
    Except StatementError (Option (Update VariantColumn)) :=
  shiftVariantsStock .add variantKeys variantMap

/-- A map from variant ids to quantities -/
structure VariantMap where
  entries : List (Nat × Int)
  nodup : (entries.map Prod.fst).Nodup

/-- The map as the services build it; its keys are `id.toString()`. -/
def VariantMap.js (m : VariantMap) : List (String × Int) :=
  m.entries.map fun e => (toString e.1, e.2)

/-- `[...variantMap.keys()]` -/
def VariantMap.keys (m : VariantMap) : List String :=
  m.js.map Prod.fst

theorem idNumber_toString (n : Nat) : idNumber (toString n) = n := by
  rw [idNumber, toList_toString, natText, Nat.ofDigitChars_ten_toDigits]

theorem toString_injective : Function.Injective (toString : Nat → String) := by
  intro m n h
  rw [← idNumber_toString m, h, idNumber_toString]

variable {m : VariantMap} {k : Int} {c : VariantColumn}
variable {op : Expr VariantColumn → Expr VariantColumn → Expr VariantColumn}

theorem keys_eq (m : VariantMap) : m.keys = m.entries.map fun e => toString e.1 := by
  simp [VariantMap.keys, VariantMap.js]

theorem get_js {e : Nat × Int} (he : e ∈ m.entries) :
    JsMap.get m.js (toString e.1) = some e.2 := by
  have hnodup : (m.js.map Prod.fst).Nodup := by
    have := m.nodup.map toString_injective
    rw [List.map_map] at this
    simpa [VariantMap.js, Function.comp_def] using this
  exact (JsMap.get_eq_some_iff hnodup).mpr (List.mem_map.mpr ⟨e, he, rfl⟩)

theorem quantity_eq {e : Nat × Int} (he : e ∈ m.entries) :
    mapQuantity m.entries e.1 = e.2 := by
  have hget : JsMap.get m.entries e.1 = some e.2 := (JsMap.get_eq_some_iff m.nodup).mpr he
  rw [mapQuantity, show mapGet m.entries e.1 = JsMap.get m.entries e.1 from rfl, hget]
  rfl

/-- The branches of a map without a quantity of 0 -/
def shiftCases
    (op : Expr VariantColumn → Expr VariantColumn → Expr VariantColumn) (c : VariantColumn)
    (m : VariantMap) : List (Expr VariantColumn × Expr VariantColumn) :=
  m.entries.map fun e => (.int (e.1 : Int), op (.column c) (.int e.2))

theorem quantityCase_eq {e : Nat × Int} (he : e ∈ m.entries) (hquantity : e.2 ≠ 0) :
    quantityCase op c m.js (toString e.1) = .ok (.int e.1, op (.column c) (.int e.2)) := by
  simp only [quantityCase, get_js he, Option.filter_some, decide_eq_true hquantity, if_true,
    idNumber_toString]

theorem quantityCase_zero {e : Nat × Int} (he : e ∈ m.entries) (hquantity : e.2 = 0) :
    quantityCase op c m.js (toString e.1) =
      .error (.error ("Missing quantity for variant id " ++ toString e.1)) := by
  simp only [quantityCase, get_js he, Option.filter_some, hquantity, ne_eq, not_true_eq_false,
    decide_false, Bool.false_eq_true, if_false]

theorem mapM_quantityCase (hm : ∀ e, e ∈ m.entries → e.2 ≠ 0) :
    m.keys.mapM (quantityCase op c m.js) = .ok (shiftCases op c m) := by
  have hall : ∀ l : List (Nat × Int), (∀ e, e ∈ l → e ∈ m.entries) →
      (l.map fun e => toString e.1).mapM (quantityCase op c m.js) =
        .ok (l.map fun e => (.int (e.1 : Int), op (.column c) (.int e.2))) := by
    intro l hl
    induction l with
    | nil =>
        rfl
    | cons e l ih =>
        have he := hl e List.mem_cons_self
        rw [List.map_cons, List.mapM_cons, quantityCase_eq he (hm e he),
          ih fun e he => hl e (List.mem_cons_of_mem _ he)]
        rfl
  rw [keys_eq]
  exact hall m.entries fun e he => he

theorem quantityCase_error {variantMap : List (String × Int)} {v : String} {e : StatementError}
    (h : quantityCase op c variantMap v = .error e) :
    ∃ message, e = .error message := by
  unfold quantityCase at h
  split at h <;> cases h
  exact ⟨_, rfl⟩

/-- A quantity of 0 is refused before a statement is generated. -/
theorem shiftVariantsStock_zero (hzero : ∃ e, e ∈ m.entries ∧ e.2 = 0) :
    ∃ message, shiftVariantsStock op m.keys m.js = .error (.error message) := by
  obtain ⟨e, he, hquantity⟩ := hzero
  have hkey : toString e.1 ∈ m.keys := by
    rw [keys_eq]
    exact List.mem_map_of_mem he
  rw [shiftVariantsStock, if_neg (List.ne_nil_of_mem hkey)]
  cases hcases : m.keys.mapM (quantityCase op .stock m.js) with
  | error er =>
      obtain ⟨v, -, hv⟩ := mapM_error hcases
      obtain ⟨message, rfl⟩ := quantityCase_error hv
      exact ⟨message, rfl⟩
  | ok cases =>
      obtain ⟨branch, -, hbranch⟩ := exists_of_forall₂ (forall₂_mapM_ok hcases) hkey
      rw [quantityCase_zero he hquantity] at hbranch
      cases hbranch

/-- The statement of a map without a quantity of 0 -/
theorem shiftVariantsStock_eq
    (hm : ∀ e, e ∈ m.entries → e.2 ≠ 0) :
    shiftVariantsStock op m.keys m.js =
      if m.entries = [] then .ok none
      else .ok (some (shiftUpdate (m.entries.map Prod.fst) (shiftCases op .stock m)
        (shiftCases op .reserved m))) := by
  have hkeys : m.keys = [] ↔ m.entries = [] := by
    rw [keys_eq, List.map_eq_nil_iff]
  have hids : m.keys.map idNumber = m.entries.map Prod.fst := by
    rw [keys_eq, List.map_map]
    exact List.map_congr_left fun e _ => idNumber_toString e.1
  rw [shiftVariantsStock, mapM_quantityCase hm, mapM_quantityCase hm, hids]
  simp only [hkeys]
  rfl

/-- `op` adds `k` times its second argument. -/
def Adds (op : Expr VariantColumn → Expr VariantColumn → Expr VariantColumn) (k : Int) : Prop :=
  ∀ row a b x y, eval row a = some x → eval row b = some y → eval row (op a b) = some (x + k * y)

theorem adds_sub : Adds .sub (-1) := by
  intro row a b x y ha hb
  rw [eval_sub ha hb]
  congr 1
  omega

theorem adds_add : Adds .add 1 := by
  intro row a b x y ha hb
  rw [eval_add ha hb, Int.one_mul]

theorem mapQuantity_of_find {e : Option (Nat × Int)} {id : Nat}
    (h : m.entries.find? (fun e => decide (e.1 = id)) = e) :
    mapQuantity m.entries id = (e.map Prod.snd).getD 0 := by
  rw [mapQuantity, mapGet, h]

/-- A `CASE` on a row -/
theorem eval_shiftCases
    (hop : Adds op k) {x : Int}
    (hc : variantLayout.get r c = some x) :
    eval (variantLayout.get r) (simpleCase (.column .id) (shiftCases op c m) (.column c)) =
      some (x + k * mapQuantity m.entries r.id) := by
  have hid : eval (variantLayout.get r) (.column .id) = some (r.id : Int) := rfl
  have hcase := eval_simpleCase (.column c) hid (fun e : Nat × Int => (e.1 : Int))
    (fun e => op (.column c) (.int e.2)) m.entries
  simp only [Nat.cast_inj] at hcase
  rw [shiftCases, hcase]
  cases hfind : m.entries.find? fun e => decide (e.1 = r.id) with
  | none =>
      rw [mapQuantity_of_find hfind]
      change variantLayout.get r c = some (x + k * 0)
      rw [hc, Int.mul_zero, Int.add_zero]
  | some e =>
      rw [mapQuantity_of_find hfind]
      exact hop _ _ _ _ _ hc rfl

theorem hits_shiftUpdate
    {ids : List Nat} {stockCases reservedCases : List (Expr VariantColumn × Expr VariantColumn)} :
    (shiftUpdate ids stockCases reservedCases).hits variantLayout r = decide (r.id ∈ ids) := by
  change decide ((r.id : Int) ∈ ids.map fun id : Nat => (id : Int)) = _
  rw [decide_eq_decide, List.mem_map]
  constructor
  · rintro ⟨id, hid, hcast⟩
    rwa [← Int.ofNat_inj.mp hcast]
  · exact fun hid => ⟨r.id, hid, rfl⟩

/-- What the statement makes of a row. -/
theorem row_shiftUpdate
    (hop : Adds op k)
    (h : (shiftUpdate (m.entries.map Prod.fst) (shiftCases op .stock m)
      (shiftCases op .reserved m)).row variantLayout fitsInteger r = some r') :
    r' = r.add (k * mapQuantity m.entries r.id) (k * mapQuantity m.entries r.id) := by
  cases hfind : m.entries.find? fun e => decide (e.1 = r.id) with
  | none =>
      have hnone : r.id ∉ m.entries.map Prod.fst := by
        rintro hmem
        obtain ⟨e, he, hid⟩ := List.mem_map.mp hmem
        exact List.find?_eq_none.mp hfind e he (decide_eq_true hid)
      rw [Update.row_of_not_hits (hits_shiftUpdate.trans (decide_eq_false hnone)),
        Option.some.injEq] at h
      rw [mapQuantity_of_find hfind, ← h]
      simp
  | some e =>
      have hsome : r.id ∈ m.entries.map Prod.fst :=
        List.mem_map.mpr ⟨e, List.mem_of_find?_eq_some hfind, by simpa using List.find?_some hfind⟩
      rw [Update.row_of_hits (hits_shiftUpdate.trans (decide_eq_true hsome))] at h
      have hstock := eval_shiftCases (m := m) (r := r) (c := .stock) hop rfl
      rw [shiftUpdate, List.foldlM_cons, assign_of_eval _ hstock] at h
      split at h
      · -- the second assignment finds the new stock and the old `reserved`
        have hreserved := eval_shiftCases (m := m) (c := .reserved)
          (r := variantLayout.put r .stock (r.stock + k * mapQuantity m.entries r.id)) hop rfl
        have hrest := assign_of_eval (c := .reserved) fitsInteger hreserved
        simp only [Option.bind_eq_bind, Option.bind_some, List.foldlM_cons, hrest] at h
        split at h
        · exact (Option.some.inj h).symm
        · cases h
      · cases h

/-- What a shift makes of a row. -/
structure Shifted (k : Int) (m : VariantMap) (r r' : BookVariant) : Prop where
  listed : ∀ quantity, (r.id, quantity) ∈ m.entries →
    r' = { r with stock := r.stock + k * quantity, reserved := r.reserved + k * quantity }
  unlisted : (∀ quantity, (r.id, quantity) ∉ m.entries) → r' = r

theorem shifted_add (m : VariantMap) (k : Int) (r : BookVariant) :
    Shifted k m r (r.add (k * mapQuantity m.entries r.id) (k * mapQuantity m.entries r.id)) := by
  constructor
  · intro quantity hmem
    rw [quantity_eq hmem]
    rfl
  · intro hnone
    have hfind : m.entries.find? (fun e => decide (e.1 = r.id)) = none := by
      refine List.find?_eq_none.mpr fun e he hid => hnone e.2 ?_
      rw [← show e.1 = r.id by simpa using hid]
      exact he
    rw [mapQuantity_of_find hfind]
    simp

/-- The rows that an executed shift leaves. -/
theorem execute_shiftVariantsStock
    (hop : Adds op k)
    (h : execute (shiftVariantsStock op m.keys m.js) rows = .ok rows') :
    rows' = rows.map fun r =>
      r.add (k * mapQuantity m.entries r.id) (k * mapQuantity m.entries r.id) := by
  by_cases hzero : ∃ e, e ∈ m.entries ∧ e.2 = 0
  · have hthrown : ∃ message, shiftVariantsStock op m.keys m.js = .error (.error message) :=
      shiftVariantsStock_zero hzero
    obtain ⟨message, herror⟩ := hthrown
    rw [herror] at h
    cases h
  · rw [shiftVariantsStock_eq fun e he hquantity => hzero ⟨e, he, hquantity⟩] at h
    split at h
    · rename_i hempty
      cases h
      simp [hempty, mapQuantity, mapGet]
    · simp only [execute] at h
      split at h
      · rename_i hrun
        cases h
        have hrows := map_eq_of_forall₂ (g := id) (forall₂_mapM hrun)
          fun r r' hr => row_shiftUpdate hop hr
        rwa [List.map_id] at hrows
      · cases h

/-- On a table the generated statements do what the server's model takes them to do. -/
theorem run_shiftVariants
    {t : Table BookVariant}
    (hop : Adds op k)
    (h : execute (shiftVariantsStock op m.keys m.js) t.rows = .ok rows') :
    rows' = (shiftVariants k k m.entries t).rows := by
  rw [execute_shiftVariantsStock hop h, rows_shiftVariants]

theorem forall₂_shifted
    (hop : Adds op k)
    (h : execute (shiftVariantsStock op m.keys m.js) rows = .ok rows') :
    List.Forall₂ (Shifted k m) rows rows' := by
  rw [execute_shiftVariantsStock hop h]
  exact List.forall₂_map_right_iff.mpr (List.forall₂_same.mpr fun r _ => shifted_add m k r)

/-- A shift and the opposite one -/
theorem execute_undo
    {op' : Expr VariantColumn → Expr VariantColumn → Expr VariantColumn}
    {rows₁ rows₂ : List BookVariant}
    (hop : Adds op k) (hop' : Adds op' (-k))
    (h : execute (shiftVariantsStock op m.keys m.js) rows = .ok rows₁)
    (h' : execute (shiftVariantsStock op' m.keys m.js) rows₁ = .ok rows₂) :
    rows₂ = rows := by
  rw [execute_shiftVariantsStock hop' h', execute_shiftVariantsStock hop h, List.map_map]
  refine (List.map_congr_left fun r _ => ?_).trans (List.map_id rows)
  simp [Function.comp, BookVariant.add_add]

/-- The statements of a map without a quantity of 0 are generated. -/
theorem isOk_shiftVariantsStock (hm : ∀ e, e ∈ m.entries → e.2 ≠ 0) :
    ∃ statement, shiftVariantsStock op m.keys m.js = .ok statement := by
  rw [shiftVariantsStock_eq hm]
  split_ifs
  · exact ⟨_, rfl⟩
  · exact ⟨_, rfl⟩

/--
The increment undoes the decrement and the decrement the increment; each of them changes
`stock` and `reserved` of the listed rows by the quantity and nothing else; a quantity of 0
makes both throw, and no other does.
-/
theorem increment_decrement (m : VariantMap) (rows : List BookVariant) :
    (∀ rows₁ rows₂, execute (decrementVariantsStock m.keys m.js) rows = .ok rows₁ →
        execute (incrementVariantsStock m.keys m.js) rows₁ = .ok rows₂ → rows₂ = rows) ∧
      (∀ rows₁ rows₂, execute (incrementVariantsStock m.keys m.js) rows = .ok rows₁ →
        execute (decrementVariantsStock m.keys m.js) rows₁ = .ok rows₂ → rows₂ = rows) ∧
      (∀ rows', execute (decrementVariantsStock m.keys m.js) rows = .ok rows' →
        List.Forall₂ (Shifted (-1) m) rows rows') ∧
      (∀ rows', execute (incrementVariantsStock m.keys m.js) rows = .ok rows' →
        List.Forall₂ (Shifted 1 m) rows rows') ∧
      ((∃ e, e ∈ m.entries ∧ e.2 = 0) →
        (∃ message, decrementVariantsStock m.keys m.js = .error (.error message)) ∧
          ∃ message, incrementVariantsStock m.keys m.js = .error (.error message)) ∧
      ((∀ e, e ∈ m.entries → e.2 ≠ 0) →
        (∃ statement, decrementVariantsStock m.keys m.js = .ok statement) ∧
          ∃ statement, incrementVariantsStock m.keys m.js = .ok statement) :=
  ⟨fun _ _ h h' => execute_undo adds_sub adds_add h h',
    fun _ _ h h' => execute_undo adds_add adds_sub h h',
    fun _ h => forall₂_shifted adds_sub h,
    fun _ h => forall₂_shifted adds_add h,
    fun hzero => ⟨shiftVariantsStock_zero hzero, shiftVariantsStock_zero hzero⟩,
    fun hm => ⟨isOk_shiftVariantsStock hm, isOk_shiftVariantsStock hm⟩⟩

theorem nodup_sampleVariantMap : (([(1, 2), (9, 1)] : List (Nat × Int)).map Prod.fst).Nodup := by
  decide

/-- One listed variant, and one that is not in the table -/
def sampleVariantMap : VariantMap :=
  ⟨[(1, 2), (9, 1)], nodup_sampleVariantMap⟩

theorem increment_decrement_twoVariants :
    ∃ rows₁ rows₂,
      execute (decrementVariantsStock sampleVariantMap.keys sampleVariantMap.js) sampleVariants =
        .ok rows₁ ∧
      execute (incrementVariantsStock sampleVariantMap.keys sampleVariantMap.js) rows₁ =
        .ok rows₂ ∧
      rows₂ = sampleVariants := by
  have hboth : ((execute (decrementVariantsStock sampleVariantMap.keys sampleVariantMap.js)
      sampleVariants).bind fun rows₁ =>
        execute (incrementVariantsStock sampleVariantMap.keys sampleVariantMap.js) rows₁).isOk := by
    decide +kernel
  cases h₁ : execute (decrementVariantsStock sampleVariantMap.keys sampleVariantMap.js)
      sampleVariants with
  | error e =>
      rw [h₁] at hboth
      cases hboth
  | ok rows₁ =>
      rw [h₁] at hboth
      cases h₂ : execute (incrementVariantsStock sampleVariantMap.keys sampleVariantMap.js)
          rows₁ with
      | error e =>
          simp only [Except.bind, h₂] at hboth
          cases hboth
      | ok rows₂ =>
          exact ⟨rows₁, rows₂, rfl, h₂,
            (increment_decrement sampleVariantMap sampleVariants).1 _ _ h₁ h₂⟩

end VariantSql
end BookStore
