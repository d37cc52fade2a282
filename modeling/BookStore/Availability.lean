import BookStore.Async.Pool
import BookStore.Inventory

/-!
# One definition of availability

The cart admits a quantity against `available`, the checkout against
`stock - reserved`.  The operations on the variant rows write `stock` and
`reserved`; none of them writes `available`.

* `exec_inventory`: every statement acts on the variants by one of these
  operations or not at all.
* `oneAvailability_runs`: from rows with zero everywhere, the two definitions
  agree in every state of a run exactly when no operation of the run changes a
  difference `stock - reserved`.
-/

namespace BookStore

open Async

/-- The operations on the variant rows. -/
inductive InventoryOp
  /-- `createVariants`: the counters take their defaults. -/
  | create (bookId : Nat) (format : BookFormat) (isbn : String) (edition : Nat)
  | importStock (items : List (Nat × Nat))
  | reserve (payload : List CheckoutItemDto)
  | pay (variantMap : List (Nat × Int))
  | compensate (variantMap : List (Nat × Int))
  | expire (variantMap : List (Nat × Int))
  deriving DecidableEq

namespace InventoryOp

def apply : InventoryOp → Table BookVariant → Table BookVariant
  | create bookId format isbn edition, t =>
      t.insert fun n =>
        { id := n
          bookId := bookId
          format := format
          isbn := isbn
          price := none
          stock := 0
          available := 0
          isActive := true
          reserved := 0
          edition := edition }
  | importStock items, t => incrementStockById items t
  | reserve payload, t => updateReservedByIds payload t
  | pay variantMap, t => decrementVariantsStock variantMap t
  | compensate variantMap, t => incrementVariantsStock variantMap t
  | expire variantMap, t => clearVariants variantMap t

/-- The operation imports nothing, grants nothing, releases nothing. -/
def Neutral (t : Table BookVariant) (op : InventoryOp) : Prop :=
  ∀ r, r ∈ t.rows →
    match op with
    | importStock items =>
        quantityOf r.id (items.map fun i => (i.1, (i.2 : Int))) = 0
    | reserve payload => granted payload r = 0
    | expire variantMap => mapQuantity variantMap r.id = 0
    | _ => True

/-- One operation after another. -/
def step (t : Table BookVariant) (op : InventoryOp) : Option (Table BookVariant) :=
  some (op.apply t)

end InventoryOp

/-- The operation that a statement stands for. -/
def inventoryOp : Stmt → Option InventoryOp
  | .updateReservedByIds payload _ => some (.reserve payload)
  | .decrementVariantsStock variantMap _ _ => some (.pay variantMap)
  | .incrementVariantsStock variantMap => some (.compensate variantMap)
  | .clearOrder variantMap => some (.expire variantMap)
  | .importStock data =>
      some (.importStock (data.lines.map fun l => (l.bookVariantId, l.realQuantity)))
  | _ => none

/-- The statements act on the variants as the operations do. -/
theorem exec_inventory
    (dep : Deployment)
    {s : Stmt} {w w' : World} {r : Response s}
    (h : exec dep s w = .ok (w', r)) :
    w'.db.variants =
      (inventoryOp s).elim w.db.variants (fun op => op.apply w.db.variants) := by
  rw [(exec_effects dep h).variants]
  cases s <;> rfl

/-- `available` is what the checkout takes to be available. -/
structure OneAvailability (t : Table BookVariant) : Prop where
  available_eq : ∀ r, r ∈ t.rows → r.available = r.stock - r.reserved
  /-- The cart and the checkout admit the same quantities. -/
  admission_iff : ∀ r, r ∈ t.rows → ∀ q : Int, 0 < q →
    (r.available ≥ q ↔ r.stock - r.reserved ≥ q)

theorem oneAvailability_iff {t : Table BookVariant} :
    OneAvailability t ↔ ∀ r, r ∈ t.rows → r.available = r.stock - r.reserved := by
  refine ⟨fun h => h.available_eq, fun h => ⟨h, fun r hr q _ => ?_⟩⟩
  rw [h r hr]

/-- Where every row is shifted, availability survives iff the shifts are equal. -/
theorem oneAvailability_map_add
    {t t' : Table BookVariant} {a b : BookVariant → Int}
    (ht : OneAvailability t)
    (hrows : t'.rows = t.rows.map (fun r => r.add (a r) (b r))) :
    OneAvailability t' ↔ ∀ r, r ∈ t.rows → a r = b r := by
  rw [oneAvailability_iff, hrows]
  constructor
  · intro h r hr
    have hr' := h _ (List.mem_map_of_mem hr)
    have := ht.available_eq r hr
    simp only [BookVariant.add_available, BookVariant.add_stock,
      BookVariant.add_reserved] at hr'
    omega
  · intro h r' hr'
    obtain ⟨r, hr, rfl⟩ := List.mem_map.mp hr'
    have := ht.available_eq r hr
    have := h r hr
    simp only [BookVariant.add_available, BookVariant.add_stock,
      BookVariant.add_reserved]
    omega

/-- **One operation.** It keeps the two definitions equal iff it is neutral. -/
theorem oneAvailability_apply
    {t : Table BookVariant}
    (ht : OneAvailability t)
    (op : InventoryOp) :
    OneAvailability (op.apply t) ↔ op.Neutral t := by
  cases op with
  | create bookId format isbn edition =>
      refine iff_of_true (oneAvailability_iff.mpr fun r hr => ?_) (fun _ _ => trivial)
      rcases List.mem_append.mp hr with hr | hr
      · exact ht.available_eq r hr
      · rw [List.mem_singleton.mp hr]
        rfl
  | importStock items =>
      exact oneAvailability_map_add ht (rows_incrementStockById items t)
  | reserve payload =>
      rw [InventoryOp.apply,
        oneAvailability_map_add ht (rows_updateReservedByIds payload t)]
      exact forall₂_congr fun _ _ => eq_comm
  | pay variantMap =>
      refine iff_of_true ((oneAvailability_map_add ht
        (rows_shiftVariants _ _ variantMap t)).mpr fun _ _ => rfl) (fun _ _ => trivial)
  | compensate variantMap =>
      refine iff_of_true ((oneAvailability_map_add ht
        (rows_shiftVariants _ _ variantMap t)).mpr fun _ _ => rfl) (fun _ _ => trivial)
  | expire variantMap =>
      rw [InventoryOp.apply, clearVariants,
        oneAvailability_map_add ht (rows_shiftVariants _ _ variantMap t)]
      refine forall₂_congr fun r _ => ?_
      omega

/-- **Runs.** All states agree on availability iff all operations are neutral. -/
theorem meets_oneAvailability_iff
    {t : Table BookVariant}
    (ht : OneAvailability t)
    (ops : List InventoryOp) :
    Meets InventoryOp.step (fun t op => OneAvailability (op.apply t)) t ops ↔
      Meets InventoryOp.step (fun t op => op.Neutral t) t ops := by
  induction ops generalizing t with
  | nil =>
      exact Iff.rfl
  | cons op ops ih =>
      refine and_congr_left' (oneAvailability_apply ht op) |>.trans ?_
      refine and_congr_right fun hneutral => ?_
      exact ih ((oneAvailability_apply ht op).mpr hneutral)

/--
From rows with zero counters the cart's and the checkout's availability agree in
every state of a run exactly when no operation of the run changes a difference
`stock - reserved`.
-/
theorem oneAvailability_runs
    {t : Table BookVariant}
    (hzero : ∀ r, r ∈ t.rows → r.stock = 0 ∧ r.reserved = 0 ∧ r.available = 0)
    (ops : List InventoryOp) :
    Meets InventoryOp.step (fun t op => OneAvailability (op.apply t)) t ops ↔
      Meets InventoryOp.step (fun t op => op.Neutral t) t ops := by
  refine meets_oneAvailability_iff (oneAvailability_iff.mpr fun r hr => ?_) ops
  obtain ⟨hstock, hreserved, havailable⟩ := hzero r hr
  omega

/-- A reservation that is refused, a payment and a compensation are neutral. -/
theorem oneAvailability_runs_refused :
    Meets InventoryOp.step (fun t op => OneAvailability (op.apply t)) .empty
      [.create 1 .paperback "9780306406157" 1, .reserve [⟨1, 2⟩], .pay [(1, 2)],
        .compensate [(1, 2)]] := by
  refine (oneAvailability_runs (fun r hr => by cases hr) _).mpr ?_
  simp [Meets, InventoryOp.step, InventoryOp.Neutral, InventoryOp.apply, granted,
    Table.empty]

/-- After an import the cart refuses what the checkout would admit. -/
theorem import_splits_availability :
    ¬ ∀ ops : List InventoryOp,
      Meets InventoryOp.step (fun t op => OneAvailability (op.apply t)) .empty ops := by
  intro h
  have himport := (h [.create 1 .paperback "9780306406157" 1, .importStock [(1, 10)]]).2.1
  have := himport.available_eq _ (List.mem_singleton.mpr rfl)
  revert this
  decide

end BookStore
