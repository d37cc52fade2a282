import BookStore.Async.Outcomes
import BookStore.Procurement.Service
import BookStore.Traversals

/-!
# Stock imports

For whole quantities `Numbers.createStockImport` is `createStockImportOf`, the service that
the checkout server has, over the tables of procurement.

`ends_createStockImport` says how a call ends: the lines are priced from the items that were
found, the transaction is executed or refused, and its answer is `null`.
-/

namespace BookStore

open Async Program

/-- `createStockImport` over the tables of procurement. -/
def createStockImportOf (createdById : Nat) (body : CreateAdminStockImportRequestDto) :
    ProcurementService StockImport := do
  let poItems : List PurchaseOrderItem ←
    procurementQuery (.findPurchaseOrderItemsByIds (body.items.map (·.purchaseOrderItemId)))
  match body.items.mapM (itemWithPrice poItems) with
  | .error err => raise err
  | .ok itemsWithPrices => do
      let created : Option StockImport ←
        procurementQuery (.createStockImport (stockImportInput createdById body itemsWithPrices))
      match created with
      -- `toAdminStockImportDetail(created!)` reads a column of `null`
      | none => raise .typeError
      | some created => ret created

namespace Numbers

/-! ### Whole quantities -/

section Whole

theorem quantity_nonneg (n : Nat) : (0 : ℚ) ≤ n :=
  Nat.cast_nonneg n

/-- A body with whole quantities -/
def ofWhole (body : BookStore.CreateAdminStockImportRequestDto) :
    CreateAdminStockImportRequestDto where
  purchaseOrderId := body.purchaseOrderId
  note := body.note
  items := body.items.map fun item =>
    ⟨item.purchaseOrderItemId, item.realQuantity, quantity_nonneg item.realQuantity⟩

/-- A line with whole quantities -/
def StockImportLine.ofWhole (l : BookStore.StockImportLine) : StockImportLine where
  purchaseOrderItemId := l.purchaseOrderItemId
  bookVariantId := l.bookVariantId
  realQuantity := l.realQuantity
  lackQuantity := l.lackQuantity
  totalPrice := l.totalPrice

theorem stored_ofWhole (l : BookStore.StockImportLine) :
    (StockImportLine.ofWhole l).stored = some l := by
  simp [StockImportLine.stored, StockImportLine.ofWhole, Whole]

theorem itemWithPrice_ofWhole
    (poItems : List PurchaseOrderItem) (item : BookStore.CreateAdminStockImportItemRequestDto) :
    itemWithPrice poItems
        ⟨item.purchaseOrderItemId, item.realQuantity, quantity_nonneg item.realQuantity⟩ =
      (BookStore.itemWithPrice poItems item).map fun l => (StockImportLine.ofWhole l.1, l.2) := by
  unfold itemWithPrice BookStore.itemWithPrice
  cases poItems.reverse.find? fun i => decide (i.id = item.purchaseOrderItemId) with
  | none =>
      rfl
  | some poItem =>
      simp [Except.map, StockImportLine.ofWhole]

theorem stockImportInput_ofWhole
    (user : Nat) (body : BookStore.CreateAdminStockImportRequestDto)
    (lines : List (BookStore.StockImportLine × ℚ)) :
    stockImportInput user (ofWhole body)
        (lines.map fun l => (StockImportLine.ofWhole l.1, l.2)) =
      some (BookStore.stockImportInput user body lines) := by
  have hstored : ((lines.map fun l => (StockImportLine.ofWhole l.1, l.2)).map Prod.fst).mapM
      StockImportLine.stored = some (lines.map Prod.fst) := by
    rw [List.map_map]
    exact mapM_map_of_some (fun l => stored_ofWhole l.1) lines
  unfold stockImportInput
  rw [hstored]
  simp only [List.map_map]
  rfl

/-- For whole quantities this is the service of before. -/
theorem createStockImport_ofWhole
    (user : Nat) (body : BookStore.CreateAdminStockImportRequestDto) :
    createStockImport user (ofWhole body) = createStockImportOf user body := by
  unfold createStockImport createStockImportOf
  have hids : (ofWhole body).items.map (·.purchaseOrderItemId) =
      body.items.map (·.purchaseOrderItemId) := by
    simp [ofWhole]
  rw [hids]
  congr 1
  funext poItems
  have hlines := mapM_eq_map_mapM (itemWithPrice_ofWhole poItems) body.items
  rw [ofWhole, hlines]
  cases body.items.mapM (BookStore.itemWithPrice poItems) with
  | error e =>
      rfl
  | ok lines =>
      simp only [Except.map]
      rewrite [← ofWhole, stockImportInput_ofWhole]
      rfl

end Whole

/-! ### The end of a call -/

section Ends

variable {cuids : Nat → String} {faults : ProcurementStmt → Outcome}
  {w w' : ProcurementWorld} {x : Except Failure StockImport}
  {user : Nat} {body : CreateAdminStockImportRequestDto}

/-- The items of a body in the order of the table -/
def poItemsOf (db : ProcurementDb) (body : CreateAdminStockImportRequestDto) :
    List PurchaseOrderItem :=
  (db.purchaseOrderItems.rows.filter fun i =>
    (body.items.map (·.purchaseOrderItemId)).contains i.id).map
      PurchaseOrderItemRow.toPurchaseOrderItem

/-- What the transaction is given, if the call gets that far. -/
def importOf (db : ProcurementDb) (user : Nat) (body : CreateAdminStockImportRequestDto) :
    Option StockImportInput :=
  match body.items.mapM (itemWithPrice (poItemsOf db body)) with
  | .error _ => none
  | .ok itemsWithPrices => stockImportInput user body itemsWithPrices

theorem stockImportCreated_of_exec
    {data : StockImportInput} {r : Option StockImport}
    (h : procurementExec cuids (.createStockImport data) w = .ok (w', r)) :
    ∃ p, w.db.purchaseOrders.find data.purchaseOrderId = some p ∧
      StockImportCreated cuids w.now data w.db w'.db := by
  cases procurementExec_effect h with
  | createStockImport _ p db hp _ hcreated =>
      exact ⟨p, hp, hcreated⟩

/-- What is made of the answer of the transaction. -/
def reported : Option StockImport → Except Failure StockImport
  | none => .error .typeError
  | some created => .ok created

/-- The statements of a call, as far as it sends them, are executed. -/
structure Executed (faults : ProcurementStmt → Outcome) (db : ProcurementDb) (user : Nat)
    (body : CreateAdminStockImportRequestDto) : Prop where
  found : faults (.findPurchaseOrderItemsByIds (body.items.map (·.purchaseOrderItemId))) = .ok
  committed : ∀ data, importOf db user body = some data →
    faults (.createStockImport data) ≠ .fail

/-- A call has imported, or it has thrown and left everything. -/
theorem ends_createStockImport
    (h : (createStockImport user body).Ends (procurementExec cuids) .database faults w w' x) :
    (∃ data r, importOf w.db user body = some data ∧ Executed faults w.db user body ∧
      procurementExec cuids (.createStockImport data) w = .ok (w', r) ∧
      (x = reported r ∨ x = .error .database)) ∨
    (w' = w ∧ (∃ e, x = .error e) ∧ (Executed faults w.db user body →
      ∀ data, importOf w.db user body = some data →
        ∃ e, procurementExec cuids (.createStockImport data) w = .error e)) := by
  have hfind : procurementExec cuids
      (.findPurchaseOrderItemsByIds (body.items.map (·.purchaseOrderItemId))) w =
        .ok (w, poItemsOf w.db body) := rfl
  unfold createStockImport at h
  rcases (ends_bind_await_of_ok hfind).mp h with ⟨hok, h⟩ | ⟨ho, hw, hx⟩ | ⟨ho, hw, hx⟩
  · have hof : importOf w.db user body =
        match body.items.mapM (itemWithPrice (poItemsOf w.db body)) with
        | .error _ => none
        | .ok itemsWithPrices => stockImportInput user body itemsWithPrices := rfl
    cases hlines : body.items.mapM (itemWithPrice (poItemsOf w.db body)) with
    | error err =>
        rw [hlines] at h hof
        exact .inr ⟨h.1, ⟨err, h.2⟩, fun _ data hdata => by rw [hof] at hdata; cases hdata⟩
    | ok lines =>
        rw [hlines] at h hof
        dsimp only at h hof
        cases hdata : stockImportInput user body lines with
        | none =>
            rw [hdata] at h hof
            exact .inr ⟨h.1, ⟨_, h.2⟩, fun _ data hdata => by rw [hof] at hdata; cases hdata⟩
        | some data =>
            rw [hdata] at h hof
            dsimp only at h
            have honly : ∀ data', importOf w.db user body = some data' → data' = data :=
              fun data' h' => Option.some.inj (h'.symm.trans hof)
            cases hexec : procurementExec cuids (.createStockImport data) w with
            | error e =>
                obtain ⟨hw, hx⟩ := (ends_bind_await_of_error hexec).mp h
                exact .inr ⟨hw, ⟨_, hx⟩, fun _ data' h' => by rw [honly data' h']; exact ⟨e, hexec⟩⟩
            | ok vr =>
                obtain ⟨v, r⟩ := vr
                have hdone : ∀ o, faults (.createStockImport data) = o → o ≠ .fail →
                    Executed faults w.db user body := by
                  intro o ho hne
                  refine ⟨hok, fun data' h' => ?_⟩
                  rw [honly data' h', ho]
                  exact hne
                rcases (ends_bind_await_of_ok hexec).mp h with ⟨ho, h⟩ | ⟨ho, hw, hx⟩ | ⟨ho, hw, hx⟩
                · have hend : w' = v ∧ x = reported r := by
                    cases r <;> exact h
                  obtain ⟨rfl, rfl⟩ := hend
                  exact .inl ⟨data, r, hof, hdone _ ho (by simp), hexec, .inl rfl⟩
                · refine .inr ⟨hw, ⟨_, hx⟩, fun hall data' h' => ?_⟩
                  exact absurd ho (honly data' h' ▸ hall.committed data' h')
                · subst hw hx
                  exact .inl ⟨data, r, hof, hdone _ ho (by simp), hexec, .inr rfl⟩
  · exact .inr ⟨hw, ⟨_, hx⟩, fun hall => by rw [hall.found] at ho; cases ho⟩
  · exact .inr ⟨hw, ⟨_, hx⟩, fun hall => by rw [hall.found] at ho; cases ho⟩

/-- The call that imports, where every statement is executed and answered -/
theorem yields_createStockImport
    {data : StockImportInput} {r : Option StockImport}
    (hdata : importOf w.db user body = some data)
    (hexec : procurementExec cuids (.createStockImport data) w = .ok (w', r)) :
    (createStockImport user body).Ends (procurementExec cuids) .database (fun _ => .ok) w w'
      (reported r) := by
  have hfind : procurementExec cuids
      (.findPurchaseOrderItemsByIds (body.items.map (·.purchaseOrderItemId))) w =
        .ok (w, poItemsOf w.db body) := rfl
  unfold createStockImport
  refine (ends_bind_await_of_done rfl hfind).mpr ?_
  unfold importOf at hdata
  cases hlines : body.items.mapM (itemWithPrice (poItemsOf w.db body)) with
  | error err =>
      rw [hlines] at hdata
      cases hdata
  | ok lines =>
      rw [hlines] at hdata
      dsimp only at hdata ⊢
      rw [hdata]
      refine (ends_bind_await_of_done rfl hexec).mpr ?_
      cases r <;> exact ⟨rfl, rfl⟩

end Ends

end Numbers
end BookStore
