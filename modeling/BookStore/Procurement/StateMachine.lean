import BookStore.Async.Logic
import BookStore.Procurement.Service
import Mathlib.Algebra.Order.Group.Multiset

/-!
# The states of a purchase order

Decisions, transfers and imports on purchase orders, statement by statement in any order.
`status` and `statusTransfer` are two automata; the second may leave its first state once
the first has accepted.

* `OrderStep`: what one step may change on an order.
* `OrdersDecided`: an order that is not pending was decided once, and `approvedById` is
  the user of that decision.
* `InOrder`: what the statements would have to check.
* `purchaseOrders_inOrder` is the result; in `decided_twice` two users decide on one order
  and a third takes over its `approvedById`.

Each handler of a decision that has returned holds the decision it has written down.
-/

namespace BookStore

open Async Program Logic

/-- How `statusTransfer` may move along PENDING → PROCESSING → PURCHASE. -/
inductive TransferPath
  /-- One arrow at a time. -/
  | arrows
  /-- Arrows may be skipped. -/
  | skipping
  deriving DecidableEq

/-- The move stays or follows the path. -/
def TransferPath.Allows (path : TransferPath) (t t' : PurchaseOrderType) : Prop :=
  t' = t ∨ t = .pending ∧ t' = .processing ∨ t = .processing ∧ t' = .purchase ∨
    path = .skipping ∧ t = .pending ∧ t' = .purchase

/-- What a step may change on an order. -/
structure OrderStep (path : TransferPath) (p p' : PurchaseOrderRow) : Prop where
  status : p.status ≠ .pending → p'.status = p.status
  leaves : p.statusTransfer = .pending → p'.statusTransfer ≠ .pending → p.status = .approved
  forward : path.Allows p.statusTransfer p'.statusTransfer
  approvedBy : ∀ u, p.approvedById = some u → p'.approvedById = some u

/-- No order is lost, and each has made a step. -/
def OrdersStep (path : TransferPath) (w w' : ProcurementWorld) : Prop :=
  ∀ id p, w.db.purchaseOrders.find id = some p →
    ∃ p', w'.db.purchaseOrders.find id = some p' ∧ OrderStep path p p'

/-- What the decisions so far say about an order. -/
structure Decided (decisions : List PurchaseDecision) (p : PurchaseOrderRow) : Prop where
  pending : p.status = .pending →
    p.approvedById = none ∧ p.statusTransfer = .pending ∧
      ∀ d, d ∈ decisions → d.purchaseOrderId ≠ p.id
  approvedBy : ∀ u, p.approvedById = some u → ⟨p.id, u⟩ ∈ decisions
  approved : p.statusTransfer ≠ .pending → p.status = .approved

structure OrdersDecided (w : ProcurementWorld) : Prop where
  once : (w.decisions.map PurchaseDecision.purchaseOrderId).Nodup
  orders : ∀ p, p ∈ w.db.purchaseOrders.rows → Decided w.decisions p
  users : ∀ d, d ∈ w.decisions →
    ∃ p, w.db.purchaseOrders.find d.purchaseOrderId = some p ∧
      p.status ≠ .pending ∧ p.approvedById = some d.approvedById

/-- Nothing has been decided on the orders, and nothing was transferred. -/
structure OrdersNew (w : ProcurementWorld) : Prop where
  decisions : w.decisions = []
  orders : ∀ p, p ∈ w.db.purchaseOrders.rows →
    p.status = .pending ∧ p.statusTransfer = .pending ∧ p.approvedById = none

/-- The order is approved by the user and may be transferred. -/
def PurchaseOrderRow.MayTransfer (path : TransferPath) (user : Nat) (t : PurchaseOrderType)
    (p : PurchaseOrderRow) : Prop :=
  p.status = .approved ∧ path.Allows p.statusTransfer t ∧ p.approvedById = some user

/--
A decision finds the order pending; a transfer or an import finds it approved by the same
user, in a state from which it may go on.
-/
def InOrder (path : TransferPath) (cuids : Nat → String) (w : ProcurementWorld)
    (s : ProcurementStmt) (o : Outcome) : Prop :=
  match s with
  | .updatePurchaseOrderStatus purchaseOrderId _ _ =>
      o = .fail ∨ ∀ p, p ∈ w.db.purchaseOrders.find purchaseOrderId → p.status = .pending
  | .updateTransferStatus purchaseOrderId updateTransferId status _ =>
      o = .fail ∨ ∀ p, p ∈ w.db.purchaseOrders.find purchaseOrderId →
        p.MayTransfer path updateTransferId status
  | .createStockImport data =>
      o = .fail ∨ createdStockImport cuids w.now data w.db = none ∨
        ∀ p, p ∈ w.db.purchaseOrders.find data.purchaseOrderId →
          p.MayTransfer path data.createdBy .purchase
  | _ => True

instance (path : TransferPath) (t t' : PurchaseOrderType) : Decidable (path.Allows t t') := by
  unfold TransferPath.Allows
  infer_instance

instance (path : TransferPath) (user : Nat) (t : PurchaseOrderType) (p : PurchaseOrderRow) :
    Decidable (p.MayTransfer path user t) := by
  unfold PurchaseOrderRow.MayTransfer
  infer_instance

instance (path : TransferPath) (cuids : Nat → String) (w : ProcurementWorld)
    (s : ProcurementStmt) (o : Outcome) : Decidable (InOrder path cuids w s o) := by
  apply ProcurementStmt.casesOn (motive := fun s => Decidable (InOrder path cuids w s o)) s <;>
    intros <;> unfold InOrder <;> infer_instance

section Orders

variable {path : TransferPath} {cuids : Nat → String} {w w' : ProcurementWorld}
  {p p' : PurchaseOrderRow} {decisions : List PurchaseDecision}

theorem TransferPath.Allows.refl (t : PurchaseOrderType) : path.Allows t t :=
  .inl rfl

theorem OrderStep.refl (p : PurchaseOrderRow) : OrderStep path p p where
  status := fun _ => rfl
  leaves := fun h h' => absurd h h'
  forward := .refl _
  approvedBy := fun _ h => h

theorem OrdersStep.refl (w : ProcurementWorld) : OrdersStep path w w :=
  fun _ p hp => ⟨p, hp, .refl p⟩

theorem OrdersNew.decided (h : OrdersNew w) : OrdersDecided w where
  once := by
    rw [h.decisions]
    exact List.nodup_nil
  orders := by
    intro p hp
    obtain ⟨-, htransfer, happroved⟩ := h.orders p hp
    refine ⟨fun _ => ⟨happroved, htransfer, fun d hd => ?_⟩, fun u hu => ?_, fun ht => ?_⟩
    · rw [h.decisions] at hd
      cases hd
    · rw [happroved] at hu
      cases hu
    · exact absurd htransfer ht
  users := by
    intro d hd
    rw [h.decisions] at hd
    cases hd

/-! ### One order is changed -/

/-- A step of one order is a step of the orders. -/
theorem ordersStep_of_update
    {id : String} {f : PurchaseOrderRow → PurchaseOrderRow}
    (hf : ∀ r, ident (f r) = ident r)
    (horders : w'.db.purchaseOrders = w.db.purchaseOrders.update id f hf)
    (hstep : ∀ p, w.db.purchaseOrders.find id = some p → OrderStep path p (f p)) :
    OrdersStep path w w' := by
  intro k p hp
  rw [horders, Registry.find_update]
  by_cases hk : k = id
  · subst hk
    exact ⟨f p, by rw [if_pos rfl, hp, Option.map_some], hstep p hp⟩
  · exact ⟨p, by rw [if_neg hk, hp], .refl p⟩

/-- A transfer by the user who has approved the order. -/
theorem PurchaseOrderRow.MayTransfer.step
    {now u : Nat} {t : PurchaseOrderType} {x : Option ℚ}
    (h : p.MayTransfer path u t) :
    OrderStep path p (p.transferred now u t x) where
  status := fun _ => rfl
  leaves := fun _ _ => h.1
  forward := h.2.1
  approvedBy := fun _ hu => h.2.2.symm.trans hu

/-- It keeps what the decisions say. -/
theorem Decided.transferred
    {now u : Nat} {t : PurchaseOrderType} {x : Option ℚ}
    (h : Decided decisions p)
    (hmay : p.MayTransfer path u t) :
    Decided decisions (p.transferred now u t x) where
  pending := by
    intro hpending
    rw [show (p.transferred now u t x).status = p.status from rfl, hmay.1] at hpending
    cases hpending
  approvedBy := fun _ hu => h.approvedBy _ (hmay.2.2.trans hu)
  approved := fun _ => hmay.1

/-- Where one order is transferred by its user, what was decided stays. -/
theorem OrdersDecided.transferred
    {now u : Nat} {t : PurchaseOrderType} {x : Option ℚ} {id : String}
    (h : OrdersDecided w)
    (horders : w'.db.purchaseOrders =
      w.db.purchaseOrders.update id (PurchaseOrderRow.transferred now u t x)
        (ident_transferred now u t x))
    (hdecisions : w'.decisions = w.decisions)
    (hmay : ∀ p, w.db.purchaseOrders.find id = some p → p.MayTransfer path u t) :
    OrdersDecided w' where
  once := hdecisions ▸ h.once
  orders := by
    intro p' hp'
    rw [hdecisions]
    rw [horders, Registry.rows_update] at hp'
    obtain ⟨p, hp, rfl⟩ := List.mem_map.mp hp'
    split_ifs with hid
    · exact (h.orders p hp).transferred (hmay p (Registry.find_eq_some_iff.mpr ⟨hp, hid⟩))
    · exact h.orders p hp
  users := by
    intro d hd
    rw [hdecisions] at hd
    obtain ⟨p, hp, hstatus, happroved⟩ := h.users d hd
    rw [horders, Registry.find_update, hp]
    split_ifs with hid
    · subst hid
      exact ⟨_, rfl, hstatus, (hmay p hp).2.2.symm.trans happroved⟩
    · exact ⟨p, rfl, hstatus, happroved⟩

/-- A decision on a pending order. -/
theorem OrderStep.decided
    {now u : Nat} {status : PurchaseOrderStatus}
    (h : Decided decisions p)
    (hpending : p.status = .pending) :
    OrderStep path p (p.decided now u status) where
  status := fun hp => absurd hpending hp
  leaves := fun h h' => absurd h h'
  forward := .refl _
  approvedBy := by
    intro u hu
    rw [(h.pending hpending).1] at hu
    cases hu

/-- Where a pending order is decided, the decision is written down. -/
theorem OrdersDecided.decided
    {now u : Nat} {status : PurchaseOrderStatus} {id : String}
    (h : OrdersDecided w)
    (hstatus : status ≠ .pending)
    (hp : w.db.purchaseOrders.find id = some p)
    (hpending : p.status = .pending)
    (horders : w'.db.purchaseOrders =
      w.db.purchaseOrders.update id (PurchaseOrderRow.decided now u status)
        (ident_decided now u status))
    (hdecisions : w'.decisions = w.decisions ++ [⟨id, u⟩]) :
    OrdersDecided w' where
  once := by
    have hid : p.id = id := Registry.find_ident hp
    rw [hdecisions, List.map_append, List.map_singleton]
    refine h.once.append (List.nodup_singleton _) (List.disjoint_singleton.mpr fun hmem => ?_)
    obtain ⟨d, hd, hdid⟩ := List.mem_map.mp hmem
    exact (((h.orders p (Registry.find_mem hp)).pending hpending).2.2 d hd) (hdid.trans hid.symm)
  orders := by
    intro q' hq'
    rw [hdecisions]
    rw [horders, Registry.rows_update] at hq'
    obtain ⟨q, hq, rfl⟩ := List.mem_map.mp hq'
    split_ifs with hid
    · refine ⟨fun hs => absurd hs hstatus, fun v hv => ?_, fun ht => ?_⟩
      · cases hv
        exact List.mem_append_right _ (by rw [← hid]; exact List.mem_singleton_self _)
      · cases Registry.eq_of_ident_eq hq (Registry.find_mem hp)
          (hid.trans (Registry.find_ident hp).symm)
        exact absurd ((h.orders p hq).pending hpending).2.1 ht
    · refine ⟨fun hs => ?_, fun v hv => ?_, (h.orders q hq).approved⟩
      · obtain ⟨happroved, htransfer, hnone⟩ := (h.orders q hq).pending hs
        refine ⟨happroved, htransfer, fun d hd => ?_⟩
        rcases List.mem_append.mp hd with hd | hd
        · exact hnone d hd
        · cases List.mem_singleton.mp hd
          exact Ne.symm hid
      · exact List.mem_append_left _ ((h.orders q hq).approvedBy v hv)
  users := by
    intro d hd
    rw [horders, Registry.find_update]
    rw [hdecisions] at hd
    rcases List.mem_append.mp hd with hd | hd
    · obtain ⟨q, hq, hqstatus, happroved⟩ := h.users d hd
      have hne : d.purchaseOrderId ≠ id := by
        rintro rfl
        rw [hp] at hq
        cases hq
        exact hqstatus hpending
      exact ⟨q, by rw [if_neg hne, hq], hqstatus, happroved⟩
    · cases List.mem_singleton.mp hd
      exact ⟨p.decided now u status, by rw [if_pos rfl, hp, Option.map_some], hstatus, rfl⟩

/-! ### A purchase order is created -/

theorem PurchaseOrderCreated.ordersStep
    {now : Nat} {input : CreatePurchaseOrderInput}
    {items : List CreatePurchaseOrderItemInput}
    (h : PurchaseOrderCreated cuids now input items w.db w'.db) :
    OrdersStep path w w' :=
  fun _ p hp => ⟨p, Registry.find_of_append h.purchaseOrders hp, .refl p⟩

theorem OrdersDecided.createPurchaseOrder
    {now : Nat} {input : CreatePurchaseOrderInput}
    {items : List CreatePurchaseOrderItemInput}
    (h : OrdersDecided w)
    (hdb : PurchaseOrderCreated cuids now input items w.db w'.db)
    (hdecisions : w'.decisions = w.decisions) :
    OrdersDecided w' where
  once := hdecisions ▸ h.once
  orders := by
    intro p hp
    rw [hdecisions]
    have hnew := hp
    rw [hdb.purchaseOrders] at hnew
    rcases List.mem_append.mp hnew with hold | hnew
    · exact h.orders p hold
    · cases List.mem_singleton.mp hnew
      refine ⟨fun _ => ⟨rfl, rfl, fun d hd hid => ?_⟩, fun u hu => (by cases hu),
        fun ht => absurd rfl ht⟩
      -- an order that was decided is not a new one
      obtain ⟨q, hq, -, -⟩ := h.users d hd
      exact Registry.ne_of_append hdb.purchaseOrders (Registry.find_mem hq) hnew
        ((Registry.find_ident hq).trans hid)
  users := by
    intro d hd
    rw [hdecisions] at hd
    obtain ⟨p, hp, hrest⟩ := h.users d hd
    exact ⟨p, Registry.find_of_append hdb.purchaseOrders hp, hrest⟩

/-! ### One statement -/

variable {s : ProcurementStmt} {o : Outcome}

theorem ProcurementEffect.ordersStep
    (heffect : ProcurementEffect cuids w s w')
    (h : OrdersDecided w)
    (hg : InOrder path cuids w s o)
    (ho : o ≠ .fail) :
    OrdersStep path w w' := by
  cases heffect with
  | createPurchaseOrder input items db hdb =>
      exact hdb.ordersStep
  | updatePurchaseOrderStatus purchaseOrderId approvedById status p hp =>
      refine ordersStep_of_update (ident_decided w.now approvedById status) rfl fun q hq => ?_
      exact .decided (h.orders q (Registry.find_mem hq)) (hg.resolve_left ho q hq)
  | updateTransferStatus purchaseOrderId updateTransferId status realPayPrice p hp =>
      exact ordersStep_of_update
        (ident_transferred w.now updateTransferId status realPayPrice) rfl
        fun q hq => (hg.resolve_left ho q hq).step
  | createStockImport data p db hp hcreated hdb =>
      have hmay := (hg.resolve_left ho).resolve_left (by simp [hcreated])
      exact ordersStep_of_update
        (ident_transferred w.now data.createdBy .purchase (some data.realPayPrice))
        hdb.purchaseOrders fun q hq => (hmay q hq).step
  | _ =>
      exact .refl w

/-- A statement that is no decision leaves the decisions as they are. -/
theorem ProcurementEffect.ordersDecided
    (heffect : ProcurementEffect cuids w s w')
    (hs : ∀ purchaseOrderId approvedById status,
      s ≠ .updatePurchaseOrderStatus purchaseOrderId approvedById status)
    (h : OrdersDecided w)
    (hg : InOrder path cuids w s o)
    (ho : o ≠ .fail) :
    OrdersDecided w' ∧ w'.decisions = w.decisions := by
  cases heffect with
  | createPurchaseOrder input items db hdb =>
      exact ⟨h.createPurchaseOrder hdb rfl, rfl⟩
  | updatePurchaseOrderStatus purchaseOrderId approvedById status p hp =>
      exact absurd rfl (hs purchaseOrderId approvedById status)
  | updateTransferStatus purchaseOrderId updateTransferId status realPayPrice p hp =>
      exact ⟨h.transferred rfl rfl (hg.resolve_left ho), rfl⟩
  | createStockImport data p db hp hcreated hdb =>
      have hmay := (hg.resolve_left ho).resolve_left (by simp [hcreated])
      exact ⟨h.transferred hdb.purchaseOrders rfl hmay, rfl⟩
  | _ =>
      exact ⟨h, rfl⟩

/-- A decision is written down. -/
theorem ProcurementEffect.decided
    {purchaseOrderId : String} {u : Nat} {status : PurchaseOrderStatus}
    (heffect : ProcurementEffect cuids w
      (.updatePurchaseOrderStatus purchaseOrderId u status) w')
    (h : OrdersDecided w)
    (hstatus : status ≠ .pending)
    (hg : InOrder path cuids w (.updatePurchaseOrderStatus purchaseOrderId u status) o)
    (ho : o ≠ .fail) :
    OrdersDecided w' ∧ w'.decisions = w.decisions ++ [⟨purchaseOrderId, u⟩] := by
  cases heffect with
  | updatePurchaseOrderStatus _ _ _ p hp =>
      exact ⟨h.decided hstatus hp (hg.resolve_left ho p hp) rfl rfl, rfl⟩

end Orders

/-! ### The handlers -/

/-- A share is a part of the decisions. -/
def decisionLogic (path : TransferPath) (cuids : Nat → String) :
    Logic ProcurementStmt ProcurementWorld (Multiset PurchaseDecision) where
  inv := fun F w => OrdersDecided w ∧ F ≤ (w.decisions : Multiset PurchaseDecision)
  rely := fun _ _ => True
  rely_refl := fun _ => trivial
  rely_trans := fun _ _ _ _ _ => trivial
  guard := InOrder path cuids
  done := fun _ => True

/-- A handler of a decision that has returned holds it. -/
def Holds (x : Except Failure ProcurementAnswer) (m : Multiset PurchaseDecision) : Prop :=
  ∀ purchaseOrderId u, x = .ok (.decided purchaseOrderId u) → ⟨purchaseOrderId, u⟩ ∈ m

section Handlers

variable {path : TransferPath} {cuids : Nat → String} {m : Multiset PurchaseDecision}
  {w : ProcurementWorld}

/-- The handler keeps the orders decided and ends in `Q`. -/
abbrev Decides {α : Type} (path : TransferPath) (cuids : Nat → String)
    (Q : Except Failure α → Multiset PurchaseDecision → ProcurementWorld → Prop)
    (p : ProcurementService α) (m : Multiset PurchaseDecision) (w : ProcurementWorld) : Prop :=
  Safe (decisionLogic path cuids) (procurementExec cuids) .database Q p m w

/-- A statement that is no decision. -/
def ProcurementStmt.Undecided (s : ProcurementStmt) : Prop :=
  ∀ purchaseOrderId approvedById status,
    s ≠ .updatePurchaseOrderStatus purchaseOrderId approvedById status

theorem harmless_of_undecided {s : ProcurementStmt} (hs : s.Undecided) :
    Harmless (decisionLogic path cuids) (procurementExec cuids) .database (fun _ => True) s := by
  intro v m o _ hinv hg
  refine ⟨?_, trivial⟩
  refine attempt_cases (motive := fun x => (decisionLogic path cuids).inv m x.1)
    (fun _ => hinv) fun v' r ho hexec => ?_
  obtain ⟨hdecided, hdecisions⟩ :=
    (procurementExec_effect hexec).ordersDecided hs hinv.1 hg ho
  have hinv' : (decisionLogic path cuids).inv m v' := ⟨hdecided, hdecisions ▸ hinv.2⟩
  exact ⟨hinv', hinv'⟩

/-- A service that decides nothing, and what the handler makes of its answer. -/
theorem decides_of_undecided {α : Type} {p : ProcurementService α} {f : α → ProcurementAnswer}
    (hp : p.All ProcurementStmt.Undecided)
    (hf : ∀ a purchaseOrderId u, f a ≠ .decided purchaseOrderId u) :
    Decides path cuids (fun x m _ => Holds x m) (p.bind fun a => ret (f a)) m w := by
  refine Safe.bind_all trivial (hp.mono fun s hs => harmless_of_undecided hs) ?_ ?_
  · intro a v _ v' _ purchaseOrderId u h
    exact absurd (Except.ok.inj h) (hf a purchaseOrderId u)
  · intro e v purchaseOrderId u h
    cases h

theorem decides_approvePurchaseOrder
    {purchaseOrderId : String} {u : Nat} {status : PurchaseOrderStatus} :
    Decides path cuids (fun x m _ => x = .ok () → ⟨purchaseOrderId, u⟩ ∈ m)
      (approvePurchaseOrder purchaseOrderId u status) 0 w := by
  have hraise : ∀ (e : Failure) (v : ProcurementWorld),
      Decides path cuids (fun x m _ => x = .ok () → ⟨purchaseOrderId, u⟩ ∈ m)
        (raise e : ProcurementService Unit) 0 v :=
    fun _ _ _ _ h => by cases h
  unfold approvePurchaseOrder
  split_ifs with hstatus
  · exact hraise _ w
  refine Safe.await_bind ((harmless_of_undecided (fun _ _ _ h => by cases h)).statementSafe
    (fun _ _ => trivial) fun x v _ => ?_)
  cases x with
  | error e =>
      exact fun _ _ h => by cases h
  | ok found =>
      dsimp only
      cases found with
      | none =>
          exact hraise _ v
      | some found =>
          dsimp only
          split_ifs
          · exact hraise _ v
          · exact hraise _ v
          · refine Safe.call_resume (StatementSafe.of_exec (fun _ _ _ _ _ h => by cases h) ?_)
            intro v₁ F o v₂ r _ hinv hg ho hexec
            have hg : InOrder path cuids v₁
                (.updatePurchaseOrderStatus purchaseOrderId u status) o := hg
            obtain ⟨hdecided, hdecisions⟩ :=
              (procurementExec_effect hexec).decided hinv.1 hstatus hg ho
            refine ⟨{⟨purchaseOrderId, u⟩}, ⟨hdecided, ?_⟩, trivial, ?_, ?_⟩
            · have hle := hinv.2
              rw [zero_add] at hle
              rw [hdecisions, ← Multiset.coe_add, Multiset.coe_singleton, add_comm]
              exact add_le_add_left hle _
            · exact fun _ _ _ => Multiset.mem_singleton_self _
            · exact fun _ _ h => by cases h

theorem decides_handler (r : ProcurementRequest) :
    Decides path cuids (fun x m _ => Holds x m) r.handler 0 w := by
  cases r with
  | createPurchaseOrder user body =>
      refine decides_of_undecided (All.bind (All.await fun _ _ _ h => by cases h)
        fun created => ?_) fun _ _ _ h => by cases h
      cases created <;> trivial
  | approvePurchaseOrder purchaseOrderId user status =>
      refine Safe.bind (decides_approvePurchaseOrder.mono fun x m v _ hx => ?_)
      cases x with
      | error e =>
          intro id u h
          cases h
      | ok r =>
          intro v' _ id u h
          cases h
          exact hx rfl
  | updateStatusTransfer purchaseOrderId user =>
      exact decides_of_undecided (All.await fun _ _ _ h => by cases h) fun _ _ _ h => by cases h
  | createStockImport user body =>
      refine decides_of_undecided (All.bind (All.await fun _ _ _ h => by cases h)
        fun poItems => ?_) fun _ _ _ h => by cases h
      cases body.items.mapM (Numbers.itemWithPrice poItems) with
      | error e =>
          trivial
      | ok items =>
          dsimp only
          cases Numbers.stockImportInput user body items with
          | none =>
              trivial
          | some data =>
              refine All.bind (All.await fun _ _ _ h => by cases h) fun created => ?_
              cases created <;> trivial
  | getStockImportDetail purchaseOrderId =>
      refine decides_of_undecided (All.bind (All.await fun _ _ _ h => by cases h)
        fun row => ?_) fun _ _ _ h => by cases h
      cases row <;> trivial

end Handlers

/-! ### Runs -/

section Runs

variable {path : TransferPath} {cuids : Nat → String}

theorem OrdersDecided.env
    {e : ProcurementEvent} {w w' : ProcurementWorld} {p : Option (ProcurementService _)}
    (h : OrdersDecided w)
    (henv : (procurementServer cuids).env e w = some (w', p)) :
    OrdersDecided w' ∧ w'.decisions = w.decisions ∧ OrdersStep path w w' := by
  cases e with
  | arrive r =>
      cases henv
      exact ⟨h, rfl, .refl w⟩
  | tick ms =>
      cases henv
      exact ⟨⟨h.once, h.orders, h.users⟩, rfl, .refl w⟩

theorem procurementServer_decides :
    EnvSafeTo (decisionLogic path cuids) (procurementServer cuids) (fun x m _ => Holds x m)
      fun _ _ => True := by
  intro w F e w' p hinv _ henv
  refine ⟨trivial, ?_⟩
  cases e with
  | arrive r =>
      cases henv
      exact ⟨0, by rwa [zero_add], decides_handler r⟩
  | tick ms =>
      cases henv
      exact ⟨⟨hinv.1.once, hinv.1.orders, hinv.1.users⟩, hinv.2⟩

/-- A decision that was returned is the one that was written down. -/
theorem returned_decided
    {c : ProcurementState} {i : Nat} {purchaseOrderId : String} {u : Nat}
    (hc : BalancedTo (decisionLogic path cuids) (procurementServer cuids)
      (fun x m _ => Holds x m) c)
    (hi : c.threads[i]? = some (.ret (.decided purchaseOrderId u))) :
    ⟨purchaseOrderId, u⟩ ∈ c.world.decisions := by
  obtain ⟨ms, hthreads, -, hle⟩ := hc
  obtain ⟨ms₁, m, ms₂, rfl, hsafe, -⟩ := forall₂_split hthreads hi
  have hm : m ≤ (ms₁ ++ m :: ms₂).sum := by
    rw [List.sum_append, List.sum_cons, add_left_comm]
    exact Multiset.le_add_right _ _
  exact Multiset.mem_coe.mp
    (Multiset.mem_of_le (hm.trans hle) (hsafe c.world trivial purchaseOrderId u rfl))

/-- Two handlers cannot both have returned a decision on an order. -/
theorem not_returned_twice
    {c : ProcurementState} {i j : Nat} {purchaseOrderId : String} {u u' : Nat}
    (hc : BalancedTo (decisionLogic path cuids) (procurementServer cuids)
      (fun x m _ => Holds x m) c)
    (hij : i < j)
    (hi : c.threads[i]? = some (.ret (.decided purchaseOrderId u)))
    (hj : c.threads[j]? = some (.ret (.decided purchaseOrderId u'))) :
    False := by
  obtain ⟨m, m', F, ⟨hdecided, hle⟩, hm, hm'⟩ := hc.returned_two hij hi hj
  have hpair : ({⟨purchaseOrderId, u⟩} + {⟨purchaseOrderId, u'⟩} :
      Multiset PurchaseDecision) ≤ c.world.decisions := by
    refine (add_le_add (Multiset.singleton_le.mpr (hm _ _ rfl))
      (Multiset.singleton_le.mpr (hm' _ _ rfl))).trans (le_trans ?_ hle)
    rw [← add_assoc]
    exact Multiset.le_add_right _ _
  -- the orders of the decisions are pairwise different
  have honce := Multiset.map_le_map (f := PurchaseDecision.purchaseOrderId) hpair
  have hnodup : (Multiset.map PurchaseDecision.purchaseOrderId
      (c.world.decisions : Multiset PurchaseDecision)).Nodup := hdecided.once
  have := Multiset.nodup_of_le honce hnodup
  simp at this

end Runs

/--
**States of purchase orders.** From any tables whose orders are new, along every run whose
statements are in order: each step moves the orders along their automata; an order is
decided at most once, by the user in `approvedById`; and at most one call that decides on
an order returns, that of this user.
-/
theorem purchaseOrders_inOrder
    (path : TransferPath) (cuids : Nat → String) (w : ProcurementWorld)
    (as : List (Action ProcurementEvent)) (c : ProcurementState)
    (hnew : OrdersNew w)
    (hmeets : Meets (procurementServer cuids).step
      (System.Conforms (fun _ _ => True) (InOrder path cuids)) ⟨w, []⟩ as)
    (hrun : runs (procurementServer cuids).step ⟨w, []⟩ as = some c) :
    Meets (procurementServer cuids).step
        (System.Respects (procurementServer cuids) (OrdersStep path)) ⟨w, []⟩ as ∧
      OrdersDecided c.world ∧
      (∀ (i j : Nat) purchaseOrderId u u', i < j →
        c.threads[i]? = some (ret (.decided purchaseOrderId u)) →
        c.threads[j]? ≠ some (ret (.decided purchaseOrderId u'))) ∧
      ∀ (i : Nat) purchaseOrderId u, c.threads[i]? = some (ret (.decided purchaseOrderId u)) →
        ∃ p, c.world.db.purchaseOrders.find purchaseOrderId = some p ∧
          p.status ≠ .pending ∧ p.approvedById = some u := by
  have hstart : BalancedTo (decisionLogic path cuids) (procurementServer cuids)
      (fun x m _ => Holds x m) ⟨w, []⟩ :=
    balancedTo_start ⟨hnew.decided, Multiset.zero_le _⟩
  have hidle : ∀ (m : Multiset PurchaseDecision) (v : ProcurementWorld),
      (decisionLogic path cuids).done m → Holds (.ok (procurementServer cuids).idle) m :=
    fun _ _ _ _ _ h => by cases h
  have hc := balancedTo_runs hidle procurementServer_decides hstart hmeets hrun
  have hdecided : OrdersDecided c.world := by
    obtain ⟨-, -, hdecided, -⟩ := hc
    exact hdecided
  refine ⟨?_, hdecided, fun i j purchaseOrderId u u' hij hi hj =>
    not_returned_twice hc hij hi hj, fun i purchaseOrderId u hi =>
      hdecided.users _ (returned_decided hc hi)⟩
  refine Meets.of_invariant (fun d a hd hg => ?_)
    (fun d a d' hd hg hstep => (hd.step hidle procurementServer_decides hg hstep).1) hstart hmeets
  obtain ⟨-, -, hdecided, -⟩ := hd
  exact System.respects_of_conforms (procurementServer cuids) OrdersStep.refl
    (fun e w' p _ henv => (hdecided.env henv).2.2)
    (fun s o w' r hg ho hexec => (procurementExec_effect hexec).ordersStep hdecided hg ho) hg

/-- An order is created, approved, processed and imported. -/
def approvedProcessedImported : List (Action ProcurementEvent) :=
  procurementRound 0 1 samplePurchase ++
    procurementRound 1 2 (.approvePurchaseOrder "cm" 2 .approved) ++
    procurementRound 2 1 (.updateStatusTransfer "cm" 2) ++
    procurementRound 3 2 (sampleImport 2 2)

/-- What is left of the orders. -/
def orderStates (c : ProcurementState) :
    List (PurchaseOrderStatus × PurchaseOrderType × Option Nat) :=
  c.world.db.purchaseOrders.rows.map fun p => (p.status, p.statusTransfer, p.approvedById)

theorem purchaseOrders_inOrder_imported :
    ∃ c, runs (procurementServer sampleDeployment.cuids).step ⟨sampleProcurement, []⟩
        approvedProcessedImported = some c ∧
      orderStates c = [(.approved, .purchase, some 2)] ∧
      OrdersDecided c.world := by
  have hstates : (runs (procurementServer sampleDeployment.cuids).step ⟨sampleProcurement, []⟩
      approvedProcessedImported).map orderStates = some [(.approved, .purchase, some 2)] := by
    decide +kernel
  obtain ⟨c, hrun, hstates⟩ := Option.map_eq_some_iff.mp hstates
  exact ⟨c, hrun, hstates, (purchaseOrders_inOrder .arrows sampleDeployment.cuids
    sampleProcurement approvedProcessedImported c ⟨rfl, fun _ h => by cases h⟩
    (by decide +kernel) hrun).2.1⟩

/-- Two users decide at the same time, a third processes the order. -/
def decidedTwice : List (Action ProcurementEvent) :=
  procurementRound 0 1 samplePurchase ++
    .env (.arrive (.approvePurchaseOrder "cm" 2 .approved)) ::
    .env (.arrive (.approvePurchaseOrder "cm" 3 .rejected)) ::
    .run 1 0 .ok :: .run 2 0 .ok :: .run 1 0 .ok :: .run 2 0 .ok ::
    procurementRound 3 1 (.updateStatusTransfer "cm" 1)

/-- Both decisions are made, and `approvedById` is neither of the two users. -/
theorem decided_twice :
    ¬ ∀ (w : ProcurementWorld) (as : List (Action ProcurementEvent)) (c : ProcurementState),
      OrdersNew w →
      runs (procurementServer sampleDeployment.cuids).step ⟨w, []⟩ as = some c →
      OrdersDecided c.world := by
  intro h
  have hstates : (runs (procurementServer sampleDeployment.cuids).step ⟨sampleProcurement, []⟩
      decidedTwice).map (fun c => (c.world.decisions, orderStates c)) =
        some ([⟨"cm", 2⟩, ⟨"cm", 3⟩], [(.rejected, .processing, some 1)]) := by
    decide +kernel
  obtain ⟨c, hrun, hstates⟩ := Option.map_eq_some_iff.mp hstates
  have honce := (h sampleProcurement decidedTwice c ⟨rfl, fun _ h => by cases h⟩ hrun).once
  rw [(Prod.mk.inj hstates).1] at honce
  simp at honce

end BookStore
