import BookStore.OrderItems

/-!
# Orders and the jobs that write their items

An order gets its items from the one job that its checkout enqueues.

* `JobOf` says of a job that it has the lines of its order, `queued` counts the jobs of an order.
* `FulfilRely` is what no statement takes back: `exec_fulfilRely`.
-/

namespace BookStore

open Async Program

/-- The job is one of order `payload.orderId`. -/
structure JobOf (payload : CheckoutJobPayload) (w : World) : Prop where
  lt : payload.orderId < w.db.orders.next
  complete : payload.Complete
  lines : ∀ o, w.db.orders.find payload.orderId = some o →
    o.requested = jobLines payload

/-- The queued jobs of order `k`. -/
def queued (k : Nat) (w : World) : ℕ :=
  (w.queue.filter fun p => decide (p.orderId = k)).length

/-- What no step takes back. -/
structure FulfilRely (w w' : World) : Prop where
  orders : OrdersPersist w w'
  snapshots : ∀ id s, w.db.snapshots.find id = some s →
    w'.db.snapshots.find id = some s
  variants : ∀ v, w'.db.hasVariant v = w.db.hasVariant v

variable {dep : Deployment} {w w' : World}

theorem FulfilRely.refl (w : World) : FulfilRely w w :=
  ⟨.refl w, fun _ _ h => h, fun _ => rfl⟩

theorem FulfilRely.trans
    {u v w : World}
    (huv : FulfilRely u v)
    (hvw : FulfilRely v w) :
    FulfilRely u w where
  orders := huv.orders.trans hvw.orders
  snapshots := fun id s hs => hvw.snapshots id s (huv.snapshots id s hs)
  variants := fun v' => (hvw.variants v').trans (huv.variants v')

theorem find_createSnapshots
    {items : List SnapshotInput} {t : Table BookVariantSnapshot} {id : Nat}
    {s : BookVariantSnapshot}
    (hs : t.find id = some s) :
    (items.foldl insertSnapshot t).find id = some s := by
  rw [Table.find_eq_some_iff] at hs ⊢
  exact ⟨createSnapshots_mem hs.1, hs.2⟩

theorem exec_fulfilRely
    {s : Stmt} {r : Response s}
    (h : exec dep s w = .ok (w', r)) :
    FulfilRely w w' where
  orders := exec_ordersPersist dep h
  snapshots := by
    intro id row hrow
    rw [(exec_effects dep h).snapshots]
    cases s with
    | createSnapshots items =>
        exact find_createSnapshots hrow
    | _ =>
        exact hrow
  variants := exec_hasVariant h

theorem JobOf.of_rely
    {payload : CheckoutJobPayload}
    (h : JobOf payload w)
    (hrely : FulfilRely w w') :
    JobOf payload w' where
  lt := h.lt.trans_le hrely.orders.next_le
  complete := h.complete
  lines := by
    intro o' ho'
    obtain ⟨o, ho, hsame⟩ := hrely.orders.persist _ o' h.lt ho'
    rw [hsame.requested]
    exact h.lines o ho

end BookStore
