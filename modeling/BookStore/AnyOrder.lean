import Mathlib.Data.List.Basic

/-!
# Lists in any order

What can be said of every order of a list, and of the first part of a sorted one.

* `best_of_take`: the first part of a sorted list has the best elements.
* `Arrangement`: an order for the rows of a query that asks for none.
-/

namespace BookStore

variable {α : Type}

/-- What is left out of a sorted list comes after what is kept. -/
theorem best_of_take
    {R : α → α → Prop} {l : List α} {k : Nat} {a b : α}
    (hl : l.Pairwise R)
    (ha : a ∈ l.take k)
    (hb : b ∈ l)
    (hout : b ∉ l.take k) :
    R a b := by
  rw [← List.take_append_drop k l] at hl hb
  exact (List.pairwise_append.mp hl).2.2 a ha b
    ((List.mem_append.mp hb).resolve_left hout)

/-! ### Arrangements -/

/-- An order for every list of rows, where a query asks for none -/
structure Arrangement (α : Type) where
  rows : List α → List α
  perm : ∀ l, (rows l).Perm l

namespace Arrangement

/-- The order of the table -/
def table : Arrangement α where
  rows := id
  perm := fun _ => .refl _

/-- Some rows come before the others. -/
def first (p : α → Bool) : Arrangement α where
  rows := fun l => l.filter p ++ l.filter fun a => !p a
  perm := List.filter_append_perm p

/-- The first row is one of them, if there is any. -/
theorem rows_first_eq_cons {p : α → Bool} {l : List α} {a : α} (ha : a ∈ l) (hp : p a = true) :
    ∃ b rest, (first p).rows l = b :: rest ∧ p b = true := by
  cases hl : l.filter p with
  | nil =>
      exact absurd (List.mem_filter.mpr ⟨ha, hp⟩) (hl ▸ List.not_mem_nil)
  | cons b bs =>
      refine ⟨b, bs ++ l.filter fun a => !p a, ?_, ?_⟩
      · show l.filter p ++ _ = _
        rw [hl, List.cons_append]
      · have hb : b ∈ l.filter p := hl ▸ List.mem_cons_self
        exact (List.mem_filter.mp hb).2

end Arrangement

end BookStore
