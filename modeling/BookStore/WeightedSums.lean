import Mathlib.Algebra.BigOperators.Group.Finset.Basic
import Mathlib.Algebra.BigOperators.Intervals
import Mathlib.Data.List.GetD
import Mathlib.Data.Nat.ModEq

/-!
# Check digits by weighted sums

`weightedSum value weight l` adds up the values of the elements of `l`, each times the weight
of its position.  Where the weight of a position is coprime to the modulus, a change of that
position alone changes the sum: `value_eq_of_weightedSum`.
-/

namespace BookStore

variable {α : Type} {value : α → Nat} {weight : Nat → Nat}

def weightedSum (value : α → Nat) (weight : Nat → Nat) (l : List α) : Nat :=
  l.zipIdx.foldl (fun acc x => acc + value x.1 * weight x.2) 0

theorem weightedSum_eq (l : List α) :
    weightedSum value weight l = (l.zipIdx.map fun x => value x.1 * weight x.2).sum := by
  rw [weightedSum, List.sum_eq_foldl, List.foldl_map]

/-- The sum over the positions -/
theorem weightedSum_eq_sum (l : List α) (default : α) :
    weightedSum value weight l =
      ∑ i ∈ Finset.range l.length, value (l.getD i default) * weight i := by
  rw [weightedSum_eq]
  induction l using List.reverseRecOn with
  | nil =>
      rfl
  | append_singleton l a ih =>
      rw [List.zipIdx_append, List.map_append, List.sum_append, ih, List.length_append,
        List.length_singleton, Finset.sum_range_succ]
      refine congrArg₂ (· + ·) (Finset.sum_congr rfl fun i hi => ?_) ?_
      · rw [List.getD_append _ _ _ _ (Finset.mem_range.mp hi)]
      · simp

/-- One position apart from the others -/
theorem weightedSum_append_cons (a b : List α) (x : α) :
    weightedSum value weight (a ++ x :: b) =
      weightedSum value weight a + value x * weight a.length +
        ((b.zipIdx (a.length + 1)).map fun x => value x.1 * weight x.2).sum := by
  simp only [weightedSum_eq, List.zipIdx_append, List.zipIdx_cons, List.map_append, List.map_cons,
    List.sum_append, List.sum_cons, Nat.zero_add, Nat.add_assoc]

/-- Two lists that differ in one position, with sums that leave no remainder -/
theorem value_eq_of_weightedSum
    {m : Nat} {a b : List α} {x y : α}
    (hweight : Nat.Coprime m (weight a.length))
    (hx : value x < m) (hy : value y < m)
    (h : weightedSum value weight (a ++ x :: b) % m = 0)
    (h' : weightedSum value weight (a ++ y :: b) % m = 0) :
    value x = value y := by
  have hsums : weightedSum value weight (a ++ x :: b) ≡
      weightedSum value weight (a ++ y :: b) [MOD m] := h.trans h'.symm
  rw [weightedSum_append_cons, weightedSum_append_cons] at hsums
  have hproduct : value x * weight a.length ≡ value y * weight a.length [MOD m] :=
    Nat.ModEq.add_left_cancel' _ (Nat.ModEq.add_right_cancel' _ hsums)
  exact Nat.ModEq.eq_of_lt_of_lt (Nat.ModEq.cancel_right_of_coprime hweight hproduct) hx hy

end BookStore
