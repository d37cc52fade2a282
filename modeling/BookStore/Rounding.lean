import Mathlib.Algebra.BigOperators.Group.List.Basic
import Mathlib.Algebra.Order.BigOperators.Group.List
import Mathlib.Algebra.Order.Floor.Ring
import Mathlib.Tactic.Linarith
import Mathlib.Tactic.Ring

/-!
# Rounding

`nearest x` is the integer nearest to `x`, the greater one where two are equally near, and
`residue x` is what is lost.  Rounding goes through a multiple, or through a sum, exactly
if the residues stay within half a unit when they are multiplied, or added.

`Doubles` is a rounding after each operation that keeps the whole numbers up to a bound.  A sum
of products of whole numbers is exact while it stays within this bound.
-/

namespace BookStore

section Rounding

variable {K : Type} [Field K] [LinearOrder K] [IsStrictOrderedRing K] [FloorRing K]

def nearest (x : K) : ℤ :=
  ⌊x + 1 / 2⌋

def residue (x : K) : K :=
  x - nearest x

/-- The error is one that rounding can make. -/
def WithinHalf (e : K) : Prop :=
  -(1 / 2) ≤ e ∧ e < 1 / 2

theorem nearest_eq_iff {x : K} {n : ℤ} : nearest x = n ↔ WithinHalf (x - n) := by
  rw [nearest, Int.floor_eq_iff, WithinHalf]
  constructor
  · rintro ⟨hle, hlt⟩
    constructor <;> linarith
  · rintro ⟨hle, hlt⟩
    constructor <;> linarith

theorem nearest_mul_eq_iff {x : K} {q : ℤ} :
    nearest (x * q) = nearest x * q ↔ WithinHalf (residue x * q) := by
  rw [nearest_eq_iff, residue]
  push_cast
  rw [sub_mul]

/-- The nearest integer to a sum, and another sum of integers -/
theorem nearest_sum_eq_iff {ι : Type} {xs : List ι} {f e : ι → K} {n : ι → ℤ}
    (h : ∀ i, i ∈ xs → f i = n i + e i) :
    nearest (xs.map f).sum = (xs.map n).sum ↔ WithinHalf (xs.map e).sum := by
  have hsum : (xs.map f).sum = ((xs.map n).sum : ℤ) + (xs.map e).sum := by
    induction xs with
    | nil =>
        simp
    | cons i xs ih =>
        rw [List.forall_mem_cons] at h
        simp only [List.map_cons, List.sum_cons, h.1, ih h.2]
        push_cast
        ring
  rw [nearest_eq_iff, hsum, add_sub_cancel_left]

end Rounding

/-! ### Whole numbers -/

def IsWhole (x : ℚ) : Prop :=
  x.den = 1

instance (x : ℚ) : Decidable (IsWhole x) :=
  inferInstanceAs (Decidable (x.den = 1))

theorem isWhole_iff {x : ℚ} : IsWhole x ↔ ∃ n : ℤ, x = n := by
  constructor
  · intro h
    exact ⟨x.num, (Rat.coe_int_num_of_den_eq_one h).symm⟩
  · rintro ⟨n, rfl⟩
    exact Rat.den_intCast n

theorem isWhole_intCast (n : ℤ) : IsWhole n :=
  isWhole_iff.mpr ⟨n, rfl⟩

theorem IsWhole.add {x y : ℚ} (hx : IsWhole x) (hy : IsWhole y) : IsWhole (x + y) := by
  obtain ⟨m, rfl⟩ := isWhole_iff.mp hx
  obtain ⟨n, rfl⟩ := isWhole_iff.mp hy
  exact isWhole_iff.mpr ⟨m + n, (Int.cast_add m n).symm⟩

theorem IsWhole.mul {x y : ℚ} (hx : IsWhole x) (hy : IsWhole y) : IsWhole (x * y) := by
  obtain ⟨m, rfl⟩ := isWhole_iff.mp hx
  obtain ⟨n, rfl⟩ := isWhole_iff.mp hy
  exact isWhole_iff.mpr ⟨m * n, (Int.cast_mul m n).symm⟩

theorem IsWhole.sum {xs : List ℚ} (h : ∀ x, x ∈ xs → IsWhole x) : IsWhole xs.sum := by
  induction xs with
  | nil =>
      exact isWhole_intCast 0
  | cons x xs ih =>
      rw [List.forall_mem_cons] at h
      rw [List.sum_cons]
      exact h.1.add (ih h.2)

/-! ### Doubles -/

/-- What the result of an operation is rounded to -/
structure Doubles where
  round : ℚ → ℚ
  whole : ∀ x, IsWhole x → |x| ≤ 2 ^ 53 → round x = x

namespace Doubles

variable (d : Doubles)

/-- `sum + factor * times` for one pair after the other -/
def sumOfProducts (sum : ℚ) (pairs : List (ℚ × ℚ)) : ℚ :=
  pairs.foldl (fun sum pair => d.round (sum + d.round (d.round pair.1 * pair.2))) sum

theorem sumOfProducts_eq
    {pairs : List (ℚ × ℚ)} {sum : ℚ}
    (hsum : IsWhole sum)
    (hwhole : ∀ pair, pair ∈ pairs → IsWhole pair.1 ∧ IsWhole pair.2 ∧ |pair.1| ≤ 2 ^ 53)
    (hsize : |sum| + (pairs.map fun pair => |pair.1 * pair.2|).sum ≤ 2 ^ 53) :
    d.sumOfProducts sum pairs = sum + (pairs.map fun pair => pair.1 * pair.2).sum := by
  induction pairs generalizing sum with
  | nil =>
      simp [sumOfProducts]
  | cons pair pairs ih =>
      rw [List.forall_mem_cons] at hwhole
      obtain ⟨⟨hfactor, htimes, hbound⟩, hrest⟩ := hwhole
      rw [List.map_cons, List.sum_cons] at hsize
      have htail : 0 ≤ (pairs.map fun pair => |pair.1 * pair.2|).sum := by
        refine List.sum_nonneg fun x hx => ?_
        obtain ⟨pair, -, rfl⟩ := List.mem_map.mp hx
        exact abs_nonneg _
      have habs : |sum + pair.1 * pair.2| ≤ |sum| + |pair.1 * pair.2| := abs_add_le _ _
      have hproduct : IsWhole (pair.1 * pair.2) := hfactor.mul htimes
      have hstep : d.round (sum + d.round (d.round pair.1 * pair.2)) =
          sum + pair.1 * pair.2 := by
        rw [d.whole _ hfactor hbound, d.whole _ hproduct (by linarith [abs_nonneg sum]),
          d.whole _ (hsum.add hproduct) (by linarith)]
      have hnext := ih (hsum.add hproduct) hrest (by linarith)
      calc d.sumOfProducts sum (pair :: pairs)
          = d.sumOfProducts (sum + pair.1 * pair.2) pairs := by
            rw [← hstep]
            rfl
        _ = sum + ((pair :: pairs).map fun pair => pair.1 * pair.2).sum := by
            rw [hnext, List.map_cons, List.sum_cons, add_assoc]

end Doubles

end BookStore
