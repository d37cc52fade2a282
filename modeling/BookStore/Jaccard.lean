import Mathlib.Algebra.Order.Field.Basic
import Mathlib.Algebra.Order.Ring.Rat
import Mathlib.Data.Finset.Card
import Mathlib.Data.Finset.Dedup

/-!
# The similarity of finite sets

The Jaccard similarity is the size of the intersection over the size of the union.

* `jaccard_pos_iff` and `jaccard_le_one`: it is in `[0, 1]`, and positive exactly for sets
  that meet; then the union is not empty.
* `jaccard_toFinset`: it is computed from lists by leaving out duplicates.
-/

namespace BookStore

variable {α : Type} [DecidableEq α]

def jaccard (s t : Finset α) : ℚ :=
  (s ∩ t).card / (s ∪ t).card

section Jaccard

variable {s t : Finset α}

theorem card_union_pos (h : (s ∩ t).Nonempty) : 0 < (s ∪ t).card :=
  h.card_pos.trans_le (Finset.card_le_card Finset.inter_subset_union)

theorem jaccard_le_one : jaccard s t ≤ 1 :=
  div_le_one_of_le₀ (Nat.cast_le.mpr (Finset.card_le_card Finset.inter_subset_union))
    (Nat.cast_nonneg _)

theorem jaccard_pos_iff : 0 < jaccard s t ↔ (s ∩ t).Nonempty := by
  constructor
  · intro h
    by_contra hempty
    rw [Finset.not_nonempty_iff_eq_empty] at hempty
    rw [jaccard, hempty, Finset.card_empty, Nat.cast_zero, zero_div] at h
    exact lt_irrefl 0 h
  · intro h
    exact div_pos (Nat.cast_pos.mpr h.card_pos) (Nat.cast_pos.mpr (card_union_pos h))

/-- On lists: the elements of one that are in the other, over those of both -/
theorem jaccard_toFinset (l m : List α) :
    ((l.dedup.filter fun x => decide (x ∈ m.dedup)).length : ℚ) /
        ((l.dedup ++ m.dedup).dedup.length : ℚ) =
      jaccard l.toFinset m.toFinset := by
  have hinter : (l.toFinset ∩ m.toFinset).card =
      (l.dedup.filter fun x => decide (x ∈ m.dedup)).length := by
    rw [← List.toFinset_card_of_nodup ((List.nodup_dedup l).filter _)]
    congr 1
    ext x
    simp
  have hunion : (l.toFinset ∪ m.toFinset).card = (l.dedup ++ m.dedup).dedup.length := by
    rw [← List.card_toFinset]
    congr 1
    ext x
    simp
  rw [jaccard, hinter, hunion]

end Jaccard

end BookStore
