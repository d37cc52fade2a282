import Mathlib.Data.List.Basic
import Mathlib.Data.List.Pairwise

/-!
# Representatives under an equality

A table keeps one row for each class of labels.  `Ensures` finds the row that stands for
a label, or makes one whose label it is; `EnsuresAll` does so for one label after another.

* rows stay apart, and old rows stay;
* a row that was made has one of the labels, and no old row stood for it;
* the first label has its own row if no old row stood for it.
-/

namespace BookStore
namespace Representatives

variable {ρ α : Type}

section Definitions

variable (eqv : α → α → Prop) (label : ρ → α)

def Apart (rows : List ρ) : Prop :=
  rows.Pairwise fun r s => ¬ eqv (label r) (label s)

/-- The rows before and after, and the row that stands for `a` -/
inductive Ensures (a : α) : List ρ → List ρ → ρ → Prop
  | found
      {rows : List ρ} {r : ρ}
      (hmem : r ∈ rows)
      (hstands : eqv (label r) a) :
      Ensures a rows rows r
  | made
      {rows : List ρ} {r : ρ}
      (hlabel : label r = a)
      (hnone : ∀ s, s ∈ rows → ¬ eqv (label s) a) :
      Ensures a rows (rows ++ [r]) r

/-- Labels one after another, each with its row -/
inductive EnsuresAll : List (α × ρ) → List ρ → List ρ → Prop
  | nil {rows : List ρ} :
      EnsuresAll [] rows rows
  | cons
      {a : α} {r : ρ} {rest : List (α × ρ)} {rows rows' rows'' : List ρ}
      (hfirst : Ensures eqv label a rows rows' r)
      (hrest : EnsuresAll rest rows' rows'') :
      EnsuresAll ((a, r) :: rest) rows rows''

end Definitions

variable {eqv : α → α → Prop} {label : ρ → α} {a : α} {r : ρ} {rows rows' : List ρ}

/-- One row stands for a class. -/
theorem Apart.eq
    (heqv : Equivalence eqv)
    (h : Apart eqv label rows)
    {s : ρ}
    (hr : r ∈ rows)
    (hs : s ∈ rows)
    (hrs : eqv (label r) (label s)) :
    r = s := by
  have : Std.Symm fun r s => ¬ eqv (label r) (label s) :=
    ⟨fun r s hrs hsr => hrs (heqv.symm hsr)⟩
  by_contra hne
  exact List.Pairwise.forall h hr hs hne hrs

theorem Apart.eq_of_stand
    (heqv : Equivalence eqv)
    (h : Apart eqv label rows)
    {s : ρ}
    (hr : r ∈ rows)
    (hs : s ∈ rows)
    (hra : eqv (label r) a)
    (hsa : eqv (label s) a) :
    r = s :=
  h.eq heqv hr hs (heqv.trans hra (heqv.symm hsa))

namespace Ensures

variable (h : Ensures eqv label a rows rows' r)
include h

theorem mem : r ∈ rows' := by
  cases h with
  | found hmem =>
      exact hmem
  | made =>
      simp

theorem stands (heqv : Equivalence eqv) : eqv (label r) a := by
  cases h with
  | found _ hstands =>
      exact hstands
  | made hlabel =>
      exact hlabel ▸ heqv.refl _

theorem kept : rows <+: rows' := by
  cases h with
  | found =>
      exact List.prefix_rfl
  | made =>
      exact List.prefix_append ..

theorem apart (hrows : Apart eqv label rows) : Apart eqv label rows' := by
  cases h with
  | found =>
      exact hrows
  | made hlabel hnone =>
      refine List.pairwise_append.mpr ⟨hrows, List.pairwise_singleton _ _, ?_⟩
      intro s hs t ht
      rw [List.mem_singleton.mp ht, hlabel]
      exact hnone s hs

theorem old_or_made {s : ρ} (hs : s ∈ rows') :
    s ∈ rows ∨ label s = a ∧ ∀ t, t ∈ rows → ¬ eqv (label t) (label s) := by
  cases h with
  | found =>
      exact .inl hs
  | made hlabel hnone =>
      refine (List.mem_append.mp hs).imp_right fun hs => ?_
      rw [List.mem_singleton.mp hs, hlabel]
      exact ⟨rfl, hnone⟩

theorem label_eq (hnone : ∀ s, s ∈ rows → ¬ eqv (label s) a) : label r = a := by
  cases h with
  | found hmem hstands =>
      exact absurd hstands (hnone r hmem)
  | made hlabel =>
      exact hlabel

end Ensures

namespace EnsuresAll

variable {answers : List (α × ρ)}

theorem kept (h : EnsuresAll eqv label answers rows rows') : rows <+: rows' := by
  induction h with
  | nil =>
      exact List.prefix_rfl
  | cons hfirst _ ih =>
      exact hfirst.kept.trans ih

theorem apart
    (h : EnsuresAll eqv label answers rows rows')
    (hrows : Apart eqv label rows) :
    Apart eqv label rows' := by
  induction h with
  | nil =>
      exact hrows
  | cons hfirst _ ih =>
      exact ih (hfirst.apart hrows)

/-- The row of a label is there, and stands for it. -/
theorem answer
    (heqv : Equivalence eqv)
    (h : EnsuresAll eqv label answers rows rows')
    (ha : (a, r) ∈ answers) :
    r ∈ rows' ∧ eqv (label r) a := by
  induction h with
  | nil =>
      cases ha
  | cons hfirst hrest ih =>
      rcases List.mem_cons.mp ha with heq | ha
      · cases heq
        exact ⟨hrest.kept.subset hfirst.mem, hfirst.stands heqv⟩
      · exact ih ha

theorem old_or_made
    (h : EnsuresAll eqv label answers rows rows')
    {s : ρ}
    (hs : s ∈ rows') :
    s ∈ rows ∨
      label s ∈ answers.map Prod.fst ∧ ∀ t, t ∈ rows → ¬ eqv (label t) (label s) := by
  induction h with
  | nil =>
      exact .inl hs
  | cons hfirst hrest ih =>
      rcases ih hs with hold | ⟨hmem, hnone⟩
      · exact (hfirst.old_or_made hold).imp_right fun hmade =>
          ⟨List.mem_cons.mpr (.inl hmade.1), hmade.2⟩
      · exact .inr ⟨List.mem_cons_of_mem _ hmem, fun t ht =>
          hnone t (hfirst.kept.subset ht)⟩

/-- The first label has its own row if no old row stood for it. -/
theorem first
    (h : EnsuresAll eqv label ((a, r) :: answers) rows rows')
    (hnone : ∀ s, s ∈ rows → ¬ eqv (label s) a) :
    r ∈ rows' ∧ label r = a := by
  cases h with
  | cons hfirst hrest =>
      exact ⟨hrest.kept.subset hfirst.mem, hfirst.label_eq hnone⟩

end EnsuresAll

end Representatives
end BookStore
