import Mathlib.Data.List.Nodup

/-!
# Rows under a unique key

A `Registry` is the list of its rows in insertion order.  The unique key `ident` is given
along with a row, so a row can be refused; that no two rows share it is a field, and every
operation keeps it.

* `find` reads a row by its key, `add` and `addAll` append rows whose keys are free,
  `update` changes the row with a key and leaves its key alone.
* `find_of_append` and `find_update` say what is read afterwards.

The module knows nothing about what the rows and the keys are.
-/

namespace BookStore

/-- Rows with a unique key. -/
class Identified (K : outParam Type) (Row : Type) where
  ident : Row → K

export Identified (ident)

/-- Rows with pairwise different keys. -/
structure Registry (Row : Type) {K : Type} [Identified K Row] where
  rows : List Row
  nodup : (rows.map ident).Nodup

namespace Registry

variable {K Row : Type} [Identified K Row]

def empty : Registry Row where
  rows := []
  nodup := List.nodup_nil

section

variable [DecidableEq K]

/-- The row with a key. -/
def find (t : Registry Row) (k : K) : Option Row :=
  t.rows.find? fun r => decide (ident r = k)

/-- Append a row, unless its key is taken. -/
def add (t : Registry Row) (r : Row) : Option (Registry Row) :=
  if h : ident r ∈ t.rows.map ident then none
  else
    some
      { rows := t.rows ++ [r]
        nodup := by
          rw [List.map_append, List.map_singleton]
          exact t.nodup.append (List.nodup_singleton _)
            (List.disjoint_singleton.mpr h) }

/-- Append rows, unless one of their keys is taken. -/
def addAll (t : Registry Row) : List Row → Option (Registry Row)
  | [] => some t
  | r :: rs => (t.add r).bind fun t => t.addAll rs

end

/-- Change the row with a key; the keys stay. -/
def update
    [DecidableEq K]
    (t : Registry Row)
    (k : K)
    (f : Row → Row)
    (hf : ∀ r, ident (f r) = ident r := by intro r; rfl) : Registry Row where
  rows := t.rows.map fun r => if ident r = k then f r else r
  nodup := by
    have hkeys : (t.rows.map fun r => if ident r = k then f r else r).map ident =
        t.rows.map ident := by
      rw [List.map_map]
      refine List.map_congr_left fun r _ => ?_
      by_cases h : ident r = k <;> simp [h, hf]
    rw [hkeys]
    exact t.nodup

variable {t t' : Registry Row} {k : K} {r r' : Row} {rs : List Row}

/-! ### Keys -/

theorem eq_of_ident_eq (hr : r ∈ t.rows) (hr' : r' ∈ t.rows) (h : ident r = ident r') :
    r = r' :=
  List.inj_on_of_nodup_map t.nodup hr hr' h

/-- The keys of the rows that were appended were free. -/
theorem ne_of_append (h : t'.rows = t.rows ++ rs) (hr : r ∈ t.rows) (hr' : r' ∈ rs) :
    ident r ≠ ident r' := by
  have hnodup := t'.nodup
  rw [h, List.map_append] at hnodup
  have hdisjoint := List.disjoint_of_nodup_append hnodup
  intro heq
  exact hdisjoint (List.mem_map_of_mem hr) (heq ▸ List.mem_map_of_mem hr')

variable [DecidableEq K]

theorem find_eq_some_iff : t.find k = some r ↔ r ∈ t.rows ∧ ident r = k := by
  constructor
  · intro h
    exact ⟨List.mem_of_find?_eq_some h, by simpa using List.find?_some h⟩
  · rintro ⟨hr, rfl⟩
    cases h : t.find (ident r) with
    | none =>
        have := List.find?_eq_none.mp h r hr
        simp at this
    | some r' =>
        have hk : ident r' = ident r := by simpa using List.find?_some h
        rw [eq_of_ident_eq (List.mem_of_find?_eq_some h) hr hk]

theorem find_mem (h : t.find k = some r) : r ∈ t.rows :=
  (find_eq_some_iff.mp h).1

theorem find_ident (h : t.find k = some r) : ident r = k :=
  (find_eq_some_iff.mp h).2

theorem find_of_mem (h : r ∈ t.rows) : t.find (ident r) = some r :=
  find_eq_some_iff.mpr ⟨h, rfl⟩

theorem find_eq_none_iff : t.find k = none ↔ ∀ r, r ∈ t.rows → ident r ≠ k := by
  simp [find, List.find?_eq_none]

/-! ### Reading after an operation -/

theorem rows_add (h : t.add r = some t') : t'.rows = t.rows ++ [r] := by
  unfold add at h
  split_ifs at h
  cases h
  rfl

theorem rows_addAll (h : t.addAll rs = some t') : t'.rows = t.rows ++ rs := by
  induction rs generalizing t with
  | nil =>
      cases h
      rw [List.append_nil]
  | cons r rs ih =>
      obtain ⟨u, hu, hrest⟩ := Option.bind_eq_some_iff.mp h
      rw [ih hrest, rows_add hu, List.append_assoc, List.singleton_append]

/-- The rows that were there are still found. -/
theorem find_of_append (h : t'.rows = t.rows ++ rs) (hr : t.find k = some r) :
    t'.find k = some r := by
  obtain ⟨hmem, hk⟩ := find_eq_some_iff.mp hr
  exact find_eq_some_iff.mpr ⟨by rw [h]; exact List.mem_append_left rs hmem, hk⟩

@[simp] theorem rows_update (f : Row → Row) (hf : ∀ r, ident (f r) = ident r) :
    (t.update k f hf).rows = t.rows.map fun r => if ident r = k then f r else r := rfl

theorem find_update (f : Row → Row) (hf : ∀ r, ident (f r) = ident r) (j : K) :
    (t.update k f hf).find j = if j = k then (t.find j).map f else t.find j := by
  have hfind : (t.update k f hf).find j =
      (t.find j).map fun r => if ident r = k then f r else r := by
    simp only [find, rows_update, List.find?_map]
    congr 2
    funext r
    by_cases h : ident r = k <;> simp [Function.comp, h, hf]
  rw [hfind]
  cases hj : t.find j with
  | none =>
      simp
  | some r =>
      simp only [Option.map_some, find_ident hj]
      split_ifs <;> rfl

end Registry

end BookStore
