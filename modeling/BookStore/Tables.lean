import Mathlib.Algebra.BigOperators.Group.List.Basic
import Mathlib.Data.List.Nodup
import Mathlib.Tactic.Abel

/-!
# Tables with an auto-incremented key

A `Table` is the list of its rows in insertion order together with the next key.
No two rows share a key and no key has been handed out that is not below `next`;
both facts are fields, and every operation keeps them.

* `find` reads a row by its key, `insert` adds a row under the next key, `skip` leaves
  keys out, `updateWhere` and `deleteWhere` act on the rows that meet a condition.
* `total g t` adds `g` up over the rows; the lemmas say how each operation
  changes it.

The module knows nothing about what the rows are.
-/

namespace BookStore

/-- Rows with a numeric key. -/
class Keyed (Row : Type) where
  key : Row → Nat

export Keyed (key)

/-- Rows with pairwise different keys, all below the next one. -/
structure Table (Row : Type) [Keyed Row] where
  rows : List Row
  next : Nat
  nodup : (rows.map key).Nodup
  below : ∀ r, r ∈ rows → key r < next

namespace Table

variable {Row : Type} [Keyed Row]

/-- No rows; keys are handed out from 1 on. -/
def empty : Table Row where
  rows := []
  next := 1
  nodup := by simp
  below := by simp

/-- The row with a key. -/
def find (t : Table Row) (k : Nat) : Option Row :=
  t.rows.find? (fun r => decide (key r = k))

/-- The first row that meets a condition. -/
def findFirst (t : Table Row) (p : Row → Bool) : Option Row :=
  t.rows.find? p

/-- The rows that meet a condition. -/
def filter (t : Table Row) (p : Row → Bool) : List Row :=
  t.rows.filter p

/-- Add a row under the next key. -/
def insert
    (t : Table Row)
    (mk : Nat → Row)
    (hmk : ∀ n, key (mk n) = n := by intro n; rfl) : Table Row where
  rows := t.rows ++ [mk t.next]
  next := t.next + 1
  nodup := by
    rw [List.map_append, List.nodup_append]
    refine ⟨t.nodup, by simp, ?_⟩
    intro a ha b hb hab
    obtain ⟨r, hr, rfl⟩ := List.mem_map.mp ha
    simp only [List.map_cons, List.map_nil, List.mem_singleton, hmk] at hb
    have := t.below r hr
    omega
  below := by
    intro r hr
    rcases List.mem_append.mp hr with hr | hr
    · exact Nat.lt_succ_of_lt (t.below r hr)
    · rw [List.mem_singleton.mp hr, hmk]
      exact Nat.lt_succ_self _

/-- Keys that inserts have used up which failed. -/
def skip (t : Table Row) (n : Nat) : Table Row where
  rows := t.rows
  next := t.next + n
  nodup := t.nodup
  below := fun r hr => Nat.lt_add_right n (t.below r hr)

/-- Change the rows that meet a condition; keys stay. -/
def updateWhere
    (t : Table Row)
    (p : Row → Bool)
    (f : Row → Row)
    (hf : ∀ r, key (f r) = key r := by intro r; rfl) : Table Row where
  rows := t.rows.map (fun r => if p r then f r else r)
  next := t.next
  nodup := by
    have hkeys : (t.rows.map (fun r => if p r then f r else r)).map key =
        t.rows.map key := by
      rw [List.map_map]
      refine List.map_congr_left (fun r _ => ?_)
      by_cases h : p r <;> simp [h, hf]
    rw [hkeys]
    exact t.nodup
  below := by
    intro r hr
    obtain ⟨r', hr', rfl⟩ := List.mem_map.mp hr
    by_cases h : p r' <;> simp [h, hf, t.below r' hr']

/-- Change the row with a key. -/
def update
    (t : Table Row)
    (k : Nat)
    (f : Row → Row)
    (hf : ∀ r, key (f r) = key r := by intro r; rfl) : Table Row :=
  t.updateWhere (fun r => decide (key r = k)) f hf

/-- Remove the rows that meet a condition. -/
def deleteWhere (t : Table Row) (p : Row → Bool) : Table Row where
  rows := t.rows.filter (fun r => !p r)
  next := t.next
  nodup := t.nodup.sublist (List.filter_sublist.map key)
  below := fun r hr => t.below r (List.mem_of_mem_filter hr)

/-- The sum of `g` over the rows. -/
def total {M : Type} [AddCommMonoid M] (g : Row → M) (t : Table Row) : M :=
  (t.rows.map g).sum

/-! ### Keys -/

theorem find_eq_some_iff
    {t : Table Row} {k : Nat} {r : Row} :
    t.find k = some r ↔ r ∈ t.rows ∧ key r = k := by
  constructor
  · intro h
    exact ⟨List.mem_of_find?_eq_some h, by simpa using List.find?_some h⟩
  · rintro ⟨hr, rfl⟩
    cases h : t.find (key r) with
    | none =>
        have := List.find?_eq_none.mp h r hr
        simp at this
    | some r' =>
        have hk : key r' = key r := by simpa using List.find?_some h
        rw [List.inj_on_of_nodup_map t.nodup (List.mem_of_find?_eq_some h) hr hk]

theorem find_mem {t : Table Row} {k : Nat} {r : Row} (h : t.find k = some r) :
    r ∈ t.rows :=
  (find_eq_some_iff.mp h).1

theorem find_key {t : Table Row} {k : Nat} {r : Row} (h : t.find k = some r) :
    key r = k :=
  (find_eq_some_iff.mp h).2

theorem find_of_mem {t : Table Row} {r : Row} (h : r ∈ t.rows) :
    t.find (key r) = some r :=
  find_eq_some_iff.mpr ⟨h, rfl⟩

theorem find_lt {t : Table Row} {k : Nat} {r : Row} (h : t.find k = some r) :
    k < t.next := by
  have := t.below r (find_mem h)
  rwa [find_key h] at this

theorem findFirst_eq_some
    {t : Table Row} {p : Row → Bool} {r : Row}
    (h : t.findFirst p = some r) :
    r ∈ t.rows ∧ p r = true :=
  ⟨List.mem_of_find?_eq_some h, List.find?_some h⟩

theorem find_next (t : Table Row) : t.find t.next = none := by
  cases h : t.find t.next with
  | none =>
      rfl
  | some r =>
      exact absurd (find_lt h) (Nat.lt_irrefl _)

/-! ### Reading after an operation -/

@[simp] theorem find_empty (k : Nat) : (empty : Table Row).find k = none := rfl

@[simp] theorem next_insert
    (t : Table Row) (mk : Nat → Row) (hmk : ∀ n, key (mk n) = n) :
    (t.insert mk hmk).next = t.next + 1 := rfl

@[simp] theorem next_updateWhere
    (t : Table Row) (p : Row → Bool) (f : Row → Row)
    (hf : ∀ r, key (f r) = key r) :
    (t.updateWhere p f hf).next = t.next := rfl

@[simp] theorem next_update
    (t : Table Row) (k : Nat) (f : Row → Row) (hf : ∀ r, key (f r) = key r) :
    (t.update k f hf).next = t.next := rfl

@[simp] theorem next_deleteWhere (t : Table Row) (p : Row → Bool) :
    (t.deleteWhere p).next = t.next := rfl

@[simp] theorem rows_insert
    (t : Table Row) (mk : Nat → Row) (hmk : ∀ n, key (mk n) = n) :
    (t.insert mk hmk).rows = t.rows ++ [mk t.next] := rfl

@[simp] theorem rows_updateWhere
    (t : Table Row) (p : Row → Bool) (f : Row → Row)
    (hf : ∀ r, key (f r) = key r) :
    (t.updateWhere p f hf).rows = t.rows.map (fun r => if p r then f r else r) :=
  rfl

@[simp] theorem rows_deleteWhere (t : Table Row) (p : Row → Bool) :
    (t.deleteWhere p).rows = t.rows.filter (fun r => !p r) := rfl

/-- Reading a table whose rows have all been mapped. -/
theorem find_of_rows_map
    {t t' : Table Row} {f : Row → Row}
    (hf : ∀ r, key (f r) = key r)
    (h : t'.rows = t.rows.map f) (k : Nat) :
    t'.find k = (t.find k).map f := by
  rw [find, h, List.find?_map]
  congr 2
  funext r
  simp [Function.comp, hf]

theorem find_insert
    (t : Table Row) (mk : Nat → Row) (hmk : ∀ n, key (mk n) = n) (k : Nat) :
    (t.insert mk hmk).find k =
      if k = t.next then some (mk t.next) else t.find k := by
  by_cases hk : k = t.next
  · subst hk
    rw [if_pos rfl, find_eq_some_iff]
    exact ⟨by simp, hmk _⟩
  · rw [if_neg hk]
    simp only [find, rows_insert, List.find?_append, List.find?_singleton, hmk,
      decide_eq_true_eq, Ne.symm hk, if_false]
    cases List.find? (fun r => decide (key r = k)) t.rows <;> rfl

theorem find_updateWhere
    (t : Table Row) (p : Row → Bool) (f : Row → Row)
    (hf : ∀ r, key (f r) = key r) (k : Nat) :
    (t.updateWhere p f hf).find k =
      (t.find k).map (fun r => if p r then f r else r) := by
  simp only [find, rows_updateWhere, List.find?_map]
  congr 2
  funext r
  by_cases h : p r <;> simp [Function.comp, h, hf]

theorem find_update
    (t : Table Row) (k : Nat) (f : Row → Row)
    (hf : ∀ r, key (f r) = key r) (j : Nat) :
    (t.update k f hf).find j =
      if j = k then (t.find k).map f else t.find j := by
  rw [update, find_updateWhere]
  by_cases hj : j = k
  · subst hj
    rw [if_pos rfl]
    cases h : t.find j with
    | none =>
        rfl
    | some r =>
        simp [find_key h]
  · rw [if_neg hj]
    cases h : t.find j with
    | none =>
        rfl
    | some r =>
        simp [find_key h, hj]

theorem find_deleteWhere
    (t : Table Row) (p : Row → Bool) (k : Nat) :
    (t.deleteWhere p).find k = (t.find k).filter (fun r => !p r) := by
  cases h : t.find k with
  | none =>
      cases h' : (t.deleteWhere p).find k with
      | none =>
          rfl
      | some r =>
          have hr := List.mem_of_mem_filter (find_mem h')
          rw [find_eq_some_iff.mpr ⟨hr, find_key h'⟩] at h
          cases h
  | some r =>
      by_cases hp : p r
      · simp only [Option.filter_some, hp, Bool.not_true, Bool.false_eq_true,
          if_false]
        cases h' : (t.deleteWhere p).find k with
        | none =>
            rfl
        | some r' =>
            have hmem := List.mem_filter.mp (find_mem h')
            rw [find_eq_some_iff.mpr ⟨hmem.1, find_key h'⟩] at h
            cases h
            simp [hp] at hmem
      · simp only [Option.filter_some, hp, Bool.not_false, if_true]
        rw [find_eq_some_iff]
        exact ⟨List.mem_filter.mpr ⟨find_mem h, by simp [hp]⟩, find_key h⟩

theorem exists_updateWhere
    {t : Table Row} {p : Row → Bool} {f : Row → Row} {P : Row → Prop}
    (h : ∃ r, r ∈ t.rows ∧ P r)
    (hP : ∀ r, P r → P (f r) := by exact fun _ h => h)
    (hf : ∀ r, key (f r) = key r := by intro r; rfl) :
    ∃ r, r ∈ (t.updateWhere p f hf).rows ∧ P r := by
  obtain ⟨r, hr, hPr⟩ := h
  refine ⟨if p r then f r else r, List.mem_map_of_mem hr, ?_⟩
  split_ifs
  · exact hP r hPr
  · exact hPr

theorem forall_updateWhere
    {t : Table Row} {p : Row → Bool} {f : Row → Row} {P : Row → Prop}
    (hchanged : ∀ r, r ∈ t.rows → p r = true → P (f r))
    (hkept : ∀ r, r ∈ t.rows → p r = false → P r)
    (hf : ∀ r, key (f r) = key r := by intro r; rfl) :
    ∀ r, r ∈ (t.updateWhere p f hf).rows → P r := by
  intro r' hr'
  obtain ⟨r, hr, rfl⟩ := List.mem_map.mp hr'
  cases hp : p r with
  | true =>
      rw [if_pos rfl]
      exact hchanged r hr hp
  | false =>
      rw [if_neg Bool.false_ne_true]
      exact hkept r hr hp

/-! ### One row before and after -/

section Rows

variable {t : Table Row} {j : Nat} {r r' : Row}

theorem find_insert_old
    {mk : Nat → Row} {hmk : ∀ n, key (mk n) = n}
    (hr : t.find j = some r)
    (hr' : (t.insert mk hmk).find j = some r') :
    r' = r := by
  rw [find_insert, if_neg (Nat.ne_of_lt (find_lt hr)), hr] at hr'
  exact (Option.some.inj hr').symm

theorem find_updateWhere_old
    {p : Row → Bool} {f : Row → Row} {hf : ∀ r, key (f r) = key r}
    (hr : t.find j = some r)
    (hr' : (t.updateWhere p f hf).find j = some r') :
    p r = true ∧ r' = f r ∨ p r = false ∧ r' = r := by
  rw [find_updateWhere, hr, Option.map_some, Option.some.injEq] at hr'
  cases hp : p r with
  | true =>
      exact .inl ⟨rfl, by simpa [hp] using hr'.symm⟩
  | false =>
      exact .inr ⟨rfl, by simpa [hp] using hr'.symm⟩

theorem find_update_old
    {k : Nat} {f : Row → Row} {hf : ∀ r, key (f r) = key r}
    (hr : t.find j = some r)
    (hr' : (t.update k f hf).find j = some r') :
    j = k ∧ r' = f r ∨ j ≠ k ∧ r' = r := by
  rcases find_updateWhere_old hr hr' with ⟨hp, h⟩ | ⟨hp, h⟩
  · exact .inl ⟨by rw [← find_key hr]; simpa using hp, h⟩
  · exact .inr ⟨by rw [← find_key hr]; simpa using hp, h⟩

theorem find_deleteWhere_old
    {p : Row → Bool}
    (hr' : (t.deleteWhere p).find j = some r') :
    t.find j = some r' ∧ p r' = false := by
  rw [find_deleteWhere] at hr'
  obtain ⟨h, hp⟩ := Option.filter_eq_some_iff.mp hr'
  exact ⟨h, by simpa using hp⟩

end Rows

/-! ### Sums over the rows -/

section Total

variable {M : Type} [AddCommGroup M] (g : Row → M)

theorem total_insert
    (t : Table Row) (mk : Nat → Row) (hmk : ∀ n, key (mk n) = n) :
    total g (t.insert mk hmk) = total g t + g (mk t.next) := by
  simp [total]

theorem total_updateWhere
    (t : Table Row) (p : Row → Bool) (f : Row → Row)
    (hf : ∀ r, key (f r) = key r) :
    total g (t.updateWhere p f hf) =
      total g t + ((t.filter p).map (fun r => g (f r) - g r)).sum := by
  simp only [total, rows_updateWhere, filter, List.map_map]
  induction t.rows with
  | nil =>
      simp
  | cons r rs ih =>
      by_cases h : p r
      · simp only [List.map_cons, Function.comp, h, if_true, List.sum_cons,
          List.filter_cons_of_pos, ih]
        abel
      · simp only [List.map_cons, Function.comp, h, if_false, List.sum_cons,
          Bool.false_eq_true, not_false_eq_true, List.filter_cons_of_neg, ih]
        abel

theorem filter_key (t : Table Row) (k : Nat) :
    t.filter (fun r => decide (key r = k)) = (t.find k).toList := by
  cases h : t.find k with
  | none =>
      rw [filter, List.filter_eq_nil_iff.mpr (List.find?_eq_none.mp h)]
      rfl
  | some r =>
      obtain ⟨hr, rfl⟩ := find_eq_some_iff.mp h
      have hnodup := t.nodup
      simp only [filter, Option.toList_some]
      clear h
      generalize t.rows = rows at hr hnodup
      induction rows with
      | nil =>
          cases hr
      | cons b rs ih =>
          rw [List.map_cons, List.nodup_cons] at hnodup
          rcases List.mem_cons.mp hr with rfl | hr
          · have hrest : rs.filter (fun r' => decide (key r' = key r)) = [] := by
              refine List.filter_eq_nil_iff.mpr (fun r' hr' => ?_)
              intro hk
              exact hnodup.1 (List.mem_map.mpr ⟨r', hr', by simpa using hk⟩)
            simp [hrest]
          · have hb : key b ≠ key r := by
              intro hk
              exact hnodup.1 (List.mem_map.mpr ⟨r, hr, hk.symm⟩)
            rw [List.filter_cons_of_neg (by simpa using hb), ih hr hnodup.2]

theorem total_update
    (t : Table Row) (k : Nat) (f : Row → Row)
    (hf : ∀ r, key (f r) = key r) :
    total g (t.update k f hf) =
      total g t + ((t.find k).elim 0 (fun r => g (f r) - g r)) := by
  rw [update, total_updateWhere, filter_key]
  cases t.find k <;> simp

theorem total_deleteWhere (t : Table Row) (p : Row → Bool) :
    total g (t.deleteWhere p) = total g t - ((t.filter p).map g).sum := by
  simp only [total, rows_deleteWhere, filter]
  induction t.rows with
  | nil =>
      simp
  | cons r rs ih =>
      by_cases h : p r
      · rw [List.filter_cons_of_neg (by simp [h]),
          List.filter_cons_of_pos h, ih, List.map_cons, List.map_cons,
          List.sum_cons, List.sum_cons]
        abel
      · rw [List.filter_cons_of_pos (by simp [h]),
          List.filter_cons_of_neg h, List.map_cons, List.map_cons,
          List.sum_cons, List.sum_cons, ih]
        abel

end Total

/-! ### A selection that an operation passes by -/

section Selection

variable {t : Table Row} {q : Row → Bool}

theorem filter_insert_of_not
    {mk : Nat → Row} {hmk : ∀ n, key (mk n) = n}
    (h : q (mk t.next) = false) :
    (t.insert mk hmk).filter q = t.filter q := by
  simp [filter, h]

theorem filter_updateWhere_of_not
    {p : Row → Bool} {f : Row → Row} {hf : ∀ r, key (f r) = key r}
    (hq : ∀ r, q (f r) = q r)
    (h : ∀ r, r ∈ t.rows → p r = true → q r = false) :
    (t.updateWhere p f hf).filter q = t.filter q := by
  simp only [filter, rows_updateWhere]
  generalize t.rows = rows at h
  induction rows with
  | nil =>
      rfl
  | cons r rows ih =>
      have ih := ih fun r' hr' => h r' (List.mem_cons_of_mem r hr')
      cases hp : p r with
      | true =>
          have hr := h r (by simp) hp
          simp [hp, hq, hr, ih]
      | false =>
          simp [hp, ih, List.filter_cons]

theorem filter_deleteWhere_of_not
    {p : Row → Bool}
    (h : ∀ r, r ∈ t.rows → q r = true → p r = false) :
    (t.deleteWhere p).filter q = t.filter q := by
  simp only [filter, rows_deleteWhere, List.filter_filter]
  refine List.filter_congr fun r hr => ?_
  cases hq : q r with
  | true =>
      simp [h r hr hq]
  | false =>
      rfl

end Selection

/-! ### Columns that do not change -/

section Fixed

variable {C : Type}

/-- A row of `t` that is still in `t'` has the same column `f` there. -/
structure Fixed (f : Row → C) (t t' : Table Row) : Prop where
  next_le : t.next ≤ t'.next
  old : ∀ k r', k < t.next → t'.find k = some r' → ∃ r, t.find k = some r ∧ f r' = f r

variable {f : Row → C} {t t' u : Table Row}

theorem Fixed.refl (t : Table Row) : Fixed f t t :=
  ⟨Nat.le_refl _, fun _ r' _ h => ⟨r', h, rfl⟩⟩

theorem Fixed.trans (h : Fixed f t t') (h' : Fixed f t' u) : Fixed f t u where
  next_le := h.next_le.trans h'.next_le
  old := by
    intro k r hk hr
    obtain ⟨r₁, hr₁, heq₁⟩ := h'.old k r (hk.trans_le h.next_le) hr
    obtain ⟨r₂, hr₂, heq₂⟩ := h.old k r₁ hk hr₁
    exact ⟨r₂, hr₂, heq₁.trans heq₂⟩

theorem Fixed.insert {mk : Nat → Row} (hmk : ∀ n, key (mk n) = n := by intro n; rfl) :
    Fixed f t (t.insert mk hmk) where
  next_le := Nat.le_succ _
  old := by
    intro k r hk hr
    rw [find_insert, if_neg hk.ne] at hr
    exact ⟨r, hr, rfl⟩

theorem Fixed.updateWhere
    {p : Row → Bool} {g : Row → Row}
    (hg : ∀ r, key (g r) = key r := by intro r; rfl)
    (hf : ∀ r, f (g r) = f r := by intro r; rfl) :
    Fixed f t (t.updateWhere p g hg) where
  next_le := Nat.le_refl _
  old := by
    intro k r' _ hr'
    rw [find_updateWhere] at hr'
    obtain ⟨r, hr, rfl⟩ := Option.map_eq_some_iff.mp hr'
    refine ⟨r, hr, ?_⟩
    split_ifs
    · exact hf r
    · rfl

theorem Fixed.deleteWhere {p : Row → Bool} : Fixed f t (t.deleteWhere p) where
  next_le := Nat.le_refl _
  old := fun _ r' _ hr' => ⟨r', (find_deleteWhere_old hr').1, rfl⟩

end Fixed

end Table

end BookStore
