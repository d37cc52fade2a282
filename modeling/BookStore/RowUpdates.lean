import BookStore.Traversals

/-!
# Updates of rows

`updateWhere hit f rows` replaces every row that is hit by what `f` makes of it.  It is
refused if no row is hit, or if `f` refuses one.

Updates that leave alone which rows are hit can be followed row by row: a sequence of
them makes of a row what `edited` says.
-/

namespace BookStore

variable {α U : Type}

def updateWhere (hit : α → Bool) (f : α → Option α) (rows : List α) : Option (List α) :=
  if rows.any hit then rows.mapM fun row => if hit row then f row else some row else none

/-- What the updates make of a row, one after another. -/
def edited (hit : U → α → Bool) (f : U → α → Option α) (us : List U) (row : α) : Option α :=
  us.foldlM (fun row u => if hit u row then f u row else some row) row

theorem updateWhere_eq_some_iff
    {hit : α → Bool} {f : α → Option α} {rows rows' : List α} :
    updateWhere hit f rows = some rows' ↔
      (∃ row, row ∈ rows ∧ hit row) ∧
        List.Forall₂ (fun row row' => (if hit row then f row else some row) = some row')
          rows rows' := by
  unfold updateWhere
  split
  · rename_i h
    simp only [List.any_eq_true] at h
    rw [mapM_eq_some_iff, and_iff_right h]
  · rename_i h
    simp only [List.any_eq_true] at h
    simp [h]

theorem isSome_updateWhere {hit : α → Bool} {f : α → Option α} {rows : List α} :
    (updateWhere hit f rows).isSome ↔
      (∃ row, row ∈ rows ∧ hit row) ∧ ∀ row, row ∈ rows → hit row → (f row).isSome := by
  simp only [Option.isSome_iff_exists, updateWhere_eq_some_iff, exists_and_left,
    ← mapM_eq_some_iff]
  rw [← Option.isSome_iff_exists, isSome_mapM]
  refine and_congr_right fun _ => forall₂_congr fun row _ => ?_
  by_cases hhit : hit row <;> simp [hhit, Option.isSome_iff_exists]

section Sequences

variable {hit : U → α → Bool} {f : U → α → Option α}

@[simp] theorem edited_nil (row : α) : edited hit f [] row = some row :=
  rfl

@[simp] theorem edited_cons (u : U) (us : List U) (row : α) :
    edited hit f (u :: us) row =
      (if hit u row then f u row else some row).bind (edited hit f us) :=
  rfl

@[simp] theorem edited_concat (us : List U) (u : U) (row : α) :
    edited hit f (us ++ [u]) row =
      (edited hit f us row).bind fun row => if hit u row then f u row else some row := by
  simp [edited, List.foldlM_append]

/-- The updates leave alone which rows are hit. -/
def HitsKept (hit : U → α → Bool) (f : U → α → Option α) : Prop :=
  ∀ u row row', f u row = some row' → ∀ u', hit u' row' = hit u' row

theorem HitsKept.one (hkept : HitsKept hit f) {u : U} {row row' : α}
    (h : (if hit u row then f u row else some row) = some row') (u' : U) :
    hit u' row' = hit u' row := by
  split at h
  · exact hkept _ _ _ h u'
  · exact congrArg (hit u') (Option.some.inj h).symm

/-- What no update changes of a row, stays. -/
theorem edited_keeps
    {β : Type} {k : α → β} {us : List U} {row row' : α}
    (hkeep : ∀ u row row', f u row = some row' → k row' = k row)
    (h : edited hit f us row = some row') :
    k row' = k row := by
  induction us generalizing row with
  | nil =>
      exact congrArg k (Option.some.inj h).symm
  | cons u us ih =>
      rw [edited_cons, Option.bind_eq_some_iff] at h
      obtain ⟨row₁, hrow₁, h⟩ := h
      refine (ih h).trans ?_
      split at hrow₁
      · exact hkeep _ _ _ hrow₁
      · exact congrArg k (Option.some.inj hrow₁).symm

/-- The rows that the updates leave, with every update hitting some row -/
theorem foldlM_updateWhere (hkept : HitsKept hit f) {us : List U} {rows rows' : List α} :
    us.foldlM (fun rows u => updateWhere (hit u) (f u) rows) rows = some rows' ↔
      (∀ u, u ∈ us → ∃ row, row ∈ rows ∧ hit u row) ∧
        List.Forall₂ (fun row row' => edited hit f us row = some row')
          rows rows' := by
  induction us generalizing rows with
  | nil =>
      simp
  | cons u us ih =>
      simp only [List.foldlM_cons, Option.bind_eq_bind, Option.bind_eq_some_iff,
        updateWhere_eq_some_iff, ih, List.forall_mem_cons, edited_cons]
      have hsame : ∀ {rows₁ : List α}, List.Forall₂ (fun row row₁ =>
          (if hit u row then f u row else some row) = some row₁) rows rows₁ →
          ∀ u', (∃ row, row ∈ rows₁ ∧ hit u' row) ↔ ∃ row, row ∈ rows ∧ hit u' row := by
        intro rows₁ h u'
        constructor
        · rintro ⟨row₁, hmem, hhit⟩
          obtain ⟨row, hrow, hone⟩ := exists_of_forall₂ h.flip hmem
          exact ⟨row, hrow, hkept.one hone u' ▸ hhit⟩
        · rintro ⟨row, hmem, hhit⟩
          obtain ⟨row₁, hrow₁, hone⟩ := exists_of_forall₂ h hmem
          exact ⟨row₁, hrow₁, (hkept.one hone u').trans hhit⟩
      constructor
      · rintro ⟨rows₁, ⟨hu, hone⟩, hus, hrest⟩
        exact ⟨⟨hu, fun u' hu' => (hsame hone u').mp (hus u' hu')⟩, forall₂_comp hone hrest⟩
      · rintro ⟨⟨hu, hus⟩, h⟩
        obtain ⟨rows₁, hone, hrest⟩ := forall₂_of_comp h
        exact ⟨rows₁, ⟨hu, hone⟩, fun u' hu' => (hsame hone u').mpr (hus u' hu'), hrest⟩

/-- A row that none of the updates hits stays as it is. -/
theorem edited_of_not_hit {us : List U} {row : α} (h : ∀ u, u ∈ us → hit u row = false) :
    edited hit f us row = some row := by
  induction us with
  | nil =>
      rfl
  | cons u us ih =>
      rw [List.forall_mem_cons] at h
      rw [edited_cons, h.1]
      exact ih h.2

/-- Where `f` looks at the update alone, a row is refused if an update that hits it is. -/
theorem isSome_edited (hkept : HitsKept hit f) {accepts : U → Prop}
    (haccepts : ∀ u row, (f u row).isSome ↔ accepts u) {us : List U} {row : α} :
    (edited hit f us row).isSome ↔ ∀ u, u ∈ us → hit u row → accepts u := by
  induction us generalizing row with
  | nil =>
      simp
  | cons u us ih =>
      rw [edited_cons, List.forall_mem_cons]
      cases hrow : (if hit u row then f u row else some row) with
      | none =>
          split at hrow
          · rename_i hhit
            have hrefused : ¬ accepts u := by
              simp [← haccepts u row, hrow]
            simp [hhit, hrefused]
          · cases hrow
      | some row₁ =>
          have hu : hit u row → accepts u := by
            intro hhit
            rw [if_pos hhit] at hrow
            rw [← haccepts u row, hrow]
            rfl
          have hsame : ∀ u', hit u' row₁ = hit u' row := hkept.one hrow
          rw [Option.bind_some, ih, and_iff_right hu]
          simp only [hsame]

theorem isSome_foldlM_updateWhere (hkept : HitsKept hit f) {accepts : U → Prop}
    (haccepts : ∀ u row, (f u row).isSome ↔ accepts u) {us : List U} {rows : List α} :
    (us.foldlM (fun rows u => updateWhere (hit u) (f u) rows) rows).isSome ↔
      ∀ u, u ∈ us → accepts u ∧ ∃ row, row ∈ rows ∧ hit u row := by
  simp only [Option.isSome_iff_exists, foldlM_updateWhere hkept, exists_and_left,
    ← mapM_eq_some_iff]
  rw [← Option.isSome_iff_exists, isSome_mapM]
  simp only [isSome_edited hkept haccepts]
  constructor
  · rintro ⟨hhits, haccepted⟩ u hu
    obtain ⟨row, hrow, hhit⟩ := hhits u hu
    exact ⟨haccepted row hrow u hu hhit, row, hrow, hhit⟩
  · intro h
    exact ⟨fun u hu => (h u hu).2, fun row _ u hu _ => (h u hu).1⟩

end Sequences

end BookStore
