import BookStore.Tables

/-!
# Columns that last

`Table.Keeps f t t'`: every row of `t` is still in `t'`, with the same columns `f`.
-/

namespace BookStore
namespace Table

variable {Row C : Type} [Keyed Row]

def Keeps (f : Row → C) (t t' : Table Row) : Prop :=
  ∀ k r, t.find k = some r → ∃ r', t'.find k = some r' ∧ f r' = f r

variable {f : Row → C} {t t' u : Table Row}

theorem Keeps.refl (t : Table Row) : Keeps f t t :=
  fun _ r h => ⟨r, h, rfl⟩

theorem Keeps.trans (h : Keeps f t t') (h' : Keeps f t' u) : Keeps f t u := by
  intro k r hr
  obtain ⟨r₁, hr₁, heq₁⟩ := h k r hr
  obtain ⟨r₂, hr₂, heq₂⟩ := h' k r₁ hr₁
  exact ⟨r₂, hr₂, heq₂.trans heq₁⟩

theorem Keeps.insert {mk : Nat → Row} (hmk : ∀ n, key (mk n) = n) :
    Keeps f t (t.insert mk hmk) := by
  intro k r hr
  have hlt : k < t.next := find_lt hr
  exact ⟨r, by rw [find_insert, if_neg hlt.ne, hr], rfl⟩

theorem Keeps.updateWhere
    {p : Row → Bool} {g : Row → Row}
    (hg : ∀ r, key (g r) = key r)
    (hf : ∀ r, f (g r) = f r) :
    Keeps f t (t.updateWhere p g hg) := by
  intro k r hr
  rw [find_updateWhere, hr]
  refine ⟨_, rfl, ?_⟩
  by_cases hp : p r = true
  · simp only [hp, if_true, hf]
  · simp only [hp, if_false, Bool.false_eq_true]

theorem Keeps.update
    {k : Nat} {g : Row → Row}
    (hg : ∀ r, key (g r) = key r)
    (hf : ∀ r, f (g r) = f r) :
    Keeps f t (t.update k g hg) :=
  Keeps.updateWhere hg hf

end Table
end BookStore
