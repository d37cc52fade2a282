import Mathlib.Data.List.Forall2
import Mathlib.Data.List.Nodup
import Mathlib.Tactic.Common

/-!
# Going through a list

What `mapM` has made of each element, as a relation between the two lists, what two related
lists have in common, and what is found by a key that no two elements share.
-/

namespace BookStore

section Traversals

variable {α β γ ε : Type}

theorem mapM_eq_some_iff {f : α → Option β} {as : List α} {bs : List β} :
    as.mapM f = some bs ↔ List.Forall₂ (fun a b => f a = some b) as bs := by
  induction as generalizing bs with
  | nil =>
      simp [eq_comm]
  | cons a as ih =>
      simp only [List.mapM_cons, List.forall₂_cons_left_iff, ← ih, Option.bind_eq_bind,
        Option.pure_def, Option.bind_eq_some_iff, Option.some.injEq, exists_and_left,
        eq_comm (a := bs)]

theorem forall₂_mapM {f : α → Option β} {as : List α} {bs : List β}
    (h : as.mapM f = some bs) :
    List.Forall₂ (fun a b => f a = some b) as bs :=
  mapM_eq_some_iff.mp h

theorem mapM_congr {f g : α → Option β} {as : List α} (h : ∀ a, a ∈ as → f a = g a) :
    as.mapM f = as.mapM g := by
  induction as with
  | nil =>
      rfl
  | cons a as ih =>
      rw [List.mapM_cons, List.mapM_cons, h a (by simp), ih fun b hb => h b (by simp [hb])]

theorem isSome_mapM {f : α → Option β} {as : List α} :
    (as.mapM f).isSome ↔ ∀ a, a ∈ as → (f a).isSome := by
  induction as with
  | nil =>
      simp
  | cons a as ih =>
      rw [List.forall_mem_cons, ← ih]
      cases ha : f a with
      | none =>
          simp [ha]
      | some b =>
          cases has : as.mapM f <;> simp [ha, has]

theorem forall₂_mapM_ok {f : α → Except ε β} {as : List α} {bs : List β}
    (h : as.mapM f = .ok bs) :
    List.Forall₂ (fun a b => f a = .ok b) as bs := by
  induction as generalizing bs with
  | nil =>
      cases h
      exact .nil
  | cons a as ih =>
      rw [List.mapM_cons] at h
      cases ha : f a with
      | error e =>
          rw [ha] at h
          cases h
      | ok b =>
          cases has : as.mapM f with
          | error e =>
              rw [ha, has] at h
              cases h
          | ok bs =>
              rw [ha, has] at h
              cases h
              exact .cons ha (ih has)

/-- A list that cannot be gone through has an element that is refused. -/
theorem mapM_error {f : α → Except ε β} {as : List α} {e : ε}
    (h : as.mapM f = .error e) :
    ∃ a, a ∈ as ∧ f a = .error e := by
  induction as with
  | nil =>
      cases h
  | cons a as ih =>
      rw [List.mapM_cons] at h
      cases ha : f a with
      | error e' =>
          rw [ha] at h
          cases h
          exact ⟨a, List.mem_cons_self, ha⟩
      | ok b =>
          rw [ha] at h
          cases has : as.mapM f with
          | error e' =>
              rw [has] at h
              cases h
              obtain ⟨a', ha', hrefused⟩ := ih has
              exact ⟨a', List.mem_cons_of_mem a ha', hrefused⟩
          | ok bs =>
              rw [has] at h
              cases h

theorem isOk_mapM {f : α → Except ε β} {as : List α}
    (h : ∀ a, a ∈ as → ∃ b, f a = .ok b) :
    ∃ bs, as.mapM f = .ok bs := by
  induction as with
  | nil =>
      exact ⟨[], rfl⟩
  | cons a as ih =>
      obtain ⟨b, hb⟩ := h a List.mem_cons_self
      obtain ⟨bs, hbs⟩ := ih fun a ha => h a (List.mem_cons_of_mem _ ha)
      refine ⟨b :: bs, ?_⟩
      rw [List.mapM_cons, hb, hbs]
      rfl

/-- The same traversal in other terms -/
theorem mapM_eq_map_mapM
    {α' β' : Type} {f : α → Except ε β} {f' : α' → Except ε β'} {g : α → α'} {k : β → β'}
    (h : ∀ a, f' (g a) = (f a).map k) (as : List α) :
    (as.map g).mapM f' = (as.mapM f).map (List.map k) := by
  induction as with
  | nil =>
      rfl
  | cons a as ih =>
      rw [List.map_cons, List.mapM_cons, List.mapM_cons, h, ih]
      cases f a with
      | error e =>
          rfl
      | ok b =>
          cases as.mapM f <;> rfl

theorem mapM_map_of_some {f : α → β} {g : β → Option γ} {k : α → γ}
    (h : ∀ a, g (f a) = some (k a)) (as : List α) :
    (as.map f).mapM g = some (as.map k) := by
  induction as with
  | nil =>
      rfl
  | cons a as ih =>
      rw [List.map_cons, List.mapM_cons, h, ih]
      rfl

theorem map_eq_of_forall₂
    {r : α → β → Prop} {f : α → γ} {g : β → γ} {as : List α} {bs : List β}
    (h : List.Forall₂ r as bs)
    (hfg : ∀ a b, r a b → g b = f a) :
    bs.map g = as.map f := by
  induction h with
  | nil =>
      rfl
  | cons hab _ ih =>
      rw [List.map_cons, List.map_cons, ih, hfg _ _ hab]

theorem forall₂_comp
    {r : α → β → Prop} {t : β → γ → Prop} {as : List α} {bs : List β} {cs : List γ}
    (h : List.Forall₂ r as bs)
    (h' : List.Forall₂ t bs cs) :
    List.Forall₂ (fun a c => ∃ b, r a b ∧ t b c) as cs := by
  induction h generalizing cs with
  | nil =>
      cases h'
      exact .nil
  | cons hab _ ih =>
      cases h' with
      | cons hbc h' =>
          exact .cons ⟨_, hab, hbc⟩ (ih h')

theorem forall₂_of_comp
    {r : α → β → Prop} {t : β → γ → Prop} {as : List α} {cs : List γ}
    (h : List.Forall₂ (fun a c => ∃ b, r a b ∧ t b c) as cs) :
    ∃ bs, List.Forall₂ r as bs ∧ List.Forall₂ t bs cs := by
  induction h with
  | nil =>
      exact ⟨[], .nil, .nil⟩
  | cons hac _ ih =>
      obtain ⟨b, hab, hbc⟩ := hac
      obtain ⟨bs, hbs, hcs⟩ := ih
      exact ⟨b :: bs, .cons hab hbs, .cons hbc hcs⟩

theorem exists_of_forall₂
    {r : α → β → Prop} {as : List α} {bs : List β} {a : α}
    (h : List.Forall₂ r as bs)
    (ha : a ∈ as) :
    ∃ b, b ∈ bs ∧ r a b := by
  induction h with
  | nil =>
      cases ha
  | @cons a' b as bs hab _ ih =>
      rcases List.mem_cons.mp ha with rfl | ha
      · exact ⟨b, List.mem_cons_self, hab⟩
      · obtain ⟨b', hb', hr⟩ := ih ha
        exact ⟨b', List.mem_cons_of_mem _ hb', hr⟩

/-- What is said of related elements, said of the elements on one side -/
theorem forall₂_iff_of_forall₂
    {r t : α → β → Prop} {q : α → Prop} {as : List α} {bs : List β}
    (h : List.Forall₂ r as bs)
    (hq : ∀ a b, r a b → (t a b ↔ q a)) :
    List.Forall₂ t as bs ↔ ∀ a, a ∈ as → q a := by
  induction h with
  | nil =>
      simp
  | cons hab _ ih =>
      rw [List.forall₂_cons, List.forall_mem_cons, hq _ _ hab, ih]

/-- What is found by a key that no two elements share -/
theorem find?_key_eq_some_iff [DecidableEq γ] {f : α → γ} {as : List α} {k : γ} {a : α}
    (hnodup : (as.map f).Nodup) :
    as.find? (fun b => decide (f b = k)) = some a ↔ a ∈ as ∧ f a = k := by
  constructor
  · intro h
    exact ⟨List.mem_of_find?_eq_some h, by simpa using List.find?_some h⟩
  · rintro ⟨ha, hk⟩
    cases h : as.find? fun b => decide (f b = k) with
    | none =>
        exact absurd hk (by simpa using List.find?_eq_none.mp h a ha)
    | some b =>
        have hb : f b = k := by simpa using List.find?_some h
        rw [List.inj_on_of_nodup_map hnodup (List.mem_of_find?_eq_some h) ha (hb.trans hk.symm)]

end Traversals

end BookStore
