import Mathlib.Data.List.Induction
import Mathlib.Data.List.Perm.Basic
import Mathlib.Tactic.Common

/-!
# Groups of a list

`groupsOf f l` goes through `l` once and appends each element to the group of its key `f a`,
in a map that remembers the order in which its keys came in.

The groups have distinct keys, the group of a key holds the elements with that key in the
order of the list, and the groups together hold every element once.
-/

namespace BookStore

section Groups

variable {α κ : Type} [DecidableEq κ] (f : α → κ)

/-- Append to the group of the key, or start one at the end of the map. -/
def pushGroup (a : α) : List (κ × List α) → List (κ × List α)
  | [] => [(f a, [a])]
  | g :: gs => if g.1 = f a then (g.1, g.2 ++ [a]) :: gs else g :: pushGroup a gs

def groupsOf (l : List α) : List (κ × List α) :=
  l.foldl (fun gs a => pushGroup f a gs) []

variable {f} {a : α} {gs : List (κ × List α)}

theorem keys_pushGroup {k : κ} :
    k ∈ (pushGroup f a gs).map Prod.fst ↔ k ∈ gs.map Prod.fst ∨ k = f a := by
  induction gs with
  | nil =>
      simp [pushGroup]
  | cons g gs ih =>
      rw [pushGroup]
      split_ifs with h
      · rw [List.map_cons, List.map_cons, List.mem_cons, ← h]
        tauto
      · rw [List.map_cons, List.map_cons, List.mem_cons, List.mem_cons, ih, or_assoc]

theorem nodup_pushGroup (hgs : (gs.map Prod.fst).Nodup) :
    ((pushGroup f a gs).map Prod.fst).Nodup := by
  induction gs with
  | nil =>
      simp [pushGroup]
  | cons g gs ih =>
      obtain ⟨hg, hgs⟩ := List.nodup_cons.mp hgs
      rw [pushGroup]
      split_ifs with h
      · exact List.nodup_cons.mpr ⟨hg, hgs⟩
      · refine List.nodup_cons.mpr ⟨fun hmem => ?_, ih hgs⟩
        exact (keys_pushGroup.mp hmem).elim hg h

theorem pushGroup_perm :
    ((pushGroup f a gs).flatMap Prod.snd).Perm (gs.flatMap Prod.snd ++ [a]) := by
  induction gs with
  | nil =>
      simp [pushGroup]
  | cons g gs ih =>
      rw [pushGroup]
      split_ifs with h
      · rw [List.flatMap_cons, List.flatMap_cons, List.append_assoc, List.append_assoc]
        exact List.perm_append_comm.append_left g.2
      · rw [List.flatMap_cons, List.flatMap_cons, List.append_assoc]
        exact ih.append_left g.2

theorem mem_pushGroup {g : κ × List α}
    (hgs : (gs.map Prod.fst).Nodup)
    (hg : g ∈ pushGroup f a gs) :
    (g ∈ gs ∧ g.1 ≠ f a) ∨
      (∃ as, (f a, as) ∈ gs ∧ g = (f a, as ++ [a])) ∨
      (f a ∉ gs.map Prod.fst ∧ g = (f a, [a])) := by
  induction gs with
  | nil =>
      exact .inr (.inr ⟨List.not_mem_nil, List.mem_singleton.mp hg⟩)
  | cons g₀ gs ih =>
      obtain ⟨hg₀, hgs⟩ := List.nodup_cons.mp hgs
      rw [pushGroup] at hg
      split_ifs at hg with h
      · rcases List.mem_cons.mp hg with rfl | hg
        · exact .inr (.inl ⟨g₀.2, by simp [← h], by simp [h]⟩)
        · refine .inl ⟨List.mem_cons_of_mem _ hg, fun hkey => hg₀ ?_⟩
          rw [h, ← hkey]
          exact List.mem_map_of_mem hg
      · rcases List.mem_cons.mp hg with rfl | hg
        · exact .inl ⟨List.mem_cons_self, h⟩
        · rcases ih hgs hg with ⟨hmem, hkey⟩ | ⟨as, hmem, hg⟩ | ⟨hkey, hg⟩
          · exact .inl ⟨List.mem_cons_of_mem _ hmem, hkey⟩
          · exact .inr (.inl ⟨as, List.mem_cons_of_mem _ hmem, hg⟩)
          · refine .inr (.inr ⟨?_, hg⟩)
            rw [List.map_cons, List.mem_cons]
            exact fun hmem => hmem.elim (fun heq => h heq.symm) hkey

/-- What the map is after the elements `seen`. -/
structure Grouped (f : α → κ) (seen : List α) (gs : List (κ × List α)) : Prop where
  nodup : (gs.map Prod.fst).Nodup
  keys : ∀ k, k ∈ gs.map Prod.fst ↔ k ∈ seen.map f
  holds : ∀ g, g ∈ gs → g.2 = seen.filter fun a => decide (f a = g.1)
  perm : (gs.flatMap Prod.snd).Perm seen

theorem Grouped.pushGroup {seen : List α} (h : Grouped f seen gs) (a : α) :
    Grouped f (seen ++ [a]) (pushGroup f a gs) where
  nodup := nodup_pushGroup h.nodup
  keys k := by
    rw [keys_pushGroup, h.keys, List.map_append, List.mem_append, List.map_singleton,
      List.mem_singleton]
  holds g hg := by
    rw [List.filter_append]
    rcases mem_pushGroup h.nodup hg with ⟨hmem, hkey⟩ | ⟨as, hmem, rfl⟩ | ⟨hkey, rfl⟩
    · rw [h.holds g hmem, List.filter_singleton, decide_eq_false (Ne.symm hkey)]
      simp
    · rw [← h.holds _ hmem, List.filter_singleton, decide_eq_true rfl]
      rfl
    · rw [h.keys] at hkey
      have hnone : (seen.filter fun b => decide (f b = f a)) = [] := by
        refine List.filter_eq_nil_iff.mpr fun b hb heq => hkey ?_
        rw [← of_decide_eq_true heq]
        exact List.mem_map_of_mem hb
      rw [hnone, List.filter_singleton, decide_eq_true rfl]
      rfl
  perm := pushGroup_perm.trans (h.perm.append_right [a])

variable (f) in
theorem grouped_groupsOf (l : List α) : Grouped f l (groupsOf f l) := by
  induction l using List.reverseRec with
  | nil =>
      exact ⟨List.nodup_nil, fun _ => Iff.rfl, fun _ hg => (List.not_mem_nil hg).elim, .refl _⟩
  | append_singleton l a ih =>
      rw [groupsOf, List.foldl_concat]
      exact ih.pushGroup a

end Groups

end BookStore
