import BookStore.Traversals
import Mathlib.Data.List.Induction

/-!
# Maps that keep the order of insertion

`JsMap.set` sets a key, in its place if it is there and at the end if it is not;
`JsMap.ofEntries` is the map of a list of entries, where a later entry replaces the value of
an earlier one.  `JsMap.newSet` are the keys alone.
-/

namespace BookStore
namespace JsMap

variable {κ α : Type} [DecidableEq κ]

def set (m : List (κ × α)) (k : κ) (a : α) : List (κ × α) :=
  if k ∈ m.map Prod.fst then m.map fun e => if e.1 = k then (k, a) else e else m ++ [(k, a)]

def get (m : List (κ × α)) (k : κ) : Option α :=
  (m.find? fun e => decide (e.1 = k)).map Prod.snd

def ofEntries (entries : List (κ × α)) : List (κ × α) :=
  entries.foldl (fun m e => set m e.1 e.2) []

section Maps

variable {m : List (κ × α)} {k : κ} {a : α}

theorem keys_set :
    (set m k a).map Prod.fst =
      if k ∈ m.map Prod.fst then m.map Prod.fst else m.map Prod.fst ++ [k] := by
  unfold set
  split
  · rw [List.map_map]
    refine List.map_congr_left fun e _ => ?_
    by_cases he : e.1 = k <;> simp [he]
  · simp

theorem nodup_set (h : (m.map Prod.fst).Nodup) : ((set m k a).map Prod.fst).Nodup := by
  rw [keys_set]
  split
  · exact h
  · rename_i hk
    exact List.Nodup.append h (List.nodup_singleton k)
      (List.disjoint_singleton.mpr hk)

theorem mem_set {e : κ × α} :
    e ∈ set m k a ↔ e = (k, a) ∨ e ∈ m ∧ e.1 ≠ k := by
  unfold set
  split
  · rename_i hk
    rw [List.mem_map]
    constructor
    · rintro ⟨e', he', rfl⟩
      by_cases hkey : e'.1 = k
      · exact .inl (if_pos hkey)
      · rw [if_neg hkey]
        exact .inr ⟨he', hkey⟩
    · rintro (rfl | ⟨he, hkey⟩)
      · obtain ⟨e', he', rfl⟩ := List.mem_map.mp hk
        exact ⟨e', he', if_pos rfl⟩
      · exact ⟨e, he, if_neg hkey⟩
  · rename_i hk
    have hne : ∀ e, e ∈ m → e.1 ≠ k := fun e he hkey =>
      hk (List.mem_map.mpr ⟨e, he, hkey⟩)
    rw [List.mem_append, List.mem_singleton, or_comm]
    exact or_congr_right ⟨fun he => ⟨he, hne e he⟩, And.left⟩

theorem get_eq_some_iff (h : (m.map Prod.fst).Nodup) :
    get m k = some a ↔ (k, a) ∈ m := by
  rw [get, Option.map_eq_some_iff]
  simp only [find?_key_eq_some_iff h]
  constructor
  · rintro ⟨e, ⟨he, rfl⟩, rfl⟩
    exact he
  · exact fun hmem => ⟨(k, a), ⟨hmem, rfl⟩, rfl⟩

theorem get_set (h : (m.map Prod.fst).Nodup) {k' : κ} :
    get (set m k a) k' = if k' = k then some a else get m k' := by
  refine Option.ext fun b => ?_
  rw [get_eq_some_iff (nodup_set h), mem_set]
  by_cases hk : k' = k
  · rw [if_pos hk, hk]
    simp [eq_comm]
  · rw [if_neg hk, get_eq_some_iff h]
    simp [hk]

theorem get_eq_none_iff : get m k = none ↔ k ∉ m.map Prod.fst := by
  rw [get, Option.map_eq_none_iff, List.find?_eq_none, List.mem_map]
  simp only [decide_eq_true_eq, not_exists, not_and]

end Maps

/-! ### The map of a list of entries -/

theorem ofEntries_concat (entries : List (κ × α)) (e : κ × α) :
    ofEntries (entries ++ [e]) = set (ofEntries entries) e.1 e.2 := by
  simp [ofEntries, List.foldl_append]

theorem nodup_ofEntries (entries : List (κ × α)) : ((ofEntries entries).map Prod.fst).Nodup := by
  induction entries using List.reverseRecOn with
  | nil =>
      exact List.nodup_nil
  | append_singleton entries e ih =>
      rw [ofEntries_concat]
      exact nodup_set ih

/-- Every entry of the map is one of the list. -/
theorem mem_of_mem_ofEntries {entries : List (κ × α)} {e : κ × α} (h : e ∈ ofEntries entries) :
    e ∈ entries := by
  induction entries using List.reverseRecOn with
  | nil =>
      exact h
  | append_singleton entries e' ih =>
      rw [ofEntries_concat, mem_set] at h
      rcases h with rfl | ⟨h, -⟩
      · simp
      · exact List.mem_append_left _ (ih h)

/-- Every key of the list is one of the map. -/
theorem mem_keys_ofEntries {entries : List (κ × α)} {k : κ} :
    k ∈ (ofEntries entries).map Prod.fst ↔ k ∈ entries.map Prod.fst := by
  induction entries using List.reverseRecOn with
  | nil =>
      exact Iff.rfl
  | append_singleton entries e ih =>
      rw [ofEntries_concat, keys_set, List.map_append, List.mem_append, ← ih]
      split
      · rename_i hk
        refine ⟨.inl, fun h => h.elim id fun h => ?_⟩
        rw [List.map_singleton, List.mem_singleton] at h
        exact h ▸ hk
      · simp

/-- Without a key twice the map is the list. -/
theorem ofEntries_of_nodup {entries : List (κ × α)} (h : (entries.map Prod.fst).Nodup) :
    ofEntries entries = entries := by
  induction entries using List.reverseRecOn with
  | nil =>
      rfl
  | append_singleton entries e ih =>
      rw [List.map_append, List.map_singleton, List.nodup_append] at h
      have hnew : e.1 ∉ entries.map Prod.fst := fun hk => h.2.2 _ hk _ (by simp) rfl
      rw [ofEntries_concat, ih h.1, set, if_neg hnew]

/-- The key that comes first is the first one of the list. -/
theorem head?_keys_ofEntries (entries : List (κ × α)) :
    ((ofEntries entries).map Prod.fst).head? = (entries.map Prod.fst).head? := by
  induction entries using List.reverseRecOn with
  | nil =>
      rfl
  | append_singleton entries e ih =>
      rw [ofEntries_concat, keys_set, List.map_append, List.head?_append, ← ih]
      split
      · rename_i hk
        cases hkeys : (ofEntries entries).map Prod.fst with
        | nil =>
            exact absurd hk (hkeys ▸ List.not_mem_nil)
        | cons k keys =>
            rfl
      · rw [List.head?_append]
        rfl

/-! ### Values looked up one key after another -/

theorem get_map {β : Type} {f : α → β} {m : List (κ × α)} {k : κ} :
    get (m.map fun e => (e.1, f e.2)) k = (get m k).map f := by
  rw [get, List.find?_map, Option.map_map, get, Option.map_map]
  rfl

/-- With every key of the map among them, the values are those of the map. -/
theorem perm_filterMap_get
    {m : List (κ × α)} {keys : List κ}
    (hm : (m.map Prod.fst).Nodup)
    (hkeys : keys.Nodup)
    (hall : ∀ e, e ∈ m → e.1 ∈ keys) :
    (keys.filterMap (get m)).Perm (m.map Prod.snd) := by
  have hentries : (keys.filterMap fun k => (get m k).map fun a => (k, a)).Perm m := by
    refine (List.perm_ext_iff_of_nodup ?_ hm.of_map).mpr fun e => ?_
    · refine hkeys.filterMap fun k k' e he he' => ?_
      obtain ⟨a, -, rfl⟩ := Option.map_eq_some_iff.mp he
      obtain ⟨a', -, heq⟩ := Option.map_eq_some_iff.mp he'
      exact (Prod.mk.inj heq).1.symm
    · simp only [List.mem_filterMap, Option.map_eq_some_iff, get_eq_some_iff hm]
      constructor
      · rintro ⟨k, -, a, hmem, rfl⟩
        exact hmem
      · exact fun he => ⟨e.1, hall e he, e.2, he, rfl⟩
  have hvalues := hentries.map Prod.snd
  simpa only [List.map_filterMap, Option.map_map, Function.comp_def, Option.map_id'] using hvalues

/-! ### Sets -/

/-- The values of a `Set`, which keeps the first of equal ones -/
def newSet (l : List κ) : List κ :=
  (ofEntries (l.map fun a => (a, ()))).map Prod.fst

theorem nodup_newSet (l : List κ) : (newSet l).Nodup :=
  nodup_ofEntries _

@[simp] theorem mem_newSet {l : List κ} {k : κ} : k ∈ newSet l ↔ k ∈ l := by
  rw [newSet, mem_keys_ofEntries, List.map_map]
  simp

theorem head?_newSet (l : List κ) : (newSet l).head? = l.head? := by
  rw [newSet, head?_keys_ofEntries]
  cases l <;> rfl

theorem newSet_concat (l : List κ) (a : κ) :
    newSet (l ++ [a]) = if a ∈ newSet l then newSet l else newSet l ++ [a] := by
  rw [newSet, List.map_append, List.map_singleton, ofEntries_concat, keys_set]
  rfl

/-- A set of texts that stand for the values -/
theorem newSet_map
    {κ' : Type} [DecidableEq κ'] {f : κ → κ'} (hf : Function.Injective f) (l : List κ) :
    newSet (l.map f) = (newSet l).map f := by
  induction l using List.reverseRecOn with
  | nil =>
      rfl
  | append_singleton l a ih =>
      have hmem : f a ∈ (newSet l).map f ↔ a ∈ newSet l := List.mem_map_of_injective hf
      rw [List.map_append, List.map_singleton, newSet_concat, newSet_concat, ih]
      by_cases ha : a ∈ newSet l
      · rw [if_pos ha, if_pos (hmem.mpr ha)]
      · rw [if_neg ha, if_neg fun h => ha (hmem.mp h), List.map_append, List.map_singleton]

theorem length_newSet_le (l : List κ) : (newSet l).length ≤ l.length := by
  induction l using List.reverseRecOn with
  | nil =>
      exact Nat.le_refl 0
  | append_singleton l a ih =>
      rw [newSet_concat, List.length_append, List.length_singleton]
      split
      · omega
      · rw [List.length_append, List.length_singleton]
        omega

end JsMap
end BookStore
