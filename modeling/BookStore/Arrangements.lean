import Mathlib.Data.List.Perm.Subperm
import Mathlib.Data.List.Permutation

/-!
# Shuffling by exchanges

`arrangements i l` lists what the entries of `l` up to index `i` come to when each of them, from
`i` down to `1`, is exchanged with one at or below it: one list for each way to choose the
partners.  On a list without duplicates each arrangement comes up once
(`perm_arrangements_permutations`), and each beginning of an arrangement comes up equally often
(`countP_arrangements_take`).
-/

namespace BookStore

variable {α : Type}

/-- The entries at two indices change places. -/
def exchange (l : List α) (i j : Nat) : List α :=
  match l[i]?, l[j]? with
  | some a, some b => (l.set i b).set j a
  | _, _ => l

/-- The lists that the loop from index `i` down may end in -/
def arrangements : Nat → List α → List (List α)
  | 0, l => [l]
  | i + 1, l => (List.finRange (i + 2)).flatMap fun j : Fin (i + 2) =>
      arrangements i (exchange l (i + 1) j)

theorem exchange_eq {l : List α} {i j : Nat} (hi : i < l.length) (hj : j < l.length) :
    exchange l i j = (l.set i l[j]).set j l[i] := by
  simp only [exchange, List.getElem?_eq_getElem hi, List.getElem?_eq_getElem hj]

theorem perm_exchange {l : List α} {i j : Nat} (hi : i < l.length) (hj : j < l.length) :
    (exchange l i j).Perm l := by
  rw [exchange_eq hi hj]
  exact List.set_set_perm hi hj

/-- Behind the upper index nothing changes, and there the other entry comes to stand. -/
theorem drop_exchange {l : List α} {i j : Nat} (hi : i < l.length) (hj : j ≤ i) :
    (exchange l i j).drop i = l[j] :: l.drop (i + 1) := by
  rw [exchange_eq hi (by omega)]
  have hlength : i < ((l.set i l[j]).set j l[i]).length := by
    simpa using hi
  rw [List.drop_eq_getElem_cons hlength, List.drop_set_of_lt (by omega),
    List.drop_set_of_lt (by omega)]
  congr 1
  rcases hj.eq_or_lt with rfl | hj
  · rw [List.getElem_set_self]
  · rw [List.getElem_set_of_ne hj.ne, List.getElem_set_self]

theorem mem_arrangements
    {i : Nat} {l l' : List α}
    (hl : l.Nodup)
    (hi : i < l.length) :
    l' ∈ arrangements i l ↔ l'.Perm l ∧ l'.drop (i + 1) = l.drop (i + 1) := by
  induction i generalizing l with
  | zero =>
      obtain ⟨a, rest, rfl⟩ := List.exists_cons_of_length_pos hi
      simp only [arrangements, List.mem_singleton, Nat.zero_add, List.drop_succ_cons,
        List.drop_zero]
      constructor
      · rintro rfl
        exact ⟨.refl _, rfl⟩
      · rintro ⟨hperm, hdrop⟩
        obtain ⟨b, rest', rfl⟩ := List.exists_cons_of_length_pos (hperm.length_eq ▸ hi)
        rw [List.drop_succ_cons, List.drop_zero] at hdrop
        subst hdrop
        rw [List.singleton_perm_singleton.mp ((List.perm_append_right_iff rest').mp hperm)]
  | succ i ih =>
      simp only [arrangements, List.mem_flatMap, List.mem_finRange, true_and]
      constructor
      · rintro ⟨j, hj⟩
        have hexchange := perm_exchange hi (by omega : (j : Nat) < l.length)
        obtain ⟨hperm, hdrop⟩ := (ih (hexchange.nodup_iff.mpr hl)
          (hexchange.length_eq ▸ by omega)).mp hj
        rw [drop_exchange hi (by omega)] at hdrop
        refine ⟨hperm.trans hexchange, ?_⟩
        rw [← List.drop_drop, hdrop]
        rfl
      · rintro ⟨hperm, hdrop⟩
        have hi' : i + 1 < l'.length := hperm.length_eq ▸ hi
        -- the entry that stands at `i + 1` in the end is the partner that was chosen
        obtain ⟨j, hj, hentry⟩ := List.getElem_of_mem (hperm.subset (List.getElem_mem hi'))
        have hle : j ≤ i + 1 := by
          by_contra hlt
          have hmem : l'[i + 1] ∈ l'.drop (i + 2) := by
            rw [hdrop, ← hentry]
            exact List.mem_drop_iff_getElem.mpr ⟨j - (i + 2), by omega, by congr 1; omega⟩
          have hnodup := (hperm.nodup_iff.mpr hl).sublist (List.drop_sublist (i + 1) l')
          rw [List.drop_eq_getElem_cons hi', List.nodup_cons] at hnodup
          exact hnodup.1 hmem
        have hexchange := perm_exchange hi hj
        refine ⟨⟨j, by omega⟩, (ih (hexchange.nodup_iff.mpr hl)
          (hexchange.length_eq ▸ by omega)).mpr ⟨hperm.trans hexchange.symm, ?_⟩⟩
        rw [drop_exchange hi hle, List.drop_eq_getElem_cons hi', hdrop, hentry]

theorem nodup_arrangements
    {i : Nat} {l : List α}
    (hl : l.Nodup)
    (hi : i < l.length) :
    (arrangements i l).Nodup := by
  induction i generalizing l with
  | zero =>
      exact List.nodup_singleton l
  | succ i ih =>
      have hstep : ∀ j : Fin (i + 2), (exchange l (i + 1) j).Nodup ∧
          i < (exchange l (i + 1) j).length := by
        intro j
        have hexchange := perm_exchange hi (by omega : (j : Nat) < l.length)
        exact ⟨hexchange.nodup_iff.mpr hl, hexchange.length_eq ▸ by omega⟩
      refine List.nodup_flatMap.mpr ⟨fun j _ => ih (hstep j).1 (hstep j).2, ?_⟩
      refine (List.nodup_finRange (i + 2)).imp fun {j k} hne l' hj hk => hne ?_
      -- two partners differ in the entry that stands at `i + 1` in the end
      have hj' := ((mem_arrangements (hstep j).1 (hstep j).2).mp hj).2
      have hk' := ((mem_arrangements (hstep k).1 (hstep k).2).mp hk).2
      rw [hj', drop_exchange hi (by omega), drop_exchange hi (by omega)] at hk'
      exact Fin.ext ((hl.getElem_inj_iff).mp (List.cons_eq_cons.mp hk').1)

/-- Each arrangement comes up once. -/
theorem perm_arrangements_permutations {l : List α} (hl : l.Nodup) :
    (arrangements (l.length - 1) l).Perm l.permutations := by
  rcases l.eq_nil_or_concat with rfl | ⟨rest, a, rfl⟩
  · rw [List.permutations_nil]
    exact .refl _
  · have hi : (rest.concat a).length - 1 < (rest.concat a).length := by
      rw [List.length_concat]
      omega
    refine (List.perm_ext_iff_of_nodup (nodup_arrangements hl hi)
      (List.nodup_permutations _ hl)).mpr fun l' => ?_
    rw [mem_arrangements hl hi, List.mem_permutations]
    refine and_iff_left_of_imp fun hperm => ?_
    have hlength := hperm.length_eq
    rw [List.drop_of_length_le (by omega), List.drop_of_length_le (by omega)]

/-! ### Beginnings -/

section Beginnings

variable [DecidableEq α]

theorem perm_append_diff
    {l chosen : List α}
    (hchosen : chosen.Nodup)
    (hsubset : chosen ⊆ l) :
    (chosen ++ l.diff chosen).Perm l :=
  List.subperm_append_diff_self_of_count_le fun a _ =>
    (List.Nodup.subperm hchosen hsubset).count_le a

/-- The arrangements that begin with a list are those of the other entries behind it. -/
theorem perm_filter_permutations
    {l chosen : List α}
    (hl : l.Nodup)
    (hchosen : chosen.Nodup)
    (hsubset : chosen ⊆ l) :
    (l.permutations.filter fun l' => decide (l'.take chosen.length = chosen)).Perm
      ((l.diff chosen).permutations.map (chosen ++ ·)) := by
  have hdiff := perm_append_diff hchosen hsubset
  refine (List.perm_ext_iff_of_nodup ((List.nodup_permutations _ hl).filter _)
    ((List.nodup_permutations _ hl.diff).map (List.append_right_injective chosen))).mpr
    fun l' => ?_
  simp only [List.mem_filter, List.mem_permutations, decide_eq_true_eq, List.mem_map]
  constructor
  · rintro ⟨hperm, htake⟩
    refine ⟨l'.drop chosen.length, ?_, ?_⟩
    · refine (List.perm_append_left_iff chosen).mp (.trans ?_ hdiff.symm)
      nth_rewrite 1 [← htake]
      rwa [List.take_append_drop]
    · nth_rewrite 1 [← htake]
      rw [List.take_append_drop]
  · rintro ⟨rest, hrest, rfl⟩
    exact ⟨((List.perm_append_left_iff chosen).mpr hrest).trans hdiff, List.take_left⟩

/-- Each beginning comes up as often as the other entries can be arranged. -/
theorem countP_arrangements_take
    {l chosen : List α}
    (hl : l.Nodup)
    (hchosen : chosen.Nodup)
    (hsubset : chosen ⊆ l) :
    (arrangements (l.length - 1) l).countP (fun l' => decide (l'.take chosen.length = chosen)) =
      (l.length - chosen.length).factorial := by
  rw [(perm_arrangements_permutations hl).countP_eq, List.countP_eq_length_filter,
    (perm_filter_permutations hl hchosen hsubset).length_eq, List.length_map,
    List.length_permutations]
  congr 1
  have hdiff := (perm_append_diff hchosen hsubset).length_eq
  rw [List.length_append] at hdiff
  omega

end Beginnings

end BookStore
