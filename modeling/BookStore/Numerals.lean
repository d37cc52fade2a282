import BookStore.Text
import Mathlib.Data.List.DropRight

/-!
# Integers as JavaScript prints them

`numberText z` is `String(z)`.  From 10²¹ on an integer is printed with an exponent; the
integer `z` is then the one with the shortest digits that the number stands for.

`numberText_injective`: two integers are never printed alike.  Only digits and the
characters of `numberMarks` occur.
-/

namespace BookStore

/-- The digits without the zeros at the end -/
def significand (n : Nat) : List Char :=
  (natText n).rdropWhile fun c => decide (c = '0')

/-- The digits with a point after the first of them, if there are more -/
def mantissaText : List Char → List Char
  | d :: e :: digits => d :: '.' :: e :: digits
  | digits => digits

def exponentText (n : Nat) : List Char :=
  mantissaText (significand n) ++ 'e' :: '+' :: natText ((natText n).length - 1)

/-- `String(n)` of a natural number -/
def unsignedText (n : Nat) : List Char :=
  if n < 1000000000000000000000 then natText n else exponentText n

/-- `String(z)` -/
def numberText : Int → List Char
  | .ofNat n => unsignedText n
  | .negSucc n => '-' :: unsignedText (n + 1)

/-- What the text of a natural number contains besides digits. -/
def exponentMarks : List Char :=
  ['+', '.', 'e']

/-- What a numeral contains besides digits. -/
def numberMarks : List Char :=
  '-' :: exponentMarks

theorem significand_append (n : Nat) :
    natText n = significand n ++
      List.replicate ((natText n).length - (significand n).length) '0' := by
  have happend := List.rdropWhile_append_rtakeWhile (p := fun c => decide (c = '0'))
    (l := natText n)
  have hzeros : (natText n).rtakeWhile (fun c => decide (c = '0')) =
      List.replicate ((natText n).length - (significand n).length) '0' := by
    refine List.eq_replicate_iff.mpr ⟨?_, fun c hc => ?_⟩
    · have hlength := congrArg List.length happend
      rw [List.length_append] at hlength
      unfold significand
      omega
    · simpa using List.mem_rtakeWhile_imp hc
  rw [← hzeros]
  exact happend.symm

theorem isDigit_of_mem_significand {c : Char} {n : Nat} (h : c ∈ significand n) :
    c.isDigit = true :=
  isDigit_of_mem_natText (List.rdropWhile_prefix _ _ |>.subset h)

theorem filter_mantissaText {digits : List Char} (h : '.' ∉ digits) :
    (mantissaText digits).filter (fun c => decide (c ≠ '.')) = digits := by
  have hself : digits.filter (fun c => decide (c ≠ '.')) = digits :=
    List.filter_eq_self.mpr fun c hc => decide_eq_true fun hpoint => h (hpoint ▸ hc)
  unfold mantissaText
  split
  · rename_i d e rest
    rw [← hself]
    simp [List.filter_cons]
  · exact hself

theorem mem_mantissaText {c : Char} {digits : List Char} (h : c ∈ mantissaText digits) :
    c = '.' ∨ c ∈ digits := by
  unfold mantissaText at h
  split at h
  · simp only [List.mem_cons] at h ⊢
    tauto
  · exact .inr h

theorem mem_exponentText {c : Char} {n : Nat} (h : c ∈ exponentText n) :
    c.isDigit = true ∨ c ∈ exponentMarks := by
  simp only [exponentText, List.mem_append, List.mem_cons] at h
  rcases h with h | rfl | rfl | h
  · rcases mem_mantissaText h with rfl | h
    · exact .inr (by decide)
    · exact .inl (isDigit_of_mem_significand h)
  · exact .inr (by decide)
  · exact .inr (by decide)
  · exact .inl (isDigit_of_mem_natText h)

theorem mem_unsignedText {c : Char} {n : Nat} (h : c ∈ unsignedText n) :
    c.isDigit = true ∨ c ∈ exponentMarks := by
  unfold unsignedText at h
  split at h
  · exact .inl (isDigit_of_mem_natText h)
  · exact mem_exponentText h

theorem mem_numberText {c : Char} {z : Int} (h : c ∈ numberText z) :
    c.isDigit = true ∨ c ∈ numberMarks := by
  cases z with
  | ofNat n =>
      exact (mem_unsignedText h).imp_right (List.mem_cons_of_mem _)
  | negSucc n =>
      rcases List.mem_cons.mp h with rfl | h
      · exact .inr (by decide)
      · exact (mem_unsignedText h).imp_right (List.mem_cons_of_mem _)

/-- A separator does not occur in a numeral. -/
theorem not_mem_numberText {c : Char} (hc : c.isDigit = false) (hmark : c ∉ numberMarks)
    (z : Int) :
    c ∉ numberText z := by
  intro h
  rcases mem_numberText h with hdigit | hmem
  · rw [hc] at hdigit
    cases hdigit
  · exact hmark hmem

theorem exponentText_injective : Function.Injective exponentText := by
  intro m n h
  have hdigit : ∀ k, 'e' ∉ '+' :: natText k := fun k hk => by
    rcases List.mem_cons.mp hk with hk | hk
    · cases hk
    · exact not_mem_natText rfl k hk
  obtain ⟨hmantissa, hexponent⟩ := splitLast_inj (hdigit _) (hdigit _) h
  have hpoint : ∀ k, '.' ∉ significand k := fun k hk => by
    cases isDigit_of_mem_significand hk
  have hsignificand : significand m = significand n := by
    rw [← filter_mantissaText (hpoint m), hmantissa, filter_mantissaText (hpoint n)]
  have hlength : (natText m).length = (natText n).length := by
    have := natText_injective (List.cons.inj hexponent).2
    have := List.length_pos_iff.mpr (natText_ne_nil m)
    have := List.length_pos_iff.mpr (natText_ne_nil n)
    omega
  refine natText_injective ?_
  rw [significand_append m, significand_append n, hsignificand, hlength]

theorem unsignedText_injective : Function.Injective unsignedText := by
  intro m n h
  have hplain : ∀ k, 'e' ∉ natText k := not_mem_natText rfl
  have hexponent : ∀ k, 'e' ∈ exponentText k := fun k => by
    simp [exponentText]
  unfold unsignedText at h
  split_ifs at h
  · exact natText_injective h
  · exact absurd (h ▸ hexponent n) (hplain m)
  · exact absurd (h.symm ▸ hexponent m) (hplain n)
  · exact exponentText_injective h

theorem numberText_injective : Function.Injective numberText := by
  have hsign : ∀ n, '-' ∉ unsignedText n := fun n hn => by
    rcases mem_unsignedText hn with h | h
    · cases h
    · exact absurd h (by decide)
  intro y z h
  cases y with
  | ofNat m =>
      cases z with
      | ofNat n =>
          rw [unsignedText_injective h]
      | negSucc n =>
          refine absurd ?_ (hsign m)
          rw [show unsignedText m = '-' :: unsignedText (n + 1) from h]
          exact List.mem_cons_self
  | negSucc m =>
      cases z with
      | ofNat n =>
          refine absurd ?_ (hsign n)
          rw [← show '-' :: unsignedText (m + 1) = unsignedText n from h]
          exact List.mem_cons_self
      | negSucc n =>
          have := unsignedText_injective (List.cons.inj h).2
          rw [Nat.succ.inj this]

/-- Below 10²¹ a natural number is printed with its digits. -/
theorem numberText_natCast {n : Nat} (h : n < 1000000000000000000000) :
    numberText n = natText n :=
  if_pos h

end BookStore
