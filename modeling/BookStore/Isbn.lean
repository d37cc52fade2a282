import BookStore.Catalog.Service
import BookStore.WeightedSums
import Mathlib.Tactic.IntervalCases

/-!
# ISBN validation

`validateISBN` drops hyphens and spaces and checks the weighted sum of ten or thirteen
characters.

* `validateISBN_iff`: it accepts exactly the codes of these two forms.
* `validateISBN_replaced`: a code with one character replaced is rejected.
* `validateISBN_exact` puts the two together.
-/

namespace BookStore

open Finset

/-- `isbn.replace(/[- ]/g, "")` -/
def cleanIsbn (isbn : String) : String :=
  String.ofList (isbn.toList.filter fun c => decide (c ≠ '-') && decide (c ≠ ' '))

/-- `[\dX]`, ignoring case -/
def isCheckChar (c : Char) : Bool :=
  c.isDigit || decide (c = 'X') || decide (c = 'x')

/-- `/^\d{9}[\dX]$/i.test(s)` -/
def testIsbn10 (s : List Char) : Bool :=
  decide (s.length = 10) && (s.take 9).all Char.isDigit && (s.drop 9).all isCheckChar

/-- `/^\d{13}$/.test(s)` -/
def testIsbn13 (s : List Char) : Bool :=
  decide (s.length = 13) && s.all Char.isDigit

/-- `parseInt(c)` of a digit, and 10 for an `X` in either case -/
def isbnValue (c : Char) : Nat :=
  if c = 'X' ∨ c = 'x' then 10 else c.toNat - '0'.toNat

def weight10 (index : Nat) : Nat :=
  10 - index

def weight13 (index : Nat) : Nat :=
  if index % 2 = 0 then 1 else 3

def validateISBN (isbn : String) : Bool :=
  let clean := cleanIsbn isbn
  if utf16Length clean = 10 then
    if testIsbn10 clean.toList = false then false
    else decide (weightedSum isbnValue weight10 clean.toList % 11 = 0)
  else if utf16Length clean = 13 then
    if testIsbn13 clean.toList = false then false
    else decide (weightedSum isbnValue weight13 clean.toList % 10 = 0)
  else
    false

/-! ### What is accepted -/

/-- Nine digits and a check character, with a sum that 11 divides -/
structure IsIsbn10 (s : List Char) : Prop where
  length : s.length = 10
  digits : ∀ i, i < 9 → (s.getD i ' ').isDigit = true
  check : (s.getD 9 ' ').isDigit = true ∨ s.getD 9 ' ' = 'X' ∨ s.getD 9 ' ' = 'x'
  sum : 11 ∣ ∑ i ∈ range 10, isbnValue (s.getD i ' ') * (10 - i)

/-- Thirteen digits, with a sum that 10 divides -/
structure IsIsbn13 (s : List Char) : Prop where
  length : s.length = 13
  digits : ∀ i, i < 13 → (s.getD i ' ').isDigit = true
  sum : 10 ∣ ∑ i ∈ range 13, isbnValue (s.getD i ' ') * if i % 2 = 0 then 1 else 3

theorem toNat_of_isDigit {c : Char} (h : c.isDigit = true) : 48 ≤ c.toNat ∧ c.toNat ≤ 57 := by
  simp only [Char.isDigit, Bool.and_eq_true, decide_eq_true_eq] at h
  exact ⟨UInt32.le_iff_toNat_le.mp h.1, UInt32.le_iff_toNat_le.mp h.2⟩

theorem isDigit_lt {c : Char} (h : c.isDigit = true) : c.toNat < 0x10000 := by
  have := toNat_of_isDigit h
  omega

theorem isCheckChar_lt {c : Char} (h : isCheckChar c = true) : c.toNat < 0x10000 := by
  simp only [isCheckChar, Bool.or_eq_true, decide_eq_true_eq] at h
  rcases h with (h | rfl) | rfl
  · exact isDigit_lt h
  · decide
  · decide

/-- Characters that take one code unit -/
theorem utf16Length_eq {s : String} (h : ∀ c, c ∈ s.toList → c.toNat < 0x10000) :
    utf16Length s = s.toList.length := by
  rw [utf16Length]
  revert h
  induction s.toList with
  | nil =>
      intro _
      rfl
  | cons c l ih =>
      intro h
      rw [List.map_cons, List.sum_cons, ih fun d hd => h d (List.mem_cons_of_mem _ hd),
        if_neg (not_le.mpr (h c List.mem_cons_self)), List.length_cons, Nat.add_comm]

theorem all_take_iff {s : List Char} {p : Char → Bool} {n : Nat} (hn : n ≤ s.length) :
    (s.take n).all p = true ↔ ∀ i, i < n → p (s.getD i ' ') = true := by
  rw [List.all_eq_true]
  constructor
  · intro h i hi
    have hlt : i < s.length := by omega
    rw [List.getD_eq_getElem _ _ hlt]
    exact h _ (List.mem_take_iff_getElem.mpr ⟨i, by omega, rfl⟩)
  · intro h c hc
    obtain ⟨i, hi, rfl⟩ := List.mem_take_iff_getElem.mp hc
    have hlt : i < s.length := by omega
    have := h i (by omega)
    rwa [List.getD_eq_getElem _ _ hlt] at this

theorem testIsbn10_iff {s : List Char} :
    testIsbn10 s = true ↔ s.length = 10 ∧ (∀ i, i < 9 → (s.getD i ' ').isDigit = true) ∧
      isCheckChar (s.getD 9 ' ') = true := by
  rw [testIsbn10, Bool.and_eq_true, Bool.and_eq_true, decide_eq_true_eq, and_assoc]
  refine and_congr_right fun hlength => ?_
  have hlt : 9 < s.length := by omega
  have hdrop : s.drop 9 = [s.getD 9 ' '] := by
    rw [List.drop_eq_getElem_cons hlt, List.drop_eq_nil_of_le hlength.le,
      List.getD_eq_getElem _ _ hlt]
  rw [all_take_iff hlt.le, hdrop, List.all_cons, List.all_nil, Bool.and_true]

theorem testIsbn13_iff {s : List Char} :
    testIsbn13 s = true ↔ s.length = 13 ∧ ∀ i, i < 13 → (s.getD i ' ').isDigit = true := by
  rw [testIsbn13, Bool.and_eq_true, decide_eq_true_eq]
  refine and_congr_right fun hlength => ?_
  rw [← all_take_iff hlength.ge, List.take_of_length_le hlength.le]

theorem utf16Length_of_testIsbn10 {s : String} (h : testIsbn10 s.toList = true) :
    utf16Length s = 10 := by
  simp only [testIsbn10, Bool.and_eq_true, decide_eq_true_eq, List.all_eq_true] at h
  obtain ⟨⟨hlength, hdigits⟩, hcheck⟩ := h
  rw [utf16Length_eq, hlength]
  intro c hc
  rw [← List.take_append_drop 9 s.toList] at hc
  rcases List.mem_append.mp hc with hc | hc
  · exact isDigit_lt (hdigits c hc)
  · exact isCheckChar_lt (hcheck c hc)

theorem utf16Length_of_testIsbn13 {s : String} (h : testIsbn13 s.toList = true) :
    utf16Length s = 13 := by
  simp only [testIsbn13, Bool.and_eq_true, decide_eq_true_eq, List.all_eq_true] at h
  rw [utf16Length_eq fun c hc => isDigit_lt (h.2 c hc), h.1]

/-- The length is in code units, which the tests make the number of characters. -/
theorem validateISBN_eq (isbn : String) :
    validateISBN isbn = true ↔
      (testIsbn10 (cleanIsbn isbn).toList = true ∧
          weightedSum isbnValue weight10 (cleanIsbn isbn).toList % 11 = 0) ∨
        (testIsbn13 (cleanIsbn isbn).toList = true ∧
          weightedSum isbnValue weight13 (cleanIsbn isbn).toList % 10 = 0) := by
  have h10 := utf16Length_of_testIsbn10 (s := cleanIsbn isbn)
  have h13 := utf16Length_of_testIsbn13 (s := cleanIsbn isbn)
  rw [validateISBN]
  by_cases hten : utf16Length (cleanIsbn isbn) = 10
  · have hno : ¬testIsbn13 (cleanIsbn isbn).toList = true := fun h => by
      rw [h13 h] at hten
      cases hten
    rw [if_pos hten]
    cases htest : testIsbn10 (cleanIsbn isbn).toList <;> simp [hno]
  · have hno : ¬testIsbn10 (cleanIsbn isbn).toList = true := fun h => hten (h10 h)
    rw [if_neg hten]
    by_cases hthirteen : utf16Length (cleanIsbn isbn) = 13
    · rw [if_pos hthirteen]
      cases htest : testIsbn13 (cleanIsbn isbn).toList <;> simp [hno]
    · have hno' : ¬testIsbn13 (cleanIsbn isbn).toList = true := fun h => hthirteen (h13 h)
      rw [if_neg hthirteen]
      simp [hno, hno']

theorem validateISBN_iff {isbn : String} :
    validateISBN isbn = true ↔
      IsIsbn10 (cleanIsbn isbn).toList ∨ IsIsbn13 (cleanIsbn isbn).toList := by
  rw [validateISBN_eq, testIsbn10_iff, testIsbn13_iff]
  refine or_congr ?_ ?_
  · constructor
    · rintro ⟨⟨hlength, hdigits, hcheck⟩, hsum⟩
      refine ⟨hlength, hdigits, by simpa [isCheckChar, or_assoc] using hcheck, ?_⟩
      rw [weightedSum_eq_sum _ ' ', hlength] at hsum
      exact Nat.dvd_of_mod_eq_zero hsum
    · rintro ⟨hlength, hdigits, hcheck, hsum⟩
      refine ⟨⟨hlength, hdigits, by simpa [isCheckChar, or_assoc] using hcheck⟩, ?_⟩
      rw [weightedSum_eq_sum _ ' ', hlength]
      exact Nat.mod_eq_zero_of_dvd hsum
  · constructor
    · rintro ⟨⟨hlength, hdigits⟩, hsum⟩
      refine ⟨hlength, hdigits, ?_⟩
      rw [weightedSum_eq_sum _ ' ', hlength] at hsum
      exact Nat.dvd_of_mod_eq_zero hsum
    · rintro ⟨hlength, hdigits, hsum⟩
      refine ⟨⟨hlength, hdigits⟩, ?_⟩
      rw [weightedSum_eq_sum _ ' ', hlength]
      exact Nat.mod_eq_zero_of_dvd hsum

/-! ### One character replaced -/

theorem ne_of_isCheckChar {c : Char} (hc : isCheckChar c = true) : c ≠ '-' ∧ c ≠ ' ' := by
  constructor <;> rintro rfl <;> revert hc <;> decide

theorem cleanIsbn_append (a b : List Char) {c : Char} (hc : isCheckChar c = true) :
    (cleanIsbn (String.ofList (a ++ c :: b))).toList =
      (cleanIsbn (String.ofList a)).toList ++ c :: (cleanIsbn (String.ofList b)).toList := by
  have hkept := ne_of_isCheckChar hc
  simp only [cleanIsbn, String.toList_ofList, List.filter_append, List.filter_cons, hkept.1,
    hkept.2, ne_eq, not_false_eq_true, decide_true, Bool.and_self, if_true]

theorem isDigit_of_isCheckChar {c : Char} (hc : isCheckChar c = true) (h : isbnValue c ≠ 10) :
    c.isDigit = true := by
  simp only [isCheckChar, Bool.or_eq_true, decide_eq_true_eq, or_assoc] at hc
  refine hc.resolve_right fun hX => h ?_
  rw [isbnValue, if_pos hX]

theorem toNat_eq_isbnValue {c : Char} (h : c.isDigit = true) : c.toNat = isbnValue c + 48 := by
  have hne : ¬(c = 'X' ∨ c = 'x') := by
    rintro (rfl | rfl) <;> revert h <;> decide
  have := toNat_of_isDigit h
  rw [isbnValue, if_neg hne]
  change c.toNat = c.toNat - 48 + 48
  omega

theorem isbnValue_isDigit {c : Char} (h : c.isDigit = true) : isbnValue c < 10 := by
  have := toNat_of_isDigit h
  have := toNat_eq_isbnValue h
  omega

theorem isbnValue_isCheckChar {c : Char} (hc : isCheckChar c = true) : isbnValue c < 11 := by
  by_cases h : isbnValue c = 10
  · omega
  · have := isbnValue_isDigit (isDigit_of_isCheckChar hc h)
    omega

theorem coprime_weight10 {i : Nat} (hi : i < 10) : Nat.Coprime 11 (weight10 i) := by
  interval_cases i <;> decide

theorem coprime_weight13 (i : Nat) : Nat.Coprime 10 (weight13 i) := by
  rw [weight13]
  split <;> decide

theorem isDigit_of_testIsbn13 {a b : List Char} {c : Char}
    (h : testIsbn13 (a ++ c :: b) = true) : c.isDigit = true := by
  rw [testIsbn13, Bool.and_eq_true, List.all_eq_true] at h
  exact h.2 c (List.mem_append_right _ List.mem_cons_self)

/-- Both codes would have a sum that 11 divides, or that 10 divides. -/
theorem validateISBN_replaced
    {pre post : List Char} {c c' : Char}
    (hc : isCheckChar c = true) (hc' : isCheckChar c' = true)
    (hvalues : isbnValue c ≠ isbnValue c')
    (haccepted : validateISBN (String.ofList (pre ++ c :: post)) = true) :
    validateISBN (String.ofList (pre ++ c' :: post)) = false := by
  rw [← Bool.not_eq_true]
  intro hreplaced
  rw [validateISBN_eq, cleanIsbn_append pre post hc] at haccepted
  rw [validateISBN_eq, cleanIsbn_append pre post hc'] at hreplaced
  have hlengths : ∀ d : Char, ((cleanIsbn (String.ofList pre)).toList ++
      d :: (cleanIsbn (String.ofList post)).toList).length =
      (cleanIsbn (String.ofList pre)).toList.length +
        (cleanIsbn (String.ofList post)).toList.length + 1 := fun d => by
    rw [List.length_append, List.length_cons, Nat.add_assoc]
  rcases haccepted with ⟨htest, hsum⟩ | ⟨htest, hsum⟩
  · have hlength := (testIsbn10_iff.mp htest).1
    rw [hlengths] at hlength
    rcases hreplaced with ⟨-, hsum'⟩ | ⟨htest', -⟩
    · exact hvalues (value_eq_of_weightedSum (coprime_weight10 (by omega))
        (isbnValue_isCheckChar hc) (isbnValue_isCheckChar hc') hsum hsum')
    · have hlength' := (testIsbn13_iff.mp htest').1
      rw [hlengths] at hlength'
      omega
  · have hlength := (testIsbn13_iff.mp htest).1
    rw [hlengths] at hlength
    rcases hreplaced with ⟨htest', -⟩ | ⟨htest', hsum'⟩
    · have hlength' := (testIsbn10_iff.mp htest').1
      rw [hlengths] at hlength'
      omega
    · exact hvalues (value_eq_of_weightedSum (coprime_weight13 _)
        (isbnValue_isDigit (isDigit_of_testIsbn13 htest))
        (isbnValue_isDigit (isDigit_of_testIsbn13 htest')) hsum hsum')

/-- A digit or an `X` is its value, up to case. -/
theorem toUpper_eq_of_isbnValue
    {c c' : Char} (hc : isCheckChar c = true) (hc' : isCheckChar c' = true)
    (h : isbnValue c = isbnValue c') : c.toUpper = c'.toUpper := by
  have hX : ∀ {d : Char}, isCheckChar d = true → isbnValue d = 10 → d.toUpper = 'X' := by
    intro d hd hvalue
    by_cases hdigit : d.isDigit = true
    · have := isbnValue_isDigit hdigit
      omega
    · simp only [isCheckChar, Bool.or_eq_true, decide_eq_true_eq, hdigit, false_or,
        Bool.false_eq_true] at hd
      rcases hd with rfl | rfl <;> decide
  by_cases hten : isbnValue c = 10
  · rw [hX hc hten, hX hc' (h.symm.trans hten)]
  · have hdigit := isDigit_of_isCheckChar hc hten
    have hdigit' := isDigit_of_isCheckChar hc' fun hten' => hten (h.trans hten')
    have hsame : c.toNat = c'.toNat := by
      rw [toNat_eq_isbnValue hdigit, toNat_eq_isbnValue hdigit', h]
    rw [Char.toNat_inj.mp hsame]

/-- What is accepted, and that no two accepted codes differ in one character -/
theorem validateISBN_exact :
    (∀ isbn, validateISBN isbn = true ↔
      IsIsbn10 (cleanIsbn isbn).toList ∨ IsIsbn13 (cleanIsbn isbn).toList) ∧
    ∀ (pre post : List Char) (c c' : Char),
      isCheckChar c = true → isCheckChar c' = true → c.toUpper ≠ c'.toUpper →
      validateISBN (String.ofList (pre ++ c :: post)) = true →
        validateISBN (String.ofList (pre ++ c' :: post)) = false :=
  ⟨fun _ => validateISBN_iff, fun _ _ _ _ hc hc' hne =>
    validateISBN_replaced hc hc' fun h => hne (toUpper_eq_of_isbnValue hc hc' h)⟩

theorem validateISBN_exact_080442957X :
    validateISBN "0-8044-2957-X" = true ∧ validateISBN "0-8044-2957-9" = false :=
  ⟨by decide +kernel,
    validateISBN_exact.2 "0-8044-2957-".toList [] 'X' '9' (by decide) (by decide) (by decide)
      (by decide +kernel)⟩

end BookStore
