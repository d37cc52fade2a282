import Mathlib.Data.Nat.Digits.Defs
import Mathlib.Data.List.Basic
import Mathlib.Data.List.DropRight

/-!
# Texts put together from parts

Keys and hashes are texts with separators.  A numeral contains no separator, and a
text is split at its first or at its last separator in one way only.  A text is trimmed at
its two ends.
-/

namespace BookStore

/-- `String(n)` -/
def natText (n : Nat) : List Char :=
  Nat.toDigits 10 n

theorem natText_injective : Function.Injective natText := by
  intro m n h
  have := congrArg (Nat.ofDigitChars 10 · 0) h
  simpa [natText, Nat.ofDigitChars_ten_toDigits] using this

theorem not_mem_natText {c : Char} (hc : c.isDigit = false) (n : Nat) : c ∉ natText n := by
  intro h
  rw [Nat.isDigit_of_mem_toDigits (by decide) (by decide) h] at hc
  cases hc

@[simp] theorem toList_toString (n : Nat) : (toString n).toList = natText n := by
  simp [natText]

theorem isDigit_of_mem_natText {c : Char} {n : Nat} (h : c ∈ natText n) : c.isDigit = true :=
  Nat.isDigit_of_mem_toDigits (by decide) (by decide) h

theorem natText_ne_nil (n : Nat) : natText n ≠ [] := by
  intro h
  have hlength : 0 < (Nat.toDigits 10 n).length := Nat.length_toDigits_pos
  rw [show Nat.toDigits 10 n = [] from h] at hlength
  cases hlength

/-- The numeral at the start of a text that goes on with something else. -/
theorem takeWhile_natText
    {n : Nat} {s : List Char}
    (hs : ∀ c, s.head? = some c → c.isDigit = false) :
    (natText n ++ s).takeWhile Char.isDigit = natText n := by
  rw [List.takeWhile_append_of_pos (fun c hc => isDigit_of_mem_natText hc)]
  cases s with
  | nil =>
      simp
  | cons c s =>
      simp [hs c rfl]

theorem natText_append_inj
    {m n : Nat} {s t : List Char}
    (hs : ∀ c, s.head? = some c → c.isDigit = false)
    (ht : ∀ c, t.head? = some c → c.isDigit = false)
    (h : natText m ++ s = natText n ++ t) :
    m = n ∧ s = t := by
  have hdigits := takeWhile_natText (n := n) ht
  rw [← h, takeWhile_natText hs] at hdigits
  obtain rfl := natText_injective hdigits
  exact ⟨rfl, List.append_cancel_left h⟩

/-- What is left between the first and the last element that is not trimmed. -/
theorem dropWhile_rdropWhile_dropWhile {α : Type} (p : α → Bool) (l : List α) :
    ((l.dropWhile p).rdropWhile p).dropWhile p = (l.dropWhile p).rdropWhile p := by
  have hstart := List.rdropWhile_prefix p (l.dropWhile p)
  rw [List.dropWhile_eq_self_iff]
  intro hl
  rw [hstart.getElem hl]
  exact List.dropWhile_eq_self_iff.mp (List.dropWhile_idempotent p l)
    (hl.trans_le hstart.length_le)

/-- Two texts with their last separator. -/
theorem splitLast_inj
    {c : Char} {a b a' b' : List Char}
    (hb : c ∉ b)
    (hb' : c ∉ b')
    (h : a ++ c :: b = a' ++ c :: b') :
    a = a' ∧ b = b' := by
  induction a generalizing a' with
  | nil =>
      cases a' with
      | nil =>
          exact ⟨rfl, by simpa using h⟩
      | cons x a' =>
          simp only [List.nil_append, List.cons_append, List.cons.injEq] at h
          exact absurd (by rw [h.2]; simp) hb
  | cons x a ih =>
      cases a' with
      | nil =>
          simp only [List.nil_append, List.cons_append, List.cons.injEq] at h
          exact absurd (by rw [← h.2]; simp) hb'
      | cons y a' =>
          simp only [List.cons_append, List.cons.injEq] at h
          obtain ⟨hxy, h⟩ := h
          obtain ⟨ha, hb⟩ := ih h
          exact ⟨by rw [hxy, ha], hb⟩

/-- Two texts with their first separator -/
theorem splitFirst_inj
    {c : Char} {a b a' b' : List Char}
    (ha : c ∉ a)
    (ha' : c ∉ a')
    (h : a ++ c :: b = a' ++ c :: b') :
    a = a' ∧ b = b' := by
  have hreverse : b.reverse ++ c :: a.reverse = b'.reverse ++ c :: a'.reverse := by
    have := congrArg List.reverse h
    simpa using this
  obtain ⟨hb, ha⟩ := splitLast_inj (by simpa using ha) (by simpa using ha') hreverse
  exact ⟨List.reverse_injective ha, List.reverse_injective hb⟩

end BookStore
