import Mathlib.Data.List.Infix
import Mathlib.Tactic.Common

/-!
# `LIKE` with a backslash as the escape character

`%` matches any sequence, `_` any single character, and a backslash makes the character after
it literal; a backslash at the end escapes nothing, and the pattern is none.  Characters are
compared exactly.

`matchLike_inside`: a literal text between two `%` is matched by the texts it occurs in.
-/

namespace BookStore

/-- A pattern is a sequence of these. -/
inductive LikeToken
  | anySequence
  | anyCharacter
  | literal (c : Char)
  deriving DecidableEq

def parseLike : List Char → Option (List LikeToken)
  | [] => some []
  | c :: p =>
      if c = '%' then
        (parseLike p).map (.anySequence :: ·)
      else if c = '_' then
        (parseLike p).map (.anyCharacter :: ·)
      else if c = '\\' then
        match p with
        | [] => none
        | d :: p => (parseLike p).map (.literal d :: ·)
      else
        (parseLike p).map (.literal c :: ·)

def matchLike : List LikeToken → List Char → Bool
  | [], s => s.isEmpty
  | .anySequence :: p, s => s.tails.any (matchLike p)
  | .anyCharacter :: p, s =>
      match s with
      | [] => false
      | _ :: s => matchLike p s
  | .literal c :: p, s =>
      match s with
      | [] => false
      | d :: s => decide (c = d) && matchLike p s

/-- `s LIKE pattern`, unless the pattern ends within an escape -/
def like (pattern s : String) : Option Bool :=
  (parseLike pattern.toList).map fun p => matchLike p s.toList

/-! ### Parsing -/

/-- The characters that mean more than themselves -/
def likeSpecial : List Char :=
  ['\\', '%', '_']

theorem parseLike_escaped (c : Char) (p : List Char) :
    parseLike ('\\' :: c :: p) = (parseLike p).map (.literal c :: ·) := by
  rw [parseLike, if_neg (by decide), if_neg (by decide), if_pos rfl]

theorem parseLike_plain {c : Char} (hc : c ∉ likeSpecial) (p : List Char) :
    parseLike (c :: p) = (parseLike p).map (.literal c :: ·) := by
  simp only [likeSpecial, List.mem_cons, List.not_mem_nil, or_false, not_or] at hc
  obtain ⟨hescape, hsequence, hone⟩ := hc
  rw [parseLike.eq_def]
  simp only [if_neg hsequence, if_neg hone, if_neg hescape]

theorem parseLike_percent (p : List Char) :
    parseLike ('%' :: p) = (parseLike p).map (.anySequence :: ·) := by
  rw [parseLike.eq_def]
  rfl

/-! ### Matching -/

variable {p : List LikeToken} {s : List Char}

theorem matchLike_anySequence :
    matchLike (.anySequence :: p) s = true ↔ ∃ t u, t ++ u = s ∧ matchLike p u = true := by
  rw [matchLike, List.any_eq_true]
  simp only [List.mem_tails]
  constructor
  · rintro ⟨u, ⟨t, htu⟩, hu⟩
    exact ⟨t, u, htu, hu⟩
  · rintro ⟨t, u, htu, hu⟩
    exact ⟨u, ⟨t, htu⟩, hu⟩

theorem matchLike_literals (cs : List Char) :
    matchLike (cs.map .literal ++ p) s = true ↔ ∃ u, cs ++ u = s ∧ matchLike p u = true := by
  induction cs generalizing s with
  | nil =>
      simp
  | cons c cs ih =>
      rw [List.map_cons, List.cons_append]
      cases s with
      | nil =>
          simp [matchLike]
      | cons d s =>
          simp only [matchLike, Bool.and_eq_true, decide_eq_true_eq, ih, List.cons_append,
            List.cons.injEq]
          constructor
          · rintro ⟨rfl, u, hu, hp⟩
            exact ⟨u, ⟨rfl, hu⟩, hp⟩
          · rintro ⟨u, ⟨rfl, hu⟩, hp⟩
            exact ⟨rfl, u, hu, hp⟩

/-- A literal text between two `%` -/
theorem matchLike_inside (cs : List Char) :
    matchLike (.anySequence :: (cs.map .literal ++ [.anySequence])) s = true ↔ cs <:+: s := by
  have hrest : ∀ u, matchLike [.anySequence] u = true := fun u =>
    matchLike_anySequence.mpr ⟨u, [], List.append_nil u, rfl⟩
  simp only [matchLike_anySequence, matchLike_literals, List.IsInfix]
  constructor
  · rintro ⟨t, _, rfl, u, rfl, -⟩
    exact ⟨t, u, List.append_assoc t cs u⟩
  · rintro ⟨t, u, rfl⟩
    refine ⟨t, cs ++ u, (List.append_assoc t cs u).symm, u, rfl, ?_⟩
    exact ⟨u, [], List.append_nil u, rfl⟩

end BookStore
