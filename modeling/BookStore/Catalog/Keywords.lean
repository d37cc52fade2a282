import BookStore.Catalog.Listing
import BookStore.Like

/-!
# Keywords as patterns

`CatalogRepository.toLikePattern` puts a keyword between two `%` and escapes the characters
that have a meaning in a pattern.

`like_toLikePattern`: a text matches the pattern exactly if the keyword occurs in it.
-/

namespace BookStore

/-- `c.replace(/[\\%_]/g, '\\$&')` -/
def escapeLike (c : Char) : List Char :=
  if c ∈ likeSpecial then ['\\', c] else [c]

def toLikePattern (keyword : String) : String :=
  "%" ++ String.ofList (keyword.toList.flatMap escapeLike) ++ "%"

/-- An escaped text stands for its characters. -/
theorem parseLike_escapeLike (cs rest : List Char) :
    parseLike (cs.flatMap escapeLike ++ rest) =
      (parseLike rest).map (cs.map .literal ++ ·) := by
  induction cs with
  | nil =>
      simp
  | cons c cs ih =>
      rw [List.flatMap_cons, List.append_assoc, escapeLike]
      split
      · rw [List.cons_append, List.cons_append, List.nil_append, parseLike_escaped, ih,
          Option.map_map]
        rfl
      · rename_i hc
        rw [List.cons_append, List.nil_append, parseLike_plain hc, ih, Option.map_map]
        rfl

/-- Only the two `%` around the keyword are wildcards. -/
theorem parseLike_toLikePattern (keyword : String) :
    parseLike (toLikePattern keyword).toList =
      some (.anySequence :: (keyword.toList.map .literal ++ [.anySequence])) := by
  have htext : (toLikePattern keyword).toList =
      ['%'] ++ keyword.toList.flatMap escapeLike ++ ['%'] := by
    simp [toLikePattern]
  rw [htext, List.append_assoc, List.singleton_append, parseLike_percent, parseLike_escapeLike,
    parseLike_percent]
  rfl

theorem like_inside (keyword s : String) :
    like (toLikePattern keyword) s = some (decide (keyword.toList <:+: s.toList)) := by
  rw [like, parseLike_toLikePattern, Option.map_some, Option.some.injEq, Bool.eq_iff_iff,
    matchLike_inside, decide_eq_true_iff]

/-- What a search asks of the engine, answered with exact comparison -/
theorem like_contains (keyword text : String) :
    like (toLikePattern keyword) text = some (sampleSql.contains text keyword) :=
  like_inside keyword text

/--
A text matches the pattern of a keyword exactly if the keyword occurs in it; no keyword has
a wildcard in its pattern besides the two `%` or ends within an escape.
-/
theorem like_toLikePattern (keyword s : String) :
    parseLike (toLikePattern keyword).toList =
        some (.anySequence :: (keyword.toList.map .literal ++ [.anySequence])) ∧
      (like (toLikePattern keyword) s = some true ↔ keyword.toList <:+: s.toList) := by
  refine ⟨parseLike_toLikePattern keyword, ?_⟩
  rw [like_inside, Option.some.injEq, decide_eq_true_iff]

end BookStore
