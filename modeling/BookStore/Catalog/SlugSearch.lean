import BookStore.Catalog.Slugs
import BookStore.Text
import Mathlib.Data.Fintype.Card

/-!
# The search for a slug ends

`buildUniqueSlug` has no bound of its own.  While the translations stay as they are, it comes
to an end because every candidate that is taken belongs to a translation of its own.

`buildUniqueSlug_least`: it returns the base if that is free, else the free candidate with
the least number from 2 on.
-/

namespace BookStore
namespace BookCreation

open Async Program

/-- What is asked of the collation: texts that differ in a number at the end are different. -/
structure SlugCollation (sql : SqlText) : Prop where
  equivalence : Equivalence fun s t => sql.eq s t = true
  numbers : ∀ (s : String) (m n : Nat),
    sql.eq (s ++ "-" ++ toString m) (s ++ "-" ++ toString n) = true → m = n

section Search

variable (sql : SqlText) (db : CreationDb) (languageId : Nat)

/-- Some translation of the language has the slug. -/
def SlugUsed (slug : String) : Prop :=
  ∃ t, t ∈ db.translations ∧ hasSlug sql languageId slug t = true

/-- The candidate with number `n` -/
def numbered (baseSlug : String) (n : Nat) : String :=
  baseSlug ++ "-" ++ toString n

end Search

variable {sql : SqlText} {js : JsText} {db : CreationDb} {languageId : Nat}
variable {baseSlug candidate slug : String} {time index n : Nat}

theorem find?_eq_none_iff_not_used :
    db.translations.find? (hasSlug sql languageId slug) = none ↔
      ¬ SlugUsed sql db languageId slug := by
  rw [List.find?_eq_none, SlugUsed]
  constructor
  · rintro h ⟨t, ht, hslug⟩
    exact h t ht hslug
  · exact fun h t ht hslug => h ⟨t, ht, hslug⟩

/-- A candidate that is free is returned. -/
theorem alone_of_free (hfree : ¬ SlugUsed sql db languageId candidate) :
    (buildUniqueSlug languageId baseSlug (time + 1) candidate index).alone (creationExec sql js)
        .database db = some (db, .ok (candidate, db.translations.length)) := by
  have hsearch : creationExec sql js (.findBookTranslationByLanguageAndSlug languageId candidate)
      db = .ok (db, ⟨none, db.translations.length⟩) := by
    rw [← find?_eq_none_iff_not_used.mpr hfree]
    rfl
  simp only [buildUniqueSlug, creationQuery, bind_eq_bind, alone_bind, alone_await_ok hsearch,
    Option.bind_some, Program.alone]

/-- After a candidate that is taken comes the one with the next number. -/
theorem alone_of_used (hused : SlugUsed sql db languageId candidate) :
    (buildUniqueSlug languageId baseSlug (time + 1) candidate index).alone (creationExec sql js)
        .database db =
      (buildUniqueSlug languageId baseSlug time (numbered baseSlug index) (index + 1)).alone
        (creationExec sql js) .database db := by
  obtain ⟨t, ht⟩ : ∃ t, db.translations.find? (hasSlug sql languageId candidate) = some t := by
    cases hfind : db.translations.find? (hasSlug sql languageId candidate) with
    | none =>
        exact absurd hused (find?_eq_none_iff_not_used.mp hfind)
    | some t =>
        exact ⟨t, rfl⟩
  have hsearch : creationExec sql js (.findBookTranslationByLanguageAndSlug languageId candidate)
      db = .ok (db, ⟨some t, db.translations.length⟩) := by
    rw [← ht]
    rfl
  simp only [buildUniqueSlug, creationQuery, bind_eq_bind, alone_bind, alone_await_ok hsearch,
    Option.bind_some, numbered]

/-- The search passes the numbers that are taken and stops at the first one that is free. -/
theorem alone_of_first_free
    (hused : ∀ k, index ≤ k → k < n → SlugUsed sql db languageId (numbered baseSlug k))
    (hfree : ¬ SlugUsed sql db languageId (numbered baseSlug n))
    (hindex : index ≤ n) (htime : n - index < time) :
    (buildUniqueSlug languageId baseSlug time (numbered baseSlug index) (index + 1)).alone
        (creationExec sql js) .database db =
      some (db, .ok (numbered baseSlug n, db.translations.length)) := by
  induction time generalizing index with
  | zero =>
      cases htime
  | succ time ih =>
      rcases Nat.eq_or_lt_of_le hindex with rfl | hlt
      · exact alone_of_free hfree
      · rw [alone_of_used (hused index le_rfl hlt)]
        exact ih (fun k hk => hused k (by omega)) (by omega) (by omega)

/-- A translation has the slug of one candidate at most. -/
theorem number_unique
    (hsql : SlugCollation sql) {t : TranslationRecord} {m : Nat}
    (hm : hasSlug sql languageId (numbered baseSlug m) t = true)
    (hn : hasSlug sql languageId (numbered baseSlug n) t = true) :
    m = n := by
  simp only [hasSlug, Bool.and_eq_true, Option.any_eq_true] at hm hn
  obtain ⟨-, s, hs, hm⟩ := hm
  obtain ⟨-, s', hs', hn⟩ := hn
  rw [hs, Option.some.injEq] at hs'
  subst hs'
  exact hsql.numbers baseSlug m n (hsql.equivalence.trans hm (hsql.equivalence.symm hn))

/-- There are more candidates than translations. -/
theorem exists_free (hsql : SlugCollation sql) (db : CreationDb) (languageId : Nat)
    (baseSlug : String) :
    ∃ n, n ≤ db.translations.length ∧
      ¬ SlugUsed sql db languageId (numbered baseSlug (n + 2)) := by
  by_contra hnone
  have hused : ∀ i : Fin (db.translations.length + 1),
      SlugUsed sql db languageId (numbered baseSlug (i + 2)) := fun i => by
    by_contra hfree
    exact hnone ⟨i, by omega, hfree⟩
  -- each of them would belong to a translation of its own
  choose t ht hslug using hused
  have hposition : ∀ i, ∃ j : Fin db.translations.length, db.translations.get j = t i := fun i =>
    List.get_of_mem (ht i)
  choose position hposition using hposition
  have hinjective : Function.Injective position := fun i i' h => by
    have hsame : t i = t i' := by
      rw [← hposition i, ← hposition i', h]
    have := number_unique hsql (hslug i) (hsame ▸ hslug i')
    exact Fin.ext (by omega)
  have hcard := Fintype.card_le_of_injective position hinjective
  rw [Fintype.card_fin, Fintype.card_fin] at hcard
  omega

/--
While the translations stay as they are the search ends: with the base if it is free, else
with the first free number from 2 on.
-/
theorem buildUniqueSlug_least
    (hsql : SlugCollation sql) (js : JsText) (db : CreationDb) (languageId : Nat)
    (baseSlug : String) (htime : db.translations.length + 2 ≤ time) :
    ∃ slug, (buildUniqueSlug languageId baseSlug time baseSlug 2).alone (creationExec sql js)
        .database db = some (db, .ok (slug, db.translations.length)) ∧
      ¬ SlugUsed sql db languageId slug ∧
      (¬ SlugUsed sql db languageId baseSlug → slug = baseSlug) ∧
      (SlugUsed sql db languageId baseSlug → ∃ n, 2 ≤ n ∧ slug = numbered baseSlug n ∧
        ∀ k, 2 ≤ k → k < n → SlugUsed sql db languageId (numbered baseSlug k)) := by
  obtain ⟨time, rfl⟩ : ∃ rest, time = rest + 1 := ⟨time - 1, by omega⟩
  by_cases hbase : SlugUsed sql db languageId baseSlug
  · classical
    have hexists := exists_free hsql db languageId baseSlug
    have hleast : ∀ k, k < Nat.find hexists →
        SlugUsed sql db languageId (numbered baseSlug (k + 2)) := fun k hk => by
      have hbound := (Nat.find_spec hexists).1
      by_contra hfree
      exact Nat.find_min hexists hk ⟨by omega, hfree⟩
    obtain ⟨hbound, hfree⟩ := Nat.find_spec hexists
    have hused : ∀ k, 2 ≤ k → k < Nat.find hexists + 2 →
        SlugUsed sql db languageId (numbered baseSlug k) := fun k hk hlt => by
      have := hleast (k - 2) (by omega)
      rwa [Nat.sub_add_cancel hk] at this
    refine ⟨numbered baseSlug (Nat.find hexists + 2), ?_, hfree, fun h => absurd hbase h,
      fun _ => ⟨_, by omega, rfl, hused⟩⟩
    rw [alone_of_used hbase]
    exact alone_of_first_free hused hfree (by omega) (by omega)
  · exact ⟨baseSlug, alone_of_free hbase, hbase, fun _ => rfl, fun h => absurd h hbase⟩

theorem slugCollation_sampleSql : SlugCollation sampleSql := by
  refine ⟨equivalence_sampleSql, fun s m n h => ?_⟩
  have hlists := congrArg String.toList (of_decide_eq_true h)
  simp only [String.toList_append, List.append_cancel_left_eq, toList_toString] at hlists
  exact natText_injective hlists

/-- Two translations have a slug with the same base. -/
def sampleSlugs : CreationDb :=
  { sampleCreation with
    translations :=
      [⟨⟨1, 1, "Lean", none, some "lean"⟩, 1⟩, ⟨⟨2, 1, "Lean", none, some "lean-2"⟩, 2⟩] }

theorem buildUniqueSlug_least_thirdLean :
    ∃ slug, (buildUniqueSlug 1 "lean" 4 "lean" 2).alone (creationExec sampleSql sampleJs)
        .database sampleSlugs = some (sampleSlugs, .ok (slug, 2)) ∧
      ¬ SlugUsed sampleSql sampleSlugs 1 slug := by
  have htime : sampleSlugs.translations.length + 2 ≤ 4 := by decide
  obtain ⟨slug, hsearch, hfree, -⟩ :=
    buildUniqueSlug_least slugCollation_sampleSql sampleJs sampleSlugs 1 "lean" htime
  exact ⟨slug, hsearch, hfree⟩

end BookCreation
end BookStore
