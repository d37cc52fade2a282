import BookStore.Arrangements
import BookStore.Async.Draws
import BookStore.Cache.Entries
import BookStore.Catalog.Listing

/-!
# The home page

`getCatalogHome` shuffles the first books that it finds, shows as many of them as were asked for
and keeps the page for a while.

* `HomePage`: a page that may come up.
* `FairPages`: all of them do, equally often.
* `getCatalogHome_fair` is the result.
-/

namespace BookStore

open Async Program

def getCatalogHome (limit : Option Nat) (langId : Nat) : CatalogService CatalogValue :=
  getCatalogHomeWith catalogCached limit langId

/-- As many of the books as were asked for, or all of them -/
structure HomePage (books : List BookRow) (limit : Nat) (page : List BookRow) : Prop where
  distinct : page.Nodup
  subset : page ⊆ books
  length : page.length = min limit books.length

def homeAnswer (page : List BookRow) : Except Failure CatalogValue :=
  .ok (.home (page.map toCatalogBookCard))

/-- The pages that may come up, each as often as the books that are not on it can be arranged -/
structure FairPages (books : List BookRow) (limit : Nat)
    (answers : List (Except Failure CatalogValue)) : Prop where
  total : answers.length = books.length.factorial
  shown : ∀ x, x ∈ answers → ∃ page, HomePage books limit page ∧ x = homeAnswer page
  even : ∀ page, HomePage books limit page →
    answers.countP (fun x => decide (x = homeAnswer page)) =
      (books.length - page.length).factorial

variable {sql : SqlText} {db : CatalogDb} {w : CacheWorld CatalogDb CatalogValue}

/-! ### Ends -/

theorem swap_eq_exchange {α : Type} (items : List α) (i j : Nat) :
    swap items i j = exchange items i j := rfl

/-- The draws of the loop -/
theorem endings_shuffleFrom {α : Type} (i : Nat) (items : List α) :
    (shuffleFrom i items).endings (cacheExec (runCatalog sql)) .database w =
      (arrangements i items).map fun shuffled => (w, .ok shuffled) := by
  induction i generalizing items with
  | zero =>
      rfl
  | succ i ih =>
      simp only [shuffleFrom, Program.endings, arrangements, ih, List.map_flatMap,
        swap_eq_exchange]

theorem endings_homeFactory (langId limit : Nat) :
    (homeFactory langId limit).endings (cacheExec (runCatalog sql)) .database w =
      (arrangements ((w.db.findCatalogHomeBooks langId (limit * 5)).length - 1)
        (w.db.findCatalogHomeBooks langId (limit * 5))).map fun shuffled =>
          (w, homeAnswer (shuffled.take limit)) := by
  have hread : cacheExec (V := CatalogValue) (runCatalog sql)
      (.query (.findCatalogHomeBooks langId (limit * 5))) w =
        .ok (w, w.db.findCatalogHomeBooks langId (limit * 5)) := rfl
  unfold homeFactory catalogQuery command
  rw [bind_eq_bind, endings_await_bind hread, bind_eq_bind, endings_bind, shuffle,
    endings_shuffleFrom, List.flatMap_map, ← List.flatMap_pure_eq_map]
  rfl

theorem endings_createCacheKey (ns : String) :
    (createCacheKey ns : CatalogService String).endings (cacheExec (runCatalog sql)) .database w =
      [(w.touch ns, .ok (cacheDataKey ns (w.version ns)))] := by
  have hget : cacheExec (V := CatalogValue) (runCatalog sql) (.get (createVersionKey ns)) w =
      .ok (w, w.versions (createVersionKey ns)) := rfl
  unfold createCacheKey getVersionKey command
  rw [bind_eq_bind, bind_eq_bind, bind_assoc, endings_await_bind hget]
  cases hversion : w.versions (createVersionKey ns) with
  | some n =>
      rw [CacheWorld.touch_of_some hversion]
      simp [Program.endings, CacheWorld.version, hversion]
  | none =>
      have hset : cacheExec (V := CatalogValue) (runCatalog sql)
          (.set (createVersionKey ns) 1) w = .ok (w.touch ns, ()) := by
        simp [cacheExec, CacheWorld.touch, CacheWorld.version, hversion]
      rw [bind_eq_bind, bind_assoc, endings_await_bind hset]
      simp [Program.endings, CacheWorld.version, hversion]

/-- Without an entry the answers are those of the factory. -/
theorem endings_catalogCached
    {key : CatalogKey} {factory : CatalogService CatalogValue}
    (hentry : w.entry key.text = none) :
    ((catalogCached key factory).endings (cacheExec (runCatalog sql)) .database w).map Prod.snd =
      (factory.endings (cacheExec (runCatalog sql)) .database (w.touch key.text)).map
        Prod.snd := by
  have hget : cacheExec (V := CatalogValue) (runCatalog sql)
      (.getData (cacheDataKey key.text (w.version key.text))) (w.touch key.text) =
        .ok (w.touch key.text, w.entry key.text) := rfl
  unfold catalogCached withCache
  rw [bind_eq_bind, endings_bind, endings_createCacheKey, List.flatMap_singleton]
  unfold endingsAfter
  dsimp only
  unfold command
  rw [bind_eq_bind, endings_await_bind hget, hentry]
  dsimp only [Option.filter]
  rw [bind_eq_bind, endings_bind, List.map_flatMap, ← List.flatMap_pure_eq_map]
  refine List.flatMap_congr ?_
  rintro ⟨v, x | x⟩ -
  · rfl
  · rfl

/-! ### Cards -/

/-- Lists of entries that a function tells apart. -/
theorem map_inj_of_subset
    {α β : Type} {f : α → β} {items l l' : List α}
    (hf : ∀ a, a ∈ items → ∀ b, b ∈ items → f a = f b → a = b)
    (hl : l ⊆ items) (hl' : l' ⊆ items)
    (h : l.map f = l'.map f) :
    l = l' := by
  induction l generalizing l' with
  | nil =>
      exact (List.map_eq_nil_iff.mp h.symm).symm
  | cons a l ih =>
      obtain ⟨b, rest, rfl, hab, hrest⟩ := List.map_eq_cons_iff.mp h.symm
      rw [List.cons_subset] at hl hl'
      rw [hf a hl.1 b hl'.1 hab.symm, ih hl.2 hl'.2 hrest.symm]

/-- A card names its book. -/
theorem toCatalogBookCard_inj
    {db : CatalogDb} (hbooks : (db.books.map Book.id).Nodup)
    {langId take : Nat} {row row' : BookRow}
    (hrow : row ∈ db.findCatalogHomeBooks langId take)
    (hrow' : row' ∈ db.findCatalogHomeBooks langId take)
    (h : toCatalogBookCard row = toCatalogBookCard row') :
    row = row' := by
  unfold CatalogDb.findCatalogHomeBooks at hrow hrow'
  obtain ⟨b, hb, rfl⟩ := List.mem_map.mp hrow
  obtain ⟨b', hb', rfl⟩ := List.mem_map.mp hrow'
  have hid : b.id = b'.id := congrArg CatalogBookCardDto.id h
  rw [List.inj_on_of_nodup_map hbooks (List.mem_of_mem_filter (List.mem_of_mem_take hb))
    (List.mem_of_mem_filter (List.mem_of_mem_take hb')) hid]

theorem nodup_findCatalogHomeBooks
    {db : CatalogDb} (hbooks : (db.books.map Book.id).Nodup) (langId take : Nat) :
    (db.findCatalogHomeBooks langId take).Nodup := by
  have hchosen : ((db.books.filter fun b =>
      db.visible b && !(db.translationsOf b langId).isEmpty).take take).Nodup :=
    (hbooks.of_map.filter _).sublist (List.take_sublist _ _)
  refine List.Nodup.map_on (fun b hb b' hb' h => ?_) hchosen
  have hid : b.id = b'.id := congrArg (fun row : BookRow => row.book.id) h
  exact List.inj_on_of_nodup_map hbooks (List.mem_of_mem_filter (List.mem_of_mem_take hb))
    (List.mem_of_mem_filter (List.mem_of_mem_take hb')) hid

theorem homePage_take
    {books shuffled : List BookRow} {limit : Nat}
    (hbooks : books.Nodup)
    (h : shuffled.Perm books) :
    HomePage books limit (shuffled.take limit) where
  distinct := (h.nodup_iff.mpr hbooks).sublist (List.take_sublist _ _)
  subset := fun _ hrow => h.subset (List.mem_of_mem_take hrow)
  length := by rw [List.length_take, h.length_eq]

/-- A page of an arrangement is its beginning of that length. -/
theorem take_eq_iff_of_homePage
    {books shuffled page : List BookRow} {limit : Nat}
    (h : shuffled.Perm books)
    (hpage : HomePage books limit page) :
    shuffled.take limit = page ↔ shuffled.take page.length = page := by
  rw [hpage.length, ← h.length_eq]
  rcases Nat.le_total limit shuffled.length with hle | hle
  · rw [Nat.min_eq_left hle]
  · rw [Nat.min_eq_right hle, List.take_of_length_le hle, List.take_length]

theorem fairPages_arrangements
    {books : List BookRow} {limit : Nat}
    (hbooks : books.Nodup)
    (hcards : ∀ row, row ∈ books → ∀ row', row' ∈ books →
      toCatalogBookCard row = toCatalogBookCard row' → row = row') :
    FairPages books limit ((arrangements (books.length - 1) books).map fun shuffled =>
      homeAnswer (shuffled.take limit)) := by
  have hperm := perm_arrangements_permutations hbooks
  have hall : ∀ shuffled, shuffled ∈ arrangements (books.length - 1) books →
      shuffled.Perm books := fun shuffled h =>
    List.mem_permutations.mp (hperm.subset h)
  refine ⟨?_, ?_, ?_⟩
  · rw [List.length_map, hperm.length_eq, List.length_permutations]
  · intro x hx
    obtain ⟨shuffled, hshuffled, rfl⟩ := List.mem_map.mp hx
    exact ⟨_, homePage_take hbooks (hall shuffled hshuffled), rfl⟩
  · intro page hpage
    rw [List.countP_map, ← countP_arrangements_take hbooks hpage.distinct hpage.subset]
    refine List.countP_congr fun shuffled hshuffled => ?_
    simp only [Function.comp_apply, decide_eq_true_eq]
    rw [← take_eq_iff_of_homePage (hall shuffled hshuffled) hpage]
    constructor
    · intro h
      injection h with h
      injection h with h
      exact map_inj_of_subset hcards
        (homePage_take hbooks (hall shuffled hshuffled)).subset hpage.subset h
    · rintro rfl
      rfl

/-! ### The result -/

/-- Without a kept page all pages of the home page come up, equally often; the page that comes up
is shown again until its entry is gone. -/
theorem getCatalogHome_fair
    (limit : Option Nat) (langId : Nat)
    (hbooks : (w.db.books.map Book.id).Nodup)
    (hentry : w.entry (CatalogKey.home langId (limit.getD 12)).text = none) :
    FairPages (w.db.findCatalogHomeBooks langId (limit.getD 12 * 5)) (limit.getD 12)
        (((getCatalogHome limit langId).endings (cacheExec (runCatalog sql)) .database w).map
          Prod.snd) ∧
      ∀ w' x, (getCatalogHome limit langId).Yields (cacheExec (runCatalog sql)) .database w w' x →
        ∀ v, v.entry (CatalogKey.home langId (limit.getD 12)).text =
            w'.entry (CatalogKey.home langId (limit.getD 12)).text →
          ∀ v' y, (getCatalogHome limit langId).Yields (cacheExec (runCatalog sql)) .database
            v v' y → y = x := by
  constructor
  · unfold getCatalogHome getCatalogHomeWith
    rw [endings_catalogCached hentry, endings_homeFactory, List.map_map, CacheWorld.db_touch]
    exact fairPages_arrangements (nodup_findCatalogHomeBooks hbooks langId _)
      fun row hrow row' hrow' => toCatalogBookCard_inj hbooks hrow hrow'
  · intro w' x hx v hv v' y hy
    have hreads : ReadsCatalog sql (homeFactory langId (limit.getD 12)) := reads_homeFactory _ _
    obtain ⟨value, hsome, -, -⟩ | ⟨-, hx', rfl⟩ := (yields_withCache_true hreads).mp hx
    · rw [hentry] at hsome
      cases hsome
    · have hmem := mem_endings.mpr hx'
      rw [endings_homeFactory] at hmem
      obtain ⟨shuffled, -, hshuffled⟩ := List.mem_map.mp hmem
      injection hshuffled with _ hanswer
      subst hanswer
      rw [homeAnswer, CacheWorld.entry_fill_self_ok] at hv
      obtain ⟨value, hsome, -, rfl⟩ | ⟨hnone, -, -⟩ := (yields_withCache_true hreads).mp hy
      · rw [hv] at hsome
        injection hsome with hsome
        rw [homeAnswer, hsome]
      · rw [hv] at hnone
        cases hnone

/-- Before the first call nothing is kept. -/
theorem getCatalogHome_fair_sampleCatalog :
    (sampleCatalog.books.map Book.id).Nodup ∧
      FairPages (sampleCatalog.findCatalogHomeBooks 1 60) 12
        (((getCatalogHome none 1).endings (cacheExec (runCatalog sampleSql)) .database
          (.blank sampleCatalog)).map Prod.snd) :=
  have hbooks : (sampleCatalog.books.map Book.id).Nodup := by decide
  ⟨hbooks, (@getCatalogHome_fair sampleSql (.blank sampleCatalog) none 1 hbooks rfl).1⟩

end BookStore
