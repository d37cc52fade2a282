import BookStore.Catalog.Reads
import Mathlib.Data.List.Infix

/-!
# Cached listings

Calls of `listBooks` one after another on a fixed database, from an empty cache.  The
key of a listing by category has every parameter of the computation but the keyword, and
a search by keyword throws.

* `Transparent`: every call returns what it returns with caching switched off.
* `SearchesUncached`: no search in a category comes while the page is stored that a listing
  of the category has left.
* `listBooks_transparent_iff` is the result; `keyword_ignored` is a pair of calls for
  which the cache makes a difference.
-/

namespace BookStore

open Async Program

structure ListCall where
  query : CatalogBookListQueryDto
  langId : Nat
  deriving DecidableEq

/-- A call with its answer, or an entry that expires between two calls. -/
inductive ListStep
  | call (c : ListCall) (x : Except Failure CatalogValue)
  | expire (key : String)

section Listing

variable (sql : SqlText)

/-- A call runs to its end before the next one starts. -/
def listStep (w : CacheWorld CatalogDb CatalogValue) :
    ListStep → CacheWorld CatalogDb CatalogValue → Prop
  | .call c x, w' =>
      (listBooks c.query c.langId).Yields (cacheExec (runCatalog sql)) .database w w' x
  | .expire key, w' => w' = w.expire key

/-- With caching switched off the call may return `x`. -/
def UncachedAnswer (db : CatalogDb) (c : ListCall) (x : Except Failure CatalogValue) : Prop :=
  ∃ w', (listBooksUncached c.query c.langId).Yields (cacheExec (runCatalog sql)) .database
    (.blank db) w' x

def Transparent (db : CatalogDb) (steps : List ListStep) : Prop :=
  ∀ c x, .call c x ∈ steps → UncachedAnswer sql db c x

/-- The key of a listing by category. -/
def ListCall.categoryKey (c : ListCall) : Option CatalogKey :=
  (trimmed c.query.slugCategory).map fun slug =>
    .bookListByCategory c.langId (positiveOr 1 c.query.page) (positiveOr 20 c.query.limit) slug

/-- The category of a listing by category, if there is one -/
def ListCall.category (db : CatalogDb) (c : ListCall) : Option Nat :=
  (trimmed c.query.slugCategory).bind fun slug => db.findCategoryBySlug sql slug c.langId

/-- Where the value of a key is stored while its version is not increased -/
def entryKey (key : CatalogKey) : String :=
  cacheDataKey key.text 1

/--
A search in a known category comes after a listing of the same page of it only when what
the listing has left has expired between them.
-/
def SearchesUncached (db : CatalogDb) (steps : List ListStep) : Prop :=
  ∀ pre c x mid c' x' post key,
    steps = pre ++ .call c x :: (mid ++ .call c' x' :: post) →
    c.categoryKey = some key → c'.categoryKey = some key →
    c.category sql db ≠ none →
    trimmed c.query.keyword = none → trimmed c'.query.keyword ≠ none →
    .expire (entryKey key) ∈ mid

namespace ListCall

/-- The key of a call; a search without a category is not cached. -/
def key (c : ListCall) : Option CatalogKey :=
  match c.categoryKey, trimmed c.query.keyword with
  | some key, _ => some key
  | none, some _ => none
  | none, none =>
      some (.bookList c.langId (positiveOr 1 c.query.page) (positiveOr 20 c.query.limit))

/-- The answer of a call as a function of the database. -/
def result (db : CatalogDb) (c : ListCall) : Except Failure CatalogValue :=
  match trimmed c.query.slugCategory, trimmed c.query.keyword with
  | some slug, keyword =>
      categoryList sql db c.langId (positiveOr 1 c.query.page) (positiveOr 20 c.query.limit)
        slug keyword
  | none, some _ => .error .database
  | none, none =>
      .ok (plainList db c.langId none (positiveOr 1 c.query.page) (positiveOr 20 c.query.limit))

end ListCall

variable {sql} {db : CatalogDb} {c c' : ListCall}
variable {w w' : CacheWorld CatalogDb CatalogValue} {x : Except Failure CatalogValue}

theorem uncachedAnswer_iff : UncachedAnswer sql db c x ↔ x = c.result sql db := by
  unfold UncachedAnswer listBooksUncached listBooksWith ListCall.result catalogUncached
  cases trimmed c.query.slugCategory with
  | some slug =>
      simp [yields_categoryListFactory]
  | none =>
      cases trimmed c.query.keyword with
      | some keyword =>
          simp [yields_keywordListFactory]
      | none =>
          simp [yields_plainListFactory]

/-- What a call does: the answer of a search, the entry, or a new entry. -/
theorem yields_listBooks :
    (listBooks c.query c.langId).Yields (cacheExec (runCatalog sql)) .database w w' x ↔
      c.key = none ∧ w' = w ∧ x = c.result sql w.db ∨
      ∃ key, c.key = some key ∧
        ((∃ value, w.entry key.text = some value ∧ w' = w.touch key.text ∧ x = .ok value) ∨
          w.entry key.text = none ∧ x = c.result sql w.db ∧ w' = w.fill key.text x) := by
  unfold listBooks listBooksWith catalogCached ListCall.key ListCall.result
    ListCall.categoryKey
  cases trimmed c.query.slugCategory with
  | some slug =>
      refine (yields_withCache_true (reads_categoryListFactory _ _ _ _ _)).trans ?_
      simp [Computes, yields_categoryListFactory]
  | none =>
      cases trimmed c.query.keyword with
      | some keyword =>
          simp [yields_keywordListFactory]
      | none =>
          refine (yields_withCache_true (reads_plainListFactory _ _ _ _)).trans ?_
          simp [Computes, yields_plainListFactory]

theorem listStep_miss
    {key : CatalogKey} (hkey : c.key = some key) (hnone : w.entry key.text = none)
    (hx : x = c.result sql w.db) :
    listStep sql w (.call c x) (w.fill key.text x) :=
  yields_listBooks.mpr (.inr ⟨key, hkey, .inr ⟨hnone, hx, rfl⟩⟩)

theorem listStep_hit
    {key : CatalogKey} {value : CatalogValue} (hkey : c.key = some key)
    (hentry : w.entry key.text = some value) :
    listStep sql w (.call c (.ok value)) (w.touch key.text) :=
  yields_listBooks.mpr (.inr ⟨key, hkey, .inl ⟨value, hentry, rfl, rfl⟩⟩)

/-! ### Calls with the same key -/

variable (sql) in
theorem ListCall.result_of_categoryKey {key : CatalogKey} (h : c.categoryKey = some key) :
    ∃ langId page limit slug, key = .bookListByCategory langId page limit slug ∧ ∀ db,
      c.result sql db =
        categoryList sql db langId page limit slug (trimmed c.query.keyword) ∧
      c.category sql db = db.findCategoryBySlug sql slug langId := by
  obtain ⟨slug, hslug, rfl⟩ := Option.map_eq_some_iff.mp h
  refine ⟨_, _, _, slug, rfl, fun db => ?_⟩
  simp only [ListCall.result, ListCall.category, hslug, Option.bind_some, and_self]

variable (sql) in
theorem ListCall.key_eq_some {key : CatalogKey} (h : c.key = some key) :
    c.categoryKey = some key ∨
      ∃ langId page limit, key = .bookList langId page limit ∧
        ∀ db, c.result sql db = .ok (plainList db langId none page limit) := by
  unfold ListCall.key at h
  split at h
  · rename_i hcategory
    exact .inl (hcategory.trans h)
  · cases h
  · rename_i hcategory hkeyword
    cases h
    refine .inr ⟨_, _, _, rfl, fun db => ?_⟩
    simp only [ListCall.result, Option.map_eq_none_iff.mp hcategory, hkeyword]

theorem ListCall.key_of_categoryKey {key : CatalogKey} (h : c.categoryKey = some key) :
    c.key = some key := by
  simp only [ListCall.key, h]

theorem category_eq_of_key
    {key : CatalogKey} (hkey : c.categoryKey = some key) (hkey' : c'.categoryKey = some key) :
    c.category sql db = c'.category sql db := by
  obtain ⟨_, _, _, _, rfl, hc⟩ := ListCall.result_of_categoryKey sql hkey
  obtain ⟨_, _, _, _, heq, hc'⟩ := ListCall.result_of_categoryKey sql hkey'
  cases heq
  rw [(hc db).2, (hc' db).2]

/-- Only a listing of a known category has a value. -/
theorem ListCall.listing_of_ok
    {key : CatalogKey} {value : CatalogValue} (hkey : c.categoryKey = some key)
    (h : c.result sql db = .ok value) :
    trimmed c.query.keyword = none ∧ c.category sql db ≠ none := by
  obtain ⟨_, _, _, _, -, hc⟩ := ListCall.result_of_categoryKey sql hkey
  rw [(hc db).1, categoryList] at h
  rw [(hc db).2]
  split at h
  · cases h
  · rename_i hcategory
    cases hkeyword : trimmed c.query.keyword with
    | none =>
        exact ⟨rfl, by rw [hcategory]; simp⟩
    | some keyword =>
        rw [hkeyword] at h
        cases h

/-- A search in a known category throws. -/
theorem ListCall.search_throws
    {key : CatalogKey} (hkey : c.categoryKey = some key)
    (hcategory : c.category sql db ≠ none) (hkeyword : trimmed c.query.keyword ≠ none) :
    c.result sql db = .error .database := by
  obtain ⟨_, _, _, _, -, hc⟩ := ListCall.result_of_categoryKey sql hkey
  obtain ⟨keyword, hkeyword⟩ := Option.ne_none_iff_exists'.mp hkeyword
  obtain ⟨categoryId, hcategory⟩ := Option.ne_none_iff_exists'.mp hcategory
  rw [(hc db).2] at hcategory
  rw [(hc db).1, categoryList, hcategory, hkeyword]

/-- A value is what every call with its key returns that is not a search. -/
theorem result_eq_of_key
    {key : CatalogKey} {value : CatalogValue}
    (hkey : c.key = some key) (hvalue : c.result sql db = .ok value)
    (hkey' : c'.key = some key)
    (hkeyword : c'.categoryKey = some key → trimmed c'.query.keyword = none) :
    c'.result sql db = .ok value := by
  rcases ListCall.key_eq_some sql hkey with h | ⟨_, _, _, rfl, hresult⟩ <;>
    rcases ListCall.key_eq_some sql hkey' with h' | ⟨_, _, _, hlist, hresult'⟩
  · have hnone := (ListCall.listing_of_ok h hvalue).1
    obtain ⟨_, _, _, _, rfl, hc⟩ := ListCall.result_of_categoryKey sql h
    obtain ⟨_, _, _, _, heq, hc'⟩ := ListCall.result_of_categoryKey sql h'
    cases heq
    rw [← hvalue, (hc db).1, (hc' db).1, hnone, hkeyword h']
  · obtain ⟨_, _, _, _, hcategory, -⟩ := ListCall.result_of_categoryKey sql h
    cases hlist.symm.trans hcategory
  · obtain ⟨_, _, _, _, hcategory, -⟩ := ListCall.result_of_categoryKey sql h'
    cases hcategory
  · cases hlist
    rw [← hvalue, hresult, hresult']

/-! ### Versions -/

/-- No version has been increased. -/
def FirstVersions (w : CacheWorld CatalogDb CatalogValue) : Prop :=
  ∀ ns, w.version ns = 1

theorem firstVersions_step
    {b : ListStep} (hw : FirstVersions w) (h : listStep sql w b w') : FirstVersions w' := by
  cases b with
  | expire key =>
      cases h
      exact hw
  | call c x =>
      rcases yields_listBooks.mp h with ⟨-, rfl, -⟩ | ⟨key, -, ⟨_, _, rfl, -⟩ | ⟨-, -, rfl⟩⟩
      · exact hw
      · intro ns
        rw [CacheWorld.version_touch, hw]
      · intro ns
        rw [CacheWorld.version_fill, hw]

/-- Only what is stored under the key expires. -/
theorem entry_expire_eq
    (hw : FirstVersions w) (key : CatalogKey) (k : String) :
    (w.expire k).entry key.text = if k = entryKey key then none else w.entry key.text := by
  have hentry : ∀ v, FirstVersions v → v.entry key.text = v.data (entryKey key) := by
    intro v hv
    rw [CacheWorld.entry, hv, entryKey]
  have hexpired : FirstVersions (w.expire k) := hw
  rw [hentry w hw, hentry _ hexpired]
  exact (Function.update_apply _ _ _ _).trans (if_congr eq_comm rfl rfl)

/-! ### From no cache to the cache -/

/-- The value of a call of this key, which has not expired since -/
def Left (sql : SqlText) (db : CatalogDb) (done : List ListStep) (key : CatalogKey)
    (value : CatalogValue) : Prop :=
  ∃ pre c x mid, done = pre ++ .call c x :: mid ∧ c.key = some key ∧
    c.result sql db = .ok value ∧ .expire (entryKey key) ∉ mid

theorem Left.snoc
    {done : List ListStep} {key : CatalogKey} {value : CatalogValue} {b : ListStep}
    (h : Left sql db done key value) (hb : b ≠ .expire (entryKey key)) :
    Left sql db (done ++ [b]) key value := by
  obtain ⟨pre, c, x, mid, rfl, hkey, hvalue, hmid⟩ := h
  refine ⟨pre, c, x, mid ++ [b], by rw [List.append_assoc]; rfl, hkey, hvalue, ?_⟩
  rw [List.mem_append, List.mem_singleton]
  exact not_or.mpr ⟨hmid, hb.symm⟩

/-- Every entry is left by a call that has been done. -/
structure EntriesFrom (sql : SqlText) (db : CatalogDb) (done : List ListStep)
    (w : CacheWorld CatalogDb CatalogValue) : Prop where
  db_eq : w.db = db
  versions : FirstVersions w
  entries : ∀ key value, w.entry key.text = some value → Left sql db done key value

theorem entriesFrom_expire
    {done : List ListStep} (hw : EntriesFrom sql db done w) (k : String) :
    EntriesFrom sql db (done ++ [.expire k]) (w.expire k) := by
  have hversions : FirstVersions (w.expire k) := hw.versions
  refine ⟨hw.db_eq, hversions, fun key value hvalue => ?_⟩
  rw [entry_expire_eq hw.versions] at hvalue
  split at hvalue
  · cases hvalue
  · rename_i hne
    exact (hw.entries key value hvalue).snoc fun heq => hne (ListStep.expire.inj heq)

/-- A search does not meet what a listing has left. -/
theorem listing_of_left
    {steps done rest : List ListStep} {key : CatalogKey} {value : CatalogValue}
    (hsearches : SearchesUncached sql db steps)
    (hsteps : steps = done ++ .call c x :: rest)
    (hleft : Left sql db done key value) (hkey : c.categoryKey = some key) :
    trimmed c.query.keyword = none := by
  obtain ⟨pre, c₀, x₀, mid, rfl, hkey₀, hvalue, hmid⟩ := hleft
  by_contra hkeyword
  have hkey₀ : c₀.categoryKey = some key := by
    rcases ListCall.key_eq_some sql hkey₀ with h | ⟨_, _, _, rfl, -⟩
    · exact h
    · obtain ⟨_, _, _, _, hcategory, -⟩ := ListCall.result_of_categoryKey sql hkey
      cases hcategory
  obtain ⟨hlisting, hcategory⟩ := ListCall.listing_of_ok hkey₀ hvalue
  refine hmid (hsearches pre c₀ x₀ mid c x rest key ?_ hkey₀ hkey hcategory hlisting hkeyword)
  rw [hsteps, List.append_assoc, List.cons_append]

theorem entriesFrom_call
    {steps done rest : List ListStep}
    (hsearches : SearchesUncached sql db steps)
    (hsteps : steps = done ++ .call c x :: rest)
    (hw : EntriesFrom sql db done w)
    (h : listStep sql w (.call c x) w') :
    EntriesFrom sql db (done ++ [.call c x]) w' ∧ UncachedAnswer sql db c x := by
  obtain ⟨rfl, hversions, hentries⟩ := hw
  have hversions' := firstVersions_step hversions h
  have hkept : ∀ key value, w.entry key.text = some value →
      Left sql w.db (done ++ [.call c x]) key value :=
    fun key value hvalue => (hentries key value hvalue).snoc (by simp)
  rw [uncachedAnswer_iff]
  rcases yields_listBooks.mp h with ⟨-, rfl, hx⟩ | ⟨key, hkey, hhit | ⟨-, hx, rfl⟩⟩
  · exact ⟨⟨rfl, hversions', hkept⟩, hx⟩
  · obtain ⟨value, hvalue, rfl, rfl⟩ := hhit
    refine ⟨⟨rfl, hversions', fun k v hv => hkept k v ?_⟩, ?_⟩
    · rwa [CacheWorld.entry_touch] at hv
    · have hleft := hentries key value hvalue
      obtain ⟨_, c₀, _, _, -, hkey₀, hvalue₀, -⟩ := id hleft
      exact (result_eq_of_key hkey₀ hvalue₀ hkey
        (listing_of_left hsearches hsteps hleft)).symm
  · refine ⟨⟨CacheWorld.db_fill, hversions', fun k value hvalue => ?_⟩, hx⟩
    by_cases hk : k = key
    · subst hk
      cases x with
      | ok v =>
          rw [CacheWorld.entry_fill_self_ok] at hvalue
          cases hvalue
          exact ⟨done, c, _, [], rfl, hkey, hx.symm, List.not_mem_nil⟩
      | error e =>
          rw [CacheWorld.entry_fill_self_error] at hvalue
          exact hkept k value hvalue
    · rw [CacheWorld.entry_fill_of_ne fun heq => hk (CatalogKey.text_injective heq)] at hvalue
      exact hkept k value hvalue

theorem transparent_of_searchesUncached
    {steps : List ListStep}
    (hsearches : SearchesUncached sql db steps)
    (hrun : Serves (listStep sql) (.blank db) steps w') :
    Transparent sql db steps := by
  intro c x hc
  refine (hrun.history (I := EntriesFrom sql db)
    (P := fun b => ∀ c x, b = .call c x → UncachedAnswer sql db c x) ?_
    ⟨rfl, fun _ => rfl, fun _ _ h => by cases h⟩).2 _ hc c x rfl
  intro done b rest w v hsteps hw h
  cases b with
  | expire key =>
      cases h
      exact ⟨entriesFrom_expire hw key, fun _ _ h => by cases h⟩
  | call c x =>
      obtain ⟨hv, hanswer⟩ := entriesFrom_call hsearches hsteps hw h
      exact ⟨hv, fun _ _ heq => by cases heq; exact hanswer⟩

/-! ### From the cache to no cache -/

/-- An entry that has not expired stays, and its key is answered with it. -/
theorem entry_answers
    {key : CatalogKey} {value : CatalogValue}
    (hw : w.entry key.text = some value)
    (h : listStep sql w (.call c x) w') :
    w'.entry key.text = some value ∧ (c.key = some key → x = .ok value) := by
  rcases yields_listBooks.mp h with ⟨hkey, rfl, -⟩ | ⟨k, hkey, hhit | ⟨hnone, -, rfl⟩⟩
  · exact ⟨hw, fun h => by rw [hkey] at h; cases h⟩
  · obtain ⟨v, hv, rfl, rfl⟩ := hhit
    refine ⟨by rwa [CacheWorld.entry_touch], fun h => ?_⟩
    rw [hkey] at h
    cases h
    rw [hw] at hv
    cases hv
    rfl
  · have hne : key ≠ k := by
      rintro rfl
      rw [hw] at hnone
      cases hnone
    refine ⟨?_, fun h => ?_⟩
    · rwa [CacheWorld.entry_fill_of_ne fun heq => hne (CatalogKey.text_injective heq)]
    · rw [hkey] at h
      cases h
      exact absurd rfl hne

/-- A call whose answer is a value leaves it as the entry. -/
theorem entry_of_call
    {key : CatalogKey} {value : CatalogValue}
    (hkey : c.key = some key)
    (h : listStep sql w (.call c (.ok value)) w') :
    w'.entry key.text = some value := by
  rcases yields_listBooks.mp h with ⟨hnone, -⟩ | ⟨k, hk, hhit | ⟨-, -, rfl⟩⟩
  · rw [hkey] at hnone
    cases hnone
  · rw [hkey] at hk
    cases hk
    obtain ⟨v, hv, rfl, hvalue⟩ := hhit
    cases hvalue
    rwa [CacheWorld.entry_touch]
  · rw [hkey] at hk
    cases hk
    exact CacheWorld.entry_fill_self_ok

/-- An entry stays while it does not expire. -/
theorem entry_kept
    {mid : List ListStep} {key : CatalogKey} {value : CatalogValue}
    (hmid : .expire (entryKey key) ∉ mid)
    (hversions : FirstVersions w) (hw : w.entry key.text = some value)
    (hrun : Serves (listStep sql) w mid w') :
    w'.entry key.text = some value := by
  refine (hrun.invariant
    (I := fun w => FirstVersions w ∧ w.entry key.text = some value) (P := fun _ => True)
    (fun w b v hb hw h => ⟨⟨firstVersions_step hw.1 h, ?_⟩, trivial⟩)
    ⟨hversions, hw⟩).1.2
  cases b with
  | expire k =>
      cases h
      have hk : k ≠ entryKey key := by
        rintro rfl
        exact hmid hb
      rw [entry_expire_eq hw.1, if_neg hk]
      exact hw.2
  | call c x =>
      exact (entry_answers hw.2 h).1

theorem searchesUncached_of_transparent
    {steps : List ListStep}
    (htransparent : Transparent sql db steps)
    (hrun : Serves (listStep sql) (.blank db) steps w') :
    SearchesUncached sql db steps := by
  rintro pre c x mid c' x' post key rfl hkey hkey' hcategory hlisting hkeyword
  by_contra hmid
  have hx := uncachedAnswer_iff.mp (htransparent c x (by simp))
  have hx' := uncachedAnswer_iff.mp (htransparent c' x' (by simp))
  -- the listing has a value, and the search would throw
  have hcategory' : c'.category sql db ≠ none := by
    rwa [← category_eq_of_key hkey hkey']
  rw [ListCall.search_throws hkey' hcategory' hkeyword] at hx'
  obtain ⟨value, hvalue⟩ : ∃ value, c.result sql db = .ok value := by
    obtain ⟨_, _, _, _, -, hc⟩ := ListCall.result_of_categoryKey sql hkey
    obtain ⟨categoryId, hcategory⟩ := Option.ne_none_iff_exists'.mp hcategory
    rw [(hc db).2] at hcategory
    exact ⟨_, by rw [(hc db).1, categoryList, hcategory, hlisting]⟩
  rw [hvalue] at hx
  subst hx hx'
  obtain ⟨u, hpre, v, hv, hrest⟩ := serves_append.mp hrun
  obtain ⟨v', hv', w₂, hsearch, -⟩ := serves_append.mp hrest
  have hversions : FirstVersions v := by
    have hu := (hpre.invariant (I := FirstVersions) (P := fun _ => True)
      (fun _ _ _ _ hw h => ⟨firstVersions_step hw h, trivial⟩) (fun _ => rfl)).1
    exact firstVersions_step hu hv
  have hentry := entry_kept hmid hversions
    (entry_of_call (ListCall.key_of_categoryKey hkey) hv) hv'
  cases (entry_answers hentry hsearch).2 (ListCall.key_of_categoryKey hkey')

/--
**Cached listings.** With entries that may expire at any time, the cache cannot be told
from no cache exactly if no search in a known category comes while the page is stored that
a listing has left.
-/
theorem listBooks_transparent_iff
    {steps : List ListStep}
    (hrun : Serves (listStep sql) (.blank db) steps w') :
    Transparent sql db steps ↔ SearchesUncached sql db steps :=
  ⟨fun h => searchesUncached_of_transparent h hrun,
    fun h => transparent_of_searchesUncached h hrun⟩

end Listing

/-! ### A keyword that is ignored -/

/-- Texts are compared letter by letter. -/
def sampleSql : SqlText where
  eq := fun s t => decide (s = t)
  contains := fun text keyword => decide (keyword.toList <:+: text.toList)
  relevance := fun title _ keyword => if keyword.toList <:+: title.toList then 1 else 0

def sampleBook (id : Nat) : Book :=
  { id := id, publicationYear := none, weightGrams := none, pageCount := none,
    coverImageUrl := none, isActive := true, createdAt := id, deletedAt := none,
    publisherName := none, specs := none, badges := [] }

def sampleVariant (id bookId : Nat) : CatalogVariant :=
  { id := id, bookId := bookId, format := .paperback, isbn := "978" ++ toString id,
    price := some 100, stock := 5, available := 5, isActive := true, reserved := 0,
    edition := 1, currencyCode := "VND" }

/-- Two books in one category. -/
def sampleCatalog : CatalogDb where
  books := [sampleBook 1, sampleBook 2]
  variants := [sampleVariant 1 1, sampleVariant 2 2]
  translations := [⟨1, 1, "Lean", none, some "lean"⟩, ⟨2, 1, "Rust", none, some "rust"⟩]
  bookCategories := [(1, 1), (2, 1)]
  categories := [⟨1, none, true, 0, none⟩]
  categoryTranslations := [⟨1, 1, "Programming", some "programming"⟩]
  languages := [⟨1, true⟩]
  purchaseOrderItems := []

/-- The first page of the category, with or without a keyword. -/
def sampleListing (keyword : Option String) : ListCall :=
  ⟨⟨none, none, some "programming", keyword⟩, 1⟩

/-- The call by itself. -/
def listAlone (c : ListCall) (w : CacheWorld CatalogDb CatalogValue) :
    Option (CacheWorld CatalogDb CatalogValue × Except Failure CatalogValue) :=
  (listBooks c.query c.langId).alone (cacheExec (runCatalog sampleSql)) .database w

/-- After the whole category has been listed, a search in it finds the whole category. -/
theorem keyword_ignored :
    ¬ ∀ (sql : SqlText) (db : CatalogDb) (steps : List ListStep)
        (w' : CacheWorld CatalogDb CatalogValue),
      Serves (listStep sql) (.blank db) steps w' → Transparent sql db steps := by
  intro h
  have hcalls : ((listAlone (sampleListing none) (.blank sampleCatalog)).bind fun r =>
      (listAlone (sampleListing (some "Lean")) r.1).map fun s =>
        decide (s.2 = (sampleListing (some "Lean")).result sampleSql sampleCatalog)) =
          some false := by
    decide +kernel
  obtain ⟨r, hr, hcalls⟩ := Option.bind_eq_some_iff.mp hcalls
  obtain ⟨s, hs, hdiffers⟩ := Option.map_eq_some_iff.mp hcalls
  have htransparent := h sampleSql sampleCatalog
    [.call (sampleListing none) r.2, .call (sampleListing (some "Lean")) s.2] s.1
    ⟨r.1, yields_of_alone hr, s.1, yields_of_alone hs, rfl⟩
  exact of_decide_eq_false hdiffers
    (uncachedAnswer_iff.mp (htransparent (sampleListing (some "Lean")) s.2 (by simp)))

/-- A search that throws, and the whole category twice. -/
theorem listBooks_transparent_searchFirst :
    ∃ x w', Transparent sampleSql sampleCatalog
        [.call (sampleListing (some "Lean")) (.error .database),
          .call (sampleListing none) x, .call (sampleListing none) x] ∧
      Serves (listStep sampleSql) (.blank sampleCatalog)
        [.call (sampleListing (some "Lean")) (.error .database),
          .call (sampleListing none) x, .call (sampleListing none) x] w' := by
  obtain ⟨key, hsearch, hlisting⟩ : ∃ key,
      (sampleListing (some "Lean")).key = some key ∧ (sampleListing none).key = some key :=
    ⟨.bookListByCategory 1 1 20 "programming", by decide +kernel⟩
  have hthrows : (sampleListing (some "Lean")).result sampleSql sampleCatalog =
      .error .database := by
    decide +kernel
  have hsome : ((sampleListing none).result sampleSql sampleCatalog).toOption.isSome = true := by
    decide +kernel
  cases hvalue : (sampleListing none).result sampleSql sampleCatalog with
  | error e =>
      rw [hvalue] at hsome
      cases hsome
  | ok value =>
      have hrun : ∃ w', Serves (listStep sampleSql) (.blank sampleCatalog)
          [.call (sampleListing (some "Lean")) (.error .database),
            .call (sampleListing none) (.ok value), .call (sampleListing none) (.ok value)]
          w' := by
        refine ⟨_, .cons (listStep_miss hsearch CacheWorld.entry_blank hthrows.symm)
          (.cons (listStep_miss hlisting ?_ ?_) (.cons (listStep_hit hlisting ?_) .nil))⟩
        · rw [CacheWorld.entry_fill_self_error, CacheWorld.entry_blank]
        · rw [CacheWorld.db_fill, CacheWorld.db_blank, hvalue]
        · exact CacheWorld.entry_fill_self_ok
      obtain ⟨w', hrun⟩ := hrun
      refine ⟨_, _, (listBooks_transparent_iff hrun).mpr ?_, hrun⟩
      intro pre c x mid c' x' post key hsteps _ _ _ hnone hkeyword
      cases pre with
      | nil =>
          -- the first call is a search
          obtain ⟨rfl, -⟩ := ListStep.call.inj (List.cons.inj hsteps).1
          exact absurd hnone (by decide +kernel)
      | cons b pre =>
          -- no search comes later
          have hmem : ListStep.call c' x' ∈ [.call (sampleListing none) (.ok value),
              .call (sampleListing none) (.ok value)] := by
            rw [(List.cons.inj hsteps).2]
            simp
          simp only [List.mem_cons, List.not_mem_nil, or_false, or_self] at hmem
          obtain ⟨rfl, -⟩ := ListStep.call.inj hmem
          exact absurd (by decide +kernel) hkeyword

end BookStore
