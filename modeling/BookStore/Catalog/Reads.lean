import BookStore.Catalog.Service

/-!
# What the catalog reads

The keys of the catalog are told apart by their texts, the computations behind them
only read the database, and those of the listings are functions of it.  A search by keyword
is refused by the database.
-/

namespace BookStore

open Async Program

/-! ### Keys -/

namespace CatalogKey

/-- The text of a key after its first two parts. -/
def tail : CatalogKey → List Char
  | .home langId limit => natText langId ++ ':' :: natText limit
  | .bookList langId page limit =>
      natText langId ++ (':' :: 'p' :: (natText page ++ (':' :: 'l' :: (natText limit ++ []))))
  | .bookListByCategory langId page limit slug =>
      natText langId ++ (':' :: 'p' :: (natText page ++ (':' :: 'l' :: (natText limit ++
        (':' :: 'c' :: 'a' :: 't' :: '=' :: slug.toList)))))
  | .bookDetail bookId langId => natText bookId ++ ':' :: natText langId
  | .bookDetailBySlug slug langId =>
      's' :: 'l' :: 'u' :: 'g' :: ':' :: (slug.toList ++ ':' :: natText langId)

def head : CatalogKey → String
  | .home _ _ => "catalog:home:"
  | .bookList _ _ _ => "catalog:books:langId="
  | .bookListByCategory _ _ _ _ => "catalog:books:langId="
  | .bookDetail _ _ => "catalog:detail:"
  | .bookDetailBySlug _ _ => "catalog:detail:"

theorem toList_text (k : CatalogKey) : k.text.toList = k.head.toList ++ k.tail := by
  have hcolon : ∀ l, ":".toList ++ l = ':' :: l := fun _ => rfl
  have hp : ∀ l, ":p".toList ++ l = ':' :: 'p' :: l := fun _ => rfl
  have hl : ∀ l, ":l".toList ++ l = ':' :: 'l' :: l := fun _ => rfl
  have hcat : ∀ l, ":cat=".toList ++ l = ':' :: 'c' :: 'a' :: 't' :: '=' :: l := fun _ => rfl
  cases k with
  | home langId limit =>
      change ("catalog:home:" ++ toString langId ++ ":" ++ toString limit).toList =
        "catalog:home:".toList ++ (natText langId ++ ':' :: natText limit)
      simp only [String.toList_append, toList_toString, List.append_assoc, hcolon]
  | bookList langId page limit =>
      change ("catalog:books:langId=" ++ toString langId ++ ":p" ++ toString page ++ ":l" ++
        toString limit).toList = "catalog:books:langId=".toList ++ (natText langId ++
          (':' :: 'p' :: (natText page ++ (':' :: 'l' :: (natText limit ++ [])))))
      simp only [String.toList_append, toList_toString, List.append_assoc, hp, hl,
        List.cons_append, List.append_nil]
  | bookListByCategory langId page limit slug =>
      change ("catalog:books:langId=" ++ toString langId ++ ":p" ++ toString page ++ ":l" ++
        toString limit ++ ":cat=" ++ slug).toList = "catalog:books:langId=".toList ++
          (natText langId ++ (':' :: 'p' :: (natText page ++ (':' :: 'l' :: (natText limit ++
            (':' :: 'c' :: 'a' :: 't' :: '=' :: slug.toList))))))
      simp only [String.toList_append, toList_toString, List.append_assoc, hp, hl, hcat,
        List.cons_append]
  | bookDetail bookId langId =>
      change ("catalog:detail:" ++ toString bookId ++ ":" ++ toString langId).toList =
        "catalog:detail:".toList ++ (natText bookId ++ ':' :: natText langId)
      simp only [String.toList_append, toList_toString, List.append_assoc, hcolon]
  | bookDetailBySlug slug langId =>
      have hdetail : "catalog:detail:slug:".toList =
          "catalog:detail:".toList ++ ['s', 'l', 'u', 'g', ':'] := by decide
      change ("catalog:detail:slug:" ++ slug ++ ":" ++ toString langId).toList =
        "catalog:detail:".toList ++
          's' :: 'l' :: 'u' :: 'g' :: ':' :: (slug.toList ++ ':' :: natText langId)
      simp only [String.toList_append, toList_toString, List.append_assoc, hcolon, hdetail,
        List.cons_append, List.nil_append]

/-- The ninth letter tells the three kinds of heads apart. -/
theorem head_eq_of_text_eq {k k' : CatalogKey} (h : k.text = k'.text) : k.head = k'.head := by
  have hlists := congrArg (fun s => s.toList.take 9) h
  have htake : ∀ k : CatalogKey, k.text.toList.take 9 = k.head.toList.take 9 := by
    intro k
    rw [toList_text]
    refine List.take_append_of_le_length ?_
    cases k <;> simp only [head] <;> decide
  simp only [htake] at hlists
  revert hlists
  cases k <;> cases k' <;> simp only [head] <;> decide

theorem bookId_ne_slug {bookId : Nat} {a b : List Char} :
    natText bookId ++ ':' :: a ≠ 's' :: b := by
  intro h
  have hdigits := congrArg (List.takeWhile Char.isDigit) h
  rw [takeWhile_natText (by rintro _ ⟨⟩; rfl)] at hdigits
  exact natText_ne_nil bookId (hdigits.trans (List.takeWhile_cons_of_neg (by decide)))

theorem head_colon {s : List Char} : ∀ c, (':' :: s).head? = some c → c.isDigit = false := by
  rintro _ ⟨⟩
  rfl

/-- The parameters before the end of the text of a listing. -/
theorem listing_inj
    {langId langId' page page' limit limit' : Nat} {s s' : List Char}
    (hs : ∀ c, s.head? = some c → c.isDigit = false)
    (hs' : ∀ c, s'.head? = some c → c.isDigit = false)
    (h : natText langId ++ (':' :: 'p' :: (natText page ++ (':' :: 'l' :: (natText limit ++ s)))) =
      natText langId' ++
        (':' :: 'p' :: (natText page' ++ (':' :: 'l' :: (natText limit' ++ s'))))) :
    langId = langId' ∧ page = page' ∧ limit = limit' ∧ s = s' := by
  obtain ⟨hlang, h⟩ := natText_append_inj head_colon head_colon h
  simp only [List.cons.injEq, true_and] at h
  obtain ⟨hpage, h⟩ := natText_append_inj head_colon head_colon h
  simp only [List.cons.injEq, true_and] at h
  obtain ⟨hlimit, h⟩ := natText_append_inj hs hs' h
  exact ⟨hlang, hpage, hlimit, h⟩

/-- **Different keys have different texts.** -/
theorem text_injective : Function.Injective text := by
  intro k k' heq
  have hhead := head_eq_of_text_eq heq
  have htail : k.tail = k'.tail := by
    have hlists := congrArg String.toList heq
    rw [toList_text, toList_text, hhead] at hlists
    exact List.append_cancel_left hlists
  have hnil : ∀ c, ([] : List Char).head? = some c → c.isDigit = false := by
    rintro _ ⟨⟩
  cases k <;> cases k' <;> simp only [head] at hhead <;> simp only [tail] at htail
  case home.home =>
      obtain ⟨rfl, h⟩ := natText_append_inj head_colon head_colon htail
      simp only [List.cons.injEq, true_and] at h
      rw [natText_injective h]
  case bookList.bookList =>
      obtain ⟨rfl, rfl, rfl, -⟩ := listing_inj hnil hnil htail
      rfl
  case bookList.bookListByCategory =>
      cases (listing_inj hnil head_colon htail).2.2.2
  case bookListByCategory.bookList =>
      cases (listing_inj head_colon hnil htail).2.2.2
  case bookListByCategory.bookListByCategory =>
      obtain ⟨rfl, rfl, rfl, h⟩ := listing_inj head_colon head_colon htail
      simp only [List.cons.injEq, true_and] at h
      rw [String.toList_injective h]
  case bookDetail.bookDetail =>
      obtain ⟨rfl, h⟩ := natText_append_inj head_colon head_colon htail
      simp only [List.cons.injEq, true_and] at h
      rw [natText_injective h]
  case bookDetail.bookDetailBySlug =>
      exact absurd htail bookId_ne_slug
  case bookDetailBySlug.bookDetail =>
      exact absurd htail.symm bookId_ne_slug
  case bookDetailBySlug.bookDetailBySlug =>
      simp only [List.cons.injEq, true_and] at htail
      obtain ⟨hslug, hlang⟩ :=
        splitLast_inj (not_mem_natText rfl _) (not_mem_natText rfl _) htail
      rw [String.toList_injective hslug, natText_injective hlang]
  all_goals exact absurd hhead (by decide)

end CatalogKey

/-! ### Computations -/

section Reads

variable {sql : SqlText}

/-- Queries that change nothing. -/
def CatalogQuery.isRead : CatalogQuery → Bool
  | .updateBook _ _ => false
  | .deleteBook _ _ => false
  | .updatePriceVariant _ _ => false
  | _ => true

variable (sql) in
abbrev ReadsCatalog {α : Type} (p : CatalogService α) : Prop :=
  ReadsDb (runCatalog sql) .database p

theorem readsOnly_of_isRead {q : CatalogQuery} (h : q.isRead = true) :
    ReadsOnly (cacheExec (V := CatalogValue) (runCatalog sql)) .database CacheWorld.db
      (.query q) := by
  cases q with
  | findBookByKeyword categoryId languageId search page limit =>
      exact readsOnly_refused fun _ => run_findBookByKeyword
  | countBookByKeyword categoryId languageId search =>
      exact readsOnly_refused fun _ => run_countBookByKeyword
  | updateBook | deleteBook | updatePriceVariant =>
      cases h
  | _ =>
      exact readsOnly_query fun _ => rfl

theorem reads_catalogQuery {q : CatalogQuery} (h : q.isRead = true) :
    ReadsCatalog sql (catalogQuery q) :=
  All.await (readsOnly_of_isRead h)

theorem reads_bothQueries
    {q r : CatalogQuery} (hq : q.isRead = true) (hr : r.isRead = true) :
    ReadsCatalog sql (bothQueries q r) :=
  All.alongside (readsOnly_of_isRead hq) (reads_catalogQuery hr)

theorem reads_shuffle {α : Type} (items : List α) : ReadsCatalog sql (shuffle items) := by
  unfold shuffle
  generalize items.length - 1 = i
  induction i generalizing items with
  | zero =>
      trivial
  | succ i ih =>
      exact fun j => ih _

theorem reads_homeFactory (langId limit : Nat) : ReadsCatalog sql (homeFactory langId limit) :=
  (reads_catalogQuery rfl).bind fun books => (reads_shuffle books).bind fun _ => trivial

theorem reads_plainListFactory (langId : Nat) (categoryId : Option Nat) (page limit : Nat) :
    ReadsCatalog sql (plainListFactory langId categoryId page limit) :=
  (reads_bothQueries rfl rfl).bind fun _ => trivial

theorem reads_keywordListFactory
    (langId : Nat) (categoryId : Option Nat) (keyword : String) (page limit : Nat) :
    ReadsCatalog sql (keywordListFactory langId categoryId keyword page limit) :=
  (reads_bothQueries rfl rfl).bind fun _ => (reads_catalogQuery rfl).bind fun _ => trivial

theorem reads_categoryListFactory
    (langId page limit : Nat) (slug : String) (keyword : Option String) :
    ReadsCatalog sql (categoryListFactory langId page limit slug keyword) := by
  refine (reads_catalogQuery rfl).bind fun category => ?_
  cases category with
  | none =>
      trivial
  | some categoryId =>
      cases keyword with
      | none =>
          exact reads_plainListFactory langId (some categoryId) page limit
      | some keyword =>
          exact reads_keywordListFactory langId (some categoryId) keyword page limit

theorem reads_bookDetailFactory (bookId langId : Nat) :
    ReadsCatalog sql (bookDetailFactory bookId langId) := by
  refine (reads_catalogQuery rfl).bind fun book => ?_
  cases book <;> trivial

theorem reads_bookDetailBySlugFactory (slug : String) (langId : Nat) :
    ReadsCatalog sql (bookDetailBySlugFactory slug langId) := by
  refine (reads_catalogQuery rfl).bind fun book => ?_
  cases book with
  | none =>
      trivial
  | some book =>
      exact (reads_catalogQuery rfl).bind fun _ => (reads_catalogQuery rfl).bind fun _ => trivial

/-! ### Listings as functions of the database -/

def plainList (db : CatalogDb) (langId : Nat) (categoryId : Option Nat) (page limit : Nat) :
    CatalogValue :=
  buildPaginatedResult
    ((db.findBooksForListByFilter langId categoryId page limit).map toCatalogListBookCard)
    (db.countBooksForList langId categoryId) page limit

variable (sql) in
/-- The category is looked up; a search in it is refused. -/
def categoryList (db : CatalogDb) (langId page limit : Nat) (slug : String)
    (keyword : Option String) : Except Failure CatalogValue :=
  match db.findCategoryBySlug sql slug langId with
  | none => .error (.notFound CatalogMessage.categoryNotFound)
  | some categoryId =>
      match keyword with
      | some _ => .error .database
      | none => .ok (plainList db langId (some categoryId) page limit)

variable {w w' : CacheWorld CatalogDb CatalogValue} {x : Except Failure CatalogValue}

/-- Two reads together. -/
theorem yields_bothQueries_bind
    {run : (q : CatalogQuery) → CatalogDb → Except Failure (CatalogDb × CatalogResponse q)}
    {α : Type} {q r : CatalogQuery} {f : CatalogResponse q × CatalogResponse r → CatalogService α}
    {a : CatalogResponse q} {b : CatalogResponse r} {y : Except Failure α}
    (hq : cacheExec (V := CatalogValue) run (.query q) w = .ok (w, a))
    (hr : cacheExec (V := CatalogValue) run (.query r) w = .ok (w, b)) :
    ((bothQueries q r).bind f).Yields (cacheExec run) .database w w' y ↔
      (f (a, b)).Yields (cacheExec run) .database w w' y := by
  unfold bothQueries catalogQuery command
  rw [yields_bind]
  constructor
  · rintro (⟨v, z, h, hrest⟩ | ⟨e, h, -⟩)
    · obtain ⟨rfl, hz⟩ := (yields_alongside_await hq hr).mp h
      cases hz
      exact hrest
    · cases ((yields_alongside_await hq hr).mp h).2
  · intro h
    exact .inl ⟨w, _, (yields_alongside_await hq hr).mpr ⟨rfl, rfl⟩, h⟩

/-- Two queries together that are both refused. -/
theorem yields_bothQueries_refused
    {run : (q : CatalogQuery) → CatalogDb → Except Failure (CatalogDb × CatalogResponse q)}
    {α : Type} {q r : CatalogQuery} {f : CatalogResponse q × CatalogResponse r → CatalogService α}
    {e : Failure} {y : Except Failure α}
    (hq : cacheExec (V := CatalogValue) run (.query q) w = .error e)
    (hr : cacheExec (V := CatalogValue) run (.query r) w = .error e) :
    ((bothQueries q r).bind f).Yields (cacheExec run) .database w w' y ↔
      w' = w ∧ y = .error e := by
  unfold bothQueries catalogQuery command
  rw [yields_bind]
  constructor
  · rintro (⟨v, z, h, -⟩ | ⟨e', h, rfl⟩)
    · cases ((yields_alongside_await_error hq hr).mp h).2
    · obtain ⟨hw, he⟩ := (yields_alongside_await_error hq hr).mp h
      cases he
      exact ⟨hw, rfl⟩
  · rintro ⟨rfl, rfl⟩
    exact .inr ⟨e, (yields_alongside_await_error hq hr).mpr ⟨rfl, rfl⟩, rfl⟩

theorem yields_plainListFactory
    {langId : Nat} {categoryId : Option Nat} {page limit : Nat} :
    (plainListFactory langId categoryId page limit).Yields (cacheExec (runCatalog sql))
        .database w w' x ↔
      w' = w ∧ x = .ok (plainList w.db langId categoryId page limit) :=
  yields_bothQueries_bind rfl rfl

theorem yields_keywordListFactory
    {langId : Nat} {categoryId : Option Nat} {keyword : String} {page limit : Nat} :
    (keywordListFactory langId categoryId keyword page limit).Yields
        (cacheExec (runCatalog sql)) .database w w' x ↔
      w' = w ∧ x = .error .database := by
  unfold keywordListFactory
  refine yields_bothQueries_refused ?_ ?_
  · simp only [cacheExec, run_findBookByKeyword]
  · simp only [cacheExec, run_countBookByKeyword]

theorem yields_categoryListFactory
    {langId page limit : Nat} {slug : String} {keyword : Option String} :
    (categoryListFactory langId page limit slug keyword).Yields (cacheExec (runCatalog sql))
        .database w w' x ↔
      w' = w ∧ x = categoryList sql w.db langId page limit slug keyword := by
  unfold categoryListFactory categoryList
  refine (yields_await_bind rfl).trans ?_
  cases w.db.findCategoryBySlug sql slug langId with
  | none =>
      exact Iff.rfl
  | some categoryId =>
      cases keyword with
      | none =>
          exact yields_plainListFactory
      | some keyword =>
          exact yields_keywordListFactory

end Reads

end BookStore
