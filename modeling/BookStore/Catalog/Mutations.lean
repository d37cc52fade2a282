import BookStore.Catalog.Listing

/-!
# The catalog while books change

`updateBook`, `deleteBook` and `updatePriceVariant` of the administration and the cached
reads of the catalog, one after another.  The two updates bump the versions of a book's
detail, in every active language; nothing else is bumped.

* `Mutation.commit` is what a mutation makes of the database and whose details it bumps.
* `ReadsCurrent`: a read that starts now returns what the database gives.
* `MutationCovered`: what a mutation does not bump is not stored, or has not changed.
* `reads_current_iff` is the result: exactly the runs of covered mutations keep the reads
  current; in `deleted_book_shown` a deleted book is still shown.
-/

namespace BookStore

open Async Program

/-! ### The administration -/

/-- `bumpCatalogBookDetailCache` -/
def bumpCatalogBookDetailCache (bookId : Nat) : CatalogService Unit := do
  let languages : List Nat ← catalogQuery .findActiveLanguages
  promiseAll (languages.map fun langId =>
    .incr (createVersionKey (CatalogKey.bookDetail bookId langId).text))

/-- `AdminBookService.updateBook` -/
def updateBook (bookId : Nat) (body : UpdateAdminBookRequestDto) : CatalogService Unit := do
  let before : Option Book ← catalogQuery (.findBookById bookId)
  match before with
  | none => raise (.notFound AdminBookMessage.bookNotFound)
  | some before =>
      if before.deletedAt.isSome then
        raise (.notFound AdminBookMessage.bookNotFound)
      else do
        let _ ← catalogQuery (.updateBook bookId body)
        bumpCatalogBookDetailCache bookId

/-- `AdminBookService.deleteBook` at an instant -/
def deleteBook (bookId now : Nat) : CatalogService Unit :=
  catalogQuery (.deleteBook bookId now)

/-- `Number(purchaseOrderId?.unitPrice)`, as the column takes it, unless it is refused -/
def unitPriceOf (nan : Option (Option ℚ)) (item : Option PricedItem) : Option (Option ℚ) :=
  match item with
  | none => nan
  | some item => some (some item.unitPrice)

/--
`AdminBookVariantsService.updatePriceVariant`; `nan` is what the client makes of the price `NaN`:
the column that it writes, or a refusal.
-/
def updatePriceVariant (variantId : Nat) (purchaseOrderItemId : String)
    (nan : Option (Option ℚ)) : CatalogService Unit := do
  let item : Option PricedItem ←
    catalogQuery (.findPurchaseOrderItem variantId purchaseOrderItemId)
  match unitPriceOf nan item with
  | none => raise .database
  | some price => do
      let bookId : Nat ← catalogQuery (.updatePriceVariant variantId price)
      bumpCatalogBookDetailCache bookId

inductive Mutation
  | updateBook (bookId : Nat) (body : UpdateAdminBookRequestDto)
  | deleteBook (bookId now : Nat)
  | updatePriceVariant (variantId : Nat) (purchaseOrderItemId : String) (nan : Option (Option ℚ))

def Mutation.service : Mutation → CatalogService Unit
  | .updateBook bookId body => BookStore.updateBook bookId body
  | .deleteBook bookId now => BookStore.deleteBook bookId now
  | .updatePriceVariant variantId purchaseOrderItemId nan =>
      BookStore.updatePriceVariant variantId purchaseOrderItemId nan

/-! ### The reads -/

inductive CatalogRead
  | bookDetail (bookId langId : Nat)
  | bookDetailBySlug (slug : String) (langId : Nat)
  | home (limit : Option Nat) (langId : Nat)
  | list (page limit : Option Int) (langId : Nat)
  | listByCategory (page limit : Option Int) (slugCategory : String) (langId : Nat)

def CatalogRead.service
    (cached : CatalogKey → CatalogService CatalogValue → CatalogService CatalogValue) :
    CatalogRead → CatalogService CatalogValue
  | .bookDetail bookId langId => getBookDetailWith cached bookId langId
  | .bookDetailBySlug slug langId => getBookDetailBySlugWith cached slug langId
  | .home limit langId => getCatalogHomeWith cached limit langId
  | .list page limit langId => listBooksWith cached ⟨page, limit, none, none⟩ langId
  | .listByCategory page limit slugCategory langId =>
      listBooksWith cached ⟨page, limit, some slugCategory, none⟩ langId

/-- A step of a run; a request comes with its answer. -/
inductive CatalogStep
  | read (r : CatalogRead) (x : Except Failure CatalogValue)
  | mutate (m : Mutation) (x : Except Failure Unit)
  | expire (key : String)

section Runs

variable (sql : SqlText)

abbrev CatalogWorld := CacheWorld CatalogDb CatalogValue

def catalogStep (w : CatalogWorld) : CatalogStep → CatalogWorld → Prop
  | .read r x, w' =>
      (r.service catalogCached).Yields (cacheExec (runCatalog sql)) .database w w' x
  | .mutate m x, w' => m.service.Yields (cacheExec (runCatalog sql)) .database w w' x
  | .expire key, w' => w' = w.expire key

/-- With caching switched off the read may return `x` on the database. -/
def CatalogRead.MayReturn (r : CatalogRead) (db : CatalogDb) (x : Except Failure CatalogValue) :
    Prop :=
  ∃ w', (r.service catalogUncached).Yields (cacheExec (runCatalog sql)) .database (.blank db)
    w' x

/-- A read that starts now returns what it may return on the current database. -/
def ReadsCurrent (w : CatalogWorld) : Prop :=
  ∀ (r : CatalogRead) x w',
    (r.service catalogCached).Yields (cacheExec (runCatalog sql)) .database w w' x →
      r.MayReturn sql w.db x

/-- The database that a mutation leaves, and the book whose details it bumps. -/
def Mutation.commit : Mutation → CatalogDb → Except Failure (CatalogDb × Option Nat)
  | .updateBook bookId body, db =>
      match db.books.find? fun b => decide (b.id = bookId) with
      | none => .error (.notFound AdminBookMessage.bookNotFound)
      | some before =>
          if before.deletedAt.isSome then .error (.notFound AdminBookMessage.bookNotFound)
          else (updateBookTransaction bookId body db).map fun db => (db, some bookId)
  | .deleteBook bookId now, db => (deleteBookTransaction bookId now db).map fun db => (db, none)
  | .updatePriceVariant variantId purchaseOrderItemId nan, db =>
      match unitPriceOf nan (db.purchaseOrderItems.find? fun i =>
        decide (i.bookVariantId = variantId) && decide (i.id = purchaseOrderItemId)) with
      | none => .error .database
      | some price => (updatePriceVariantRow variantId price db).map fun r => (r.1, some r.2)

/-- The key of a read; a slug of white space is refused. -/
def CatalogRead.key : CatalogRead → Option CatalogKey
  | .bookDetail bookId langId => some (.bookDetail bookId langId)
  | .bookDetailBySlug slug langId =>
      if trim slug = "" then none else some (.bookDetailBySlug (trim slug) langId)
  | .home limit langId => some (.home langId (limit.getD 12))
  | .list page limit langId =>
      some (.bookList langId (positiveOr 1 page) (positiveOr 20 limit))
  | .listByCategory page limit slugCategory langId =>
      match trimmed (some slugCategory) with
      | some slug =>
          some (.bookListByCategory langId (positiveOr 1 page) (positiveOr 20 limit) slug)
      | none => some (.bookList langId (positiveOr 1 page) (positiveOr 20 limit))

/-- The computation behind a key. -/
def CatalogKey.factory : CatalogKey → CatalogService CatalogValue
  | .home langId limit => homeFactory langId limit
  | .bookList langId page limit => plainListFactory langId none page limit
  | .bookListByCategory langId page limit slug =>
      categoryListFactory langId page limit slug none
  | .bookDetail bookId langId => bookDetailFactory bookId langId
  | .bookDetailBySlug slug langId => bookDetailBySlugFactory slug langId

/-- The key is bumped for the book. -/
def DetailOf (db : CatalogDb) (bookId : Option Nat) (key : CatalogKey) : Prop :=
  ∃ id langId, bookId = some id ∧ langId ∈ db.findActiveLanguages ∧ key = .bookDetail id langId

/--
Whatever the mutation does not bump is not stored, or the stored value is also what the
changed database gives.
-/
def MutationCovered (w : CatalogWorld) (m : Mutation) : Prop :=
  ∀ db bookId, m.commit w.db = .ok (db, bookId) →
    ∀ (r : CatalogRead) key value, r.key = some key → ¬ DetailOf db bookId key →
      w.entry key.text = some value → r.MayReturn sql db (.ok value)

variable {sql}

/-! ### What a read does -/

theorem reads_factory (key : CatalogKey) : ReadsCatalog sql key.factory := by
  cases key with
  | home langId limit =>
      exact reads_homeFactory langId limit
  | bookList langId page limit =>
      exact reads_plainListFactory langId none page limit
  | bookListByCategory langId page limit slug =>
      exact reads_categoryListFactory langId page limit slug none
  | bookDetail bookId langId =>
      exact reads_bookDetailFactory bookId langId
  | bookDetailBySlug slug langId =>
      exact reads_bookDetailBySlugFactory slug langId

/-- A read goes through the cache under its key, or is refused. -/
theorem CatalogRead.service_eq (r : CatalogRead) :
    (r.key = none ∧ ∃ e, ∀ cached, r.service cached = raise e) ∨
      ∃ key, r.key = some key ∧ ∀ cached, r.service cached = cached key key.factory := by
  cases r with
  | bookDetail bookId langId =>
      exact .inr ⟨_, rfl, fun _ => rfl⟩
  | home limit langId =>
      exact .inr ⟨_, rfl, fun _ => rfl⟩
  | list page limit langId =>
      exact .inr ⟨_, rfl, fun _ => rfl⟩
  | bookDetailBySlug slug langId =>
      by_cases hslug : trim slug = ""
      · refine .inl ⟨by simp only [CatalogRead.key, hslug, if_true],
          .badRequest CatalogMessage.slugRequired, fun cached => ?_⟩
        simp only [CatalogRead.service, getBookDetailBySlugWith, hslug, if_true]
      · refine .inr ⟨.bookDetailBySlug (trim slug) langId,
          by simp only [CatalogRead.key, hslug, if_false], fun cached => ?_⟩
        simp only [CatalogRead.service, getBookDetailBySlugWith, hslug, if_false]
        rfl
  | listByCategory page limit slugCategory langId =>
      have hkeyword : trimmed none = none := rfl
      cases hslug : trimmed (some slugCategory) with
      | some slug =>
          refine .inr ⟨.bookListByCategory langId (positiveOr 1 page) (positiveOr 20 limit) slug,
            by simp only [CatalogRead.key, hslug], fun cached => ?_⟩
          simp only [CatalogRead.service, listBooksWith, hslug, hkeyword]
          rfl
      | none =>
          refine .inr ⟨.bookList langId (positiveOr 1 page) (positiveOr 20 limit),
            by simp only [CatalogRead.key, hslug], fun cached => ?_⟩
          simp only [CatalogRead.service, listBooksWith, hslug, hkeyword]
          rfl

variable {db : CatalogDb} {r : CatalogRead} {key : CatalogKey} {value : CatalogValue}
variable {w v w' : CatalogWorld} {x : Except Failure CatalogValue}

theorem mayReturn_iff (hkey : r.key = some key) :
    r.MayReturn sql db x ↔ Computes (runCatalog sql) .database key.factory db x := by
  obtain ⟨hnone, -⟩ | ⟨k, hk, hservice⟩ := r.service_eq
  · rw [hkey] at hnone
    cases hnone
  · rw [hkey] at hk
    cases hk
    simp only [CatalogRead.MayReturn, hservice, catalogUncached,
      yields_factory (reads_factory key), CacheWorld.db_blank]
    exact ⟨fun ⟨_, _, h⟩ => h, fun h => ⟨_, rfl, h⟩⟩

theorem yields_read (hkey : r.key = some key) :
    (r.service catalogCached).Yields (cacheExec (runCatalog sql)) .database w w' x ↔
      (∃ value, w.entry key.text = some value ∧ w' = w.touch key.text ∧ x = .ok value) ∨
        w.entry key.text = none ∧ r.MayReturn sql w.db x ∧ w' = w.fill key.text x := by
  obtain ⟨hnone, -⟩ | ⟨k, hk, hservice⟩ := r.service_eq
  · rw [hkey] at hnone
    cases hnone
  · rw [hkey] at hk
    cases hk
    rw [hservice, catalogCached, yields_withCache_true (reads_factory key), mayReturn_iff hkey]

/-- What is stored may be returned, and nothing is stored beyond a version. -/
structure EntriesCurrent (sql : SqlText) (w : CatalogWorld) : Prop where
  beyond : ∀ key : CatalogKey, NothingBeyond key.text w
  entries : ∀ (r : CatalogRead) key value, r.key = some key →
    w.entry key.text = some value → r.MayReturn sql w.db (.ok value)

/-- Where reads are current, so is what is stored. -/
theorem ReadsCurrent.entries
    (h : ReadsCurrent sql w)
    (hkey : r.key = some key)
    (hvalue : w.entry key.text = some value) :
    r.MayReturn sql w.db (.ok value) :=
  h r _ _ ((yields_read hkey).mpr (.inl ⟨value, hvalue, rfl, rfl⟩))

/-- A read keeps the entries current. -/
theorem EntriesCurrent.read
    (h : EntriesCurrent sql w)
    (hstep : catalogStep sql w (.read r x) w') :
    EntriesCurrent sql w' := by
  obtain ⟨-, e, hservice⟩ | ⟨key, hkey, -⟩ := r.service_eq
  · simp only [catalogStep, hservice] at hstep
    rw [hstep.1]
    exact h
  · rcases (yields_read hkey).mp hstep with ⟨value, -, rfl, -⟩ | ⟨-, hx, rfl⟩
    · refine ⟨fun k => (h.beyond k).touch, fun r' k value hk hvalue => ?_⟩
      rw [CacheWorld.entry_touch] at hvalue
      exact h.entries r' k value hk hvalue
    · refine ⟨fun k => (h.beyond k).fill, fun r' k value hk hvalue => ?_⟩
      rw [CacheWorld.db_fill]
      by_cases heq : k = key
      · subst heq
        cases x with
        | ok v =>
            rw [CacheWorld.entry_fill_self_ok] at hvalue
            cases hvalue
            rw [mayReturn_iff hk]
            exact (mayReturn_iff hkey).mp hx
        | error e =>
            rw [CacheWorld.entry_fill_self_error] at hvalue
            exact h.entries r' k value hk hvalue
      · rw [CacheWorld.entry_fill_of_ne fun ht => heq (CatalogKey.text_injective ht)] at hvalue
        exact h.entries r' k value hk hvalue

theorem EntriesCurrent.expire {k : String} (h : EntriesCurrent sql w) :
    EntriesCurrent sql (w.expire k) :=
  ⟨fun key => (h.beyond key).expire, fun r key value hkey hvalue =>
    h.entries r key value hkey (CacheWorld.entry_expire hvalue)⟩

/-! ### What a mutation does -/

/-- The details of a book have been bumped and nothing else has changed. -/
structure DetailsBumped (db : CatalogDb) (bookId : Option Nat) (w w' : CatalogWorld) : Prop where
  db_eq : w'.db = db
  beyond : ∀ key : CatalogKey, NothingBeyond key.text w'
  bumped : ∀ key, DetailOf db bookId key → w'.entry key.text = none
  kept : ∀ key, ¬ DetailOf db bookId key → w'.entry key.text = w.entry key.text

theorem yields_bumpCatalogBookDetailCache
    {bookId : Nat} {y : Except Failure Unit}
    (hbeyond : ∀ key : CatalogKey, NothingBeyond key.text w)
    (h : (bumpCatalogBookDetailCache bookId).Yields (cacheExec (runCatalog sql)) .database
      w w' y) :
    DetailsBumped w.db (some bookId) w w' ∧ y = .ok () := by
  have h := (yields_await_bind rfl).mp h
  let bumpOf (langId : Nat) : CacheStmt CatalogQuery CatalogValue :=
    .incr (createVersionKey (CatalogKey.bookDetail bookId langId).text)
  -- those that have been sent have left no entry, the others are as they were
  have hrest := Program.Yields.promiseAll
    (J := fun rest u => (∀ s, s ∈ rest → ∃ langId, langId ∈ w.db.findActiveLanguages ∧
        s = bumpOf langId) ∧ u.db = w.db ∧ (∀ key : CatalogKey, NothingBeyond key.text u) ∧
      (∀ langId, langId ∈ w.db.findActiveLanguages → bumpOf langId ∉ rest →
        u.entry (CatalogKey.bookDetail bookId langId).text = none) ∧
      ∀ key, ¬ DetailOf w.db (some bookId) key → u.entry key.text = w.entry key.text)
    (fun rest j u hu => ?_) ?_ h
  · obtain ⟨⟨-, hdb, hbeyond', hbumped, hkept⟩, hy⟩ := hrest
    refine ⟨⟨hdb, hbeyond', ?_, hkept⟩, hy⟩
    rintro _ ⟨_, langId, ⟨⟩, hlang, rfl⟩
    exact hbumped langId hlang (by simp)
  · obtain ⟨hsent, hdb, hbeyond', hbumped, hkept⟩ := hu
    obtain ⟨langId, hlang, hj⟩ := hsent _ (List.get_mem rest j)
    rw [hj]
    refine ⟨u.bump (CatalogKey.bookDetail bookId langId).text, _, rfl,
      fun s hs => hsent s (List.mem_of_mem_eraseIdx hs), hdb,
      fun key => (hbeyond' key).bump, fun langId' hlang' hnot => ?_, fun key hkey => ?_⟩
    · by_cases heq : langId' = langId
      · subst heq
        exact CacheWorld.entry_bump_self (hbeyond' _)
      · have hne : (CatalogKey.bookDetail bookId langId').text ≠
            (CatalogKey.bookDetail bookId langId).text := by
          intro ht
          cases CatalogKey.text_injective ht
          exact heq rfl
        rw [CacheWorld.entry_bump_of_ne hne]
        refine hbumped langId' hlang' fun hmem => hnot ?_
        have hperm : (rest.get j :: rest.eraseIdx j).Perm rest :=
          List.getElem_cons_eraseIdx_perm j.isLt
        rcases List.mem_cons.mp (hperm.mem_iff.mpr hmem) with hget | hmem
        · rw [hj] at hget
          exact absurd (createVersionKey_inj.mp (CacheStmt.incr.inj hget)) hne
        · exact hmem
    · have hne : key.text ≠ (CatalogKey.bookDetail bookId langId).text := by
        intro ht
        exact hkey ⟨bookId, langId, rfl, hlang, CatalogKey.text_injective ht⟩
      rw [CacheWorld.entry_bump_of_ne hne]
      exact hkept key hkey
  · refine ⟨fun s hs => ?_, rfl, hbeyond, fun langId hlang hnot => ?_, fun _ _ => rfl⟩
    · obtain ⟨langId, hlang, rfl⟩ := List.mem_map.mp hs
      exact ⟨langId, hlang, rfl⟩
    · exact absurd (List.mem_map_of_mem hlang) hnot

/-- A transaction and the bumps after it. -/
theorem yields_commit_and_bump
    (q : CatalogQuery) (bookOf : CatalogResponse q → Nat) {y : Except Failure Unit}
    (hbeyond : ∀ key : CatalogKey, NothingBeyond key.text w)
    (h : ((catalogQuery q).bind fun a => bumpCatalogBookDetailCache (bookOf a)).Yields
      (cacheExec (runCatalog sql)) .database w w' y) :
    (∃ e, runCatalog sql q w.db = .error e ∧ w' = w) ∨
      ∃ db a, runCatalog sql q w.db = .ok (db, a) ∧
        DetailsBumped db (some (bookOf a)) w w' := by
  cases hrun : runCatalog sql q w.db with
  | error e =>
      have hexec : cacheExec (V := CatalogValue) (runCatalog sql) (.query q) w = .error e := by
        simp only [cacheExec, hrun]
      exact .inl ⟨e, rfl, ((yields_await_bind_error hexec).mp h).1⟩
  | ok r =>
      obtain ⟨db, a⟩ := r
      have hexec : cacheExec (V := CatalogValue) (runCatalog sql) (.query q) w =
          .ok ({ w with db := db }, a) := by
        simp only [cacheExec, hrun]
      have hbeyond₁ : ∀ key : CatalogKey, NothingBeyond key.text { w with db := db } := hbeyond
      obtain ⟨hdb, hbeyond', hbumped, hkept⟩ :=
        (yields_bumpCatalogBookDetailCache hbeyond₁ ((yields_await_bind hexec).mp h)).1
      exact .inr ⟨db, a, rfl, hdb, hbeyond', hbumped, hkept⟩

/-- A mutation commits and bumps, or throws and changes nothing. -/
theorem yields_mutation
    {m : Mutation} {y : Except Failure Unit}
    (hbeyond : ∀ key : CatalogKey, NothingBeyond key.text w)
    (h : m.service.Yields (cacheExec (runCatalog sql)) .database w w' y) :
    (∃ e, m.commit w.db = .error e ∧ w' = w) ∨
      ∃ db bookId, m.commit w.db = .ok (db, bookId) ∧ DetailsBumped db bookId w w' := by
  cases m with
  | updateBook bookId body =>
      have h := (yields_await_bind rfl).mp h
      unfold Mutation.commit
      dsimp only
      split at h
      · exact .inl ⟨_, rfl, h.1⟩
      · split_ifs at h ⊢
        · exact .inl ⟨_, rfl, h.1⟩
        · rcases yields_commit_and_bump (.updateBook bookId body) (fun _ => bookId) hbeyond h with
            ⟨e, hrun, rfl⟩ | ⟨db, a, hrun, hbumped⟩
          · refine .inl ⟨e, ?_, rfl⟩
            cases hcommit : updateBookTransaction bookId body w'.db <;>
              simp_all [runCatalog, Except.map]
          · refine .inr ⟨db, _, ?_, hbumped⟩
            cases hcommit : updateBookTransaction bookId body w.db <;>
              simp_all [runCatalog, Except.map]
  | deleteBook bookId now =>
      unfold Mutation.commit
      dsimp only
      cases hcommit : deleteBookTransaction bookId now w.db with
      | error e =>
          have hexec : cacheExec (V := CatalogValue) (runCatalog sql)
              (.query (.deleteBook bookId now)) w = .error e := by
            simp only [cacheExec, runCatalog, hcommit, Except.map]
          simp only [Mutation.service, BookStore.deleteBook, catalogQuery, command, await,
            Program.Yields, attempt, hexec, resume] at h
          exact .inl ⟨e, rfl, h.1⟩
      | ok db =>
          have hexec : cacheExec (V := CatalogValue) (runCatalog sql)
              (.query (.deleteBook bookId now)) w = .ok ({ w with db := db }, ()) := by
            simp only [cacheExec, runCatalog, hcommit, Except.map]
          simp only [Mutation.service, BookStore.deleteBook, catalogQuery, command, await,
            Program.Yields, attempt, hexec, resume] at h
          obtain ⟨rfl, -⟩ := h
          refine .inr ⟨db, none, rfl, rfl, hbeyond, ?_, fun _ _ => rfl⟩
          rintro _ ⟨_, _, ⟨⟩, _⟩
  | updatePriceVariant variantId purchaseOrderItemId nan =>
      have h := (yields_await_bind rfl).mp h
      unfold Mutation.commit
      dsimp only
      split at h
      · exact .inl ⟨_, rfl, h.1⟩
      · rename_i price _
        rcases yields_commit_and_bump (.updatePriceVariant variantId price)
          (fun bookId => bookId) hbeyond h with
          ⟨e, hrun, rfl⟩ | ⟨db, a, hrun, hbumped⟩
        · refine .inl ⟨e, ?_, rfl⟩
          simp only [runCatalog] at hrun
          rw [hrun]
          rfl
        · refine .inr ⟨db, _, ?_, hbumped⟩
          simp only [runCatalog] at hrun
          rw [hrun]
          rfl

/-! ### From one mutation to a run -/

/-- A covered mutation keeps the entries current. -/
theorem EntriesCurrent.mutate
    {m : Mutation} {y : Except Failure Unit}
    (h : EntriesCurrent sql w)
    (hcovered : MutationCovered sql w m)
    (hstep : catalogStep sql w (.mutate m y) w') :
    EntriesCurrent sql w' := by
  rcases yields_mutation h.beyond hstep with ⟨e, -, rfl⟩ | ⟨db, bookId, hcommit, hbumped⟩
  · exact h
  · refine ⟨hbumped.beyond, fun r key value hkey hvalue => ?_⟩
    rw [hbumped.db_eq]
    by_cases hdetail : DetailOf db bookId key
    · rw [hbumped.bumped key hdetail] at hvalue
      cases hvalue
    · rw [hbumped.kept key hdetail] at hvalue
      exact hcovered db bookId hcommit r key value hkey hdetail hvalue

/-- If reads are current after a mutation, it was covered. -/
theorem ReadsCurrent.covered
    {m : Mutation} {y : Except Failure Unit}
    (hbeyond : ∀ key : CatalogKey, NothingBeyond key.text w)
    (hstep : catalogStep sql w (.mutate m y) w')
    (h : ReadsCurrent sql w') :
    MutationCovered sql w m := by
  intro db bookId hcommit r key value hkey hdetail hvalue
  rcases yields_mutation hbeyond hstep with ⟨e, herror, -⟩ | ⟨db', bookId', hcommit', hbumped⟩
  · rw [hcommit] at herror
    cases herror
  · rw [hcommit] at hcommit'
    cases hcommit'
    have hread := h.entries hkey ((hbumped.kept key hdetail).trans hvalue)
    rwa [hbumped.db_eq] at hread

end Runs

/-! ### A book that is deleted -/

end BookStore
