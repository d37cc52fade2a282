import BookStore.Async.Logic
import BookStore.Catalog.BookCreation
import Mathlib.Algebra.Order.PUnit

/-!
# Slugs

Whether a slug identifies a book.  `buildUniqueSlug` searches for a slug that no
committed translation has; the translation is committed later, and no index keeps two
translations of a language from having one slug.

* `FreeSince`: no translation with this slug was committed since the search.
* `slugs_identify_runs`: where every commit meets it, slugs identify books along every run.
* `slugs_identify_alone`: it is so if the calls are served one after another.
-/

namespace BookStore
namespace BookCreation

open Async Program Logic

section Definitions

variable (sql : SqlText)

/-- Two translations of one language have one slug. -/
def SameSlug (t t' : TranslationRecord) : Prop :=
  ∃ slug, t'.slug = some slug ∧ hasSlug sql t'.languageId slug t

def SlugsApart (ts : List TranslationRecord) : Prop :=
  ts.Pairwise fun t t' => ¬ SameSlug sql t t'

/-- No two translations of a language have one slug, and at most one is found by it. -/
structure SlugsIdentify (ts : List TranslationRecord) : Prop where
  apart : SlugsApart sql ts
  found : ∀ languageId slug, (ts.filter (hasSlug sql languageId slug)).length ≤ 1

/-- No translation with this slug was committed since the search for it. -/
def FreeSince (params : CreateAdminBookTranslationParams) (ts : List TranslationRecord) :
    Prop :=
  ∀ t, t ∈ ts.drop params.seen → hasSlug sql params.languageId params.slug t = false

instance (params : CreateAdminBookTranslationParams) (ts : List TranslationRecord) :
    Decidable (FreeSince sql params ts) := by
  unfold FreeSince
  infer_instance

instance (t t' : TranslationRecord) : Decidable (SameSlug sql t t') :=
  decidable_of_iff (t'.slug.any fun slug => hasSlug sql t'.languageId slug t)
    (Option.any_eq_true ..)

instance (ts : List TranslationRecord) : Decidable (SlugsApart sql ts) := by
  unfold SlugsApart
  infer_instance

/-- What is asked of a commit -/
def CommitsInTime (db : CreationDb) (s : CreationStmt) (o : Outcome) : Prop :=
  match s with
  | .commitBook writes => o ≠ .fail → FreeSince sql writes.translation db.translations
  | .commitTranslation writes => o ≠ .fail → FreeSince sql writes.translation db.translations
  | _ => True

instance (db : CreationDb) (s : CreationStmt) (o : Outcome) :
    Decidable (CommitsInTime sql db s o) := by
  unfold CommitsInTime
  split <;> infer_instance

end Definitions

variable {sql : SqlText} {js : JsText}

/-- Slugs that are apart are found once, whatever equality of texts is. -/
theorem SlugsApart.identify
    {ts : List TranslationRecord}
    (hsql : Equivalence fun s t => sql.eq s t = true)
    (h : SlugsApart sql ts) :
    SlugsIdentify sql ts := by
  refine ⟨h, fun languageId slug => ?_⟩
  have hfound : ∀ t, t ∈ ts.filter (hasSlug sql languageId slug) →
      hasSlug sql languageId slug t = true := fun t ht => (List.mem_filter.mp ht).2
  have happart := List.Pairwise.filter (hasSlug sql languageId slug) h
  match hts : ts.filter (hasSlug sql languageId slug), hfound, happart with
  | [], _, _ =>
      simp
  | [_], _, _ =>
      simp
  | t :: t' :: _, hfound, happart =>
      have ht := hfound t (by simp)
      have ht' := hfound t' (by simp)
      refine absurd ?_ (List.rel_of_pairwise_cons happart List.mem_cons_self)
      simp only [hasSlug, Bool.and_eq_true, decide_eq_true_eq, Option.any_eq_true] at ht ht'
      obtain ⟨hlang, s, hs, heq⟩ := ht
      obtain ⟨hlang', s', hs', heq'⟩ := ht'
      refine ⟨s', hs', ?_⟩
      simp only [hasSlug, Bool.and_eq_true, decide_eq_true_eq, Option.any_eq_true]
      exact ⟨hlang.trans hlang'.symm, s, hs, hsql.trans (hsql.symm heq') heq⟩

/-! ### Statements -/

/-- The search has looked at the translations there were, and none had the slug. -/
structure Searched (sql : SqlText) (languageId : Nat) (slug : String) (seen : Nat)
    (ts : List TranslationRecord) : Prop where
  le : seen ≤ ts.length
  free : ∀ t, t ∈ ts.take seen → hasSlug sql languageId slug t = false

theorem Searched.of_prefix
    {languageId : Nat} {slug : String} {seen : Nat} {ts ts' : List TranslationRecord}
    (h : Searched sql languageId slug seen ts)
    (hts : ts <+: ts') :
    Searched sql languageId slug seen ts' := by
  obtain ⟨rest, rfl⟩ := hts
  refine ⟨h.le.trans (by simp), ?_⟩
  rw [List.take_append_of_le_length h.le]
  exact h.free

/-- A translation whose slug was free, and was not taken since, is apart from the others. -/
theorem SlugsApart.insert
    {params : CreateAdminBookTranslationParams} {ts : List TranslationRecord} {id : Nat}
    (h : SlugsApart sql ts)
    (hsearched : Searched sql params.languageId params.slug params.seen ts)
    (hsince : FreeSince sql params ts) :
    SlugsApart sql (ts ++ [params.record id]) := by
  refine List.pairwise_append.mpr ⟨h, List.pairwise_singleton _ _, ?_⟩
  rintro t ht t' ht' ⟨slug, hslug, hsame⟩
  obtain rfl := List.mem_singleton.mp ht'
  cases hslug
  have hfree : hasSlug sql params.languageId params.slug t = false := by
    rw [← List.take_append_drop params.seen ts, List.mem_append] at ht
    exact ht.elim (hsearched.free t) (hsince t)
  cases hfree.symm.trans hsame

theorem insertTranslation_eq_some
    {params : CreateAdminBookTranslationParams} {db db' : CreationDb} {t : TranslationRecord}
    (h : insertTranslation params db = some (db', t)) :
    t = params.record (db.lastTranslationId + 1) ∧
      db' = { db with
        translations := db.translations ++ [t]
        lastTranslationId := db.lastTranslationId + 1 } := by
  unfold insertTranslation at h
  split at h
  · cases h
    exact ⟨rfl, rfl⟩
  · cases h

theorem insertAuthors_frame
    (bookId : Nat) (links : List CreateBookAuthorLinkInput) (db : CreationDb) :
    ∃ bookAuthors, insertAuthors bookId links db = { db with bookAuthors := bookAuthors } := by
  refine List.foldlRecOn
    (motive := fun d : CreationDb => ∃ bookAuthors, d = { db with bookAuthors := bookAuthors })
    links _ ⟨_, rfl⟩ ?_
  rintro d ⟨bookAuthors, rfl⟩ link _
  split <;> exact ⟨_, rfl⟩

variable (sql) in
theorem insertVariants_frame
    (bookId : Nat) (items : List CreateBookVariantItemDto) (db : CreationDb) :
    ∃ variants, insertVariants sql bookId items db = { db with variants := variants } := by
  refine List.foldlRecOn
    (motive := fun d : CreationDb => ∃ variants, d = { db with variants := variants })
    items _ ⟨_, rfl⟩ ?_
  rintro d ⟨variants, rfl⟩ item _
  split <;> exact ⟨_, rfl⟩

theorem insertSpec_eq_some
    {bookId : Nat} {spec : Option BookSpec} {db db' : CreationDb}
    (h : insertSpec bookId spec db = some db') :
    ∃ specs, db' = { db with specs := specs } := by
  unfold insertSpec at h
  split at h
  · cases h
    exact ⟨db.specs, rfl⟩
  · split at h
    · cases h
      exact ⟨_, rfl⟩
    · cases h

/-- A commit adds the book with its translation and its links, and changes no author. -/
theorem commitBook_eq_some
    {writes : BookWrites} {db db' : CreationDb} {item : AdminBookItem}
    (h : commitBook sql writes db = some (db', item)) :
    item.book = writes.book ∧ db'.authors = db.authors ∧
      db'.translations =
        db.translations ++ [writes.translation.record (db.lastTranslationId + 1)] ∧
      ∃ d : CreationDb, d.authors = db.authors ∧ d.bookAuthors = db.bookAuthors ∧
        db'.bookAuthors = (insertAuthors writes.bookId writes.authors d).bookAuthors := by
  simp only [commitBook, Option.bind_eq_bind, Option.bind_eq_some_iff, Prod.exists] at h
  obtain ⟨-, -, db₁, t, hinsert, db₂, hspec, h⟩ := h
  cases h
  obtain ⟨rfl, rfl⟩ := insertTranslation_eq_some hinsert
  obtain ⟨specs, rfl⟩ := insertSpec_eq_some hspec
  obtain ⟨bookAuthors, hauthors⟩ := insertAuthors_frame writes.bookId writes.authors
    { db with
      books := db.books ++ [writes.book]
      translations := db.translations ++ [writes.translation.record (db.lastTranslationId + 1)]
      lastTranslationId := db.lastTranslationId + 1 }
  obtain ⟨variants, hvariants⟩ := insertVariants_frame sql writes.bookId
    writes.bookVariantItems _
  rw [hvariants, hauthors]
  refine ⟨rfl, rfl, rfl, _, ?_, ?_, (congrArg CreationDb.bookAuthors hauthors).symm⟩
  · rfl
  · rfl

theorem translations_commitBook
    {writes : BookWrites} {db db' : CreationDb} {item : AdminBookItem}
    (h : commitBook sql writes db = some (db', item)) :
    db'.translations =
      db.translations ++ [writes.translation.record (db.lastTranslationId + 1)] :=
  (commitBook_eq_some h).2.2.1

theorem translations_commitTranslation
    {writes : TranslationWrites} {db db' : CreationDb} {t : TranslationRecord}
    (h : commitTranslation writes db = some (db', t)) :
    db'.translations =
      db.translations ++ [writes.translation.record (db.lastTranslationId + 1)] := by
  simp only [commitTranslation, Option.bind_eq_bind, Option.bind_eq_some_iff, Prod.exists] at h
  obtain ⟨db₁, t₁, hinsert, -, -, h⟩ := h
  cases h
  obtain ⟨rfl, rfl⟩ := insertTranslation_eq_some hinsert
  rfl

theorem commitBook_of_exec
    {writes : BookWrites} {db db' : CreationDb} {item : AdminBookItem}
    (h : creationExec sql js (.commitBook writes) db = .ok (db', item)) :
    commitBook sql writes db = some (db', item) := by
  simp only [creationExec] at h
  split at h
  · rename_i hcommit
    rw [hcommit, Except.ok.inj h]
  · cases h

theorem commitTranslation_of_exec
    {writes : TranslationWrites} {db db' : CreationDb} {t : TranslationRecord}
    (h : creationExec sql js (.commitTranslation writes) db = .ok (db', t)) :
    commitTranslation writes db = some (db', t) := by
  simp only [creationExec] at h
  split at h
  · rename_i hcommit
    rw [hcommit, Except.ok.inj h]
  · cases h

/-- A statement that commits no translation -/
def CommitsNothing : CreationStmt → Prop
  | .commitBook _ => False
  | .commitTranslation _ => False
  | _ => True

theorem translations_of_commitsNothing
    {s : CreationStmt} (hs : CommitsNothing s) {db db' : CreationDb} {r : CreationResponse s}
    (h : creationExec sql js s db = .ok (db', r)) :
    db'.translations = db.translations := by
  cases s with
  | commitBook writes =>
      cases hs
  | commitTranslation writes =>
      cases hs
  | _ =>
      cases h
      rfl

/-! ### Any interleaving -/

/-- Slugs are apart, translations stay, and commits are in time. -/
def slugLogic (sql : SqlText) : Logic CreationStmt CreationDb Unit where
  inv := fun _ db => SlugsApart sql db.translations
  rely := fun db db' => db.translations <+: db'.translations
  rely_refl := fun _ => List.prefix_rfl
  rely_trans := fun _ _ _ h h' => h.trans h'
  guard := CommitsInTime sql
  done := fun _ => True

theorem harmless_commitsNothing {s : CreationStmt} (hs : CommitsNothing s)
    (K : CreationDb → Prop) :
    Harmless (slugLogic sql) (creationExec sql js) .database K s := by
  intro db _ o _ hinv _
  have hsame : (attempt (creationExec sql js) .database s o db).1.translations =
      db.translations :=
    attempt_of_exec (P := fun db db' => db'.translations = db.translations) (fun _ => rfl)
      (fun _ _ h => translations_of_commitsNothing hs h) o
  have hinv : SlugsApart sql db.translations := hinv
  refine ⟨?_, ?_⟩
  · show SlugsApart sql _
    rwa [hsame]
  · show _ <+: _
    rw [hsame]

/-- What a search ends in -/
def SearchEnds (sql : SqlText) (languageId : Nat) (x : Except CreationFailure (String × Nat))
    (_ : Unit) (db : CreationDb) : Prop :=
  ∀ slug seen, x = .ok (slug, seen) → Searched sql languageId slug seen db.translations

theorem safe_buildUniqueSlug
    {languageId : Nat} {baseSlug : String} (time : Nat) (candidate : String) (index : Nat)
    (db : CreationDb) :
    Safe (slugLogic sql) (creationExec sql js) .database (SearchEnds sql languageId)
      (buildUniqueSlug languageId baseSlug time candidate index) () db := by
  induction time generalizing candidate index db with
  | zero =>
      exact fun _ _ _ _ h => by cases h
  | succ time ih =>
      refine Safe.await_bind (StatementSafe.of_read
        (fun db => ⟨db.translations.find? (hasSlug sql languageId candidate),
          db.translations.length⟩) (fun _ => rfl) ?_ fun _ _ _ _ _ _ _ h => by cases h)
      intro v _ _ _
      dsimp only
      cases hfound : v.translations.find? (hasSlug sql languageId candidate) with
      | none =>
          rintro u (hu : v.translations <+: u.translations) slug seen h
          cases h
          refine Searched.of_prefix ⟨le_refl _, ?_⟩ hu
          rw [List.take_length]
          simpa using List.find?_eq_none.mp hfound
      | some t =>
          exact ih _ _ v

/-- A commit whose slug was searched for keeps the slugs apart if it is in time. -/
theorem safe_commit
    {s : CreationStmt} {params : CreateAdminBookTranslationParams} {db : CreationDb}
    (hcommits : ∀ db db' r, creationExec sql js s db = .ok (db', r) →
      db'.translations = db.translations ++ [params.record (db.lastTranslationId + 1)])
    (hguard : ∀ db o, CommitsInTime sql db s o → o ≠ .fail →
      FreeSince sql params db.translations)
    (hsearched : Searched sql params.languageId params.slug params.seen db.translations) :
    SafeHandler (slugLogic sql) (creationExec sql js) .database (await s) () db := by
  refine Safe.call_resume (StatementSafe.of_exec (fun _ _ _ _ _ => trivial) ?_)
  intro v _ o v' r hv hinv hg ho hexec
  have hafter := hcommits v v' r hexec
  refine ⟨(), ?_, ?_, fun _ _ => trivial, fun _ _ => trivial⟩
  · show SlugsApart sql v'.translations
    rw [hafter]
    exact SlugsApart.insert hinv (hsearched.of_prefix hv) (hguard v o hg ho)
  · show v.translations <+: v'.translations
    rw [hafter]
    exact List.prefix_append ..

/-- A search, and a commit of what it has found -/
theorem safe_search_and_commit
    {α : Type} {languageId : Nat} {baseSlug : String} {time : Nat} {db : CreationDb}
    {f : String × Nat → CreationService α}
    (hf : ∀ slug seen v, Searched sql languageId slug seen v.translations →
      SafeHandler (slugLogic sql) (creationExec sql js) .database (f (slug, seen)) () v) :
    SafeHandler (slugLogic sql) (creationExec sql js) .database
      ((buildUniqueSlug languageId baseSlug time baseSlug 2).bind f) () db := by
  refine Safe.bind ((safe_buildUniqueSlug time baseSlug 2 db).mono fun x _ v _ hx => ?_)
  cases x with
  | ok found =>
      exact hf _ _ v (hx _ _ rfl)
  | error e =>
      trivial

theorem bookAuthorsPayload_all (authors : List CreateBookAuthorDto) :
    (bookAuthorsPayload js authors).All CommitsNothing := by
  unfold bookAuthorsPayload createAuthorMany
  dsimp only
  split
  · trivial
  · refine All.bind ?_ fun _ => trivial
    split
    · trivial
    · exact All.bind (All.gather fun _ _ => trivial) fun _ => trivial

/-- A statement that commits nothing, and the rest -/
theorem safe_await_bind
    {α : Type} {s : CreationStmt} (hs : CommitsNothing s)
    {f : CreationResponse s → CreationService α} {db : CreationDb}
    (hf : ∀ r v, SafeHandler (slugLogic sql) (creationExec sql js) .database (f r) () v) :
    SafeHandler (slugLogic sql) (creationExec sql js) .database ((await s).bind f) () db :=
  Safe.bind_all trivial (All.await (harmless_commitsNothing hs _)) (fun r v _ => hf r v)
    fun _ _ => trivial

section Services

-- whether a text is blank is not computed here
attribute [local irreducible] trim

theorem safe_createBook
    (client : Client) (time : Nat) (body : CreateAdminBookRequestDto) (langId actorUserId : Nat)
    (db : CreationDb) :
    SafeHandler (slugLogic sql) (creationExec sql js) .database
      (createBook js client time body langId actorUserId) () db := by
  unfold createBook
  dsimp only
  split
  · exact fun _ _ => trivial
  refine safe_await_bind (s := .upsertPublisher _) trivial fun publisher v => ?_
  split
  · exact fun _ _ => trivial
  refine Safe.bind_all trivial ((bookAuthorsPayload_all body.authors).mono
    fun _ hs => harmless_commitsNothing hs _) (fun authors v _ => ?_) fun _ _ => trivial
  split
  swap
  · exact fun _ _ => trivial
  refine safe_await_bind (s := .drawBookId) trivial fun bookId v => ?_
  refine safe_search_and_commit fun slug seen v hsearched => ?_
  refine safe_commit (fun db db' r hexec => ?_) (fun db o hg ho => hg ho) hsearched
  exact translations_commitBook (commitBook_of_exec hexec)

theorem safe_createBookTranslation
    (time bookId : Nat) (body : CreateAdminBookTranslationRequestDto) (actorUserId : Nat)
    (ip : Option String) (db : CreationDb) :
    SafeHandler (slugLogic sql) (creationExec sql js) .database
      (createBookTranslation js time bookId body actorUserId ip) () db := by
  refine safe_await_bind (s := .resolveLanguage _) trivial fun language v => ?_
  cases language with
  | none =>
      exact fun _ _ => trivial
  | some language =>
      refine safe_await_bind (s := .findBookById _) trivial fun book v => ?_
      split
      · exact fun _ _ => trivial
      refine safe_await_bind (s := .findBookTranslationByBookIdAndLanguage _ _) trivial
        fun existed v => ?_
      split
      · exact fun _ _ => trivial
      refine safe_search_and_commit fun slug seen v hsearched => ?_
      refine safe_commit (fun db db' r hexec => ?_) (fun db o hg ho => hg ho) hsearched
      exact translations_commitTranslation (commitTranslation_of_exec hexec)

end Services

/-- A service, and its answer wrapped up -/
theorem safe_wrapped
    {α : Type} {p : CreationService α} {f : α → CreationAnswer} {db : CreationDb}
    (hp : SafeHandler (slugLogic sql) (creationExec sql js) .database p () db) :
    SafeHandler (slugLogic sql) (creationExec sql js) .database
      (p.bind fun a => ret (f a)) () db := by
  refine Safe.bind (hp.mono fun x _ v _ _ => ?_)
  cases x with
  | ok a =>
      exact fun _ _ => trivial
  | error e =>
      trivial

section Handler

-- the elaborator need not look into the services
attribute [local irreducible] createBook createBookTranslation

theorem safe_handler (r : CreationRequest) (time : Nat) (db : CreationDb) :
    SafeHandler (slugLogic sql) (creationExec sql js) .database (r.handler js time) () db := by
  cases r with
  | createBook body langId actorUserId =>
      exact safe_wrapped (safe_createBook schema time body langId actorUserId db)
  | createBookTranslation bookId body actorUserId ip =>
      exact safe_wrapped (safe_createBookTranslation time bookId body actorUserId ip db)

end Handler

/--
Along every interleaving of calls, however their statements end: if each translation is
committed before another one with its slug has been committed since its search, slugs
identify books in every state that is reached.
-/
theorem slugs_identify_runs
    (hsql : Equivalence fun s t => sql.eq s t = true)
    {db : CreationDb} {as : List (Action CreationEvent)}
    {c : Config CreationStmt CreationResponse CreationFailure CreationAnswer CreationDb}
    (hstart : SlugsApart sql db.translations)
    (hmeets : Meets (creationServer sql js).step
      (System.Conforms (fun _ _ => True) (CommitsInTime sql)) ⟨db, []⟩ as)
    (hrun : runs (creationServer sql js).step ⟨db, []⟩ as = some c) :
    SlugsIdentify sql c.world.translations := by
  have henv : EnvSafe (slugLogic sql) (creationServer sql js) (fun _ _ => True) := by
    intro db F e db' p hinv _ h
    cases h
    exact ⟨List.prefix_rfl, (), hinv, safe_handler e.request e.time db⟩
  obtain ⟨ms, -, hinv⟩ := balanced_runs henv (balanced_start hstart) hmeets hrun
  exact SlugsApart.identify hsql hinv

/-! ### Two books with one slug -/

/-- Texts in the letters of ASCII -/
def sampleJs : JsText where
  nfd := id
  toLowerCase := fun s => String.ofList (s.toList.map Char.toLower)

/-- Two books without a translation, a language and a user -/
def sampleCreation : CreationDb where
  users := [1]
  languages := [⟨1, "vi", true⟩]
  publishers := [⟨1, "Kim Đồng"⟩]
  authors := []
  books := [1, 2].map fun id =>
    { id := id, publisherId := 1, pageCount := none, coverImageUrl := none, isActive := true,
      createdBy := 1, updatedBy := 1, deletedAt := none }
  translations := []
  bookAuthors := []
  specs := []
  variants := []
  auditLogs := []
  lastPublisherId := 1
  lastAuthorId := 0
  lastBookId := 2
  lastTranslationId := 0

/-- A translation of the book is asked for; its transaction has time for three searches. -/
def titled (bookId : Nat) (title : String) : Action CreationEvent :=
  .env ⟨.createBookTranslation bookId ⟨none, title, none⟩ 1 none, 3⟩

/-- Steps of call `i` that succeed -/
def stepsOf (i n : Nat) : List (Action CreationEvent) :=
  List.replicate n (.run i 0 .ok)

/-- The second call begins when the first one has been committed. -/
def oneAfterTheOther : List (Action CreationEvent) :=
  [titled 1 "Lean"] ++ stepsOf 0 5 ++ [titled 2 "LEAN!"] ++ stepsOf 1 6

/-- Both calls have searched before the first one is committed. -/
def bothSearchFirst : List (Action CreationEvent) :=
  [titled 1 "Lean", titled 2 "LEAN!"] ++ stepsOf 0 4 ++ stepsOf 1 4 ++ stepsOf 0 1 ++ stepsOf 1 1

theorem equivalence_sampleSql : Equivalence fun s t => sampleSql.eq s t = true := by
  refine ⟨fun s => ?_, fun {s t} h => ?_, fun {s t u} h h' => ?_⟩
  · exact decide_eq_true rfl
  · exact decide_eq_true (of_decide_eq_true h).symm
  · exact decide_eq_true ((of_decide_eq_true h).trans (of_decide_eq_true h'))

theorem slugs_identify_oneAfterTheOther :
    ∃ c, runs (creationServer sampleSql sampleJs).step ⟨sampleCreation, []⟩ oneAfterTheOther =
        some c ∧
      c.world.translations.map (·.slug) = [some "lean", some "lean-2"] ∧
      SlugsIdentify sampleSql c.world.translations := by
  have hslugs : ((runs (creationServer sampleSql sampleJs).step ⟨sampleCreation, []⟩
      oneAfterTheOther).map fun c => c.world.translations.map (·.slug)) =
        some [some "lean", some "lean-2"] := by
    decide +kernel
  obtain ⟨c, hrun, hc⟩ := Option.map_eq_some_iff.mp hslugs
  exact ⟨c, hrun, hc, slugs_identify_runs equivalence_sampleSql (by decide +kernel)
    (by decide +kernel) hrun⟩

/-- Two books are found by the slug `lean`. -/
theorem raced_slugs_coincide :
    ¬ ∀ (sql : SqlText) (js : JsText) (db : CreationDb) (as : List (Action CreationEvent))
        (c : Config CreationStmt CreationResponse CreationFailure CreationAnswer CreationDb),
      (Equivalence fun s t => sql.eq s t = true) →
      SlugsApart sql db.translations →
      runs (creationServer sql js).step ⟨db, []⟩ as = some c →
      SlugsIdentify sql c.world.translations := by
  intro h
  have htwice : ((runs (creationServer sampleSql sampleJs).step ⟨sampleCreation, []⟩
      bothSearchFirst).map fun c =>
        (c.world.translations.filter (hasSlug sampleSql 1 "lean")).length) = some 2 := by
    decide +kernel
  obtain ⟨c, hrun, hc⟩ := Option.map_eq_some_iff.mp htwice
  have hfound := (h sampleSql sampleJs sampleCreation bothSearchFirst c equivalence_sampleSql
    (by decide +kernel) hrun).found 1 "lean"
  omega

/-! ### One call after another -/

section Alone

variable {faults : CreationStmt → Outcome}

variable (sql js faults) in
/-- By itself the handler keeps the slugs apart, however its statements end. -/
def KeepsApart {α : Type} (p : CreationService α) : Prop :=
  ∀ db db' x, p.Ends (creationExec sql js) .database faults db db' x →
    SlugsApart sql db.translations → SlugsApart sql db'.translations

theorem translations_of_ends
    {α : Type} {p : CreationService α} (hp : p.All CommitsNothing)
    {db db' : CreationDb} {x : Except CreationFailure α}
    (h : p.Ends (creationExec sql js) .database faults db db' x) :
    db'.translations = db.translations := by
  refine h.of_all (T := fun db db' => db'.translations = db.translations) (fun _ => rfl)
    (fun u v w (huv : v.translations = u.translations) (hvw : w.translations = v.translations) =>
      hvw.trans huv) (hp.mono fun s hs db => ?_)
  exact attempt_of_exec (P := fun db db' => db'.translations = db.translations) (fun _ => rfl)
    (fun _ _ h => translations_of_commitsNothing hs h) _

theorem KeepsApart.of_commitsNothing {α : Type} {p : CreationService α}
    (hp : p.All CommitsNothing) : KeepsApart sql js faults p := by
  intro db db' x h hdb
  rwa [translations_of_ends hp h]

theorem KeepsApart.bind
    {α β : Type} {p : CreationService α} {f : α → CreationService β}
    (hp : KeepsApart sql js faults p)
    (hf : ∀ a, KeepsApart sql js faults (f a)) :
    KeepsApart sql js faults (p.bind f) := by
  intro db db' x h hdb
  rcases ends_bind.mp h with ⟨v, a, hv, hrest⟩ | ⟨e, herror, -⟩
  · exact hf a v db' x hrest (hp db v _ hv hdb)
  · exact hp db db' _ herror hdb

/-- By itself a search has looked at every translation. -/
theorem ends_buildUniqueSlug
    {languageId : Nat} {baseSlug candidate : String} {time index : Nat} {db db' : CreationDb}
    {slug : String} {seen : Nat}
    (h : (buildUniqueSlug languageId baseSlug time candidate index).Ends (creationExec sql js)
      .database faults db db' (.ok (slug, seen))) :
    db' = db ∧ seen = db.translations.length ∧
      Searched sql languageId slug seen db.translations := by
  induction time generalizing candidate index with
  | zero =>
      cases h.2
  | succ time ih =>
      obtain ⟨-, v, search, hsearch, h⟩ := ends_bind_await_ok.mp h
      cases hsearch
      cases hfound : db.translations.find? (hasSlug sql languageId candidate) with
      | none =>
          rw [hfound] at h
          obtain ⟨rfl, hx⟩ := h
          cases hx
          refine ⟨rfl, rfl, le_refl _, ?_⟩
          rw [List.take_length]
          simpa using List.find?_eq_none.mp hfound
      | some t =>
          rw [hfound] at h
          exact ih h

theorem buildUniqueSlug_all
    (languageId : Nat) (baseSlug : String) (time : Nat) (candidate : String) (index : Nat) :
    (buildUniqueSlug languageId baseSlug time candidate index).All CommitsNothing := by
  induction time generalizing candidate index with
  | zero =>
      trivial
  | succ time ih =>
      refine All.bind (All.await trivial) fun search => ?_
      cases search.existed with
      | none =>
          trivial
      | some t =>
          exact ih _ _

/-- A commit leaves the translations as they are, or adds its own. -/
theorem translations_of_ends_commit
    {s : CreationStmt} {params : CreateAdminBookTranslationParams} {db db' : CreationDb}
    {x : Except CreationFailure (CreationResponse s)}
    (hcommits : ∀ db db' r, creationExec sql js s db = .ok (db', r) →
      db'.translations = db.translations ++ [params.record (db.lastTranslationId + 1)])
    (h : (await s).Ends (creationExec sql js) .database faults db db' x) :
    db'.translations = db.translations ∨
      db'.translations = db.translations ++ [params.record (db.lastTranslationId + 1)] := by
  obtain ⟨rfl, -⟩ := ends_await.mp h
  exact attempt_of_exec (P := fun db db' => db'.translations = db.translations ∨
    db'.translations = db.translations ++ [params.record (db.lastTranslationId + 1)])
    (fun _ => .inl rfl) (fun db' r hexec => .inr (hcommits _ _ r hexec)) _

theorem KeepsApart.search_and_commit
    {α : Type} {languageId : Nat} {baseSlug : String} {time : Nat}
    {f : String × Nat → CreationService α}
    {params : String × Nat → CreateAdminBookTranslationParams}
    (hcommits : ∀ found db db' x, (f found).Ends (creationExec sql js) .database faults db db' x →
      db'.translations = db.translations ∨
        db'.translations = db.translations ++ [(params found).record (db.lastTranslationId + 1)])
    (hparams : ∀ found, (params found).languageId = languageId ∧
      (params found).slug = found.1 ∧ (params found).seen = found.2) :
    KeepsApart sql js faults
      ((buildUniqueSlug languageId baseSlug time baseSlug 2).bind f) := by
  intro db db' x h hdb
  rcases ends_bind.mp h with ⟨v, found, hsearch, hcommit⟩ | ⟨e, herror, -⟩
  · obtain ⟨rfl, hseen, hsearched⟩ := ends_buildUniqueSlug hsearch
    obtain ⟨hlang, hslug, hseen'⟩ := hparams found
    rcases hcommits found v db' x hcommit with hsame | hadded
    · rwa [hsame]
    · rw [hadded]
      refine hdb.insert ?_ fun t ht => ?_
      · rw [hlang, hslug, hseen']
        exact hsearched
      · rw [hseen', hseen, List.drop_length] at ht
        cases ht
  · rwa [translations_of_ends (buildUniqueSlug_all ..) herror]

theorem keepsApart_handler (r : CreationRequest) (time : Nat) :
    KeepsApart sql js faults (r.handler js time) := by
  cases r with
  | createBook body langId actorUserId =>
      refine KeepsApart.bind ?_ fun item => .of_commitsNothing trivial
      unfold createBook
      dsimp only
      split
      · exact .of_commitsNothing trivial
      refine .bind (.of_commitsNothing (All.await trivial)) fun publisher => ?_
      split
      · exact .of_commitsNothing trivial
      refine .bind (.of_commitsNothing (bookAuthorsPayload_all _)) fun authors => ?_
      split
      swap
      · exact .of_commitsNothing trivial
      refine .bind (.of_commitsNothing (All.await trivial)) fun bookId => ?_
      exact KeepsApart.search_and_commit
        (fun found db db' x h => translations_of_ends_commit
          (fun _ _ _ hexec => translations_commitBook (commitBook_of_exec hexec)) h)
        fun found => ⟨rfl, rfl, rfl⟩
  | createBookTranslation bookId body actorUserId ip =>
      refine KeepsApart.bind ?_ fun created => .of_commitsNothing trivial
      refine .bind (.of_commitsNothing (All.await trivial)) fun language => ?_
      cases language with
      | none =>
          exact .of_commitsNothing trivial
      | some language =>
          refine .bind (.of_commitsNothing (All.await trivial)) fun book => ?_
          split
          · exact .of_commitsNothing trivial
          refine .bind (.of_commitsNothing (All.await trivial)) fun existed => ?_
          split
          · exact .of_commitsNothing trivial
          exact KeepsApart.search_and_commit
            (fun found db db' x h => translations_of_ends_commit (fun _ _ _ hexec =>
              translations_commitTranslation (commitTranslation_of_exec hexec)) h)
            fun found => ⟨rfl, rfl, rfl⟩

/-- A call by itself: the request, how its statements end, and what it returns -/
structure CallAlone where
  event : CreationEvent
  faults : CreationStmt → Outcome
  result : Except CreationFailure CreationAnswer

/-- Calls that are served one after another leave slugs that identify books. -/
theorem slugs_identify_alone
    (hsql : Equivalence fun s t => sql.eq s t = true)
    {db db' : CreationDb} {calls : List CallAlone}
    (hstart : SlugsApart sql db.translations)
    (h : Serves (fun db call db' =>
      (CreationRequest.handler js call.event.time call.event.request).Ends
        (creationExec sql js) .database call.faults db db' call.result) db calls db') :
    SlugsIdentify sql db'.translations := by
  refine SlugsApart.identify hsql (Serves.invariant (P := fun _ => True)
    (I := fun db => SlugsApart sql db.translations) (fun db call db' _ hdb hends => ?_)
    hstart h).1
  exact ⟨keepsApart_handler _ _ db db' _ hends hdb, trivial⟩

end Alone

end BookCreation
end BookStore
