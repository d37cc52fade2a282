import BookStore.Catalog.Slugs
import BookStore.Representatives

/-!
# The authors of a new book

Whether `createBook` links every author that its body names.  The names of the body are
grouped in lower case; `authors` has one row for names that are equal under its
collation, which is coarser.  The rows are joined to the names again in lower case, by
the spelling that is stored.

* `AuthorsLinked`: what the links of the book should be.
* `SpellingsKept`: the stored spellings are among the ones of the body.
* `createBook_authorsLinked_iff`: every commit links the authors exactly when it is so,
  whatever the client of the database knows.
* `createBook_neverLinks`: the client that is generated from the schema commits nothing.
-/

namespace BookStore
namespace BookCreation

open Async Program Representatives

/-! ### The names of a body -/

/-- The trimmed names that are not blank, with their flags -/
def namedAuthors (authors : List CreateBookAuthorDto) : List NormalizedAuthor :=
  (authors.map fun a => ⟨trim a.authorName, a.isPrimary.getD false⟩).filter
    fun e => decide (e.name ≠ "")

/-- One entry for each lower-case spelling, primary if one of its names is -/
structure NormalizedFrom (js : JsText) (entries normalized : List NormalizedAuthor) :
    Prop where
  keys : (normalized.map fun a => js.toLowerCase a.name).Nodup
  named : ∀ a, a ∈ normalized → ∃ e, e ∈ entries ∧ e.name = a.name
  covered : ∀ e, e ∈ entries →
    ∃ a, a ∈ normalized ∧ js.toLowerCase a.name = js.toLowerCase e.name
  primary : ∀ a, a ∈ normalized →
    (a.isPrimary = true ↔
      ∃ e, e ∈ entries ∧ js.toLowerCase e.name = js.toLowerCase a.name ∧ e.isPrimary = true)

/-- The map of the loop, keyed by the lower-case spelling of its names -/
structure MapsNames (js : JsText) (entries : List NormalizedAuthor)
    (m : List (String × NormalizedAuthor)) : Prop where
  keys : (m.map Prod.fst).Nodup
  keyed : ∀ p, p ∈ m → p.1 = js.toLowerCase p.2.name
  named : ∀ p, p ∈ m → ∃ e, e ∈ entries ∧ e.name = p.2.name
  covered : ∀ e, e ∈ entries → js.toLowerCase e.name ∈ m.map Prod.fst
  primary : ∀ p, p ∈ m →
    (p.2.isPrimary = true ↔
      ∃ e, e ∈ entries ∧ js.toLowerCase e.name = p.1 ∧ e.isPrimary = true)

variable {sql : SqlText} {js : JsText}

theorem mem_namedAuthors {authors : List CreateBookAuthorDto} {e : NormalizedAuthor} :
    e ∈ namedAuthors authors ↔
      ∃ a, a ∈ authors ∧ e = ⟨trim a.authorName, a.isPrimary.getD false⟩ ∧ e.name ≠ "" := by
  simp only [namedAuthors, List.mem_filter, List.mem_map, decide_eq_true_eq]
  constructor
  · rintro ⟨⟨a, ha, rfl⟩, hne⟩
    exact ⟨a, ha, rfl, hne⟩
  · rintro ⟨a, ha, rfl, hne⟩
    exact ⟨⟨a, ha, rfl⟩, hne⟩

theorem trim_trim (s : String) : trim (trim s) = trim s := by
  have hdef : ∀ s : String, trim s =
      String.ofList ((s.toList.dropWhile isWhiteSpace).rdropWhile isWhiteSpace) := fun _ => rfl
  rw [hdef (trim s), hdef s, String.toList_ofList, dropWhile_rdropWhile_dropWhile,
    List.rdropWhile_idempotent]

/-- A name enters the map under its key. -/
theorem MapsNames.set
    {entries : List NormalizedAuthor} {m : List (String × NormalizedAuthor)}
    {e v : NormalizedAuthor}
    (h : MapsNames js entries m)
    (hkey : js.toLowerCase v.name = js.toLowerCase e.name)
    (hnamed : ∃ e', e' ∈ entries ++ [e] ∧ e'.name = v.name)
    (hprimary : v.isPrimary = true ↔
      (∃ e', e' ∈ entries ∧ js.toLowerCase e'.name = js.toLowerCase e.name ∧
        e'.isPrimary = true) ∨ e.isPrimary = true) :
    MapsNames js (entries ++ [e]) (JsMap.set m (js.toLowerCase e.name) v) where
  keys := JsMap.nodup_set h.keys
  keyed := by
    intro p hp
    rcases JsMap.mem_set.mp hp with rfl | ⟨hp, -⟩
    · exact hkey.symm
    · exact h.keyed p hp
  named := by
    intro p hp
    rcases JsMap.mem_set.mp hp with rfl | ⟨hp, -⟩
    · exact hnamed
    · obtain ⟨e', he', hname⟩ := h.named p hp
      exact ⟨e', List.mem_append_left _ he', hname⟩
  covered := by
    intro e' he'
    have hmem : js.toLowerCase e'.name ∈ m.map Prod.fst ∨
        js.toLowerCase e'.name = js.toLowerCase e.name := by
      refine (List.mem_append.mp he').imp (h.covered e') fun he' => ?_
      rw [List.mem_singleton.mp he']
    rw [JsMap.keys_set]
    split
    · rename_i hthere
      exact hmem.elim id fun heq => heq ▸ hthere
    · exact List.mem_append.mpr (hmem.imp_right fun heq => List.mem_singleton.mpr heq)
  primary := by
    intro p hp
    simp only [List.mem_append, List.mem_singleton, or_and_right, exists_or, exists_eq_left]
    rcases JsMap.mem_set.mp hp with rfl | ⟨hp, hne⟩
    · simpa using hprimary
    · rw [h.primary p hp]
      exact (or_iff_left fun hlast => hne hlast.1.symm).symm

theorem namedAuthors_concat (authors : List CreateBookAuthorDto) (author : CreateBookAuthorDto) :
    namedAuthors (authors ++ [author]) =
      namedAuthors authors ++
        if trim author.authorName = "" then []
        else [⟨trim author.authorName, author.isPrimary.getD false⟩] := by
  by_cases hblank : trim author.authorName = "" <;> simp [namedAuthors, hblank]

theorem MapsNames.addAuthor
    {authors : List CreateBookAuthorDto} {m : List (String × NormalizedAuthor)}
    (h : MapsNames js (namedAuthors authors) m)
    (author : CreateBookAuthorDto) :
    MapsNames js (namedAuthors (authors ++ [author])) (addAuthor js m author) := by
  rw [namedAuthors_concat]
  unfold BookCreation.addAuthor
  dsimp only
  split
  · rwa [List.append_nil]
  · cases hexisted : JsMap.get m (js.toLowerCase (trim author.authorName)) with
    | some existed =>
        -- the first spelling stays, and the flags are added up
        have hmem := (JsMap.get_eq_some_iff h.keys).mp hexisted
        refine h.set (h.keyed _ hmem).symm ?_ ?_
        · obtain ⟨e, he, hname⟩ := h.named _ hmem
          exact ⟨e, List.mem_append_left _ he, hname⟩
        · rw [Bool.or_eq_true, h.primary _ hmem]
    | none =>
        have hnew := JsMap.get_eq_none_iff.mp hexisted
        refine h.set rfl ⟨_, by simp, rfl⟩ ?_
        refine (or_iff_right ?_).symm
        rintro ⟨e, he, hkey, -⟩
        exact hnew (hkey ▸ h.covered e he)

variable (js) in
theorem mapsNames_addAuthor (authors : List CreateBookAuthorDto) :
    MapsNames js (namedAuthors authors) (authors.foldl (addAuthor js) []) := by
  induction authors using List.reverseRecOn with
  | nil =>
      constructor <;> simp [namedAuthors]
  | append_singleton authors author ih =>
      rw [List.foldl_append, List.foldl_cons, List.foldl_nil]
      exact ih.addAuthor author

variable (js) in
theorem normalizedFrom (authors : List CreateBookAuthorDto) :
    NormalizedFrom js (namedAuthors authors) (normalizedAuthors js authors) := by
  have h := mapsNames_addAuthor js authors
  have hmem : ∀ a, a ∈ normalizedAuthors js authors →
      (js.toLowerCase a.name, a) ∈ authors.foldl (addAuthor js) [] := by
    intro a ha
    obtain ⟨p, hp, rfl⟩ := List.mem_map.mp ha
    rwa [← h.keyed p hp]
  have hkeys : (normalizedAuthors js authors).map (fun a => js.toLowerCase a.name) =
      (authors.foldl (addAuthor js) []).map Prod.fst := by
    rw [normalizedAuthors, List.map_map]
    exact List.map_congr_left fun p hp => (h.keyed p hp).symm
  refine ⟨hkeys ▸ h.keys, fun a ha => h.named _ (hmem a ha), fun e he => ?_,
    fun a ha => h.primary _ (hmem a ha)⟩
  · obtain ⟨p, hp, hkey⟩ := List.mem_map.mp (h.covered e he)
    exact ⟨p.2, List.mem_map_of_mem hp, (h.keyed p hp).symm.trans hkey⟩

/-! ### The rows of the authors -/

/-- What the indexes of the table keep; `last` is the last id that was given. -/
structure AuthorsSound (sql : SqlText) (rows : List Named) (last : Nat) : Prop where
  apart : Apart (fun s t => sql.eq s t = true) Named.defaultName rows
  ids : (rows.map Named.id).Nodup
  bounds : ∀ a, a ∈ rows → 0 < a.id ∧ a.id ≤ last

theorem AuthorsSound.eq_of_id
    {rows : List Named} {last : Nat} {a b : Named}
    (h : AuthorsSound sql rows last)
    (ha : a ∈ rows)
    (hb : b ∈ rows)
    (hid : a.id = b.id) :
    a = b :=
  List.inj_on_of_nodup_map h.ids ha hb hid

theorem ensures_upsertNamed (sql : SqlText) (name : String) (lastId : Nat) (rows : List Named) :
    Ensures (fun s t => sql.eq s t = true) Named.defaultName name rows
      (upsertNamed sql name name lastId rows).1 (upsertNamed sql name name lastId rows).2.1 := by
  unfold upsertNamed
  cases hfound : rows.find? fun row => sql.eq row.defaultName name with
  | some row =>
      have hstands := List.find?_some hfound
      exact .found (List.mem_of_find?_eq_some hfound) hstands
  | none =>
      exact .made rfl fun s hs => List.find?_eq_none.mp hfound s hs

theorem AuthorsSound.upsertNamed
    {rows : List Named} {last : Nat}
    (h : AuthorsSound sql rows last)
    (name : String) :
    AuthorsSound sql (upsertNamed sql name name last rows).1
      (BookCreation.upsertNamed sql name name last rows).2.2 := by
  refine ⟨(ensures_upsertNamed sql name last rows).apart h.apart, ?_, ?_⟩
  · unfold BookCreation.upsertNamed
    cases rows.find? fun row => sql.eq row.defaultName name with
    | some row =>
        exact h.ids
    | none =>
        rw [List.map_append, List.map_singleton]
        refine List.Nodup.append h.ids (List.nodup_singleton _)
          (List.disjoint_singleton.mpr fun hmem => ?_)
        obtain ⟨a, ha, hid⟩ := List.mem_map.mp hmem
        exact absurd (hid.symm.le.trans (h.bounds a ha).2) (Nat.not_succ_le_self last)
  · unfold BookCreation.upsertNamed
    cases rows.find? fun row => sql.eq row.defaultName name with
    | some row =>
        exact h.bounds
    | none =>
        intro a ha
        rcases List.mem_append.mp ha with ha | ha
        · exact (h.bounds a ha).imp_right Nat.le_succ_of_le
        · rw [List.mem_singleton.mp ha]
          exact ⟨Nat.succ_pos _, le_refl _⟩

section Upserts

variable (sql) in
/-- `upsertAuthor`, as a change of the state -/
def upsertedAuthor (b : String × Nat) (db : CreationDb) : CreationDb :=
  let r := upsertNamed sql b.1 b.1 db.lastAuthorId db.authors
  { db with authors := r.1, lastAuthorId := r.2.2 }

variable (sql) in
/-- The answer of `upsertAuthor` -/
def givenAuthor (b : String × Nat) (db : CreationDb) : Named :=
  (upsertNamed sql b.1 b.1 db.lastAuthorId db.authors).2.1

/-- Only the authors are another table, with the last id they were given. -/
def SameButAuthors (db db' : CreationDb) : Prop :=
  db' = { db with authors := db'.authors, lastAuthorId := db'.lastAuthorId }

/-- What the upserts of `l`, in this order, have done -/
structure Upserted (sql : SqlText) (l : List (String × Nat)) (db db' : CreationDb)
    (came : List ((String × Nat) × Named)) : Prop where
  same : SameButAuthors db db'
  sound : AuthorsSound sql db'.authors db'.lastAuthorId
  names : came.map Prod.fst = l
  ensured : EnsuresAll (fun s t => sql.eq s t = true) Named.defaultName
    (came.map fun c => (c.1.1, c.2)) db.authors db'.authors

theorem upserted_answered
    {db : CreationDb} (hdb : AuthorsSound sql db.authors db.lastAuthorId)
    (l : List (String × Nat)) :
    ∃ db' came, answered (upsertedAuthor sql) (givenAuthor sql) l db [] = (db', came) ∧
      Upserted sql l db db' came := by
  have key : ∀ (l : List (String × Nat)) (db : CreationDb) (before : List _),
      AuthorsSound sql db.authors db.lastAuthorId →
      ∃ db' came, answered (upsertedAuthor sql) (givenAuthor sql) l db before =
          (db', before ++ came) ∧ Upserted sql l db db' came := by
    intro l
    induction l with
    | nil =>
        intro db before hdb
        exact ⟨db, [], by rw [List.append_nil]; rfl, rfl, hdb, rfl, .nil⟩
    | cons b l ih =>
        intro db before hdb
        obtain ⟨db', came, hanswered, h⟩ := ih (upsertedAuthor sql b db)
          (before ++ [(b, givenAuthor sql b db)]) (hdb.upsertNamed b.1)
        refine ⟨db', (b, givenAuthor sql b db) :: came, ?_, ?_, h.sound, ?_, ?_⟩
        · rw [answered_cons, hanswered, List.append_assoc]
          rfl
        · exact h.same
        · rw [List.map_cons, h.names]
        · exact .cons (ensures_upsertNamed sql b.1 _ _) h.ensured
  exact key l db [] hdb

/-- The first name is stored as it is spelled, if no author has it. -/
theorem Upserted.first
    {name : String} {i : Nat} {l : List (String × Nat)} {db db' : CreationDb}
    {came : List ((String × Nat) × Named)}
    (h : Upserted sql ((name, i) :: l) db db' came)
    (hnone : ∀ a, a ∈ db.authors → ¬ sql.eq a.defaultName name = true) :
    ∃ a, a ∈ db'.authors ∧ a.defaultName = name := by
  obtain ⟨c, rest, hc, rfl⟩ : ∃ c rest, c.1 = (name, i) ∧ came = c :: rest := by
    have hnames := h.names
    cases came with
    | nil =>
        cases hnames
    | cons c rest =>
        exact ⟨c, rest, (List.cons.inj hnames).1, rfl⟩
  obtain ⟨b, a⟩ := c
  obtain rfl : b = (name, i) := hc
  exact ⟨a, h.ensured.first hnone⟩

/-- The names that `createBook` hands to `createAuthorMany` -/
def givenNames (js : JsText) (authors : List CreateBookAuthorDto) : List String :=
  (normalizedAuthors js authors).map NormalizedAuthor.name

/-- They are trimmed and apart in lower case, and are normalised no further. -/
theorem normalizedNames_givenNames (authors : List CreateBookAuthorDto) :
    normalizedNames js (givenNames js authors) = givenNames js authors := by
  have h := normalizedFrom js authors
  have hname : ∀ name, name ∈ givenNames js authors → trim name = name ∧ name ≠ "" := by
    intro name hname
    obtain ⟨a, ha, rfl⟩ := List.mem_map.mp hname
    obtain ⟨e, he, heq⟩ := h.named a ha
    obtain ⟨dto, -, rfl, hne⟩ := mem_namedAuthors.mp he
    rw [← heq]
    exact ⟨trim_trim _, hne⟩
  have htrim : (givenNames js authors).map trim = givenNames js authors := by
    conv_rhs => rw [← List.map_id (givenNames js authors)]
    exact List.map_congr_left fun name hmem => (hname name hmem).1
  have hfilter : (givenNames js authors).filter (fun name => decide (name ≠ "")) =
      givenNames js authors :=
    List.filter_eq_self.mpr fun name hmem => decide_eq_true (hname name hmem).2
  have hkeys : (((givenNames js authors).map fun name =>
      (js.toLowerCase name, name)).map Prod.fst).Nodup := by
    rw [List.map_map, givenNames, List.map_map]
    exact h.keys
  rw [normalizedNames, htrim, hfilter, JsMap.ofEntries_of_nodup hkeys, List.map_map]
  exact List.map_id _

theorem givenNames_eq_nil {authors : List CreateBookAuthorDto} :
    givenNames js authors = [] ↔ normalizedAuthors js authors = [] :=
  List.map_eq_nil_iff

/-- The upserts are executed in any order, and each of them has to be answered. -/
theorem ends_bookAuthorsPayload_ok
    {faults : CreationStmt → Outcome} {authors : List CreateBookAuthorDto}
    {db db' : CreationDb} {links : List CreateBookAuthorLinkInput} :
    (bookAuthorsPayload js authors).Ends (creationExec sql js) .database faults db db'
        (.ok links) ↔
      (∀ b, b ∈ (givenNames js authors).zipIdx → faults (.upsertAuthor b.1) = .ok) ∧
        ∃ l came, l.Perm (givenNames js authors).zipIdx ∧
          answered (upsertedAuthor sql) (givenAuthor sql) l db [] = (db', came) ∧
          links = authorLinks js (normalizedAuthors js authors) (inOrder came) := by
  by_cases hnil : normalizedAuthors js authors = []
  · simp only [bookAuthorsPayload, hnil, givenNames, List.map_nil, List.zipIdx_nil,
      List.isEmpty_nil, if_true, ends_ret, Except.ok.injEq, List.perm_nil]
    simp [answered, authorLinks, eq_comm]
  · have hpayload : bookAuthorsPayload js authors =
        ((gather (fun name : String × Nat => CreationStmt.upsertAuthor name.1)
          (fun _ (author : Named) => author) (givenNames js authors).zipIdx).bind
            fun came => ret (inOrder came)).bind fun created =>
              ret (authorLinks js (normalizedAuthors js authors) created) := by
      have hnames : (givenNames js authors).isEmpty = false := by
        rw [List.isEmpty_eq_false_iff, ne_eq, givenNames_eq_nil]
        exact hnil
      have hnormalized : (normalizedAuthors js authors).isEmpty = false := by
        rw [List.isEmpty_eq_false_iff]
        exact hnil
      have hmany : createAuthorMany js (givenNames js authors) =
          (gather (fun name : String × Nat => CreationStmt.upsertAuthor name.1)
            (fun _ (author : Named) => author) (givenNames js authors).zipIdx).bind
              fun came => ret (inOrder came) := by
        rw [createAuthorMany, normalizedNames_givenNames, hnames]
        rfl
      unfold bookAuthorsPayload
      dsimp only
      rw [hnormalized, ← givenNames, hmany]
      rfl
    rw [hpayload]
    simp only [ends_bind_ok, ends_ret, Except.ok.injEq]
    have hgather : ∀ {came : List ((String × Nat) × Named)} {v : CreationDb},
        (gather (fun name : String × Nat => CreationStmt.upsertAuthor name.1)
          (fun _ (author : Named) => author) (givenNames js authors).zipIdx).Ends
            (creationExec sql js) .database faults db v (.ok came) ↔
          (∀ b, b ∈ (givenNames js authors).zipIdx → faults (.upsertAuthor b.1) = .ok) ∧
            ∃ l : List (String × Nat), l.Perm (givenNames js authors).zipIdx ∧
              answered (upsertedAuthor sql) (givenAuthor sql) l db [] = (v, came) :=
      ends_gather_ok fun b w => ⟨_, rfl, rfl⟩
    simp only [hgather]
    constructor
    · rintro ⟨v, created, ⟨v', came, ⟨hfaults, l, hl, hanswered⟩, rfl, rfl⟩, rfl, rfl⟩
      exact ⟨hfaults, l, came, hl, hanswered, rfl⟩
    · rintro ⟨hfaults, l, came, hl, hanswered, rfl⟩
      exact ⟨db', _, ⟨db', came, ⟨hfaults, l, hl, hanswered⟩, rfl, rfl⟩, rfl, rfl⟩

end Upserts

/-! ### The links -/

/-- The name under which a row is found again -/
def rowKey (js : JsText) (row : Named) : String :=
  js.toLowerCase (trim row.defaultName)

theorem mem_authorLinks
    {normalized : List NormalizedAuthor} {created : List Named}
    {link : CreateBookAuthorLinkInput} :
    link ∈ authorLinks js normalized created ↔
      ∃ a id, a ∈ normalized ∧
        JsMap.get (authorIdByName js created) (js.toLowerCase a.name) = some id ∧ id ≠ 0 ∧
        link = ⟨id, a.isPrimary⟩ := by
  simp only [authorLinks, List.mem_filterMap, Option.map_eq_some_iff, Option.filter_eq_some_iff,
    decide_eq_true_eq]
  constructor
  · rintro ⟨a, ha, id, ⟨hget, hid⟩, rfl⟩
    exact ⟨a, id, ha, hget, hid, rfl⟩
  · rintro ⟨a, id, ha, hget, hid, rfl⟩
    exact ⟨a, ha, id, ⟨hget, hid⟩, rfl⟩

theorem row_of_get_authorIdByName
    {created : List Named} {key : String} {id : Nat}
    (h : JsMap.get (authorIdByName js created) key = some id) :
    ∃ row, row ∈ created ∧ rowKey js row = key ∧ row.id = id := by
  have hentry := JsMap.mem_of_mem_ofEntries
    ((JsMap.get_eq_some_iff (JsMap.nodup_ofEntries _)).mp h)
  obtain ⟨row, hrow, heq⟩ := List.mem_map.mp hentry
  cases heq
  exact ⟨row, hrow, rfl, rfl⟩

variable (js) in
theorem get_authorIdByName_of_row
    {created : List Named} {row : Named} (h : row ∈ created) :
    ∃ id, JsMap.get (authorIdByName js created) (rowKey js row) = some id := by
  refine Option.ne_none_iff_exists'.mp fun hnone => JsMap.get_eq_none_iff.mp hnone ?_
  rw [authorIdByName, JsMap.mem_keys_ofEntries, List.map_map]
  exact List.mem_map.mpr ⟨row, h, rfl⟩

section Join

variable {entries normalized : List NormalizedAuthor} {rows created : List Named} {last : Nat}

/-- A link is of a row that is found by the key of its entry. -/
theorem row_of_mem_authorLinks
    {link : CreateBookAuthorLinkInput}
    (h : link ∈ authorLinks js normalized created) :
    ∃ a row, a ∈ normalized ∧ row ∈ created ∧ rowKey js row = js.toLowerCase a.name ∧
      JsMap.get (authorIdByName js created) (js.toLowerCase a.name) = some row.id ∧
      link = ⟨row.id, a.isPrimary⟩ := by
  obtain ⟨a, id, ha, hget, -, rfl⟩ := mem_authorLinks.mp h
  obtain ⟨row, hrow, hkey, rfl⟩ := row_of_get_authorIdByName hget
  exact ⟨a, row, ha, hrow, hkey, hget, rfl⟩

/-- The entry with the key of a row that came is linked to a row with this key. -/
theorem exists_mem_authorLinks
    (hsound : AuthorsSound sql rows last)
    (hcreated : ∀ row, row ∈ created → row ∈ rows)
    {a : NormalizedAuthor} {row : Named}
    (ha : a ∈ normalized)
    (hrow : row ∈ created)
    (hkey : rowKey js row = js.toLowerCase a.name) :
    ∃ row', row' ∈ created ∧ rowKey js row' = rowKey js row ∧
      ⟨row'.id, a.isPrimary⟩ ∈ authorLinks js normalized created := by
  obtain ⟨id, hget⟩ := get_authorIdByName_of_row js hrow
  obtain ⟨row', hrow', hkey', rfl⟩ := row_of_get_authorIdByName hget
  have hpos := (hsound.bounds row' (hcreated row' hrow')).1
  exact ⟨row', hrow', hkey', mem_authorLinks.mpr ⟨a, _, ha, hkey ▸ hget, by omega, rfl⟩⟩

theorem nodup_authorLinks
    (hsound : AuthorsSound sql rows last)
    (hcreated : ∀ row, row ∈ created → row ∈ rows)
    (hkeys : (normalized.map fun a => js.toLowerCase a.name).Nodup) :
    ((authorLinks js normalized created).map CreateBookAuthorLinkInput.authorId).Nodup := by
  refine List.Pairwise.map _ (fun _ _ h => h) ?_
  refine List.Pairwise.filterMap _ ?_ (List.pairwise_map.mp hkeys)
  intro a b hab link hlink link' hlink' hid
  obtain ⟨id, hget, rfl⟩ := Option.map_eq_some_iff.mp hlink
  obtain ⟨id', hget', rfl⟩ := Option.map_eq_some_iff.mp hlink'
  obtain ⟨row, hrow, hkey, rfl⟩ :=
    row_of_get_authorIdByName (Option.filter_eq_some_iff.mp hget).1
  obtain ⟨row', hrow', hkey', rfl⟩ :=
    row_of_get_authorIdByName (Option.filter_eq_some_iff.mp hget').1
  obtain rfl := hsound.eq_of_id (hcreated row hrow) (hcreated row' hrow') hid
  exact hab (hkey.symm.trans hkey')

end Join

theorem insertAuthors_eq
    {bookId : Nat} {links : List CreateBookAuthorLinkInput} {db : CreationDb}
    (hids : ∀ link, link ∈ links → link.authorId ∈ db.authors.map Named.id)
    (hnodup : (links.map CreateBookAuthorLinkInput.authorId).Nodup)
    (hfresh : ∀ row, row ∈ db.bookAuthors → row.bookId = bookId →
      row.authorId ∉ links.map CreateBookAuthorLinkInput.authorId) :
    insertAuthors bookId links db =
      { db with bookAuthors := db.bookAuthors ++
          links.map fun link => ⟨bookId, link.authorId, link.isPrimary⟩ } := by
  induction links generalizing db with
  | nil =>
      simp [insertAuthors]
  | cons link links ih =>
      rw [List.map_cons, List.nodup_cons] at hnodup
      have hinsert : link.authorId ∈ db.authors.map Named.id ∧
          ∀ row ∈ db.bookAuthors, row.bookId = bookId → row.authorId ≠ link.authorId :=
        ⟨hids link List.mem_cons_self, fun row hrow hbook heq =>
          hfresh row hrow hbook (heq ▸ List.mem_cons_self)⟩
      rw [insertAuthors, List.foldl_cons, if_pos hinsert, ← insertAuthors, ih]
      · simp
      · exact fun link' hlink' => hids link' (List.mem_cons_of_mem _ hlink')
      · exact hnodup.2
      · intro row hrow hbook hmem
        rcases List.mem_append.mp hrow with hrow | hrow
        · exact hfresh row hrow hbook (List.mem_cons_of_mem _ hmem)
        · rw [List.mem_singleton.mp hrow] at hmem
          exact hnodup.1 hmem

/-! ### What the links should be -/

def linksOf (db : CreationDb) (bookId : Nat) : List BookAuthor :=
  db.bookAuthors.filter fun link => decide (link.bookId = bookId)

def linkedAuthors (db : CreationDb) (bookId : Nat) : List Named :=
  db.authors.filter fun a => decide (a.id ∈ (linksOf db bookId).map BookAuthor.authorId)

/-- The row stands for a name of the body. -/
def Stands (sql : SqlText) (entries : List NormalizedAuthor) (a : Named) : Prop :=
  ∃ e, e ∈ entries ∧ sql.eq a.defaultName e.name = true

/-- The row stands for a name of the body that is primary. -/
def StandsPrimary (sql : SqlText) (entries : List NormalizedAuthor) (a : Named) : Prop :=
  ∃ e, e ∈ entries ∧ sql.eq a.defaultName e.name = true ∧ e.isPrimary = true

/-- Every name is linked once, nothing else is, and the flags are those of the names. -/
structure AuthorsLinked (sql : SqlText) (entries : List NormalizedAuthor) (db : CreationDb)
    (bookId : Nat) : Prop where
  named : ∀ e, e ∈ entries →
    ∃! a, a ∈ linkedAuthors db bookId ∧ sql.eq a.defaultName e.name = true
  once : ((linksOf db bookId).map BookAuthor.authorId).Nodup
  only : ∀ link, link ∈ linksOf db bookId →
    ∃ a, a ∈ db.authors ∧ a.id = link.authorId ∧ Stands sql entries a
  primary : ∀ link a, link ∈ linksOf db bookId → a ∈ db.authors → a.id = link.authorId →
    (link.isPrimary = true ↔ StandsPrimary sql entries a)

/-- Rows that stand for a name are found by the keys of the names, with their flags. -/
structure Rejoined (sql : SqlText) (js : JsText) (entries : List NormalizedAuthor)
    (rows : List Named) : Prop where
  keyed : ∀ a, a ∈ rows → Stands sql entries a →
    ∃ e, e ∈ entries ∧ rowKey js a = js.toLowerCase e.name
  apart : ∀ a b, a ∈ rows → b ∈ rows → Stands sql entries a → Stands sql entries b →
    rowKey js a = rowKey js b → a = b
  primary : ∀ a, a ∈ rows → Stands sql entries a →
    ((∃ e, e ∈ entries ∧ rowKey js a = js.toLowerCase e.name ∧ e.isPrimary = true) ↔
      StandsPrimary sql entries a)

section Linked

variable {entries normalized : List NormalizedAuthor} {created : List Named} {last : Nat}
variable {db : CreationDb} {bookId : Nat}

/-- The links of a book, from the rows that came and what they stand for -/
structure LinksFrom (sql : SqlText) (js : JsText) (entries normalized : List NormalizedAuthor)
    (created : List Named) (db : CreationDb) (bookId : Nat) : Prop where
  from_entries : NormalizedFrom js entries normalized
  came : ∀ a, a ∈ created ↔ a ∈ db.authors ∧ Stands sql entries a
  links : linksOf db bookId =
    (authorLinks js normalized created).map fun link =>
      ⟨bookId, link.authorId, link.isPrimary⟩

namespace LinksFrom

variable (h : LinksFrom sql js entries normalized created db bookId)
include h

theorem mem_linksOf {link : BookAuthor} :
    link ∈ linksOf db bookId ↔
      ∃ l, l ∈ authorLinks js normalized created ∧
        link = ⟨bookId, l.authorId, l.isPrimary⟩ := by
  rw [h.links, List.mem_map]
  simp only [eq_comm]

theorem mem_linkedAuthors {a : Named} :
    a ∈ linkedAuthors db bookId ↔
      a ∈ db.authors ∧ ∃ flag, ⟨a.id, flag⟩ ∈ authorLinks js normalized created := by
  rw [linkedAuthors, List.mem_filter, decide_eq_true_eq, h.links, List.map_map, List.mem_map]
  refine and_congr_right fun _ => ⟨?_, ?_⟩
  · rintro ⟨⟨id, flag⟩, hl, hid⟩
    cases hid
    exact ⟨flag, hl⟩
  · rintro ⟨flag, hl⟩
    exact ⟨_, hl, rfl⟩

variable (hsound : AuthorsSound sql db.authors last)
include hsound

/-- A row that is linked came, and is found by the key of an entry that has the flag. -/
theorem of_link
    {a : Named} {flag : Bool}
    (ha : a ∈ db.authors)
    (hlink : ⟨a.id, flag⟩ ∈ authorLinks js normalized created) :
    Stands sql entries a ∧ ∃ n, n ∈ normalized ∧ n.isPrimary = flag ∧
      rowKey js a = js.toLowerCase n.name ∧
      JsMap.get (authorIdByName js created) (js.toLowerCase n.name) = some a.id := by
  obtain ⟨n, row, hn, hrow, hkey, hget, heq⟩ := row_of_mem_authorLinks hlink
  obtain ⟨hid, rfl⟩ := CreateBookAuthorLinkInput.mk.inj heq
  obtain ⟨hmem, hstands⟩ := (h.came row).mp hrow
  obtain rfl := hsound.eq_of_id ha hmem hid
  exact ⟨hstands, n, hn, rfl, hkey, hget⟩

/-- Where every row that stands for a name is linked, each is found by its own key. -/
theorem rejoined
    (hsql : Equivalence fun s t => sql.eq s t = true)
    (hlinked : AuthorsLinked sql entries db bookId) :
    Rejoined sql js entries db.authors := by
  have hlink : ∀ a, a ∈ db.authors → Stands sql entries a →
      ∃ n, n ∈ normalized ∧ rowKey js a = js.toLowerCase n.name ∧
        JsMap.get (authorIdByName js created) (js.toLowerCase n.name) = some a.id ∧
        (n.isPrimary = true ↔ StandsPrimary sql entries a) := by
    rintro a ha ⟨e, he, hstands⟩
    obtain ⟨a', ⟨hmem, hstands'⟩, -⟩ := hlinked.named e he
    obtain ⟨ha', flag, hflag⟩ := h.mem_linkedAuthors.mp hmem
    obtain rfl := hsound.apart.eq_of_stand hsql ha' ha hstands' hstands
    obtain ⟨-, n, hn, rfl, hkey, hget⟩ := h.of_link hsound ha hflag
    exact ⟨n, hn, hkey, hget,
      hlinked.primary _ a' (h.mem_linksOf.mpr ⟨_, hflag, rfl⟩) ha rfl⟩
  refine ⟨fun a ha hstands => ?_, fun a b ha hb hstands hstands' hsame => ?_,
    fun a ha hstands => ?_⟩
  · obtain ⟨n, hn, hkey, -⟩ := hlink a ha hstands
    obtain ⟨e, he, hname⟩ := h.from_entries.named n hn
    exact ⟨e, he, hname ▸ hkey⟩
  · obtain ⟨n, hn, hkey, hget, -⟩ := hlink a ha hstands
    obtain ⟨n', hn', hkey', hget', -⟩ := hlink b hb hstands'
    rw [← hkey, hsame, hkey', hget'] at hget
    exact hsound.eq_of_id ha hb (Option.some.inj hget).symm
  · obtain ⟨n, hn, hkey, -, hprimary⟩ := hlink a ha hstands
    rw [← hprimary, h.from_entries.primary n hn, hkey]
    simp only [eq_comm]

/-- Where each row is found by its own key, every name is linked. -/
theorem authorsLinked
    (hsql : Equivalence fun s t => sql.eq s t = true)
    (hstand : ∀ e, e ∈ entries →
      ∃ a, a ∈ db.authors ∧ sql.eq a.defaultName e.name = true)
    (hrejoined : Rejoined sql js entries db.authors) :
    AuthorsLinked sql entries db bookId := by
  have hcame : ∀ row, row ∈ created → row ∈ db.authors := fun row hrow =>
    ((h.came row).mp hrow).1
  refine ⟨fun e he => ?_, ?_, fun link hmem => ?_, fun link a hmem ha hid => ?_⟩
  · obtain ⟨a, ha, hae⟩ := hstand e he
    have hstands : Stands sql entries a := ⟨e, he, hae⟩
    obtain ⟨e', he', hkey⟩ := hrejoined.keyed a ha hstands
    obtain ⟨n, hn, hname⟩ := h.from_entries.covered e' he'
    obtain ⟨row, hrow, hsame, hlink⟩ := exists_mem_authorLinks hsound hcame hn
      ((h.came a).mpr ⟨ha, hstands⟩) (hkey.trans hname.symm)
    obtain ⟨hmem, hrowStands⟩ := (h.came row).mp hrow
    obtain rfl := hrejoined.apart row a hmem ha hrowStands hstands hsame
    refine ⟨row, ⟨h.mem_linkedAuthors.mpr ⟨ha, _, hlink⟩, hae⟩, ?_⟩
    rintro b ⟨hb, hbe⟩
    exact hsound.apart.eq_of_stand hsql (h.mem_linkedAuthors.mp hb).1 ha hbe hae
  · rw [h.links, List.map_map]
    exact nodup_authorLinks hsound hcame h.from_entries.keys
  · obtain ⟨l, hl, rfl⟩ := h.mem_linksOf.mp hmem
    obtain ⟨n, row, -, hrow, -, -, rfl⟩ := row_of_mem_authorLinks hl
    obtain ⟨hmem, hstands⟩ := (h.came row).mp hrow
    exact ⟨row, hmem, rfl, hstands⟩
  · obtain ⟨l, hl, rfl⟩ := h.mem_linksOf.mp hmem
    have hlink : ⟨a.id, l.isPrimary⟩ ∈ authorLinks js normalized created := by
      rw [hid]
      exact hl
    obtain ⟨hstands, n, hn, hflag, hkey, -⟩ := h.of_link hsound ha hlink
    rw [← hrejoined.primary a ha hstands, ← hflag, h.from_entries.primary n hn, hkey]
    simp only [eq_comm]

end LinksFrom

end Linked

/-! ### The spellings that are stored -/

/-- The stored rows are rejoined, and so are the rows that will be made. -/
structure SpellingsKept (sql : SqlText) (js : JsText) (entries : List NormalizedAuthor)
    (stored : List Named) : Prop extends Rejoined sql js entries stored where
  /-- A name that has the key of a stored row has a stored row. -/
  taken : ∀ a e, a ∈ stored → Stands sql entries a → e ∈ entries →
    rowKey js a = js.toLowerCase e.name →
    ∃ b, b ∈ stored ∧ sql.eq b.defaultName e.name = true
  /-- Where no row is stored, each spelling of a primary name is primary. -/
  made : ∀ e e', e ∈ entries → e' ∈ entries →
    (∀ a, a ∈ stored → sql.eq a.defaultName e.name ≠ true) →
    sql.eq e.name e'.name = true → e.isPrimary = true →
    ∃ e'', e'' ∈ entries ∧ js.toLowerCase e''.name = js.toLowerCase e'.name ∧
      e''.isPrimary = true

section Spellings

variable {entries : List NormalizedAuthor} {stored rows : List Named}
variable {answers : List (String × Named)} {last : Nat}

theorem Rejoined.of_subset
    (h : Rejoined sql js entries rows)
    (hsubset : ∀ a, a ∈ stored → a ∈ rows) :
    Rejoined sql js entries stored where
  keyed := fun a ha => h.keyed a (hsubset a ha)
  apart := fun a b ha hb => h.apart a b (hsubset a ha) (hsubset b hb)
  primary := fun a ha => h.primary a (hsubset a ha)

variable (js) in
/-- A row is stored, or it has the name of an entry and no stored row stands for it. -/
theorem stored_or_made
    (hensured : EnsuresAll (fun s t => sql.eq s t = true) Named.defaultName answers stored rows)
    (hnames : ∀ name, name ∈ answers.map Prod.fst → ∃ e, e ∈ entries ∧ e.name = name)
    (htrim : ∀ e, e ∈ entries → trim e.name = e.name)
    {a : Named} (ha : a ∈ rows) :
    a ∈ stored ∨
      ∃ e, e ∈ entries ∧ e.name = a.defaultName ∧ rowKey js a = js.toLowerCase e.name ∧
        ∀ b, b ∈ stored → sql.eq b.defaultName e.name ≠ true := by
  refine (hensured.old_or_made ha).imp_right fun ⟨hmem, hnone⟩ => ?_
  obtain ⟨e, he, hname⟩ := hnames _ hmem
  refine ⟨e, he, hname, ?_, fun b hb => hname ▸ hnone b hb⟩
  rw [rowKey, ← hname, htrim e he]

theorem SpellingsKept.rejoined
    (h : SpellingsKept sql js entries stored)
    (hsql : Equivalence fun s t => sql.eq s t = true)
    (hcase : ∀ s t, js.toLowerCase s = js.toLowerCase t → sql.eq s t = true)
    (hsound : AuthorsSound sql rows last)
    (hensured : EnsuresAll (fun s t => sql.eq s t = true) Named.defaultName answers stored rows)
    (hnames : ∀ name, name ∈ answers.map Prod.fst → ∃ e, e ∈ entries ∧ e.name = name)
    (htrim : ∀ e, e ∈ entries → trim e.name = e.name) :
    Rejoined sql js entries rows := by
  have hrow : ∀ a, a ∈ rows → _ := fun a ha =>
    stored_or_made js hensured hnames htrim ha
  -- a stored row and one that was made have different keys
  have hold : ∀ a b e, a ∈ stored → Stands sql entries a → e ∈ entries →
      rowKey js b = js.toLowerCase e.name →
      (∀ c, c ∈ stored → sql.eq c.defaultName e.name ≠ true) → rowKey js a ≠ rowKey js b := by
    intro a b e ha hstands he hkey hnone hsame
    obtain ⟨c, hc, hce⟩ := h.taken a e ha hstands he (hsame.trans hkey)
    exact hnone c hc hce
  refine ⟨fun a ha hstands => ?_, fun a b ha hb hstands hstands' hsame => ?_,
    fun a ha hstands => ?_⟩
  · rcases hrow a ha with hstored | ⟨e, he, -, hkey, -⟩
    · exact h.keyed a hstored hstands
    · exact ⟨e, he, hkey⟩
  · rcases hrow a ha with hstored | ⟨e, he, hname, hkey, hnone⟩
    · rcases hrow b hb with hstored' | ⟨e', he', -, hkey', hnone'⟩
      · exact h.apart a b hstored hstored' hstands hstands' hsame
      · exact absurd hsame (hold a b e' hstored hstands he' hkey' hnone')
    · rcases hrow b hb with hstored' | ⟨e', he', hname', hkey', -⟩
      · exact absurd hsame.symm (hold b a e hstored' hstands' he hkey hnone)
      · refine hsound.apart.eq hsql ha hb ?_
        rw [← hname, ← hname']
        exact hcase _ _ (hkey.symm.trans (hsame.trans hkey'))
  · rcases hrow a ha with hstored | ⟨e, he, hname, hkey, hnone⟩
    · exact h.primary a hstored hstands
    · constructor
      · rintro ⟨e', he', hkey', hprimary⟩
        refine ⟨e', he', ?_, hprimary⟩
        rw [← hname]
        exact hcase _ _ (hkey.symm.trans hkey')
      · rintro ⟨e', he', heq, hprimary⟩
        rw [← hname] at heq
        have hnone' : ∀ b, b ∈ stored → sql.eq b.defaultName e'.name ≠ true :=
          fun b hb hbe => hnone b hb (hsql.trans hbe (hsql.symm heq))
        obtain ⟨e'', he'', hsame, hflag⟩ :=
          h.made e' e he' he hnone' (hsql.symm heq) hprimary
        exact ⟨e'', he'', hkey.trans hsame.symm, hflag⟩

/-- Each entry without a stored row may have its own spelling stored. -/
theorem SpellingsKept.of_rejoined
    (hsql : Equivalence fun s t => sql.eq s t = true)
    (hstored : Rejoined sql js entries stored)
    (hmade : ∀ e, e ∈ entries → (∀ a, a ∈ stored → sql.eq a.defaultName e.name ≠ true) →
      ∃ rows a, Rejoined sql js entries rows ∧ (∀ b, b ∈ stored → b ∈ rows) ∧ a ∈ rows ∧
        sql.eq a.defaultName e.name = true ∧ rowKey js a = js.toLowerCase e.name) :
    SpellingsKept sql js entries stored := by
  refine ⟨hstored, fun a e ha hstands he hkey => ?_,
    fun e e' he he' hnone heq hprimary => ?_⟩
  · by_contra hnone
    have hnone : ∀ b, b ∈ stored → sql.eq b.defaultName e.name ≠ true :=
      fun b hb hbe => hnone ⟨b, hb, hbe⟩
    obtain ⟨rows, b, hrejoined, hsubset, hb, hbe, hkey'⟩ := hmade e he hnone
    obtain rfl := hrejoined.apart a b (hsubset a ha) hb hstands ⟨e, he, hbe⟩
      (hkey.trans hkey'.symm)
    exact hnone a ha hbe
  · have hnone' : ∀ a, a ∈ stored → sql.eq a.defaultName e'.name ≠ true :=
      fun a ha hae => hnone a ha (hsql.trans hae (hsql.symm heq))
    obtain ⟨rows, b, hrejoined, -, hb, hbe, hkey⟩ := hmade e' he' hnone'
    obtain ⟨e'', he'', hsame, hflag⟩ := (hrejoined.primary b hb ⟨e', he', hbe⟩).mpr
      ⟨e, he, hsql.trans hbe (hsql.symm heq), hprimary⟩
    exact ⟨e'', he'', hsame.symm.trans hkey, hflag⟩

end Spellings

/-! ### A call that commits -/

section Commits

variable {faults : CreationStmt → Outcome} {db db' v w : CreationDb}
variable {client : Client} {time : Nat} {body : CreateAdminBookRequestDto}
variable {langId actorUserId : Nat} {item : AdminBookItem} {links : List CreateBookAuthorLinkInput}

/-- The state and the publisher once the publisher has been upserted -/
def withPublisher (sql : SqlText) (js : JsText) (publisherName : String) (db : CreationDb) :
    CreationDb × Named :=
  let r := upsertNamed sql (js.toLowerCase (trim publisherName)) (trim publisherName)
    db.lastPublisherId db.publishers
  ({ db with publishers := r.1, lastPublisherId := r.2.2 }, r.2.1)

/-- The state in which the slug is searched for: the book has been given its id. -/
def withBookId (v : CreationDb) : CreationDb :=
  { v with lastBookId := v.lastBookId + 1 }

def bookWrites (body : CreateAdminBookRequestDto) (langId actorUserId publisherId : Nat)
    (v : CreationDb) (links : List CreateBookAuthorLinkInput) (found : String × Nat) :
    BookWrites where
  bookId := v.lastBookId + 1
  publisherId := publisherId
  pageCount := body.pageCount
  coverImageUrl := body.coverImageUrl
  actorUserId := actorUserId
  translation :=
    { bookId := v.lastBookId + 1
      languageId := langId
      title := body.title
      description := some body.description
      slug := found.1
      seen := found.2 }
  authors := links
  spec := body.spec
  bookVariantItems := body.bookVariantItems

/-- From where the authors are linked, the rest of the call commits. -/
structure BookCommits (sql : SqlText) (js : JsText) (faults : CreationStmt → Outcome)
    (time : Nat) (body : CreateAdminBookRequestDto) (langId actorUserId publisherId : Nat)
    (v : CreationDb) (links : List CreateBookAuthorLinkInput) (found : String × Nat)
    (db' : CreationDb) (item : AdminBookItem) : Prop where
  search : (buildUniqueSlug langId (baseSlugOf js body.title (v.lastBookId + 1)) time
      (baseSlugOf js body.title (v.lastBookId + 1)) 2).Ends (creationExec sql js) .database
    faults (withBookId v) (withBookId v) (.ok found)
  commit : commitBook sql (bookWrites body langId actorUserId publisherId v links found)
    (withBookId v) = some (db', item)

theorem exec_commitBook_of_some
    {writes : BookWrites} {r : CreationDb × AdminBookItem}
    (h : commitBook sql writes db = some r) :
    creationExec sql js (.commitBook writes) db = .ok r := by
  simp [creationExec, h]

theorem ends_createBook_ok :
    (createBook js client time body langId actorUserId).Ends (creationExec sql js) .database faults
        db db' (.ok item) ↔
      client.Knows adminBookSelect ∧
      trim body.publisherName ≠ "" ∧
      (withPublisher sql js body.publisherName db).2.id ≠ 0 ∧
      faults (.upsertPublisher (trim body.publisherName)) = .ok ∧
      faults .drawBookId = .ok ∧
      ∃ v links, (bookAuthorsPayload js body.authors).Ends (creationExec sql js) .database
          faults (withPublisher sql js body.publisherName db).1 v (.ok links) ∧
        ∃ found,
          BookCommits sql js faults time body langId actorUserId
            (withPublisher sql js body.publisherName db).2.id v links found db' item ∧
          faults (.commitBook (bookWrites body langId actorUserId
            (withPublisher sql js body.publisherName db).2.id v links found)) = .ok := by
  have hpublisher : creationExec sql js (.upsertPublisher (trim body.publisherName)) db =
      .ok (withPublisher sql js body.publisherName db) := rfl
  generalize withPublisher sql js body.publisherName db = start at hpublisher ⊢
  obtain ⟨v₀, publisher⟩ := start
  have hdraw : ∀ v, creationExec sql js .drawBookId v =
      .ok (withBookId v, v.lastBookId + 1) := fun _ => rfl
  unfold createBook
  dsimp only
  by_cases hname : trim body.publisherName = ""
  · simp [hname]
  rw [if_neg hname]
  constructor
  · intro h
    obtain ⟨hfault, v₁, publisher', hexec, h⟩ := ends_bind_await_ok.mp h
    obtain ⟨rfl, rfl⟩ := Prod.mk.inj (Except.ok.inj (hpublisher.symm.trans hexec))
    by_cases hid : publisher.id = 0
    · rw [if_pos hid] at h
      cases h.2
    rw [if_neg hid] at h
    obtain ⟨v, links, hpayload, h⟩ := ends_bind_ok.mp h
    by_cases hknows : client.Knows adminBookSelect
    swap
    · rw [if_neg hknows] at h
      cases h.2
    rw [if_pos hknows] at h
    obtain ⟨hfaultDraw, v₁, bookId, hexec, h⟩ := ends_bind_await_ok.mp h
    obtain ⟨rfl, rfl⟩ := Prod.mk.inj (Except.ok.inj ((hdraw v).symm.trans hexec))
    obtain ⟨v₂, found, hsearch, h⟩ := ends_bind_ok.mp h
    obtain ⟨rfl, -⟩ := ends_buildUniqueSlug hsearch
    obtain ⟨hfaultCommit, hexec⟩ := ends_await_ok.mp h
    exact ⟨hknows, hname, hid, hfault, hfaultDraw, v, links, hpayload, found,
      ⟨hsearch, commitBook_of_exec hexec⟩, hfaultCommit⟩
  · rintro ⟨hknows, -, hid, hfault, hfaultDraw, v, links, hpayload, found, ⟨hsearch, hcommit⟩,
      hfaultCommit⟩
    refine ends_bind_await_ok.mpr ⟨hfault, _, _, hpublisher, ?_⟩
    rw [if_neg hid]
    refine ends_bind_ok.mpr ⟨v, links, hpayload, ?_⟩
    rw [if_pos hknows]
    refine ends_bind_await_ok.mpr ⟨hfaultDraw, _, _, hdraw v, ?_⟩
    refine ends_bind_ok.mpr ⟨_, found, hsearch, ?_⟩
    refine ends_await_ok.mpr ⟨hfaultCommit, ?_⟩
    exact exec_commitBook_of_some hcommit

/-- A search reads the translations only, whatever may fail elsewhere. -/
theorem ends_buildUniqueSlug_congr
    {languageId time index : Nat} {baseSlug candidate : String} {found : String × Nat}
    (h : (buildUniqueSlug languageId baseSlug time candidate index).Ends (creationExec sql js)
      .database faults v db' (.ok found))
    (hw : w.translations = v.translations) :
    (buildUniqueSlug languageId baseSlug time candidate index).Ends (creationExec sql js)
      .database (fun _ => .ok) w w (.ok found) := by
  induction time generalizing candidate index with
  | zero =>
      cases h.2
  | succ time ih =>
      obtain ⟨-, v', search, hsearch, h⟩ := ends_bind_await_ok.mp h
      cases hsearch
      refine ends_bind_await_ok.mpr ⟨rfl, w, _, rfl, ?_⟩
      rw [← hw] at h
      cases hfound : w.translations.find? (hasSlug sql languageId candidate) with
      | none =>
          rw [hfound] at h
          exact ⟨rfl, h.2⟩
      | some t =>
          rw [hfound] at h
          exact ih h

theorem insertTranslation_congr
    {params : CreateAdminBookTranslationParams} {t : TranslationRecord}
    (h : insertTranslation params v = some (db', t))
    (hlanguages : w.languages = v.languages)
    (hbooks : w.books = v.books)
    (htranslations : w.translations = v.translations) :
    ∃ r, insertTranslation params w = some r := by
  unfold insertTranslation at h ⊢
  rw [hlanguages, hbooks, htranslations]
  split at h
  · rename_i hcond
    rw [if_pos hcond]
    exact ⟨_, rfl⟩
  · cases h

theorem insertSpec_congr
    {bookId : Nat} {spec : Option BookSpec}
    (h : insertSpec bookId spec v = some db')
    (w : CreationDb) :
    ∃ w', insertSpec bookId spec w = some w' := by
  unfold insertSpec at h ⊢
  cases spec with
  | none =>
      exact ⟨w, rfl⟩
  | some spec =>
      dsimp only at h ⊢
      split at h
      · rename_i hfits
        rw [if_pos hfits]
        exact ⟨_, rfl⟩
      · cases h

/-- Whether a book is committed does not depend on the authors. -/
theorem commitBook_congr
    {writes : BookWrites}
    (h : commitBook sql writes v = some (db', item))
    (hvw : SameButAuthors v w)
    (links : List CreateBookAuthorLinkInput) :
    ∃ w' item', commitBook sql { writes with authors := links } w = some (w', item') := by
  obtain ⟨rows, last, rfl⟩ : ∃ rows last,
      w = { v with authors := rows, lastAuthorId := last } := ⟨_, _, hvw⟩
  simp only [commitBook, Option.bind_eq_bind, Option.bind_eq_some_iff, Prod.exists] at h ⊢
  obtain ⟨u, hguard, db₁, t, hinsert, db₂, hspec, -⟩ := h
  obtain ⟨⟨w₁, t'⟩, hinsert'⟩ := insertTranslation_congr
    (w := { v with
      books := v.books ++ [writes.book]
      authors := rows
      lastAuthorId := last }) hinsert rfl rfl rfl
  obtain ⟨w₂, hspec'⟩ := insertSpec_congr hspec (insertAuthors writes.bookId links w₁)
  exact ⟨_, _, u, hguard, w₁, t', hinsert', w₂, hspec', rfl⟩

/-- A book that can be committed can be committed with other authors. -/
theorem BookCommits.congr
    {publisherId : Nat} {found : String × Nat}
    (h : BookCommits sql js faults time body langId actorUserId publisherId v links found
      db' item)
    (hvw : SameButAuthors v w)
    (links' : List CreateBookAuthorLinkInput) :
    ∃ w' item', BookCommits sql js (fun _ => .ok) time body langId actorUserId publisherId w
      links' found w' item' := by
  have hbook : w.lastBookId = v.lastBookId := by rw [hvw]
  have htranslations : (withBookId w).translations = (withBookId v).translations := by
    rw [hvw]
    rfl
  have hsame : SameButAuthors (withBookId v) (withBookId w) := by
    rw [SameButAuthors, withBookId, hvw]
    rfl
  obtain ⟨w', item', hcommit⟩ := commitBook_congr h.commit hsame links'
  refine ⟨w', item', ?_, ?_⟩
  · rw [hbook]
    exact ends_buildUniqueSlug_congr h.search htranslations
  · rw [← hcommit]
    simp only [bookWrites, hbook]

/-- What the keys and the indexes of the tables keep -/
structure TablesSound (sql : SqlText) (db : CreationDb) : Prop where
  authors : AuthorsSound sql db.authors db.lastAuthorId
  links : ∀ link, link ∈ db.bookAuthors → link.bookId ≤ db.lastBookId

theorem mem_inOrder {came : List ((String × Nat) × Named)} {a : Named} :
    a ∈ inOrder came ↔ ∃ b, (b, a) ∈ came := by
  simp only [inOrder, List.mem_map, orderBy, List.mem_insertionSort, Prod.exists,
    exists_eq_right]

section Came

variable {l : List (String × Nat)} {came : List ((String × Nat) × Named)}
variable {authors : List CreateBookAuthorDto}

/-- The row that came for a name is there, and stands for it. -/
theorem Upserted.stands
    (h : Upserted sql l db v came)
    (hsql : Equivalence fun s t => sql.eq s t = true)
    {b : String × Nat} {a : Named}
    (ha : (b, a) ∈ came) :
    b ∈ l ∧ a ∈ v.authors ∧ sql.eq a.defaultName b.1 = true :=
  ⟨h.names ▸ List.mem_map_of_mem (f := Prod.fst) ha,
    h.ensured.answer hsql (List.mem_map.mpr ⟨_, ha, rfl⟩)⟩

/-- For every name of the body a row came. -/
theorem Upserted.exists_came
    (h : Upserted sql l db v came)
    (hsql : Equivalence fun s t => sql.eq s t = true)
    (hcase : ∀ s t, js.toLowerCase s = js.toLowerCase t → sql.eq s t = true)
    (hl : l.Perm (givenNames js authors).zipIdx)
    {e : NormalizedAuthor}
    (he : e ∈ namedAuthors authors) :
    ∃ b a, (b, a) ∈ came ∧ a ∈ v.authors ∧ sql.eq a.defaultName e.name = true := by
  obtain ⟨n, hn, hkey⟩ := (normalizedFrom js authors).covered e he
  obtain ⟨i, hi⟩ := List.mem_iff_getElem?.mp
    (List.mem_map_of_mem (f := NormalizedAuthor.name) hn)
  have hmem : (n.name, i) ∈ came.map Prod.fst := by
    rw [h.names]
    exact hl.mem_iff.mpr (List.mem_zipIdx_iff_getElem?.mpr hi)
  obtain ⟨⟨b, a⟩, hcame, rfl⟩ := List.mem_map.mp hmem
  obtain ⟨-, ha, hstands⟩ := h.stands hsql hcame
  exact ⟨_, a, hcame, ha, hsql.trans hstands (hcase _ _ hkey)⟩

/-- The names that were upserted are names of the body. -/
theorem exists_named_of_mem
    (hl : l.Perm (givenNames js authors).zipIdx)
    {b : String × Nat}
    (hb : b ∈ l) :
    ∃ e, e ∈ namedAuthors authors ∧ e.name = b.1 := by
  obtain ⟨n, hn, hname⟩ := List.mem_map.mp
    (List.mem_of_getElem? (List.mem_zipIdx_iff_getElem?.mp (hl.mem_iff.mp hb)))
  obtain ⟨e, he, heq⟩ := (normalizedFrom js authors).named n hn
  exact ⟨e, he, heq.trans hname⟩

/-- What came are the rows that stand for a name of the body. -/
theorem Upserted.mem_inOrder
    (h : Upserted sql l db v came)
    (hsql : Equivalence fun s t => sql.eq s t = true)
    (hcase : ∀ s t, js.toLowerCase s = js.toLowerCase t → sql.eq s t = true)
    (hl : l.Perm (givenNames js authors).zipIdx)
    (a : Named) :
    a ∈ inOrder came ↔ a ∈ v.authors ∧ Stands sql (namedAuthors authors) a := by
  rw [BookCreation.mem_inOrder]
  constructor
  · rintro ⟨b, hcame⟩
    obtain ⟨hb, ha, hstands⟩ := h.stands hsql hcame
    obtain ⟨e, he, hname⟩ := exists_named_of_mem hl hb
    exact ⟨ha, e, he, hname ▸ hstands⟩
  · rintro ⟨ha, e, he, hae⟩
    obtain ⟨b, a', hcame, ha', hstands⟩ := h.exists_came hsql hcase hl he
    obtain rfl := h.sound.apart.eq_of_stand hsql ha' ha hstands hae
    exact ⟨b, hcame⟩

end Came

/-- The links of a book that is committed -/
theorem BookCommits.linksFrom
    {publisherId : Nat} {found : String × Nat} {created : List Named}
    (h : BookCommits sql js faults time body langId actorUserId publisherId v
      (authorLinks js (normalizedAuthors js body.authors) created) found db' item)
    (hv : TablesSound sql v)
    (hcreated : ∀ a, a ∈ created ↔ a ∈ v.authors ∧ Stands sql (namedAuthors body.authors) a) :
    db'.authors = v.authors ∧
      LinksFrom sql js (namedAuthors body.authors) (normalizedAuthors js body.authors) created
        db' item.book.id := by
  obtain ⟨hitem, hauthors, -, d, hd, hdLinks, hlinks⟩ := commitBook_eq_some h.commit
  have hcame : ∀ row, row ∈ created → row ∈ v.authors := fun row hrow =>
    ((hcreated row).mp hrow).1
  have hfrom := normalizedFrom js body.authors
  have hfresh : ∀ link, link ∈ v.bookAuthors → link.bookId ≠ v.lastBookId + 1 := by
    intro link hlink heq
    have := hv.links link hlink
    omega
  have hbookAuthors : db'.bookAuthors = v.bookAuthors ++
      (authorLinks js (normalizedAuthors js body.authors) created).map fun link =>
        ⟨v.lastBookId + 1, link.authorId, link.isPrimary⟩ := by
    rw [hlinks, insertAuthors_eq]
    · rw [hdLinks]
      rfl
    · intro link hlink
      obtain ⟨n, row, -, hrow, -, -, rfl⟩ := row_of_mem_authorLinks hlink
      rw [hd]
      exact List.mem_map_of_mem (hcame row hrow)
    · exact nodup_authorLinks hv.authors hcame hfrom.keys
    · intro link hlink hbook
      rw [hdLinks] at hlink
      exact absurd hbook (hfresh link hlink)
  refine ⟨hauthors, hfrom, fun a => by rw [hauthors]; exact hcreated a, ?_⟩
  rw [hitem]
  show linksOf db' (v.lastBookId + 1) = _
  rw [linksOf, hbookAuthors, List.filter_append, List.filter_eq_nil_iff.mpr, List.nil_append,
    List.filter_eq_self.mpr]
  · rfl
  · intro link hlink
    obtain ⟨l, -, rfl⟩ := List.mem_map.mp hlink
    exact decide_eq_true rfl
  · exact fun link hlink => by simpa using hfresh link hlink

theorem BookCommits.authorsLinked_iff
    (hsql : Equivalence fun s t => sql.eq s t = true)
    (hcase : ∀ s t, js.toLowerCase s = js.toLowerCase t → sql.eq s t = true)
    {l : List (String × Nat)} {came : List ((String × Nat) × Named)}
    {publisherId : Nat} {found : String × Nat}
    (hw : TablesSound sql w)
    (hl : l.Perm (givenNames js body.authors).zipIdx)
    (hupserted : Upserted sql l w v came)
    (h : BookCommits sql js faults time body langId actorUserId publisherId v
      (authorLinks js (normalizedAuthors js body.authors) (inOrder came)) found db' item) :
    AuthorsLinked sql (namedAuthors body.authors) db' item.book.id ↔
      Rejoined sql js (namedAuthors body.authors) v.authors := by
  have hv : TablesSound sql v := by
    refine ⟨hupserted.sound, ?_⟩
    rw [hupserted.same]
    exact hw.links
  obtain ⟨hauthors, hlinks⟩ := h.linksFrom hv (hupserted.mem_inOrder hsql hcase hl)
  have hsound : AuthorsSound sql db'.authors v.lastAuthorId := hauthors ▸ hv.authors
  have hstand : ∀ e, e ∈ namedAuthors body.authors →
      ∃ a, a ∈ db'.authors ∧ sql.eq a.defaultName e.name = true := by
    intro e he
    obtain ⟨-, a, -, ha, hae⟩ := hupserted.exists_came hsql hcase hl he
    exact ⟨a, hauthors ▸ ha, hae⟩
  rw [← hauthors]
  exact ⟨hlinks.rejoined hsound hsql, hlinks.authorsLinked hsound hsql hstand⟩

end Commits

variable (js) in
/-- The state in which the authors are upserted has the authors and links from before. -/
theorem TablesSound.withPublisher
    {db : CreationDb} (h : TablesSound sql db) (publisherName : String) :
    TablesSound sql (withPublisher sql js publisherName db).1 :=
  ⟨h.authors, h.links⟩

section Calls

-- the elaborator need not look into the service
attribute [local irreducible] createBook trim

/-- A call that commits can commit after every order of the upserts. -/
theorem commits_inAnyOrder
    {db db' : CreationDb} (hdb : TablesSound sql db)
    {client : Client} {faults : CreationStmt → Outcome} {time : Nat}
    {body : CreateAdminBookRequestDto} {langId actorUserId : Nat} {item : AdminBookItem}
    (hends : (createBook js client time body langId actorUserId).Ends (creationExec sql js)
      .database faults db db' (.ok item)) :
    ∃ found, ∀ l, l.Perm (givenNames js body.authors).zipIdx → ∃ v came w' item',
      Upserted sql l (withPublisher sql js body.publisherName db).1 v came ∧
      BookCommits sql js (fun _ => .ok) time body langId actorUserId
        (withPublisher sql js body.publisherName db).2.id v
        (authorLinks js (normalizedAuthors js body.authors) (inOrder came)) found w' item' ∧
      (createBook js client time body langId actorUserId).Ends (creationExec sql js) .database
        (fun _ => .ok) db w' (.ok item') := by
  have hstart := hdb.withPublisher js body.publisherName
  obtain ⟨hknows, hname, hid, -, -, v, links, hpayload, found, hcommits, -⟩ :=
    ends_createBook_ok.mp hends
  obtain ⟨-, l, came, -, hanswered, rfl⟩ := ends_bookAuthorsPayload_ok.mp hpayload
  obtain ⟨v₀, came₀, hanswered₀, hupserted₀⟩ := upserted_answered hstart.authors l
  obtain ⟨rfl, rfl⟩ := Prod.mk.inj (hanswered₀.symm.trans hanswered)
  refine ⟨found, fun l' hl' => ?_⟩
  obtain ⟨v', came', hanswered', hupserted⟩ := upserted_answered hstart.authors l'
  have hsame : SameButAuthors v₀ v' := by
    rw [SameButAuthors, hupserted.same, hupserted₀.same]
  obtain ⟨w', item', hcommits'⟩ := hcommits.congr hsame
    (authorLinks js (normalizedAuthors js body.authors) (inOrder came'))
  exact ⟨v', came', w', item', hupserted, hcommits', ends_createBook_ok.mpr
    ⟨hknows, hname, hid, rfl, rfl, v', _,
      ends_bookAuthorsPayload_ok.mpr ⟨fun _ _ => rfl, l', came', hl', hanswered', rfl⟩,
      found, hcommits', rfl⟩⟩

/--
Every commit of `createBook` links each author that the body names, once, no other, and
with the right flag, whatever the order of the upserts: exactly when the stored spellings
are kept, or nothing can be committed.
-/
theorem createBook_authorsLinked_iff
    (hsql : Equivalence fun s t => sql.eq s t = true)
    (hcase : ∀ s t, js.toLowerCase s = js.toLowerCase t → sql.eq s t = true)
    {db : CreationDb} (hdb : TablesSound sql db)
    (client : Client) (time : Nat) (body : CreateAdminBookRequestDto) (langId actorUserId : Nat) :
    (∀ faults db' item,
      (createBook js client time body langId actorUserId).Ends (creationExec sql js) .database
        faults db db' (.ok item) →
      AuthorsLinked sql (namedAuthors body.authors) db' item.book.id) ↔
    ((∃ faults db' item,
      (createBook js client time body langId actorUserId).Ends (creationExec sql js) .database
        faults db db' (.ok item)) →
      SpellingsKept sql js (namedAuthors body.authors) db.authors) := by
  have hstart := hdb.withPublisher js body.publisherName
  constructor
  · rintro hall ⟨faults, db', item, hends⟩
    obtain ⟨found, hany⟩ := commits_inAnyOrder hdb hends
    have hrejoins : ∀ l, l.Perm (givenNames js body.authors).zipIdx →
        ∃ v came, Upserted sql l (withPublisher sql js body.publisherName db).1 v came ∧
          Rejoined sql js (namedAuthors body.authors) v.authors := by
      intro l hl
      obtain ⟨v, came, w', item', hupserted, hcommits, hends'⟩ := hany l hl
      exact ⟨v, came, hupserted,
        (hcommits.authorsLinked_iff hsql hcase hstart hl hupserted).mp (hall _ w' item' hends')⟩
    refine SpellingsKept.of_rejoined hsql ?_ fun e he hnone => ?_
    · obtain ⟨v, came, hupserted, hrejoined⟩ := hrejoins _ (.refl _)
      exact hrejoined.of_subset fun a ha => hupserted.ensured.kept.subset ha
    · -- the spelling of this entry is the first to be upserted
      obtain ⟨n, hn, hkey⟩ := (normalizedFrom js body.authors).covered e he
      obtain ⟨e', he', hname'⟩ := (normalizedFrom js body.authors).named n hn
      obtain ⟨i, hi⟩ := List.mem_iff_getElem?.mp
        (List.mem_map_of_mem (f := NormalizedAuthor.name) hn)
      have hmem : (n.name, i) ∈ (givenNames js body.authors).zipIdx :=
        List.mem_zipIdx_iff_getElem?.mpr hi
      obtain ⟨v, came, hupserted, hrejoined⟩ := hrejoins _ (List.perm_cons_erase hmem).symm
      obtain ⟨a, ha, hlabel⟩ := hupserted.first fun s hs hsn =>
        hnone s hs (hsql.trans hsn (hcase _ _ hkey))
      have htrim : trim n.name = n.name := by
        obtain ⟨dto, -, rfl, -⟩ := mem_namedAuthors.mp he'
        rw [← hname']
        exact trim_trim _
      refine ⟨v.authors, a, hrejoined, fun b hb => hupserted.ensured.kept.subset hb, ha, ?_, ?_⟩
      · rw [hlabel]
        exact hcase _ _ hkey
      · rw [rowKey, hlabel, htrim, hkey]
  · intro hkept faults db' item hends
    have hspellings := hkept ⟨faults, db', item, hends⟩
    obtain ⟨-, -, -, -, -, v, links, hpayload, found, hcommits, -⟩ := ends_createBook_ok.mp hends
    obtain ⟨-, l, came, hl, hanswered, rfl⟩ := ends_bookAuthorsPayload_ok.mp hpayload
    obtain ⟨v₀, came₀, hanswered₀, hupserted⟩ := upserted_answered hstart.authors l
    obtain ⟨rfl, rfl⟩ := Prod.mk.inj (hanswered₀.symm.trans hanswered)
    refine (hcommits.authorsLinked_iff hsql hcase hstart hl hupserted).mpr
      (hspellings.rejoined hsql hcase hupserted.sound hupserted.ensured ?_ ?_)
    · intro name hname
      obtain ⟨b, hb, rfl⟩ := List.mem_map.mp hname
      obtain ⟨c, hc, rfl⟩ := List.mem_map.mp hb
      exact exists_named_of_mem hl (hupserted.names ▸ List.mem_map_of_mem (f := Prod.fst) hc)
    · intro e he
      obtain ⟨dto, -, rfl, -⟩ := mem_namedAuthors.mp he
      exact trim_trim _

/-! ### The generated client -/

/-- Letters without their case and two of the accents -/
def plainLetters (s : String) : List Char :=
  (sampleJs.toLowerCase s).toList.map fun c => if c = 'ô' then 'o' else if c = 'à' then 'a' else c

/-- Texts are equal if their plain letters are. -/
def accentBlind : SqlText :=
  { sampleSql with eq := fun s t => decide (plainLetters s = plainLetters t) }

theorem accentBlind_eq_iff {s t : String} :
    accentBlind.eq s t = true ↔ plainLetters s = plainLetters t := by
  dsimp only [accentBlind]
  exact decide_eq_true_iff

theorem equivalence_accentBlind : Equivalence fun s t => accentBlind.eq s t = true := by
  simp only [accentBlind_eq_iff]
  exact ⟨fun _ => rfl, Eq.symm, Eq.trans⟩

theorem accentBlind_of_lowerCase (s t : String)
    (h : sampleJs.toLowerCase s = sampleJs.toLowerCase t) : accentBlind.eq s t = true := by
  rw [accentBlind_eq_iff, plainLetters, plainLetters, h]

/-- One author is stored. -/
def sampleAuthors : CreationDb :=
  { sampleCreation with authors := [⟨1, "Tô Hoài"⟩], lastAuthorId := 1 }

/-- A body that names one author -/
def namesAuthor (authorName : String) : CreateAdminBookRequestDto :=
  { title := "Lean", description := "", publisherName := "Kim Đồng",
    authors := [⟨authorName, some true⟩], spec := none, pageCount := none,
    coverImageUrl := none, bookVariantItems := [] }

theorem tablesSound_sampleAuthors : TablesSound accentBlind sampleAuthors := by
  refine ⟨⟨List.pairwise_singleton _ _, List.nodup_singleton _, ?_⟩, fun _ h => (by cases h)⟩
  intro a ha
  rw [List.mem_singleton.mp ha]
  decide

/-- The only stored author is spelled as in the body. -/
theorem spellingsKept_sampleAuthors :
    SpellingsKept accentBlind sampleJs (namedAuthors (namesAuthor "Tô Hoài").authors)
      sampleAuthors.authors := by
  have hentries : namedAuthors (namesAuthor "Tô Hoài").authors = [⟨"Tô Hoài", true⟩] := by
    decide +kernel
  have hkey : rowKey sampleJs ⟨1, "Tô Hoài"⟩ = sampleJs.toLowerCase "Tô Hoài" := by
    decide +kernel
  rw [hentries]
  refine ⟨⟨?_, ?_, ?_⟩, ?_, ?_⟩
  · intro a ha _
    rw [List.mem_singleton.mp ha]
    exact ⟨_, List.mem_cons_self, hkey⟩
  · intro a b ha hb _ _ _
    rw [List.mem_singleton.mp ha, List.mem_singleton.mp hb]
  · intro a ha _
    rw [List.mem_singleton.mp ha]
    exact ⟨fun _ => ⟨_, List.mem_cons_self, equivalence_accentBlind.refl _, rfl⟩,
      fun _ => ⟨_, List.mem_cons_self, hkey, rfl⟩⟩
  · intro a e _ _ he _
    rw [List.mem_singleton.mp he]
    exact ⟨_, List.mem_cons_self, equivalence_accentBlind.refl _⟩
  · intro e e' he he' _ _ _
    rw [List.mem_singleton.mp he']
    exact ⟨_, List.mem_cons_self, rfl, rfl⟩

/-- The client from before `cost_price` was dropped -/
def withCostPrice : Client
  | .bookVariant => "costPrice" :: schema .bookVariant
  | model => schema model

theorem createBook_authorsLinked_sameSpelling :
    ∃ db' item, (createBook sampleJs withCostPrice 3 (namesAuthor "Tô Hoài") 1 1).Ends
        (creationExec accentBlind sampleJs) .database (fun _ => .ok) sampleAuthors db'
        (.ok item) ∧
      AuthorsLinked accentBlind (namedAuthors (namesAuthor "Tô Hoài").authors) db'
        item.book.id := by
  have hcommitted : ((createBook sampleJs withCostPrice 3 (namesAuthor "Tô Hoài") 1 1).alone
      (creationExec accentBlind sampleJs) .database sampleAuthors).bind
        (fun r => r.2.toOption.map fun item => item.book.id) = some 3 := by
    decide +kernel
  obtain ⟨⟨db', x⟩, hr, hitem⟩ := Option.bind_eq_some_iff.mp hcommitted
  cases x with
  | error e =>
      cases hitem
  | ok item =>
      have hends := yields_iff_ends.mp (yields_of_alone hr)
      exact ⟨db', item, hends,
        (createBook_authorsLinked_iff equivalence_accentBlind accentBlind_of_lowerCase
          tablesSound_sampleAuthors withCostPrice 3 _ 1 1).mpr
            (fun _ => spellingsKept_sampleAuthors) _ _ _ hends⟩

/-- `To Hoai` is stored as `Tô Hoài`, and the book has no author. -/
theorem respelled_author_vanishes :
    ¬ ∀ (client : Client) (sql : SqlText) (js : JsText) (db db' : CreationDb) (time : Nat)
        (body : CreateAdminBookRequestDto) (langId actorUserId : Nat) (item : AdminBookItem),
      (Equivalence fun s t => sql.eq s t = true) →
      (∀ s t, js.toLowerCase s = js.toLowerCase t → sql.eq s t = true) →
      TablesSound sql db →
      (createBook js client time body langId actorUserId).Ends (creationExec sql js) .database
        (fun _ => .ok) db db' (.ok item) →
      AuthorsLinked sql (namedAuthors body.authors) db' item.book.id := by
  intro h
  have hcommitted : ((createBook sampleJs withCostPrice 3 (namesAuthor "To Hoai") 1 1).alone
      (creationExec accentBlind sampleJs) .database sampleAuthors).bind
        (fun r => r.2.toOption.map fun _ => r.1.bookAuthors) = some [] := by
    decide +kernel
  obtain ⟨⟨db', x⟩, hr, hnone⟩ := Option.bind_eq_some_iff.mp hcommitted
  cases x with
  | error e =>
      cases hnone
  | ok item =>
      have hlinked := h withCostPrice accentBlind sampleJs sampleAuthors db' 3 _ 1 1 item
        equivalence_accentBlind accentBlind_of_lowerCase tablesSound_sampleAuthors
        (yields_iff_ends.mp (yields_of_alone hr))
      obtain ⟨a, ⟨ha, -⟩, -⟩ := hlinked.named ⟨"To Hoai", true⟩
        (by decide +kernel)
      have hbookAuthors : db'.bookAuthors = [] := Option.some.inj hnone
      simp [linkedAuthors, linksOf, hbookAuthors] at ha

end Calls

end BookCreation
end BookStore
