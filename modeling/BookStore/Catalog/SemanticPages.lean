import BookStore.Async.Sends
import BookStore.Catalog.SemanticSearch
import BookStore.UserEvents.Merge

/-!
# Semantic search: the pages

* `matchedCards`: the visible books among the matches, in the order of the matches.
* `Found` says what an answer is made of.
* `searchBooks_runs`: in every run, the first page of a search has the cards of all matches, and
  the later pages are empty, whatever the total says.  No answer is from the cache.
-/

namespace BookStore
namespace Search

open Async Program Logic

/-- The book of a match, if it is visible -/
def visibleBook (db : CatalogDb) (id : Nat) : Option Book :=
  db.books.find? fun b => decide (b.id = id) && db.visible b

def cardOf (db : CatalogDb) (langId : Nat) (b : Book) : CatalogBookCardDto :=
  toCatalogListBookCard (db.idRow langId b)

/-- The cards of the books that match, each once, the best match first -/
def matchedCards (db : CatalogDb) (langId : Nat) (ids : List Nat) : List CatalogBookCardDto :=
  (JsMap.newSet ids).filterMap fun id => (visibleBook db id).map (cardOf db langId)

/-! ### The order of the matches -/

section Order

variable {db : CatalogDb} {langId : Nat} {ids : List Nat}

/-- The ids as the service has them -/
def castIds (ids : List Nat) : List (Option Int) :=
  ids.map fun id : Nat => some (id : Int)

theorem mem_castIds {id : Nat} : some (id : Int) ∈ castIds ids ↔ id ∈ ids := by
  simp [castIds]

theorem rankOf_getElem (hids : ids.Nodup) {i : Nat} (hi : i < ids.length) :
    rankOf (castIds ids) ids[i] = i := by
  have hkeys : ((castIds ids).zipIdx.map Prod.fst).Nodup := by
    rw [List.zipIdx_map_fst]
    exact hids.map fun a b h => by simpa using h
  rw [rankOf, JsMap.ofEntries_of_nodup hkeys]
  have hmem : (some (ids[i] : Int), i) ∈ (castIds ids).zipIdx := by
    rw [List.mem_zipIdx_iff_getElem?]
    simp [castIds, hi]
  rw [(JsMap.get_eq_some_iff hkeys).mpr hmem, Option.getD_some]

theorem pairwise_rankOf (hids : ids.Nodup) :
    ids.Pairwise fun id id' => rankOf (castIds ids) id < rankOf (castIds ids) id' := by
  rw [List.pairwise_iff_getElem]
  intro i j hi hj hij
  rw [rankOf_getElem hids hi, rankOf_getElem hids hj]
  exact hij

theorem visibleBook_eq_some_iff (hdb : CatalogKeys db) {id : Nat} {b : Book} :
    visibleBook db id = some b ↔ b ∈ db.books ∧ db.visible b = true ∧ b.id = id := by
  constructor
  · intro h
    have hmeets := List.find?_some h
    rw [Bool.and_eq_true, decide_eq_true_eq] at hmeets
    exact ⟨List.mem_of_find?_eq_some h, hmeets.2, hmeets.1⟩
  · rintro ⟨hb, hvisible, rfl⟩
    have hisSome : (visibleBook db b.id).isSome := by
      rw [visibleBook, List.find?_isSome]
      exact ⟨b, hb, by simpa using hvisible⟩
    obtain ⟨b', hb'⟩ := Option.isSome_iff_exists.mp hisSome
    have hmeets := List.find?_some hb'
    rw [Bool.and_eq_true, decide_eq_true_eq] at hmeets
    rw [hb', List.inj_on_of_nodup_map hdb.books (List.mem_of_find?_eq_some hb') hb hmeets.1]

/-- The books that are looked up are those of the matches. -/
theorem perm_booksIn (hdb : CatalogKeys db) (hids : ids.Nodup) :
    (booksIn db (castIds ids)).Perm (ids.filterMap (visibleBook db)) := by
  have hbooks : db.books.Nodup := hdb.books.of_map _
  have hfound : (ids.filterMap (visibleBook db)).Nodup := by
    refine hids.filterMap fun id id' b hb hb' => ?_
    rw [Option.mem_def, visibleBook_eq_some_iff hdb] at hb hb'
    exact hb.2.2.symm.trans hb'.2.2
  refine (List.perm_ext_iff_of_nodup (hbooks.filter _) hfound).mpr fun b => ?_
  simp only [List.mem_filter, List.mem_filterMap, Bool.and_eq_true, List.contains_iff_mem,
    mem_castIds, visibleBook_eq_some_iff hdb]
  constructor
  · rintro ⟨hb, hid, hvisible⟩
    exact ⟨b.id, hid, hb, hvisible, rfl⟩
  · rintro ⟨id, hid, hb, hvisible, rfl⟩
    exact ⟨hb, hid, hvisible⟩

/-- Sorting restores the order of the matches, whatever the order of the rows. -/
theorem orderBy_rankOf
    (hdb : CatalogKeys db) (hids : ids.Nodup) {books : List Book}
    (hperm : books.Perm (booksIn db (castIds ids))) :
    orderBy (fun a b => decide (rankOf (castIds ids) a.id < rankOf (castIds ids) b.id))
        (books.map (cardOf db langId)) =
      ids.filterMap fun id => (visibleBook db id).map (cardOf db langId) := by
  have hcards : (ids.filterMap fun id => (visibleBook db id).map (cardOf db langId)) =
      (ids.filterMap (visibleBook db)).map (cardOf db langId) := by
    rw [List.map_filterMap]
  have hsorted : (ids.filterMap fun id => (visibleBook db id).map (cardOf db langId)).Pairwise
      fun a b => rankOf (castIds ids) a.id ≤ rankOf (castIds ids) b.id := by
    rw [List.pairwise_filterMap]
    refine (pairwise_rankOf hids).imp fun hlt a ha b hb => ?_
    obtain ⟨x, hx, rfl⟩ := Option.map_eq_some_iff.mp ha
    obtain ⟨y, hy, rfl⟩ := Option.map_eq_some_iff.mp hb
    have hxid : x.id = _ := ((visibleBook_eq_some_iff hdb).mp hx).2.2
    have hyid : y.id = _ := ((visibleBook_eq_some_iff hdb).mp hy).2.2
    show rankOf (castIds ids) x.id ≤ rankOf (castIds ids) y.id
    rw [hxid, hyid]
    exact hlt.le
  have horder : (orderBy (fun a b : CatalogBookCardDto =>
      decide (rankOf (castIds ids) a.id < rankOf (castIds ids) b.id))
        (books.map (cardOf db langId))).Pairwise
      fun a b => rankOf (castIds ids) a.id ≤ rankOf (castIds ids) b.id :=
    (pairwise_orderBy (fun a b => by simp [le_total]) (fun a b c hab hbc => by
      simp only [decide_eq_false_iff_not, not_lt] at hab hbc ⊢
      exact hab.trans hbc) _).imp fun h => by simpa using h
  have hsame : (orderBy (fun a b : CatalogBookCardDto =>
      decide (rankOf (castIds ids) a.id < rankOf (castIds ids) b.id))
        (books.map (cardOf db langId))).Perm
      (ids.filterMap fun id => (visibleBook db id).map (cardOf db langId)) := by
    rw [hcards]
    exact (perm_orderBy _ _).trans ((hperm.trans (perm_booksIn hdb hids)).map _)
  refine hsame.eq_of_pairwise (fun a b ha hb hab hba => ?_) horder hsorted
  -- two cards of one rank are those of one match
  have ha := hsame.mem_iff.mp ha
  obtain ⟨id, hid, ha⟩ := List.mem_filterMap.mp ha
  obtain ⟨id', hid', hb⟩ := List.mem_filterMap.mp hb
  obtain ⟨x, hx, rfl⟩ := Option.map_eq_some_iff.mp ha
  obtain ⟨y, hy, rfl⟩ := Option.map_eq_some_iff.mp hb
  have hxid : (cardOf db langId x).id = id := ((visibleBook_eq_some_iff hdb).mp hx).2.2
  have hyid : (cardOf db langId y).id = id' := ((visibleBook_eq_some_iff hdb).mp hy).2.2
  rw [hxid, hyid] at hab hba
  obtain ⟨i, hi, rfl⟩ := List.getElem_of_mem hid
  obtain ⟨j, hj, rfl⟩ := List.getElem_of_mem hid'
  rw [rankOf_getElem hids hi, rankOf_getElem hids hj] at hab hba
  obtain rfl : i = j := by omega
  rw [Option.some.inj (hx.symm.trans hy)]

/-- The first page has room for all matches, and then there is nothing left. -/
theorem pageOf_booksIn
    (hdb : CatalogKeys db) (hids : ids.Nodup) {books : List Book} {page limit : Nat}
    (hperm : books.Perm (booksIn db (castIds ids)))
    (hlimit : ids.length ≤ limit) :
    pageOf page limit books = if page ≤ 1 then books else [] := by
  have hlength : books.length ≤ limit := by
    rw [(hperm.trans (perm_booksIn hdb hids)).length_eq]
    exact (List.length_filterMap_le _ _).trans hlimit
  split_ifs with hpage
  · have hfirst : page - 1 = 0 := by omega
    rw [pageOf, hfirst, Nat.zero_mul, List.drop_zero, List.take_of_length_le hlength]
  · have hlater : books.length ≤ (page - 1) * limit :=
      hlength.trans (Nat.le_mul_of_pos_left _ (by omega))
    rw [pageOf, List.drop_of_length_le hlater, List.take_nil]

end Order

/-! ### What an answer is made of -/

section Answers

variable (services : SearchServices)

/-- What the index was asked for, and what was looked up: all of it at or after `since` -/
def Found (past : List (Nat × SearchDb)) (since : Nat) (q : String) (langId : Nat)
    (page limit : Int) (value : SearchValue) : Prop :=
  ∃ text vector matched ids, trimmed (some q) = some text ∧
    services.embedText text = .ok vector ∧
    ReadSince past since
      (fun db => db.index.query vector (positiveOr 10 (some limit)) = .ok matched) ∧
    matched.map IndexMatch.book = ids.map (fun id : Nat => toString id) ∧
    ((matched = [] ∧ value = .none) ∨ ∃ response, value = .page response ∧
      ReadSince past since
        (fun db => response.total = db.catalog.countBooksForList langId none) ∧
      ReadSince past since (fun db => response.items =
        if page ≤ 1 then matchedCards db.catalog langId ids else []))

theorem Found.mono
    {past past' : List (Nat × SearchDb)} {since : Nat} {q : String} {langId : Nat}
    {page limit : Int} {value : SearchValue}
    (hpast : past ⊆ past')
    (h : Found services past since q langId page limit value) :
    Found services past' since q langId page limit value := by
  obtain ⟨text, vector, matched, ids, htext, hvector, hmatched, hids, hvalue⟩ := h
  refine ⟨text, vector, matched, ids, htext, hvector,
    hmatched.mono hpast fun _ hdb => hdb, hids, hvalue.imp_right ?_⟩
  rintro ⟨response, rfl, htotal, hitems⟩
  exact ⟨response, rfl, htotal.mono hpast fun _ hdb => hdb, hitems.mono hpast fun _ hdb => hdb⟩

/-- The entries of searches -/
def searchFreshness : Freshness String SearchValue SearchDb where
  lasts text ttl := ttl = 0 ∧ ∃ q langId page limit,
    text = (SharedKey.semantic q langId page limit).text
  made past since text value := ∀ (q : String) (langId : Nat) (page limit : Int),
    text = (SharedKey.semantic q langId page limit).text →
      Found services past since q langId page limit value
  mono := fun _ _ _ _ _ hpast h q langId page limit htext =>
    (h q langId page limit htext).mono services hpast

/-- No entry of a search is ever kept: none may be stored. -/
abbrev searchLogic : Logic SearchStmt SearchWorld Unit :=
  freshLogic (searchFreshness services) fun _ _ => False

variable {services} {w : SearchWorld}

/-- What a search ends in -/
def Ends (services : SearchServices) (since : Nat) (key : SharedKey) :
    Except SearchFailure SearchValue → Unit → SearchWorld → Prop :=
  fun x _ v => ∀ value, x = .ok value →
    (searchFreshness services).Answers (fun _ _ => False) since v.past key.text value

theorem queryListBook_safe
    {page limit : Int} {ids : List Nat} {langId : Nat}
    {rest : CatalogBookListResponseDto → SearchProgram SearchValue}
    {P : Except SearchFailure SearchValue → Unit → SearchWorld → Prop}
    (hids : ids.Nodup)
    (hlimit : ids.length ≤ positiveOr 20 (some limit))
    (hnonempty : ids ≠ [])
    (herror : ∀ e v, P (.error e) () v)
    (hrest : ∀ (response : CatalogBookListResponseDto) v, Later w v →
      ReadSince v.past w.now (fun db =>
        response.total = db.catalog.countBooksForList langId none) →
      ReadSince v.past w.now (fun db =>
        orderBy (fun a b => decide (rankOf (castIds ids) a.id < rankOf (castIds ids) b.id))
          response.items = if page ≤ 1 then ids.filterMap fun id =>
            (visibleBook db.catalog id).map (cardOf db.catalog langId) else []) →
      Safe (searchLogic services) (expiringExec (answer services)) .database P
        (rest response) () v) :
    Safe (searchLogic services) (expiringExec (answer services)) .database P
      ((queryListBook page limit (castIds ids) langId).bind rest) () w := by
  unfold queryListBook
  dsimp only
  rw [Program.bind_assoc]
  refine Safe.queries_bind herror fun r v hv htotal hrows => ?_
  obtain ⟨total, found⟩ := r
  cases found with
  | none =>
      exact fun _ _ => herror _ _
  | some rows =>
      refine hrest (paginated (rows.map toCatalogListBookCard) total
        (positiveOr 1 (some page)) (positiveOr 20 (some limit))) v hv ?_ ?_
      · exact htotal.mono (List.Subset.refl _) fun db hdb => hdb.symm
      refine hrows.mono (List.Subset.refl _) fun db hdb => ?_
      have hne : castIds ids ≠ [] := by
        simpa [castIds] using hnonempty
      have hnone : (castIds ids).contains none = false := by
        simp [castIds]
      simp only [answer, hne, hnone, Bool.false_eq_true, if_false, Option.some.injEq] at hdb
      subst hdb
      have hperm := services.byIds.perm (booksIn db.catalog (castIds ids))
      have hpage : positiveOr 1 (some page) ≤ 1 ↔ page ≤ 1 := by
        show (if 0 < page then page.toNat else 1) ≤ 1 ↔ page ≤ 1
        split_ifs <;> omega
      dsimp only [paginated]
      rw [pageOf_booksIn db.keys hids hperm hlimit, List.map_map]
      simp only [hpage]
      split_ifs
      · exact orderBy_rankOf db.keys hids hperm
      · rfl

/-- The ids of the matches, each once, as numbers -/
theorem orderedBookIds_eq
    {matched : List IndexMatch} {ids : List Nat}
    (hids : matched.map IndexMatch.book = ids.map fun id : Nat => toString id) :
    (JsMap.newSet ((matched.map fun m : IndexMatch =>
        (⟨m.book, m.score.getD 0⟩ : QueryBookVariantResult)).map
          QueryBookVariantResult.bookId)).map services.number = castIds (JsMap.newSet ids) := by
  rw [List.map_map]
  show (JsMap.newSet (matched.map IndexMatch.book)).map services.number = _
  rw [hids, JsMap.newSet_map UserEvents.toString_nat_injective, List.map_map, castIds]
  exact List.map_congr_left fun id _ => services.number_toString id

theorem topK_le_limit (limit : Int) : positiveOr 10 (some limit) ≤ positiveOr 20 (some limit) := by
  show (if 0 < limit then limit.toNat else 10) ≤ if 0 < limit then limit.toNat else 20
  split_ifs <;> omega

theorem searchedBooks_found {q : String} {langId since : Nat} {page limit : Int}
    (hsince : since ≤ w.now) :
    Safe (searchLogic services) (expiringExec (answer services)) .database
      (fun x _ v => ∀ value, x = .ok value →
        Found services v.past since q langId page limit value)
      (searchedBooks services.number q page limit langId) () w := by
  unfold searchedBooks queryBooks
  cases htext : trimmed (some q) with
  | none =>
      exact fun _ _ _ h => by cases h
  | some text =>
      dsimp only
      rw [Program.bind_assoc]
      refine Safe.query_bind (fun _ _ _ h => by cases h) fun vector u hu hvector => ?_
      obtain ⟨_, _, _, _, hvector⟩ := hvector
      simp only [answer] at hvector
      cases vector with
      | error e =>
          exact fun _ _ _ h => by cases h
      | ok vector =>
          cases vector with
          | nil =>
              exact fun _ _ _ h => by cases h
          | cons x xs =>
              dsimp only
              rw [Program.bind_assoc]
              refine Safe.query_bind (fun _ _ _ h => by cases h) fun matched t ht hmatched => ?_
              have hmatched := hmatched.of_le (hsince.trans hu.now)
              cases matched with
              | error e =>
                  exact fun _ _ _ h => by cases h
              | ok matched =>
                  obtain ⟨_, db, _, _, hdb⟩ := id hmatched
                  obtain ⟨ids, hids⟩ := db.index.ids _ _ _ hdb
                  have hlength := db.index.length_le _ _ _ hdb
                  have hcount : matched.length = ids.length := by
                    have := congrArg List.length hids
                    rwa [List.length_map, List.length_map] at this
                  rw [Program.bind_ret]
                  split_ifs with hnil
                  · intro v hv value hvalue
                    cases hvalue
                    exact ⟨text, x :: xs, matched, ids, htext, hvector,
                      hmatched.mono hv.past fun _ h => h, hids,
                      .inl ⟨List.map_eq_nil_iff.mp hnil, rfl⟩⟩
                  · rw [orderedBookIds_eq hids]
                    have hsome : JsMap.newSet ids ≠ [] := by
                      intro hempty
                      have hids' : ids = [] := List.eq_nil_iff_forall_not_mem.mpr fun id hid =>
                        List.ne_nil_of_mem (JsMap.mem_newSet.mpr hid) hempty
                      rw [hids', List.length_nil, List.length_eq_zero_iff] at hcount
                      exact hnil (hcount ▸ rfl)
                    refine queryListBook_safe (JsMap.nodup_newSet ids) ?_ hsome
                      (fun _ _ _ h => by cases h) fun response v hv htotal hitems => ?_
                    · have := JsMap.length_newSet_le ids
                      have := topK_le_limit limit
                      omega
                    · have hlater := (hsince.trans hu.now).trans ht.now
                      intro v' hv' value hvalue
                      cases hvalue
                      exact ⟨text, x :: xs, matched, ids, htext, hvector,
                        (hmatched.mono hv.past fun _ h => h).mono hv'.past fun _ h => h, hids,
                        .inr ⟨_, rfl, (htotal.of_le hlater).mono hv'.past fun _ h => h,
                          (hitems.of_le hlater).mono hv'.past fun _ h => h⟩⟩

end Answers

/-! ### Runs -/

section Runs

variable {services : SearchServices}

/-- No statement of a search stores anything. -/
def StoresNothing : SearchStmt → Prop
  | .set _ _ _ _ => False
  | _ => True

theorem searchBooks_storesNothing (params : SearchBooksQueryDto) (langId : Nat) :
    (searchBooks services.number params langId).All StoresNothing := by
  unfold searchBooks searchedBooks
  cases trimmed params.q with
  | none =>
      trivial
  | some q =>
      refine All.bind (All.await trivial) fun cached => ?_
      cases cached with
      | some cached =>
          trivial
      | none =>
          refine All.bind ?_ fun matched => ?_
          · unfold queryBooks
            cases trimmed (some q) with
            | none =>
                trivial
            | some text =>
                refine All.bind (All.await trivial) fun vector => ?_
                cases vector with
                | error e =>
                    trivial
                | ok vector =>
                    cases vector with
                    | nil =>
                        trivial
                    | cons x xs =>
                        refine All.bind (All.await trivial) fun matched => ?_
                        cases matched <;> trivial
          · split_ifs
            · trivial
            · refine All.bind (All.bind (All.alongside trivial (All.await trivial)) fun r => ?_)
                fun _ => trivial
              cases r.2 <;> trivial

-- a search need not be evaluated to compare what it ends in
attribute [local irreducible] searchedBooks searchBooks

/-- What is answered to a search -/
def Answered (services : SearchServices) :
    Except SearchFailure SearchAnswer → Unit → SearchWorld → Prop
  | .ok (.found arrivedAt params langId value), _, v => ∃ q, trimmed params.q = some q ∧
      Found services v.past arrivedAt q langId (params.page.getD 1) (params.limit.getD 10) value
  | _, _, _ => True

theorem searchBooks_answered
    {params : SearchBooksQueryDto} {langId since : Nat} {w : SearchWorld}
    (hsince : since ≤ w.now) :
    Safe (searchLogic services) (expiringExec (answer services)) .database
      (fun x _ v => ∀ value, x = .ok value → ∃ q, trimmed params.q = some q ∧
        Found services v.past since q langId (params.page.getD 1) (params.limit.getD 10) value)
      (searchBooks services.number params langId) () w := by
  unfold searchBooks
  cases hq : trimmed params.q with
  | none =>
      exact fun _ _ _ h => by cases h
  | some q =>
      dsimp only
      have hread : ∀ page limit : Int,
          Safe (searchLogic services) (expiringExec (answer services)) .database
            (Ends services since (.semantic q langId page limit))
            (readThrough (fun _ => true) (SharedKey.semantic q langId page limit).text
              (searchedBooks services.number q page limit langId)) () w := by
        intro page limit
        have hlasts : (searchFreshness services).lasts
            (SharedKey.semantic q langId page limit).text 0 :=
          ⟨rfl, q, langId, page, limit, rfl⟩
        refine Safe.readThrough hlasts hsince fun v hv => ?_
        refine (searchedBooks_found (hsince.trans hv.now)).mono fun x m v _ hx value hvalue => ?_
        refine .inl fun q' langId' page' limit' htext => ?_
        cases SharedKey.text_injective htext
        exact hx value hvalue
      refine (hread _ _).mono fun x m v _ hx value hvalue => ?_
      rcases hx value hvalue with hmade | ⟨_, _, _, _, hfalse, _⟩
      · exact ⟨q, rfl, hmade q langId _ _ rfl⟩
      · exact hfalse.elim

theorem searchServer_envSafe :
    EnvSafeTo (searchLogic services) (searchServer services) (Answered services)
      (fun _ _ => True) := by
  intro w F e w' p hinv _ h
  cases e with
  | arrive params langId =>
      cases h
      refine ⟨.refl w, (), hinv,
        Safe.bind ((searchBooks_answered le_rfl).mono fun x m v _ hx => ?_)⟩
      cases x with
      | ok value =>
          obtain ⟨q, hq, hfound⟩ := hx value rfl
          exact fun v' hv' => ⟨q, hq, hfound.mono services hv'.past⟩
      | error e =>
          trivial
  | edit f =>
      cases h
      exact ⟨⟨le_rfl, List.Subset.refl _⟩, EntriesFresh.of_entries hinv (List.Subset.refl _)
        fun _ _ he => he⟩
  | tick ms =>
      cases h
      exact ⟨⟨Nat.le_add_right _ _, List.Subset.refl _⟩, EntriesFresh.of_entries hinv
        (List.Subset.refl _) fun _ _ he => he⟩
  | drop key =>
      cases h
      exact ⟨⟨le_rfl, List.Subset.refl _⟩, EntriesFresh.drop hinv key⟩
  | setOther key json ttl =>
      simp only [searchServer] at h
      split_ifs at h with hkey
      cases h
      refine ⟨⟨le_rfl, List.Subset.refl _⟩, EntriesFresh.set hinv fun n hn => ?_⟩
      -- the key of another service is not one of a search
      obtain ⟨-, q, langId, page, limit, htext⟩ := hn
      rw [SharedKey.text_injective htext] at hkey
      exact absurd rfl hkey

variable (services) in
/--
In every run that starts with an empty cache, a search is answered with `[]` where nothing
matches.  Otherwise its total counts all books of the catalog, its first page has the cards of
all visible books that match, in the order of the matches, and its later pages have none.  The
numbers were all read after the search arrived, and nothing is kept of them.
-/
theorem searchBooks_runs
    {as : List (Action SearchEvent)} {c : SearchState} {w : SearchWorld}
    (hempty : ∀ key, w.entries key = none)
    (hrun : runs (searchServer services).step ⟨w, []⟩ as = some c) :
    (∀ (i arrivedAt : Nat) (params : SearchBooksQueryDto) (langId : Nat) (value : SearchValue),
      c.threads[i]? = some (.ret (.found arrivedAt params langId value)) →
      ∃ q, trimmed params.q = some q ∧
        Found services c.world.past arrivedAt q langId (params.page.getD 1)
          (params.limit.getD 10) value) ∧
      ∀ (q : String) (langId : Nat) (page limit : Int),
        c.world.entries (SharedKey.semantic q langId page limit).text = none := by
  have hstart : (searchLogic services).inv 0 w := fun key e he => by
    rw [hempty] at he
    cases he
  have hguard : ∀ (w : SearchWorld) (s : SearchStmt) (o : Outcome), StoresNothing s →
      StoresWithin (fun _ _ => False) w s o := by
    intro w s o hs
    cases s <;> exact hs
  have hmeets : Meets (searchServer services).step (System.Conforms (fun _ _ => True)
      (StoresWithin fun _ _ => False)) ⟨w, []⟩ as := by
    refine meets_conforms_of_all (K := StoresNothing) (fun e w w' p hp => ?_) hguard w as
    cases e with
    | arrive params langId =>
        cases hp
        exact All.bind (searchBooks_storesNothing params langId) fun _ => trivial
    | setOther key json ttl =>
        simp only [searchServer] at hp
        split_ifs at hp
        cases hp
    | edit f => cases hp
    | tick ms => cases hp
    | drop key => cases hp
  have hend := balancedTo_runs (fun _ _ _ => trivial) searchServer_envSafe
    (balancedTo_start hstart) hmeets hrun
  refine ⟨fun i arrivedAt params langId value hi => ?_, ?_⟩
  · obtain ⟨_, hfound⟩ := hend.returned hi
    exact hfound
  intro q langId page limit
  obtain ⟨ms, -, hinv⟩ := hend
  refine Option.eq_none_iff_forall_not_mem.mpr fun e he => ?_
  exact (hinv _ e he 0 ⟨rfl, q, langId, page, limit, rfl⟩).setAt

/-! ### Two books, two pages -/

/-- Book 2 matches better than book 1. -/
def sampleMatches (topK : Nat) : List IndexMatch :=
  [⟨"2", some 1, some "2"⟩, ⟨"1", some 0, some "1"⟩].take topK

theorem sampleMatches_length
    (_ : List ℚ) (topK : Nat) (matched : List IndexMatch)
    (h : (Except.ok (sampleMatches topK) : Except Unit (List IndexMatch)) = .ok matched) :
    matched.length ≤ topK := by
  cases h
  rw [sampleMatches, List.length_take]
  omega

theorem sampleMatches_ids
    (_ : List ℚ) (topK : Nat) (matched : List IndexMatch)
    (h : (Except.ok (sampleMatches topK) : Except Unit (List IndexMatch)) = .ok matched) :
    ∃ ids : List Nat, matched.map IndexMatch.book = ids.map fun id => toString id := by
  cases h
  refine ⟨[2, 1].take topK, ?_⟩
  rw [sampleMatches, List.map_take, List.map_take]
  congr 1

theorem sampleCatalog_keys : CatalogKeys sampleCatalog := by
  decide

def sampleSearchDb : SearchDb where
  catalog := sampleCatalog
  keys := sampleCatalog_keys
  index := ⟨fun _ topK => .ok (sampleMatches topK), sampleMatches_length, sampleMatches_ids⟩

def sampleServices : SearchServices where
  embedText _ := .ok [1]
  number := UserEvents.sampleNumber
  number_toString := UserEvents.sampleNumber_toString
  byIds := .table

def sampleSearchWorld : SearchWorld where
  db := sampleSearchDb
  now := 0
  entries _ := none
  past := []

/-- Both pages of a search, two books each -/
def sampleSearches : List (Action SearchEvent) :=
  let page (n : Int) : Action SearchEvent := .env (.arrive ⟨some " Lean ", some n, some 2⟩ 1)
  [page 1, page 2] ++ List.replicate 6 (.run 0 0 .ok) ++ List.replicate 6 (.run 1 0 .ok)

/-- The ids of the books on the page -/
def SearchAnswer.shownIds : SearchAnswer → List Nat
  | .found _ _ _ (.page response) => response.items.map CatalogBookCardDto.id
  | _ => []

/-- The second page is empty, though there are two books in all. -/
theorem searchBooks_runs_sampleSearches :
    ∃ c, runs (searchServer sampleServices).step ⟨sampleSearchWorld, []⟩ sampleSearches = some c ∧
      (c.threads[0]?.bind Program.answer).map SearchAnswer.shownIds = some [2, 1] ∧
      c.threads[1]? = some (.ret (.found 0 ⟨some " Lean ", some 2, some 2⟩ 1
        (.page ⟨2, 2, 2, 1, []⟩))) ∧
      ∃ q, trimmed (some " Lean ") = some q ∧
        Found sampleServices c.world.past 0 q 1 2 2 (.page ⟨2, 2, 2, 1, []⟩) := by
  have hends : (runs (searchServer sampleServices).step ⟨sampleSearchWorld, []⟩
      sampleSearches).any (fun c =>
        decide ((c.threads[0]?.bind Program.answer).map SearchAnswer.shownIds = some [2, 1]) &&
          decide (c.threads[1]?.bind Program.answer = some (.found 0
            ⟨some " Lean ", some 2, some 2⟩ 1 (.page ⟨2, 2, 2, 1, []⟩)))) = true := by
    decide +kernel
  obtain ⟨c, hc, hend⟩ := Option.any_eq_true _ _ |>.mp hends
  obtain ⟨hfirst, hsecond⟩ := Bool.and_eq_true_iff.mp hend
  have hsecond := bind_answer_eq_some_iff.mp (of_decide_eq_true hsecond)
  exact ⟨c, hc, of_decide_eq_true hfirst, hsecond,
    (searchBooks_runs sampleServices (fun _ => rfl) hc).1 1 0 _ 1 _ hsecond⟩

end Runs

end Search
end BookStore
