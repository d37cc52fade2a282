import BookStore.Catalog.Service
import BookStore.Numerals

/-!
# The keys of the catalog cache

`cacheKey.catalog` builds the namespace of a read of the catalog from its parameters, and
`CacheVersionService` the key of its version and the keys of its data.  Slugs are texts of
the request and may contain separators.

* `key_injective`: the namespace tells the read and its parameters.
* `cacheKeys_apart`: no two keys collide.

A namespace begins with the area and the kind of read, both without a colon; what follows is
taken apart from the left, up to the slug, and from the right.
-/

namespace BookStore

/-- A read of the catalog with its parameters -/
inductive CachedRead
  | home (langId limit : Int)
  | categories (langId : Int)
  | bookList (langId page limit : Int)
  | bookListByCategory (langId page limit : Int) (slug : String)
  | bookDetail (bookId langId : Int)
  | bookDetailBySlug (slug : String) (langId : Int)
  deriving DecidableEq

namespace CachedRead

/-- A number in a template -/
def num (z : Int) : String :=
  String.ofList (numberText z)

/-- `cacheKey.catalog` -/
def key : CachedRead → String
  | .home langId limit => "catalog:home:" ++ num langId ++ ":" ++ num limit
  | .categories langId => "catalog:categories:" ++ num langId
  | .bookList langId page limit =>
      "catalog:books:langId=" ++ num langId ++ ":p" ++ num page ++ ":l" ++ num limit
  | .bookListByCategory langId page limit slug =>
      "catalog:books:langId=" ++ num langId ++ ":p" ++ num page ++ ":l" ++ num limit ++ ":cat=" ++
        slug
  | .bookDetail bookId langId => "catalog:detail:" ++ num bookId ++ ":" ++ num langId
  | .bookDetailBySlug slug langId => "catalog:detail:slug:" ++ slug ++ ":" ++ num langId

/-! ### Taking a key apart -/

/-- `catalog:` -/
def area : List Char :=
  ['c', 'a', 't', 'a', 'l', 'o', 'g', ':']

/-- The second part of a key, the kind of read -/
def tag : CachedRead → List Char
  | .home _ _ => ['h', 'o', 'm', 'e']
  | .categories _ => ['c', 'a', 't', 'e', 'g', 'o', 'r', 'i', 'e', 's']
  | .bookList _ _ _ => ['b', 'o', 'o', 'k', 's']
  | .bookListByCategory _ _ _ _ => ['b', 'o', 'o', 'k', 's']
  | .bookDetail _ _ => ['d', 'e', 't', 'a', 'i', 'l']
  | .bookDetailBySlug _ _ => ['d', 'e', 't', 'a', 'i', 'l']

/-- `langId=…:p…:l…` -/
def listBody (langId page limit : Int) (rest : List Char) : List Char :=
  'l' :: 'a' :: 'n' :: 'g' :: 'I' :: 'd' :: '=' :: (numberText langId ++ ':' :: 'p' ::
    (numberText page ++ ':' :: 'l' :: (numberText limit ++ rest)))

/-- The rest of a key -/
def body : CachedRead → List Char
  | .home langId limit => numberText langId ++ ':' :: numberText limit
  | .categories langId => numberText langId
  | .bookList langId page limit => listBody langId page limit []
  | .bookListByCategory langId page limit slug =>
      listBody langId page limit (':' :: 'c' :: 'a' :: 't' :: '=' :: slug.toList)
  | .bookDetail bookId langId => numberText bookId ++ ':' :: numberText langId
  | .bookDetailBySlug slug langId =>
      ['s', 'l', 'u', 'g'] ++ ':' :: (slug.toList ++ ':' :: numberText langId)

/-- The texts of the templates -/
theorem toList_templates :
    "catalog:home:".toList = area ++ ['h', 'o', 'm', 'e'] ++ [':'] ∧
      "catalog:categories:".toList =
        area ++ ['c', 'a', 't', 'e', 'g', 'o', 'r', 'i', 'e', 's'] ++ [':'] ∧
      "catalog:books:langId=".toList = area ++ ['b', 'o', 'o', 'k', 's'] ++
        [':', 'l', 'a', 'n', 'g', 'I', 'd', '='] ∧
      "catalog:detail:".toList = area ++ ['d', 'e', 't', 'a', 'i', 'l'] ++ [':'] ∧
      "catalog:detail:slug:".toList =
        area ++ ['d', 'e', 't', 'a', 'i', 'l'] ++ ':' :: ['s', 'l', 'u', 'g'] ++ [':'] ∧
      ":".toList = [':'] ∧ ":p".toList = [':', 'p'] ∧ ":l".toList = [':', 'l'] ∧
      ":cat=".toList = [':', 'c', 'a', 't', '='] := by
  decide +kernel

theorem toList_key (r : CachedRead) : r.key.toList = area ++ (r.tag ++ ':' :: r.body) := by
  obtain ⟨hhome, hcategories, hbooks, hdetail, hslug, hcolon, hp, hl, hcat⟩ := toList_templates
  cases r with
  | home langId limit =>
      unfold key
      rw [String.toList_append, String.toList_append, String.toList_append, hhome, hcolon]
      simp [num, tag, body]
  | categories langId =>
      unfold key
      rw [String.toList_append, hcategories]
      simp [num, tag, body]
  | bookList langId page limit =>
      unfold key
      rw [String.toList_append, String.toList_append, String.toList_append, String.toList_append,
        String.toList_append, hbooks, hp, hl]
      simp [num, tag, body, listBody]
  | bookListByCategory langId page limit slug =>
      unfold key
      rw [String.toList_append, String.toList_append, String.toList_append, String.toList_append,
        String.toList_append, String.toList_append, String.toList_append, hbooks, hp, hl, hcat]
      simp [num, tag, body, listBody]
  | bookDetail bookId langId =>
      unfold key
      rw [String.toList_append, String.toList_append, String.toList_append, hdetail, hcolon]
      simp [num, tag, body]
  | bookDetailBySlug slug langId =>
      unfold key
      rw [String.toList_append, String.toList_append, String.toList_append, hslug, hcolon]
      simp [num, tag, body]

theorem not_mem_tag (r : CachedRead) : ':' ∉ r.tag := by
  cases r <;> simp [tag]

theorem colon_not_mem (z : Int) : ':' ∉ numberText z :=
  not_mem_numberText rfl (by decide) z

/-- A number and a number -/
theorem pair_inj {a b a' b' : Int}
    (h : numberText a ++ ':' :: numberText b = numberText a' ++ ':' :: numberText b') :
    a = a' ∧ b = b' := by
  obtain ⟨ha, hb⟩ := splitFirst_inj (colon_not_mem a) (colon_not_mem a') h
  exact ⟨numberText_injective ha, numberText_injective hb⟩

/-- A number and what comes after it, nothing or a separator -/
theorem number_append_inj
    {z z' : Int} {rest rest' : List Char}
    (hrest : rest = [] ∨ ∃ s, rest = ':' :: s) (hrest' : rest' = [] ∨ ∃ s, rest' = ':' :: s)
    (h : numberText z ++ rest = numberText z' ++ rest') :
    z = z' ∧ rest = rest' := by
  rcases hrest with rfl | ⟨s, rfl⟩
  · rcases hrest' with rfl | ⟨s', rfl⟩
    · rw [List.append_nil, List.append_nil] at h
      exact ⟨numberText_injective h, rfl⟩
    · refine absurd ?_ (colon_not_mem z)
      rw [← List.append_nil (numberText z), h]
      exact List.mem_append_right _ List.mem_cons_self
  · rcases hrest' with rfl | ⟨s', rfl⟩
    · refine absurd ?_ (colon_not_mem z')
      rw [← List.append_nil (numberText z'), ← h]
      exact List.mem_append_right _ List.mem_cons_self
    · obtain ⟨hz, rfl⟩ := splitFirst_inj (colon_not_mem z) (colon_not_mem z') h
      exact ⟨numberText_injective hz, rfl⟩

/-- The parameters of a list and what comes after them -/
theorem listBody_inj
    {a p l a' p' l' : Int} {rest rest' : List Char}
    (hrest : rest = [] ∨ ∃ s, rest = ':' :: s) (hrest' : rest' = [] ∨ ∃ s, rest' = ':' :: s)
    (h : listBody a p l rest = listBody a' p' l' rest') :
    a = a' ∧ p = p' ∧ l = l' ∧ rest = rest' := by
  simp only [listBody, List.cons.injEq, true_and] at h
  obtain ⟨ha, hpage⟩ := splitFirst_inj (colon_not_mem a) (colon_not_mem a') h
  simp only [List.cons.injEq, true_and] at hpage
  obtain ⟨hp, hlimit⟩ := splitFirst_inj (colon_not_mem p) (colon_not_mem p') hpage
  simp only [List.cons.injEq, true_and] at hlimit
  exact ⟨numberText_injective ha, numberText_injective hp,
    number_append_inj hrest hrest' hlimit⟩

/-- `slug` is no number. -/
theorem numberText_ne_slug (z : Int) : numberText z ≠ ['s', 'l', 'u', 'g'] := by
  intro h
  have hs : 's' ∉ numberText z := not_mem_numberText rfl (by decide) z
  exact hs (h ▸ List.mem_cons_self)

/-- **The namespace tells the read**, whatever the slug is. -/
theorem key_injective : Function.Injective key := by
  intro r r' h
  have hlists := congrArg String.toList h
  rw [toList_key, toList_key, List.append_cancel_left_eq] at hlists
  obtain ⟨htag, hbody⟩ := splitFirst_inj (not_mem_tag r) (not_mem_tag r') hlists
  cases r with
  | home a b =>
      cases r' with
      | home a' b' =>
          obtain ⟨rfl, rfl⟩ := pair_inj hbody
          rfl
      | _ => simp [tag] at htag
  | categories a =>
      cases r' with
      | categories a' =>
          rw [numberText_injective hbody]
      | _ => simp [tag] at htag
  | bookList a p l =>
      cases r' with
      | bookList a' p' l' =>
          obtain ⟨rfl, rfl, rfl, -⟩ := listBody_inj (.inl rfl) (.inl rfl) hbody
          rfl
      | bookListByCategory a' p' l' slug' =>
          have hrest := (listBody_inj (.inl rfl) (.inr ⟨_, rfl⟩) hbody).2.2.2
          cases hrest
      | _ => simp [tag] at htag
  | bookListByCategory a p l slug =>
      cases r' with
      | bookList a' p' l' =>
          have hrest := (listBody_inj (.inr ⟨_, rfl⟩) (.inl rfl) hbody).2.2.2
          cases hrest
      | bookListByCategory a' p' l' slug' =>
          obtain ⟨rfl, rfl, rfl, hrest⟩ := listBody_inj (.inr ⟨_, rfl⟩) (.inr ⟨_, rfl⟩) hbody
          simp only [List.cons.injEq, true_and] at hrest
          rw [String.toList_injective hrest]
      | _ => simp [tag] at htag
  | bookDetail b a =>
      cases r' with
      | bookDetail b' a' =>
          obtain ⟨rfl, rfl⟩ := pair_inj hbody
          rfl
      | bookDetailBySlug slug' a' =>
          have hslug := splitFirst_inj (colon_not_mem b) (by decide) hbody
          exact absurd hslug.1 (numberText_ne_slug b)
      | _ => simp [tag] at htag
  | bookDetailBySlug slug a =>
      cases r' with
      | bookDetail b' a' =>
          have hslug := splitFirst_inj (by decide) (colon_not_mem b') hbody
          exact absurd hslug.1.symm (numberText_ne_slug b')
      | bookDetailBySlug slug' a' =>
          have hrest := (splitFirst_inj (by decide) (by decide) hbody).2
          obtain ⟨hslug, ha⟩ := splitLast_inj (colon_not_mem a) (colon_not_mem a') hrest
          rw [String.toList_injective hslug, numberText_injective ha]
      | _ => simp [tag] at htag

end CachedRead

/-! ### The keys of the service -/

/-- The read behind a key of `CatalogService` -/
def CatalogKey.read : CatalogKey → CachedRead
  | .home langId limit => .home langId limit
  | .bookList langId page limit => .bookList langId page limit
  | .bookListByCategory langId page limit slug => .bookListByCategory langId page limit slug
  | .bookDetail bookId langId => .bookDetail bookId langId
  | .bookDetailBySlug slug langId => .bookDetailBySlug slug langId

/-- The parameters are printed without an exponent. -/
def CatalogKey.Plain : CatalogKey → Prop
  | .home langId limit => langId < 1000000000000000000000 ∧ limit < 1000000000000000000000
  | .bookList langId page limit => langId < 1000000000000000000000 ∧
      page < 1000000000000000000000 ∧ limit < 1000000000000000000000
  | .bookListByCategory langId page limit _ => langId < 1000000000000000000000 ∧
      page < 1000000000000000000000 ∧ limit < 1000000000000000000000
  | .bookDetail bookId langId => bookId < 1000000000000000000000 ∧
      langId < 1000000000000000000000
  | .bookDetailBySlug _ langId => langId < 1000000000000000000000

theorem num_natCast {n : Nat} (h : n < 1000000000000000000000) :
    CachedRead.num n = toString n := by
  refine String.toList_injective ?_
  rw [CachedRead.num, String.toList_ofList, numberText_natCast h, toList_toString]

/-- The service uses the keys of its reads. -/
theorem text_eq_key {k : CatalogKey} (hk : k.Plain) : k.text = k.read.key := by
  cases k with
  | home langId limit =>
      unfold CatalogKey.text CatalogKey.read CachedRead.key
      dsimp only
      rw [num_natCast hk.1, num_natCast hk.2]
  | bookList langId page limit =>
      unfold CatalogKey.text CatalogKey.read CachedRead.key
      dsimp only
      rw [num_natCast hk.1, num_natCast hk.2.1,
        num_natCast hk.2.2]
  | bookListByCategory langId page limit slug =>
      unfold CatalogKey.text CatalogKey.read CachedRead.key
      dsimp only
      rw [num_natCast hk.1, num_natCast hk.2.1,
        num_natCast hk.2.2]
  | bookDetail bookId langId =>
      unfold CatalogKey.text CatalogKey.read CachedRead.key
      dsimp only
      rw [num_natCast hk.1, num_natCast hk.2]
  | bookDetailBySlug slug langId =>
      unfold CatalogKey.text CatalogKey.read CachedRead.key
      dsimp only
      rw [num_natCast hk]

/--
**No two keys of the catalog cache collide**: not those of two values, not those of two
versions, and not that of a version and that of a value.
-/
theorem cacheKeys_apart (r r' : CachedRead) (version version' : Nat) :
    (cacheDataKey r.key version = cacheDataKey r'.key version' ↔
        r = r' ∧ version = version') ∧
      (createVersionKey r.key = createVersionKey r'.key ↔ r = r') ∧
      createVersionKey r.key ≠ cacheDataKey r'.key version' :=
  ⟨by rw [cacheDataKey_inj, CachedRead.key_injective.eq_iff],
    by rw [createVersionKey_inj, CachedRead.key_injective.eq_iff],
    createVersionKey_ne_cacheDataKey _ _ _⟩

end BookStore
