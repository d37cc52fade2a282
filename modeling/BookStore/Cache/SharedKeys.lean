import BookStore.Catalog.CacheKeys
import BookStore.Permission.Service

/-!
# The keys of the shared cache

Beside the catalog, seven services keep values in one cache: under fixed keys, and under keys
that contain texts of the request or of the database, which may contain separators.

* `SharedKey.text_injective`: no two of these keys are the same text.
* `SharedKey.text_ne_key`: they are no namespaces of the catalog.
* `sharedKeys_apart`: nor are they keys of the versioned cache.

A key begins with its area, without a colon.
-/

namespace BookStore

/-- `cacheKey.admin`, `language`, `search`, `role` and `order` -/
inductive SharedKey
  | bookStats
  | userStats
  | categoryStats
  | resolve (code : String)
  | semantic (q : String) (langId page limit : Int)
  | isbn (number : String) (langId : Int)
  | all
  | byName (name : String)
  | permissions (roleId : Int)
  | status (orderCode : String)
  deriving DecidableEq

namespace SharedKey

open CachedRead

def text : SharedKey → String
  | .bookStats => "admin:stats"
  | .userStats => "admin:users:stats"
  | .categoryStats => "admin:categories:stats"
  | .resolve code => "lang:" ++ code
  | .semantic q langId page limit =>
      "query:books-sematic:" ++ q ++ ":" ++ num langId ++ ":" ++ num page ++ ":" ++ num limit
  | .isbn number langId => "isbn:" ++ number ++ ":langId:" ++ num langId
  | .all => "roles:all"
  | .byName name => "roles:name:" ++ name
  | .permissions roleId => "role_user:" ++ num roleId ++ ":perms"
  | .status orderCode => "order:status:" ++ orderCode

/-! ### Taking a key apart -/

/-- The area of a key -/
def area : SharedKey → List Char
  | .bookStats => ['a', 'd', 'm', 'i', 'n']
  | .userStats => ['a', 'd', 'm', 'i', 'n']
  | .categoryStats => ['a', 'd', 'm', 'i', 'n']
  | .resolve _ => ['l', 'a', 'n', 'g']
  | .semantic _ _ _ _ => ['q', 'u', 'e', 'r', 'y']
  | .isbn _ _ => ['i', 's', 'b', 'n']
  | .all => ['r', 'o', 'l', 'e', 's']
  | .byName _ => ['r', 'o', 'l', 'e', 's']
  | .permissions _ => ['r', 'o', 'l', 'e', '_', 'u', 's', 'e', 'r']
  | .status _ => ['o', 'r', 'd', 'e', 'r']

/-- `books-sematic:` -/
def semanticTag : List Char :=
  ['b', 'o', 'o', 'k', 's', '-', 's', 'e', 'm', 'a', 't', 'i', 'c', ':']

/-- The rest of a key -/
def body : SharedKey → List Char
  | .bookStats => ['s', 't', 'a', 't', 's']
  | .userStats => ['u', 's', 'e', 'r', 's', ':', 's', 't', 'a', 't', 's']
  | .categoryStats =>
      ['c', 'a', 't', 'e', 'g', 'o', 'r', 'i', 'e', 's', ':', 's', 't', 'a', 't', 's']
  | .resolve code => code.toList
  | .semantic q langId page limit =>
      semanticTag ++ (((q.toList ++ ':' :: numberText langId) ++ ':' :: numberText page) ++
        ':' :: numberText limit)
  | .isbn number langId =>
      (number.toList ++ [':', 'l', 'a', 'n', 'g', 'I', 'd']) ++ ':' :: numberText langId
  | .all => ['a', 'l', 'l']
  | .byName name => ['n', 'a', 'm', 'e', ':'] ++ name.toList
  | .permissions roleId => numberText roleId ++ ':' :: ['p', 'e', 'r', 'm', 's']
  | .status orderCode => ['s', 't', 'a', 't', 'u', 's', ':'] ++ orderCode.toList

/-- The texts of the fixed keys -/
theorem toList_fixed :
    "admin:stats".toList = bookStats.area ++ ':' :: bookStats.body ∧
      "admin:users:stats".toList = userStats.area ++ ':' :: userStats.body ∧
      "admin:categories:stats".toList = categoryStats.area ++ ':' :: categoryStats.body ∧
      "roles:all".toList = all.area ++ ':' :: all.body := by
  decide +kernel

/-- The texts of the templates -/
theorem toList_templates :
    "lang:".toList = ['l', 'a', 'n', 'g', ':'] ∧
      "query:books-sematic:".toList = ['q', 'u', 'e', 'r', 'y', ':'] ++ semanticTag ∧
      "isbn:".toList = ['i', 's', 'b', 'n', ':'] ∧
      ":langId:".toList = [':', 'l', 'a', 'n', 'g', 'I', 'd', ':'] ∧
      "roles:name:".toList = ['r', 'o', 'l', 'e', 's', ':', 'n', 'a', 'm', 'e', ':'] ∧
      "role_user:".toList = ['r', 'o', 'l', 'e', '_', 'u', 's', 'e', 'r', ':'] ∧
      ":perms".toList = [':', 'p', 'e', 'r', 'm', 's'] ∧
      "order:status:".toList =
        ['o', 'r', 'd', 'e', 'r', ':', 's', 't', 'a', 't', 'u', 's', ':'] ∧
      ":".toList = [':'] := by
  decide +kernel

theorem toList_text (k : SharedKey) : k.text.toList = k.area ++ ':' :: k.body := by
  obtain ⟨hbooks, husers, hcategories, hall⟩ := toList_fixed
  obtain ⟨hlang, hquery, hisbn, hlangId, hname, hrole, hperms, hstatus, hcolon⟩ :=
    toList_templates
  cases k with
  | bookStats =>
      exact hbooks
  | userStats =>
      exact husers
  | categoryStats =>
      exact hcategories
  | resolve code =>
      unfold text
      rw [String.toList_append, hlang]
      rfl
  | semantic q langId page limit =>
      unfold text
      rw [String.toList_append, String.toList_append, String.toList_append, String.toList_append,
        String.toList_append, String.toList_append, String.toList_append, hquery, hcolon]
      simp [num, area, body]
  | isbn number langId =>
      unfold text
      rw [String.toList_append, String.toList_append, String.toList_append, hisbn, hlangId]
      simp [num, area, body]
  | all =>
      exact hall
  | byName name =>
      unfold text
      rw [String.toList_append, hname]
      rfl
  | permissions roleId =>
      unfold text
      rw [String.toList_append, String.toList_append, hrole, hperms]
      simp [num, area, body]
  | status orderCode =>
      unfold text
      rw [String.toList_append, hstatus]
      rfl

theorem not_mem_area (k : SharedKey) : ':' ∉ k.area := by
  cases k <;> simp [area]

theorem area_body_of_text
    {k k' : SharedKey} (h : k.text = k'.text) : k.area = k'.area ∧ k.body = k'.body := by
  have hlists := congrArg String.toList h
  rw [toList_text, toList_text] at hlists
  exact splitFirst_inj (not_mem_area k) (not_mem_area k') hlists

theorem semantic_inj
    {q q' : String} {langId page limit langId' page' limit' : Int}
    (h : (semantic q langId page limit).body = (semantic q' langId' page' limit').body) :
    q = q' ∧ langId = langId' ∧ page = page' ∧ limit = limit' := by
  simp only [body, List.append_cancel_left_eq] at h
  obtain ⟨h, hlimit⟩ := splitLast_inj (colon_not_mem limit) (colon_not_mem limit') h
  obtain ⟨h, hpage⟩ := splitLast_inj (colon_not_mem page) (colon_not_mem page') h
  obtain ⟨hq, hlang⟩ := splitLast_inj (colon_not_mem langId) (colon_not_mem langId') h
  exact ⟨String.toList_injective hq, numberText_injective hlang, numberText_injective hpage,
    numberText_injective hlimit⟩

/-- **The key tells the value**, whatever the texts in it are. -/
theorem text_injective : Function.Injective text := by
  intro k k' h
  obtain ⟨harea, hbody⟩ := area_body_of_text h
  cases k with
  | bookStats =>
      cases k' with
      | bookStats => rfl
      | userStats => simp [body] at hbody
      | categoryStats => simp [body] at hbody
      | _ => simp [area] at harea
  | userStats =>
      cases k' with
      | bookStats => simp [body] at hbody
      | userStats => rfl
      | categoryStats => simp [body] at hbody
      | _ => simp [area] at harea
  | categoryStats =>
      cases k' with
      | bookStats => simp [body] at hbody
      | userStats => simp [body] at hbody
      | categoryStats => rfl
      | _ => simp [area] at harea
  | resolve code =>
      cases k' with
      | resolve code' => rw [String.toList_injective hbody]
      | _ => simp [area] at harea
  | semantic q langId page limit =>
      cases k' with
      | semantic q' langId' page' limit' =>
          obtain ⟨rfl, rfl, rfl, rfl⟩ := semantic_inj hbody
          rfl
      | _ => simp [area] at harea
  | isbn number langId =>
      cases k' with
      | isbn number' langId' =>
          obtain ⟨hisbn, hlang⟩ :=
            splitLast_inj (colon_not_mem langId) (colon_not_mem langId') hbody
          rw [String.toList_injective (List.append_cancel_right hisbn),
            numberText_injective hlang]
      | _ => simp [area] at harea
  | all =>
      cases k' with
      | all => rfl
      | byName name' => simp [body] at hbody
      | _ => simp [area] at harea
  | byName name =>
      cases k' with
      | all => simp [body] at hbody
      | byName name' => rw [String.toList_injective (List.append_cancel_left hbody)]
      | _ => simp [area] at harea
  | permissions roleId =>
      cases k' with
      | permissions roleId' => rw [numberText_injective (List.append_cancel_right hbody)]
      | _ => simp [area] at harea
  | status orderCode =>
      cases k' with
      | status orderCode' => rw [String.toList_injective (List.append_cancel_left hbody)]
      | _ => simp [area] at harea

/-! ### The other keys -/

theorem area_ne_catalog (k : SharedKey) :
    k.area ≠ ['c', 'a', 't', 'a', 'l', 'o', 'g'] := by
  cases k <;> simp [area]

theorem area_ne_cache (k : SharedKey) : k.area ≠ ['c', 'a', 'c', 'h', 'e'] := by
  cases k <;> simp [area]

theorem text_ne_key (k : SharedKey) (r : CachedRead) : k.text ≠ r.key := by
  intro h
  have hlists := congrArg String.toList h
  rw [toList_text, toList_key] at hlists
  have hcatalog : CachedRead.area ++ (r.tag ++ ':' :: r.body) =
      ['c', 'a', 't', 'a', 'l', 'o', 'g'] ++ ':' :: (r.tag ++ ':' :: r.body) := rfl
  rw [hcatalog] at hlists
  exact area_ne_catalog k (splitFirst_inj (not_mem_area k) (by simp) hlists).1

/-- `cache:version` -/
theorem toList_prefix :
    CACHE_PREFIX.toList =
      ['c', 'a', 'c', 'h', 'e'] ++ ':' :: ['v', 'e', 'r', 's', 'i', 'o', 'n'] := by
  decide +kernel

theorem text_ne_of_prefix (k : SharedKey) {s : String} {l : List Char}
    (hs : s.toList = CACHE_PREFIX.toList ++ l) :
    k.text ≠ s := by
  intro h
  have hlists := congrArg String.toList h
  rw [toList_text, hs, toList_prefix, List.append_assoc, List.cons_append] at hlists
  exact area_ne_cache k (splitFirst_inj (not_mem_area k) (by simp) hlists).1

theorem text_permissions {roleId : Nat} (h : roleId < 1000000000000000000000) :
    (permissions roleId).text = permissionsKey roleId := by
  unfold text permissionsKey
  dsimp only
  rw [num_natCast h]

end SharedKey

/--
**The keys of the caches are apart.**  Two values of the shared cache are never kept under the
same key, and no such key is a key of the versioned cache, be it of a version or of a value.
-/
theorem sharedKeys_apart (k k' : SharedKey) (r : CachedRead) (version : Nat) :
    (k.text = k'.text ↔ k = k') ∧ k.text ≠ r.key ∧ k.text ≠ createVersionKey r.key ∧
      k.text ≠ cacheDataKey r.key version := by
  refine ⟨SharedKey.text_injective.eq_iff, k.text_ne_key r, ?_, ?_⟩
  · refine k.text_ne_of_prefix (l := ":".toList ++ r.key.toList ++ ":version".toList) ?_
    simp [createVersionKey]
  · refine k.text_ne_of_prefix
      (l := ":data:".toList ++ r.key.toList ++ ":v:".toList ++ (toString version).toList) ?_
    simp [cacheDataKey]

end BookStore
