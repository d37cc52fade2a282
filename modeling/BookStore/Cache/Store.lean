import BookStore.Async.Pool
import BookStore.Text
import Mathlib.Logic.Function.Basic

/-!
# The versioned cache

`CacheVersionService` keeps, for each namespace, a version number in Redis and stores
values under keys that contain it: a bump of the version makes the stored values
unreachable.

* `CacheStmt` are the commands to Redis and the queries to a database; `Q` is the
  type of queries and `V` that of cached values.  Values are what
  `JSON.parse(JSON.stringify(value))` gives back.
* `withCache` and `bumpVersion` are the functions of the service.

No command writes a version under the key of a value or a value under the key of a
version, so the two are kept in maps of their own.
-/

namespace BookStore

open Async Program

def CACHE_PREFIX : String := "cache:version"

/-- The commands and the queries. -/
inductive CacheStmt (Q V : Type)
  | get (key : String)
  | set (key : String) (version : Nat)
  | incr (key : String)
  /-- `GET` and `SET … EX` of a value -/
  | getData (key : String)
  | setData (key : String) (value : V) (ttl : Nat)
  | query (q : Q)

variable {Q V D E : Type} {QR : Q → Type}

/-- The answer of a statement. -/
abbrev CacheResponse (QR : Q → Type) : CacheStmt Q V → Type
  | .get _ => Option Nat
  | .incr _ => Nat
  | .getData _ => Option V
  | .query q => QR q
  | _ => Unit

/-- What an `INCR` has answered, and the database of that moment. -/
structure Bump (D : Type) where
  key : String
  version : Nat
  db : D

/-- Redis and a database. -/
structure CacheWorld (D V : Type) where
  db : D
  versions : String → Option Nat
  data : String → Option V
  /-- Bookkeeping -/
  bumps : List (Bump D)

/-- The effect and the answer of a statement, where `run` answers the queries. -/
def cacheExec (run : (q : Q) → D → Except E (D × QR q)) :
    (s : CacheStmt Q V) → CacheWorld D V →
      Except E (CacheWorld D V × CacheResponse QR s)
  | .get key, w => .ok (w, w.versions key)
  | .set key version, w =>
      .ok ({ w with versions := Function.update w.versions key (some version) }, ())
  | .incr key, w =>
      -- an absent key counts as 0
      let version := (w.versions key).getD 0 + 1
      .ok ({ w with
        versions := Function.update w.versions key (some version)
        bumps := w.bumps ++ [⟨key, version, w.db⟩] }, version)
  | .getData key, w => .ok (w, w.data key)
  | .setData key value _, w =>
      .ok ({ w with data := Function.update w.data key (some value) }, ())
  | .query q, w =>
      match run q w.db with
      | .ok (db, r) => .ok ({ w with db := db }, r)
      | .error e => .error e

/-- An entry that has reached its time to live. -/
def CacheWorld.expire (w : CacheWorld D V) (key : String) : CacheWorld D V :=
  { w with data := Function.update w.data key none }

/-! ### `CacheVersionService` -/

section Service

abbrev CacheService {Q : Type} (QR : Q → Type) (E V α : Type) : Type :=
  Program (CacheStmt Q V) (CacheResponse QR) E α

def command {Q : Type} {QR : Q → Type} {E V : Type} (s : CacheStmt Q V) :
    CacheService QR E V (CacheResponse QR s) :=
  await s

def createVersionKey (ns : String) : String :=
  CACHE_PREFIX ++ ":" ++ ns ++ ":version"

/-- The key of a value that is stored under a version. -/
def cacheDataKey (ns : String) (version : Nat) : String :=
  CACHE_PREFIX ++ ":data:" ++ ns ++ ":v:" ++ toString version

/-- `getVersionKey`: an absent version is set to 1. -/
def getVersionKey (ns : String) : CacheService QR E V Nat := do
  let version : Option Nat ← command (.get (createVersionKey ns))
  match version with
  | none => do
      let _ ← command (.set (createVersionKey ns) 1)
      ret 1
  | some version => ret version

def createCacheKey (ns : String) : CacheService QR E V String := do
  let version ← getVersionKey ns
  ret (cacheDataKey ns version)

/-- The stored value if there is one and it is `truthy`, else that of `factory`. -/
def withCache
    (truthy : V → Bool) (ns : String) (ttl : Nat)
    (factory : CacheService QR E V V) : CacheService QR E V V := do
  let cacheVersionKey ← createCacheKey ns
  let raw : Option V ← command (.getData cacheVersionKey)
  match raw.filter truthy with
  | some cached => ret cached
  | none => do
      let value ← factory
      let _ ← command (.setData cacheVersionKey value ttl)
      ret value

def bumpVersion (ns : String) : CacheService QR E V Nat :=
  command (.incr (createVersionKey ns))

end Service

/-! ### Keys -/

theorem toList_cacheDataKey (ns : String) (version : Nat) :
    (cacheDataKey ns version).toList =
      (CACHE_PREFIX.toList ++ ":data:".toList ++ ns.toList ++ [':', 'v']) ++
        ':' :: natText version := by
  simp [cacheDataKey, natText]

theorem cacheDataKey_inj
    {ns ns' : String} {version version' : Nat} :
    cacheDataKey ns version = cacheDataKey ns' version' ↔
      ns = ns' ∧ version = version' := by
  refine ⟨fun h => ?_, fun ⟨hns, hversion⟩ => by rw [hns, hversion]⟩
  have hlists := congrArg String.toList h
  rw [toList_cacheDataKey, toList_cacheDataKey] at hlists
  obtain ⟨hns, hversion⟩ :=
    splitLast_inj (not_mem_natText rfl _) (not_mem_natText rfl _) hlists
  simp only [List.append_cancel_right_eq, List.append_cancel_left_eq] at hns
  exact ⟨String.toList_injective hns, natText_injective hversion⟩

theorem createVersionKey_inj {ns ns' : String} :
    createVersionKey ns = createVersionKey ns' ↔ ns = ns' := by
  simp [createVersionKey]

/-- A version and a value are never stored under the same key. -/
theorem createVersionKey_ne_cacheDataKey (ns ns' : String) (version : Nat) :
    createVersionKey ns ≠ cacheDataKey ns' version := by
  intro h
  have hlists := congrArg String.toList h
  have hversion : (createVersionKey ns).toList =
      (CACHE_PREFIX.toList ++ ":".toList ++ ns.toList) ++ ':' :: "version".toList := by
    simp [createVersionKey]
  rw [hversion, toList_cacheDataKey] at hlists
  obtain ⟨-, hdigits⟩ := splitLast_inj (by decide) (not_mem_natText rfl _) hlists
  exact not_mem_natText (c := 'v') rfl version (hdigits ▸ by decide)

end BookStore
