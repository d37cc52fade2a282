import BookStore.Async.Expiring
import BookStore.Async.Parallel
import BookStore.Cache.SharedKeys
import BookStore.Catalog.BookCreation

/-!
# The shared cache: the services

`LanguageService`, `RoleService` and the statistics of `AdminBookService`, `AdminUserService` and
`AdminCategoryService` answer from the cache for as long as they have an entry there.

* `SharedDb` are the tables that they read, `SharedQuery` the queries of the repositories.
* `sharedServer` runs the services in any order, while the tables change and other services use
  the cache.

`since` is bookkeeping: the moment at which a request arrived.
-/

namespace BookStore
namespace Shared

open Async Program
open BookCreation (LanguageRow Named)

/-! ### Tables -/

/-- `roles` -/
structure RoleRow extends Role where
  deletedAt : Option Nat
  deriving DecidableEq

/-- `users`, as far as they are counted -/
structure UserRow where
  id : Nat
  lastLoginAt : Option Nat
  deletedAt : Option Nat
  deriving DecidableEq

structure SharedDb where
  languages : List LanguageRow
  roles : List RoleRow
  users : List UserRow
  userRoles : List UserRole
  categories : List Category
  books : List Book
  authors : List Named
  publishers : List Named

/-- `RoleDTO` -/
structure RoleDTO where
  id : Nat
  code : RoleCode
  name : String
  deriving DecidableEq

def RoleRow.toDto (r : RoleRow) : RoleDTO :=
  ⟨r.id, r.code, r.name⟩

/-- The columns of a language that are selected -/
structure LanguageDto where
  id : Nat
  code : String
  deriving DecidableEq

def toLanguageDto (l : LanguageRow) : LanguageDto :=
  ⟨l.id, l.code⟩

inductive SharedQuery
  | findLanguageByCode (code : String)
  | findDefaultLanguage
  | findAll
  | findRoleByName (name : String)
  | countUsers
  | countCustomersLoggedInSince (since : Nat)
  | countCategories
  | countActiveCategories
  | countTotalBooks
  | countActiveBooks
  | countAuthors
  | countPublishers
  deriving DecidableEq

/-- The answer of a query; the rest of them count. -/
abbrev SharedAnswerOf : SharedQuery → Type
  | .findLanguageByCode _ => Option LanguageDto
  | .findDefaultLanguage => Option LanguageDto
  | .findAll => List RoleDTO
  | .findRoleByName _ => Option RoleDTO
  | _ => Nat

namespace SharedDb

variable (db : SharedDb)

/-- `userRoles: { some: … }` of `countCustomersLoggedInSince` -/
def isCustomer (userId : Nat) : Bool :=
  db.userRoles.any fun a =>
    decide (a.userId = userId) && decide (a.deletedAt = none) &&
      db.roles.any fun r => decide (r.id = a.roleId) && decide (r.deletedAt = none) &&
        r.isActive && decide (r.code = .CUSTOMER)

end SharedDb

/-- The queries of the repositories -/
def answer (sql : SqlText) : (q : SharedQuery) → SharedDb → SharedAnswerOf q
  | .findLanguageByCode code, db =>
      (db.languages.find? fun l => sql.eq l.code code && l.isActive).map toLanguageDto
  | .findDefaultLanguage, db =>
      (orderBy (fun l l' => decide (l.id < l'.id))
        (db.languages.filter LanguageRow.isActive)).head?.map toLanguageDto
  | .findAll, db => db.roles.map RoleRow.toDto
  | .findRoleByName name, db => (db.roles.find? fun r => sql.eq r.name name).map RoleRow.toDto
  | .countUsers, db => db.users.countP fun u => decide (u.deletedAt = none)
  | .countCustomersLoggedInSince since, db =>
      db.users.countP fun u => decide (u.deletedAt = none) &&
        u.lastLoginAt.any (fun t => decide (since ≤ t)) && db.isCustomer u.id
  | .countCategories, db => db.categories.countP fun c => decide (c.deletedAt = none)
  | .countActiveCategories, db =>
      db.categories.countP fun c => decide (c.deletedAt = none) && c.isActive
  | .countTotalBooks, db => db.books.countP fun b => decide (b.deletedAt = none)
  | .countActiveBooks, db => db.books.countP fun b => decide (b.deletedAt = none) && b.isActive
  | .countAuthors, db => db.authors.length
  | .countPublishers, db => db.publishers.length

/-! ### Values -/

/-- The values that are kept and answered, as JSON -/
inductive SharedValue
  | language (language : LanguageDto)
  | roles (roles : List RoleDTO)
  | role (role : Option RoleDTO)
  | bookStats (totalBooks activeBooks totalAuthors totalPublishers : Nat)
  | userStats (totalUsers customersLoggedInLast24Hours : Nat)
  | categoryStats (totalCategories activeCategories : Nat)
  /-- What the other services keep: permissions of roles and data of ISBNs -/
  | other (json : String)
  deriving DecidableEq

/-- `if (cached)`: only `null` is not. -/
def SharedValue.truthy : SharedValue → Bool
  | .role none => false
  | _ => true

inductive SharedFailure
  | notFound (message : String)
  | database
  deriving DecidableEq, Repr

/-! ### The services -/

abbrev SharedStmt : Type :=
  ExpiringStmt String SharedValue SharedQuery

abbrev SharedResponse : SharedStmt → Type :=
  ExpiringResponse SharedAnswerOf

abbrev SharedService : Type → Type :=
  Program SharedStmt SharedResponse SharedFailure

def CATEGORY_CACHE_TTL : Nat := 60000

/-- `RoleService.TTL` -/
def ROLE_TTL : Nat := 60000

/-- `ADMIN_STATS_CACHE_TTL`, `ADMIN_USER_STATS_CACHE_TTL` and `ADMIN_CATEGORY_STATS_CACHE_TTL` -/
def ADMIN_STATS_CACHE_TTL : Nat := 86400000

def NO_ACTIVE_LANGUAGE_FOUND : String := "Không có ngôn ngữ đang hoạt động"

/-- `cacheManager.set`, and the value -/
def keep (since : Nat) (key : SharedKey) (ttl : Nat) (value : SharedValue) :
    SharedService SharedValue :=
  (await (ExpiringStmt.set key.text value (some ttl) since)).bind fun _ => ret value

def query (q : SharedQuery) : SharedService (SharedAnswerOf q) :=
  await (ExpiringStmt.query q)

/-- `(lang ?? 'vi').trim().toLowerCase()` -/
def normalized (js : JsText) (lang : Option String) : String :=
  js.toLowerCase (trim (lang.getD "vi"))

/-- `LanguageService.resolveLanguage` -/
def resolveLanguage (js : JsText) (since : Nat) (lang : Option String) :
    SharedService SharedValue :=
  let key : SharedKey := .resolve (normalized js lang)
  readThrough SharedValue.truthy key.text
    ((query (.findLanguageByCode (normalized js lang))).bind fun found =>
      match found with
      | some found => keep since key CATEGORY_CACHE_TTL (.language found)
      | none =>
          (query .findDefaultLanguage).bind fun fallback =>
            match fallback with
            | none => raise (.notFound NO_ACTIVE_LANGUAGE_FOUND)
            | some fallback => keep since key CATEGORY_CACHE_TTL (.language fallback))

/-- `RoleService.findAllRole` -/
def findAllRole (since : Nat) : SharedService SharedValue :=
  readThrough SharedValue.truthy SharedKey.all.text
    ((query .findAll).bind fun roles =>
      if roles = [] then ret (.roles roles) else keep since .all ROLE_TTL (.roles roles))

/-- `RoleService.findRoleByName` -/
def findRoleByName (since : Nat) (name : String) : SharedService SharedValue :=
  readThrough SharedValue.truthy (SharedKey.byName name).text
    ((query (.findRoleByName name)).bind fun role =>
      match role with
      | none => ret (.role none)
      | some role => keep since (.byName name) ROLE_TTL (.role (some role)))

/-- `RoleService.invalidateRoleCache` -/
def invalidateRoleCache (name : Option String) : SharedService Unit :=
  (await (ExpiringStmt.del SharedKey.all.text)).bind fun _ =>
    match name with
    | none => ret ()
    | some name =>
        if name = "" then ret () else await (ExpiringStmt.del (SharedKey.byName name).text)

/-- A query that counts -/
inductive CountQuery
  | countUsers
  | countCustomersLoggedInSince (since : Nat)
  | countCategories
  | countActiveCategories
  | countTotalBooks
  | countActiveBooks
  | countAuthors
  | countPublishers
  deriving DecidableEq

/-- The count, as a statement of a service -/
def CountQuery.send : CountQuery → SharedService Nat
  | .countUsers => query .countUsers
  | .countCustomersLoggedInSince since => query (.countCustomersLoggedInSince since)
  | .countCategories => query .countCategories
  | .countActiveCategories => query .countActiveCategories
  | .countTotalBooks => query .countTotalBooks
  | .countActiveBooks => query .countActiveBooks
  | .countAuthors => query .countAuthors
  | .countPublishers => query .countPublishers

/-- `AdminBookService.getStats` -/
def bookStats (since : Nat) : SharedService SharedValue :=
  readThrough SharedValue.truthy SharedKey.bookStats.text
    ((forAll [.countTotalBooks, .countActiveBooks, .countAuthors, .countPublishers]
      CountQuery.send).bind fun counts =>
        keep since .bookStats ADMIN_STATS_CACHE_TTL
          (.bookStats (counts.getD 0 0) (counts.getD 1 0) (counts.getD 2 0) (counts.getD 3 0)))

/-- `AdminUserService.getStats` -/
def userStats (since : Nat) : SharedService SharedValue :=
  readThrough SharedValue.truthy SharedKey.userStats.text
    ((await ExpiringStmt.dateNow).bind fun (now : Nat) =>
      -- no login is earlier than the start of time
      (forAll [.countUsers, .countCustomersLoggedInSince (now - ADMIN_STATS_CACHE_TTL)]
        CountQuery.send).bind fun counts =>
          keep since .userStats ADMIN_STATS_CACHE_TTL
            (.userStats (counts.getD 0 0) (counts.getD 1 0)))

/-- `AdminCategoryService.getStats` -/
def categoryStats (since : Nat) : SharedService SharedValue :=
  readThrough SharedValue.truthy SharedKey.categoryStats.text
    ((forAll [.countCategories, .countActiveCategories] CountQuery.send).bind fun counts =>
      keep since .categoryStats ADMIN_STATS_CACHE_TTL
        (.categoryStats (counts.getD 0 0) (counts.getD 1 0)))

/-! ### The server -/

/-- The reads through the cache -/
inductive SharedRead
  | resolveLanguage (lang : Option String)
  | findAllRole
  | findRoleByName (name : String)
  | bookStats
  | userStats
  | categoryStats
  deriving DecidableEq

/-- The key under which the answer is kept -/
def SharedRead.key (js : JsText) : SharedRead → SharedKey
  | .resolveLanguage lang => .resolve (normalized js lang)
  | .findAllRole => .all
  | .findRoleByName name => .byName name
  | .bookStats => .bookStats
  | .userStats => .userStats
  | .categoryStats => .categoryStats

/-- How long the answer is kept -/
def SharedRead.ttl : SharedRead → Nat
  | .resolveLanguage _ => CATEGORY_CACHE_TTL
  | .findAllRole => ROLE_TTL
  | .findRoleByName _ => ROLE_TTL
  | _ => ADMIN_STATS_CACHE_TTL

def SharedRead.handler (js : JsText) (since : Nat) : SharedRead → SharedService SharedValue
  | .resolveLanguage lang => Shared.resolveLanguage js since lang
  | .findAllRole => Shared.findAllRole since
  | .findRoleByName name => Shared.findRoleByName since name
  | .bookStats => Shared.bookStats since
  | .userStats => Shared.userStats since
  | .categoryStats => Shared.categoryStats since

inductive SharedAnswer
  /-- The answer to a read; when it arrived is bookkeeping. -/
  | value (arrivedAt : Nat) (r : SharedRead) (value : SharedValue)
  | invalidated
  /-- A statement that was abandoned by its sender. -/
  | none
  deriving DecidableEq

/-- A key of the other services that use the cache -/
inductive OtherKey
  | permissions (roleId : Int)
  | isbn (number : String) (langId : Int)
  deriving DecidableEq

def OtherKey.key : OtherKey → SharedKey
  | .permissions roleId => .permissions roleId
  | .isbn number langId => .isbn number langId

/-- A step of the environment. -/
inductive SharedEvent
  | arrive (r : SharedRead)
  | invalidate (name : Option String)
  /-- Some service writes to the tables. -/
  | edit (f : SharedDb → SharedDb)
  | tick (ms : Nat)
  /-- An entry is dropped: its time is over, or memory is short. -/
  | drop (key : String)
  /-- Another service keeps a value. -/
  | setOther (key : OtherKey) (json : String) (ttl : Option Nat)

abbrev SharedWorld : Type :=
  ExpiringWorld String SharedValue SharedDb

/-- The running server. -/
def sharedServer (js : JsText) (sql : SqlText) :
    System SharedStmt SharedResponse SharedFailure SharedAnswer SharedWorld SharedEvent where
  exec := expiringExec (answer sql)
  fault := .database
  idle := .none
  env := fun e w =>
    match e with
    | .arrive r =>
        some (w, some ((r.handler js w.now).bind fun value => ret (.value w.now r value)))
    | .invalidate name =>
        some (w, some ((invalidateRoleCache name).bind fun _ => ret .invalidated))
    | .edit f => some ({ w with db := f w.db }, none)
    | .tick ms => some ({ w with now := w.now + ms }, none)
    | .drop key => some ({ w with entries := Function.update w.entries key none }, none)
    | .setOther key json ttl =>
        some ({ w with
          entries := Function.update w.entries key.key.text
            (some ⟨.other json, w.now, ttl, w.now⟩) }, none)

/-- The server's state: the tables, the cache and the handlers under way. -/
abbrev SharedState :=
  Config SharedStmt SharedResponse SharedFailure SharedAnswer SharedWorld

end Shared
end BookStore
