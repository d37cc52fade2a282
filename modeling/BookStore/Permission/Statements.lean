import BookStore.Async.Pool
import BookStore.Auth.Services
import BookStore.Catalog.Tables

/-!
# Roles and permissions: the statements

The queries of `UserRoleRepository`, `RolePermissionRepository` and
`findPermissionByUserId`, and the commands to the cache of the guard.  The cache is in
memory and in Redis; `cache` stands for both.
-/

namespace BookStore

inductive RoleCode
  | GUEST
  | ADMIN
  | STAFF
  | CUSTOMER
  | WAREHOUSE
  deriving DecidableEq, Repr

inductive HTTPMethod
  | GET
  | POST
  | PUT
  | DELETE
  | PATCH
  | OPTIONS
  | HEAD
  deriving DecidableEq, Repr

/-- `roles`, with the columns of `userRoleRoleSelect` -/
structure Role where
  id : Nat
  code : RoleCode
  name : String
  description : Option String
  isActive : Bool
  deriving DecidableEq

/-- `permissions` -/
structure Permission where
  id : Nat
  code : String
  method : HTTPMethod
  pathPattern : String
  deriving DecidableEq

/-- `user_roles`; the key is the pair of the ids -/
structure UserRole where
  userId : Nat
  roleId : Nat
  deletedAt : Option Nat
  deriving DecidableEq

/-- `role_permissions`; the key is the pair of the ids -/
structure RolePermission where
  roleId : Nat
  permissionId : Nat
  createdAt : Nat
  updatedAt : Nat
  deriving DecidableEq

structure PermissionDb where
  users : List AuthMe
  roles : List Role
  permissions : List Permission
  userRoles : List UserRole
  rolePermissions : List RolePermission

structure PermissionWorld where
  db : PermissionDb
  cache : String → Option (List String)
  now : Nat

/-- What the services and the guard throw. -/
inductive PermissionFailure
  | forbidden
  | notFound (message : String)
  | conflict (message : String)
  /-- A property of `undefined` was read. -/
  | typeError
  | database
  deriving DecidableEq, Repr

namespace PermissionDb

variable (db : PermissionDb)

def findRole (roleId : Nat) : Option Role :=
  db.roles.find? fun r => decide (r.id = roleId)

def findPermission (permissionId : Nat) : Option Permission :=
  db.permissions.find? fun p => decide (p.id = permissionId)

/-- The permissions of a role, latest link first. -/
def permissionsOf (roleId : Nat) : List Permission :=
  (orderBy (fun l l' => decide (l'.createdAt < l.createdAt))
    (db.rolePermissions.filter fun l => decide (l.roleId = roleId))).filterMap
      fun l => db.findPermission l.permissionId

/-- `where: { userId, deletedAt: null }` -/
def rolesOf (userId : Nat) : List Role :=
  (db.userRoles.filter fun a =>
    decide (a.userId = userId) && decide (a.deletedAt = none)).filterMap
      fun a => db.findRole a.roleId

/-- `where: { userId }`, with the links of the roles as they come -/
def rolesWithPermissions (userId : Nat) : List (RoleCode × List Permission) :=
  (db.userRoles.filter fun a => decide (a.userId = userId)).filterMap fun a =>
    (db.findRole a.roleId).map fun role =>
      (role.code, (db.rolePermissions.filter fun l => decide (l.roleId = role.id)).filterMap
        fun l => db.findPermission l.permissionId)

end PermissionDb

/-! ### Statements -/

inductive PermissionStmt
  | findRolesByUserId (userId : Nat)
  | findUserById (id : Nat)
  | findPermissionByUserId (userId : Nat)
  | findByRoleId (roleId : Nat)
  | findRoleById (roleId : Nat)
  | findPermissionById (permissionId : Nat)
  | findByComposite (roleId permissionId : Nat)
  | createRolePermission (roleId permissionId : Nat)
  | createUserRole (userId roleId : Nat)
  | softDeleteUserRole (userId roleId : Nat)
  /-- `cacheManager.get` and `cacheManager.set` -/
  | get (key : String)
  | set (key : String) (permissions : List String) (ttl : Nat)
  deriving DecidableEq

abbrev PermissionResponse : PermissionStmt → Type
  | .findRolesByUserId _ => List Role
  | .findUserById _ => Option AuthMe
  | .findPermissionByUserId _ => List (RoleCode × List Permission)
  | .findByRoleId _ => List Permission
  | .findRoleById _ => Option Nat
  | .findPermissionById _ => Option Nat
  | .findByComposite _ _ => Option RolePermission
  | .createRolePermission _ _ => RolePermission
  | .createUserRole _ _ => UserRole
  | .softDeleteUserRole _ _ => UserRole
  | .get _ => Option (List String)
  | .set _ _ _ => Unit

/-- The assignment of a role to a user. -/
def PermissionDb.assignment (db : PermissionDb) (userId roleId : Nat) : Option UserRole :=
  db.userRoles.find? fun a => decide (a.userId = userId) && decide (a.roleId = roleId)

def PermissionDb.link (db : PermissionDb) (roleId permissionId : Nat) :
    Option RolePermission :=
  db.rolePermissions.find? fun l =>
    decide (l.roleId = roleId) && decide (l.permissionId = permissionId)

/-- The effect and the answer of a statement. -/
def permissionExec : (s : PermissionStmt) → PermissionWorld →
    Except PermissionFailure (PermissionWorld × PermissionResponse s)
  | .findRolesByUserId userId, w => .ok (w, w.db.rolesOf userId)
  | .findUserById id, w => .ok (w, w.db.users.find? fun u => decide (u.id = id))
  | .findPermissionByUserId userId, w => .ok (w, w.db.rolesWithPermissions userId)
  | .findByRoleId roleId, w => .ok (w, w.db.permissionsOf roleId)
  | .findRoleById roleId, w => .ok (w, (w.db.findRole roleId).map Role.id)
  | .findPermissionById permissionId, w =>
      .ok (w, (w.db.findPermission permissionId).map Permission.id)
  | .findByComposite roleId permissionId, w => .ok (w, w.db.link roleId permissionId)
  | .createRolePermission roleId permissionId, w =>
      if (w.db.link roleId permissionId).isSome ∨ (w.db.findRole roleId).isNone ∨
          (w.db.findPermission permissionId).isNone then
        .error .database
      else
        let created : RolePermission := ⟨roleId, permissionId, w.now, w.now⟩
        .ok ({ w with
          db := { w.db with rolePermissions := w.db.rolePermissions ++ [created] } }, created)
  | .createUserRole userId roleId, w =>
      if (w.db.assignment userId roleId).isSome ∨ (w.db.findRole roleId).isNone ∨
          (w.db.users.find? fun u => decide (u.id = userId)).isNone then
        .error .database
      else
        let created : UserRole := ⟨userId, roleId, none⟩
        .ok ({ w with db := { w.db with userRoles := w.db.userRoles ++ [created] } }, created)
  | .softDeleteUserRole userId roleId, w =>
      match w.db.assignment userId roleId with
      | none => .error .database
      | some a =>
          .ok ({ w with
            db := { w.db with
              userRoles := w.db.userRoles.map fun a =>
                if a.userId = userId ∧ a.roleId = roleId then
                  { a with deletedAt := some w.now } else a } },
            { a with deletedAt := some w.now })
  | .get key, w => .ok (w, w.cache key)
  | .set key permissions _, w =>
      .ok ({ w with cache := Function.update w.cache key (some permissions) }, ())

end BookStore
