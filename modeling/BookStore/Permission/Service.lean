import BookStore.Async.Parallel
import BookStore.Permission.Statements
import BookStore.Text

/-!
# Roles and permissions: the guard and the services

`PermissionsGuard`, `AuthService.getMe` and what `UserRoleService` and
`RolePermissionService` do to the assignments and the links.  The guard asks the cache
for the permissions of each role and fills it where it has none; `getMe` asks the
database.
-/

namespace BookStore

open Async Program

abbrev PermissionService := Program PermissionStmt PermissionResponse PermissionFailure

/-- Await a statement. -/
abbrev permissionQuery (s : PermissionStmt) : PermissionService (PermissionResponse s) :=
  await s

namespace RolePermissionMessage

def ROLE_NOT_FOUND : String := "Không tìm thấy vai trò"
def PERMISSION_NOT_FOUND : String := "Không tìm thấy quyền"
def ROLE_PERMISSION_ALREADY_EXISTS : String := "Phân quyền cho vai trò đã tồn tại"

end RolePermissionMessage

/-- `PERMISSION_CACHE_TTL` -/
def permissionCacheTtl : Nat := 36000

/-- `cacheKey.role.permissions` -/
def permissionsKey (roleId : Nat) : String :=
  "role_user:" ++ toString roleId ++ ":perms"

/-- A code that a route may require; none of them is empty. -/
structure PermissionCode where
  value : String
  nonempty : value ≠ ""
  deriving DecidableEq

def PermissionCode.ROLE_PERMISSION_GRANT : PermissionCode :=
  ⟨"role_permission:grant", by decide⟩

/-! ### What is returned -/

structure MeDto where
  user : AuthMe
  permissions : List String
  deriving DecidableEq

structure RolePermissionResponseDto where
  roleId : String
  permissionId : String
  createdAt : Nat
  updatedAt : Nat
  deriving DecidableEq

def toRolePermissionResponse (row : RolePermission) : RolePermissionResponseDto where
  roleId := toString row.roleId
  permissionId := toString row.permissionId
  createdAt := row.createdAt
  updatedAt := row.updatedAt

inductive PermissionAnswer
  /-- The handler of the route takes over. -/
  | admitted
  | me (me : Option MeDto)
  | granted (response : RolePermissionResponseDto)
  | assignment (assignment : UserRole)
  /-- A statement that was abandoned by its sender. -/
  | none
  deriving DecidableEq

/-! ### The guard -/

def getRoleIdsByUserId (userId : Nat) : PermissionService (List Nat) := do
  let rows : List Role ← permissionQuery (.findRolesByUserId userId)
  ret (rows.map Role.id)

/-- `RolePermissionService.getByRoleId` -/
def getByRoleId (roleId : Nat) : PermissionService (List String) := do
  let rows : List Permission ← permissionQuery (.findByRoleId roleId)
  ret (rows.map Permission.code)

/-- The permissions of a role, for what the cache has answered. -/
def permissionsByRole (role : Nat × Option (List String)) :
    PermissionService (List String) :=
  match role.2 with
  | some permissionCached => ret permissionCached
  | none => do
      let permissions ← getByRoleId role.1
      let _ ← permissionQuery (.set (permissionsKey role.1) permissions permissionCacheTtl)
      ret permissions

/-- The commands to the cache, one for each role. -/
def cachedPermissions (roleIds : List Nat) :
    PermissionService (List (Option (List String))) :=
  forAll roleIds fun id => permissionQuery (.get (permissionsKey id))

/-- `PermissionsGuard.canActivate` -/
def canActivate (user : Option Nat) (requirePermission : Option PermissionCode) :
    PermissionService Bool :=
  match requirePermission with
  | none => ret true
  | some code =>
      match user with
      | none => raise .typeError
      | some sub => do
          let roleIds ← getRoleIdsByUserId sub
          let cached ← cachedPermissions roleIds
          let permsByRole ← forAll (roleIds.zip cached) permissionsByRole
          if code.value ∈ permsByRole.flatten then ret true else raise .forbidden

/-! ### The services -/

def getMe (id : Nat) : PermissionService (Option MeDto) := do
  let found : Option AuthMe × List (RoleCode × List Permission) ←
    alongside (PermissionStmt.findUserById id) (permissionQuery (.findPermissionByUserId id))
  let permissions := (found.2.flatMap Prod.snd).map Permission.code
  ret (found.1.map fun user => ⟨user, permissions⟩)

def createRolePermission (roleId permissionId : Nat) :
    PermissionService RolePermissionResponseDto := do
  let found : Option Nat × Option Nat ←
    alongside (PermissionStmt.findRoleById roleId)
      (permissionQuery (.findPermissionById permissionId))
  match found.1, found.2 with
  | none, _ => raise (.notFound RolePermissionMessage.ROLE_NOT_FOUND)
  | some _, none => raise (.notFound RolePermissionMessage.PERMISSION_NOT_FOUND)
  | some _, some _ => do
      let existed : Option RolePermission ←
        permissionQuery (.findByComposite roleId permissionId)
      match existed with
      | some _ => raise (.conflict RolePermissionMessage.ROLE_PERMISSION_ALREADY_EXISTS)
      | none => do
          let created : RolePermission ←
            permissionQuery (.createRolePermission roleId permissionId)
          ret (toRolePermissionResponse created)

/-- Requests to routes, and calls of the services that no route makes. -/
inductive PermissionRequest
  /-- A request to a route; without a handler here, the guard is all of it. -/
  | route (user : Option Nat) (requirePermission : Option PermissionCode)
  | getMe (user : Option Nat)
  | createRolePermission (user : Option Nat) (roleId permissionId : Nat)
  | createUserRole (userId roleId : Nat)
  | deleteUserRole (userId roleId : Nat)
  deriving DecidableEq

def PermissionRequest.handler : PermissionRequest → PermissionService PermissionAnswer
  | .route user requirePermission => do
      let _ ← canActivate user requirePermission
      ret .admitted
  | .getMe user => do
      let _ ← canActivate user none
      match user with
      | none => raise .typeError
      | some sub => do
          let me ← BookStore.getMe sub
          ret (.me me)
  | .createRolePermission user roleId permissionId => do
      let _ ← canActivate user (some .ROLE_PERMISSION_GRANT)
      let response ← BookStore.createRolePermission roleId permissionId
      ret (.granted response)
  | .createUserRole userId roleId => do
      let created : UserRole ← permissionQuery (.createUserRole userId roleId)
      ret (.assignment created)
  | .deleteUserRole userId roleId => do
      let deleted : UserRole ← permissionQuery (.softDeleteUserRole userId roleId)
      ret (.assignment deleted)

/-! ### The server -/

/-- A step of the environment. -/
inductive PermissionEvent
  | arrive (r : PermissionRequest)
  | tick (ms : Nat)
  /-- An entry of the cache is dropped: its time is over, or memory is short. -/
  | drop (key : String)
  deriving DecidableEq

/-- The running server. -/
def permissionServer :
    System PermissionStmt PermissionResponse PermissionFailure PermissionAnswer
      PermissionWorld PermissionEvent where
  exec := permissionExec
  fault := .database
  idle := .none
  env := fun e w =>
    match e with
    | .arrive r => some (w, some r.handler)
    | .tick ms => some ({ w with now := w.now + ms }, none)
    | .drop key => some ({ w with cache := Function.update w.cache key none }, none)

/-- The server's state: the tables, the cache and the handlers under way. -/
abbrev PermissionState :=
  Config PermissionStmt PermissionResponse PermissionFailure PermissionAnswer PermissionWorld

/-! ### Keys -/

theorem permissionsKey_inj {roleId roleId' : Nat} :
    permissionsKey roleId = permissionsKey roleId' ↔ roleId = roleId' := by
  refine ⟨fun h => ?_, fun h => by rw [h]⟩
  have hlists := congrArg String.toList h
  simp only [permissionsKey, String.toList_append, toList_toString, List.append_assoc,
    List.append_cancel_left_eq] at hlists
  exact natText_injective (List.append_cancel_right hlists)

end BookStore
