import BookStore.Permission.Service
import Mathlib.Algebra.Order.PUnit

/-!
# Who has which permission

A user is entitled to a permission if a role that is assigned and not removed is linked
to it.  The guard decides by the cache and by the links, `getMe` by all assignments.

* `admits_iff` and `lists_iff` say what the two decide in any state.
* `ViewsKept` is the condition on the statements of a run: a role is removed from a user
  whose other roles make up for it, a link is added to a role that is not cached, and the
  cache is filled with the links of the moment.
* `permissions_agree` is the result; in `removed_role_listed` the permission of a role
  that has been removed is listed.
-/

namespace BookStore

open Async Program Logic

namespace PermissionDb

variable (db : PermissionDb)

/-- The role is linked to a permission with the code. -/
def Grants (roleId : Nat) (code : String) : Prop :=
  ∃ l, l ∈ db.rolePermissions ∧ l.roleId = roleId ∧
    ∃ p, db.findPermission l.permissionId = some p ∧ p.code = code

/-- A role assigned to the user, and not removed, is linked to the permission. -/
def Entitled (userId : Nat) (code : String) : Prop :=
  ∃ a, a ∈ db.userRoles ∧ a.userId = userId ∧ a.deletedAt = none ∧ db.Grants a.roleId code

/-- The codes that `getByRoleId` returns. -/
def codesOf (roleId : Nat) : List String :=
  (db.permissionsOf roleId).map Permission.code

/-- The foreign keys of `user_roles` -/
structure Assigned : Prop where
  users : ∀ a, a ∈ db.userRoles → (db.users.find? fun u => decide (u.id = a.userId)).isSome = true
  roles : ∀ a, a ∈ db.userRoles → (db.findRole a.roleId).isSome = true

end PermissionDb

/-- The guard lets a request of the user through. -/
def Admits (w : PermissionWorld) (userId : Nat) (code : PermissionCode) : Prop :=
  ∃ w', (canActivate (some userId) (some code)).Yields permissionExec .database w w' (.ok true)

/-- `getMe` lists the permission. -/
def Lists (w : PermissionWorld) (userId : Nat) (code : PermissionCode) : Prop :=
  ∃ w' me, (getMe userId).Yields permissionExec .database w w' (.ok (some me)) ∧
    code.value ∈ me.permissions

/-- The statement leaves the views of every user as they should be. -/
def ViewsKept (w : PermissionWorld) (s : PermissionStmt) (o : Outcome) : Prop :=
  match s with
  | .softDeleteUserRole userId roleId =>
      -- another role makes up for each permission
      o = .fail ∨ ∀ code, code ∈ w.db.codesOf roleId →
        ∃ a, a ∈ w.db.userRoles ∧ a.userId = userId ∧ a.roleId ≠ roleId ∧
          a.deletedAt = none ∧ code ∈ w.db.codesOf a.roleId
  | .createRolePermission roleId permissionId =>
      -- the role is not cached, and who has lost the role has the permission anyway
      o = .fail ∨ (w.cache (permissionsKey roleId) = none ∧
        ∀ a, a ∈ w.db.userRoles → a.roleId = roleId → a.deletedAt ≠ none →
          ∃ a', a' ∈ w.db.userRoles ∧ a'.userId = a.userId ∧ a'.deletedAt = none ∧
            ((w.db.findPermission permissionId).all fun p =>
              decide (p.code ∈ w.db.codesOf a'.roleId)) = true)
  | .set key permissions _ =>
      o = .fail ∨ ∀ role, role ∈ w.db.roles → key = permissionsKey role.id →
        permissions = w.db.codesOf role.id
  | _ => True

instance (w : PermissionWorld) (s : PermissionStmt) (o : Outcome) :
    Decidable (ViewsKept w s o) := by
  apply PermissionStmt.casesOn (motive := fun s => Decidable (ViewsKept w s o)) s <;>
    intros <;> unfold ViewsKept <;> infer_instance

/-- The cache holds what the links say, and a removed role is made up for. -/
structure ViewsSound (w : PermissionWorld) : Prop where
  assigned : w.db.Assigned
  cached : ∀ role, role ∈ w.db.roles → ∀ permissions,
    w.cache (permissionsKey role.id) = some permissions →
    ∀ code, code ∈ permissions ↔ w.db.Grants role.id code
  removed : ∀ a, a ∈ w.db.userRoles → a.deletedAt ≠ none → ∀ code,
    w.db.Grants a.roleId code → w.db.Entitled a.userId code

section Views

variable {db : PermissionDb} {w w' : PermissionWorld} {userId roleId : Nat} {code : String}

theorem mem_codesOf : code ∈ db.codesOf roleId ↔ db.Grants roleId code := by
  simp only [PermissionDb.codesOf, PermissionDb.permissionsOf, PermissionDb.Grants, orderBy,
    List.mem_map, List.mem_filterMap, List.mem_insertionSort, List.mem_filter,
    decide_eq_true_eq]
  constructor
  · rintro ⟨p, ⟨l, ⟨hl, hrole⟩, hp⟩, hcode⟩
    exact ⟨l, hl, hrole, p, hp, hcode⟩
  · rintro ⟨l, hl, hrole, p, hp, hcode⟩
    exact ⟨p, ⟨l, ⟨hl, hrole⟩, hp⟩, hcode⟩

instance (db : PermissionDb) (userId : Nat) (code : String) :
    Decidable (db.Entitled userId code) :=
  decidable_of_iff
    (∃ a, a ∈ db.userRoles ∧ a.userId = userId ∧ a.deletedAt = none ∧ code ∈ db.codesOf a.roleId)
    (by simp only [PermissionDb.Entitled, mem_codesOf])

theorem findRole_id {role : Role} (h : db.findRole roleId = some role) : role.id = roleId := by
  simpa using List.find?_some h

theorem mem_rolesOf {role : Role} :
    role ∈ db.rolesOf userId ↔
      ∃ a, a ∈ db.userRoles ∧ a.userId = userId ∧ a.deletedAt = none ∧
        db.findRole a.roleId = some role := by
  simp only [PermissionDb.rolesOf, List.mem_filterMap, List.mem_filter, Bool.and_eq_true,
    decide_eq_true_eq, and_assoc]

/-! ### The guard -/

/-- The roles, as they are read. -/
theorem yields_getRoleIdsByUserId_bind
    {β : Type} {f : List Nat → PermissionService β} {x : Except PermissionFailure β} :
    ((getRoleIdsByUserId userId).bind f).Yields permissionExec .database w w' x ↔
      (f ((w.db.rolesOf userId).map Role.id)).Yields permissionExec .database w w' x :=
  Iff.rfl

/-- Nothing changes while the cache is asked. -/
def readLogic (w : PermissionWorld) : Logic PermissionStmt PermissionWorld Unit where
  inv := fun _ v => v = w
  rely := fun v v' => v = w → v' = w
  rely_refl := fun _ h => h
  rely_trans := fun _ _ _ h h' hu => h' (h hu)
  guard := fun _ _ o => o = .ok
  done := fun _ => True

theorem yields_cachedPermissions
    {roleIds : List Nat} {x : Except PermissionFailure (List (Option (List String)))}
    (h : (cachedPermissions roleIds).Yields permissionExec .database w w' x) :
    w' = w ∧ x = .ok (roleIds.map fun id => w.cache (permissionsKey id)) := by
  have hget : ∀ id, id ∈ roleIds → Safe (readLogic w) permissionExec .database
      (fun x m _ => m = 0 ∧ x = .ok (w.cache (permissionsKey id)))
      (permissionQuery (.get (permissionsKey id))) 0 w := by
    intro id _ v F o _ hv ho
    cases hv
    cases ho
    exact ⟨0, rfl, fun h => h, fun _ _ => ⟨rfl, rfl⟩⟩
  obtain ⟨⟨_, hw⟩, hx⟩ := yields_forAll_map (fun _ _ => rfl) hget rfl h
  exact ⟨hw, hx⟩

/-- The tables stay as they are while the cache is filled. -/
def fillLogic (db : PermissionDb) : Logic PermissionStmt PermissionWorld Unit where
  inv := fun _ v => v.db = db
  rely := fun v v' => v.db = db → v'.db = db
  rely_refl := fun _ h => h
  rely_trans := fun _ _ _ h h' hu => h' (h hu)
  guard := fun _ _ o => o = .ok
  done := fun _ => True

theorem yields_permissionsByRole
    {roles : List (Nat × Option (List String))}
    {x : Except PermissionFailure (List (List String))}
    (h : (forAll roles permissionsByRole).Yields permissionExec .database w w' x) :
    x = .ok (roles.map fun role => role.2.getD (w.db.codesOf role.1)) := by
  have hrole : ∀ role, role ∈ roles → Safe (fillLogic w.db) permissionExec .database
      (fun x m _ => m = 0 ∧ x = .ok (role.2.getD (w.db.codesOf role.1)))
      (permissionsByRole role) 0 w := by
    rintro ⟨roleId, permissionCached⟩ -
    cases permissionCached with
    | some permissions =>
        exact fun _ _ => ⟨rfl, rfl⟩
    | none =>
        refine Safe.bind (Safe.await_bind fun v F o _ hv ho => ?_)
        cases ho
        refine ⟨0, hv, fun h => h, fun v' hv' => Safe.await_bind fun u F o hu hinv ho => ?_⟩
        cases ho
        refine ⟨0, hinv, fun h => h, fun _ _ => ⟨rfl, ?_⟩⟩
        exact congrArg (fun db => Except.ok (PermissionDb.codesOf db roleId)) hv
  exact (yields_forAll_map (fun _ _ => rfl) hrole rfl h).2

theorem live_canActivate (user : Option Nat) (requirePermission : Option PermissionCode) :
    (canActivate user requirePermission).Live := by
  unfold canActivate
  cases requirePermission with
  | none =>
      trivial
  | some code =>
      cases user with
      | none =>
          trivial
      | some sub =>
          refine Live.bind (Live.bind (.await _) fun _ => trivial) fun roleIds => ?_
          refine Live.bind (Live.forAll fun _ _ => .await _) fun cached => ?_
          refine Live.bind (Live.forAll fun role _ => ?_) fun permsByRole => ?_
          · unfold permissionsByRole
            cases role.2 with
            | some permissions =>
                trivial
            | none =>
                exact Live.bind (Live.bind (.await _) fun _ => trivial)
                  fun _ => Live.bind (.await _) fun _ => trivial
          · split_ifs <;> trivial

/-- The guard decides by the cache, and by the links of the roles that it has not. -/
theorem yields_permissionsGuard
    {code : PermissionCode} {x : Except PermissionFailure Bool}
    (h : (canActivate (some userId) (some code)).Yields permissionExec .database w w' x) :
    x = .ok true ↔ ∃ role, role ∈ w.db.rolesOf userId ∧
      code.value ∈ (w.cache (permissionsKey role.id)).getD (w.db.codesOf role.id) := by
  rcases yields_bind.mp (yields_getRoleIdsByUserId_bind.mp h) with
    ⟨v, cached, hcached, h⟩ | ⟨e, he, -⟩
  · obtain ⟨rfl, hcached⟩ := yields_cachedPermissions hcached
    cases hcached
    rcases yields_bind.mp h with ⟨u, permsByRole, hperms, h⟩ | ⟨e, he, -⟩
    · cases yields_permissionsByRole hperms
      have hmem : code.value ∈ ((((v.db.rolesOf userId).map Role.id).zip
            (((v.db.rolesOf userId).map Role.id).map fun id => v.cache (permissionsKey id))).map
              fun role => role.2.getD (v.db.codesOf role.1)).flatten ↔
          ∃ role, role ∈ v.db.rolesOf userId ∧
            code.value ∈ (v.cache (permissionsKey role.id)).getD (v.db.codesOf role.id) := by
        simp [List.zip_map']
      rw [← hmem]
      split_ifs at h with hcode
      · exact iff_of_true h.2 hcode
      · refine iff_of_false (fun hx => ?_) hcode
        rw [h.2] at hx
        cases hx
    · cases yields_permissionsByRole he
  · cases (yields_cachedPermissions he).2

theorem admits_iff {code : PermissionCode} :
    Admits w userId code ↔ ∃ role, role ∈ w.db.rolesOf userId ∧
      code.value ∈ (w.cache (permissionsKey role.id)).getD (w.db.codesOf role.id) := by
  constructor
  · rintro ⟨w', h⟩
    exact (yields_permissionsGuard h).mp rfl
  · intro h
    obtain ⟨w', x, hx⟩ := exists_yields (live_canActivate (some userId) (some code)) w
    exact ⟨w', (yields_permissionsGuard hx).mpr h ▸ hx⟩

/-! ### The profile -/

theorem mem_rolesWithPermissions :
    (∃ entry, entry ∈ db.rolesWithPermissions userId ∧
        ∃ p, p ∈ entry.2 ∧ p.code = code) ↔
      ∃ a role, a ∈ db.userRoles ∧ a.userId = userId ∧ db.findRole a.roleId = some role ∧
        db.Grants role.id code := by
  simp only [PermissionDb.rolesWithPermissions, PermissionDb.Grants, List.mem_filterMap,
    List.mem_filter, decide_eq_true_eq, Option.map_eq_some_iff]
  constructor
  · rintro ⟨_, ⟨a, ⟨ha, huser⟩, role, hrole, rfl⟩, p, hp, hcode⟩
    obtain ⟨l, hl, hp⟩ := List.mem_filterMap.mp hp
    obtain ⟨hl, hid⟩ := List.mem_filter.mp hl
    exact ⟨a, role, ha, huser, hrole, l, hl, of_decide_eq_true hid, p, hp, hcode⟩
  · rintro ⟨a, role, ha, huser, hrole, l, hl, hid, p, hp, hcode⟩
    exact ⟨_, ⟨a, ⟨ha, huser⟩, role, hrole, rfl⟩, p,
      List.mem_filterMap.mpr ⟨l, List.mem_filter.mpr ⟨hl, decide_eq_true hid⟩, hp⟩, hcode⟩

/-- `getMe` in any state: a removed assignment counts like the others. -/
theorem lists_iff {code : PermissionCode} :
    Lists w userId code ↔
      (w.db.users.find? fun u => decide (u.id = userId)).isSome = true ∧
        ∃ a role, a ∈ w.db.userRoles ∧ a.userId = userId ∧
          w.db.findRole a.roleId = some role ∧ w.db.Grants role.id code.value := by
  have hreads : ∀ v x, (alongside (PermissionStmt.findUserById userId)
      (permissionQuery (.findPermissionByUserId userId))).Yields permissionExec .database w v x ↔
        v = w ∧ x = .ok (w.db.users.find? fun u => decide (u.id = userId),
          w.db.rolesWithPermissions userId) :=
    fun _ _ => yields_alongside_await rfl rfl
  rw [← mem_rolesWithPermissions, Option.isSome_iff_exists]
  constructor
  · rintro ⟨w', me, h, hcode⟩
    rcases yields_bind.mp h with ⟨v, found, hfound, h⟩ | ⟨e, -, h⟩
    · obtain ⟨rfl, hfound⟩ := (hreads _ _).mp hfound
      cases hfound
      obtain ⟨rfl, hme⟩ := h
      obtain ⟨user, huser, rfl⟩ := Option.map_eq_some_iff.mp (Except.ok.inj hme).symm
      obtain ⟨p, hp, hpcode⟩ := List.mem_map.mp hcode
      obtain ⟨entry, hentry, hp⟩ := List.mem_flatMap.mp hp
      exact ⟨⟨user, huser⟩, entry, hentry, p, hp, hpcode⟩
    · cases h
  · rintro ⟨⟨user, huser⟩, entry, hentry, p, hp, hcode⟩
    let me : MeDto :=
      ⟨user, ((w.db.rolesWithPermissions userId).flatMap Prod.snd).map Permission.code⟩
    have hme : (getMe userId).Yields permissionExec .database w w (.ok (some me)) := by
      refine yields_bind.mpr (.inl ⟨w, _, (hreads _ _).mpr ⟨rfl, rfl⟩, rfl, ?_⟩)
      rw [huser]
      rfl
    exact ⟨w, me, hme, List.mem_map.mpr ⟨p, List.mem_flatMap.mpr ⟨entry, hentry, hp⟩, hcode⟩⟩

/-! ### Along a run -/

theorem views_agree {code : PermissionCode} (h : ViewsSound w) :
    (Admits w userId code ↔ Lists w userId code) ∧
      (Lists w userId code ↔ w.db.Entitled userId code.value) := by
  have hadmits : Admits w userId code ↔ w.db.Entitled userId code.value := by
    have hcache : ∀ role, role ∈ w.db.roles →
        (code.value ∈ (w.cache (permissionsKey role.id)).getD (w.db.codesOf role.id) ↔
          w.db.Grants role.id code.value) := by
      intro role hrole
      cases hcached : w.cache (permissionsKey role.id) with
      | none =>
          exact mem_codesOf
      | some permissions =>
          exact h.cached role hrole permissions hcached code.value
    rw [admits_iff]
    constructor
    · rintro ⟨role, hrole, hcode⟩
      obtain ⟨a, ha, huser, hdeleted, hfind⟩ := mem_rolesOf.mp hrole
      refine ⟨a, ha, huser, hdeleted, ?_⟩
      rw [← findRole_id hfind]
      exact (hcache role (List.mem_of_find?_eq_some hfind)).mp hcode
    · rintro ⟨a, ha, huser, hdeleted, hgrants⟩
      obtain ⟨role, hfind⟩ := Option.isSome_iff_exists.mp (h.assigned.roles a ha)
      refine ⟨role, mem_rolesOf.mpr ⟨a, ha, huser, hdeleted, hfind⟩, ?_⟩
      rw [← findRole_id hfind] at hgrants
      exact (hcache role (List.mem_of_find?_eq_some hfind)).mpr hgrants
  have hlists : Lists w userId code ↔ w.db.Entitled userId code.value := by
    rw [lists_iff]
    constructor
    · rintro ⟨-, a, role, ha, rfl, hfind, hgrants⟩
      rw [findRole_id hfind] at hgrants
      by_cases hdeleted : a.deletedAt = none
      · exact ⟨a, ha, rfl, hdeleted, hgrants⟩
      · exact h.removed a ha hdeleted _ hgrants
    · rintro ⟨a, ha, rfl, hdeleted, hgrants⟩
      obtain ⟨role, hfind⟩ := Option.isSome_iff_exists.mp (h.assigned.roles a ha)
      rw [← findRole_id hfind] at hgrants
      exact ⟨h.assigned.users a ha, a, role, ha, rfl, hfind, hgrants⟩
  exact ⟨hadmits.trans hlists.symm, hlists⟩

/-- A link that is added. -/
theorem grants_createRolePermission {permissionId now : Nat} {r : Nat} :
    ({ db with rolePermissions :=
        db.rolePermissions ++ [⟨roleId, permissionId, now, now⟩] } : PermissionDb).Grants
          r code ↔
      db.Grants r code ∨
        (r = roleId ∧ ∃ p, db.findPermission permissionId = some p ∧ p.code = code) := by
  simp only [PermissionDb.Grants, PermissionDb.findPermission, List.mem_append,
    List.mem_singleton]
  constructor
  · rintro ⟨l, hl | rfl, hrole, hp⟩
    · exact .inl ⟨l, hl, hrole, hp⟩
    · exact .inr ⟨hrole.symm, hp⟩
  · rintro (⟨l, hl, hrole, hp⟩ | ⟨rfl, hp⟩)
    · exact ⟨l, .inl hl, hrole, hp⟩
    · exact ⟨_, .inr rfl, rfl, hp⟩

/-- Every statement that meets the condition keeps the views. -/
theorem viewsSound_exec
    {s : PermissionStmt} {o : Outcome} {r : PermissionResponse s}
    (h : ViewsSound w)
    (hkept : ViewsKept w s o)
    (ho : o ≠ .fail)
    (hexec : permissionExec s w = .ok (w', r)) :
    ViewsSound w' := by
  cases s with
  | createRolePermission roleId permissionId =>
      obtain ⟨huncached, hcovered⟩ := hkept.resolve_left ho
      simp only [permissionExec] at hexec
      split_ifs at hexec
      cases hexec
      have hentitled : ∀ {userId code}, w.db.Entitled userId code →
          PermissionDb.Entitled { w.db with rolePermissions :=
            w.db.rolePermissions ++ [⟨roleId, permissionId, w.now, w.now⟩] } userId code := by
        rintro userId code ⟨a, ha, huser, hdeleted, hgrants⟩
        exact ⟨a, ha, huser, hdeleted, grants_createRolePermission.mpr (.inl hgrants)⟩
      refine ⟨⟨h.assigned.users, h.assigned.roles⟩,
        fun role hrole permissions hcached code => ?_, fun a ha hdeleted code hgrants => ?_⟩
      · rw [grants_createRolePermission]
        have hne : role.id ≠ roleId := by
          rintro rfl
          rw [huncached] at hcached
          cases hcached
        rw [h.cached role hrole permissions hcached code]
        exact ⟨.inl, fun h => h.resolve_right fun h => hne h.1⟩
      · rcases grants_createRolePermission.mp hgrants with hgrants | ⟨hrole, p, hp, rfl⟩
        · exact hentitled (h.removed a ha hdeleted code hgrants)
        · obtain ⟨a', ha', huser, hactive, hcode⟩ := hcovered a ha hrole hdeleted
          rw [hp, Option.all_some, decide_eq_true_eq] at hcode
          exact hentitled ⟨a', ha', huser, hactive, mem_codesOf.mp hcode⟩
  | createUserRole userId roleId =>
      simp only [permissionExec] at hexec
      split_ifs at hexec with hrefused
      cases hexec
      simp only [not_or, Option.isNone_iff_eq_none, ← Option.isSome_iff_ne_none] at hrefused
      refine ⟨⟨fun a ha => ?_, fun a ha => ?_⟩, h.cached, fun a ha hdeleted code hgrants => ?_⟩
      · rcases List.mem_append.mp ha with ha | ha
        · exact h.assigned.users a ha
        · rw [List.mem_singleton.mp ha]
          exact hrefused.2.2
      · rcases List.mem_append.mp ha with ha | ha
        · exact h.assigned.roles a ha
        · rw [List.mem_singleton.mp ha]
          exact hrefused.2.1
      · rcases List.mem_append.mp ha with ha | ha
        · obtain ⟨a', ha', huser, hactive, hgrants⟩ := h.removed a ha hdeleted code hgrants
          exact ⟨a', List.mem_append_left _ ha', huser, hactive, hgrants⟩
        · rw [List.mem_singleton.mp ha] at hdeleted
          exact absurd rfl hdeleted
  | softDeleteUserRole userId roleId =>
      have hothers := hkept.resolve_left ho
      simp only [permissionExec] at hexec
      split at hexec
      · cases hexec
      cases hexec
      have hstays : ∀ a : UserRole, a ∈ w.db.userRoles →
          ¬ (a.userId = userId ∧ a.roleId = roleId) →
          a ∈ w.db.userRoles.map fun a =>
            if a.userId = userId ∧ a.roleId = roleId then
              { a with deletedAt := some w.now } else a :=
        fun a ha hother => List.mem_map.mpr ⟨a, ha, if_neg hother⟩
      have hmakesUp : ∀ {code}, w.db.Grants roleId code → PermissionDb.Entitled { w.db with
          userRoles := w.db.userRoles.map fun a =>
            if a.userId = userId ∧ a.roleId = roleId then
              { a with deletedAt := some w.now } else a } userId code := by
        intro code hgrants
        obtain ⟨a, ha, huser, hrole, hactive, hcode⟩ := hothers code (mem_codesOf.mpr hgrants)
        exact ⟨a, hstays a ha fun h => hrole h.2, huser, hactive, mem_codesOf.mp hcode⟩
      refine ⟨⟨fun a ha => ?_, fun a ha => ?_⟩, h.cached, fun a ha hdeleted code hgrants => ?_⟩
      · obtain ⟨a, hrow, rfl⟩ := List.mem_map.mp ha
        split_ifs
        · exact h.assigned.users a hrow
        · exact h.assigned.users a hrow
      · obtain ⟨a, hrow, rfl⟩ := List.mem_map.mp ha
        split_ifs
        · exact h.assigned.roles a hrow
        · exact h.assigned.roles a hrow
      · obtain ⟨a, hrow, rfl⟩ := List.mem_map.mp ha
        split_ifs at hdeleted hgrants ⊢ with hgone
        · obtain ⟨rfl, rfl⟩ := hgone
          exact hmakesUp hgrants
        · obtain ⟨a', ha', huser, hactive, hgrants'⟩ := h.removed a hrow hdeleted code hgrants
          by_cases hgone' : a'.userId = userId ∧ a'.roleId = roleId
          · rw [← huser, hgone'.1]
            exact hmakesUp (hgone'.2 ▸ hgrants')
          · exact ⟨a', hstays a' ha' hgone', huser, hactive, hgrants'⟩
  | set key permissions ttl =>
      cases hexec
      have hfresh := hkept.resolve_left ho
      refine ⟨h.assigned, fun role hrole cached hcached code => ?_, h.removed⟩
      by_cases hkey : permissionsKey role.id = key
      · rw [hkey] at hcached
        simp only [Function.update_self, Option.some.injEq] at hcached
        rw [← hcached, hfresh role hrole hkey.symm, mem_codesOf]
      · simp only [Function.update_of_ne hkey] at hcached
        exact h.cached role hrole cached hcached code
  | _ =>
      cases hexec
      exact h

end Views

/--
**Agreement of the views.** From any tables in which no role is removed, and an empty
cache, in every state of every run whose statements meet the condition: the guard lets a
user through to a permission exactly if `getMe` lists it, and exactly if the user is
entitled to it.
-/
theorem permissions_agree
    {db : PermissionDb} {now : Nat} {as : List (Action PermissionEvent)}
    {c : PermissionState}
    (hassigned : db.Assigned)
    (hnone : ∀ a, a ∈ db.userRoles → a.deletedAt = none)
    (hmeets : Meets permissionServer.step (System.Conforms (fun _ _ => True) ViewsKept)
      ⟨⟨db, fun _ => none, now⟩, []⟩ as)
    (hrun : runs permissionServer.step ⟨⟨db, fun _ => none, now⟩, []⟩ as = some c)
    (userId : Nat) (code : PermissionCode) :
    (Admits c.world userId code ↔ Lists c.world userId code) ∧
      (Lists c.world userId code ↔ c.world.db.Entitled userId code.value) := by
  have hstart : ViewsSound ⟨db, fun _ => none, now⟩ :=
    ⟨hassigned, fun _ _ _ h => (by cases h), fun a ha h => absurd (hnone a ha) h⟩
  refine views_agree (System.conforms_runs permissionServer (I := ViewsSound) ?_
    (fun s o w w' r h hkept ho hexec => viewsSound_exec h hkept ho hexec) hstart hmeets hrun)
  intro e w w' p h _ henv
  cases e with
  | arrive r =>
      cases henv
      exact h
  | tick ms =>
      cases henv
      exact ⟨h.assigned, h.cached, h.removed⟩
  | drop key =>
      cases henv
      refine ⟨h.assigned, fun role hrole permissions hcached => ?_, h.removed⟩
      by_cases hkey : permissionsKey role.id = key
      · rw [hkey] at hcached
        simp only [Function.update_self] at hcached
        cases hcached
      · simp only [Function.update_of_ne hkey] at hcached
        exact h.cached role hrole permissions hcached

/-- A user who may grant permissions, and a role without any. -/
def samplePermissions : PermissionDb where
  users := [⟨1, "a@b.vn", true⟩]
  roles := [⟨1, .ADMIN, "admin", none, true⟩, ⟨2, .STAFF, "staff", none, true⟩]
  permissions :=
    [⟨1, "role_permission:grant", .POST, "/role-permission"⟩,
      ⟨2, "book:read", .GET, "/admin/books"⟩]
  userRoles := [⟨1, 1, none⟩]
  rolePermissions := [⟨1, 1, 0, 0⟩]

theorem samplePermissions_assigned : samplePermissions.Assigned :=
  ⟨by decide +kernel, by decide +kernel⟩

def sampleBookRead : PermissionCode :=
  ⟨"book:read", by decide⟩

/-- A permission is granted to a role, and the role is assigned to the user. -/
def grantThenAssign : List (Action PermissionEvent) :=
  .env (.arrive (.createRolePermission (some 1) 2 2)) :: List.replicate 9 (.run 0 0 .ok) ++
    [.env (.arrive (.createUserRole 1 2)), .run 1 0 .ok]

theorem permissions_agree_grantThenAssign :
    ∃ c, runs permissionServer.step ⟨⟨samplePermissions, fun _ => none, 0⟩, []⟩
        grantThenAssign = some c ∧
      Admits c.world 1 sampleBookRead ∧ Lists c.world 1 sampleBookRead := by
  have hentitled : (runs permissionServer.step ⟨⟨samplePermissions, fun _ => none, 0⟩, []⟩
      grantThenAssign).map (fun c => decide (c.world.db.Entitled 1 sampleBookRead.value)) =
        some true := by
    decide +kernel
  obtain ⟨c, hrun, hentitled⟩ := Option.map_eq_some_iff.mp hentitled
  have hagree := permissions_agree samplePermissions_assigned (by decide +kernel)
    (by decide +kernel) hrun 1 sampleBookRead
  have hlists := hagree.2.mpr (of_decide_eq_true hentitled)
  exact ⟨c, hrun, hagree.1.mpr hlists, hlists⟩

/-- The only role of a user is removed. -/
def removeRole : List (Action PermissionEvent) :=
  [.env (.arrive (.deleteUserRole 1 1)), .run 0 0 .ok]

/-- The permission of the removed role is still listed. -/
theorem removed_role_listed :
    ¬ ∀ (db : PermissionDb) (now : Nat) (as : List (Action PermissionEvent))
        (c : PermissionState),
      db.Assigned →
      (∀ a, a ∈ db.userRoles → a.deletedAt = none) →
      runs permissionServer.step ⟨⟨db, fun _ => none, now⟩, []⟩ as = some c →
      ∀ (userId : Nat) (code : PermissionCode),
        (Admits c.world userId code ↔ Lists c.world userId code) ∧
          (Lists c.world userId code ↔ c.world.db.Entitled userId code.value) := by
  intro h
  have hend : (runs permissionServer.step ⟨⟨samplePermissions, fun _ => none, 0⟩, []⟩
      removeRole).map (fun c =>
        (decide (c.world.db.Entitled 1 PermissionCode.ROLE_PERMISSION_GRANT.value),
          ((getMe 1).alone permissionExec .database c.world).map fun r => r.2)) =
      some (false, some (.ok (some ⟨⟨1, "a@b.vn", true⟩, ["role_permission:grant"]⟩))) := by
    decide +kernel
  obtain ⟨c, hrun, hend⟩ := Option.map_eq_some_iff.mp hend
  obtain ⟨hentitled, hme⟩ := Prod.mk.inj hend
  obtain ⟨⟨w', x⟩, hme, hx⟩ := Option.map_eq_some_iff.mp hme
  dsimp only at hx
  subst hx
  have hlists : Lists c.world 1 .ROLE_PERMISSION_GRANT :=
    ⟨w', _, yields_of_alone hme, by decide⟩
  exact of_decide_eq_false hentitled ((h samplePermissions 0 removeRole c
    samplePermissions_assigned (by decide +kernel) hrun 1 _).2.mp hlists)

end BookStore
