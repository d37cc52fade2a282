import BookStore.Auth.Logout

/-!
# Revoked devices

A session is bound to the device of its login.  The device cap revokes devices;
`RefreshGuard` asks for the session and not for its device.
-/

namespace BookStore

open Async Program

variable (dep : AuthDeployment)

instance (s : UserSession) (now : Nat) : Decidable (s.Usable now) :=
  decidable_of_iff
    (s.status = .active ∧ s.revokedAt = none ∧
      s.expiresAt.all (fun t => decide (now ≤ t)) = true) (by
    constructor
    · rintro ⟨h₁, h₂, h₃⟩
      refine ⟨h₁, h₂, fun t ht => ?_⟩
      simpa [ht] using h₃
    · rintro ⟨h₁, h₂, h₃⟩
      refine ⟨h₁, h₂, ?_⟩
      simpa [Option.all_eq_true] using h₃)

/-- The device with this id is not revoked. -/
def AuthWorld.deviceActive (w : AuthWorld) (id : Nat) : Bool :=
  (w.devices.find id).any fun d => d.revokedAt.isNone

/-- If the session can be used then its device is not revoked. -/
def AuthWorld.Admits (w : AuthWorld) (s : UserSession) : Prop :=
  s.Usable w.now → ∀ id, s.deviceId = some id → w.deviceActive id = true

/-- Every session that can be used is bound to a device that is not revoked. -/
def DevicesHold (w : AuthWorld) : Prop :=
  ∀ s, s ∈ w.sessions.rows → w.Admits s

/--
A statement that takes effect revokes a device only if none of its sessions can be
used, and makes a session usable only if its device is not revoked.
-/
def RespectsDevices (w : AuthWorld) (s : AuthStmt) (o : Outcome) : Prop :=
  o = .fail ∨ (authExec dep s w).isOk = false ∨
    match s with
    | .updateUserDevice id data =>
        (data.revokedAt.getD none).isNone = true ∨
          ∀ s, s ∈ w.sessions.rows → s.Usable w.now → s.deviceId ≠ some id
    | .createUserSession data => w.Admits (newSession data w.sessions.next)
    | .updateUserSession id data _ =>
        ∀ s, s ∈ w.sessions.rows → s.id = id → w.Admits (data.apply s)
    | _ => True

variable {dep} {w w' : AuthWorld}

/-- Time takes sessions away, not devices. -/
theorem DevicesHold.of_later
    (h : DevicesHold w)
    (hsessions : w'.sessions = w.sessions)
    (hdevices : ∀ id, w.deviceActive id = true → w'.deviceActive id = true)
    (hnow : w.now ≤ w'.now) :
    DevicesHold w' := by
  intro s hs husable id hid
  rw [hsessions] at hs
  exact hdevices id (h s hs ⟨husable.active, husable.notRevoked,
    fun t ht => hnow.trans (husable.notExpired t ht)⟩ id hid)

theorem admits_congr
    {s : UserSession}
    (hdevices : w'.devices = w.devices)
    (hnow : w'.now = w.now) :
    w'.Admits s ↔ w.Admits s := by
  simp only [AuthWorld.Admits, AuthWorld.deviceActive, hdevices, hnow]

/-- An update revokes its device or leaves every device as active as it was. -/
theorem deviceActive_update
    {id : Nat} {data : UserDeviceUpdate} {d : UserDevice}
    (hd : w.devices.find id = some d)
    (hdevices : w'.devices = w.devices.update id data.apply data.key_apply) (j : Nat) :
    w'.deviceActive j =
      if j = id then (data.revokedAt.getD d.revokedAt).isNone else w.deviceActive j := by
  unfold AuthWorld.deviceActive
  rw [hdevices, Table.find_update]
  split_ifs
  · rw [hd]
    rfl
  · rfl

theorem exec_updateUserDevice
    {id : Nat} {data : UserDeviceUpdate} {r : UserDevice}
    (hw : DevicesHold w)
    (h : authExec dep (.updateUserDevice id data) w = .ok (w', r)) :
    DevicesHold w' ↔ (data.revokedAt.getD none).isNone = true ∨
      ∀ s, s ∈ w.sessions.rows → s.Usable w.now → s.deviceId ≠ some id := by
  have heff := authExec_effects dep h
  have hsessions : w'.sessions = w.sessions := heff.sessions
  obtain ⟨d, hd⟩ : ∃ d, w.devices.find id = some d := by
    cases hd : w.devices.find id with
    | none =>
        simp [authExec, hd] at h
    | some d =>
        exact ⟨d, rfl⟩
  have hactive := deviceActive_update hd heff.devices
  constructor
  · intro hw'
    rw [or_iff_not_imp_left]
    intro hrevoke s hs husable hid
    have := hw' s (by rwa [hsessions]) (by rwa [heff.now]) id hid
    rw [hactive, if_pos rfl] at this
    cases hdata : data.revokedAt with
    | none =>
        simp [hdata] at hrevoke
    | some t =>
        rw [hdata] at this hrevoke
        exact hrevoke this
  · rintro (hkeep | hunused)
    · refine hw.of_later hsessions (fun j hj => ?_) heff.now.ge
      rw [hactive]
      split_ifs with hid
      · rw [hid, AuthWorld.deviceActive, hd] at hj
        cases hdata : data.revokedAt with
        | none =>
            exact hj
        | some t =>
            rwa [hdata] at hkeep
      · exact hj
    · intro s hs husable j hj
      rw [hsessions] at hs
      rw [heff.now] at husable
      have hid : j ≠ id := by
        rintro rfl
        exact hunused s hs husable hj
      rw [hactive, if_neg hid]
      exact hw s hs husable j hj

/-- **One statement.** It keeps the devices exactly if it respects them. -/
theorem exec_devicesHold
    {s : AuthStmt} {o : Outcome} {r : AuthResponse s}
    (hw : DevicesHold w)
    (ho : o ≠ .fail)
    (h : authExec dep s w = .ok (w', r)) :
    DevicesHold w' ↔ RespectsDevices dep w s o := by
  have heff := authExec_effects dep h
  have hok : (authExec dep s w).isOk = true := by
    rw [h]
    rfl
  simp only [RespectsDevices, ho, hok, Bool.true_eq_false, false_or]
  cases s with
  | updateUserDevice id data =>
      exact exec_updateUserDevice hw h
  | createUserSession data =>
      have hrows : w'.sessions.rows =
          w.sessions.rows ++ [newSession data w.sessions.next] := by
        rw [heff.sessions]
        rfl
      simp only [DevicesHold, hrows, List.mem_append, List.mem_singleton,
        admits_congr heff.devices heff.now]
      exact ⟨fun h => h _ (.inr rfl), fun h s hs => hs.elim (hw s) fun hs => hs ▸ h⟩
  | updateUserSession id data presented =>
      have hrows : w'.sessions.rows = w.sessions.rows.map fun s =>
          if decide (key s = id) then data.apply s else s := by
        rw [heff.sessions]
        rfl
      simp only [DevicesHold, hrows, List.mem_map, forall_exists_index, and_imp,
        forall_apply_eq_imp_iff₂, admits_congr heff.devices heff.now, decide_eq_true_eq]
      refine forall₂_congr fun s hs => ?_
      by_cases hid : s.id = id
      · have : key s = id := hid
        simp [hid, this]
      · have : key s ≠ id := hid
        simp only [this, hid, if_false, false_imp_iff, iff_true]
        exact hw s hs
  | createUserDevice userId deviceFingerprint seenAt =>
      refine iff_of_true (hw.of_later heff.sessions (fun j hj => ?_) heff.now.ge) trivial
      unfold AuthWorld.deviceActive at hj ⊢
      rw [heff.devices, devicesAfter, Table.find_insert]
      split_ifs with hnext
      · rfl
      · exact hj
  | _ =>
      refine iff_of_true (hw.of_later heff.sessions (fun j hj => ?_) heff.now.ge) trivial
      rw [AuthWorld.deviceActive, heff.devices]
      exact hj

/-- The devices of a user that have a session that can be used. -/
def AuthWorld.devicesWithAccess (w : AuthWorld) (userId : Nat) : List UserDevice :=
  w.devices.filter fun d => decide (d.userId = userId) &&
    w.sessions.rows.any fun s => decide (s.Usable w.now) && decide (s.deviceId = some d.id)

/-- No more devices have access than are active. -/
theorem DevicesHold.length_devicesWithAccess
    (hw : DevicesHold w) (userId : Nat) :
    (w.devicesWithAccess userId).length ≤ (w.activeDevices userId).length := by
  simp only [AuthWorld.devicesWithAccess, AuthWorld.activeDevices, Table.filter,
    ← List.countP_eq_length_filter]
  refine List.countP_mono_left fun d hd hp => ?_
  obtain ⟨huser, hany⟩ := Bool.and_eq_true_iff.mp hp
  obtain ⟨s, hs, husable⟩ := List.any_eq_true.mp hany
  simp only [Bool.and_eq_true, decide_eq_true_eq] at husable
  have hactive := hw s hs husable.1 d.id husable.2
  have hfind : w.devices.find d.id = some d := Table.find_of_mem hd
  rw [AuthWorld.deviceActive, hfind, Option.any_some] at hactive
  simp [huser, hactive]

theorem statement_devicesHold
    (s : AuthStmt) (o : Outcome) (hw : DevicesHold w) :
    DevicesHold (attempt (authExec dep) .database s o w).1 ↔
      RespectsDevices dep w s o := by
  have h : (DevicesHold w → DevicesHold (attempt (authExec dep) .database s o w).1) ↔
      (DevicesHold w → RespectsDevices dep w s o) := attempt_iff
    (P := fun w w' => DevicesHold w → DevicesHold w')
    (G := fun w s o => DevicesHold w → RespectsDevices dep w s o)
    (fun _ h => h) (fun _ _ _ => .inl rfl)
    (fun s o w e he _ => .inr (.inl (by rw [he]; rfl)))
    (fun s o w w' r ho h => imp_congr_right fun hw => exec_devicesHold hw ho h) s o w
  exact ⟨fun h' => h.mp (fun _ => h') hw, fun h' => h.mpr (fun _ => h') hw⟩

theorem authServer_env_devicesHold
    (e : AuthEvent) (w w' : AuthWorld) (p : Option (AuthService AuthAnswer))
    (hw : DevicesHold w) (h : (authServer dep).env e w = some (w', p)) :
    DevicesHold w' := by
  cases e with
  | arrive r =>
      cases h
      exact hw
  | tick ms =>
      cases h
      exact hw.of_later rfl (fun _ h => h) (Nat.le_add_right _ _)

variable (dep) in
/--
In every state of a run the usable sessions belong to active devices exactly if every
statement respects the devices; then `RefreshGuard` accepts no session of a revoked
device, and no more devices have access than are active.
-/
theorem evictedDevice_loses_access
    {c c' : AuthState} {as : List (Action AuthEvent)}
    (hstart : DevicesHold c.world)
    (hrun : runs (authServer dep).step c as = some c') :
    (Meets (authServer dep).step
        (System.Respects (authServer dep) fun _ w' => DevicesHold w') c as ↔
      Meets (authServer dep).step
        (System.Conforms (fun _ _ => True) (RespectsDevices dep)) c as) ∧
    (Meets (authServer dep).step
        (System.Conforms (fun _ _ => True) (RespectsDevices dep)) c as →
      (∀ h s id, c'.world.accepts h s → s.deviceId = some id →
        c'.world.deviceActive id = true) ∧
      ∀ userId, (c'.world.devicesWithAccess userId).length ≤
        (c'.world.activeDevices userId).length) := by
  have hiff := System.meets_invariant_iff (authServer dep) (I := DevicesHold)
    authServer_env_devicesHold (fun s o _ hw => statement_devicesHold s o hw) as hstart
  refine ⟨hiff, fun hmeets => ?_⟩
  have hend : DevicesHold c'.world :=
    System.respects_runs (authServer dep) (P := fun _ w' => DevicesHold w')
      (fun _ _ _ h => h) hstart (hiff.mpr hmeets) hrun
  refine ⟨fun h s id hs hid => ?_, hend.length_devicesWithAccess⟩
  exact hend s (Table.find_mem (find_of_accepts hs).1) hs.2 id hid

instance (w : AuthWorld) (s : UserSession) : Decidable (w.Admits s) :=
  decidable_of_iff
    (s.Usable w.now → s.deviceId.all (fun id => w.deviceActive id) = true) (by
    cases h : s.deviceId <;> simp [AuthWorld.Admits, h])

instance (w : AuthWorld) : Decidable (DevicesHold w) :=
  inferInstanceAs (Decidable (∀ s, s ∈ w.sessions.rows → w.Admits s))

instance (w : AuthWorld) (s : AuthStmt) (o : Outcome) :
    Decidable (RespectsDevices dep w s o) := by
  apply AuthStmt.casesOn (motive := fun s => Decidable (RespectsDevices dep w s o)) s <;>
    intros <;> unfold RespectsDevices <;> infer_instance

/-- The user logs in from four devices. -/
def fourLogins : List (Action AuthEvent) :=
  .env (.arrive (sampleLogin "a")) :: authSteps 0 13 ++
    .env (.arrive (sampleLogin "b")) :: authSteps 1 13 ++
    .env (.arrive (sampleLogin "c")) :: authSteps 2 13 ++
    .env (.arrive (sampleLogin "d")) :: authSteps 3 13

set_option maxRecDepth 8000 in
theorem evictedDevice_loses_access_fourLogins :
    ∃ c', runs (authServer sampleAuth).step ⟨sampleAuthWorld, []⟩ fourLogins = some c' ∧
      ∀ userId, (c'.world.devicesWithAccess userId).length ≤
        (c'.world.activeDevices userId).length := by
  obtain ⟨c', hrun⟩ := Option.isSome_iff_exists.mp
    (by decide +kernel : (runs (authServer sampleAuth).step ⟨sampleAuthWorld, []⟩
      fourLogins).isSome)
  exact ⟨c', hrun, ((evictedDevice_loses_access sampleAuth (by decide +kernel)
    hrun).2 (by decide +kernel)).2⟩

/-- A fifth login revokes the device of the first. -/
def fiveLogins : List (Action AuthEvent) :=
  fourLogins ++ .env (.arrive (sampleLogin "e")) :: authSteps 4 16

set_option maxRecDepth 8000 in
/-- The session of the revoked device is still accepted. -/
theorem fiveLogins_keepAccess :
    ¬ ∀ (as : List (Action AuthEvent)) (c' : AuthState),
      runs (authServer sampleAuth).step ⟨sampleAuthWorld, []⟩ as = some c' →
      ∀ h s id, c'.world.accepts h s → s.deviceId = some id →
        c'.world.deviceActive id = true := by
  intro h
  obtain ⟨c', hrun⟩ := Option.isSome_iff_exists.mp
    (by decide +kernel : (runs (authServer sampleAuth).step ⟨sampleAuthWorld, []⟩
      fiveLogins).isSome)
  have hend : ((runs (authServer sampleAuth).step ⟨sampleAuthWorld, []⟩
      fiveLogins).any fun c => c.world.deviceActive 1 = false ∧
        (c.world.sessions.findFirst fun s => decide (s.refreshTokenHash = "k")).any
          fun s => s.deviceId = some 1 ∧ s.Usable c.world.now) = true := by
    decide +kernel
  rw [hrun, Option.any_some, decide_eq_true_eq] at hend
  obtain ⟨hrevoked, s, hs, hfound⟩ := hend.imp_right (Option.any_eq_true _ _).mp
  rw [decide_eq_true_eq] at hfound
  have := h _ _ hrun "k" s 1 ⟨hs, hfound.2⟩ hfound.1
  rw [hrevoked] at this
  cases this

end BookStore
