import BookStore.Async.LastStatement
import BookStore.Auth.Services

/-!
# The device cap

`upsertDeviceOnLogin` counts the active devices of a user, revokes the oldest one when there
are `maxDevices` and then inserts or reactivates the device of the login.  The statements of
several logins may come between one another.

`FitsCap` is what a run needs: a device becomes active only while there is room for it, and a
login that found its device active writes to it while it still is.
-/

namespace BookStore

open Async Program

variable (dep : AuthDeployment)

/-! ### The server -/

/-- A login that reaches the devices, or time that passes -/
inductive DeviceEvent
  | arrive (userId : Nat) (deviceFingerprint : String)
  | tick (ms : Nat)
  deriving DecidableEq

/-- The answer is the device of the login. -/
def deviceHandler (userId : Nat) (deviceFingerprint : String) :
    AuthService (Option UserDevice) := do
  let device : UserDevice ← upsertDeviceOnLogin userId deviceFingerprint
  ret (some device)

def deviceServer :
    System AuthStmt AuthResponse AuthFailure (Option UserDevice) AuthWorld DeviceEvent where
  exec := authExec dep
  fault := .database
  idle := none
  env := fun e w =>
    match e with
    | .arrive userId deviceFingerprint => some (w, some (deviceHandler userId deviceFingerprint))
    | .tick ms => some ({ w with now := w.now + ms }, none)

abbrev DeviceState := Config AuthStmt AuthResponse AuthFailure (Option UserDevice) AuthWorld

/-! ### The cap -/

/-- No more than `maxDevices` devices are active, and no two have one fingerprint. -/
structure WithinCap (userId : Nat) (w : AuthWorld) : Prop where
  active : (w.activeDevices userId).length ≤ maxDevices
  fingerprints : ∀ d d', d ∈ w.devices.rows → d' ∈ w.devices.rows → d.userId = userId →
    d'.userId = userId → d.deviceFingerprint = d'.deviceFingerprint → d = d'

/--
A device of the user is inserted or reactivated while fewer than `maxDevices` are active, and
one that is written to as active is active.
-/
def FitsCap (userId : Nat) (w : AuthWorld) (s : AuthStmt) (o : Outcome) : Prop :=
  o = .fail ∨
    match s with
    | .createUserDevice owner deviceFingerprint _ =>
        owner = userId →
          (∀ d, d ∈ w.devices.rows → d.userId = userId →
            d.deviceFingerprint ≠ deviceFingerprint) →
          (w.activeDevices userId).length < maxDevices
    | .updateUserDevice id data =>
        ∀ d, d ∈ w.devices.rows → d.id = id → d.userId = userId → d.revokedAt ≠ none →
          data.revokedAt ≠ none ∧
            (data.revokedAt = some none → (w.activeDevices userId).length < maxDevices)
    | _ => True

variable {dep} {w w' : AuthWorld} {userId : Nat}

def UserDevice.activeOf (userId : Nat) (d : UserDevice) : Bool :=
  decide (d.userId = userId) && d.revokedAt.isNone

theorem length_activeDevices :
    (w.activeDevices userId).length = w.devices.rows.countP (UserDevice.activeOf userId) :=
  List.countP_eq_length_filter.symm

/-- One row of a table at most has a key. -/
theorem countP_key_le_one {Row : Type} [Keyed Row] (t : Table Row) (id : Nat) :
    t.rows.countP (fun r => decide (key r = id)) ≤ 1 := by
  have := List.nodup_iff_count_le_one.mp t.nodup id
  rwa [List.count, List.countP_map] at this

theorem countP_le_add {α : Type} {p q r : α → Bool} {l : List α}
    (h : ∀ a, a ∈ l → p a = true → q a = true ∨ r a = true) :
    l.countP p ≤ l.countP q + l.countP r := by
  induction l with
  | nil =>
      exact Nat.le_refl 0
  | cons a l ih =>
      have hrest := ih fun b hb => h b (List.mem_cons_of_mem a hb)
      have hhead := h a List.mem_cons_self
      simp only [List.countP_cons]
      split_ifs <;> first | omega | simp_all

theorem activeOf_iff {d : UserDevice} :
    d.activeOf userId = true ↔ d.userId = userId ∧ d.revokedAt = none := by
  simp [UserDevice.activeOf]

/-- An insertion, where there is room -/
theorem withinCap_create
    {owner seenAt : Nat} {deviceFingerprint : String} {r : UserDevice}
    (hw : WithinCap userId w)
    (hroom : owner = userId →
      (∀ d, d ∈ w.devices.rows → d.userId = userId → d.deviceFingerprint ≠ deviceFingerprint) →
      (w.activeDevices userId).length < maxDevices)
    (h : authExec dep (.createUserDevice owner deviceFingerprint seenAt) w = .ok (w', r)) :
    WithinCap userId w' := by
  simp only [authExec] at h
  split at h
  · cases h
  · rename_i hnew
    cases h
    simp only [not_or, List.any_eq_true, Bool.and_eq_true, decide_eq_true_eq, not_exists] at hnew
    have hfresh : ∀ d, d ∈ w.devices.rows → d.userId = owner →
        d.deviceFingerprint ≠ deviceFingerprint := fun d hd howner hfingerprint =>
      hnew.2 d ⟨hd, howner, hfingerprint⟩
    constructor
    · rw [length_activeDevices, Table.rows_insert, List.countP_append, ← length_activeDevices]
      by_cases howner : owner = userId
      · have := hroom howner fun d hd huser => hfresh d hd (huser.trans howner.symm)
        have := List.countP_le_length (p := UserDevice.activeOf userId)
          (l := [newDevice owner deviceFingerprint seenAt w.devices.next])
        rw [List.length_singleton] at this
        omega
      · have hother : UserDevice.activeOf userId
            (newDevice owner deviceFingerprint seenAt w.devices.next) ≠ true := fun hactive =>
          howner (activeOf_iff.mp hactive).1
        rw [List.countP_singleton, if_neg hother]
        exact hw.active
    · intro d d' hd hd' huser huser' hfingerprint
      rcases List.mem_append.mp hd with hd | hd <;> rcases List.mem_append.mp hd' with hd' | hd'
      · exact hw.fingerprints d d' hd hd' huser huser' hfingerprint
      · rw [List.mem_singleton.mp hd'] at huser' hfingerprint
        exact absurd hfingerprint (hfresh d hd (huser.trans huser'.symm))
      · rw [List.mem_singleton.mp hd] at huser hfingerprint
        exact absurd hfingerprint.symm (hfresh d' hd' (huser'.trans huser.symm))
      · rw [List.mem_singleton.mp hd, List.mem_singleton.mp hd']

/-- An update, where there is room for what it reactivates -/
theorem withinCap_update
    {id : Nat} {data : UserDeviceUpdate}
    (hw : WithinCap userId w)
    (hroom : data.revokedAt = some none → ∀ d, d ∈ w.devices.rows → d.id = id →
      d.userId = userId → d.revokedAt ≠ none → (w.activeDevices userId).length < maxDevices)
    (hdevices : w'.devices = w.devices.update id data.apply data.key_apply) :
    WithinCap userId w' := by
  have hrows : w'.devices.rows =
      w.devices.rows.map fun d => if decide (key d = id) then data.apply d else d := by
    rw [hdevices]
    rfl
  constructor
  · rw [length_activeDevices, hrows, List.countP_map]
    by_cases hmore : ∀ d, d ∈ w.devices.rows →
        UserDevice.activeOf userId (if decide (key d = id) then data.apply d else d) = true →
        UserDevice.activeOf userId d = true
    · refine (List.countP_mono_left hmore).trans ?_
      rw [← length_activeDevices]
      exact hw.active
    · -- the row that is reactivated was not active before
      simp only [not_forall] at hmore
      obtain ⟨d, hd, hafter, hbefore⟩ := hmore
      have hid : d.id = id := by
        by_contra hne
        rw [if_neg (by simpa [key] using hne)] at hafter
        exact hbefore hafter
      rw [if_pos (by simpa [key] using hid), activeOf_iff] at hafter
      have hrevoked : d.revokedAt ≠ none := fun hnone =>
        hbefore (activeOf_iff.mpr ⟨hafter.1, hnone⟩)
      have hdata : data.revokedAt = some none := by
        have hnull : data.revokedAt.getD d.revokedAt = none := hafter.2
        cases hdata : data.revokedAt with
        | none =>
            rw [hdata] at hnull
            exact absurd hnull hrevoked
        | some t =>
            rw [hdata] at hnull
            exact congrArg some hnull
      have hlt := hroom hdata d hd hid hafter.1 hrevoked
      rw [length_activeDevices] at hlt
      have hone := countP_key_le_one w.devices id
      have hsplit : w.devices.rows.countP (UserDevice.activeOf userId ∘
            fun d => if decide (key d = id) then data.apply d else d) ≤
          w.devices.rows.countP (UserDevice.activeOf userId) +
            w.devices.rows.countP fun d => decide (key d = id) := by
        refine countP_le_add fun d _ hd => ?_
        by_cases hkey : decide (key d = id) = true
        · exact .inr hkey
        · rw [Function.comp_apply, if_neg hkey] at hd
          exact .inl hd
      omega
  · intro d₁ d₂ hd₁ hd₂ huser₁ huser₂ hfingerprint
    rw [hrows] at hd₁ hd₂
    obtain ⟨d, hd, rfl⟩ := List.mem_map.mp hd₁
    obtain ⟨d', hd', rfl⟩ := List.mem_map.mp hd₂
    have hkept : ∀ d : UserDevice,
        (if decide (key d = id) then data.apply d else d).userId = d.userId ∧
        (if decide (key d = id) then data.apply d else d).deviceFingerprint =
          d.deviceFingerprint := by
      intro d
      split_ifs <;> exact ⟨rfl, rfl⟩
    rw [(hkept d).1] at huser₁
    rw [(hkept d').1] at huser₂
    rw [(hkept d).2, (hkept d').2] at hfingerprint
    rw [hw.fingerprints d d' hd hd' huser₁ huser₂ hfingerprint]

/-- **Statements** keep the cap where they fit. -/
theorem exec_withinCap
    {s : AuthStmt} {o : Outcome} {r : AuthResponse s}
    (hw : WithinCap userId w) (hfits : FitsCap userId w s o) (ho : o ≠ .fail)
    (h : authExec dep s w = .ok (w', r)) :
    WithinCap userId w' := by
  have heff := authExec_effects dep h
  have hguard := hfits.resolve_left ho
  cases s with
  | createUserDevice owner deviceFingerprint seenAt =>
      exact withinCap_create hw hguard h
  | updateUserDevice id data =>
      exact withinCap_update hw
        (fun hdata d hd hid huser hrevoked => (hguard d hd hid huser hrevoked).2 hdata) heff.devices
  | _ =>
      have hsame : w'.devices = w.devices := heff.devices
      exact ⟨by simpa only [AuthWorld.activeDevices, hsame] using hw.active,
        by simpa only [hsame] using hw.fingerprints⟩

/-! ### The last statement of a login -/

/-- A device is inserted or updated without revoking it, and returned. -/
def FinalWrite (s : AuthStmt) (r : AuthResponse s) (a : Option UserDevice) : Prop :=
  match s, r with
  | .createUserDevice _ _ _, r => a = some r
  | .updateUserDevice _ data, r => a = some r ∧ data.revokedAt.getD none = none
  | _, _ => False

/-- What follows the cap -/
theorem write_endsWith
    (s : AuthStmt) {f : AuthResponse s → Option UserDevice}
    (h : ∀ r, FinalWrite s r (f r)) :
    ((authQuery s).bind fun r => ret (f r)).EndsWith (· ≠ none) FinalWrite ∧
      ((authQuery s).bind fun r => ret (f r)).Unreturned (· ≠ none) := by
  refine ⟨EndsWith.await_bind (fun _ => trivial) fun r a ha _ => ?_, unreturned_await_bind⟩
  cases ha
  exact h r

theorem deviceHandler_endsWith (owner : Nat) (deviceFingerprint : String) :
    (deviceHandler owner deviceFingerprint).EndsWith (· ≠ none) FinalWrite := by
  simp only [deviceHandler, upsertDeviceOnLogin, bind_eq_bind, Program.bind_assoc]
  refine (EndsWith.bind fun now => EndsWith.bind fun existing => ?_).1
  cases existing with
  | none =>
      dsimp only
      rw [Program.bind_assoc]
      exact EndsWith.bind fun _ =>
        write_endsWith (.createUserDevice owner deviceFingerprint now) fun r => rfl
  | some existing =>
      dsimp only
      split_ifs
      · exact write_endsWith (.updateUserDevice existing.id
          ⟨none, some now, some (existing.firstSeenAt.getD now)⟩) fun r => ⟨rfl, rfl⟩
      · rw [Program.bind_assoc]
        exact EndsWith.bind fun _ => write_endsWith (.updateUserDevice existing.id
          ⟨some none, some now, some (existing.firstSeenAt.getD now)⟩) fun r => ⟨rfl, rfl⟩

/-- The device that a login returns is active when it returns. -/
theorem active_of_finalWrite
    {s : AuthStmt} {o : Outcome} {r : AuthResponse s} {d : UserDevice}
    (hfits : FitsCap userId w s o) (ho : o ≠ .fail)
    (h : authExec dep s w = .ok (w', r))
    (hfinal : FinalWrite s r (some d)) (huser : d.userId = userId) :
    d ∈ w'.activeDevices userId := by
  have hguard := hfits.resolve_left ho
  suffices hmem : d ∈ w'.devices.rows ∧ d.revokedAt = none from
    List.mem_filter.mpr ⟨hmem.1, activeOf_iff.mpr ⟨huser, hmem.2⟩⟩
  cases s with
  | createUserDevice owner deviceFingerprint seenAt =>
      simp only [authExec] at h
      split at h
      · cases h
      · cases h
        cases hfinal
        exact ⟨by simp, rfl⟩
  | updateUserDevice id data =>
      obtain ⟨hd, hkeeps⟩ := hfinal
      simp only [authExec] at h
      split at h
      · cases h
      · rename_i d₀ hfind
        simp only [Except.ok.injEq, Prod.mk.injEq] at h
        obtain ⟨rfl, rfl⟩ := h
        cases hd
        constructor
        · have := List.mem_map_of_mem
            (f := fun d => if decide (key d = id) then data.apply d else d)
            (Table.find_mem hfind)
          rwa [if_pos (by simpa using Table.find_key hfind)] at this
        · cases hdata : data.revokedAt with
          | none =>
              by_contra hrevoked
              have hold : d₀.revokedAt ≠ none := fun hnone =>
                hrevoked (by simp [UserDeviceUpdate.apply, hdata, hnone])
              exact (hguard d₀ (Table.find_mem hfind) (Table.find_key hfind) huser hold).1 hdata
          | some t =>
              rw [hdata] at hkeeps
              simpa [UserDeviceUpdate.apply, hdata] using hkeeps
  | _ =>
      exact hfinal.elim

variable (dep) in
/--
Along a run whose statements fit, the user has no more than `maxDevices` active devices and no
fingerprint twice, and the login that returned last has its device active.
-/
theorem deviceCap_runs
    (userId : Nat) {c c' : DeviceState} {as : List (Action DeviceEvent)}
    (hstart : WithinCap userId c.world)
    (hthreads : c.threads = [])
    (hmeets : Meets (deviceServer dep).step
      (System.Conforms (fun _ _ => True) (FitsCap userId)) c as)
    (hrun : runs (deviceServer dep).step c as = some c') :
    WithinCap userId c'.world ∧
      ∀ before i j o after d, as = before ++ .run i j o :: after →
        (∀ a, a ∈ after → ∃ ms, a = .env (.tick ms)) →
        c'.threads[i]? = some (.ret (some d)) → d.userId = userId →
        d ∈ c'.world.activeDevices userId := by
  constructor
  · refine System.conforms_runs (deviceServer dep) (I := WithinCap userId) ?_
      (fun s o w w' r hw hfits ho h => exec_withinCap hw hfits ho h) hstart hmeets hrun
    intro e w w' p hw _ henv
    cases e <;> cases henv <;> exact ⟨hw.active, hw.fingerprints⟩
  · rintro before i j o after d rfl hticks hret huser
    obtain ⟨c₁, hbefore, hlast⟩ := runs_append.mp hrun
    obtain ⟨c₂, hstep, hafter⟩ := runs_cons.mp hlast
    -- time does not change the devices or what has been returned
    have hsame : c'.threads = c₂.threads ∧ c'.world.devices = c₂.world.devices := by
      refine runs_invariant (G := fun _ a => ∃ ms, a = .env (.tick ms))
        (I := fun c => c.threads = c₂.threads ∧ c.world.devices = c₂.world.devices)
        ?_ ⟨rfl, rfl⟩ (Meets.of_forall_mem fun a ha _ => hticks a ha) hafter
      rintro c a c' hc ⟨ms, rfl⟩ hstep
      cases hstep
      exact ⟨(List.append_nil _).trans hc.1, hc.2⟩
    rw [hsame.1] at hret
    have hends : AllEndWith (· ≠ none) FinalWrite c₁ := by
      refine allEndWith_runs ?_ ?_ ?_ hbefore
      · intro e w w' p henv
        cases e with
        | arrive owner deviceFingerprint =>
            cases henv
            exact deviceHandler_endsWith owner deviceFingerprint
        | tick ms =>
            cases henv
      · exact fun h => h rfl
      · intro p hp
        rw [hthreads] at hp
        cases hp
    obtain ⟨s, r, hs, ho, hexec, hfinal⟩ :=
      endsWith_finish hends hstep hret (Option.some_ne_none d)
    have hfits := ((meets_append hbefore).mp hmeets).2.1
    simp only [System.Conforms, hs] at hfits
    have hactive : d ∈ c₂.world.activeDevices userId :=
      active_of_finalWrite hfits (by rw [ho]; simp) hexec hfinal huser
    rw [AuthWorld.activeDevices, hsame.2]
    exact hactive

instance (w : AuthWorld) : Decidable (WithinCap userId w) :=
  decidable_of_iff
    ((w.activeDevices userId).length ≤ maxDevices ∧
      ∀ d, d ∈ w.devices.rows → ∀ d', d' ∈ w.devices.rows → d.userId = userId →
        d'.userId = userId → d.deviceFingerprint = d'.deviceFingerprint → d = d')
    ⟨fun h => ⟨h.1, fun d d' hd hd' => h.2 d hd d' hd'⟩,
      fun h => ⟨h.active, fun d hd d' hd' => h.fingerprints d d' hd hd'⟩⟩

instance (w : AuthWorld) (s : AuthStmt) (o : Outcome) : Decidable (FitsCap userId w s o) := by
  apply AuthStmt.casesOn (motive := fun s => Decidable (FitsCap userId w s o)) s <;>
    intros <;> unfold FitsCap <;> infer_instance

/-- The statements of login `i` in a row, and a pause -/
def loginInTurn (i statements : Nat) (deviceFingerprint : String) : List (Action DeviceEvent) :=
  .env (.arrive 1 deviceFingerprint) :: List.replicate statements (.run i 0 .ok) ++
    [.env (.tick 1000)]

/-- Five devices in turn, the second one once more, and the first one, which has been revoked -/
def loginsInTurn : List (Action DeviceEvent) :=
  loginInTurn 0 4 "a" ++ loginInTurn 1 4 "b" ++ loginInTurn 2 4 "c" ++ loginInTurn 3 4 "d" ++
    loginInTurn 4 7 "e" ++ loginInTurn 5 3 "b" ++ loginInTurn 6 7 "a"

theorem deviceCap_runs_loginsInTurn :
    ∃ c' d, runs (deviceServer sampleAuth).step ⟨sampleAuthWorld, []⟩ loginsInTurn = some c' ∧
      WithinCap 1 c'.world ∧ d.deviceFingerprint = "a" ∧ d ∈ c'.world.activeDevices 1 := by
  obtain ⟨c', hrun, hlast⟩ := (Option.any_eq_true
    (fun c : DeviceState => (c.threads[6]?.bind Program.answer).join.any fun d : UserDevice =>
      decide (d.deviceFingerprint = "a") && decide (d.userId = 1)) _).mp
    (by decide +kernel : (runs (deviceServer sampleAuth).step ⟨sampleAuthWorld, []⟩
      loginsInTurn).any _ = true)
  obtain ⟨hcap, hactive⟩ := deviceCap_runs sampleAuth 1 (by decide +kernel) rfl
    (by decide +kernel) hrun
  obtain ⟨d, hd, hlogin⟩ := (Option.any_eq_true _ _).mp hlast
  have hret : c'.threads[6]? = some (.ret (some d)) :=
    bind_answer_eq_some_iff.mp (Option.join_eq_some_iff.mp hd)
  obtain ⟨hname, huser⟩ := Bool.and_eq_true_iff.mp hlogin
  have hticks : ∀ a, a ∈ [Action.env (DeviceEvent.tick 1000)] → ∃ ms, a = .env (.tick ms) :=
    fun a ha => ⟨1000, List.mem_singleton.mp ha⟩
  exact ⟨c', d, hrun, hcap, of_decide_eq_true hname, hactive (loginsInTurn.take 45) 6 0 .ok _ d rfl
    hticks hret (of_decide_eq_true huser)⟩

/-- Three logins one after another, then two whose statements come between one another -/
def racingLogins : List (Action DeviceEvent) :=
  .env (.arrive 1 "a") :: List.replicate 4 (.run 0 0 .ok) ++
    .env (.arrive 1 "b") :: List.replicate 4 (.run 1 0 .ok) ++
    .env (.arrive 1 "c") :: List.replicate 4 (.run 2 0 .ok) ++
    .env (.arrive 1 "d") :: .env (.arrive 1 "e") ::
      (List.replicate 3 (.run 3 0 .ok) ++ List.replicate 3 (.run 4 0 .ok) ++
        [.run 3 0 .ok, .run 4 0 .ok])

/-- All logins have returned, and five devices are active. -/
theorem racingLogins_exceed :
    WithinCap 1 sampleAuthWorld ∧
      ((runs (deviceServer sampleAuth).step ⟨sampleAuthWorld, []⟩ racingLogins).any fun c =>
        c.quiet && decide (maxDevices < (c.world.activeDevices 1).length)) = true := by
  decide +kernel

end BookStore
