import BookStore.Auth.Services

/-!
# What a closed session can still do

`RefreshGuard` accepts a refresh token when it finds an active session of it that
has not run out.  A session that was revoked or marked expired is closed; the
only statement that can open it again is the update of `rotateSession`.
-/

namespace BookStore

open Async Program

/-- What `RefreshGuard` asks of the session it has found. -/
structure UserSession.Usable (s : UserSession) (now : Nat) : Prop where
  active : s.status = .active
  notRevoked : s.revokedAt = none
  notExpired : ∀ t, s.expiresAt = some t → now ≤ t

/-- `RefreshGuard` accepts the token of the session. -/
def AuthWorld.accepts (w : AuthWorld) (refreshTokenHash : String) (s : UserSession) :
    Prop :=
  (w.sessions.findFirst fun s => decide (s.refreshTokenHash = refreshTokenHash)) =
      some s ∧
    s.Usable w.now

theorem find_of_accepts
    {w : AuthWorld} {h : String} {s : UserSession}
    (hs : w.accepts h s) :
    w.sessions.find s.id = some s ∧ s.refreshTokenHash = h := by
  obtain ⟨hmem, hhash⟩ := Table.findFirst_eq_some hs.1
  exact ⟨Table.find_of_mem hmem, by simpa using hhash⟩

variable (dep : AuthDeployment)

/-- **The guard.** By itself it lets a request through exactly if it accepts. -/
theorem refreshGuard_alone_iff
    (header : Option String) (w w' : AuthWorld) (token : String) (s : UserSession) :
    (refreshGuard dep header).alone (authExec dep) .database w =
        some (w', .ok (token, s)) ↔
      w' = w ∧ refreshTokenHeader header = some token ∧
        w.accepts (dep.hashToken token) s := by
  unfold refreshGuard AuthWorld.accepts
  cases refreshTokenHeader header with
  | none =>
      simp [Program.alone]
  | some t =>
      have hfind : authExec dep (.findByRefreshTokenHash (dep.hashToken t)) w =
          .ok (w, w.sessions.findFirst fun s =>
            decide (s.refreshTokenHash = dep.hashToken t)) := rfl
      have hnow : authExec dep .newDate w = .ok (w, w.now) := rfl
      simp only [bind_eq_bind, alone_bind, alone_await_ok hfind, Option.bind_some,
        Option.some.injEq]
      cases hfound : w.sessions.findFirst _ with
      | none =>
          simp only [Program.alone]
          constructor
          · intro h
            simp at h
          · rintro ⟨-, rfl, h, -⟩
            rw [hfound] at h
            cases h
      | some found =>
          have hiff : w' = w ∧ t = token ∧
              (w.sessions.findFirst fun s =>
                decide (s.refreshTokenHash = dep.hashToken token)) = some s ∧
                s.Usable w.now ↔
              found.Usable w.now ∧ w = w' ∧ t = token ∧ found = s := by
            constructor
            · rintro ⟨rfl, rfl, h, hs⟩
              rw [hfound, Option.some.injEq] at h
              exact ⟨h ▸ hs, rfl, rfl, h⟩
            · rintro ⟨hs, rfl, rfl, rfl⟩
              exact ⟨rfl, rfl, hfound, hs⟩
          rw [hiff]
          by_cases hclosed : found.status ≠ .active ∨ found.revokedAt.isSome = true
          · have hno : ¬ found.Usable w.now := by
              rintro ⟨h₁, h₂, -⟩
              simp [h₁, h₂] at hclosed
            simp [hclosed, hno, Program.alone]
          obtain ⟨hactive, hrevoked⟩ := not_or.mp hclosed
          simp only [hclosed, if_false]
          cases hexpires : found.expiresAt with
          | none =>
              have husable : found.Usable w.now :=
                ⟨not_not.mp hactive, by simpa using hrevoked, by simp [hexpires]⟩
              simp [Program.alone, husable]
          | some expiresAt =>
              simp only [alone_bind, alone_await_ok hnow, Option.bind_some]
              by_cases hlt : expiresAt < w.now
              · have hno : ¬ found.Usable w.now := by
                  intro h
                  have := h.notExpired expiresAt hexpires
                  omega
                simp only [hlt, if_true, hno, false_and, iff_false]
                exact alone_bind_raise _ _ _ _ _
              · have husable : found.Usable w.now := by
                  refine ⟨not_not.mp hactive, by simpa using hrevoked, ?_⟩
                  simp only [hexpires, Option.some.injEq]
                  rintro u rfl
                  omega
                simp [hlt, Program.alone, husable]

/-! ### Closed sessions -/

/-- The session was revoked or marked expired. -/
def SessionClosed (sessionId : Nat) (w : AuthWorld) : Prop :=
  ∃ s, w.sessions.find sessionId = some s ∧ s.status ≠ .active

/-- Closed sessions stay closed. -/
def KeepsClosed (w w' : AuthWorld) : Prop :=
  ∀ sessionId, SessionClosed sessionId w → SessionClosed sessionId w'

/-- Another session has the new hash, so that the update is refused. -/
def hashTaken (w : AuthWorld) (id : Nat) (data : UserSessionUpdate) : Bool :=
  data.refreshTokenHash.any fun h => w.sessions.rows.any fun s =>
    decide (s.id ≠ id) && decide (s.refreshTokenHash = h)

/-- An update that sets a session active and takes effect finds it active. -/
def RotatesActive (w : AuthWorld) (s : AuthStmt) (o : Outcome) : Prop :=
  match s with
  | .updateUserSession id data _ =>
      o = .fail ∨ data.status ≠ .active ∨ hashTaken w id data = true ∨
        (w.sessions.find id).all (fun row => decide (row.status = .active)) = true
  | _ => True

instance (w : AuthWorld) (s : AuthStmt) (o : Outcome) :
    Decidable (RotatesActive w s o) := by
  apply AuthStmt.casesOn (motive := fun s => Decidable (RotatesActive w s o)) s <;>
    intros <;> unfold RotatesActive <;> infer_instance

variable {dep}

theorem SessionClosed.of_find
    {w w' : AuthWorld} {sessionId : Nat}
    (h : ∀ s, w.sessions.find sessionId = some s → s.status ≠ .active →
      ∃ s', w'.sessions.find sessionId = some s' ∧ s'.status ≠ .active)
    (hclosed : SessionClosed sessionId w) :
    SessionClosed sessionId w' := by
  obtain ⟨s, hs, hstatus⟩ := hclosed
  exact h s hs hstatus

/-- A statement that is executed reopens a session only by rotating it. -/
theorem exec_keepsClosed
    {s : AuthStmt} {o : Outcome} {w w' : AuthWorld} {r : AuthResponse s}
    (ho : o ≠ .fail)
    (h : authExec dep s w = .ok (w', r)) :
    KeepsClosed w w' ↔ RotatesActive w s o := by
  have hsessions := (authExec_effects dep h).sessions
  cases s with
  | updateUserSession id data presented =>
      have hfree : hashTaken w id data = false := by
        simp only [authExec] at h
        split at h
        · cases h
        · split at h
          · cases h
          · rename_i hfree
            exact Bool.eq_false_iff.mpr hfree
      have hfind : ∀ j, w'.sessions.find j =
          if j = id then (w.sessions.find id).map data.apply else w.sessions.find j := by
        intro j
        rw [hsessions, sessionsAfter, Table.find_update]
      simp only [RotatesActive, ho, hfree, Bool.false_eq_true, false_or]
      constructor
      · intro hkeep
        by_cases hdata : data.status = .active
        · right
          cases hid : w.sessions.find id with
          | none =>
              rfl
          | some row =>
              by_contra hrow
              obtain ⟨s', hs', hstatus⟩ := hkeep id ⟨row, hid, by simpa using hrow⟩
              rw [hfind, if_pos rfl, hid, Option.map_some, Option.some.injEq] at hs'
              subst hs'
              exact hstatus hdata
        · exact .inl hdata
      · intro hguard sessionId
        refine SessionClosed.of_find fun s hs hstatus => ?_
        by_cases hid : sessionId = id
        · subst hid
          refine ⟨data.apply s, by rw [hfind, if_pos rfl, hs]; rfl, ?_⟩
          rcases hguard with h | h
          · exact h
          · rw [hs] at h
            exact absurd (by simpa using h) hstatus
        · exact ⟨s, by rw [hfind, if_neg hid, hs], hstatus⟩
  | createUserSession data =>
      refine iff_of_true (fun sessionId => SessionClosed.of_find fun s hs hstatus => ?_)
        trivial
      refine ⟨s, ?_, hstatus⟩
      rw [hsessions, sessionsAfter, Table.find_insert,
        if_neg (Nat.ne_of_lt (Table.find_lt hs)), hs]
  | _ =>
      refine iff_of_true (fun sessionId => SessionClosed.of_find fun s hs hstatus => ?_)
        trivial
      exact ⟨s, by rw [hsessions]; exact hs, hstatus⟩

/-- A statement that is refused reopens nothing. -/
theorem rotatesActive_of_error
    {s : AuthStmt} {w : AuthWorld} {e : AuthFailure} {o : Outcome}
    (h : authExec dep s w = .error e) :
    RotatesActive w s o := by
  cases s with
  | updateUserSession id data presented =>
      simp only [authExec] at h
      split at h
      · rename_i hnone
        exact .inr (.inr (.inr (by rw [hnone]; rfl)))
      · split at h
        · rename_i htaken
          exact .inr (.inr (.inl htaken))
        · cases h
  | _ =>
      trivial

theorem rotatesActive_fail (s : AuthStmt) (w : AuthWorld) : RotatesActive w s .fail := by
  cases s with
  | updateUserSession id data presented =>
      exact .inl rfl
  | _ =>
      trivial

/-- The environment leaves the sessions alone. -/
theorem authServer_env_sessions
    {e : AuthEvent} {w w' : AuthWorld} {p : Option (AuthService AuthAnswer)}
    (h : (authServer dep).env e w = some (w', p)) :
    w'.sessions = w.sessions := by
  cases e <;> cases h <;> rfl

variable (dep)

/-- **One run.** It keeps closed sessions closed iff it rotates active ones only. -/
theorem meets_keepsClosed_iff (c : AuthState) (as : List (Action AuthEvent)) :
    Meets (authServer dep).step (System.Respects (authServer dep) KeepsClosed) c as ↔
      Meets (authServer dep).step
        (System.Conforms (fun _ _ => True) RotatesActive) c as := by
  refine System.meets_respects_iff (authServer dep) (fun _ _ h => h) ?_
    (attempt_iff (fun _ _ h => h) rotatesActive_fail
      (fun _ _ _ _ h => rotatesActive_of_error h)
      (fun _ _ _ _ _ ho h => exec_keepsClosed ho h)) c as
  intro e w w' p h sessionId
  exact SessionClosed.of_find fun s hs hstatus =>
    ⟨s, by rw [authServer_env_sessions h]; exact hs, hstatus⟩

/--
A run leaves closed sessions closed exactly when every rotation finds its session
active; then no refresh token of a closed session is accepted any more.
-/
theorem logout_final
    {c c' : AuthState} {as : List (Action AuthEvent)}
    (hrun : runs (authServer dep).step c as = some c') :
    (Meets (authServer dep).step (System.Respects (authServer dep) KeepsClosed) c as ↔
      Meets (authServer dep).step
        (System.Conforms (fun _ _ => True) RotatesActive) c as) ∧
    (Meets (authServer dep).step
        (System.Conforms (fun _ _ => True) RotatesActive) c as →
      ∀ sessionId, SessionClosed sessionId c.world →
        SessionClosed sessionId c'.world ∧
          ∀ h s, c'.world.accepts h s → s.id ≠ sessionId) := by
  refine ⟨meets_keepsClosed_iff dep c as, fun hmeets sessionId hclosed => ?_⟩
  have hend : SessionClosed sessionId c'.world :=
    System.respects_runs (authServer dep) (P := KeepsClosed)
      (I := SessionClosed sessionId) (fun _ _ hI hP => hP sessionId hI) hclosed
      ((meets_keepsClosed_iff dep c as).mpr hmeets) hrun
  refine ⟨hend, ?_⟩
  rintro h s hs rfl
  obtain ⟨s', hs', hstatus⟩ := hend
  rw [(find_of_accepts hs).1, Option.some.injEq] at hs'
  subst hs'
  exact hstatus hs.2.active

/-- The user logs in and then out. -/
def loggedInThenOut : List (Action AuthEvent) :=
  .env (.arrive (sampleLogin "device")) :: authSteps 0 13 ++
    .env (.arrive (.logout (some "Bearer jwt") (some "k"))) :: authSteps 1 8

instance (sessionId : Nat) (w : AuthWorld) : Decidable (SessionClosed sessionId w) :=
  decidable_of_iff
    ((w.sessions.find sessionId).any (fun s => decide (s.status ≠ .active)) = true)
    (by simp [SessionClosed, Option.any_eq_true])

/-- The state in which they have left it. -/
def loggedOut : AuthState :=
  (runs (authServer sampleAuth).step ⟨sampleAuthWorld, []⟩ loggedInThenOut).getD
    ⟨sampleAuthWorld, []⟩

/-- Then the refresh token is presented once more. -/
def refreshAfterLogout : List (Action AuthEvent) :=
  .env (.arrive (.refresh (some "k") "agent")) :: authSteps 2 1

set_option maxRecDepth 4000 in
theorem logout_final_refreshAfterLogout :
    ∃ c', runs (authServer sampleAuth).step loggedOut refreshAfterLogout = some c' ∧
      SessionClosed 1 c'.world ∧
      Meets (authServer sampleAuth).step
        (System.Respects (authServer sampleAuth) KeepsClosed) loggedOut
        refreshAfterLogout := by
  obtain ⟨c', hrun⟩ := Option.isSome_iff_exists.mp
    (by decide +kernel : (runs (authServer sampleAuth).step loggedOut
      refreshAfterLogout).isSome)
  have hmeets : Meets (authServer sampleAuth).step
      (System.Conforms (fun _ _ => True) RotatesActive) loggedOut refreshAfterLogout := by
    decide +kernel
  have hfinal := logout_final sampleAuth hrun
  exact ⟨c', hrun, (hfinal.2 hmeets 1 (by decide +kernel)).1, hfinal.1.mpr hmeets⟩

/-- A refresh has passed the guard when the user logs out, and rotates then. -/
def refreshedAcrossLogout : List (Action AuthEvent) :=
  .env (.arrive (sampleLogin "device")) :: authSteps 0 13 ++
    .env (.arrive (.refresh (some "k") "agent")) :: authSteps 1 2 ++
    .env (.arrive (.logout (some "Bearer jwt") (some "k"))) :: authSteps 2 8 ++
    authSteps 1 6

set_option maxRecDepth 4000 in
/-- The session that the logout has revoked is active again. -/
theorem refreshedAcrossLogout_reopens :
    ¬ ∀ as : List (Action AuthEvent),
      Meets (authServer sampleAuth).step
        (System.Respects (authServer sampleAuth) KeepsClosed) ⟨sampleAuthWorld, []⟩
        as := by
  intro h
  have hmeets := (meets_keepsClosed_iff sampleAuth _ _).mp (h refreshedAcrossLogout)
  revert hmeets
  decide +kernel

end BookStore
