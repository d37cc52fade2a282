import BookStore.Tables

/-!
# Sessions, devices and tokens: the statements

The tables of `prisma/schema.prisma` that logging in, refreshing and logging out
read or write, and the repository functions over them.  A row keeps the columns
some modelled function uses.

`AuthDeployment` is what comes from libraries and the configuration: SHA-256,
bcrypt, JSON Web Tokens and the random generator.  Instants are milliseconds.

`AuthHistory` is bookkeeping: it is written along with the statements and read by
none of them.
-/

namespace BookStore

/-- What a service throws. -/
inductive AuthFailure
  | unauthorized (message : Option String)
  /-- `verifyAsync` rejects the token. -/
  | jwt
  | database
  deriving DecidableEq, Repr

inductive SessionStatus
  | active
  | revoked
  | expired
  deriving DecidableEq, Repr

/-- `users` -/
structure User where
  id : Nat
  email : String
  password : String
  isEmailVerified : Bool
  deriving DecidableEq

/-- A user without the password. -/
structure AuthMe where
  id : Nat
  email : String
  isEmailVerified : Bool
  deriving DecidableEq

def User.safe (u : User) : AuthMe :=
  ⟨u.id, u.email, u.isEmailVerified⟩

/-- `user_devices` -/
structure UserDevice where
  id : Nat
  userId : Nat
  deviceFingerprint : String
  firstSeenAt : Option Nat
  lastSeenAt : Option Nat
  revokedAt : Option Nat
  deriving DecidableEq

/-- `user_sessions`; the uuid is a number -/
structure UserSession where
  id : Nat
  userId : Nat
  deviceId : Option Nat
  ip : Option String
  status : SessionStatus
  refreshTokenHash : String
  userAgent : Option String
  expiresAt : Option Nat
  revokedAt : Option Nat
  deriving DecidableEq

/-- `revoked_tokens` -/
structure RevokedToken where
  tokenHash : String
  revokedAt : Nat
  expiresAt : Nat
  deriving DecidableEq

/-- `login_attempts` -/
structure LoginAttempt where
  userId : Option Nat
  ip : String
  userAgent : String
  success : Bool
  failureReason : Option String
  deriving DecidableEq

structure JwtPayload where
  sub : String
  isEmailVerified : Bool
  roles : List String
  deriving DecidableEq

/-- A decoded access token; `exp` is in seconds. -/
structure JwtClaims where
  payload : JwtPayload
  exp : Option Nat
  deriving DecidableEq

instance : Keyed User := ⟨User.id⟩
instance : Keyed UserDevice := ⟨UserDevice.id⟩
instance : Keyed UserSession := ⟨UserSession.id⟩

/-- Libraries and configuration. -/
structure AuthDeployment where
  /-- `hashToken`, also under the name `tokenHash` -/
  hashToken : String → String
  /-- `bcrypt.compare` -/
  compare : String → String → Bool
  /-- `jwtService.sign` at an instant -/
  sign : JwtPayload → Nat → String
  /-- The claims of a token whose signature is right. -/
  verify : String → Option JwtClaims
  /-- The key that `randomKey` draws as number `n`. -/
  randomKey : Nat → String
  /-- `REFRESH_TOKEN_TIME` -/
  refreshTokenSeconds : Nat
  /-- What the collation of the tables compares of an address. -/
  collate : String → String
  /-- SHA-256 is taken to be free of collisions. -/
  hashToken_injective : Function.Injective hashToken
  /-- Drawn keys are pairwise distinct. -/
  randomKey_injective : Function.Injective randomKey

/-- Bookkeeping about the past. -/
structure AuthHistory where
  /-- Refresh tokens that were exchanged, with the hash of what replaced them. -/
  exchanges : List (String × String)
  /-- Refresh tokens whose session was revoked or marked expired. -/
  closed : List String

structure AuthWorld where
  users : Table User
  userRoles : List (Nat × String)
  devices : Table UserDevice
  sessions : Table UserSession
  revokedTokens : List RevokedToken
  loginAttempts : List LoginAttempt
  guestSessions : List String
  now : Nat
  /-- How many keys `randomKey` has drawn, and how many salts. -/
  keys : Nat
  history : AuthHistory

/-- The columns an update writes; `undefined` is `none`. -/
structure UserDeviceUpdate where
  revokedAt : Option (Option Nat)
  lastSeenAt : Option Nat
  firstSeenAt : Option Nat
  deriving DecidableEq

def UserDeviceUpdate.apply (data : UserDeviceUpdate) (d : UserDevice) : UserDevice :=
  { d with
    revokedAt := data.revokedAt.getD d.revokedAt
    lastSeenAt := data.lastSeenAt.or d.lastSeenAt
    firstSeenAt := data.firstSeenAt.or d.firstSeenAt }

theorem UserDeviceUpdate.key_apply (data : UserDeviceUpdate) (d : UserDevice) :
    key (data.apply d) = key d := rfl

/-- The columns an update writes; `undefined` is `none`. -/
structure UserSessionUpdate where
  refreshTokenHash : Option String
  expiresAt : Option Nat
  status : SessionStatus
  revokedAt : Option Nat
  userAgent : Option String
  deriving DecidableEq

def UserSessionUpdate.apply (data : UserSessionUpdate) (s : UserSession) : UserSession :=
  { s with
    refreshTokenHash := data.refreshTokenHash.getD s.refreshTokenHash
    expiresAt := data.expiresAt.or s.expiresAt
    status := data.status
    revokedAt := data.revokedAt
    userAgent := data.userAgent.or s.userAgent }

theorem UserSessionUpdate.key_apply (data : UserSessionUpdate) (s : UserSession) :
    key (data.apply s) = key s := rfl

structure UserSessionCreateInput where
  userId : Nat
  deviceId : Option Nat
  ip : Option String
  refreshTokenHash : String
  userAgent : Option String
  expiresAt : Nat
  deriving DecidableEq

/-- The statements. -/
inductive AuthStmt
  | findAuthByEmailPassword (email : String)
  | findUserById (id : Nat)
  | getRolesByUserId (userId : Nat)
  | createLoginAttempt (attempt : LoginAttempt)
  /-- `Date.now()` -/
  | newDate
  | sign (payload : JwtPayload)
  | randomKey
  | verifyAsync (token : String) (ignoreExpiration : Bool)
  -- devices
  | findByUserIdAndFingerprint (userId : Nat) (deviceFingerprint : String)
  | countActiveByUserId (userId : Nat)
  | findOldestActiveDevice (userId : Nat)
  | updateUserDevice (id : Nat) (data : UserDeviceUpdate)
  | createUserDevice (userId : Nat) (deviceFingerprint : String) (seenAt : Nat)
  -- sessions; `presented` is the refresh token of the request
  | createUserSession (data : UserSessionCreateInput)
  | findByRefreshTokenHash (refreshTokenHash : String)
  | updateUserSession (id : Nat) (data : UserSessionUpdate) (presented : String)
  -- revoked access tokens
  | upsertRevokedToken (tokenHash : String) (expiresAt : Nat)
  | existsByHash (tokenHash : String)
  -- guest sessions
  | updateGuestSessionSeenDate (guestSessionId : String)
  | createGuestSession (guestSessionId : Option String)
  deriving DecidableEq

/-- The answer of a statement. -/
abbrev AuthResponse : AuthStmt → Type
  | .findAuthByEmailPassword _ => Option User
  | .findUserById _ => Option AuthMe
  | .getRolesByUserId _ => List String
  | .newDate => Nat
  | .sign _ => String
  | .randomKey => String
  | .verifyAsync _ _ => JwtClaims
  | .findByUserIdAndFingerprint _ _ => Option UserDevice
  | .countActiveByUserId _ => Nat
  | .findOldestActiveDevice _ => Option UserDevice
  | .updateUserDevice _ _ => UserDevice
  | .createUserDevice _ _ _ => UserDevice
  | .createUserSession _ => UserSession
  | .findByRefreshTokenHash _ => Option UserSession
  | .existsByHash _ => Bool
  | .updateGuestSessionSeenDate _ => Bool
  | _ => Unit

/-- The device with the smaller `lastSeenAt`; `NULL` sorts first, ties keep the first. -/
def olderDevice (d e : UserDevice) : UserDevice :=
  match d.lastSeenAt, e.lastSeenAt with
  | none, _ => d
  | some _, none => e
  | some t, some u => if u < t then e else d

/-- `orderBy: { lastSeenAt: 'asc' }`, first row -/
def oldestDevice : List UserDevice → Option UserDevice
  | [] => none
  | d :: ds => some (ds.foldl olderDevice d)

/-- The user with the address -/
def AuthWorld.userAt (dep : AuthDeployment) (w : AuthWorld) (email : String) : Option User :=
  w.users.findFirst fun u => decide (dep.collate u.email = dep.collate email)

/-- The devices of a user that are not revoked. -/
def AuthWorld.activeDevices (w : AuthWorld) (userId : Nat) : List UserDevice :=
  w.devices.filter fun d => decide (d.userId = userId) && d.revokedAt.isNone

/-- The row that `createUserSession` inserts. -/
def newSession (data : UserSessionCreateInput) (n : Nat) : UserSession where
  id := n
  userId := data.userId
  deviceId := data.deviceId
  ip := data.ip
  status := .active
  refreshTokenHash := data.refreshTokenHash
  userAgent := data.userAgent
  expiresAt := some data.expiresAt
  revokedAt := none

theorem key_newSession (data : UserSessionCreateInput) (n : Nat) :
    key (newSession data n) = n := rfl

/-- The row that `createUserDevice` inserts. -/
def newDevice (userId : Nat) (deviceFingerprint : String) (seenAt n : Nat) :
    UserDevice where
  id := n
  userId := userId
  deviceFingerprint := deviceFingerprint
  firstSeenAt := some seenAt
  lastSeenAt := some seenAt
  revokedAt := none

theorem key_newDevice (userId : Nat) (deviceFingerprint : String) (seenAt n : Nat) :
    key (newDevice userId deviceFingerprint seenAt n) = n := rfl

/-- Bookkeeping of an update of a session. -/
def AuthHistory.record
    (h : AuthHistory) (data : UserSessionUpdate) (presented : String) : AuthHistory :=
  match data.refreshTokenHash with
  | some new => { h with exchanges := h.exchanges ++ [(presented, new)] }
  | none => { h with closed := h.closed ++ [presented] }

section Exec

variable (dep : AuthDeployment)

/-- The effect and the answer of a statement. -/
def authExec : (s : AuthStmt) → AuthWorld →
    Except AuthFailure (AuthWorld × AuthResponse s)
  | .findAuthByEmailPassword email, w =>
      .ok (w, w.userAt dep email)
  | .findUserById id, w =>
      .ok (w, (w.users.find id).map User.safe)
  | .getRolesByUserId userId, w =>
      .ok (w, (w.userRoles.filter fun r => decide (r.1 = userId)).map Prod.snd)
  | .createLoginAttempt attempt, w =>
      .ok ({ w with loginAttempts := w.loginAttempts ++ [attempt] }, ())
  | .newDate, w => .ok (w, w.now)
  | .sign payload, w => .ok (w, dep.sign payload w.now)
  | .randomKey, w => .ok ({ w with keys := w.keys + 1 }, dep.randomKey w.keys)
  | .verifyAsync token ignoreExpiration, w =>
      match dep.verify token with
      | none => .error .jwt
      | some claims =>
          if ignoreExpiration = false ∧ claims.exp.any (fun t => decide (t ≤ w.now / 1000)) then
            .error .jwt
          else .ok (w, claims)
  | .findByUserIdAndFingerprint userId deviceFingerprint, w =>
      .ok (w, w.devices.findFirst fun d =>
        decide (d.userId = userId) && decide (d.deviceFingerprint = deviceFingerprint))
  | .countActiveByUserId userId, w => .ok (w, (w.activeDevices userId).length)
  | .findOldestActiveDevice userId, w => .ok (w, oldestDevice (w.activeDevices userId))
  | .updateUserDevice id data, w =>
      match w.devices.find id with
      | none => .error .database
      | some d =>
          .ok ({ w with devices := w.devices.update id data.apply data.key_apply }, data.apply d)
  | .createUserDevice userId deviceFingerprint seenAt, w =>
      if (w.users.find userId).isNone ∨
          w.devices.rows.any (fun d => decide (d.userId = userId) &&
            decide (d.deviceFingerprint = deviceFingerprint)) then
        .error .database
      else
        let row := newDevice userId deviceFingerprint seenAt
        .ok ({ w with
          devices := w.devices.insert row (key_newDevice userId deviceFingerprint seenAt) },
          row w.devices.next)
  | .createUserSession data, w =>
      if (w.users.find data.userId).isNone ∨
          data.deviceId.any (fun d => (w.devices.find d).isNone) ∨
          w.sessions.rows.any (fun s =>
            decide (s.refreshTokenHash = data.refreshTokenHash)) then
        .error .database
      else
        .ok ({ w with sessions := w.sessions.insert (newSession data) (key_newSession data) },
          newSession data w.sessions.next)
  | .findByRefreshTokenHash refreshTokenHash, w =>
      .ok (w, w.sessions.findFirst fun s =>
        decide (s.refreshTokenHash = refreshTokenHash))
  | .updateUserSession id data presented, w =>
      match w.sessions.find id with
      | none => .error .database
      | some _ =>
          -- `refreshTokenHash` is unique
          if data.refreshTokenHash.any (fun h => w.sessions.rows.any fun s =>
              decide (s.id ≠ id) && decide (s.refreshTokenHash = h)) then
            .error .database
          else
            .ok ({ w with
              sessions := w.sessions.update id data.apply data.key_apply
              history := w.history.record data presented }, ())
  | .upsertRevokedToken tokenHash expiresAt, w =>
      if w.revokedTokens.any (fun t => decide (t.tokenHash = tokenHash)) then
        .ok ({ w with
          revokedTokens := w.revokedTokens.map fun t =>
            if t.tokenHash = tokenHash then
              { t with revokedAt := w.now, expiresAt := expiresAt }
            else t }, ())
      else
        .ok ({ w with
          revokedTokens := w.revokedTokens ++ [⟨tokenHash, w.now, expiresAt⟩] }, ())
  | .existsByHash tokenHash, w =>
      .ok (w, w.revokedTokens.any fun t => decide (t.tokenHash = tokenHash))
  | .updateGuestSessionSeenDate guestSessionId, w =>
      .ok (w, decide (guestSessionId ∈ w.guestSessions))
  | .createGuestSession guestSessionId, w =>
      match guestSessionId with
      -- a drawn uuid is new
      | none => .ok (w, ())
      | some id =>
          if id ∈ w.guestSessions then .error .database
          else .ok ({ w with guestSessions := w.guestSessions ++ [id] }, ())

/-! ### What a statement does to each table -/

/-- The devices after statement `s`. -/
def devicesAfter (s : AuthStmt) (w : AuthWorld) : Table UserDevice :=
  match s with
  | .updateUserDevice id data => w.devices.update id data.apply data.key_apply
  | .createUserDevice userId deviceFingerprint seenAt =>
      w.devices.insert (newDevice userId deviceFingerprint seenAt)
        (key_newDevice userId deviceFingerprint seenAt)
  | _ => w.devices

/-- The sessions after statement `s`. -/
def sessionsAfter (s : AuthStmt) (w : AuthWorld) : Table UserSession :=
  match s with
  | .createUserSession data => w.sessions.insert (newSession data) (key_newSession data)
  | .updateUserSession id data _ => w.sessions.update id data.apply data.key_apply
  | _ => w.sessions

/-- The revoked access tokens after statement `s`. -/
def revokedTokensAfter (s : AuthStmt) (w : AuthWorld) : List RevokedToken :=
  match s with
  | .upsertRevokedToken tokenHash expiresAt =>
      if w.revokedTokens.any (fun t => decide (t.tokenHash = tokenHash)) then
        w.revokedTokens.map fun t =>
          if t.tokenHash = tokenHash then
            { t with revokedAt := w.now, expiresAt := expiresAt }
          else t
      else w.revokedTokens ++ [⟨tokenHash, w.now, expiresAt⟩]
  | _ => w.revokedTokens

/-- The bookkeeping after statement `s`. -/
def authHistoryAfter (s : AuthStmt) (w : AuthWorld) : AuthHistory :=
  match s with
  | .updateUserSession _ data presented => w.history.record data presented
  | _ => w.history

/-- The number of drawn keys after statement `s`. -/
def keysAfter (s : AuthStmt) (w : AuthWorld) : Nat :=
  match s with
  | .randomKey => w.keys + 1
  | _ => w.keys

/-- What statement `s` makes of the tables that the proofs look at. -/
structure AuthEffects (s : AuthStmt) (w w' : AuthWorld) : Prop where
  users : w'.users = w.users
  devices : w'.devices = devicesAfter s w
  sessions : w'.sessions = sessionsAfter s w
  revokedTokens : w'.revokedTokens = revokedTokensAfter s w
  now : w'.now = w.now
  keys : w'.keys = keysAfter s w
  history : w'.history = authHistoryAfter s w

/-- **Effects.** A statement that is executed does this and nothing else. -/
theorem authExec_effects
    {s : AuthStmt} {w w' : AuthWorld} {r : AuthResponse s}
    (h : authExec dep s w = .ok (w', r)) :
    AuthEffects s w w' := by
  cases s with
  | updateUserSession id data presented =>
      simp only [authExec] at h
      split at h
      · cases h
      · split at h <;> cases h
        exact ⟨rfl, rfl, rfl, rfl, rfl, rfl, rfl⟩
  | upsertRevokedToken tokenHash expiresAt =>
      simp only [authExec] at h
      split at h
      · rename_i hany
        cases h
        exact ⟨rfl, rfl, rfl, (if_pos hany).symm, rfl, rfl, rfl⟩
      · rename_i hany
        cases h
        exact ⟨rfl, rfl, rfl, (if_neg hany).symm, rfl, rfl, rfl⟩
  | verifyAsync token ignoreExpiration =>
      simp only [authExec] at h
      split at h
      · cases h
      · split at h <;> cases h
        exact ⟨rfl, rfl, rfl, rfl, rfl, rfl, rfl⟩
  | createGuestSession guestSessionId =>
      simp only [authExec] at h
      split at h
      · cases h
        exact ⟨rfl, rfl, rfl, rfl, rfl, rfl, rfl⟩
      · split at h <;> cases h
        exact ⟨rfl, rfl, rfl, rfl, rfl, rfl, rfl⟩
  | _ =>
      simp only [authExec] at h
      first
        | (cases h; exact ⟨rfl, rfl, rfl, rfl, rfl, rfl, rfl⟩)
        | (split at h <;> cases h
           all_goals exact ⟨rfl, rfl, rfl, rfl, rfl, rfl, rfl⟩)

end Exec

end BookStore
