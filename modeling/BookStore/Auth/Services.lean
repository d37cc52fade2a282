import BookStore.Async.Pool
import BookStore.Auth.Statements
import BookStore.Services.Hooks

/-!
# Logging in, refreshing, logging out

The guards `AuthGuard`, `RefreshGuard` and `ShopperSessionGuard` and the functions
`login`, `refreshToken` and `logout` of `AuthService` with the services they use,
and the server that runs them.
-/

namespace BookStore

open Async Program

namespace AuthMessage

def loginFailed : String := "Đăng nhập sai tài khoản hoặc mật khẩu"
def sessionRevoked : String := "Phiên đăng nhập bị cấm"

end AuthMessage

/-- `MAX_DEVICES` -/
def maxDevices : Nat := 4

/-- A handler of the authentication server. -/
abbrev AuthService := Program AuthStmt AuthResponse AuthFailure

/-- Await a statement of the repositories. -/
abbrev authQuery (s : AuthStmt) : AuthService (AuthResponse s) :=
  await s

variable (dep : AuthDeployment)

/-! ### Headers -/

/-- `extractTokenFromHeader`: the second part of an `authorization` of type `Bearer`. -/
def bearerToken (authorization : Option String) : Option String :=
  match (authorization.getD "").toList.splitOn ' ' with
  | type :: token :: _ =>
      if String.ofList type = "Bearer" then some (String.ofList token) else none
  | _ => none

/-- A header that is absent or blank counts as missing. -/
def refreshTokenHeader (header : Option String) : Option String :=
  match header.map jsTrim with
  | none => none
  | some token => if token = "" then none else some token

/-! ### Guards -/

/-- How a route is marked and guarded. -/
structure Route where
  isPublic : Bool
  isRefresh : Bool
  /-- `@UseGuards(ShopperSessionGuard)` -/
  shopper : Bool
  deriving DecidableEq

/-- `AuthGuard.canActivate`; the answer is `request.user`. -/
def authGuard (route : Route) (authorization : Option String) :
    AuthService (Option JwtClaims) :=
  if route.isPublic || route.isRefresh then
    ret none
  else
    match bearerToken authorization with
    | none => raise (.unauthorized none)
    | some token =>
        if token = "" then
          raise (.unauthorized none)
        else
          (do let payload : JwtClaims ← authQuery (.verifyAsync token false)
              let isRevoked : Bool ← authQuery (.existsByHash (dep.hashToken token))
              if isRevoked then
                raise (.unauthorized (some AuthMessage.sessionRevoked))
              else
                ret (some payload)).tryCatch
            fun _ => raise (.unauthorized none)

/-- The guest session of the cookie, or a new one. -/
def attachGuestSession (guestSessionId : Option String) : AuthService Unit :=
  match guestSessionId with
  | none => authQuery (.createGuestSession none)
  | some sessionId =>
      if sessionId = "" then
        authQuery (.createGuestSession none)
      else do
        let found : Bool ← authQuery (.updateGuestSessionSeenDate sessionId)
        if found then ret () else authQuery (.createGuestSession (some sessionId))

/-- The `try` block of `ShopperSessionGuard` and its `catch`. -/
def verifyShopper (user : Option JwtClaims) (authorization : Option String) :
    AuthService (Option JwtClaims) :=
  match bearerToken authorization with
  | none => ret user
  | some token =>
      if token = "" then
        ret user
      else
        (do let payload : JwtClaims ← authQuery (.verifyAsync token false)
            ret (some payload)).tryCatch
          fun _ => ret user

/-- `ShopperSessionGuard.canActivate`; the answer is `request.user`. -/
def shopperSessionGuard
    (user : Option JwtClaims)
    (authorization guestSessionId : Option String) :
    AuthService (Option JwtClaims) := do
  let user ← verifyShopper user authorization
  attachGuestSession guestSessionId
  ret user

/-- `UserSessionService.markSessionExpired` -/
def markSessionExpired (sessionId : Nat) (presented : String) : AuthService Unit := do
  let now : Nat ← authQuery .newDate
  authQuery (.updateUserSession sessionId
    { refreshTokenHash := none
      expiresAt := none
      status := .expired
      revokedAt := some now
      userAgent := none } presented)

/-- `RefreshGuard.canActivate`; the answer is `request.refreshSession`. -/
def refreshGuard (header : Option String) : AuthService (String × UserSession) :=
  match refreshTokenHeader header with
  | none => raise (.unauthorized none)
  | some refreshToken => do
      let session : Option UserSession ←
        authQuery (.findByRefreshTokenHash (dep.hashToken refreshToken))
      match session with
      | none => raise (.unauthorized none)
      | some session =>
          if session.status ≠ .active ∨ session.revokedAt.isSome then
            raise (.unauthorized none)
          else
            match session.expiresAt with
            | none => ret (refreshToken, session)
            | some expiresAt => do
                let now : Nat ← authQuery .newDate
                if expiresAt < now then do
                  markSessionExpired session.id refreshToken
                  raise (.unauthorized none)
                else
                  ret (refreshToken, session)

/-! ### `AuthService` -/

/-- What a handler returns. -/
inductive AuthAnswer
  | loggedIn (user : AuthMe) (accessToken refreshToken : String)
  /-- `presented` is the refresh token of the request. -/
  | refreshed (presented : String) (user : AuthMe) (accessToken refreshToken : String)
  | loggedOut
  /-- The handler of a route runs with `request.user`. -/
  | handled (user : Option JwtClaims)
  /-- A statement that was abandoned by its sender. -/
  | none
  deriving DecidableEq

/-- An access token and a refresh token. -/
def signTokenPair (payload : JwtPayload) : AuthService (String × String) := do
  let accessToken : String ← authQuery (.sign payload)
  let refreshToken : String ← authQuery .randomKey
  ret (accessToken, refreshToken)

/-- `getRefreshTokenExpiresAt` -/
def getRefreshTokenExpiresAt : AuthService Nat := do
  let now : Nat ← authQuery .newDate
  ret (now + dep.refreshTokenSeconds * 1000)

/-- `UserDeviceRepository.revokeOldestActiveDevice` -/
def revokeOldestActiveDevice (userId : Nat) : AuthService Unit := do
  let oldest : Option UserDevice ← authQuery (.findOldestActiveDevice userId)
  match oldest with
  | none => ret ()
  | some oldest => do
      let now : Nat ← authQuery .newDate
      let _ ← authQuery (.updateUserDevice oldest.id ⟨some (some now), none, none⟩)
      ret ()

/-- The device cap: beyond `maxDevices` the oldest active device is revoked. -/
def enforceDeviceCap (userId : Nat) : AuthService Unit := do
  let activeCount : Nat ← authQuery (.countActiveByUserId userId)
  if maxDevices ≤ activeCount then revokeOldestActiveDevice userId else ret ()

/-- `UserDeviceService.upsertDeviceOnLogin` -/
def upsertDeviceOnLogin (userId : Nat) (deviceFingerprint : String) :
    AuthService UserDevice := do
  let now : Nat ← authQuery .newDate
  let existing : Option UserDevice ←
    authQuery (.findByUserIdAndFingerprint userId deviceFingerprint)
  match existing with
  | some existing =>
      if existing.revokedAt.isNone then
        authQuery (.updateUserDevice existing.id
          ⟨none, some now, some (existing.firstSeenAt.getD now)⟩)
      else do
        enforceDeviceCap userId
        authQuery (.updateUserDevice existing.id
          ⟨some none, some now, some (existing.firstSeenAt.getD now)⟩)
  | none => do
      enforceDeviceCap userId
      authQuery (.createUserDevice userId deviceFingerprint now)

structure LoginRequestDto where
  email : String
  password : String
  /-- From the body, the cookie or a new uuid. -/
  deviceFingerprint : String
  deriving DecidableEq

/-- A failed attempt is recorded. -/
def refuseLogin (userId : Option Nat) (userAgent ip : String) : AuthService AuthAnswer := do
  authQuery (.createLoginAttempt
    ⟨userId, ip, userAgent, false, some AuthMessage.loginFailed⟩)
  raise (.unauthorized (some AuthMessage.loginFailed))

def login (body : LoginRequestDto) (userAgent ip : String) : AuthService AuthAnswer := do
  let user : Option User ← authQuery (.findAuthByEmailPassword body.email)
  match user with
  | none => refuseLogin none userAgent ip
  | some user =>
      if dep.compare body.password user.password = false then
        refuseLogin (some user.id) userAgent ip
      else do
        let roles : List String ← authQuery (.getRolesByUserId user.id)
        let signature ← signTokenPair ⟨toString user.id, user.isEmailVerified, roles⟩
        let device ← upsertDeviceOnLogin user.id body.deviceFingerprint
        let expiresAt ← getRefreshTokenExpiresAt dep
        promiseAll
          [.createLoginAttempt ⟨some user.id, ip, userAgent, true, none⟩,
            .createUserSession
              { userId := user.id
                deviceId := some device.id
                ip := some ip
                refreshTokenHash := dep.hashToken signature.2
                userAgent := some userAgent
                expiresAt := expiresAt }]
        ret (.loggedIn user.safe signature.1 signature.2)

/-- `UserSessionService.rotateSession` -/
def rotateSession
    (sessionId : Nat) (refreshToken userAgent presented : String) : AuthService Unit := do
  let expiresAt ← getRefreshTokenExpiresAt dep
  authQuery (.updateUserSession sessionId
    { refreshTokenHash := some (dep.hashToken refreshToken)
      expiresAt := some expiresAt
      status := .active
      revokedAt := none
      userAgent := some userAgent } presented)

/-- `AuthService.refreshToken` -/
def refreshToken (userAgent presented : String) (session : UserSession) :
    AuthService AuthAnswer := do
  let user : Option AuthMe ← authQuery (.findUserById session.userId)
  match user with
  | none => raise (.unauthorized none)
  | some user => do
      let roles : List String ← authQuery (.getRolesByUserId user.id)
      let signature ← signTokenPair ⟨toString user.id, user.isEmailVerified, roles⟩
      rotateSession dep session.id signature.2 userAgent presented
      ret (.refreshed presented user signature.1 signature.2)

/-- `UserSessionService.revokeSessionByRefreshToken` -/
def revokeSessionByRefreshToken (refreshToken : String) : AuthService Unit := do
  let session : Option UserSession ←
    authQuery (.findByRefreshTokenHash (dep.hashToken refreshToken))
  match session with
  | none => ret ()
  | some session => do
      let now : Nat ← authQuery .newDate
      authQuery (.updateUserSession session.id
        { refreshTokenHash := none
          expiresAt := none
          status := .revoked
          revokedAt := some now
          userAgent := none } refreshToken)

/-- A missing or empty text is falsy. -/
def truthy (s : Option String) : Option String :=
  s.filter (fun t => decide (t ≠ ""))

def logout (refreshToken accessToken : Option String) : AuthService AuthAnswer :=
  match truthy refreshToken, truthy accessToken with
  | some refreshToken, some accessToken => do
      let payload : JwtClaims ←
        (authQuery (.verifyAsync accessToken true)).tryCatch
          fun _ => raise (.unauthorized none)
      if payload.exp.getD 0 = 0 then
        raise (.unauthorized none)
      else do
        let _ ← alongside
          (.upsertRevokedToken (dep.hashToken accessToken) (payload.exp.getD 0 * 1000))
          (revokeSessionByRefreshToken dep refreshToken)
        ret .loggedOut
  | _, _ => raise (.unauthorized none)

/-! ### The server -/

inductive AuthRequest
  | login (body : LoginRequestDto) (userAgent ip : String)
  | refresh (header : Option String) (userAgent : String)
  | logout (authorization refreshToken : Option String)
  /-- Any other route, behind its guards. -/
  | route (route : Route) (authorization guestSessionId : Option String)
  deriving DecidableEq

/-- A step of the environment. -/
inductive AuthEvent
  | arrive (r : AuthRequest)
  | tick (ms : Nat)
  deriving DecidableEq

/-- The guards of a request and the function that answers it. -/
def authHandler : AuthRequest → AuthService AuthAnswer
  | .login body userAgent ip => BookStore.login dep body userAgent ip
  | .refresh header userAgent => do
      let session ← refreshGuard dep header
      refreshToken dep userAgent session.1 session.2
  | .logout authorization refreshToken => do
      let _ ← authGuard dep ⟨false, false, false⟩ authorization
      BookStore.logout dep refreshToken (bearerToken authorization)
  | .route route authorization guestSessionId => do
      let user ← authGuard dep route authorization
      if route.shopper then do
        let user ← shopperSessionGuard user authorization guestSessionId
        ret (.handled user)
      else
        ret (.handled user)

/-- The running server. -/
def authServer :
    System AuthStmt AuthResponse AuthFailure AuthAnswer AuthWorld AuthEvent where
  exec := authExec dep
  fault := .database
  idle := .none
  env := fun e w =>
    match e with
    | .arrive r => some (w, some (authHandler dep r))
    | .tick ms => some ({ w with now := w.now + ms }, none)

/-- The server's state: the tables and the handlers under way. -/
abbrev AuthState := Config AuthStmt AuthResponse AuthFailure AuthAnswer AuthWorld

/-! ### A small server

One user; the concrete runs start here. -/

/-- Tokens are their own hashes, and every access token is `jwt`. -/
def sampleAuth : AuthDeployment where
  hashToken := id
  compare := fun a b => decide (a = b)
  sign := fun _ _ => "jwt"
  verify := fun t =>
    if t = "jwt" then some ⟨⟨"1", true, ["customer"]⟩, some 3600⟩ else none
  randomKey := fun n => String.ofList (List.replicate (n + 1) 'k')
  refreshTokenSeconds := 86400
  collate := id
  hashToken_injective := Function.injective_id
  randomKey_injective := by
    intro a b h
    simpa using congrArg (fun s => s.toList.length) h

def sampleAuthWorld : AuthWorld where
  users := (Table.empty : Table User).insert fun n =>
    ⟨n, "user@example.com", "secret", true⟩
  userRoles := [(1, "customer")]
  devices := .empty
  sessions := .empty
  revokedTokens := []
  loginAttempts := []
  guestSessions := []
  now := 0
  keys := 0
  history := ⟨[], []⟩

/-- The user logs in from a device. -/
def sampleLogin (deviceFingerprint : String) : AuthRequest :=
  .login ⟨"user@example.com", "secret", deviceFingerprint⟩ "agent" "127.0.0.1"

/-- Handler `i` takes `n` steps without failure. -/
def authSteps (i n : Nat) : List (Action AuthEvent) :=
  List.replicate n (.run i 0 .ok)

end BookStore
