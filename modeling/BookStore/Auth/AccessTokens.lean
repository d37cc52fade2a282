import BookStore.Async.Logic
import BookStore.Auth.Services
import Mathlib.Algebra.Order.PUnit

/-!
# Revoked access tokens

A logout that has completed has written its access token to `revoked_tokens`, and
no statement deletes from there.  `AuthGuard` looks the token up;
`ShopperSessionGuard` does not.
-/

namespace BookStore

open Async Program Logic

variable (dep : AuthDeployment)

/-- The access token is in `revoked_tokens`. -/
def TokenRevoked (token : String) (w : AuthWorld) : Prop :=
  w.revokedTokens.any (fun t => decide (t.tokenHash = dep.hashToken token)) = true

/-- The access token does not verify any more. -/
def Unverifiable (token : String) (w : AuthWorld) : Prop :=
  ∀ claims, dep.verify token = some claims →
    claims.exp.any (fun t => decide (t ≤ w.now / 1000)) = true

/-- Revoked tokens stay revoked and time does not run backwards. -/
structure RevocationKept (w w' : AuthWorld) : Prop where
  revoked : ∀ h, w.revokedTokens.any (fun t => decide (t.tokenHash = h)) = true →
    w'.revokedTokens.any (fun t => decide (t.tokenHash = h)) = true
  now : w.now ≤ w'.now

variable {dep} {w w' : AuthWorld}

theorem RevocationKept.refl (w : AuthWorld) : RevocationKept w w :=
  ⟨fun _ h => h, le_refl _⟩

theorem RevocationKept.trans
    {u v w : AuthWorld}
    (huv : RevocationKept u v)
    (hvw : RevocationKept v w) :
    RevocationKept u w :=
  ⟨fun h hu => hvw.revoked h (huv.revoked h hu), huv.now.trans hvw.now⟩

theorem TokenRevoked.of_kept
    {token : String}
    (h : TokenRevoked dep token w)
    (hkept : RevocationKept w w') :
    TokenRevoked dep token w' :=
  hkept.revoked _ h

theorem Unverifiable.of_kept
    {token : String}
    (h : Unverifiable dep token w)
    (hkept : RevocationKept w w') :
    Unverifiable dep token w' := by
  intro claims hclaims
  have hle := h claims hclaims
  have := Nat.div_le_div_right (c := 1000) hkept.now
  cases hexp : claims.exp with
  | none =>
      simp [hexp] at hle
  | some t =>
      simp only [hexp, Option.any_some, decide_eq_true_eq] at hle ⊢
      omega

theorem any_revokedTokensAfter (s : AuthStmt) (w : AuthWorld) (h : String) :
    (revokedTokensAfter s w).any (fun t => decide (t.tokenHash = h)) =
      (w.revokedTokens.any (fun t => decide (t.tokenHash = h)) ||
        match s with
        | .upsertRevokedToken tokenHash _ => decide (tokenHash = h)
        | _ => false) := by
  cases s with
  | upsertRevokedToken tokenHash expiresAt =>
      simp only [revokedTokensAfter]
      split_ifs with hany
      · have hsame : (fun t : RevokedToken => decide (t.tokenHash = h)) ∘ (fun t =>
            if t.tokenHash = tokenHash then
              { t with revokedAt := w.now, expiresAt := expiresAt }
            else t) = fun t => decide (t.tokenHash = h) := by
          funext t
          by_cases ht : t.tokenHash = tokenHash <;> simp [ht]
        rw [List.any_map, hsame]
        by_cases hh : tokenHash = h
        · simp [hh ▸ hany, hh]
        · simp [hh]
      · simp
  | _ =>
      simp [revokedTokensAfter]

theorem exec_revocationKept
    {s : AuthStmt} {r : AuthResponse s}
    (h : authExec dep s w = .ok (w', r)) :
    RevocationKept w w' where
  revoked := fun k hk => by
    rw [(authExec_effects dep h).revokedTokens, any_revokedTokensAfter, hk, Bool.true_or]
  now := (authExec_effects dep h).now.ge

theorem exec_upsertRevokedToken
    {token : String} {expiresAt : Nat} {r : Unit}
    (h : authExec dep (.upsertRevokedToken (dep.hashToken token) expiresAt) w =
      .ok (w', r)) :
    TokenRevoked dep token w' := by
  rw [TokenRevoked, (authExec_effects dep h).revokedTokens, any_revokedTokensAfter]
  simp

/-! ### The logic -/

/-- Nothing is shared; every step keeps what has been revoked. -/
def revocationLogic : Logic AuthStmt AuthWorld Unit where
  inv := fun _ _ => True
  rely := RevocationKept
  rely_refl := .refl
  rely_trans := fun _ _ _ => .trans
  guard := fun _ _ _ => True
  done := fun _ => True

theorem step_revocationKept
    {c c' : AuthState} {a : Action AuthEvent}
    (h : (authServer dep).step c a = some c') :
    RevocationKept c.world c'.world := by
  refine System.step_world (authServer dep) .refl ?_
    (fun _ _ _ _ hr => exec_revocationKept hr) h
  intro e w w' p hp
  cases e with
  | arrive r =>
      cases hp
      exact .refl _
  | tick ms =>
      cases hp
      exact ⟨fun _ h => h, Nat.le_add_right _ _⟩

/-- Every statement is harmless. -/
theorem harmless_revocation (s : AuthStmt) (K : AuthWorld → Prop) :
    Harmless revocationLogic (authExec dep) .database K s :=
  fun _ _ o _ _ _ => ⟨trivial, attempt_of_exec (P := RevocationKept) .refl
    (fun _ _ h => exec_revocationKept h) o⟩

/-- A handler about which nothing is known. -/
theorem revocation_of_any {α : Type} (p : AuthService α) (w : AuthWorld) :
    Safe revocationLogic (authExec dep) .database (fun _ _ _ => True) p () w :=
  Safe.of_all (K := fun _ => True) (fun _ _ _ _ => trivial)
    (All.of_forall (fun s => harmless_revocation s _) p) trivial (fun _ _ _ => trivial)
    trivial

/-! ### The logout -/

/-- A logout that returns has revoked its access token. -/
theorem logout_revokes
    {authorization refreshToken : Option String} {token : String}
    (htoken : bearerToken authorization = some token) (w : AuthWorld) :
    Safe revocationLogic (authExec dep) .database
      (fun x _ v => x = .ok .loggedOut → TokenRevoked dep token v ∧ token ≠ "")
      (authHandler dep (.logout authorization refreshToken)) () w := by
  refine Safe.bind (Safe.mono (revocation_of_any _ w) fun x _ v _ _ => ?_)
  cases x with
  | error e =>
      exact fun h => by cases h
  | ok user =>
      dsimp only
      rw [htoken]
      unfold BookStore.logout
      cases truthy refreshToken with
      | none =>
          exact fun _ _ h => by cases h
      | some refreshToken =>
          cases htruthy : truthy (some token) with
          | none =>
              exact fun _ _ h => by cases h
          | some accessToken =>
              obtain ⟨hsome, hne⟩ := Option.filter_eq_some_iff.mp htruthy
              cases hsome
              have hne : token ≠ "" := by simpa using hne
              refine Safe.bind (Safe.mono (revocation_of_any _ v) fun x _ v _ _ => ?_)
              cases x with
              | error e =>
                  exact fun h => by cases h
              | ok payload =>
                  dsimp only
                  split_ifs
                  · exact fun _ _ h => by cases h
                  refine Safe.bind (Safe.mono (Safe.alongside (J := TokenRevoked dep token)
                    (fun _ _ => TokenRevoked.of_kept) trivial (fun w => ?_)
                    (All.of_forall (fun s => harmless_revocation s _) _))
                    fun x _ v _ hx => ?_)
                  · refine StatementSafe.of_exec (fun _ _ _ => ⟨rfl, fun _ h => by cases h⟩)
                      fun v F o v' r _ _ _ _ h => ⟨(), trivial, exec_revocationKept h, ?_⟩
                    have := exec_upsertRevokedToken h
                    exact ⟨⟨rfl, fun _ _ => this⟩, ⟨rfl, fun _ h => by cases h⟩⟩
                  · cases x with
                    | error e =>
                        exact fun h => by cases h
                    | ok a =>
                        exact fun v' hv' _ => ⟨(hx a rfl).of_kept hv', hne⟩

/-! ### The guards -/

/-- Under a revoked token `AuthGuard` lets only unmarked requests through, as nobody. -/
theorem authGuard_nobody
    {route : Route} {authorization : Option String} {token : String}
    (htoken : bearerToken authorization = some token)
    (hrevoked : TokenRevoked dep token w) :
    Safe revocationLogic (authExec dep) .database
      (fun x _ _ => ∀ user, x = .ok user →
        user = none ∧ (route.isPublic || route.isRefresh) = true)
      (authGuard dep route authorization) () w := by
  unfold authGuard
  split_ifs with hmarked
  · intro v _ user h
    cases h
    exact ⟨rfl, hmarked⟩
  simp only [htoken]
  split_ifs
  · exact fun _ _ _ h => by cases h
  refine Safe.tryCatch (Safe.await_bind ((harmless_revocation _ fun _ => True).statementSafe
    (fun _ _ => trivial) fun x v hv => ?_))
  have hthrows : ∀ v : AuthWorld,
      Safe revocationLogic (authExec dep) .database
        (fun (x : Except AuthFailure (Option JwtClaims)) _ _ => ∀ user, x = .ok user →
          user = none ∧ (route.isPublic || route.isRefresh) = true)
        (.raise (.unauthorized none)) () v :=
    fun _ _ _ _ h => by cases h
  cases x with
  | error e =>
      exact fun v' _ => hthrows v'
  | ok payload =>
      refine Safe.await_bind (StatementSafe.of_read _ (fun _ => rfl) ?_
        (fun _ _ _ v' _ => hthrows v'))
      intro v' F hv' _
      have : TokenRevoked dep token v' := (hrevoked.of_kept hv).of_kept hv'
      rw [TokenRevoked] at this
      simp only [this, if_true]
      exact fun v'' _ => hthrows v''

/-- A token that does not verify makes `ShopperSessionGuard` see a guest. -/
theorem verifyShopper_nobody
    {authorization : Option String} {token : String}
    (htoken : bearerToken authorization = some token)
    (hunverifiable : Unverifiable dep token w) :
    Safe revocationLogic (authExec dep) .database
      (fun x _ _ => ∀ user, x = .ok user → user = none)
      (verifyShopper none authorization) () w := by
  unfold verifyShopper
  simp only [htoken]
  split_ifs
  · exact fun _ _ user h => by cases h; rfl
  refine Safe.tryCatch (Safe.await_bind (StatementSafe.of_exec
    (fun _ _ _ v' _ _ _ user h => by cases h; rfl) ?_))
  -- the token is not verified, so the statement throws
  intro v F o v' r hv _ _ _ h
  have hno := hunverifiable.of_kept hv
  simp only [authExec] at h
  split at h
  · cases h
  · rename_i claims hclaims
    rw [if_pos ⟨trivial, hno claims hclaims⟩] at h
    cases h

variable (dep) in
/--
The route does not trust `ShopperSessionGuard`, is refused by `AuthGuard` already, or
the token does not verify any more.
-/
def NotIdentifying (route : Route) (token : String) (w : AuthWorld) : Prop :=
  route.shopper = false ∨ (route.isPublic || route.isRefresh) = false ∨
    Unverifiable dep token w

theorem route_nobody
    {route : Route} {authorization guestSessionId : Option String} {token : String}
    (htoken : bearerToken authorization = some token)
    (hrevoked : TokenRevoked dep token w)
    (hroute : NotIdentifying dep route token w) :
    Safe revocationLogic (authExec dep) .database
      (fun x _ _ => ∀ user, x = .ok (.handled user) → user = none)
      (authHandler dep (.route route authorization guestSessionId)) () w := by
  refine Safe.bind (Safe.mono (authGuard_nobody htoken hrevoked) fun x _ v hv hx => ?_)
  cases x with
  | error e =>
      exact fun _ h => by cases h
  | ok user =>
      obtain ⟨rfl, hmarked⟩ := hx user rfl
      dsimp only
      split_ifs with hshopper
      · have hunverifiable : Unverifiable dep token v := by
          rcases hroute with h | h | h
          · rw [h] at hshopper
            cases hshopper
          · rw [h] at hmarked
            cases hmarked
          · exact h.of_kept hv
        refine Safe.bind (Safe.bind (Safe.mono (verifyShopper_nobody htoken hunverifiable)
          fun x _ v _ hx => ?_))
        cases x with
        | error e =>
            exact fun _ h => by cases h
        | ok user =>
            obtain rfl := hx user rfl
            refine Safe.bind (Safe.mono (revocation_of_any _ v) fun x _ v _ _ => ?_)
            cases x with
            | error e =>
                exact fun _ h => by cases h
            | ok a =>
                exact fun _ _ _ _ user h => by cases h; rfl
      · exact fun _ _ user h => by cases h; rfl

theorem attachGuestSession_alone (guestSessionId : Option String) (w : AuthWorld) :
    ∃ w', (attachGuestSession guestSessionId).alone (authExec dep) .database w =
      some (w', .ok ()) := by
  unfold attachGuestSession
  cases guestSessionId with
  | none =>
      exact ⟨w, rfl⟩
  | some sessionId =>
      dsimp only
      split_ifs
      · exact ⟨w, rfl⟩
      · have hseen : authExec dep (.updateGuestSessionSeenDate sessionId) w =
            .ok (w, decide (sessionId ∈ w.guestSessions)) := rfl
        simp only [bind_eq_bind, alone_bind, alone_await_ok hseen, Option.bind_some]
        by_cases hfound : sessionId ∈ w.guestSessions
        · simp only [hfound, decide_true, if_true]
          exact ⟨w, rfl⟩
        · simp only [hfound, decide_false, Bool.false_eq_true, if_false]
          have hcreate : authExec dep (.createGuestSession (some sessionId)) w =
              .ok ({ w with guestSessions := w.guestSessions ++ [sessionId] }, ()) := by
            simp only [authExec, hfound, if_false]
          exact ⟨_, alone_await_ok hcreate⟩

/-- Otherwise the request, left to itself, is handled for the user of the token. -/
theorem route_identifies
    {route : Route} {authorization : Option String} {token : String}
    (htoken : bearerToken authorization = some token)
    (hne : token ≠ "")
    (hroute : ¬ NotIdentifying dep route token w)
    (guestSessionId : Option String) :
    ∃ w' claims, (authHandler dep (.route route authorization guestSessionId)).alone
      (authExec dep) .database w = some (w', .ok (.handled (some claims))) := by
  simp only [NotIdentifying, not_or, Bool.not_eq_false, Unverifiable, not_forall,
    exists_prop] at hroute
  obtain ⟨hshopper, hmarked, claims, hclaims, hlive⟩ := hroute
  have hverify : authExec dep (.verifyAsync token false) w = .ok (w, claims) := by
    simp only [authExec, hclaims, hlive, true_and, Bool.false_eq_true, if_false]
  obtain ⟨w', hattach⟩ :
      ∃ w', (attachGuestSession guestSessionId).alone (authExec dep) .database w =
        some (w', .ok ()) :=
    attachGuestSession_alone guestSessionId w
  have hguard : (authGuard dep route authorization).alone (authExec dep) .database w =
      some (w, .ok none) := by
    simp only [authGuard, hmarked, if_true]
    rfl
  have hshop : (verifyShopper none authorization).alone (authExec dep) .database w =
      some (w, .ok (some claims)) := by
    simp only [verifyShopper, htoken, hne, if_false, alone_tryCatch, bind_eq_bind,
      alone_bind, alone_await_ok hverify, Option.bind_some, Program.alone]
  refine ⟨w', claims, ?_⟩
  simp only [authHandler, shopperSessionGuard, bind_eq_bind, alone_bind, hguard, hshop,
    hattach, hshopper, Option.bind_some, if_true, Program.alone]

/-! ### Every run -/

/-- An arriving request is the last handler. -/
theorem runs_arrive
    {c c' : AuthState} {r : AuthRequest} {as : List (Action AuthEvent)} :
    runs (authServer dep).step c (.env (.arrive r) :: as) = some c' ↔
      runs (authServer dep).step ⟨c.world, c.threads ++ [authHandler dep r]⟩ as =
        some c' := by
  rfl

/-- What a request ends in. -/
theorem request_ends
    {Q : Except AuthFailure AuthAnswer → Unit → AuthWorld → Prop}
    {c c' : AuthState} {r : AuthRequest} {as : List (Action AuthEvent)}
    {x : Except AuthFailure AuthAnswer}
    (hsafe : Safe revocationLogic (authExec dep) .database Q (authHandler dep r) ()
      c.world)
    (hrun : runs (authServer dep).step c (.env (.arrive r) :: as) = some c')
    (hend : c'.threads[c.threads.length]? = some (Program.ended x)) :
    Q x () c'.world := by
  have hthread : (c.threads ++ [authHandler dep r])[c.threads.length]? =
      some (authHandler dep r) := by
    simp
  obtain ⟨p, m, hp, h⟩ := Safe.thread_runs
    (G := fun _ _ => True) (i := c.threads.length) (fun _ _ => trivial)
    (fun _ _ _ _ _ _ _ => trivial) (fun _ _ _ _ => step_revocationKept)
    (c := ⟨c.world, c.threads ++ [authHandler dep r]⟩) hthread hsafe
    (Meets.of_forall_mem fun _ _ _ => trivial) (runs_arrive.mp hrun)
  rw [hend] at hp
  cases hp
  cases x with
  | ok a =>
      exact h _ (.refl _)
  | error e =>
      exact h _ (.refl _)

variable (dep) in
/--
Once a logout with an access token has returned, no route is handled for the user of
this token exactly if the route is not identifying when the request arrives.
-/
theorem revokedToken_identifies_nobody
    {c c₁ : AuthState} {as : List (Action AuthEvent)}
    {authorization authorization' refreshToken : Option String} {token : String}
    (htoken : bearerToken authorization = some token)
    (htoken' : bearerToken authorization' = some token)
    (hrun : runs (authServer dep).step c
      (.env (.arrive (.logout authorization refreshToken)) :: as) = some c₁)
    (hdone : c₁.threads[c.threads.length]? = some (.ret .loggedOut))
    (route : Route) (guestSessionId : Option String) :
    (∀ as' c₂, runs (authServer dep).step c₁
        (.env (.arrive (.route route authorization' guestSessionId)) :: as') = some c₂ →
      ∀ user, c₂.threads[c₁.threads.length]? = some (.ret (.handled user)) →
        user = none) ↔
      NotIdentifying dep route token c₁.world := by
  obtain ⟨hrevoked, hne⟩ := request_ends (logout_revokes htoken c.world) hrun
    (x := .ok .loggedOut) hdone rfl
  constructor
  · intro h
    by_contra hroute
    obtain ⟨w', claims, halone⟩ :=
      route_identifies htoken' hne hroute guestSessionId
    obtain ⟨as', c₂, hrun₂, -, hend⟩ := runs_of_alone (authServer dep)
      (c := ⟨c₁.world, c₁.threads ++
        [authHandler dep (.route route authorization' guestSessionId)]⟩)
      (i := c₁.threads.length) (by simp) halone
    cases h as' c₂ hrun₂ (some claims) hend
  · intro hroute as' c₂ hrun₂ user hend
    exact request_ends (x := .ok (.handled user))
      (route_nobody htoken' hrevoked hroute) hrun₂ hend user rfl

/-- The user has logged in. -/
def loggedIn : AuthState :=
  (runs (authServer sampleAuth).step ⟨sampleAuthWorld, []⟩
    (.env (.arrive (sampleLogin "device")) :: authSteps 0 13)).getD ⟨sampleAuthWorld, []⟩

/-- The user logs out. -/
def loggingOut : List (Action AuthEvent) :=
  .env (.arrive (.logout (some "Bearer jwt") (some "k"))) :: authSteps 1 8

/-- The state after the logout. -/
def afterLogout : AuthState :=
  (runs (authServer sampleAuth).step loggedIn loggingOut).getD loggedIn

set_option maxRecDepth 4000 in
theorem runs_loggingOut :
    runs (authServer sampleAuth).step loggedIn loggingOut = some afterLogout ∧
      afterLogout.threads[loggedIn.threads.length]? = some (.ret .loggedOut) := by
  obtain ⟨c₁, hrun⟩ := Option.isSome_iff_exists.mp
    (by decide +kernel : (runs (authServer sampleAuth).step loggedIn loggingOut).isSome)
  refine ⟨by rw [afterLogout, hrun]; rfl, ?_⟩
  rw [← bind_answer_eq_some_iff]
  decide +kernel

theorem bearerToken_sample : bearerToken (some "Bearer jwt") = some "jwt" := by
  decide +kernel

/-- A route for customers only. -/
def customerRoute : Route := ⟨false, false, true⟩

theorem revokedToken_identifies_nobody_customerRoute :
    NotIdentifying sampleAuth customerRoute "jwt" afterLogout.world ∧
      ∀ as' c₂, runs (authServer sampleAuth).step afterLogout
        (.env (.arrive (.route customerRoute (some "Bearer jwt") none)) :: as') = some c₂ →
      ∀ user, c₂.threads[afterLogout.threads.length]? = some (.ret (.handled user)) →
        user = none := by
  have hnot : NotIdentifying sampleAuth customerRoute "jwt" afterLogout.world :=
    .inr (.inl rfl)
  exact ⟨hnot, (revokedToken_identifies_nobody sampleAuth bearerToken_sample
    bearerToken_sample runs_loggingOut.1 runs_loggingOut.2 customerRoute none).mpr hnot⟩

/-- A route for guests too. -/
def shopperRoute : Route := ⟨true, false, true⟩

set_option maxRecDepth 4000 in
/-- `ShopperSessionGuard` lets the logged out user in. -/
theorem shopperRoute_identifies :
    ¬ ∀ (c c₁ c₂ : AuthState) (as as' : List (Action AuthEvent)) (route : Route)
        (authorization : Option String) (user : JwtClaims),
      runs (authServer sampleAuth).step c
        (.env (.arrive (.logout authorization (some "k"))) :: as) = some c₁ →
      c₁.threads[c.threads.length]? = some (.ret .loggedOut) →
      runs (authServer sampleAuth).step c₁
        (.env (.arrive (.route route authorization none)) :: as') = some c₂ →
      c₂.threads[c₁.threads.length]? ≠ some (.ret (.handled (some user))) := by
  intro h
  obtain ⟨c₂, hrun⟩ := Option.isSome_iff_exists.mp
    (by decide +kernel : (runs (authServer sampleAuth).step afterLogout
      (.env (.arrive (.route shopperRoute (some "Bearer jwt") none)) ::
        authSteps 2 2)).isSome)
  have hend : ((runs (authServer sampleAuth).step afterLogout
      (.env (.arrive (.route shopperRoute (some "Bearer jwt") none)) ::
        authSteps 2 2)).bind fun c => c.threads[2]?.bind Program.answer) =
      some (.handled (some ⟨⟨"1", true, ["customer"]⟩, some 3600⟩)) := by
    decide +kernel
  rw [hrun, Option.bind_some, bind_answer_eq_some_iff] at hend
  have hlength : afterLogout.threads.length = 2 := by decide +kernel
  exact h loggedIn afterLogout c₂ _ _ shopperRoute (some "Bearer jwt") _
    runs_loggingOut.1 runs_loggingOut.2 hrun (by rw [hlength]; exact hend)

end BookStore
