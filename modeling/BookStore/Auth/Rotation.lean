import BookStore.Async.Logic
import BookStore.Auth.Logout
import Mathlib.Algebra.Group.Prod

/-!
# Refresh tokens

A refresh token is issued with a session, by a login or by the rotation that takes
another token in exchange.  `RefreshGuard` looks the session up by the token;
`rotateSession` updates it by its id, whatever token it has by then.

**Resources.** A handler holds the right to install each key that it has drawn and
not yet installed, and a receipt for each exchange that it has carried out.
-/

namespace BookStore

open Async Program Logic

variable (dep : AuthDeployment)

/-- The hash of the refresh token of a session. -/
def AuthWorld.hashAt (w : AuthWorld) (id : Nat) : Option String :=
  (w.sessions.find id).map UserSession.refreshTokenHash

/-- How often the refresh token was exchanged. -/
def AuthWorld.exchangesOf (w : AuthWorld) (token : String) : Nat :=
  w.history.exchanges.countP fun e => decide (e.1 = token)

/-- The refresh token is that of a session, or was exchanged. -/
def Issued (token : String) (w : AuthWorld) : Prop :=
  0 < w.exchangesOf token ∨ ∃ id, w.hashAt id = some (dep.hashToken token)

/-- A rotation that takes effect finds the token that its request has presented. -/
def RotatesPresented (w : AuthWorld) (s : AuthStmt) (o : Outcome) : Prop :=
  match s with
  | .updateUserSession id data presented =>
      o = .fail ∨ data.refreshTokenHash = none ∨
        (w.hashAt id).all (fun h => decide (h = dep.hashToken presented)) = true
  | _ => True

instance (w : AuthWorld) (s : AuthStmt) (o : Outcome) :
    Decidable (RotatesPresented dep w s o) := by
  apply AuthStmt.casesOn (motive := fun s => Decidable (RotatesPresented dep w s o)) s <;>
    intros <;> unfold RotatesPresented <;> infer_instance

/-- Receipts for exchanges, by token, and rights to install, by the number of the key. -/
abbrev Rights := (String → Nat) × (Nat → Nat)

/-- The right to install one key. -/
abbrev toInstall (n : Nat) : Rights := (0, Pi.single n 1)

/-- What the sessions, the exchanges and the handlers have to do with each other. -/
structure RotationInv (m : Rights) (w : AuthWorld) : Prop where
  receipts : ∀ t, m.1 t ≤ w.exchangesOf t
  once : ∀ t, w.exchangesOf t ≤ 1
  spent : ∀ t id, 0 < w.exchangesOf t → w.hashAt id ≠ some (dep.hashToken t)
  unique : ∀ i j h, w.hashAt i = some h → w.hashAt j = some h → i = j
  drawn : ∀ n, Issued dep (dep.randomKey n) w → n < w.keys
  fresh : ∀ n, 0 < m.2 n → n < w.keys ∧ ¬ Issued dep (dep.randomKey n) w
  single : ∀ n, m.2 n ≤ 1

/-- An issued token stays issued. -/
def KeepsIssued (w w' : AuthWorld) : Prop :=
  ∀ t, Issued dep t w → Issued dep t w'

/-- Each session has the right token and each exchange its receipt. -/
def rotationLogic : Logic AuthStmt AuthWorld Rights where
  inv := RotationInv dep
  rely := KeepsIssued dep
  rely_refl := fun _ _ h => h
  rely_trans := fun _ _ _ huv hvw t h => hvw t (huv t h)
  guard := RotatesPresented dep
  done := fun _ => True

variable {dep} {w w' : AuthWorld}

/-! ### What a statement does to the tokens -/

/-- The tokens are left alone. -/
structure SameTokens (w w' : AuthWorld) : Prop where
  hashAt : ∀ id, w'.hashAt id = w.hashAt id
  exchangesOf : ∀ t, w'.exchangesOf t = w.exchangesOf t
  keys : w.keys ≤ w'.keys

theorem SameTokens.issued_iff (h : SameTokens w w') (t : String) :
    Issued dep t w' ↔ Issued dep t w := by
  simp only [Issued, h.exchangesOf, h.hashAt]

theorem SameTokens.rotationInv
    {m : Rights}
    (h : SameTokens w w')
    (hinv : RotationInv dep m w) :
    RotationInv dep m w' where
  receipts := fun t => (hinv.receipts t).trans (h.exchangesOf t).ge
  once := fun t => (h.exchangesOf t).trans_le (hinv.once t)
  spent := fun t id ht => by
    rw [h.hashAt]
    exact hinv.spent t id (by rwa [← h.exchangesOf])
  unique := fun i j k hi hj => hinv.unique i j k (by rwa [← h.hashAt]) (by rwa [← h.hashAt])
  drawn := fun n hn => (hinv.drawn n ((h.issued_iff _).mp hn)).trans_le h.keys
  fresh := fun n hn => by
    rw [h.issued_iff]
    exact ⟨(hinv.fresh n hn).1.trans_le h.keys, (hinv.fresh n hn).2⟩
  single := hinv.single

/-- A drawn key may be installed. -/
theorem RotationInv.draw
    {F : Rights}
    (hinv : RotationInv dep F w)
    (h : SameTokens w w')
    (hkeys : w'.keys = w.keys + 1) :
    RotationInv dep (toInstall w.keys + F) w' := by
  have hnew : F.2 w.keys = 0 := by
    by_contra hne
    exact absurd (hinv.fresh w.keys (Nat.pos_of_ne_zero hne)).1 (Nat.lt_irrefl _)
  have hsame := h.rotationInv hinv
  refine ⟨fun t => ?_, hsame.once, hsame.spent, hsame.unique, hsame.drawn, fun n hn => ?_,
    fun n => ?_⟩
  · simpa using hsame.receipts t
  · by_cases hk : n = w.keys
    · subst hk
      refine ⟨by omega, fun hissued => ?_⟩
      exact absurd (hinv.drawn _ ((h.issued_iff _).mp hissued)) (Nat.lt_irrefl _)
    · exact hsame.fresh n (by simpa [hk] using hn)
  · by_cases hk : n = w.keys
    · subst hk
      simp [hnew]
    · simpa [hk] using hsame.single n

/-- The key of a session is replaced, or a session is created. -/
structure Installs (dep : AuthDeployment) (n id : Nat) (w w' : AuthWorld) : Prop where
  hashAt : ∀ i, w'.hashAt i =
    if i = id then some (dep.hashToken (dep.randomKey n)) else w.hashAt i
  exchangesOf : ∀ t, w'.exchangesOf t =
    w.exchangesOf t + if w.hashAt id = some (dep.hashToken t) then 1 else 0
  keys : w'.keys = w.keys

theorem Installs.keepsIssued
    {n id : Nat}
    (h : Installs dep n id w w') :
    KeepsIssued dep w w' := by
  rintro t (ht | ⟨i, hi⟩)
  · refine .inl ?_
    rw [h.exchangesOf]
    omega
  · by_cases hid : i = id
    · subst hid
      refine .inl ?_
      rw [h.exchangesOf, if_pos hi]
      omega
    · exact .inr ⟨i, by rw [h.hashAt, if_neg hid, hi]⟩

/-- The new token is issued. -/
theorem Installs.issued
    {n id : Nat}
    (h : Installs dep n id w w') :
    Issued dep (dep.randomKey n) w' :=
  .inr ⟨id, by rw [h.hashAt, if_pos rfl]⟩

theorem Installs.issued_or
    {n id : Nat} {t : String}
    (h : Installs dep n id w w')
    (ht : Issued dep t w') :
    t = dep.randomKey n ∨ Issued dep t w := by
  rcases ht with ht | ⟨i, hi⟩
  · rw [h.exchangesOf] at ht
    split_ifs at ht with hold
    · exact .inr (.inr ⟨id, hold⟩)
    · exact .inr (.inl ht)
  · rw [h.hashAt] at hi
    split_ifs at hi with hid
    · exact .inl (dep.hashToken_injective (Option.some.inj hi)).symm
    · exact .inr (.inr ⟨i, hi⟩)

/-- The right to install a key is spent; an exchange is receipted. -/
theorem RotationInv.install
    {n id : Nat} {r : String → Nat} {F : Rights}
    (hinv : RotationInv dep (toInstall n + F) w)
    (h : Installs dep n id w w')
    (hr : ∀ t, r t ≤ if w.hashAt id = some (dep.hashToken t) then 1 else 0) :
    RotationInv dep ((r, 0) + F) w' := by
  have hheld : (toInstall n + F).2 n = 1 + F.2 n := by simp
  obtain ⟨hdrawn, hfresh⟩ := hinv.fresh n (by omega)
  have hnone : F.2 n = 0 := by
    have := hinv.single n
    omega
  have hmember : ∀ i, w.hashAt i ≠ some (dep.hashToken (dep.randomKey n)) :=
    fun i hi => hfresh (.inr ⟨i, hi⟩)
  refine ⟨fun t => ?_, fun t => ?_, fun t i ht => ?_, fun i j k hi hj => ?_,
    fun k hk => ?_, fun k hk => ?_, fun k => ?_⟩
  · have := hinv.receipts t
    simp only [Prod.fst_add, Pi.add_apply, Pi.zero_apply, zero_add] at this
    simp only [Prod.fst_add, Pi.add_apply, h.exchangesOf]
    have := hr t
    omega
  · rw [h.exchangesOf]
    split_ifs with hold
    · have : ¬ 0 < w.exchangesOf t := fun ht => hinv.spent t id ht hold
      omega
    · exact hinv.once t
  · rw [h.exchangesOf] at ht
    rw [h.hashAt]
    split_ifs with hid
    · intro heq
      obtain rfl := dep.hashToken_injective (Option.some.inj heq)
      rw [if_neg (hmember id)] at ht
      exact hfresh (.inl ht)
    · intro hi
      split_ifs at ht with hold
      · exact hid (hinv.unique i id _ hi hold)
      · exact hinv.spent t i ht hi
  · rw [h.hashAt] at hi hj
    split_ifs at hi hj with hi' hj' hj'
    · rw [hi', hj']
    · exact absurd (hj.trans hi.symm) (hmember j)
    · exact absurd (hi.trans hj.symm) (hmember i)
    · exact hinv.unique i j k hi hj
  · rw [h.keys]
    rcases h.issued_or hk with heq | hissued
    · rwa [dep.randomKey_injective heq]
    · exact hinv.drawn k hissued
  · simp only [Prod.snd_add, Pi.add_apply, Pi.zero_apply, zero_add] at hk
    have hkn : k ≠ n := by
      rintro rfl
      omega
    obtain ⟨hlt, hnot⟩ := hinv.fresh k (by simpa [hkn] using hk)
    rw [h.keys]
    refine ⟨hlt, fun hissued => ?_⟩
    rcases h.issued_or hissued with heq | hissued
    · exact hkn (dep.randomKey_injective heq)
    · exact hnot hissued
  · have := hinv.single k
    simp only [Prod.snd_add, Pi.add_apply] at this ⊢
    simp only [Pi.zero_apply, zero_add]
    omega

/-- Statements that leave the tokens of the sessions alone. -/
def KeepsTokens : AuthStmt → Prop
  | .createUserSession _ => False
  | .updateUserSession _ data _ => data.refreshTokenHash = none
  | _ => True

theorem exchangesOf_record
    (history : AuthHistory) (data : UserSessionUpdate) (presented t : String) :
    ((history.record data presented).exchanges.countP fun e => decide (e.1 = t)) =
      (history.exchanges.countP fun e => decide (e.1 = t)) +
        if data.refreshTokenHash.isSome ∧ presented = t then 1 else 0 := by
  unfold AuthHistory.record
  cases data.refreshTokenHash with
  | none =>
      simp
  | some new =>
      by_cases ht : presented = t <;> simp [List.countP_append, ht]

theorem exec_sameTokens
    {s : AuthStmt} {r : AuthResponse s}
    (hs : KeepsTokens s)
    (h : authExec dep s w = .ok (w', r)) :
    SameTokens w w' := by
  have heff := authExec_effects dep h
  have hkeys : w.keys ≤ w'.keys := by
    rw [heff.keys]
    cases s <;> simp [keysAfter]
  refine ⟨fun id => ?_, fun t => ?_, hkeys⟩
  · unfold AuthWorld.hashAt
    rw [heff.sessions]
    cases s with
    | createUserSession data =>
        exact hs.elim
    | updateUserSession k data presented =>
        have hdata : data.refreshTokenHash = none := hs
        have happly : ∀ s : UserSession, (data.apply s).refreshTokenHash =
            s.refreshTokenHash := fun s => by simp [UserSessionUpdate.apply, hdata]
        simp only [sessionsAfter, Table.find_update]
        split_ifs with hid
        · rw [hid, Option.map_map]
          congr 1
          funext s
          exact happly s
        · rfl
    | _ =>
        rfl
  · unfold AuthWorld.exchangesOf
    rw [heff.history]
    cases s with
    | updateUserSession k data presented =>
        have hdata : data.refreshTokenHash = none := hs
        simp [authHistoryAfter, exchangesOf_record, hdata]
    | _ =>
        rfl

theorem exec_createUserSession
    {data : UserSessionCreateInput} {n : Nat} {r : UserSession}
    (hdata : data.refreshTokenHash = dep.hashToken (dep.randomKey n))
    (h : authExec dep (.createUserSession data) w = .ok (w', r)) :
    Installs dep n w.sessions.next w w' := by
  have heff := authExec_effects dep h
  have hnew : w.hashAt w.sessions.next = none := by
    rw [AuthWorld.hashAt, Table.find_next, Option.map_none]
  refine ⟨fun i => ?_, fun t => ?_, heff.keys⟩
  · unfold AuthWorld.hashAt
    rw [heff.sessions, sessionsAfter, Table.find_insert]
    split_ifs
    · rw [← hdata]
      rfl
    · rfl
  · unfold AuthWorld.exchangesOf
    rw [heff.history, hnew]
    simp [authHistoryAfter]

theorem exec_updateUserSession
    {id n : Nat} {data : UserSessionUpdate} {presented : String} {o : Outcome} {r : Unit}
    (hdata : data.refreshTokenHash = some (dep.hashToken (dep.randomKey n)))
    (ho : o ≠ .fail)
    (hguard : RotatesPresented dep w (.updateUserSession id data presented) o)
    (h : authExec dep (.updateUserSession id data presented) w = .ok (w', r)) :
    w.hashAt id = some (dep.hashToken presented) ∧ Installs dep n id w w' := by
  have heff := authExec_effects dep h
  have hold : w.hashAt id = some (dep.hashToken presented) := by
    simp only [RotatesPresented, ho, hdata, reduceCtorEq, false_or] at hguard
    simp only [authExec] at h
    unfold AuthWorld.hashAt at hguard ⊢
    cases hfind : w.sessions.find id with
    | none =>
        simp [hfind] at h
    | some s =>
        simpa [hfind] using hguard
  refine ⟨hold, fun i => ?_, fun t => ?_, heff.keys⟩
  · unfold AuthWorld.hashAt at hold ⊢
    rw [heff.sessions, sessionsAfter, Table.find_update]
    split_ifs with hi
    · obtain ⟨s, hs, -⟩ := Option.map_eq_some_iff.mp hold
      simp [hs, UserSessionUpdate.apply, hdata]
    · rfl
  · unfold AuthWorld.exchangesOf
    rw [heff.history, authHistoryAfter, exchangesOf_record, hold]
    simp [hdata, dep.hashToken_injective.eq_iff]

/-! ### The handlers -/

theorem harmless_keepsTokens
    {s : AuthStmt} (hs : KeepsTokens s) (K : AuthWorld → Prop) :
    Harmless (rotationLogic dep) (authExec dep) .database K s := by
  intro w m o _ hinv _
  refine attempt_cases (motive := fun x =>
    RotationInv dep m x.1 ∧ KeepsIssued dep w x.1) ?_ ?_
  · exact fun _ => ⟨hinv, fun _ h => h⟩
  · intro w' r _ h
    have hsame := exec_sameTokens hs h
    have hkeep : RotationInv dep m w' ∧ KeepsIssued dep w w' :=
      ⟨hsame.rotationInv hinv, fun t ht => (hsame.issued_iff t).mpr ht⟩
    exact ⟨hkeep, hkeep⟩

/-- What a handler of a request ends in. -/
def TokensIssued (dep : AuthDeployment) :
    Except AuthFailure AuthAnswer → Rights → AuthWorld → Prop
  | .ok (.loggedIn _ _ token), _, w => Issued dep token w
  | .ok (.refreshed presented _ _ token), m, w => 1 ≤ m.1 presented ∧ Issued dep token w
  | _, _, _ => True

/-- A part that leaves the tokens alone. -/
theorem safe_bind
    {α : Type} {p : AuthService α} {f : α → AuthService AuthAnswer} {m : Rights}
    {w : AuthWorld}
    (hp : p.All KeepsTokens)
    (hok : ∀ a v, KeepsIssued dep w v →
      Safe (rotationLogic dep) (authExec dep) .database (TokensIssued dep) (f a) m v) :
    Safe (rotationLogic dep) (authExec dep) .database (TokensIssued dep) (p.bind f) m w :=
  Safe.bind_all trivial (hp.mono fun _ hs => harmless_keepsTokens hs _) hok
    fun _ _ => trivial

/-- A handler that throws. -/
theorem safe_raise {e : AuthFailure} {m : Rights} {w : AuthWorld} :
    Safe (rotationLogic dep) (authExec dep) .database (TokensIssued dep) (.raise e) m w :=
  fun _ _ => trivial

/-- Drawing a key gives the right to install it. -/
theorem safe_randomKey
    {f : String → AuthService AuthAnswer} {w : AuthWorld}
    (hok : ∀ n v, Safe (rotationLogic dep) (authExec dep) .database (TokensIssued dep)
      (f (dep.randomKey n)) (toInstall n) v) :
    Safe (rotationLogic dep) (authExec dep) .database (TokensIssued dep)
      ((await .randomKey).bind f) 0 w := by
  refine Safe.await_bind (StatementSafe.of_exec (fun _ _ _ _ _ => trivial) ?_)
  intro v F o v' r _ hinv _ _ h
  cases h
  have hsame : SameTokens v { v with keys := v.keys + 1 } :=
    ⟨fun _ => rfl, fun _ => rfl, Nat.le_succ _⟩
  have hinv : RotationInv dep F v := by
    rw [← zero_add F]
    exact hinv
  exact ⟨toInstall v.keys, hinv.draw hsame rfl, fun t ht => (hsame.issued_iff t).mpr ht,
    hok _ _, fun _ _ => trivial⟩

theorem safe_signTokenPair
    {payload : JwtPayload} {f : String × String → AuthService AuthAnswer} {w : AuthWorld}
    (hok : ∀ a n v, Safe (rotationLogic dep) (authExec dep) .database (TokensIssued dep)
      (f (a, dep.randomKey n)) (toInstall n) v) :
    Safe (rotationLogic dep) (authExec dep) .database (TokensIssued dep)
      ((signTokenPair payload).bind f) 0 w := by
  simp only [signTokenPair, bind_eq_bind, Program.bind_assoc]
  exact safe_bind (All.await trivial) fun a _ _ => safe_randomKey fun n v => hok a n v

/-- A session is created with the drawn key. -/
theorem statementSafe_createUserSession
    {data : UserSessionCreateInput} {n : Nat}
    (hdata : data.refreshTokenHash = dep.hashToken (dep.randomKey n)) (w : AuthWorld) :
    StatementSafe (rotationLogic dep) (authExec dep) .database (.createUserSession data)
      (fun x _ v => ∀ r, x = .ok r → Issued dep (dep.randomKey n) v) (toInstall n) w := by
  refine StatementSafe.of_exec (fun _ _ _ _ h => by cases h) ?_
  intro v F o v' r _ hinv _ _ h
  have hinst := exec_createUserSession hdata h
  exact ⟨(0, 0), hinv.install hinst (fun _ => Nat.zero_le _), hinst.keepsIssued,
    fun _ _ => hinst.issued, fun _ h => by cases h⟩

/-- The presented token is exchanged for the drawn key. -/
theorem safe_rotateSession
    {id n : Nat} {userAgent presented : String} {f : Unit → AuthService AuthAnswer}
    {w : AuthWorld}
    (hok : ∀ m v, 1 ≤ m.1 presented → Issued dep (dep.randomKey n) v →
      Safe (rotationLogic dep) (authExec dep) .database (TokensIssued dep) (f ()) m v) :
    Safe (rotationLogic dep) (authExec dep) .database (TokensIssued dep)
      ((rotateSession dep id (dep.randomKey n) userAgent presented).bind f)
      (toInstall n) w := by
  simp only [rotateSession, bind_eq_bind, Program.bind_assoc]
  refine safe_bind (All.bind (All.await trivial) fun _ => trivial) fun expiresAt v _ => ?_
  refine Safe.await_bind (StatementSafe.of_exec (fun _ _ _ _ _ => trivial) ?_)
  intro v F o v' r _ hinv hguard ho h
  obtain ⟨hold, hinst⟩ := exec_updateUserSession rfl ho hguard h
  refine ⟨(Pi.single presented 1, 0), hinv.install hinst fun t => ?_, hinst.keepsIssued,
    hok _ _ (by simp) hinst.issued, fun _ _ => trivial⟩
  rw [hold]
  by_cases ht : t = presented
  · subst ht
    simp
  · simp [ht]

theorem enforceDeviceCap_all (userId : Nat) :
    (enforceDeviceCap userId).All KeepsTokens := by
  refine All.bind (All.await trivial) fun activeCount => ?_
  split_ifs
  · refine All.bind (All.await trivial) fun oldest => ?_
    cases oldest with
    | none =>
        trivial
    | some oldest =>
        exact All.bind (All.await trivial) fun _ => All.bind (All.await trivial) fun _ =>
          trivial
  · trivial

theorem upsertDeviceOnLogin_all (userId : Nat) (deviceFingerprint : String) :
    (upsertDeviceOnLogin userId deviceFingerprint).All KeepsTokens := by
  refine All.bind (All.await trivial) fun now => All.bind (All.await trivial) fun existing => ?_
  cases existing with
  | none =>
      exact All.bind (enforceDeviceCap_all userId) fun _ => All.await trivial
  | some existing =>
      dsimp only
      split_ifs
      · exact All.await trivial
      · exact All.bind (enforceDeviceCap_all userId) fun _ => All.await trivial

/-- A login issues the token that it returns. -/
theorem login_safe (body : LoginRequestDto) (userAgent ip : String) (w : AuthWorld) :
    Safe (rotationLogic dep) (authExec dep) .database (TokensIssued dep)
      (login dep body userAgent ip) 0 w := by
  have hrefuse : ∀ userId v, Safe (rotationLogic dep) (authExec dep) .database
      (TokensIssued dep) (refuseLogin userId userAgent ip) 0 v :=
    fun _ _ => safe_bind (All.await trivial) fun _ _ _ => safe_raise
  refine safe_bind (All.await trivial) fun user v _ => ?_
  cases user with
  | none =>
      exact hrefuse _ _
  | some user =>
      dsimp only
      split_ifs
      · exact hrefuse _ _
      refine safe_bind (All.await trivial) fun roles v _ => ?_
      refine safe_signTokenPair fun a n v => ?_
      refine safe_bind (upsertDeviceOnLogin_all _ _) fun device v _ => ?_
      refine safe_bind (All.bind (All.await trivial) fun _ => trivial)
        fun expiresAt v _ => ?_
      refine Safe.bind (Safe.mono (Safe.promiseAll_pair
        (J := Issued dep (dep.randomKey n)) (fun _ _ hissued hkeep => hkeep _ hissued)
        (fun _ => trivial)
        (harmless_keepsTokens (s := .createLoginAttempt _) trivial _)
        (statementSafe_createUserSession rfl)) fun x m v _ hx => ?_)
      cases x with
      | error e =>
          trivial
      | ok u =>
          exact fun v' hv' => hv' _ (hx u rfl)

/-- A refresh exchanges the presented token for the token that it returns. -/
theorem refresh_safe (header : Option String) (userAgent : String) (w : AuthWorld) :
    Safe (rotationLogic dep) (authExec dep) .database (TokensIssued dep)
      (authHandler dep (.refresh header userAgent)) 0 w := by
  have hguard : (refreshGuard dep header).All KeepsTokens := by
    unfold refreshGuard
    cases refreshTokenHeader header with
    | none =>
        trivial
    | some token =>
        refine All.bind (All.await trivial) fun session => ?_
        cases session with
        | none =>
            trivial
        | some session =>
            dsimp only
            split_ifs
            · trivial
            cases session.expiresAt with
            | none =>
                trivial
            | some expiresAt =>
                refine All.bind (All.await trivial) fun now => ?_
                split_ifs
                · exact All.bind (All.bind (All.await trivial) fun _ => All.await rfl)
                    fun _ => trivial
                · trivial
  refine safe_bind hguard fun session v _ => ?_
  obtain ⟨presented, session⟩ := session
  refine safe_bind (All.await trivial) fun user v _ => ?_
  cases user with
  | none =>
      exact safe_raise
  | some user =>
      refine safe_bind (All.await trivial) fun roles v _ => ?_
      refine safe_signTokenPair fun a n v => ?_
      refine safe_rotateSession fun m v hm hissued => ?_
      exact fun v' hv' => ⟨hm, hv' _ hissued⟩

theorem authGuard_all (route : Route) (authorization : Option String) :
    (authGuard dep route authorization).All KeepsTokens := by
  unfold authGuard
  split_ifs
  · trivial
  cases bearerToken authorization with
  | none =>
      trivial
  | some token =>
      dsimp only
      split_ifs
      · trivial
      refine All.tryCatch (All.bind (All.await trivial) fun _ =>
        All.bind (All.await trivial) fun isRevoked => ?_) fun _ => trivial
      split_ifs <;> trivial

/-- No other request returns a refresh token. -/
theorem logout_safe (authorization refreshToken : Option String) (w : AuthWorld) :
    Safe (rotationLogic dep) (authExec dep) .database (TokensIssued dep)
      (authHandler dep (.logout authorization refreshToken)) 0 w := by
  refine safe_bind (authGuard_all _ _) fun _ v _ => ?_
  unfold BookStore.logout
  cases truthy refreshToken with
  | none =>
      exact safe_raise
  | some refreshToken =>
      cases truthy (bearerToken authorization) with
      | none =>
          exact safe_raise
      | some accessToken =>
          refine safe_bind (All.tryCatch (All.await trivial) fun _ => trivial)
            fun payload v _ => ?_
          split_ifs
          · exact safe_raise
          refine safe_bind (All.alongside trivial (All.bind (All.await trivial)
            fun session => ?_)) fun _ v _ => fun _ _ => trivial
          cases session with
          | none =>
              trivial
          | some session =>
              exact All.bind (All.await trivial) fun _ => All.await rfl

theorem route_safe
    (route : Route) (authorization guestSessionId : Option String) (w : AuthWorld) :
    Safe (rotationLogic dep) (authExec dep) .database (TokensIssued dep)
      (authHandler dep (.route route authorization guestSessionId)) 0 w := by
  refine safe_bind (authGuard_all _ _) fun user v _ => ?_
  split_ifs
  · refine safe_bind (All.bind ?_ fun _ => All.bind ?_ fun _ => trivial) fun _ v _ =>
      fun _ _ => trivial
    · unfold verifyShopper
      cases bearerToken authorization with
      | none =>
          trivial
      | some token =>
          dsimp only
          split_ifs
          · trivial
          · exact All.tryCatch (All.bind (All.await trivial) fun _ => trivial)
              fun _ => trivial
    · unfold attachGuestSession
      cases guestSessionId with
      | none =>
          exact All.await trivial
      | some sessionId =>
          dsimp only
          split_ifs
          · exact All.await trivial
          · refine All.bind (All.await trivial) fun found => ?_
            split_ifs
            · trivial
            · exact All.await trivial
  · exact fun _ _ => trivial

theorem authServer_envSafe :
    EnvSafeTo (rotationLogic dep) (authServer dep) (TokensIssued dep)
      (fun _ _ => True) := by
  intro w F e w' p hinv _ h
  cases e with
  | arrive r =>
      cases h
      refine ⟨fun _ h => h, 0, by rwa [zero_add], ?_⟩
      cases r with
      | login body userAgent ip =>
          exact login_safe body userAgent ip _
      | refresh header userAgent =>
          exact refresh_safe header userAgent _
      | logout authorization refreshToken =>
          exact logout_safe authorization refreshToken _
      | route route authorization guestSessionId =>
          exact route_safe route authorization guestSessionId _
  | tick ms =>
      cases h
      have hsame : SameTokens w { w with now := w.now + ms } :=
        ⟨fun _ => rfl, fun _ => rfl, le_refl _⟩
      exact ⟨fun t ht => (hsame.issued_iff t).mpr ht, hsame.rotationInv hinv⟩

/-! ### Every run -/

/-- The refresh token that was exchanged for the answer. -/
def AuthAnswer.exchanged : AuthAnswer → Option String
  | .refreshed presented _ _ _ => some presented
  | _ => Option.none

/-- The refresh token that an answer carries. -/
def AuthAnswer.newToken : AuthAnswer → Option String
  | .loggedIn _ _ token => some token
  | .refreshed _ _ _ token => some token
  | _ => Option.none

/-- The session was revoked or marked expired, or has run out. -/
def UserSession.Over (s : UserSession) (now : Nat) : Prop :=
  s.status ≠ .active ∨ s.revokedAt ≠ none ∨ ∃ t, s.expiresAt = some t ∧ t < now

theorem UserSession.usable_or_over (s : UserSession) (now : Nat) :
    s.Usable now ∨ s.Over now := by
  by_cases hactive : s.status = .active
  · by_cases hrevoked : s.revokedAt = none
    · by_cases hexpired : ∃ t, s.expiresAt = some t ∧ t < now
      · exact .inr (.inr (.inr hexpired))
      · refine .inl ⟨hactive, hrevoked, fun t ht => ?_⟩
        by_contra hlt
        exact hexpired ⟨t, ht, by omega⟩
    · exact .inr (.inr (.inl hrevoked))
  · exact .inr (.inl hactive)

/-- The session that `RefreshGuard` finds for an issued token. -/
theorem issued_cases
    {t : String}
    (h : Issued dep t w) :
    0 < w.exchangesOf t ∨ ∃ s, (w.sessions.findFirst fun s =>
      decide (s.refreshTokenHash = dep.hashToken t)) = some s := by
  refine h.imp_right fun ⟨id, hid⟩ => ?_
  obtain ⟨s, hs, hhash⟩ := Option.map_eq_some_iff.mp hid
  refine Option.isSome_iff_exists.mp (List.find?_isSome.mpr ⟨s, Table.find_mem hs, ?_⟩)
  simpa using hhash

variable (dep) in
/--
If every rotation finds the token that its request has presented, no token is
exchanged by two requests, and each token that was returned is accepted unless it
was exchanged, or its session was closed or has run out.
-/
theorem refreshToken_exchanged_once
    {c' : AuthState} {as : List (Action AuthEvent)}
    (hstart : RotationInv dep 0 w)
    (hmeets : Meets (authServer dep).step
      (System.Conforms (fun _ _ => True) (RotatesPresented dep)) ⟨w, []⟩ as)
    (hrun : runs (authServer dep).step ⟨w, []⟩ as = some c') :
    (∀ (i j : Nat) (a b : AuthAnswer) (token : String),
      c'.threads[i]? = some (.ret a) → c'.threads[j]? = some (.ret b) →
      a.exchanged = some token → b.exchanged = some token → i = j) ∧
    ∀ (i : Nat) (a : AuthAnswer) (new : String),
      c'.threads[i]? = some (.ret a) → a.newToken = some new →
      0 < c'.world.exchangesOf new ∨
        (∃ s, c'.world.accepts (dep.hashToken new) s) ∨
        ∃ s, (c'.world.sessions.findFirst fun s =>
          decide (s.refreshTokenHash = dep.hashToken new)) = some s ∧
          s.Over c'.world.now := by
  have hend : BalancedTo (rotationLogic dep) (authServer dep) (TokensIssued dep) c' :=
    balancedTo_runs (fun _ _ _ => trivial) authServer_envSafe
      (balancedTo_start hstart) hmeets hrun
  constructor
  · have hlt : ∀ (i j : Nat) (a b : AuthAnswer) (token : String), i < j →
        c'.threads[i]? = some (.ret a) → c'.threads[j]? = some (.ret b) →
        a.exchanged = some token → b.exchanged ≠ some token := by
      intro i j a b token hij hi hj ha hb
      obtain ⟨m, m', F, hinv, hm, hm'⟩ := hend.returned_two hij hi hj
      cases a <;> cases ha
      cases b <;> cases hb
      have hreceipts := hinv.receipts token
      have honce := hinv.once token
      have := hm.1
      have := hm'.1
      simp only [Prod.fst_add, Pi.add_apply] at hreceipts
      omega
    intro i j a b token hi hj ha hb
    rcases Nat.lt_trichotomy i j with hij | hij | hij
    · exact absurd hb (hlt i j a b token hij hi hj ha)
    · exact hij
    · exact absurd ha (hlt j i b a token hij hj hi hb)
  · intro i a new hi hnew
    obtain ⟨m, hm⟩ := hend.returned hi
    have hissued : Issued dep new c'.world := by
      cases a <;> cases hnew
      · exact hm
      · exact hm.2
    refine (issued_cases hissued).imp_right fun ⟨s, hs⟩ => ?_
    exact (s.usable_or_over c'.world.now).imp (fun h => ⟨s, hs, h⟩) fun h => ⟨s, hs, h⟩

/-- Before any session. -/
theorem rotationInv_start
    (hsessions : w.sessions.rows = [])
    (hexchanges : w.history.exchanges = []) :
    RotationInv dep 0 w := by
  have hhash : ∀ id, w.hashAt id = none := fun id => by
    simp [AuthWorld.hashAt, Table.find, hsessions]
  have hexch : ∀ t, w.exchangesOf t = 0 := fun t => by
    simp [AuthWorld.exchangesOf, hexchanges]
  refine ⟨fun t => ?_, fun t => ?_, fun t id _ => ?_, fun i j h hi _ => ?_,
    fun n hn => ?_, fun n hn => ?_, fun n => ?_⟩
  · exact Nat.zero_le _
  · rw [hexch]
    exact Nat.zero_le 1
  · simp [hhash]
  · rw [hhash] at hi
    cases hi
  · simp [Issued, hhash, hexch] at hn
  · exact absurd hn (Nat.lt_irrefl _)
  · exact Nat.zero_le 1

/-- The user logs in and exchanges the refresh token. -/
def loggedInThenRefreshed : List (Action AuthEvent) :=
  .env (.arrive (sampleLogin "device")) :: authSteps 0 13 ++
    .env (.arrive (.refresh (some "k") "agent")) :: authSteps 1 8

set_option maxRecDepth 4000 in
theorem refreshToken_exchanged_once_refreshed :
    ∃ c', runs (authServer sampleAuth).step ⟨sampleAuthWorld, []⟩
        loggedInThenRefreshed = some c' ∧
      ∀ (i j : Nat) (a b : AuthAnswer) (token : String),
        c'.threads[i]? = some (.ret a) → c'.threads[j]? = some (.ret b) →
        a.exchanged = some token → b.exchanged = some token → i = j := by
  obtain ⟨c', hrun⟩ := Option.isSome_iff_exists.mp
    (by decide +kernel : (runs (authServer sampleAuth).step ⟨sampleAuthWorld, []⟩
      loggedInThenRefreshed).isSome)
  exact ⟨c', hrun, (refreshToken_exchanged_once sampleAuth
    (rotationInv_start (by decide +kernel) (by decide +kernel)) (by decide +kernel)
    hrun).1⟩

/-- Two refreshes pass the guard with the same token before either rotates. -/
def refreshedTwice : List (Action AuthEvent) :=
  .env (.arrive (sampleLogin "device")) :: authSteps 0 13 ++
    .env (.arrive (.refresh (some "k") "agent")) :: authSteps 1 2 ++
    .env (.arrive (.refresh (some "k") "agent")) :: authSteps 2 2 ++
    authSteps 1 6 ++ authSteps 2 6

set_option maxRecDepth 4000 in
/-- Both return a token pair. -/
theorem refreshedTwice_exchanges :
    ¬ ∀ (as : List (Action AuthEvent)) (c' : AuthState),
      runs (authServer sampleAuth).step ⟨sampleAuthWorld, []⟩ as = some c' →
      ∀ (i j : Nat) (a b : AuthAnswer) (token : String),
        c'.threads[i]? = some (.ret a) → c'.threads[j]? = some (.ret b) →
        a.exchanged = some token → b.exchanged = some token → i = j := by
  intro h
  obtain ⟨c', hrun⟩ := Option.isSome_iff_exists.mp
    (by decide +kernel : (runs (authServer sampleAuth).step ⟨sampleAuthWorld, []⟩
      refreshedTwice).isSome)
  have hend : ((runs (authServer sampleAuth).step ⟨sampleAuthWorld, []⟩
      refreshedTwice).bind fun c => c.threads[1]?.bind Program.answer) =
        some (.refreshed "k" ⟨1, "user@example.com", true⟩ "jwt" "kk") ∧
      ((runs (authServer sampleAuth).step ⟨sampleAuthWorld, []⟩
        refreshedTwice).bind fun c => c.threads[2]?.bind Program.answer) =
        some (.refreshed "k" ⟨1, "user@example.com", true⟩ "jwt" "kkk") := by
    decide +kernel
  simp only [hrun, Option.bind_some, bind_answer_eq_some_iff] at hend
  exact absurd (h _ _ hrun 1 2 _ _ "k" hend.1 hend.2 rfl rfl) (by decide)

end BookStore
