import BookStore.Account.Service
import BookStore.Columns
import BookStore.Email.NewestLink

/-!
# Where passwords, verified addresses and sessions come from

Any number of requests and attempts of the mail worker come between one another.  `Past` is what
a run says of its requests, its first state and its steps.

* `DrawnFor`: a token goes with a code of the address.
* `Registered`: a request to register that was not refused.
* `PasswordFrom`: the requests that a stored password goes back to.
* `Opened`: the request that a session goes back to.
* `AccountInv` is the invariant and `Asks` what a statement has to meet for it.
* `AccountInv.exec` is the step of one statement.
-/

namespace BookStore
namespace Account

open Async Program Email

/-- The token in the link of a mail -/
def mailToken (m : Mail) : Option String :=
  match m.html with
  | .verifyEmail link => some link.token
  | .resetPassword resetLink _ => some resetLink.token
  | .orderSuccess _ _ => none

/-- The requests that arrive, the state before the first of them, and the steps of the run -/
structure Past where
  asked : AccountRequest → Prop
  start : EmailWorld
  /-- A step leads from a state to the next one. -/
  step : EmailWorld → EmailWorld → Prop

variable (dep : EmailDeployment) (past : Past)

/-- The token was drawn for a code of the address. -/
def DrawnFor (w : EmailWorld) (type : VerificationType) (email token : String) : Prop :=
  ∃ n k c, token = dep.randomKey n ∧ (n, k) ∈ w.history.tokens ∧ w.codes.find k = some c ∧
    c.type = type ∧ c.email = some email

/-- The row of a user before some step -/
def Past.Stored (u : User) : Prop :=
  ∃ v v', past.step v v' ∧ v.auth.users.find u.id = some u

/-- The request has made the row of the user, when no user had the address. -/
structure Registered (body : RegisterRequestDto) (ip : String) (u : User) : Prop where
  asked : ∃ userAgent originUrl guestSessionId,
    past.asked (.email (.register body userAgent ip originUrl guestSessionId))
  confirmed : body.password = body.confirmPassword
  made : ∃ v v', past.step v v' ∧ v.auth.userAt dep.toAuthDeployment body.email = none ∧
    v.auth.users.find u.id = none ∧ v'.auth.users.find u.id = some u
  email : u.email = body.email
  password : ∃ salt, u.password = dep.bcryptHash salt body.password
  unverified : u.isEmailVerified = false

/-- The password of the user goes back to these requests. -/
inductive PasswordFrom (w : EmailWorld) (id : Nat) (email : String) : String → Prop
  | start {u : User} :
      past.start.auth.users.find id = some u → u.email = email →
      PasswordFrom w id email u.password
  | registered {body : RegisterRequestDto} {ip : String} {u : User} :
      Registered dep past body ip u → u.id = id → u.email = email →
      PasswordFrom w id email u.password
  | changed {authorization : Option String} {body : ChangePasswordRequestDto}
      {token : String} {claims : JwtClaims} {u : User} {salt : Nat} :
      past.asked (.changePassword authorization body) →
      body.newPassword = body.confirmNewPassword →
      bearerToken authorization = some token → dep.verify token = some claims →
      userIdOf claims = some id →
      past.Stored u → u.id = id → u.email = email →
      PasswordFrom w id email u.password → dep.compare body.oldPassword u.password = true →
      PasswordFrom w id email (dep.bcryptHash salt body.newPassword)
  | reset {body : ResetPasswordRequestDto} {salt : Nat} :
      past.asked (.email (.resetPassword body)) → body.password = body.passwordConfirmation →
      dep.collate body.email = dep.collate email →
      DrawnFor dep w .forgotPassword email body.token →
      PasswordFrom w id email (dep.bcryptHash salt body.password)

/-- The address was verified, by a token that was drawn for it. -/
def VerifiedBy (w : EmailWorld) (id : Nat) (email : String) : Prop :=
  (∃ u, past.start.auth.users.find id = some u ∧ u.email = email ∧ u.isEmailVerified = true) ∨
    ∃ token, past.asked (.email (.verifyEmail token)) ∧ DrawnFor dep w .register email token

/-- The session was opened for a request that made the user, or that presented the password
which was stored. -/
inductive Opened (w : EmailWorld) (userId : Nat) : Option String → Option Nat → Prop
  | registered {body : RegisterRequestDto} {ip : String} {u : User} :
      Registered dep past body ip u → u.id = userId → Opened w userId (some ip) none
  | loggedIn {body : LoginRequestDto} {userAgent ip : String} {u : User} {deviceId : Nat} :
      past.asked (.auth (.login body userAgent ip)) →
      past.Stored u → u.id = userId → dep.collate u.email = dep.collate body.email →
      PasswordFrom dep past w u.id u.email u.password →
      dep.compare body.password u.password = true →
      Opened w userId (some ip) (some deviceId)

/-- The unique key of `users.email` -/
def AddressesApart (w : EmailWorld) : Prop :=
  (w.auth.users.rows.map fun u => dep.collate u.email).Nodup

structure AccountInv (w : EmailWorld) : Prop where
  password : ∀ u, u ∈ w.auth.users.rows → PasswordFrom dep past w u.id u.email u.password
  verified : ∀ u, u ∈ w.auth.users.rows → u.isEmailVerified = true →
    VerifiedBy dep past w u.id u.email
  session : ∀ s, s ∈ w.auth.sessions.rows →
    (∃ s₀, past.start.auth.sessions.find s.id = some s₀ ∧ s₀.userId = s.userId) ∨
      Opened dep past w s.userId s.ip s.deviceId
  apart : AddressesApart dep w
  code : ∀ c, c ∈ w.codes.rows → ∃ userId u, c.userId = some userId ∧
    w.auth.users.find userId = some u ∧ c.email = some u.email
  hashed : ∀ c, c ∈ w.codes.rows → ∀ codeHash, c.codeHash = some codeHash →
    ∃ n, (n, c.id) ∈ w.history.tokens ∧ codeHash = dep.hashToken (dep.randomKey n)
  drawn : ∀ n k, (n, k) ∈ w.history.tokens →
    n < w.auth.keys ∧ ∀ k', (n, k') ∈ w.history.tokens → k' = k
  bundled : ∀ id k, (id, k) ∈ w.history.bundles →
    ∃ r c, w.outbox.find id = some r ∧ w.codes.find k = some c ∧ c.email = some r.toEmail
  job : ∀ job, job ∈ w.jobs → ∀ k originUrl, job.data = .sendEmail k originUrl →
    (job.outboxId, k) ∈ w.history.bundles
  mail : ∀ m, m ∈ w.mails → ∀ token, mailToken m = some token →
    ∃ type, DrawnFor dep w type m.toEmail token

/-- What lasts -/
structure AccountRely (w v : EmailWorld) : Prop where
  users : Table.Keeps User.email w.auth.users v.auth.users
  codes : Table.Keeps (fun c => (c.userId, c.email, c.type)) w.codes v.codes
  outbox : Table.Keeps EmailOutbox.toEmail w.outbox v.outbox
  tokens : ∀ x, x ∈ w.history.tokens → x ∈ v.history.tokens
  bundles : ∀ x, x ∈ w.history.bundles → x ∈ v.history.bundles

/-- What a statement has to meet -/
def Asks (w : EmailWorld) : EmailStmt → Prop
  | .auth (.createUserSession data) => Opened dep past w data.userId data.ip data.deviceId
  | .createUser email password => ∃ body userAgent ip originUrl guestSessionId salt,
      past.asked (.email (.register body userAgent ip originUrl guestSessionId)) ∧
        body.password = body.confirmPassword ∧ body.email = email ∧
        password = dep.bcryptHash salt body.password
  | .markEmailVerified userId => ∃ u, w.auth.users.find userId = some u ∧
      VerifiedBy dep past w userId u.email
  | .updatePassword userId password _ _ => ∃ u, w.auth.users.find userId = some u ∧
      PasswordFrom dep past w userId u.email password
  | .createVerifyCationCode userId email _ _ => ∃ u, w.auth.users.find userId = some u ∧
      u.email = email
  | .createOutboxEmail toEmail _ k => ∃ c, w.codes.find k = some c ∧ c.email = some toEmail
  | .updateCodeHash k codeHash _ => ∃ n, (n, k) ∈ w.history.tokens ∧
      codeHash = dep.hashToken (dep.randomKey n)
  | .add job => ∀ k originUrl, job.data = .sendEmail k originUrl →
      (job.outboxId, k) ∈ w.history.bundles
  | .sendMail mail => ∀ token, mailToken mail = some token →
      ∃ type, DrawnFor dep w type mail.toEmail token
  | _ => True

variable {dep past} {w w' v u : EmailWorld}

theorem AccountRely.refl (w : EmailWorld) : AccountRely w w :=
  ⟨.refl _, .refl _, .refl _, fun _ h => h, fun _ h => h⟩

theorem AccountRely.trans (huv : AccountRely u v) (hvw : AccountRely v w) : AccountRely u w where
  users := huv.users.trans hvw.users
  codes := huv.codes.trans hvw.codes
  outbox := huv.outbox.trans hvw.outbox
  tokens := fun x hx => hvw.tokens x (huv.tokens x hx)
  bundles := fun x hx => hvw.bundles x (huv.bundles x hx)

/-! ### What lasts -/

theorem DrawnFor.mono {type : VerificationType} {email token : String}
    (h : DrawnFor dep w type email token) (hrely : AccountRely w v) :
    DrawnFor dep v type email token := by
  obtain ⟨n, k, c, htoken, hdrawn, hc, htype, hemail⟩ := h
  obtain ⟨c', hc', hsame⟩ := hrely.codes k c hc
  rw [Prod.mk.injEq, Prod.mk.injEq] at hsame
  exact ⟨n, k, c', htoken, hrely.tokens _ hdrawn, hc', hsame.2.2.trans htype,
    hsame.2.1.trans hemail⟩

theorem PasswordFrom.mono {id : Nat} {email password : String}
    (h : PasswordFrom dep past w id email password) (hrely : AccountRely w v) :
    PasswordFrom dep past v id email password := by
  induction h with
  | start hu hemail =>
      exact .start hu hemail
  | registered hregistered hid hemail =>
      exact .registered hregistered hid hemail
  | changed hasked hconfirm hbearer hverify hsub hstored hid hemail _ hcompare ih =>
      exact .changed hasked hconfirm hbearer hverify hsub hstored hid hemail ih hcompare
  | reset hasked hconfirm hemail hdrawn =>
      exact .reset hasked hconfirm hemail (hdrawn.mono hrely)

theorem VerifiedBy.mono {id : Nat} {email : String}
    (h : VerifiedBy dep past w id email) (hrely : AccountRely w v) :
    VerifiedBy dep past v id email := by
  rcases h with h | ⟨token, hasked, hdrawn⟩
  · exact .inl h
  · exact .inr ⟨token, hasked, hdrawn.mono hrely⟩

theorem Opened.mono {userId : Nat} {ip : Option String} {deviceId : Option Nat}
    (h : Opened dep past w userId ip deviceId) (hrely : AccountRely w v) :
    Opened dep past v userId ip deviceId := by
  cases h with
  | registered hregistered hid =>
      exact .registered hregistered hid
  | loggedIn hasked hstored hid hemail hpassword hcompare =>
      exact .loggedIn hasked hstored hid hemail (hpassword.mono hrely) hcompare

/-! ### One statement -/

/-- The users after statement `s` -/
def usersAfter (s : EmailStmt) (w : EmailWorld) : Table User :=
  match s with
  | .createUser email password =>
      w.auth.users.insert (newUser email password) (key_newUser email password)
  | .markEmailVerified userId => w.auth.users.update userId setEmailVerified key_setEmailVerified
  | .updatePassword userId password _ _ =>
      w.auth.users.update userId (setPassword password) (key_setPassword password)
  | _ => w.auth.users

/-- The sessions after statement `s` -/
def loggedAfter (s : EmailStmt) (w : EmailWorld) : Table UserSession :=
  match s with
  | .auth s => sessionsAfter s w.auth
  | _ => w.auth.sessions

theorem users_exec
    {s : EmailStmt} {r : EmailResponse s}
    (h : emailExec dep s w = .ok (w', r)) :
    w'.auth.users = usersAfter s w ∧ w'.auth.sessions = loggedAfter s w := by
  cases s with
  | auth s =>
      simp only [emailExec] at h
      split at h
      · rename_i auth r' hexec
        cases h
        have heff := authExec_effects dep.toAuthDeployment hexec
        exact ⟨heff.users, heff.sessions⟩
      · cases h
  | createUserRole userId roleId =>
      simp only [emailExec] at h
      split at h
      · cases h
      · split at h <;> cases h
        exact ⟨rfl, rfl⟩
  | add job =>
      simp only [emailExec] at h
      split at h <;> cases h
      · exact ⟨rfl, rfl⟩
      · exact ⟨rfl, rfl⟩
  | _ =>
      simp only [emailExec] at h
      first
        | (cases h; exact ⟨rfl, rfl⟩)
        | (split at h <;> cases h
           exact ⟨rfl, rfl⟩)

theorem keeps_usersAfter (s : EmailStmt) (w : EmailWorld) :
    Table.Keeps User.email w.auth.users (usersAfter s w) := by
  cases s with
  | createUser email password =>
      exact .insert (key_newUser email password)
  | markEmailVerified userId =>
      exact .update _ fun _ => rfl
  | updatePassword userId password presented k =>
      exact .update _ fun _ => rfl
  | _ =>
      exact .refl _

theorem keeps_codesAfter (s : EmailStmt) (w : EmailWorld) :
    Table.Keeps (fun c => (c.userId, c.email, c.type)) w.codes (codesAfter dep s w) := by
  cases s with
  | createVerifyCationCode userId email expiresAt type =>
      exact .insert (key_newCode userId email expiresAt type)
  | updateCodeHash k codeHash outboxId =>
      exact .update _ fun _ => rfl
  | markUsedById k usedAt =>
      exact .update _ fun _ => rfl
  | markAllRegisterUnusedByEmail email usedAt =>
      exact .updateWhere (key_setUsedAt usedAt) fun _ => rfl
  | _ =>
      exact .refl _

theorem keeps_outboxAfter (s : EmailStmt) (w : EmailWorld) :
    Table.Keeps EmailOutbox.toEmail w.outbox (outboxAfter dep s w) := by
  cases s with
  | createOutboxEmail toEmail templateKey k =>
      exact .insert (key_newOutbox toEmail templateKey w.auth.now)
  | updateByIdEmailStatus id status =>
      exact .update _ fun _ => rfl
  | cancelOtpRegisterInProgressByEmail email =>
      exact .updateWhere (key_setStatus .cancelled) fun _ => rfl
  | _ =>
      exact .refl _

theorem exec_accountRely
    {s : EmailStmt} {r : EmailResponse s}
    (h : emailExec dep s w = .ok (w', r)) :
    AccountRely w w' := by
  have heff := emailExec_effects dep h
  have hlinks := exec_linksRely h
  refine ⟨?_, ?_, ?_, hlinks.tokens, hlinks.bundles⟩
  · rw [(users_exec h).1]
    exact keeps_usersAfter s w
  · rw [heff.codes]
    exact keeps_codesAfter s w
  · rw [heff.outbox]
    exact keeps_outboxAfter s w

/-- The row that is inserted, and that its key and its address were free -/
theorem exec_createUser
    {email password : String} {user : AuthMe}
    (h : emailExec dep (.createUser email password) w = .ok (w', user)) :
    w.auth.userAt dep.toAuthDeployment email = none ∧
      w.auth.users.find w.auth.users.next = none ∧
      w'.auth.users.find w.auth.users.next =
        some (newUser email password w.auth.users.next) ∧
      user = (newUser email password w.auth.users.next).safe := by
  simp only [emailExec] at h
  split_ifs at h with hfree
  · cases h
    refine ⟨?_, Table.find_next _, ?_, rfl⟩
    · simpa using hfree
    · rw [Table.find_insert, if_pos rfl]

/-! ### The invariant -/

theorem password_exec
    {s : EmailStmt} {r : EmailResponse s}
    (hinv : AccountInv dep past w)
    (hasks : Asks dep past w s)
    (hstep : ∀ email password, s = .createUser email password → past.step w w')
    (h : emailExec dep s w = .ok (w', r)) :
    ∀ u, u ∈ w'.auth.users.rows → PasswordFrom dep past w' u.id u.email u.password := by
  have hrely := exec_accountRely h
  have hold : ∀ u, u ∈ w.auth.users.rows →
      PasswordFrom dep past w' u.id u.email u.password :=
    fun u hu => (hinv.password u hu).mono hrely
  rw [(users_exec h).1]
  cases s with
  | createUser email password =>
      intro u hu
      rcases List.mem_append.mp hu with hu | hu
      · exact hold u hu
      · obtain rfl := List.mem_singleton.mp hu
        obtain ⟨body, userAgent, ip, originUrl, guestSessionId, salt, hasked, hconfirm, rfl,
          hpassword⟩ := hasks
        obtain ⟨haddress, hfree, hmade, -⟩ := exec_createUser h
        have hregistered : Registered dep past body ip
            (newUser body.email password w.auth.users.next) :=
          { asked := ⟨userAgent, originUrl, guestSessionId, hasked⟩
            confirmed := hconfirm
            made := ⟨w, w', hstep _ _ rfl, haddress, hfree, hmade⟩
            email := rfl
            password := ⟨salt, hpassword⟩
            unverified := rfl }
        exact .registered hregistered rfl rfl
  | markEmailVerified userId =>
      exact Table.forall_updateWhere (fun u hu _ => hold u hu) fun u hu _ => hold u hu
  | updatePassword userId password presented k =>
      obtain ⟨u₀, hu₀, hpassword⟩ := hasks
      refine Table.forall_updateWhere (fun u hu hid => ?_) fun u hu _ => hold u hu
      have hid : key u = userId := of_decide_eq_true hid
      have hfind := Table.find_of_mem hu
      rw [hid, hu₀] at hfind
      obtain rfl := Option.some.inj hfind
      change PasswordFrom dep past w' (key u₀) u₀.email password
      rw [hid]
      exact hpassword.mono hrely
  | _ =>
      exact hold

theorem verified_exec
    {s : EmailStmt} {r : EmailResponse s}
    (hinv : AccountInv dep past w)
    (hasks : Asks dep past w s)
    (h : emailExec dep s w = .ok (w', r)) :
    ∀ u, u ∈ w'.auth.users.rows → u.isEmailVerified = true →
      VerifiedBy dep past w' u.id u.email := by
  have hrely := exec_accountRely h
  have hold : ∀ u, u ∈ w.auth.users.rows → u.isEmailVerified = true →
      VerifiedBy dep past w' u.id u.email :=
    fun u hu hverified => (hinv.verified u hu hverified).mono hrely
  rw [(users_exec h).1]
  cases s with
  | createUser email password =>
      intro u hu hverified
      rcases List.mem_append.mp hu with hu | hu
      · exact hold u hu hverified
      · obtain rfl := List.mem_singleton.mp hu
        cases hverified
  | markEmailVerified userId =>
      obtain ⟨u₀, hu₀, hfrom⟩ := hasks
      refine Table.forall_updateWhere (fun u hu hid _ => ?_) fun u hu _ => hold u hu
      have hid : key u = userId := of_decide_eq_true hid
      have hfind := Table.find_of_mem hu
      rw [hid, hu₀] at hfind
      obtain rfl := Option.some.inj hfind
      change VerifiedBy dep past w' (key u₀) u₀.email
      rw [hid]
      exact hfrom.mono hrely
  | updatePassword userId password presented k =>
      exact Table.forall_updateWhere (fun u hu _ => hold u hu) fun u hu _ => hold u hu
  | _ =>
      exact hold

theorem session_exec
    {s : EmailStmt} {r : EmailResponse s}
    (hinv : AccountInv dep past w)
    (hasks : Asks dep past w s)
    (h : emailExec dep s w = .ok (w', r)) :
    ∀ s, s ∈ w'.auth.sessions.rows →
      (∃ s₀, past.start.auth.sessions.find s.id = some s₀ ∧ s₀.userId = s.userId) ∨
        Opened dep past w' s.userId s.ip s.deviceId := by
  have hrely := exec_accountRely h
  have hold : ∀ s, s ∈ w.auth.sessions.rows →
      (∃ s₀, past.start.auth.sessions.find s.id = some s₀ ∧ s₀.userId = s.userId) ∨
        Opened dep past w' s.userId s.ip s.deviceId :=
    fun s hs => (hinv.session s hs).imp_right fun ho => ho.mono hrely
  rw [(users_exec h).2]
  cases s with
  | auth s =>
      cases s with
      | createUserSession data =>
          intro session hsession
          rcases List.mem_append.mp hsession with hsession | hsession
          · exact hold session hsession
          · obtain rfl := List.mem_singleton.mp hsession
            exact .inr (Opened.mono hasks hrely)
      | updateUserSession id data presented =>
          exact Table.forall_updateWhere (fun s hs _ => hold s hs) fun s hs _ => hold s hs
      | _ =>
          exact hold
  | _ =>
      exact hold

/-- The addresses of users stay, and one that is added was free. -/
theorem apart_exec
    {s : EmailStmt} {r : EmailResponse s}
    (hinv : AccountInv dep past w)
    (h : emailExec dep s w = .ok (w', r)) :
    AddressesApart dep w' := by
  have hsame : ∀ (p : User → Bool) (g : User → User) (hg : ∀ u, key (g u) = key u),
      (∀ u, (g u).email = u.email) →
      ((w.auth.users.updateWhere p g hg).rows.map fun u => dep.collate u.email) =
        w.auth.users.rows.map fun u => dep.collate u.email := by
    intro p g hg hemail
    rw [Table.rows_updateWhere, List.map_map]
    refine List.map_congr_left fun u _ => ?_
    simp only [Function.comp_apply]
    split_ifs
    · rw [hemail]
    · rfl
  have hold := hinv.apart
  unfold AddressesApart at hold ⊢
  rw [(users_exec h).1]
  cases s with
  | createUser email password =>
      obtain ⟨haddress, -, -, -⟩ := exec_createUser h
      rw [usersAfter, Table.rows_insert, List.map_append, List.map_singleton]
      refine List.nodup_append.mpr ⟨hold, List.nodup_singleton _, ?_⟩
      rintro x hx y hy rfl
      obtain ⟨u, hu, hsame⟩ := List.mem_map.mp hx
      rw [List.mem_singleton.mp hy] at hsame
      exact List.find?_eq_none.mp haddress u hu (decide_eq_true hsame)
  | markEmailVerified userId =>
      rw [usersAfter, Table.update, hsame _ setEmailVerified _ fun _ => rfl]
      exact hold
  | updatePassword userId password presented k =>
      rw [usersAfter, Table.update, hsame _ (setPassword password) _ fun _ => rfl]
      exact hold
  | _ =>
      exact hold

theorem code_exec
    {s : EmailStmt} {r : EmailResponse s}
    (hinv : AccountInv dep past w)
    (hasks : Asks dep past w s)
    (h : emailExec dep s w = .ok (w', r)) :
    ∀ c, c ∈ w'.codes.rows → ∃ userId u, c.userId = some userId ∧
      w'.auth.users.find userId = some u ∧ c.email = some u.email := by
  have hrely := exec_accountRely h
  have hold : ∀ c, c ∈ w.codes.rows → ∃ userId u, c.userId = some userId ∧
      w'.auth.users.find userId = some u ∧ c.email = some u.email := by
    intro c hc
    obtain ⟨userId, u, hid, hu, hemail⟩ := hinv.code c hc
    obtain ⟨u', hu', hsame⟩ := hrely.users userId u hu
    exact ⟨userId, u', hid, hu', by rw [hsame, hemail]⟩
  rw [(emailExec_effects dep h).codes]
  cases s with
  | createVerifyCationCode userId email expiresAt type =>
      intro c hc
      rcases List.mem_append.mp hc with hc | hc
      · exact hold c hc
      · obtain rfl := List.mem_singleton.mp hc
        obtain ⟨u, hu, hemail⟩ := hasks
        obtain ⟨u', hu', hsame⟩ := hrely.users userId u hu
        exact ⟨userId, u', rfl, hu', by rw [hsame, hemail]; rfl⟩
  | updateCodeHash k codeHash outboxId =>
      exact Table.forall_updateWhere (fun c hc _ => hold c hc) fun c hc _ => hold c hc
  | markUsedById k usedAt =>
      exact Table.forall_updateWhere (fun c hc _ => hold c hc) fun c hc _ => hold c hc
  | markAllRegisterUnusedByEmail email usedAt =>
      exact Table.forall_updateWhere (fun c hc _ => hold c hc) fun c hc _ => hold c hc
  | _ =>
      exact hold

theorem codeHash_exec
    {s : EmailStmt} {r : EmailResponse s}
    (hinv : AccountInv dep past w)
    (hasks : Asks dep past w s)
    (h : emailExec dep s w = .ok (w', r)) :
    ∀ c, c ∈ w'.codes.rows → ∀ codeHash, c.codeHash = some codeHash →
      ∃ n, (n, c.id) ∈ w'.history.tokens ∧ codeHash = dep.hashToken (dep.randomKey n) := by
  have hrely := exec_accountRely h
  have hold : ∀ c, c ∈ w.codes.rows → ∀ codeHash, c.codeHash = some codeHash →
      ∃ n, (n, c.id) ∈ w'.history.tokens ∧ codeHash = dep.hashToken (dep.randomKey n) := by
    intro c hc codeHash hhash
    obtain ⟨n, hn, heq⟩ := hinv.hashed c hc codeHash hhash
    exact ⟨n, hrely.tokens _ hn, heq⟩
  rw [(emailExec_effects dep h).codes]
  cases s with
  | createVerifyCationCode userId email expiresAt type =>
      intro c hc codeHash hhash
      rcases List.mem_append.mp hc with hc | hc
      · exact hold c hc codeHash hhash
      · obtain rfl := List.mem_singleton.mp hc
        cases hhash
  | updateCodeHash k codeHash outboxId =>
      refine Table.forall_updateWhere (fun c hc hk codeHash' hhash => ?_) fun c hc _ => hold c hc
      obtain ⟨n, hn, heq⟩ := hasks
      have hid : c.id = k := of_decide_eq_true hk
      refine ⟨n, hrely.tokens _ ?_, (Option.some.inj hhash).symm.trans heq⟩
      rw [show (setCodeHash codeHash c).id = k from hid]
      exact hn
  | markUsedById k usedAt =>
      exact Table.forall_updateWhere (fun c hc _ => hold c hc) fun c hc _ => hold c hc
  | markAllRegisterUnusedByEmail email usedAt =>
      exact Table.forall_updateWhere (fun c hc _ => hold c hc) fun c hc _ => hold c hc
  | _ =>
      exact hold

/-- A key is drawn once. -/
theorem token_exec
    {s : EmailStmt} {r : EmailResponse s}
    (hinv : AccountInv dep past w)
    (h : emailExec dep s w = .ok (w', r)) :
    ∀ n k, (n, k) ∈ w'.history.tokens →
      n < w'.auth.keys ∧ ∀ k', (n, k') ∈ w'.history.tokens → k' = k := by
  have heff := emailExec_effects dep h
  have hkeys : w.auth.keys ≤ w'.auth.keys := by
    rw [heff.keys]
    cases s with
    | auth s =>
        cases s <;> simp [drawnAfter, keysAfter]
    | _ =>
        simp [drawnAfter]
  have hnew : w'.history.tokens = w.history.tokens ∨
      ∃ k, w'.history.tokens = w.history.tokens ++ [(w.auth.keys, k)] ∧
        w.auth.keys < w'.auth.keys := by
    rw [heff.history, heff.keys]
    cases s with
    | randomKey outboxId k =>
        exact .inr ⟨k, rfl, Nat.lt_succ_self _⟩
    | _ =>
        exact .inl rfl
  rcases hnew with hsame | ⟨k₀, happend, hlt⟩
  · intro n k hk
    rw [hsame] at hk ⊢
    exact ⟨(hinv.drawn n k hk).1.trans_le hkeys, (hinv.drawn n k hk).2⟩
  · have hsplit : ∀ {n k}, (n, k) ∈ w'.history.tokens →
        (n < w.auth.keys ∧ (n, k) ∈ w.history.tokens) ∨ n = w.auth.keys ∧ k = k₀ := by
      intro n k hk
      rw [happend, List.mem_append, List.mem_singleton, Prod.mk.injEq] at hk
      exact hk.imp_left fun hk => ⟨(hinv.drawn n k hk).1, hk⟩
    intro n k hk
    rcases hsplit hk with ⟨hn, hk⟩ | ⟨rfl, rfl⟩
    · refine ⟨by omega, fun k' hk' => ?_⟩
      rcases hsplit hk' with ⟨-, hk'⟩ | ⟨hn', -⟩
      · exact (hinv.drawn n k hk).2 k' hk'
      · omega
    · refine ⟨hlt, fun k' hk' => ?_⟩
      rcases hsplit hk' with ⟨hn', -⟩ | ⟨-, hk'⟩
      · omega
      · exact hk'

/-- The row and the code of a mail have the same address. -/
theorem bundle_exec
    {s : EmailStmt} {r : EmailResponse s}
    (hinv : AccountInv dep past w)
    (hasks : Asks dep past w s)
    (h : emailExec dep s w = .ok (w', r)) :
    ∀ id k, (id, k) ∈ w'.history.bundles → ∃ r c, w'.outbox.find id = some r ∧
      w'.codes.find k = some c ∧ c.email = some r.toEmail := by
  have heff := emailExec_effects dep h
  have hrely := exec_accountRely h
  have hold : ∀ id k, (id, k) ∈ w.history.bundles → ∃ r c, w'.outbox.find id = some r ∧
      w'.codes.find k = some c ∧ c.email = some r.toEmail := by
    intro id k hk
    obtain ⟨row, c, hrow, hc, hemail⟩ := hinv.bundled id k hk
    obtain ⟨row', hrow', hto⟩ := hrely.outbox id row hrow
    obtain ⟨c', hc', hsame⟩ := hrely.codes k c hc
    rw [Prod.mk.injEq, Prod.mk.injEq] at hsame
    exact ⟨row', c', hrow', hc', by rw [hsame.2.1, hemail, hto]⟩
  cases s with
  | createOutboxEmail toEmail templateKey k₀ =>
      obtain ⟨c, hc, hemail⟩ := hasks
      have hbundles : w'.history.bundles = w.history.bundles ++ [(w.outbox.next, k₀)] := by
        rw [heff.history]
        rfl
      intro id k hk
      rw [hbundles, List.mem_append, List.mem_singleton, Prod.mk.injEq] at hk
      rcases hk with hk | ⟨rfl, rfl⟩
      · exact hold id k hk
      · refine ⟨newOutbox toEmail templateKey w.auth.now w.outbox.next, c, ?_, ?_, hemail⟩
        · rw [heff.outbox, outboxAfter, Table.find_insert, if_pos rfl]
        · rw [heff.codes]
          exact hc
  | _ =>
      rw [heff.history]
      exact hold

/-- The user with an address is the one whose row has it. -/
theorem AccountInv.user_of_collate
    {u u' : User}
    (hinv : AccountInv dep past w)
    (hu : u ∈ w.auth.users.rows) (hu' : u' ∈ w.auth.users.rows)
    (h : dep.collate u.email = dep.collate u'.email) :
    u = u' :=
  List.inj_on_of_nodup_map hinv.apart hu hu' h

/-- **One statement** that meets what is asked of it -/
theorem AccountInv.exec
    {s : EmailStmt} {r : EmailResponse s}
    (hinv : AccountInv dep past w)
    (hasks : Asks dep past w s)
    (hstep : ∀ email password, s = .createUser email password → past.step w w')
    (h : emailExec dep s w = .ok (w', r)) :
    AccountInv dep past w' := by
  have heff := emailExec_effects dep h
  have hrely := exec_accountRely h
  refine ⟨password_exec hinv hasks hstep h, verified_exec hinv hasks h,
    session_exec hinv hasks h, apart_exec hinv h, code_exec hinv hasks h,
    codeHash_exec hinv hasks h, token_exec hinv h, bundle_exec hinv hasks h, ?_, ?_⟩
  · intro job hjob k originUrl hdata
    rcases heff.jobs with hsame | ⟨new, rfl, happend⟩
    · rw [hsame] at hjob
      exact hrely.bundles _ (hinv.job job hjob k originUrl hdata)
    · rw [happend, List.mem_append, List.mem_singleton] at hjob
      rcases hjob with hjob | rfl
      · exact hrely.bundles _ (hinv.job job hjob k originUrl hdata)
      · exact hrely.bundles _ (hasks k originUrl hdata)
  · have hold : ∀ m, m ∈ w.mails → ∀ token, mailToken m = some token →
        ∃ type, DrawnFor dep w' type m.toEmail token := by
      intro m hm token htoken
      obtain ⟨type, hdrawn⟩ := hinv.mail m hm token htoken
      exact ⟨type, hdrawn.mono hrely⟩
    rw [heff.mails]
    cases s with
    | sendMail mail =>
        intro m hm token htoken
        rcases List.mem_append.mp hm with hm | hm
        · exact hold m hm token htoken
        · obtain rfl := List.mem_singleton.mp hm
          obtain ⟨type, hdrawn⟩ := hasks token htoken
          exact ⟨type, hdrawn.mono hrely⟩
    | _ =>
        exact hold

end Account
end BookStore
