import BookStore.Account.Requests

/-!
# Accounts over whole runs

What follows for every run of the server: where the passwords, the verified addresses and the
sessions of its state come from.

* `Guarded` is what every state of a run meets, and `guarded_step` one step.
* `account_runs` and `sessions_runs` are the results.
-/

namespace BookStore
namespace Account

open Async Program Email

variable {dep : EmailDeployment} {past : Past}
variable {w w' v : EmailWorld} {c c' : AccountState} {a : Action AccountEvent}

/-! ### The handlers -/

variable (dep past) in
abbrev AccountKeeps (p : AccountService AccountAnswer) (w : EmailWorld) : Prop :=
  Sends (accountPromise dep past) (Taken dep past (accountExec dep) .database)
    (accountExec dep) .database (fun _ _ => True) p w

theorem accountExec_rely
    {s : AccountStmt} {r : AccountResponse s} (h : accountExec dep s w = .ok (w', r)) :
    AccountRely w w' := by
  cases s with
  | email s =>
      exact exec_accountRely h
  | findUserPasswordById id =>
      cases h
      exact .refl w
  | updatePassword userId password =>
      simp only [accountExec] at h
      split at h
      · cases h
      · cases h
        exact ⟨.update (key_setPassword password) fun _ => rfl, .refl _, .refl _, fun _ h => h,
          fun _ h => h⟩

theorem ofEmail_keeps {p : EmailService EmailAnswer}
    (h : KeepsAccount dep past (fun _ _ => True) p w) :
    AccountKeeps dep past ((ofEmail p).bind fun a => ret (.email a)) w := by
  refine Sends.bind (Sends.embed executes_email (fun _ _ h => h) (fun _ _ h => h)
    (fun _ _ _ h => .of_executes executes_email h) (fun _ _ _ => ?_) (fun _ _ _ => ?_) h)
  · exact fun _ _ => trivial
  · trivial

theorem ofAuth_keeps {α : Type} {p : AuthService α} {f : α → AccountService AccountAnswer}
    {Q : Except AuthFailure α → EmailWorld → Prop}
    (h : AuthKeeps dep past Q p w)
    (hf : ∀ a v, Q (.ok a) v → AccountKeeps dep past (f a) v) :
    AccountKeeps dep past ((ofAuth p).bind f) w := by
  refine Sends.bind (Sends.embed executes_auth (fun _ _ h => h) (fun _ _ h => h)
    (fun _ _ _ h => .of_executes executes_auth h) (fun a v ha => ?_) (fun _ _ _ => ?_) h)
  · exact hf a v ha
  · trivial

theorem changePassword_keeps
    {authorization : Option String} {body : ChangePasswordRequestDto} {user : Option JwtClaims}
    (hasked : past.asked (.changePassword authorization body))
    (hclaims : ∀ claims, user = some claims →
      ∃ token, bearerToken authorization = some token ∧ dep.verify token = some claims) :
    AccountKeeps dep past (changePassword dep (user.bind userIdOf) body) w := by
  unfold changePassword
  split_ifs with hconfirm
  · exact fun _ _ => trivial
  split
  · exact fun _ _ => trivial
  · rename_i userId hid
    obtain ⟨claims, rfl, hsub⟩ := Option.bind_eq_some_iff.mp hid
    obtain ⟨token, hbearer, hverify⟩ := hclaims claims rfl
    refine Sends.await_bind (fun _ _ => trivial) (fun _ _ => trivial)
      fun v o v' user _ htaken ho hread => ?_
    have hstep := htaken.step ho hread
    simp only [accountExec, Except.ok.injEq, Prod.mk.injEq] at hread
    obtain ⟨rfl, hfind⟩ := hread
    cases user with
    | none =>
        exact fun _ _ => trivial
    | some user =>
        obtain ⟨u, hu, rfl⟩ := Option.map_eq_some_iff.mp hfind
        have hkey : u.id = userId := Table.find_key hu
        dsimp only
        split_ifs with hcompare
        · exact fun _ _ => trivial
        refine Sends.await_bind (fun _ _ => trivial) (fun _ _ => trivial)
          fun v₁ _ v₁' passwordHash hv₁ _ _ hhash => ?_
        have hv₁ := hv₁.trans (accountExec_rely hhash)
        obtain ⟨salt, rfl⟩ : ∃ salt, passwordHash = dep.bcryptHash salt body.newPassword := by
          cases hhash
          exact ⟨_, rfl⟩
        refine Sends.await_bind (fun z hz => ?_) (fun _ _ => trivial)
          fun _ _ _ _ _ _ _ _ _ _ => trivial
        have hz := hv₁.trans hz
        obtain ⟨u', hu', hsame⟩ := hz.users userId u hu
        refine ⟨u', hu', .changed hasked (not_not.mp hconfirm) hbearer hverify hsub
          ⟨v, _, hstep, by rwa [hkey]⟩ hkey hsame.symm ?_ (by simpa using hcompare)⟩
        rw [hsame, ← hkey]
        exact (htaken.1.password u (Table.find_mem hu)).mono hz

theorem accountHandler_keeps {r : AccountRequest} (hasked : past.asked r) :
    AccountKeeps dep past (accountHandler dep r) w := by
  cases r with
  | email r =>
      refine ofEmail_keeps ?_
      cases r with
      | register body userAgent ip originUrl guestSessionId =>
          exact register_account hasked
      | verifyEmail token =>
          exact verifyEmail_account hasked
      | resendEmail email =>
          exact resendEmail_account email
      | forgotPassword email =>
          exact forgotPassword_account email
      | validateResetPasswordToken token =>
          exact account_of_all (validateResetPasswordToken_unasked token) fun _ _ => trivial
      | resetPassword body =>
          exact resetPassword_account hasked
  | auth r =>
      refine ofAuth_keeps (Q := fun _ _ => True) ?_ fun _ _ _ _ _ => trivial
      cases r with
      | login body userAgent ip =>
          exact login_account hasked
      | refresh header userAgent =>
          exact auth_of_all ((refreshGuard_noSession header).bind fun session =>
            refreshToken_noSession _ _ _) fun _ _ => trivial
      | logout authorization refreshToken =>
          exact auth_of_all ((authGuard_noSession _ _).bind fun _ => logout_noSession _ _)
            fun _ _ => trivial
      | route route authorization guestSessionId =>
          refine auth_of_all ((authGuard_noSession _ _).bind fun user => ?_) fun _ _ => trivial
          split_ifs
          · exact (shopperSessionGuard_noSession _ _ _).bind fun _ => trivial
          · trivial
  | changePassword authorization body =>
      exact ofAuth_keeps (authGuard_account authorization) fun user v huser =>
        changePassword_keeps hasked fun claims hclaims => huser claims (by rw [hclaims])

/-! ### Steps -/

variable (past) in
/-- A request that arrives is one of those asked. -/
def Arrives : AccountEvent → Prop
  | .arrive r => past.asked r
  | _ => True

variable (dep past) in
/-- A step of the run -/
def StepOf (c : AccountState) (a : Action AccountEvent) : Prop :=
  (∀ event, a = .env event → Arrives past event) ∧
    ∀ c', (accountServer dep).step c a = some c' → past.step c.world c'.world

variable (dep past) in
/-- What every state of a run meets -/
structure Guarded (c : AccountState) : Prop where
  sends : AllSend (accountServer dep) (accountPromise dep past)
    (fun _ => Taken dep past (accountExec dep) .database) c
  inv : AccountInv dep past c.world

/-- The tables that the invariant is about are the same. -/
structure SameAccounts (w v : EmailWorld) : Prop where
  users : v.auth.users = w.auth.users
  sessions : v.auth.sessions = w.auth.sessions
  keys : v.auth.keys = w.auth.keys
  codes : v.codes = w.codes
  outbox : v.outbox = w.outbox
  jobs : v.jobs = w.jobs
  mails : v.mails = w.mails
  tokens : v.history.tokens = w.history.tokens
  bundles : v.history.bundles = w.history.bundles

theorem SameAccounts.rely (h : SameAccounts w v) : AccountRely w v where
  users := h.users ▸ .refl _
  codes := h.codes ▸ .refl _
  outbox := h.outbox ▸ .refl _
  tokens := fun x hx => by rwa [h.tokens]
  bundles := fun x hx => by rwa [h.bundles]

theorem AccountInv.of_same
    (hinv : AccountInv dep past w) (h : SameAccounts w v) :
    AccountInv dep past v where
  password := by
    rw [h.users]
    exact fun u hu => (hinv.password u hu).mono h.rely
  verified := by
    rw [h.users]
    exact fun u hu hverified => (hinv.verified u hu hverified).mono h.rely
  session := by
    rw [h.sessions]
    exact fun s hs => (hinv.session s hs).imp_right fun ho => ho.mono h.rely
  apart := by
    unfold AddressesApart
    rw [h.users]
    exact hinv.apart
  code := by
    rw [h.codes, h.users]
    exact hinv.code
  hashed := by
    rw [h.codes, h.tokens]
    exact hinv.hashed
  drawn := by
    rw [h.tokens, h.keys]
    exact hinv.drawn
  bundled := by
    rw [h.bundles, h.outbox, h.codes]
    exact hinv.bundled
  job := by
    rw [h.jobs, h.bundles]
    exact hinv.job
  mail := by
    rw [h.mails]
    intro m hm token htoken
    obtain ⟨type, hdrawn⟩ := hinv.mail m hm token htoken
    exact ⟨type, hdrawn.mono h.rely⟩

theorem AccountInv.pass (h : AccountInv dep past w) (ms : Nat) :
    AccountInv dep past (w.pass ms) :=
  h.of_same ⟨rfl, rfl, rfl, rfl, rfl, rfl, rfl, rfl, rfl⟩

theorem accountServer_env
    {event : AccountEvent} {p : Option (AccountService AccountAnswer)}
    (h : (accountServer dep).env event w = some (w', p)) :
    w' = w ∨ ∃ ms, w' = w.pass ms := by
  cases event with
  | arrive r =>
      cases h
      exact .inl rfl
  | work n =>
      obtain ⟨job, -, hw⟩ := Option.map_eq_some_iff.mp h
      cases hw
      exact .inl rfl
  | tick ms =>
      cases h
      exact .inr ⟨ms, rfl⟩

/-- A handler that the environment starts -/
theorem accountServer_env_keeps
    {event : AccountEvent} {p : AccountService AccountAnswer}
    (harrives : Arrives past event)
    (hinv : AccountInv dep past w)
    (h : (accountServer dep).env event w = some (w', some p)) :
    AccountKeeps dep past p w' := by
  cases event with
  | arrive r =>
      cases h
      exact accountHandler_keeps harrives
  | work n =>
      obtain ⟨job, hjob, hw⟩ := Option.map_eq_some_iff.mp h
      cases hw
      exact ofEmail_keeps (process_account fun k originUrl hdata =>
        hinv.job job (List.mem_of_getElem? hjob) k originUrl hdata)
  | tick ms =>
      cases h

/-- **One statement** of any handler -/
theorem AccountInv.accountExec
    {s : AccountStmt} {r : AccountResponse s}
    (hinv : AccountInv dep past w)
    (hsends : (accountPromise dep past).sends w s)
    (hstep : past.step w w')
    (h : accountExec dep s w = .ok (w', r)) :
    AccountInv dep past w' := by
  cases s with
  | email s =>
      exact hinv.exec hsends (fun _ _ _ => hstep) h
  | findUserPasswordById id =>
      cases h
      exact hinv
  | updatePassword userId password =>
      -- as for a password that is reset, but for the bookkeeping
      obtain ⟨u, hu, hfrom⟩ := hsends
      obtain ⟨w₁, hexec⟩ : ∃ w₁, emailExec dep (.updatePassword userId password "" 0) w =
          .ok (w₁, ()) := by
        simp only [emailExec, hu]
        exact ⟨_, rfl⟩
      have hinv₁ : AccountInv dep past w₁ :=
        hinv.exec (s := .updatePassword userId password "" 0) ⟨u, hu, hfrom⟩ (by simp) hexec
      simp only [emailExec, hu, Except.ok.injEq, Prod.mk.injEq, and_true] at hexec
      simp only [Account.accountExec, hu, Except.ok.injEq, Prod.mk.injEq] at h
      obtain ⟨rfl, -⟩ := h
      subst hexec
      exact hinv₁.of_same ⟨rfl, rfl, rfl, rfl, rfl, rfl, rfl, rfl, rfl⟩

theorem step_accountRely (hstep : (accountServer dep).step c a = some c') :
    AccountRely c.world c'.world := by
  refine System.step_world (accountServer dep) .refl (fun event w w' p hp => ?_)
    (fun _ _ _ _ h => accountExec_rely h) hstep
  rcases accountServer_env hp with hw | ⟨ms, hw⟩ <;> rw [hw]
  · exact .refl _
  · exact ⟨.refl _, .refl _, .refl _, fun _ h => h, fun _ h => h⟩

/-- **One step** -/
theorem guarded_step
    (hof : StepOf dep past c a)
    (hc : Guarded dep past c)
    (hstep : (accountServer dep).step c a = some c') :
    Guarded dep past c' := by
  have htaken : ∀ i j o s, a = .run i j o → System.nextStatement c i = some s →
      Taken dep past (accountExec dep) .database c.world s o := by
    rintro i j o s rfl hs
    have hworld := hof.2 c' hstep
    rcases System.step_run_world (accountServer dep) hstep with ⟨s', hs', hw⟩ | ⟨hnone, -⟩
    · rw [hs, Option.some.injEq] at hs'
      subst hs'
      rw [hw] at hworld
      exact ⟨hc.inv, hworld⟩
    · rw [hs] at hnone
      cases hnone
  refine ⟨sends_step (fun event w' p i ha hp => ?_) htaken
    (step_accountRely hstep) hc.sends hstep, ?_⟩
  · exact accountServer_env_keeps (hof.1 event ha) hc.inv hp
  cases a with
  | env event =>
      obtain ⟨p, hp⟩ := System.step_env_world (accountServer dep) hstep
      rcases accountServer_env hp with hw | ⟨ms, hw⟩ <;> rw [hw]
      · exact hc.inv
      · exact hc.inv.pass ms
  | run i j o =>
      rcases System.step_run_world (accountServer dep) hstep with ⟨s, hs, hw⟩ | ⟨-, hw⟩
      · rw [hw]
        refine attempt_cases (motive := fun x => AccountInv dep past x.1)
          (fun _ => hc.inv) fun w' r ho hexec => ?_
        have hinv := hc.inv.accountExec (Sends.next (hc.sends i) hs)
          ((htaken i j o s rfl hs).step ho hexec) hexec
        exact ⟨hinv, hinv⟩
      · rw [hw]
        exact hc.inv

/-! ### Runs -/

theorem guarded_start
    (hw : NoMails past.start) (hapart : AddressesApart dep past.start) :
    Guarded dep past ⟨past.start, []⟩ where
  sends := by
    intro i p hp
    simp at hp
  inv := by
    refine ⟨fun u hu => .start (Table.find_of_mem hu) rfl,
      fun u hu hverified => .inl ⟨u, Table.find_of_mem hu, rfl, hverified⟩,
      fun s hs => .inl ⟨s, Table.find_of_mem hs, rfl⟩, hapart, ?_, ?_, ?_, ?_, ?_, ?_⟩
    · rw [hw.codes]
      exact fun _ h => absurd h List.not_mem_nil
    · rw [hw.codes]
      exact fun _ h => absurd h List.not_mem_nil
    · rw [hw.tokens]
      exact fun _ _ h => absurd h List.not_mem_nil
    · rw [hw.bundles]
      exact fun _ _ h => absurd h List.not_mem_nil
    · rw [hw.jobs]
      exact fun _ h => absurd h List.not_mem_nil
    · rw [hw.mails]
      exact fun _ h => absurd h List.not_mem_nil

variable (dep) in
/-- What the run `as` from `w` says of its requests and its steps -/
def pastOf (w : EmailWorld) (as : List (Action AccountEvent)) : Past where
  asked r := .env (.arrive r) ∈ as
  start := w
  step v v' := ∃ d a d', Occurs (accountServer dep) ⟨w, []⟩ as d a ∧
    (accountServer dep).step d a = some d' ∧ d.world = v ∧ d'.world = v'

theorem guarded_runs
    {as : List (Action AccountEvent)}
    (hw : NoMails w) (hapart : AddressesApart dep w)
    (hrun : runs (accountServer dep).step ⟨w, []⟩ as = some c) :
    Guarded dep (pastOf dep w as) c := by
  refine runs_invariant (G := StepOf dep (pastOf dep w as))
    (fun _ _ _ hd ha hstep => guarded_step ha hd hstep) (guarded_start hw hapart) ?_ hrun
  refine (meets_occurs (⟨w, []⟩ : AccountState) as).mono fun d a hoccurs => ⟨?_, ?_⟩
  · rintro event rfl
    obtain ⟨as₁, as₂, has, -⟩ := hoccurs
    cases event with
    | arrive r =>
        change Action.env (AccountEvent.arrive r) ∈ as
        rw [has]
        exact List.mem_append_right _ List.mem_cons_self
    | work n =>
        trivial
    | tick ms =>
        trivial
  · exact fun d' hstep => ⟨d, a, d', hoccurs, hstep, rfl, rfl⟩

/-- A token that was drawn for an address is in no mail to another one. -/
theorem AccountInv.mailed_to
    (hinv : AccountInv dep past w)
    {type : VerificationType} {email token : String}
    (hdrawn : DrawnFor dep w type email token)
    {m : Mail} (hm : m ∈ w.mails) (htoken : mailToken m = some token) :
    m.toEmail = email := by
  obtain ⟨n, k, code, hn, hk, hcode, -, hemail⟩ := hdrawn
  obtain ⟨type', n', k', code', hn', hk', hcode', -, hemail'⟩ := hinv.mail m hm token htoken
  have heq : n' = n := dep.randomKey_injective (hn'.symm.trans hn)
  subst heq
  have hsame : k' = k := (hinv.drawn n' k hk).2 k' hk'
  subst hsame
  rw [hcode] at hcode'
  obtain rfl := Option.some.inj hcode'
  exact Option.some.inj (hemail'.symm.trans hemail)

variable (dep) in
/--
In every run from a state without mails, the password of every user goes back to the requests of
`PasswordFrom` and a verified address to a token that was drawn for it, and no such token is in a
mail to another address.
-/
theorem account_runs
    {as : List (Action AccountEvent)}
    (hw : NoMails w) (hapart : AddressesApart dep w)
    (hrun : runs (accountServer dep).step ⟨w, []⟩ as = some c) :
    (∀ u, u ∈ c.world.auth.users.rows →
      PasswordFrom dep (pastOf dep w as) c.world u.id u.email u.password ∧
        (u.isEmailVerified = true → VerifiedBy dep (pastOf dep w as) c.world u.id u.email)) ∧
      ∀ type email token, DrawnFor dep c.world type email token →
        ∀ m, m ∈ c.world.mails → mailToken m = some token → m.toEmail = email := by
  have hinv := (guarded_runs hw hapart hrun).inv
  exact ⟨fun u hu => ⟨hinv.password u hu, hinv.verified u hu⟩,
    fun _ _ _ hdrawn _ hm htoken => hinv.mailed_to hdrawn hm htoken⟩

/-! ### A run

Somebody registers.  Then a user verifies the address, logs in and changes the password. -/

/-- Handler `i` takes `n` steps without failure. -/
def accountSteps (i n : Nat) : List (Action AccountEvent) :=
  List.replicate n (.run i 0 .ok)

def sampleAccountRun : List (Action AccountEvent) :=
  .env (.arrive (.email (.register ⟨"b", "p", "p"⟩ "agent" "127.0.0.1" "" none))) ::
      accountSteps 0 17 ++
    .env (.arrive (.email (.resendEmail "a"))) :: accountSteps 1 15 ++
    .env (.work 1) :: accountSteps 2 6 ++
    .env (.arrive (.email (.verifyEmail "kkk"))) :: accountSteps 3 4 ++
    .env (.arrive (.auth (.login ⟨"a", "secret", "device"⟩ "agent" "127.0.0.1"))) ::
      accountSteps 4 13 ++
    .env (.arrive (.changePassword (some "Bearer jwt") ⟨"secret", "secret2", "secret2"⟩)) ::
      accountSteps 5 5

theorem sampleEmailWorld_apart : AddressesApart sampleEmail sampleEmailWorld := by
  unfold AddressesApart
  decide

set_option maxRecDepth 4000 in
theorem sampleAccountRun_ends :
    (runs (accountServer sampleEmail).step ⟨sampleEmailWorld, []⟩ sampleAccountRun).any
      (fun c => c.world.auth.users.rows.any (fun u =>
          decide (u.password = "secret2") && u.isEmailVerified) &&
        c.world.auth.sessions.rows.any (fun s => decide (s.userId = 1)) &&
        c.world.auth.sessions.rows.any fun s => decide (s.userId = 2)) = true := by
  decide +kernel

theorem account_runs_sampleAccountRun :
    ∃ c u, runs (accountServer sampleEmail).step ⟨sampleEmailWorld, []⟩ sampleAccountRun = some c ∧
      u ∈ c.world.auth.users.rows ∧ u.password = "secret2" ∧
      PasswordFrom sampleEmail (pastOf sampleEmail sampleEmailWorld sampleAccountRun) c.world u.id
        u.email "secret2" ∧
      VerifiedBy sampleEmail (pastOf sampleEmail sampleEmailWorld sampleAccountRun) c.world u.id
        u.email := by
  obtain ⟨c, hc, hend⟩ := Option.any_eq_true _ _ |>.mp sampleAccountRun_ends
  simp only [Bool.and_eq_true] at hend
  obtain ⟨u, hu, hmeets⟩ := List.any_eq_true.mp hend.1.1
  obtain ⟨hpassword, hverified⟩ := Bool.and_eq_true_iff.mp hmeets
  have hpassword := of_decide_eq_true hpassword
  obtain ⟨hfrom, hby⟩ :=
    (account_runs sampleEmail sampleEmailWorld_noMails sampleEmailWorld_apart hc).1 u hu
  rw [hpassword] at hfrom
  exact ⟨c, u, hc, hu, hpassword, hfrom, hby hverified⟩

variable (dep) in
/--
In every run from a state without mails, a session was there before, or it was opened for a
request that made its user, or that presented the password of its user.
-/
theorem sessions_runs
    {as : List (Action AccountEvent)}
    (hw : NoMails w) (hapart : AddressesApart dep w)
    (hrun : runs (accountServer dep).step ⟨w, []⟩ as = some c) :
    ∀ s, s ∈ c.world.auth.sessions.rows →
      (∃ s₀, w.auth.sessions.find s.id = some s₀ ∧ s₀.userId = s.userId) ∨
        Opened dep (pastOf dep w as) c.world s.userId s.ip s.deviceId :=
  (guarded_runs hw hapart hrun).inv.session

/-- A session of the user who has registered, and one of the user who has logged in -/
theorem sessions_runs_sampleAccountRun :
    ∃ c s t, runs (accountServer sampleEmail).step ⟨sampleEmailWorld, []⟩ sampleAccountRun =
        some c ∧
      s ∈ c.world.auth.sessions.rows ∧ s.userId = 2 ∧
      Opened sampleEmail (pastOf sampleEmail sampleEmailWorld sampleAccountRun) c.world s.userId
        s.ip s.deviceId ∧
      t ∈ c.world.auth.sessions.rows ∧ t.userId = 1 ∧
      Opened sampleEmail (pastOf sampleEmail sampleEmailWorld sampleAccountRun) c.world t.userId
        t.ip t.deviceId := by
  obtain ⟨c, hc, hend⟩ := Option.any_eq_true _ _ |>.mp sampleAccountRun_ends
  simp only [Bool.and_eq_true] at hend
  obtain ⟨t, ht, htuser⟩ := List.any_eq_true.mp hend.1.2
  obtain ⟨s, hs, hsuser⟩ := List.any_eq_true.mp hend.2
  have hopened : ∀ s, s ∈ c.world.auth.sessions.rows →
      Opened sampleEmail (pastOf sampleEmail sampleEmailWorld sampleAccountRun) c.world s.userId
        s.ip s.deviceId := by
    intro s hs
    rcases sessions_runs sampleEmail sampleEmailWorld_noMails sampleEmailWorld_apart hc s hs with
      ⟨s₀, hs₀, -⟩ | hopened
    · cases hs₀
    · exact hopened
  exact ⟨c, s, t, hc, hs, of_decide_eq_true hsuser, hopened s hs, ht, of_decide_eq_true htuser,
    hopened t ht⟩

end Account
end BookStore
