import BookStore.Account.Provenance

/-!
# Accounts: what the requests promise

What the statements of the handlers meet.

* `accountPromise` is what the handlers promise.  `Taken` may be assumed of their statements: they
  are executed under `AccountInv`, and their executions are steps of the run.
* `KeepsAccount` and `AuthKeeps` say so of the functions of `Email.Services` and `Auth.Services`.
* `register_account`, `resetPassword_account`, `process_account` and `login_account` are those that
  something is asked of.
-/

namespace BookStore
namespace Account

open Async Program Email

variable (dep : EmailDeployment) (past : Past)

def emailPromise : Promise EmailStmt EmailWorld where
  rely := AccountRely
  rely_refl := .refl
  rely_trans := fun _ _ _ => .trans
  sends := Asks dep past

def accountPromise : Promise AccountStmt EmailWorld where
  rely := AccountRely
  rely_refl := .refl
  rely_trans := fun _ _ _ => .trans
  sends := fun w s =>
    match s with
    | .email s => Asks dep past w s
    | .findUserPasswordById _ => True
    | .updatePassword userId password => ∃ u, w.auth.users.find userId = some u ∧
        PasswordFrom dep past w userId u.email password

/-- The statement is executed under the invariant, and this is a step of the run. -/
def Taken {S : Type} {R : S → Type} {E : Type}
    (exec : (s : S) → EmailWorld → Except E (EmailWorld × R s)) (fault : E)
    (v : EmailWorld) (s : S) (o : Outcome) : Prop :=
  AccountInv dep past v ∧ past.step v (attempt exec fault s o v).1

/-- The handler keeps the promise, where its statements are executed under the invariant. -/
abbrev KeepsAccount {α : Type} (Q : Except EmailFailure α → EmailWorld → Prop)
    (p : EmailService α) (w : EmailWorld) : Prop :=
  Sends (emailPromise dep past) (Taken dep past (emailExec dep) .database)
    (emailExec dep) .database Q p w

/-- Nothing is asked of the statement. -/
def Unasked (s : EmailStmt) : Prop :=
  match s with
  | .auth (.createUserSession _) => False
  | .createUser _ _ => False
  | .markEmailVerified _ => False
  | .updatePassword _ _ _ _ => False
  | .createVerifyCationCode _ _ _ _ => False
  | .createOutboxEmail _ _ _ => False
  | .updateCodeHash _ _ _ => False
  | .add _ => False
  | .sendMail _ => False
  | _ => True

variable {dep past} {w w' v : EmailWorld}

theorem Taken.step {S : Type} {R : S → Type} {E : Type}
    {exec : (s : S) → EmailWorld → Except E (EmailWorld × R s)} {fault : E}
    {s : S} {o : Outcome} {r : R s}
    (h : Taken dep past exec fault w s o) (ho : o ≠ .fail) (hexec : exec s w = .ok (w', r)) :
    past.step w w' := by
  have hstep := h.2
  rwa [attempt_fst ho hexec] at hstep

theorem Taken.of_executes {S S' : Type} {R : S → Type} {R' : S' → Type} {E E' : Type}
    {f : S → S'} {back : (s : S) → Except E' (R' (f s)) → Except E (R s)}
    {exec : (s : S) → EmailWorld → Except E (EmailWorld × R s)} {fault : E}
    {exec' : (s : S') → EmailWorld → Except E' (EmailWorld × R' s)} {fault' : E'}
    (hexec : Executes f back exec fault exec' fault') {s : S} {o : Outcome}
    (h : Taken dep past exec' fault' w (f s) o) :
    Taken dep past exec fault w s o :=
  ⟨h.1, (hexec.attempt s o w).1 ▸ h.2⟩

theorem asks_of_unasked {s : EmailStmt} (hs : Unasked s) (v : EmailWorld) :
    Asks dep past v s := by
  cases s with
  | auth s =>
      cases s <;> trivial
  | _ =>
      trivial

theorem attempt_accountRely (s : EmailStmt) (w : EmailWorld) (o : Outcome) :
    AccountRely w (attempt (emailExec dep) .database s o w).1 :=
  attempt_of_exec .refl (fun _ _ h => exec_accountRely h) o

section Rules

variable {α β : Type} {Q : Except EmailFailure β → EmailWorld → Prop}

/-- A part of a handler of whose statements nothing is asked, then the rest -/
theorem account_bind_all
    {p : EmailService α} {f : α → EmailService β}
    (h : p.All Unasked)
    (herror : ∀ e v, Q (.error e) v)
    (hf : ∀ x v, AccountRely w v → KeepsAccount dep past Q (f x) v) :
    KeepsAccount dep past Q (p.bind f) w :=
  Sends.bind_all attempt_accountRely (h.mono fun _ hs v => asks_of_unasked hs v) herror hf

/-- A part whose statements need what lasts, then the rest -/
theorem account_bind_lasting
    {p : EmailService α} {f : α → EmailService β}
    (h : p.All fun s => ∀ v, AccountRely w v → Asks dep past v s)
    (herror : ∀ e v, Q (.error e) v)
    (hf : ∀ x v, AccountRely w v → KeepsAccount dep past Q (f x) v) :
    KeepsAccount dep past Q (p.bind f) w := by
  refine Sends.bind (Sends.of_all (K := AccountRely w) (fun _ _ hv hv' => hv.trans hv')
    attempt_accountRely h (fun x v hv => ?_) (.refl w))
  cases x with
  | ok a =>
      exact hf a v hv
  | error e =>
      exact herror e v

theorem account_of_all
    {p : EmailService β} (h : p.All Unasked) (hQ : ∀ x v, Q x v) :
    KeepsAccount dep past Q p w :=
  Sends.of_all (K := fun _ => True) (fun _ _ _ _ => trivial) attempt_accountRely
    (h.mono fun _ hs v _ => asks_of_unasked hs v) (fun x v _ => hQ x v) trivial

/-- A statement of which nothing is asked, and what it answers under the invariant -/
theorem account_await_bind
    {s : EmailStmt} {f : EmailResponse s → EmailService β}
    (hs : Unasked s)
    (herror : ∀ e v, Q (.error e) v)
    (hf : ∀ v v' r, AccountRely w v → AccountInv dep past v →
      emailExec dep s v = .ok (v', r) → AccountRely w v' →
      KeepsAccount dep past Q (f r) v') :
    KeepsAccount dep past Q ((await s).bind f) w :=
  Sends.await_bind (fun v _ => asks_of_unasked hs v) herror
    fun v _ v' r hv htaken _ h => hf v v' r hv htaken.1 h (hv.trans (exec_accountRely h))

end Rules

/-! ### The functions of `Email.Services` -/

/-- The user has the address. -/
def UserAt (w : EmailWorld) (userId : Nat) (email : String) : Prop :=
  ∃ u, w.auth.users.find userId = some u ∧ u.email = email

theorem UserAt.mono {userId : Nat} {email : String}
    (h : UserAt w userId email) (hrely : AccountRely w v) :
    UserAt v userId email := by
  obtain ⟨u, hu, hemail⟩ := h
  obtain ⟨u', hu', hsame⟩ := hrely.users userId u hu
  exact ⟨u', hu', hsame.trans hemail⟩

section Handlers

variable {Q : Except EmailFailure EmailAnswer → EmailWorld → Prop}

theorem newDate_unasked : newDate.All Unasked :=
  All.await trivial

theorem signVerifyCode_unasked : signVerifyCode.All Unasked :=
  newDate_unasked.bind fun _ => trivial

theorem signTokenPair_unasked (payload : JwtPayload) :
    (Email.signTokenPair payload).All Unasked :=
  (All.await trivial).bind fun _ => (All.await trivial).bind fun _ => trivial

/-- A code of the user, the row of its mail, and the job of the row -/
theorem createVerification_account
    {type : VerificationType} {templateKey : TemplateKey} {userId expiresAt : Nat}
    {email : String} {originUrl : Option String} {f : Unit → EmailService EmailAnswer}
    (huser : UserAt w userId email)
    (herror : ∀ e v, Q (.error e) v)
    (hf : ∀ v, KeepsAccount dep past Q (f ()) v) :
    KeepsAccount dep past Q
      ((createVerification type templateKey userId email expiresAt).bind fun bundle =>
        (enqueueOutboxEmail bundle.2.id bundle.1.id originUrl).bind f) w := by
  simp only [createVerification, bind_eq_bind, Program.bind_assoc, bind_ret]
  refine Sends.await_bind (fun v hv => huser.mono hv) herror
    fun v _ v' record _ _ _ hcreate => ?_
  have hcode : ∃ c, v'.codes.find record.id = some c ∧ c.email = some email := by
    simp only [emailExec] at hcreate
    split at hcreate
    · cases hcreate
    · cases hcreate
      exact ⟨_, by rw [Table.find_insert]; exact if_pos rfl, rfl⟩
  have hlasts : ∀ u, AccountRely v' u →
      ∃ c, u.codes.find record.id = some c ∧ c.email = some email := by
    intro u hu
    obtain ⟨c, hc, hemail⟩ := hcode
    obtain ⟨c', hc', hsame⟩ := hu.codes _ c hc
    rw [Prod.mk.injEq, Prod.mk.injEq] at hsame
    exact ⟨c', hc', hsame.2.1.trans hemail⟩
  refine Sends.await_bind (fun u hu => hlasts u hu) herror
    fun u _ u' outbox _ _ _ hinsert => ?_
  have hbundle : (outbox.id, record.id) ∈ u'.history.bundles := by
    cases hinsert
    exact List.mem_append_right _ (List.mem_singleton_self _)
  refine Sends.await_bind (fun z hz k originUrl hdata => ?_) herror
    fun _ _ z' _ _ _ _ _ => hf z'
  cases hdata
  exact hz.bundles _ hbundle

theorem sendRegisterVerification_account
    {user : AuthMe} {originUrl : Option String} {f : Unit → EmailService EmailAnswer}
    (huser : UserAt w user.id user.email)
    (herror : ∀ e v, Q (.error e) v)
    (hf : ∀ v, KeepsAccount dep past Q (f ()) v) :
    KeepsAccount dep past Q ((sendRegisterVerification user originUrl).bind f) w := by
  simp only [sendRegisterVerification, bind_eq_bind, Program.bind_assoc]
  exact account_bind_all signVerifyCode_unasked herror fun expiresAt v hv =>
    createVerification_account (huser.mono hv) herror hf

/-- A user that was found has the address that the row says. -/
theorem userAt_of_find {email : String} {user : AuthMe}
    (h : emailExec dep (.findUserByEmail email) w = .ok (w', some user)) :
    UserAt w' user.id user.email := by
  simp only [emailExec, Except.ok.injEq, Prod.mk.injEq] at h
  obtain ⟨rfl, hfind⟩ := h
  obtain ⟨row, hrow, rfl⟩ := Option.map_eq_some_iff.mp hfind
  exact ⟨row, Table.find_of_mem (Table.findFirst_eq_some hrow).1, rfl⟩

theorem openAccount_account
    {userId roleId : Nat} {refreshToken userAgent ip : String}
    {f : Unit → EmailService EmailAnswer}
    (hopened : Opened dep past w userId (some ip) none)
    (herror : ∀ e v, Q (.error e) v)
    (hf : ∀ v, AccountRely w v → KeepsAccount dep past Q (f ()) v) :
    KeepsAccount dep past Q
      ((openAccount dep userId roleId refreshToken userAgent ip).bind f) w := by
  unfold openAccount
  rw [bind_eq_bind, Program.bind_assoc]
  refine account_bind_all newDate_unasked herror fun now v hv => ?_
  refine account_bind_lasting (All.promiseAll fun s hs v' hv' => ?_) herror
    fun _ v' hv' => hf v' (hv.trans hv')
  simp only [List.mem_cons, List.not_mem_nil, or_false] at hs
  rcases hs with rfl | rfl | rfl
  · trivial
  · trivial
  · exact hopened.mono (hv.trans hv')

/-- The session is opened for the row that the request has made. -/
theorem register_account
    {body : RegisterRequestDto} {userAgent ip originUrl : String}
    {guestSessionId : Option String}
    (hasked : past.asked (.email (.register body userAgent ip originUrl guestSessionId))) :
    KeepsAccount dep past (fun _ _ => True)
      (register dep body userAgent ip originUrl guestSessionId) w := by
  unfold register
  split_ifs with hconfirm
  · exact fun _ _ => trivial
  have hconfirm := not_not.mp hconfirm
  refine account_await_bind trivial (fun _ _ => trivial) fun v v' existsEmail _ _ _ _ => ?_
  split_ifs
  · exact fun _ _ => trivial
  refine account_await_bind trivial (fun _ _ => trivial) fun v v' passwordHash _ _ hhash _ => ?_
  obtain ⟨salt, hsalt⟩ : ∃ salt, passwordHash = dep.bcryptHash salt body.password := by
    cases hhash
    exact ⟨_, rfl⟩
  refine Sends.await_bind (fun _ _ => ⟨body, userAgent, ip, originUrl, guestSessionId, salt,
    hasked, hconfirm, rfl, hsalt⟩) (fun _ _ => trivial)
    fun v o v' user _ htaken ho hcreate => ?_
  obtain ⟨haddress, hfree, hmade, rfl⟩ := exec_createUser hcreate
  have hregistered : Registered dep past body ip
      (newUser body.email passwordHash v.auth.users.next) :=
    { asked := ⟨userAgent, originUrl, guestSessionId, hasked⟩
      confirmed := hconfirm
      made := ⟨v, v', htaken.step ho hcreate, haddress, hfree, hmade⟩
      email := rfl
      password := ⟨salt, hsalt⟩
      unverified := rfl }
  have huser : UserAt v' v.auth.users.next body.email := ⟨_, hmade, rfl⟩
  refine account_bind_all (signTokenPair_unasked _) (fun _ _ => trivial)
    fun signature v₁ hv₁ => ?_
  refine account_await_bind trivial (fun _ _ => trivial) fun v₂ v₂' role _ _ _ hv₂ => ?_
  have hv₂ := hv₁.trans hv₂
  cases role with
  | none =>
      exact fun _ _ => trivial
  | some role =>
      refine openAccount_account (.registered hregistered rfl) (fun _ _ => trivial)
        fun v₃ hv₃ => ?_
      refine sendRegisterVerification_account (huser.mono (hv₂.trans hv₃))
        (fun _ _ => trivial) fun v₄ => ?_
      cases truthy guestSessionId with
      | none =>
          exact fun _ _ => trivial
      | some guestSessionId =>
          exact account_await_bind trivial (fun _ _ => trivial) fun _ _ _ _ _ _ _ _ _ => trivial

/-- The code that a token finds, and its user -/
theorem AccountInv.code_of_token
    {c : VerificationCode} {token : String}
    (hinv : AccountInv dep past w)
    (hc : c ∈ w.codes.rows) (hhash : c.codeHash = some (dep.hashToken token)) :
    ∃ userId u, c.userId = some userId ∧ w.auth.users.find userId = some u ∧
      c.email = some u.email ∧ DrawnFor dep w c.type u.email token := by
  obtain ⟨userId, u, hid, hu, hemail⟩ := hinv.code c hc
  obtain ⟨n, hn, heq⟩ := hinv.hashed c hc _ hhash
  exact ⟨userId, u, hid, hu, hemail, n, c.id, c, dep.hashToken_injective heq, hn,
    Table.find_of_mem hc, rfl, hemail⟩

theorem verifyEmail_account
    {token : String}
    (hasked : past.asked (.email (.verifyEmail token))) :
    KeepsAccount dep past (fun _ _ => True) (verifyEmail dep token) w := by
  refine account_await_bind trivial (fun _ _ => trivial) fun v v' verification _ hinv hread hv => ?_
  simp only [emailExec, Except.ok.injEq, Prod.mk.injEq] at hread
  obtain ⟨rfl, hfind⟩ := hread
  cases verification with
  | none =>
      exact fun _ _ => trivial
  | some verification =>
      obtain ⟨hmem, hmeets⟩ := Table.findFirst_eq_some hfind
      simp only [Bool.and_eq_true, decide_eq_true_eq] at hmeets
      obtain ⟨⟨htype, hhash⟩, -⟩ := hmeets
      obtain ⟨userId, u, hid, hu, -, hdrawn⟩ := hinv.code_of_token hmem hhash
      rw [htype] at hdrawn
      refine account_await_bind trivial (fun _ _ => trivial) fun _ v₁ now _ _ _ hv₁ => ?_
      split_ifs
      · exact account_await_bind trivial (fun _ _ => trivial) fun _ _ _ _ _ _ _ _ _ => trivial
      refine account_await_bind trivial (fun _ _ => trivial) fun _ v₂ _ _ _ _ hv₂ => ?_
      rw [hid]
      dsimp only
      split_ifs
      · exact fun _ _ => trivial
      refine Sends.await_bind (fun z hz => ?_) (fun _ _ => trivial)
        fun _ _ _ _ _ _ _ _ _ _ => trivial
      have hrely := (hv₁.trans hv₂).trans hz
      obtain ⟨u', hu', hsame⟩ := hrely.users userId u hu
      refine ⟨u', hu', .inr ⟨token, hasked, ?_⟩⟩
      rw [hsame]
      exact hdrawn.mono hrely

theorem resendEmail_account (email : String) :
    KeepsAccount dep past (fun _ _ => True) (resendEmail email) w := by
  refine account_await_bind trivial (fun _ _ => trivial) fun v v' user _ _ hread _ => ?_
  cases user with
  | none =>
      exact fun _ _ => trivial
  | some user =>
      have huser := userAt_of_find hread
      dsimp only
      split_ifs
      · exact fun _ _ => trivial
      refine account_await_bind trivial (fun _ _ => trivial) fun _ v₁ today _ _ _ hv₁ => ?_
      refine account_bind_all (All.alongside trivial (All.await trivial)) (fun _ _ => trivial)
        fun recentOtp v₂ hv₂ => ?_
      refine account_await_bind trivial (fun _ _ => trivial) fun _ v₃ now _ _ _ hv₃ => ?_
      split_ifs
      · exact fun _ _ => trivial
      refine account_await_bind trivial (fun _ _ => trivial) fun _ v₄ usedAt _ _ _ hv₄ => ?_
      refine account_bind_all (all_promiseAll_pair trivial trivial) (fun _ _ => trivial)
        fun _ v₅ hv₅ => ?_
      have hrely := (((hv₁.trans hv₂).trans hv₃).trans hv₄).trans hv₅
      exact sendRegisterVerification_account (huser.mono hrely) (fun _ _ => trivial)
        fun _ _ _ => trivial

theorem forgotPassword_account (email : String) :
    KeepsAccount dep past (fun _ _ => True) (forgotPassword email) w := by
  refine account_await_bind trivial (fun _ _ => trivial) fun v v' user _ _ hread _ => ?_
  cases user with
  | none =>
      exact fun _ _ => trivial
  | some user =>
      exact account_bind_all signVerifyCode_unasked (fun _ _ => trivial) fun expiresAt v₁ hv₁ =>
        createVerification_account ((userAt_of_find hread).mono hv₁) (fun _ _ => trivial)
          fun _ _ _ => trivial

theorem validateResetPasswordToken_unasked (token : String) :
    (validateResetPasswordToken dep token).All Unasked := by
  refine (All.await trivial).bind fun verification => ?_
  cases verification with
  | none =>
      trivial
  | some verification =>
      refine newDate_unasked.bind fun now => ?_
      split_ifs
      · exact (All.await trivial).bind fun _ => trivial
      · trivial

/-- The owner of the code is the user with the address, whose password is written. -/
theorem resetPassword_account
    {body : ResetPasswordRequestDto}
    (hasked : past.asked (.email (.resetPassword body))) :
    KeepsAccount dep past (fun _ _ => True) (resetPassword dep body) w := by
  unfold resetPassword
  split_ifs with hconfirm
  · exact fun _ _ => trivial
  have hconfirm := not_not.mp hconfirm
  refine account_await_bind trivial (fun _ _ => trivial) fun v v' verification _ hinv hread _ => ?_
  simp only [emailExec, Except.ok.injEq, Prod.mk.injEq] at hread
  obtain ⟨rfl, hfind⟩ := hread
  cases verification with
  | none =>
      exact fun _ _ => trivial
  | some verification =>
      obtain ⟨hmem, hmeets⟩ := Table.findFirst_eq_some hfind
      simp only [Bool.and_eq_true, decide_eq_true_eq, Option.all_some] at hmeets
      obtain ⟨⟨⟨htype, hhash⟩, hfor⟩, -⟩ := hmeets
      obtain ⟨userId, owner, -, howner, hemail, hdrawn⟩ := hinv.code_of_token hmem hhash
      have hfor : dep.collate owner.email = dep.collate body.email := by
        rw [VerificationCode.isFor, hemail] at hfor
        exact Option.some.inj (of_decide_eq_true hfor)
      rw [htype] at hdrawn
      refine account_await_bind trivial (fun _ _ => trivial) fun _ v₁ now _ _ _ hv₁ => ?_
      split_ifs
      · exact account_await_bind trivial (fun _ _ => trivial) fun _ _ _ _ _ _ _ _ _ => trivial
      refine account_await_bind trivial (fun _ _ => trivial)
        fun v₂ v₂' user _ hinv₂ huser hv₂ => ?_
      simp only [emailExec, authExec, Except.ok.injEq, Prod.mk.injEq] at huser
      obtain ⟨rfl, hfirst⟩ := huser
      cases user with
      | none =>
          exact fun _ _ => trivial
      | some user =>
          have hrely := hv₁.trans hv₂
          obtain ⟨hmem, hmeets⟩ := Table.findFirst_eq_some hfirst
          have hsame : user.email = owner.email := by
            obtain ⟨owner', howner', hkept⟩ := hrely.users userId owner howner
            rw [← hkept, hinv₂.user_of_collate hmem (Table.find_mem howner')]
            rw [hkept, hfor]
            exact of_decide_eq_true hmeets
          refine account_await_bind trivial (fun _ _ => trivial)
            fun v₃ v₃' passwordHash _ _ hhashed hv₃ => ?_
          obtain ⟨salt, rfl⟩ : ∃ salt, passwordHash = dep.bcryptHash salt body.password := by
            cases hhashed
            exact ⟨_, rfl⟩
          refine Sends.await_bind (fun z hz => ?_) (fun _ _ => trivial)
            fun _ _ v₄ _ _ _ _ _ => account_await_bind trivial (fun _ _ => trivial)
              fun _ _ _ _ _ _ _ _ _ => trivial
          have hz := hv₃.trans hz
          obtain ⟨u', hu', hkept⟩ := hz.users _ _ (Table.find_of_mem hmem)
          refine ⟨u', hu', .reset hasked hconfirm ?_ ?_⟩
          · rw [hkept, hsame, hfor]
          · rw [hkept, hsame]
            exact hdrawn.mono (hrely.trans hz)

/-! ### The mail worker -/

theorem sendMail_account
    {mail : Mail} {P : Except EmailFailure Unit → EmailWorld → Prop}
    (hmail : ∀ v, AccountRely w v → ∀ token, mailToken mail = some token →
      ∃ type, DrawnFor dep v type mail.toEmail token)
    (hP : ∀ x v, P x v) :
    KeepsAccount dep past P (emailQuery (.sendMail mail)) w :=
  Sends.await (s := EmailStmt.sendMail mail) hmail hP

/-- The mail of a job goes to the address of the code. -/
theorem handleJob_account
    {job : EmailJob} {r : EmailOutbox} {P : Except EmailFailure Unit → EmailWorld → Prop}
    (hjob : ∀ k originUrl, job.data = .sendEmail k originUrl →
      ∃ c, w.codes.find k = some c ∧ c.email = some r.toEmail)
    (hP : ∀ x v, P x v) :
    KeepsAccount dep past P (handleJob dep job r) w := by
  unfold handleJob
  split
  · rename_i k originUrl hdata
    obtain ⟨c, hc, hemail⟩ := hjob k originUrl hdata
    refine account_await_bind trivial (fun e v => hP _ v) fun v v' token _ _ hdraw hv => ?_
    obtain ⟨n, htoken, hdrawn⟩ : ∃ n, token = dep.randomKey n ∧ (n, k) ∈ v'.history.tokens := by
      cases hdraw
      exact ⟨_, rfl, List.mem_append_right _ (List.mem_singleton_self _)⟩
    have hfor : DrawnFor dep v' c.type r.toEmail token := by
      obtain ⟨c', hc', hsame⟩ := hv.codes k c hc
      rw [Prod.mk.injEq, Prod.mk.injEq] at hsame
      exact ⟨n, k, c', htoken, hdrawn, hc', hsame.2.2, hsame.2.1.trans hemail⟩
    have hlink : ∀ mail : Mail, mail.toEmail = r.toEmail →
        (∀ t, mailToken mail = some t → t = token) →
        KeepsAccount dep past P (sendLink dep r k token mail) v' := by
      intro mail hto hmail
      refine Sends.await_bind (fun u hu => ⟨n, hu.tokens _ hdrawn, by rw [htoken]⟩)
        (fun e v => hP _ v) fun u _ u' _ hu _ _ hhash => ?_
      refine account_await_bind trivial (fun e v => hP _ v) fun z z' _ _ _ _ hz => ?_
      refine sendMail_account (fun y hy t ht => ?_) hP
      rw [hmail t ht, hto]
      exact ⟨c.type, hfor.mono (((hu.trans (exec_accountRely hhash)).trans hz).trans hy)⟩
    split
    · exact hlink _ rfl fun t ht => (Option.some.inj ht).symm
    · exact hlink _ rfl fun t ht => (Option.some.inj ht).symm
    · exact fun v _ => hP _ v
  · split_ifs
    · unfold handleOrderEmail
      split
      · exact fun v _ => hP _ v
      · exact sendMail_account (fun _ _ token htoken => by cases htoken) hP
    · exact fun v _ => hP _ v

theorem process_account
    {job : EmailJob}
    (hjob : ∀ k originUrl, job.data = .sendEmail k originUrl →
      (job.outboxId, k) ∈ w.history.bundles) :
    KeepsAccount dep past (fun _ _ => True) (process dep job) w := by
  refine account_await_bind trivial (fun _ _ => trivial) fun v v' outBox hv hinv hread _ => ?_
  simp only [emailExec, Except.ok.injEq, Prod.mk.injEq] at hread
  obtain ⟨rfl, hfilter⟩ := hread
  cases outBox with
  | none =>
      exact fun _ _ => trivial
  | some r =>
      have hfind := (Option.filter_eq_some_iff.mp hfilter).1
      have hcatch : ∀ e u, KeepsAccount dep past (fun _ _ => True)
          ((emailQuery (.updateByIdEmailStatus r.id .failed)).bind fun _ =>
            (raise e : EmailService EmailAnswer)) u :=
        fun e u => account_await_bind trivial (fun _ _ => trivial) fun _ _ _ _ _ _ _ _ _ => trivial
      refine Sends.tryCatch (Sends.bind (handleJob_account (fun k originUrl hdata => ?_)
        fun x u => ?_))
      · obtain ⟨row, c, hrow, hc, hemail⟩ :=
          hinv.bundled _ _ (hv.bundles _ (hjob k originUrl hdata))
        rw [hfind] at hrow
        obtain rfl := Option.some.inj hrow
        exact ⟨c, hc, hemail⟩
      · cases x with
        | ok a =>
            exact account_await_bind trivial (fun e u => hcatch e u)
              fun _ _ _ _ _ _ _ _ _ => trivial
        | error e =>
            exact hcatch e u

end Handlers

/-! ### The functions of `Auth.Services` -/

/-- A statement of `Auth.Services` in the larger state -/
def authExecIn (dep : EmailDeployment) : (s : AuthStmt) → EmailWorld →
    Except AuthFailure (EmailWorld × AuthResponse s) :=
  fun s w =>
    match authExec dep.toAuthDeployment s w.auth with
    | .ok (auth, r) => .ok ({ w with auth := auth }, r)
    | .error e => .error e

variable (dep past) in
def authPromise : Promise AuthStmt EmailWorld where
  rely := AccountRely
  rely_refl := .refl
  rely_trans := fun _ _ _ => .trans
  sends := fun w s => Asks dep past w (.auth s)

variable (dep past) in
abbrev AuthKeeps {α : Type} (Q : Except AuthFailure α → EmailWorld → Prop)
    (p : AuthService α) (w : EmailWorld) : Prop :=
  Sends (authPromise dep past) (Taken dep past (authExecIn dep) .database)
    (authExecIn dep) .database Q p w

theorem emailExec_of_authExecIn
    {s : AuthStmt} {r : AuthResponse s} (h : authExecIn dep s w = .ok (w', r)) :
    emailExec dep (.auth s) w = .ok (w', r) := by
  unfold authExecIn at h
  cases hexec : authExec dep.toAuthDeployment s w.auth with
  | ok x =>
      rw [hexec] at h
      cases h
      simp only [emailExec, hexec]
  | error e =>
      rw [hexec] at h
      cases h

theorem emailExec_of_authExecIn_error
    {s : AuthStmt} {e : AuthFailure} (h : authExecIn dep s w = .error e) :
    emailExec dep (.auth s) w = .error (.auth e) := by
  unfold authExecIn at h
  cases hexec : authExec dep.toAuthDeployment s w.auth with
  | ok x =>
      rw [hexec] at h
      cases h
  | error e' =>
      rw [hexec] at h
      cases h
      simp only [emailExec, hexec]

theorem executes_auth :
    Executes (fun s => AccountStmt.email (.auth s)) (fun _ x => x.mapError authError)
      (authExecIn dep) AuthFailure.database (accountExec dep) EmailFailure.database where
  ok := fun _ _ _ r h => ⟨r, emailExec_of_authExecIn h, rfl⟩
  error := fun _ _ e h => ⟨.auth e, emailExec_of_authExecIn_error h, rfl⟩
  fault := fun _ => rfl

theorem executes_email :
    Executes AccountStmt.email (fun _ x => x) (emailExec dep) EmailFailure.database
      (accountExec dep) EmailFailure.database where
  ok := fun _ _ _ r h => ⟨r, h, rfl⟩
  error := fun _ _ e h => ⟨e, h, rfl⟩
  fault := fun _ => rfl

/-- No session is opened. -/
def NoSession : AuthStmt → Prop
  | .createUserSession _ => False
  | _ => True

theorem asks_of_noSession {s : AuthStmt} (hs : NoSession s) (v : EmailWorld) :
    Asks dep past v (.auth s) := by
  cases s <;> trivial

theorem authExecIn_rely
    {s : AuthStmt} {r : AuthResponse s} (h : authExecIn dep s w = .ok (w', r)) :
    AccountRely w w' :=
  exec_accountRely (emailExec_of_authExecIn h)

theorem attempt_authRely (s : AuthStmt) (w : EmailWorld) (o : Outcome) :
    AccountRely w (attempt (authExecIn dep) .database s o w).1 :=
  attempt_of_exec .refl (fun _ _ h => authExecIn_rely h) o

section AuthHandlers

variable {α β : Type}

theorem auth_of_all
    {Q : Except AuthFailure α → EmailWorld → Prop} {p : AuthService α}
    (h : p.All NoSession) (hQ : ∀ x v, Q x v) :
    AuthKeeps dep past Q p w :=
  Sends.of_all (K := fun _ => True) (fun _ _ _ _ => trivial) attempt_authRely
    (h.mono fun _ hs v _ => asks_of_noSession hs v) (fun x v _ => hQ x v) trivial

theorem auth_bind_all
    {Q : Except AuthFailure β → EmailWorld → Prop} {p : AuthService α} {f : α → AuthService β}
    (h : p.All NoSession)
    (herror : ∀ e v, Q (.error e) v)
    (hf : ∀ x v, AccountRely w v → AuthKeeps dep past Q (f x) v) :
    AuthKeeps dep past Q (p.bind f) w :=
  Sends.bind_all attempt_authRely (h.mono fun _ hs v => asks_of_noSession hs v) herror hf

theorem authGuard_noSession (route : Route) (authorization : Option String) :
    (authGuard dep.toAuthDeployment route authorization).All NoSession := by
  unfold authGuard
  split
  · trivial
  · split
    · trivial
    · split
      · trivial
      · refine All.tryCatch ((All.await trivial).bind fun payload =>
          (All.await trivial).bind fun isRevoked => ?_) fun _ => trivial
        split <;> trivial

theorem attachGuestSession_noSession (guestSessionId : Option String) :
    (attachGuestSession guestSessionId).All NoSession := by
  unfold attachGuestSession
  cases guestSessionId with
  | none =>
      exact All.await trivial
  | some sessionId =>
      dsimp only
      split
      · exact All.await trivial
      · refine (All.await trivial).bind fun found => ?_
        split
        · trivial
        · exact All.await trivial

theorem shopperSessionGuard_noSession
    (user : Option JwtClaims) (authorization guestSessionId : Option String) :
    (shopperSessionGuard user authorization guestSessionId).All NoSession := by
  refine All.bind ?_ fun user => (attachGuestSession_noSession guestSessionId).bind fun _ => trivial
  unfold verifyShopper
  split
  · trivial
  · split
    · trivial
    · exact All.tryCatch ((All.await trivial).bind fun _ => trivial) fun _ => trivial

theorem getRefreshTokenExpiresAt_noSession :
    (getRefreshTokenExpiresAt dep.toAuthDeployment).All NoSession :=
  (All.await trivial).bind fun _ => trivial

theorem markSessionExpired_noSession (sessionId : Nat) (presented : String) :
    (markSessionExpired sessionId presented).All NoSession :=
  (All.await trivial).bind fun _ => All.await trivial

theorem rotateSession_noSession (sessionId : Nat) (token userAgent presented : String) :
    (rotateSession dep.toAuthDeployment sessionId token userAgent presented).All NoSession :=
  getRefreshTokenExpiresAt_noSession.bind fun _ => All.await trivial

theorem refreshGuard_noSession (header : Option String) :
    (refreshGuard dep.toAuthDeployment header).All NoSession := by
  unfold refreshGuard
  split
  · trivial
  · refine (All.await trivial).bind fun session => ?_
    cases session with
    | none =>
        trivial
    | some session =>
        dsimp only
        split
        · trivial
        · split
          · trivial
          · refine (All.await trivial).bind fun now => ?_
            split
            · exact (markSessionExpired_noSession _ _).bind fun _ => trivial
            · trivial

theorem authTokenPair_noSession (payload : JwtPayload) :
    (BookStore.signTokenPair payload).All NoSession :=
  (All.await trivial).bind fun _ => (All.await trivial).bind fun _ => trivial

theorem refreshToken_noSession (userAgent presented : String) (session : UserSession) :
    (refreshToken dep.toAuthDeployment userAgent presented session).All NoSession := by
  unfold refreshToken
  refine (All.await trivial).bind fun user => ?_
  cases user with
  | none =>
      trivial
  | some user =>
      refine (All.await trivial).bind fun roles => (authTokenPair_noSession _).bind fun signature =>
        (rotateSession_noSession _ _ _ _).bind fun _ => ?_
      trivial

theorem logout_noSession (token accessToken : Option String) :
    (logout dep.toAuthDeployment token accessToken).All NoSession := by
  unfold logout
  split
  · refine All.bind (All.tryCatch (All.await trivial) fun _ => ?_) fun payload => ?_
    · trivial
    split
    · trivial
    · refine (All.alongside trivial ?_).bind fun _ => trivial
      refine (All.await trivial).bind fun session => ?_
      cases session with
      | none =>
          trivial
      | some session =>
          exact (All.await trivial).bind fun _ => All.await trivial
  · trivial

theorem upsertDeviceOnLogin_noSession (userId : Nat) (deviceFingerprint : String) :
    (upsertDeviceOnLogin userId deviceFingerprint).All NoSession := by
  have hcap : (enforceDeviceCap userId).All NoSession := by
    refine (All.await trivial).bind fun activeCount => ?_
    split
    · refine (All.await trivial).bind fun oldest => ?_
      cases oldest with
      | none =>
          trivial
      | some oldest =>
          exact (All.await trivial).bind fun _ => (All.await trivial).bind fun _ => trivial
    · trivial
  refine (All.await trivial).bind fun now => (All.await trivial).bind fun existing => ?_
  cases existing with
  | none =>
      exact hcap.bind fun _ => All.await trivial
  | some existing =>
      dsimp only
      split
      · exact All.await trivial
      · exact hcap.bind fun _ => All.await trivial

/-- A session is opened for the user whose password was presented. -/
theorem login_account
    {body : LoginRequestDto} {userAgent ip : String}
    (hasked : past.asked (.auth (.login body userAgent ip))) :
    AuthKeeps dep past (fun _ _ => True)
      (login dep.toAuthDeployment body userAgent ip) w := by
  have hrefuse : ∀ userId v, AuthKeeps dep past (fun _ _ => True)
      (refuseLogin userId userAgent ip) v := fun userId v =>
    auth_of_all ((All.await trivial).bind fun _ => trivial) fun _ _ => trivial
  unfold login
  refine Sends.await_bind (fun _ _ => trivial) (fun _ _ => trivial)
    fun v o v' user _ htaken ho hread => ?_
  have hstep := htaken.step ho hread
  have hinv := htaken.1
  simp only [authExecIn, authExec, Except.ok.injEq, Prod.mk.injEq] at hread
  obtain ⟨rfl, hfirst⟩ := hread
  cases user with
  | none =>
      exact hrefuse none _
  | some user =>
      obtain ⟨hmem, hmeets⟩ := Table.findFirst_eq_some hfirst
      have hemail : dep.collate user.email = dep.collate body.email := of_decide_eq_true hmeets
      dsimp only
      split_ifs with hcompare
      · exact hrefuse _ _
      have hopened : ∀ deviceId, Opened dep past v user.id (some ip) (some deviceId) :=
        fun deviceId => .loggedIn hasked ⟨v, _, hstep, Table.find_of_mem hmem⟩ rfl hemail
          (hinv.password user hmem) (by simpa using hcompare)
      refine auth_bind_all (All.await trivial) (fun _ _ => trivial) fun roles v₁ hv₁ => ?_
      refine auth_bind_all (authTokenPair_noSession _) (fun _ _ => trivial)
        fun signature v₂ hv₂ => ?_
      refine auth_bind_all (upsertDeviceOnLogin_noSession _ _) (fun _ _ => trivial)
        fun device v₃ hv₃ => ?_
      refine auth_bind_all getRefreshTokenExpiresAt_noSession (fun _ _ => trivial)
        fun expiresAt v₄ hv₄ => ?_
      have hrely := ((hv₁.trans hv₂).trans hv₃).trans hv₄
      refine Sends.bind (Sends.of_all (K := AccountRely v) (fun _ _ hz hz' => hz.trans hz')
        attempt_authRely (All.promiseAll fun s hs z hz => ?_) (fun x z _ => ?_) hrely)
      · rcases List.mem_pair.mp hs with rfl | rfl
        · trivial
        · exact (hopened device.id).mono hz
      · cases x with
        | ok _ =>
            exact fun _ _ => trivial
        | error _ =>
            trivial

/-- The claims of the caller are those of the token in the header. -/
theorem authGuard_account (authorization : Option String) :
    AuthKeeps dep past
      (fun x _ => ∀ claims, x = .ok (some claims) →
        ∃ token, bearerToken authorization = some token ∧ dep.verify token = some claims)
      (authGuard dep.toAuthDeployment ⟨false, false, false⟩ authorization) w := by
  unfold authGuard
  rw [if_neg (by decide)]
  split
  · exact fun _ _ _ h => by cases h
  · rename_i token htoken
    split_ifs
    · exact fun _ _ _ h => by cases h
    refine Sends.tryCatch (Sends.await_bind (fun _ _ => trivial) (fun _ _ => ?_)
      fun v _ v' payload _ _ _ hverify => ?_)
    · exact fun _ _ _ h => by cases h
    have hclaims : dep.verify token = some payload := by
      simp only [authExecIn, authExec] at hverify
      cases hsigned : dep.verify token with
      | none =>
          rw [hsigned] at hverify
          cases hverify
      | some claims =>
          rw [hsigned] at hverify
          dsimp only at hverify
          split at hverify
          · rename_i auth r hread
            split_ifs at hread
            cases hread
            cases hverify
            rfl
          · cases hverify
    refine Sends.await_bind (fun _ _ => trivial) (fun _ _ => ?_) fun _ _ _ isRevoked _ _ _ _ => ?_
    · exact fun _ _ _ h => by cases h
    split_ifs
    · exact fun _ _ _ _ _ h => by cases h
    · intro _ _ claims h
      cases h
      exact ⟨token, htoken, hclaims⟩

end AuthHandlers

end Account
end BookStore
