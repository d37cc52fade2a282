import BookStore.Auth.Services
import BookStore.Schema

/-!
# Verification codes and mails: the statements

The tables `verification_codes` and `email_outbox`, the queue of `EMAIL_QUEUE`, the mail
transport and the repository functions over them.  Users, sessions and tokens are those
of `AuthWorld`, whose statements are statements here.

`EmailHistory` is bookkeeping: it is written along with the statements and read by none of
them.  Arguments of a statement that only serve it are named so.
-/

namespace BookStore
namespace Email

/-- What a service or the worker throws. -/
inductive EmailFailure
  | badRequest (message : String)
  | conflict (message : String)
  | tooManyRequests (message : String)
  /-- `throw new Error(message)` -/
  | error (message : String)
  | auth (e : AuthFailure)
  | database
  deriving DecidableEq

inductive VerificationType
  | register
  | forgotPassword
  | changeEmail
  | changePassword
  deriving DecidableEq

inductive EmailStatus
  | pending
  | sending
  | sent
  | failed
  | cancelled
  deriving DecidableEq

/-- The `templateKey` of a row. -/
inductive TemplateKey
  /-- `OTP_REGISTER_TEMPLATE_KEY` -/
  | otpRegister
  /-- `OTP_FORGOT_PASSWORD_TEMPLATE_KEY` -/
  | otpForgotPassword
  /-- `ORDER_EMAIL` -/
  | orderEmail
  | other (key : Option String)
  deriving DecidableEq

/-- `roles` -/
structure Role where
  id : Nat
  code : String
  name : String
  deriving DecidableEq

/-- `verification_codes` -/
structure VerificationCode where
  id : Nat
  userId : Option Nat
  email : Option String
  type : VerificationType
  codeHash : Option String
  expiresAt : Nat
  usedAt : Option Nat
  deriving DecidableEq

/-- The `payload` of an order mail. -/
structure OrderEmailPayload where
  orderCode : String
  orderId : String
  orderStatus : OrderStatus
  deriving DecidableEq

/-- `email_outbox` -/
structure EmailOutbox where
  id : Nat
  toEmail : String
  templateKey : TemplateKey
  status : EmailStatus
  payload : Option OrderEmailPayload
  createdAt : Nat
  deriving DecidableEq

instance : Keyed VerificationCode := ⟨VerificationCode.id⟩
instance : Keyed EmailOutbox := ⟨EmailOutbox.id⟩

/-- The name of a job and the rest of its data. -/
inductive EmailJobData
  /-- `EMAIL_JOBS.SEND_EMAIL` -/
  | sendEmail (verificationCodeId : Nat) (originUrl : Option String)
  /-- `EMAIL_JOBS.SEND_ORDER_EMAIL` -/
  | sendOrderEmail
  deriving DecidableEq

structure EmailJob where
  outboxId : Nat
  data : EmailJobData
  attempts : Nat
  jobId : String
  deriving DecidableEq

inductive VerifyCodePath
  | verifyEmail
  | forgotPassword
  | resetPassword
  | changeEmail
  deriving DecidableEq

def VerifyCodePath.text : VerifyCodePath → String
  | .verifyEmail => "verify"
  | .forgotPassword => "forgot-password"
  | .resetPassword => "reset-password"
  | .changeEmail => "change-email"

/-- `getTokenParamKey` -/
def getTokenParamKey : VerifyCodePath → String
  | .verifyEmail => "token"
  | .forgotPassword => "forgot-password"
  | .resetPassword => "verify-token"
  | .changeEmail => "change-email"

/-- A link `base/path?key=token`; keys drawn by `randomKey` are encoded as they are. -/
structure Link where
  base : String
  path : String
  key : String
  token : String
  deriving DecidableEq

/-- The template of a mail and the values put into it. -/
inductive MailHtml
  | verifyEmail (link : Link)
  | resetPassword (resetLink : Link) (expireMinutes : Nat)
  | orderSuccess (email : String) (payload : OrderEmailPayload)
  deriving DecidableEq

structure Mail where
  /-- The row that the mail is sent for (bookkeeping). -/
  outboxId : Nat
  toEmail : String
  subject : String
  html : MailHtml
  deriving DecidableEq

/-- The token in the link of a verification mail. -/
def Mail.verifyToken (m : Mail) : Option String :=
  match m.html with
  | .verifyEmail link => some link.token
  | _ => none

/-- Libraries and configuration. -/
structure EmailDeployment extends AuthDeployment where
  /-- `bcrypt.hash(password, 10)` with the salt that is drawn as number `n` -/
  bcryptHash : Nat → String → String

/-- Bookkeeping about the past. -/
structure EmailHistory where
  /-- The keys drawn for mails, by number, with the code they were drawn for. -/
  tokens : List (Nat × Nat)
  /-- The rows of the outbox that go with a code. -/
  bundles : List (Nat × Nat)
  /-- The tokens presented with which a password was changed. -/
  resets : List String

structure EmailWorld where
  auth : AuthWorld
  roles : List Role
  codes : Table VerificationCode
  outbox : Table EmailOutbox
  /-- The jobs that were added to `EMAIL_QUEUE`. -/
  jobs : List EmailJob
  mails : List Mail
  history : EmailHistory

/-! ### Rows -/

/-- The row that `createUser` inserts. -/
def newUser (email password : String) (n : Nat) : User :=
  ⟨n, email, password, false⟩

theorem key_newUser (email password : String) (n : Nat) :
    key (newUser email password n) = n := rfl

def setPassword (password : String) (u : User) : User :=
  { u with password := password }

theorem key_setPassword (password : String) (u : User) :
    key (setPassword password u) = key u := rfl

def setEmailVerified (u : User) : User :=
  { u with isEmailVerified := true }

theorem key_setEmailVerified (u : User) : key (setEmailVerified u) = key u := rfl

/-- The row that `createVerifyCationCode` inserts. -/
def newCode
    (userId : Nat) (email : String) (expiresAt : Nat) (type : VerificationType) (n : Nat) :
    VerificationCode where
  id := n
  userId := some userId
  email := some email
  type := type
  codeHash := none
  expiresAt := expiresAt
  usedAt := none

theorem key_newCode
    (userId : Nat) (email : String) (expiresAt : Nat) (type : VerificationType) (n : Nat) :
    key (newCode userId email expiresAt type n) = n := rfl

def setCodeHash (codeHash : String) (c : VerificationCode) : VerificationCode :=
  { c with codeHash := some codeHash }

theorem key_setCodeHash (codeHash : String) (c : VerificationCode) :
    key (setCodeHash codeHash c) = key c := rfl

def setUsedAt (usedAt : Nat) (c : VerificationCode) : VerificationCode :=
  { c with usedAt := some usedAt }

theorem key_setUsedAt (usedAt : Nat) (c : VerificationCode) :
    key (setUsedAt usedAt c) = key c := rfl

/-- The row that `createOtpRegisterEmail` or `createOtpForgotPasswordEmail` inserts. -/
def newOutbox (toEmail : String) (templateKey : TemplateKey) (createdAt n : Nat) :
    EmailOutbox where
  id := n
  toEmail := toEmail
  templateKey := templateKey
  status := .pending
  payload := none
  createdAt := createdAt

theorem key_newOutbox (toEmail : String) (templateKey : TemplateKey) (createdAt n : Nat) :
    key (newOutbox toEmail templateKey createdAt n) = n := rfl

def setStatus (status : EmailStatus) (r : EmailOutbox) : EmailOutbox :=
  { r with status := status }

theorem key_setStatus (status : EmailStatus) (r : EmailOutbox) :
    key (setStatus status r) = key r := rfl

section Addresses

variable (dep : AuthDeployment)

/-- The code was made for the address. -/
def VerificationCode.isFor (email : String) (c : VerificationCode) : Bool :=
  decide (c.email.map dep.collate = some (dep.collate email))

/-- A registration code of the address that can still be used. -/
def VerificationCode.openFor (email : String) (c : VerificationCode) : Bool :=
  c.isFor dep email && decide (c.type = .register) && c.usedAt.isNone

/-- A registration mail to the address. -/
def EmailOutbox.otpRegisterTo (email : String) (r : EmailOutbox) : Bool :=
  decide (dep.collate r.toEmail = dep.collate email) && decide (r.templateKey = .otpRegister)

end Addresses

/-- `status: { in: [PENDING, SENDING] }` -/
def EmailOutbox.inProgress (r : EmailOutbox) : Bool :=
  decide (r.status = .pending) || decide (r.status = .sending)

/-- The row with the larger `createdAt`; ties keep the first. -/
def laterRow (r s : EmailOutbox) : EmailOutbox :=
  if r.createdAt < s.createdAt then s else r

/-- `orderBy: { createdAt: 'desc' }`, first row -/
def latestRow : List EmailOutbox → Option EmailOutbox
  | [] => none
  | r :: rs => some (rs.foldl laterRow r)

/-! ### The statements -/

inductive EmailStmt
  | auth (s : AuthStmt)
  /-- `bcrypt.hash` -/
  | bcryptHash (password : String)
  -- users
  | existsEmail (email : String)
  | createUser (email password : String)
  | findUserByEmail (email : String)
  | markEmailVerified (userId : Nat)
  /-- `presented` is the reset token of the request, found as a code (bookkeeping). -/
  | updatePassword (userId : Nat) (password presented : String) (verificationCodeId : Nat)
  | findRoleByName (name : String)
  | createUserRole (userId roleId : Nat)
  | convertGuestSessionToUser (guestSessionId : String) (userId : Nat)
  -- verification codes; `outboxId` and `verificationCodeId` of the job are bookkeeping
  | createVerifyCationCode
      (userId : Nat) (email : String) (expiresAt : Nat) (type : VerificationType)
  | randomKey (outboxId verificationCodeId : Nat)
  | updateCodeHash (id : Nat) (codeHash : String) (outboxId : Nat)
  | findActiveRegisterByCodeHash (codeHash : String)
  | findActiveForgotByCodeHash (codeHash : String) (email : Option String)
  | markUsedById (id usedAt : Nat)
  | markAllRegisterUnusedByEmail (email : String) (usedAt : Nat)
  -- the outbox; `verificationCodeId` is the code created along with the row (bookkeeping)
  | createOutboxEmail (toEmail : String) (templateKey : TemplateKey) (verificationCodeId : Nat)
  | findByIdEmailPending (id : Nat)
  | updateByIdEmailStatus (id : Nat) (status : EmailStatus)
  | countOtpRegisterByEmailSince (email : String) (since : Nat)
  | findLatestOtpRegisterByEmailSince (email : String) (since : Nat)
  | cancelOtpRegisterInProgressByEmail (email : String)
  -- the queue and the transport
  | add (job : EmailJob)
  | sendMail (mail : Mail)
  deriving DecidableEq

/-- The answer of a statement. -/
abbrev EmailResponse : EmailStmt → Type
  | .auth s => AuthResponse s
  | .bcryptHash _ => String
  | .existsEmail _ => Bool
  | .createUser _ _ => AuthMe
  | .findUserByEmail _ => Option AuthMe
  | .findRoleByName _ => Option Role
  | .createVerifyCationCode _ _ _ _ => VerificationCode
  | .randomKey _ _ => String
  | .findActiveRegisterByCodeHash _ => Option VerificationCode
  | .findActiveForgotByCodeHash _ _ => Option VerificationCode
  | .createOutboxEmail _ _ _ => EmailOutbox
  | .findByIdEmailPending _ => Option EmailOutbox
  | .countOtpRegisterByEmailSince _ _ => Nat
  | .findLatestOtpRegisterByEmailSince _ _ => Option EmailOutbox
  | _ => Unit

section Exec

variable (dep : EmailDeployment)

/-- The registration mails to the address since an instant. -/
def EmailWorld.otpRegisterSince (w : EmailWorld) (email : String) (since : Nat) :
    List EmailOutbox :=
  w.outbox.filter fun r => r.otpRegisterTo dep.toAuthDeployment email &&
    decide (since ≤ r.createdAt)


/-- The effect and the answer of a statement. -/
def emailExec : (s : EmailStmt) → EmailWorld →
    Except EmailFailure (EmailWorld × EmailResponse s)
  | .auth s, w =>
      match authExec dep.toAuthDeployment s w.auth with
      | .ok (auth, r) => .ok ({ w with auth := auth }, r)
      | .error e => .error (.auth e)
  | .bcryptHash password, w =>
      .ok ({ w with auth := { w.auth with keys := w.auth.keys + 1 } },
        dep.bcryptHash w.auth.keys password)
  | .existsEmail email, w =>
      .ok (w, (w.auth.userAt dep.toAuthDeployment email).isSome)
  | .createUser email password, w =>
      if (w.auth.userAt dep.toAuthDeployment email).isSome then
        .error .database
      else
        .ok ({ w with auth := { w.auth with
          users := w.auth.users.insert (newUser email password) (key_newUser email password) } },
          (newUser email password w.auth.users.next).safe)
  | .findUserByEmail email, w =>
      .ok (w, (w.auth.userAt dep.toAuthDeployment email).map User.safe)
  | .markEmailVerified userId, w =>
      match w.auth.users.find userId with
      | none => .error .database
      | some _ =>
          .ok ({ w with auth := { w.auth with
            users := w.auth.users.update userId setEmailVerified key_setEmailVerified } }, ())
  | .updatePassword userId password presented _, w =>
      match w.auth.users.find userId with
      | none => .error .database
      | some _ =>
          .ok ({ w with
            auth := { w.auth with
              users := w.auth.users.update userId (setPassword password)
                (key_setPassword password) }
            history := { w.history with resets := w.history.resets ++ [presented] } }, ())
  | .findRoleByName name, w =>
      .ok (w, w.roles.find? fun r => decide (r.name = name))
  | .createUserRole userId roleId, w =>
      match w.roles.find? fun r => decide (r.id = roleId) with
      | none => .error .database
      | some role =>
          if (w.auth.users.find userId).isNone ∨ (userId, role.code) ∈ w.auth.userRoles then
            .error .database
          else
            .ok ({ w with auth := { w.auth with
              userRoles := w.auth.userRoles ++ [(userId, role.code)] } }, ())
  -- the user of a guest session is read by no modelled function
  | .convertGuestSessionToUser _ _, w => .ok (w, ())
  | .createVerifyCationCode userId email expiresAt type, w =>
      if (w.auth.users.find userId).isNone then
        .error .database
      else
        .ok ({ w with
          codes := w.codes.insert (newCode userId email expiresAt type)
            (key_newCode userId email expiresAt type) },
          newCode userId email expiresAt type w.codes.next)
  | .randomKey _ verificationCodeId, w =>
      .ok ({ w with
        auth := { w.auth with keys := w.auth.keys + 1 }
        history := { w.history with
          tokens := w.history.tokens ++ [(w.auth.keys, verificationCodeId)] } },
        dep.randomKey w.auth.keys)
  | .updateCodeHash id codeHash _, w =>
      match w.codes.find id with
      | none => .error .database
      | some _ =>
          .ok ({ w with
            codes := w.codes.update id (setCodeHash codeHash) (key_setCodeHash codeHash) }, ())
  | .findActiveRegisterByCodeHash codeHash, w =>
      .ok (w, w.codes.findFirst fun c => decide (c.type = .register) &&
        decide (c.codeHash = some codeHash) && c.usedAt.isNone)
  | .findActiveForgotByCodeHash codeHash email, w =>
      .ok (w, w.codes.findFirst fun c => decide (c.type = .forgotPassword) &&
        decide (c.codeHash = some codeHash) &&
        email.all (fun e => c.isFor dep.toAuthDeployment e) && c.usedAt.isNone)
  | .markUsedById id usedAt, w =>
      match w.codes.find id with
      | none => .error .database
      | some _ =>
          .ok ({ w with
            codes := w.codes.update id (setUsedAt usedAt) (key_setUsedAt usedAt) }, ())
  | .markAllRegisterUnusedByEmail email usedAt, w =>
      .ok ({ w with
        codes := w.codes.updateWhere (VerificationCode.openFor dep.toAuthDeployment email)
          (setUsedAt usedAt) (key_setUsedAt usedAt) }, ())
  | .createOutboxEmail toEmail templateKey verificationCodeId, w =>
      .ok ({ w with
        outbox := w.outbox.insert (newOutbox toEmail templateKey w.auth.now)
          (key_newOutbox toEmail templateKey w.auth.now)
        history := { w.history with
          bundles := w.history.bundles ++ [(w.outbox.next, verificationCodeId)] } },
        newOutbox toEmail templateKey w.auth.now w.outbox.next)
  | .findByIdEmailPending id, w =>
      .ok (w, (w.outbox.find id).filter fun r => decide (r.status = .pending))
  | .updateByIdEmailStatus id status, w =>
      match w.outbox.find id with
      | none => .error .database
      | some _ =>
          .ok ({ w with
            outbox := w.outbox.update id (setStatus status) (key_setStatus status) }, ())
  | .countOtpRegisterByEmailSince email since, w =>
      .ok (w, (w.otpRegisterSince dep email since).length)
  | .findLatestOtpRegisterByEmailSince email since, w =>
      .ok (w, latestRow (w.otpRegisterSince dep email since))
  | .cancelOtpRegisterInProgressByEmail email, w =>
      .ok ({ w with
        outbox := w.outbox.updateWhere
          (fun r => r.otpRegisterTo dep.toAuthDeployment email && r.inProgress)
          (setStatus .cancelled) (key_setStatus .cancelled) }, ())
  | .add job, w =>
      -- a job whose id the queue has is not added again
      if w.jobs.any fun j => decide (j.jobId = job.jobId) then
        .ok (w, ())
      else
        .ok ({ w with jobs := w.jobs ++ [job] }, ())
  | .sendMail mail, w => .ok ({ w with mails := w.mails ++ [mail] }, ())

/-! ### What a statement does to each table -/

/-- The codes after statement `s`. -/
def codesAfter (s : EmailStmt) (w : EmailWorld) : Table VerificationCode :=
  match s with
  | .createVerifyCationCode userId email expiresAt type =>
      w.codes.insert (newCode userId email expiresAt type)
        (key_newCode userId email expiresAt type)
  | .updateCodeHash id codeHash _ =>
      w.codes.update id (setCodeHash codeHash) (key_setCodeHash codeHash)
  | .markUsedById id usedAt => w.codes.update id (setUsedAt usedAt) (key_setUsedAt usedAt)
  | .markAllRegisterUnusedByEmail email usedAt =>
      w.codes.updateWhere (VerificationCode.openFor dep.toAuthDeployment email)
        (setUsedAt usedAt) (key_setUsedAt usedAt)
  | _ => w.codes

/-- The outbox after statement `s`. -/
def outboxAfter (s : EmailStmt) (w : EmailWorld) : Table EmailOutbox :=
  match s with
  | .createOutboxEmail toEmail templateKey _ =>
      w.outbox.insert (newOutbox toEmail templateKey w.auth.now)
        (key_newOutbox toEmail templateKey w.auth.now)
  | .updateByIdEmailStatus id status =>
      w.outbox.update id (setStatus status) (key_setStatus status)
  | .cancelOtpRegisterInProgressByEmail email =>
      w.outbox.updateWhere
        (fun r => r.otpRegisterTo dep.toAuthDeployment email && r.inProgress)
        (setStatus .cancelled) (key_setStatus .cancelled)
  | _ => w.outbox

/-- The mails after statement `s`. -/
def mailsAfter (s : EmailStmt) (w : EmailWorld) : List Mail :=
  match s with
  | .sendMail mail => w.mails ++ [mail]
  | _ => w.mails

/-- The bookkeeping after statement `s`. -/
def emailHistoryAfter (s : EmailStmt) (w : EmailWorld) : EmailHistory :=
  match s with
  | .updatePassword _ _ presented _ =>
      { w.history with resets := w.history.resets ++ [presented] }
  | .randomKey _ verificationCodeId =>
      { w.history with tokens := w.history.tokens ++ [(w.auth.keys, verificationCodeId)] }
  | .createOutboxEmail _ _ verificationCodeId =>
      { w.history with bundles := w.history.bundles ++ [(w.outbox.next, verificationCodeId)] }
  | _ => w.history

/-- The number of drawn keys after statement `s`. -/
def drawnAfter (s : EmailStmt) (w : EmailWorld) : Nat :=
  match s with
  | .auth s => keysAfter s w.auth
  | .bcryptHash _ => w.auth.keys + 1
  | .randomKey _ _ => w.auth.keys + 1
  | _ => w.auth.keys

/-- What statement `s` makes of the tables that the proofs look at. -/
structure EmailEffects (s : EmailStmt) (w w' : EmailWorld) : Prop where
  codes : w'.codes = codesAfter dep s w
  outbox : w'.outbox = outboxAfter dep s w
  jobs : w'.jobs = w.jobs ∨ ∃ job, s = .add job ∧ w'.jobs = w.jobs ++ [job]
  mails : w'.mails = mailsAfter s w
  history : w'.history = emailHistoryAfter s w
  now : w'.auth.now = w.auth.now
  keys : w'.auth.keys = drawnAfter s w

/-- **Effects.** A statement that is executed does this and nothing else. -/
theorem emailExec_effects
    {s : EmailStmt} {w w' : EmailWorld} {r : EmailResponse s}
    (h : emailExec dep s w = .ok (w', r)) :
    EmailEffects dep s w w' := by
  cases s with
  | auth s =>
      simp only [emailExec] at h
      split at h
      · rename_i auth r' hexec
        cases h
        have heff := authExec_effects dep.toAuthDeployment hexec
        exact ⟨rfl, rfl, .inl rfl, rfl, rfl, heff.now, heff.keys⟩
      · cases h
  | createUserRole userId roleId =>
      simp only [emailExec] at h
      split at h
      · cases h
      · split at h <;> cases h
        exact ⟨rfl, rfl, .inl rfl, rfl, rfl, rfl, rfl⟩
  | add job =>
      simp only [emailExec] at h
      split at h <;> cases h
      · exact ⟨rfl, rfl, .inl rfl, rfl, rfl, rfl, rfl⟩
      · exact ⟨rfl, rfl, .inr ⟨job, rfl, rfl⟩, rfl, rfl, rfl, rfl⟩
  | _ =>
      simp only [emailExec] at h
      first
        | (cases h; exact ⟨rfl, rfl, .inl rfl, rfl, rfl, rfl, rfl⟩)
        | (split at h <;> cases h
           exact ⟨rfl, rfl, .inl rfl, rfl, rfl, rfl, rfl⟩)

end Exec

end Email
end BookStore
