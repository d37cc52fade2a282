import BookStore.Email.Statements

/-!
# Registering, verifying, resetting and the mail worker

`register`, `verifyEmail`, `resendEmail`, `forgotPassword`, `validateResetPasswordToken`
and `resetPassword` of `AuthService`, the services they use, `EmailProcessor` and the server
that runs them.
-/

namespace BookStore
namespace Email

open Async Program

namespace RegisterMessage

def passwordConfirmMismatch : String := "Mật khẩu xác nhận không khớp"
def emailExists : String := "Email đã tồn tại"
def invalidOrExpiredVerifyToken : String := "Token xác thực không hợp lệ hoặc đã hết hạn"
def resendVerifyEmailQuotaExceeded : String :=
  "Bạn đã gửi lại quá nhiều lần, vui lòng thử lại sau"
def accountCreateFailed : String := "Không tạo được tài khoản"

end RegisterMessage

namespace ForgotPasswordMessage

def invalidOrExpiredResetToken : String :=
  "Token đặt lại mật khẩu không hợp lệ hoặc đã hết hạn"
def resetPasswordConfirmMismatch : String := "Mật khẩu xác nhận không khớp"

end ForgotPasswordMessage

/-- `ONE_DAY_IN_MS` -/
def oneDayInMs : Nat := 24 * 60 * 60 * 1000

/-- `RESEND_BLOCK_WINDOW_IN_MS` -/
def resendBlockWindowInMs : Nat := 5 * 60 * 60 * 1000

/-- `RESEND_MAX_ATTEMPTS_PER_DAY` -/
def resendMaxAttemptsPerDay : Nat := 5

/-- `OTP_TIME_SECONDS` -/
def otpTimeSeconds : Nat := 3600

/-- `OTP_EXPIRES_MINUTES` -/
def otpExpiresMinutes : Nat := otpTimeSeconds / 60

/-- A handler of the server or the worker. -/
abbrev EmailService := Program EmailStmt EmailResponse EmailFailure

/-- Await a statement. -/
abbrev emailQuery (s : EmailStmt) : EmailService (EmailResponse s) :=
  await s

/-- What a handler returns. -/
inductive EmailAnswer
  | registered (user : AuthMe) (accessToken refreshToken : String)
  /-- `{ success: true }` -/
  | success
  /-- `{ valid }` -/
  | valid (b : Bool)
  /-- The worker has processed the job. -/
  | processed
  /-- A statement that was abandoned by its sender. -/
  | none
  deriving DecidableEq

variable (dep : EmailDeployment)

/-! ### `VerificationCodeService` and `EmailQueue` -/

/-- The jobs of a queue are attempted this often. -/
def emailJobAttempts : Nat := 3

/-- The job that `enqueueOutboxEmail` adds. -/
def outboxEmailJob (outboxId verificationCodeId : Nat) (originUrl : Option String) : EmailJob where
  outboxId := outboxId
  data := .sendEmail verificationCodeId originUrl
  attempts := emailJobAttempts
  jobId := "email-" ++ toString outboxId

/-- The job that `enqueueOrderEmail` adds. -/
def orderEmailJob (outboxId : Nat) : EmailJob where
  outboxId := outboxId
  data := .sendOrderEmail
  attempts := emailJobAttempts
  jobId := "order-email-" ++ toString outboxId

/-- `EmailQueue.enqueueOutboxEmail` -/
def enqueueOutboxEmail (outboxId verificationCodeId : Nat) (originUrl : Option String) :
    EmailService Unit :=
  emailQuery (.add (outboxEmailJob outboxId verificationCodeId originUrl))

/-- A code and the row of its mail. -/
def createVerification
    (type : VerificationType) (templateKey : TemplateKey)
    (userId : Nat) (email : String) (expiresAt : Nat) :
    EmailService (VerificationCode × EmailOutbox) := do
  let record : VerificationCode ←
    emailQuery (.createVerifyCationCode userId email expiresAt type)
  let outbox : EmailOutbox ← emailQuery (.createOutboxEmail email templateKey record.id)
  ret (record, outbox)

/-- `VerificationCodeService.createRegisterVerification` -/
def createRegisterVerification (userId : Nat) (email : String) (expiresAt : Nat) :
    EmailService (VerificationCode × EmailOutbox) :=
  createVerification .register .otpRegister userId email expiresAt

/-- `VerificationCodeService.createForgotPasswordVerification` -/
def createForgotPasswordVerification (userId : Nat) (email : String) (expiresAt : Nat) :
    EmailService (VerificationCode × EmailOutbox) :=
  createVerification .forgotPassword .otpForgotPassword userId email expiresAt

/-! ### `AuthService` -/

structure RegisterRequestDto where
  email : String
  password : String
  confirmPassword : String
  deriving DecidableEq

structure ResetPasswordRequestDto where
  token : String
  email : String
  password : String
  passwordConfirmation : String
  deriving DecidableEq

/-- `new Date()` -/
def newDate : EmailService Nat :=
  emailQuery (.auth .newDate)

def signVerifyCode : EmailService Nat := do
  let now ← newDate
  ret (now + otpTimeSeconds * 1000)

/-- An access token and a refresh token. -/
def signTokenPair (payload : JwtPayload) : EmailService (String × String) := do
  let accessToken : String ← emailQuery (.auth (.sign payload))
  let refreshToken : String ← emailQuery (.auth .randomKey)
  ret (accessToken, refreshToken)

/-- What a new user gets besides the row in `users`. -/
def openAccount (userId roleId : Nat) (refreshToken userAgent ip : String) :
    EmailService Unit := do
  let now ← newDate
  promiseAll
    [.createUserRole userId roleId,
      .auth (.createLoginAttempt ⟨some userId, ip, userAgent, true, none⟩),
      .auth (.createUserSession
        { userId := userId
          deviceId := none
          ip := some ip
          refreshTokenHash := dep.hashToken refreshToken
          userAgent := some userAgent
          expiresAt := now + dep.refreshTokenSeconds * 1000 })]

/-- A new code with its mail, and the job that sends it. -/
def sendRegisterVerification (user : AuthMe) (originUrl : Option String) :
    EmailService Unit := do
  let expiresAt ← signVerifyCode
  let verificationBundle ← createRegisterVerification user.id user.email expiresAt
  enqueueOutboxEmail verificationBundle.2.id verificationBundle.1.id originUrl

def register
    (body : RegisterRequestDto) (userAgent ip originUrl : String)
    (guestSessionId : Option String) : EmailService EmailAnswer :=
  if body.password ≠ body.confirmPassword then
    raise (.badRequest RegisterMessage.passwordConfirmMismatch)
  else do
    let existsEmail : Bool ← emailQuery (.existsEmail body.email)
    if existsEmail then
      raise (.conflict RegisterMessage.emailExists)
    else do
      let passwordHash : String ← emailQuery (.bcryptHash body.password)
      let user : AuthMe ← emailQuery (.createUser body.email passwordHash)
      let signature ← signTokenPair ⟨toString user.id, user.isEmailVerified, ["CUSTOMER"]⟩
      let role : Option Role ← emailQuery (.findRoleByName "customer")
      match role with
      | none => raise (.badRequest RegisterMessage.accountCreateFailed)
      | some role => do
          openAccount dep user.id role.id signature.2 userAgent ip
          sendRegisterVerification user (some originUrl)
          match truthy guestSessionId with
          | none => ret (.registered user signature.1 signature.2)
          | some guestSessionId => do
              emailQuery (.convertGuestSessionToUser guestSessionId user.id)
              ret (.registered user signature.1 signature.2)

def verifyEmail (token : String) : EmailService EmailAnswer := do
  let verification : Option VerificationCode ←
    emailQuery (.findActiveRegisterByCodeHash (dep.hashToken token))
  match verification with
  | none => raise (.badRequest RegisterMessage.invalidOrExpiredVerifyToken)
  | some verification => do
      let now ← newDate
      if verification.expiresAt < now then do
        emailQuery (.markUsedById verification.id now)
        raise (.badRequest RegisterMessage.invalidOrExpiredVerifyToken)
      else do
        emailQuery (.markUsedById verification.id now)
        -- the user may have been deleted
        match verification.userId with
        | none => raise (.badRequest RegisterMessage.invalidOrExpiredVerifyToken)
        | some userId =>
            if userId = 0 then
              raise (.badRequest RegisterMessage.invalidOrExpiredVerifyToken)
            else do
              emailQuery (.markEmailVerified userId)
              ret .success

/-- The mails of the last day are too many, and the last of them is too recent. -/
def quotaExceeded
    (countRecentOtp : Nat) (latestRecentOtp : Option EmailOutbox) (now : Nat) : Bool :=
  decide (resendMaxAttemptsPerDay ≤ countRecentOtp) &&
    latestRecentOtp.any fun latest => decide (now < latest.createdAt + resendBlockWindowInMs)

/-- The earlier codes and mails are withdrawn and new ones are made. -/
def renewVerification (email : String) (user : AuthMe) : EmailService EmailAnswer := do
  let now ← newDate
  promiseAll
    [.markAllRegisterUnusedByEmail email now, .cancelOtpRegisterInProgressByEmail email]
  sendRegisterVerification user none
  ret .success

def resendEmail (email : String) : EmailService EmailAnswer := do
  let user : Option AuthMe ← emailQuery (.findUserByEmail email)
  match user with
  | none => ret .success
  | some user =>
      if user.isEmailVerified then
        ret .success
      else do
        let today ← newDate
        let recentOtp : Nat × Option EmailOutbox ← alongside
          (EmailStmt.countOtpRegisterByEmailSince email (today - oneDayInMs))
          (emailQuery (.findLatestOtpRegisterByEmailSince email (today - oneDayInMs)))
        let now ← newDate
        if quotaExceeded recentOtp.1 recentOtp.2 now then
          raise (.tooManyRequests RegisterMessage.resendVerifyEmailQuotaExceeded)
        else
          renewVerification email user

def forgotPassword (email : String) : EmailService EmailAnswer := do
  let user : Option AuthMe ← emailQuery (.findUserByEmail email)
  match user with
  | none => ret .success
  | some user => do
      let expiresAt ← signVerifyCode
      let verificationBundle ←
        createForgotPasswordVerification user.id user.email expiresAt
      enqueueOutboxEmail verificationBundle.2.id verificationBundle.1.id none
      ret .success

def validateResetPasswordToken (token : String) : EmailService EmailAnswer := do
  let verification : Option VerificationCode ←
    emailQuery (.findActiveForgotByCodeHash (dep.hashToken token) none)
  match verification with
  | none => ret (.valid false)
  | some verification => do
      let now ← newDate
      if verification.expiresAt < now then do
        emailQuery (.markUsedById verification.id now)
        ret (.valid false)
      else
        ret (.valid true)

def resetPassword (body : ResetPasswordRequestDto) : EmailService EmailAnswer :=
  if body.password ≠ body.passwordConfirmation then
    raise (.badRequest ForgotPasswordMessage.resetPasswordConfirmMismatch)
  else do
    let verification : Option VerificationCode ←
      emailQuery (.findActiveForgotByCodeHash (dep.hashToken body.token) (some body.email))
    match verification with
    | none => raise (.badRequest ForgotPasswordMessage.invalidOrExpiredResetToken)
    | some verification => do
        let now ← newDate
        if verification.expiresAt < now then do
          emailQuery (.markUsedById verification.id now)
          raise (.badRequest ForgotPasswordMessage.invalidOrExpiredResetToken)
        else do
          -- `findUserPasswordByEmail`
          let user : Option User ← emailQuery (.auth (.findAuthByEmailPassword body.email))
          match user with
          | none => raise (.badRequest ForgotPasswordMessage.invalidOrExpiredResetToken)
          | some user => do
              let passwordHash : String ← emailQuery (.bcryptHash body.password)
              emailQuery (.updatePassword user.id passwordHash body.token verification.id)
              emailQuery (.markUsedById verification.id now)
              ret .success

/-! ### `EmailProcessor` -/

def generateLinkWithType
    (path : VerifyCodePath) (token : String) (originUrl : Option String) : Link where
  base :=
    match truthy originUrl with
    | none => "http://localhost:3000/vi"
    | some url =>
        if url.toList.getLast? = some '/' then String.ofList url.toList.dropLast else url
  path := path.text
  key := getTokenParamKey path
  token := token

def unsupportedTemplateKey : EmailFailure := .error "Unsupported email template key"

/-- The hash of the new token is stored and the link is sent. -/
def sendLink
    (outBox : EmailOutbox) (verificationCodeId : Nat) (token : String) (mail : Mail) :
    EmailService Unit := do
  emailQuery (.updateCodeHash verificationCodeId (dep.hashToken token) outBox.id)
  emailQuery (.updateByIdEmailStatus outBox.id .sending)
  emailQuery (.sendMail mail)

def handleVerifyEmail
    (outBox : EmailOutbox) (originUrl : Option String) (verificationCodeId : Nat) :
    EmailService Unit := do
  let token : String ← emailQuery (.randomKey outBox.id verificationCodeId)
  match outBox.templateKey with
  | .otpForgotPassword =>
      sendLink dep outBox verificationCodeId token
        { outboxId := outBox.id
          toEmail := outBox.toEmail
          subject := "Reset your password"
          html := .resetPassword (generateLinkWithType .resetPassword token originUrl)
            otpExpiresMinutes }
  | .otpRegister =>
      sendLink dep outBox verificationCodeId token
        { outboxId := outBox.id
          toEmail := outBox.toEmail
          subject := "Verify your email"
          html := .verifyEmail (generateLinkWithType .verifyEmail token originUrl) }
  | _ => raise unsupportedTemplateKey

def handleOrderEmail (outBox : EmailOutbox) : EmailService Unit :=
  match outBox.payload with
  | none => raise (.error "Missing payload for order email")
  | some payload =>
      emailQuery (.sendMail
        { outboxId := outBox.id
          toEmail := outBox.toEmail
          subject := "Thông tin đơn hàng " ++ payload.orderCode
          html := .orderSuccess outBox.toEmail payload })

/-- The mail of a job. -/
def handleJob (job : EmailJob) (outBox : EmailOutbox) : EmailService Unit :=
  match job.data with
  | .sendEmail verificationCodeId originUrl =>
      handleVerifyEmail dep outBox originUrl verificationCodeId
  | .sendOrderEmail =>
      if outBox.templateKey = .orderEmail then
        handleOrderEmail outBox
      else
        raise unsupportedTemplateKey

/-- One attempt of a job. -/
def process (job : EmailJob) : EmailService EmailAnswer := do
  let outBox : Option EmailOutbox ← emailQuery (.findByIdEmailPending job.outboxId)
  match outBox with
  | none => ret .processed
  | some outBox =>
      (do handleJob dep job outBox
          emailQuery (.updateByIdEmailStatus outBox.id .sent)
          ret EmailAnswer.processed).tryCatch
        fun er => do
          emailQuery (.updateByIdEmailStatus outBox.id .failed)
          raise er

/-! ### The server -/

inductive EmailRequest
  | register (body : RegisterRequestDto) (userAgent ip originUrl : String)
      (guestSessionId : Option String)
  | verifyEmail (token : String)
  | resendEmail (email : String)
  | forgotPassword (email : String)
  | validateResetPasswordToken (token : String)
  | resetPassword (body : ResetPasswordRequestDto)
  deriving DecidableEq

/-- A step of the environment. -/
inductive EmailEvent
  | arrive (r : EmailRequest)
  /-- The worker attempts job `n` of the queue. -/
  | work (n : Nat)
  | tick (ms : Nat)
  deriving DecidableEq

/-- The function that answers a request. -/
def emailHandler : EmailRequest → EmailService EmailAnswer
  | .register body userAgent ip originUrl guestSessionId =>
      register dep body userAgent ip originUrl guestSessionId
  | .verifyEmail token => verifyEmail dep token
  | .resendEmail email => resendEmail email
  | .forgotPassword email => forgotPassword email
  | .validateResetPasswordToken token => validateResetPasswordToken dep token
  | .resetPassword body => resetPassword dep body

def EmailWorld.pass (ms : Nat) (w : EmailWorld) : EmailWorld :=
  { w with auth := { w.auth with now := w.auth.now + ms } }

/-- The running server with its worker; a job may be attempted any number of times. -/
def emailServer :
    System EmailStmt EmailResponse EmailFailure EmailAnswer EmailWorld EmailEvent where
  exec := emailExec dep
  fault := .database
  idle := .none
  env := fun e w =>
    match e with
    | .arrive r => some (w, some (emailHandler dep r))
    | .work n => w.jobs[n]?.map fun job => (w, some (process dep job))
    | .tick ms => some (w.pass ms, none)

/-- The server's state: the tables and the handlers under way. -/
abbrev EmailState := Config EmailStmt EmailResponse EmailFailure EmailAnswer EmailWorld

/-- The environment starts handlers and lets time pass. -/
theorem emailServer_env
    {dep : EmailDeployment} {event : EmailEvent} {w w' : EmailWorld}
    {p : Option (EmailService EmailAnswer)}
    (h : (emailServer dep).env event w = some (w', p)) :
    w' = w ∨ ∃ ms, w' = w.pass ms := by
  cases event with
  | arrive r =>
      cases h
      exact .inl rfl
  | work n =>
      obtain ⟨job, -, hw⟩ := Option.map_eq_some_iff.mp h
      cases hw
      exact .inl rfl
  | tick ms =>
      cases h
      exact .inr ⟨ms, rfl⟩

/-! ### A small server

One user without a verified address; the concrete runs start here. -/

def sampleEmail : EmailDeployment where
  toAuthDeployment := sampleAuth
  bcryptHash := fun _ password => password

def sampleEmailWorld : EmailWorld where
  auth := { sampleAuthWorld with
    users := (Table.empty : Table User).insert fun n => ⟨n, "a", "secret", false⟩ }
  roles := [⟨1, "CUSTOMER", "customer"⟩]
  codes := .empty
  outbox := .empty
  jobs := []
  mails := []
  history := ⟨[], [], []⟩

/-- Handler `i` takes `n` steps without failure. -/
def emailSteps (i n : Nat) : List (Action EmailEvent) :=
  List.replicate n (.run i 0 .ok)

end Email
end BookStore
