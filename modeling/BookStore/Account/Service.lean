import BookStore.Async.Embed
import BookStore.Email.Services
import BookStore.Shopper.Orders

/-!
# Accounts

`changePassword` of `AuthService`, and the server with all functions of `AuthService` that write
users or sessions: those of `Auth.Services` and of `Email.Services` with the mail worker.

No other function of the program writes the table `users` but for the columns of the profile.
-/

namespace BookStore
namespace Account

open Async Program Email

namespace ChangePasswordMessage

def newPasswordConfirmMismatch : String := "Mật khẩu mới xác nhận không khớp"
def oldPasswordIncorrect : String := "Mật khẩu cũ không đúng"

end ChangePasswordMessage

/-! ### Statements -/

/-- What `findUserPasswordById` selects -/
structure UserPassword where
  id : Nat
  password : String
  deriving DecidableEq

inductive AccountStmt
  | email (s : EmailStmt)
  | findUserPasswordById (id : Nat)
  | updatePassword (userId : Nat) (password : String)
  deriving DecidableEq

abbrev AccountResponse : AccountStmt → Type
  | .email s => EmailResponse s
  | .findUserPasswordById _ => Option UserPassword
  | .updatePassword _ _ => Unit

variable (dep : EmailDeployment)

def accountExec : (s : AccountStmt) → EmailWorld →
    Except EmailFailure (EmailWorld × AccountResponse s)
  | .email s, w => emailExec dep s w
  | .findUserPasswordById id, w =>
      .ok (w, (w.auth.users.find id).map fun u => ⟨u.id, u.password⟩)
  | .updatePassword userId password, w =>
      match w.auth.users.find userId with
      | none => .error .database
      | some _ =>
          .ok ({ w with auth := { w.auth with
            users := w.auth.users.update userId (setPassword password)
              (key_setPassword password) } }, ())

/-! ### Handlers -/

abbrev AccountService := Program AccountStmt AccountResponse EmailFailure

abbrev accountQuery (s : AccountStmt) : AccountService (AccountResponse s) :=
  await s

/-- A function of `Email.Services` -/
def ofEmail {α : Type} (p : EmailService α) : AccountService α :=
  p.embed .email (fun _ x => x) id

/-- The error of a statement of `Auth.Services` -/
def authError : EmailFailure → AuthFailure
  | .auth e => e
  | _ => .database

/-- A function of `Auth.Services` -/
def ofAuth {α : Type} (p : AuthService α) : AccountService α :=
  p.embed (fun s => .email (.auth s)) (fun _ x => x.mapError authError) .auth

structure ChangePasswordRequestDto where
  oldPassword : String
  newPassword : String
  confirmNewPassword : String
  deriving DecidableEq

inductive AccountAnswer
  | email (a : EmailAnswer)
  | auth (a : AuthAnswer)
  /-- `{ success: true }` -/
  | passwordChanged
  deriving DecidableEq

/-- `AuthService.changePassword`; `none` stands for `NaN`, which the client refuses. -/
def changePassword (userId : Option Nat) (body : ChangePasswordRequestDto) :
    AccountService AccountAnswer :=
  if body.newPassword ≠ body.confirmNewPassword then
    raise (.badRequest ChangePasswordMessage.newPasswordConfirmMismatch)
  else
    match userId with
    | none => raise .database
    | some userId => do
        let user : Option UserPassword ← accountQuery (.findUserPasswordById userId)
        match user with
        | none => raise (.auth (.unauthorized none))
        | some user =>
            if dep.compare body.oldPassword user.password = false then
              raise (.badRequest ChangePasswordMessage.oldPasswordIncorrect)
            else do
              let passwordHash : String ← accountQuery (.email (.bcryptHash body.newPassword))
              accountQuery (.updatePassword userId passwordHash)
              ret .passwordChanged

/-! ### The server -/

inductive AccountRequest
  | email (r : EmailRequest)
  | auth (r : AuthRequest)
  | changePassword (authorization : Option String) (body : ChangePasswordRequestDto)
  deriving DecidableEq

inductive AccountEvent
  | arrive (r : AccountRequest)
  /-- The worker attempts job `n` of the queue. -/
  | work (n : Nat)
  | tick (ms : Nat)
  deriving DecidableEq

/-- The guards of a request and the function that answers it -/
def accountHandler : AccountRequest → AccountService AccountAnswer
  | .email r => (ofEmail (emailHandler dep r)).bind fun a => ret (.email a)
  | .auth r => (ofAuth (authHandler dep.toAuthDeployment r)).bind fun a => ret (.auth a)
  | .changePassword authorization body =>
      (ofAuth (authGuard dep.toAuthDeployment ⟨false, false, false⟩ authorization)).bind
        fun user => changePassword dep (user.bind userIdOf) body

def accountServer :
    System AccountStmt AccountResponse EmailFailure AccountAnswer EmailWorld AccountEvent where
  exec := accountExec dep
  fault := .database
  idle := .email .none
  env := fun e w =>
    match e with
    | .arrive r => some (w, some (accountHandler dep r))
    | .work n => w.jobs[n]?.map fun job =>
        (w, some ((ofEmail (process dep job)).bind fun a => ret (.email a)))
    | .tick ms => some (w.pass ms, none)

/-- The tables and the handlers under way -/
abbrev AccountState := Config AccountStmt AccountResponse EmailFailure AccountAnswer EmailWorld

end Account
end BookStore
