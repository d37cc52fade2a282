import BookStore.Async.Everywhere
import BookStore.Email.Services

/-!
# Withdrawn mails

A worker reads a pending row of the outbox and writes its status later on, whatever the status
is by then.  `resendEmail` sets the rows of the address that are in progress to `CANCELLED`
meanwhile.

* `held` is the row that a handler is at.
* `CancelsFree` is what a run needs: a row is not withdrawn while a worker is at it.
* `Stage` says what a handler has still to do with the outbox.
* `staged_step` and `cancelled_step` are the two steps.
-/

namespace BookStore
namespace Email

open Async Program

/-- The row of the outbox that a statement of the worker is about -/
def heldRow : EmailStmt → Option Nat
  | .randomKey outboxId _ => some outboxId
  | .updateCodeHash _ _ outboxId => some outboxId
  | .updateByIdEmailStatus id _ => some id
  | .sendMail mail => some mail.outboxId
  | _ => none

/-- The row that a handler has read and is at work on -/
def held {α : Type} : EmailService α → Option Nat
  | .call s _ => heldRow s
  | _ => none

section Definitions

variable (dep : EmailDeployment)

/-- `cancelOtpRegisterInProgressByEmail` would withdraw the row. -/
def EmailWorld.withdraws (w : EmailWorld) (email : String) (id : Nat) : Bool :=
  (w.outbox.find id).any fun r => r.otpRegisterTo dep.toAuthDeployment email && r.inProgress

/-- No row is withdrawn while a worker is at it. -/
def CancelsFree (c : EmailState) : Action EmailEvent → Prop
  | .env _ => True
  | .run i _ o =>
      match System.nextStatement c i with
      | some (.cancelOtpRegisterInProgressByEmail email) =>
          o = .fail ∨ (c.threads.all fun p =>
            (held p).all fun id => !c.world.withdraws dep email id) = true
      | _ => True

end Definitions

def EmailWorld.cancelled (w : EmailWorld) (id : Nat) : Bool :=
  (w.outbox.find id).any fun r => decide (r.status = .cancelled)

/-- The row is there and has not been withdrawn. -/
def EmailWorld.active (w : EmailWorld) (id : Nat) : Bool :=
  (w.outbox.find id).any fun r => decide (r.status ≠ .cancelled)

variable {dep : EmailDeployment} {w w' : EmailWorld} {c c' : EmailState}
variable {a : Action EmailEvent} {id : Nat}

theorem not_cancelled_of_active (h : w.active id = true) : w.cancelled id = false := by
  unfold EmailWorld.active at h
  unfold EmailWorld.cancelled
  cases hr : w.outbox.find id with
  | none =>
      rfl
  | some r =>
      rw [hr] at h
      simpa using h

/-! ### One statement -/

/-- A row keeps its status, or it is set to the one that the statement says. -/
theorem find_outboxAfter
    {s : EmailStmt} {r : EmailOutbox} (hr : w.outbox.find id = some r) :
    (outboxAfter dep s w).find id = some r ∨
      (∃ status, s = .updateByIdEmailStatus id status ∧
        (outboxAfter dep s w).find id = some (setStatus status r)) ∨
      ∃ email, s = .cancelOtpRegisterInProgressByEmail email ∧
        w.withdraws dep email id = true ∧
        (outboxAfter dep s w).find id = some (setStatus .cancelled r) := by
  cases s with
  | createOutboxEmail toEmail templateKey verificationCodeId =>
      refine .inl ?_
      rw [outboxAfter, Table.find_insert, if_neg (Nat.ne_of_lt (Table.find_lt hr)), hr]
  | updateByIdEmailStatus id' status =>
      rw [outboxAfter, Table.find_update]
      by_cases hid : id = id'
      · subst hid
        rw [if_pos rfl, hr]
        exact .inr (.inl ⟨status, rfl, rfl⟩)
      · rw [if_neg hid, hr]
        exact .inl rfl
  | cancelOtpRegisterInProgressByEmail email =>
      rw [outboxAfter, Table.find_updateWhere, hr, Option.map_some]
      by_cases hmeets : (r.otpRegisterTo dep.toAuthDeployment email && r.inProgress) = true
      · rw [if_pos hmeets]
        exact .inr (.inr ⟨email, rfl, by rw [EmailWorld.withdraws, hr]; exact hmeets, rfl⟩)
      · rw [if_neg hmeets]
        exact .inl rfl
  | _ =>
      exact .inl hr

theorem active_exec
    {s : EmailStmt} {r : EmailResponse s}
    (hs : ∀ id, s ≠ .updateByIdEmailStatus id .cancelled)
    (hcancel : ∀ email, s = .cancelOtpRegisterInProgressByEmail email →
      w.withdraws dep email id = false)
    (hactive : w.active id = true)
    (h : emailExec dep s w = .ok (w', r)) :
    w'.active id = true := by
  obtain ⟨row, hrow, hstatus⟩ := Option.any_eq_true _ _ |>.mp hactive
  rw [EmailWorld.active, (emailExec_effects dep h).outbox]
  rcases find_outboxAfter (s := s) hrow with
    hsame | ⟨status, rfl, hset⟩ | ⟨email, rfl, hwithdraws, -⟩
  · rw [hsame]
    exact hstatus
  · rw [hset]
    refine decide_eq_true fun hcancelled => hs id ?_
    rw [← show status = .cancelled from hcancelled]
  · rw [hcancel email rfl] at hwithdraws
    cases hwithdraws

theorem cancelled_exec
    {s : EmailStmt} {r : EmailResponse s}
    (hs : ∀ status, s = .updateByIdEmailStatus id status → w.active id = true)
    (hcancelled : w.cancelled id = true)
    (h : emailExec dep s w = .ok (w', r)) :
    w'.cancelled id = true := by
  obtain ⟨row, hrow, hstatus⟩ := Option.any_eq_true _ _ |>.mp hcancelled
  rw [EmailWorld.cancelled, (emailExec_effects dep h).outbox]
  rcases find_outboxAfter (s := s) hrow with hsame | ⟨status, rfl, -⟩ | ⟨email, rfl, -, hset⟩
  · rw [hsame]
    exact hstatus
  · rw [not_cancelled_of_active (hs status rfl)] at hcancelled
    cases hcancelled
  · rw [hset]
    rfl

/-! ### What is left of a handler -/

/-- All that is left is about row `id`. -/
def Holding {α : Type} (id : Nat) : EmailService α → Prop
  | .ret _ => True
  | .raise _ => True
  | .call s k =>
      (heldRow s = some id ∧ ∀ j, s ≠ .updateByIdEmailStatus j .cancelled) ∧
        ∀ x, Holding id (k x)
  | .pick _ _ => False
  | .leave _ _ => False

theorem Holding.bind {α β : Type} {p : EmailService α} {f : α → EmailService β}
    (hp : Holding id p) (hf : ∀ a, Holding id (f a)) :
    Holding id (p.bind f) := by
  induction p with
  | ret a =>
      exact hf a
  | raise e =>
      trivial
  | call s k ih =>
      exact ⟨hp.1, fun x => ih x (hp.2 x)⟩
  | pick n k _ =>
      exact hp.elim
  | leave s p _ =>
      exact hp.elim

theorem Holding.tryCatch {α : Type} {p : EmailService α} {f : EmailFailure → EmailService α}
    (hp : Holding id p) (hf : ∀ e, Holding id (f e)) :
    Holding id (p.tryCatch f) := by
  induction p with
  | ret a =>
      trivial
  | raise e =>
      exact hf e
  | call s k ih =>
      exact ⟨hp.1, fun x => ih x (hp.2 x)⟩
  | pick n k _ =>
      exact hp.elim
  | leave s p _ =>
      exact hp.elim

theorem Holding.await {s : EmailStmt}
    (hs : heldRow s = some id) (hcancel : ∀ j, s ≠ .updateByIdEmailStatus j .cancelled) :
    Holding id (emailQuery s) :=
  ⟨⟨hs, hcancel⟩, fun x => by cases x <;> trivial⟩

/-- Statements that are not the worker's -/
def Elsewhere : EmailStmt → Prop
  | .findByIdEmailPending _ => False
  | .randomKey _ _ => False
  | .updateCodeHash _ _ _ => False
  | .updateByIdEmailStatus _ _ => False
  | .sendMail _ => False
  | _ => True

/-- Statements that neither are the worker's nor make a row or a job -/
def Apart : EmailStmt → Prop
  | .createOutboxEmail _ _ _ => False
  | .add _ => False
  | s => Elsewhere s

theorem Apart.elsewhere {s : EmailStmt} (h : Apart s) : Elsewhere s := by
  cases s <;> first | exact h | exact h.elim

theorem heldRow_of_elsewhere {s : EmailStmt} (h : Elsewhere s) : heldRow s = none := by
  cases s <;> first | rfl | exact h.elim

/-- What a handler has still to do with the outbox -/
inductive Stage (w : EmailWorld) : EmailService EmailAnswer → Prop
  | elsewhere {p : EmailService EmailAnswer} : p.All Elsewhere → Stage w p
  | reading {id : Nat} {f : Except EmailFailure (Option EmailOutbox) → EmailService EmailAnswer} :
      (∀ r, Holding r.id (f (.ok (some r)))) → (∀ x, (∀ r, x ≠ .ok (some r)) →
        (f x).finished = true) →
      Stage w (.call (.findByIdEmailPending id) f)
  | working {p : EmailService EmailAnswer} {id : Nat} :
      Holding id p → (held p = some id → w.active id = true) → Stage w p

/-- Every handler is at one of the stages. -/
abbrev Staged (c : EmailState) : Prop :=
  ∀ p, p ∈ c.threads → Stage c.world p

theorem stage_of_finished {p : EmailService EmailAnswer} (h : p.finished = true) :
    Stage w p := by
  refine .elsewhere ?_
  cases p with
  | ret a =>
      trivial
  | raise e =>
      trivial
  | call s k =>
      cases h
  | pick n k =>
      cases h
  | leave s p =>
      cases h

/-- The worker's statements are about rows that are not withdrawn. -/
theorem Stage.active_of_held
    {s : EmailStmt} {k : Except EmailFailure (EmailResponse s) → EmailService EmailAnswer}
    (h : Stage w (.call s k)) (hs : heldRow s = some id) :
    w.active id = true := by
  cases h with
  | elsewhere h =>
      rw [heldRow_of_elsewhere h.1] at hs
      cases hs
  | reading _ _ =>
      cases hs
  | working h hactive =>
      rw [h.1.1, Option.some.injEq] at hs
      subst hs
      exact hactive h.1.1

/-- No worker sets a row to `CANCELLED`. -/
theorem Stage.ne_cancelled
    {s : EmailStmt} {k : Except EmailFailure (EmailResponse s) → EmailService EmailAnswer}
    (h : Stage w (.call s k)) (j : Nat) :
    s ≠ .updateByIdEmailStatus j .cancelled := by
  cases h with
  | elsewhere h =>
      rintro rfl
      exact h.1
  | reading _ _ =>
      simp
  | working h _ =>
      exact h.1.2 j

theorem Stage.of_active {p : EmailService EmailAnswer}
    (h : Stage w p)
    (hactive : ∀ id, held p = some id → w.active id = true → w'.active id = true) :
    Stage w' p := by
  cases h with
  | elsewhere h =>
      exact .elsewhere h
  | reading hfound hnone =>
      exact .reading hfound hnone
  | working h hold =>
      exact .working h fun hid => hactive _ hid (hold hid)

/-- A row that is read is pending, so it is not withdrawn. -/
theorem active_of_read {r : EmailOutbox} {o : Outcome}
    (h : (attempt (emailExec dep) .database (.findByIdEmailPending id) o w).2 = .ok (some r)) :
    (attempt (emailExec dep) .database (.findByIdEmailPending id) o w).1.active r.id = true := by
  cases o with
  | ok =>
      simp only [attempt, emailExec, Except.ok.injEq] at h ⊢
      obtain ⟨hfind, hpending⟩ := Option.filter_eq_some_iff.mp h
      rw [EmailWorld.active, show r.id = id from Table.find_key hfind, hfind]
      simp [of_decide_eq_true hpending]
  | _ =>
      cases h

/-- The stage after a statement -/
theorem Stage.next
    {s : EmailStmt} {k : Except EmailFailure (EmailResponse s) → EmailService EmailAnswer}
    (h : Stage w (.call s k)) (o : Outcome) :
    Stage (attempt (emailExec dep) .database s o w).1
      (k (attempt (emailExec dep) .database s o w).2) := by
  cases h with
  | elsewhere h =>
      exact .elsewhere (h.2 _)
  | @reading id f hfound hnone =>
      by_cases hx : ∃ r, (attempt (emailExec dep) .database (.findByIdEmailPending id) o w).2 =
          .ok (some r)
      · obtain ⟨r, hr⟩ := hx
        have hactive := active_of_read hr
        rw [hr]
        exact .working (hfound r) fun _ => hactive
      · exact stage_of_finished (hnone _ fun r hr => hx ⟨r, hr⟩)
  | working h hold =>
      refine .working (h.2 _) fun _ => ?_
      refine attempt_of_exec (P := fun w w' : EmailWorld => w.active _ = true →
        w'.active _ = true) (fun _ h => h) (fun w' r hexec hactive => ?_) o (hold h.1.1)
      refine active_exec h.1.2 ?_ hactive hexec
      rintro email rfl
      exact absurd h.1.1 (by simp [heldRow])

/-! ### The handlers -/

theorem all_promiseAll_pair {P : EmailStmt → Prop} {s t : EmailStmt} (hs : P s) (ht : P t) :
    (promiseAll [s, t] : EmailService Unit).All P := by
  refine All.promiseAll fun x hx => ?_
  rcases List.mem_pair.mp hx with rfl | rfl
  · exact hs
  · exact ht

theorem signVerifyCode_apart : signVerifyCode.All Apart :=
  (All.await trivial).bind fun _ => trivial

theorem createVerification_elsewhere
    (type : VerificationType) (templateKey : TemplateKey) (userId : Nat) (email : String)
    (expiresAt : Nat) :
    (createVerification type templateKey userId email expiresAt).All Elsewhere :=
  (All.await trivial).bind fun _ => (All.await trivial).bind fun _ => trivial

theorem sendRegisterVerification_elsewhere (user : AuthMe) (originUrl : Option String) :
    (sendRegisterVerification user originUrl).All Elsewhere :=
  (signVerifyCode_apart.mono fun _ => Apart.elsewhere).bind fun _ =>
    (createVerification_elsewhere _ _ _ _ _).bind fun _ => All.await trivial

theorem signTokenPair_apart (payload : JwtPayload) : (signTokenPair payload).All Apart :=
  (All.await trivial).bind fun _ => (All.await trivial).bind fun _ => trivial

theorem openAccount_apart (userId roleId : Nat) (refreshToken userAgent ip : String) :
    (openAccount dep userId roleId refreshToken userAgent ip).All Apart := by
  refine (All.await trivial).bind fun _ => All.promiseAll fun s hs => ?_
  simp only [List.mem_cons, List.not_mem_nil, or_false] at hs
  rcases hs with rfl | rfl | rfl <;> trivial

theorem register_elsewhere
    (body : RegisterRequestDto) (userAgent ip originUrl : String)
    (guestSessionId : Option String) :
    (register dep body userAgent ip originUrl guestSessionId).All Elsewhere := by
  unfold register
  split_ifs
  · trivial
  refine (All.await trivial).bind fun existsEmail => ?_
  split_ifs
  · trivial
  refine (All.await trivial).bind fun passwordHash => (All.await trivial).bind fun user => ?_
  refine ((signTokenPair_apart _).mono fun _ => Apart.elsewhere).bind fun signature =>
    (All.await trivial).bind fun role => ?_
  cases role with
  | none =>
      trivial
  | some role =>
      refine ((openAccount_apart _ _ _ _ _).mono fun _ => Apart.elsewhere).bind fun _ =>
        (sendRegisterVerification_elsewhere _ _).bind fun _ => ?_
      cases truthy guestSessionId with
      | none =>
          trivial
      | some guestSessionId =>
          exact (All.await trivial).bind fun _ => trivial

theorem verifyEmail_apart (token : String) : (verifyEmail dep token).All Apart := by
  refine (All.await trivial).bind fun verification => ?_
  cases verification with
  | none =>
      trivial
  | some verification =>
      refine (All.await trivial).bind fun now => ?_
      split_ifs
      · exact (All.await trivial).bind fun _ => trivial
      refine (All.await trivial).bind fun _ => ?_
      cases verification.userId with
      | none =>
          trivial
      | some userId =>
          dsimp only
          split_ifs
          · trivial
          · exact (All.await trivial).bind fun _ => trivial

theorem resendEmail_elsewhere (email : String) : (resendEmail email).All Elsewhere := by
  refine (All.await trivial).bind fun user => ?_
  cases user with
  | none =>
      trivial
  | some user =>
      dsimp only
      split_ifs
      · trivial
      refine (All.await trivial).bind fun _ => (All.alongside trivial (All.await trivial)).bind
        fun _ => (All.await trivial).bind fun _ => ?_
      split_ifs
      · trivial
      · exact (All.await trivial).bind fun _ => (all_promiseAll_pair trivial trivial).bind
          fun _ => (sendRegisterVerification_elsewhere _ _).bind fun _ => trivial

theorem forgotPassword_elsewhere (email : String) : (forgotPassword email).All Elsewhere := by
  refine (All.await trivial).bind fun user => ?_
  cases user with
  | none =>
      trivial
  | some user =>
      exact (signVerifyCode_apart.mono fun _ => Apart.elsewhere).bind fun _ =>
        (createVerification_elsewhere _ _ _ _ _).bind fun _ =>
          (All.await trivial).bind fun _ => trivial

theorem validateResetPasswordToken_apart (token : String) :
    (validateResetPasswordToken dep token).All Apart := by
  refine (All.await trivial).bind fun verification => ?_
  cases verification with
  | none =>
      trivial
  | some verification =>
      refine (All.await trivial).bind fun now => ?_
      split_ifs
      · exact (All.await trivial).bind fun _ => trivial
      · trivial

theorem resetPassword_apart (body : ResetPasswordRequestDto) :
    (resetPassword dep body).All Apart := by
  unfold resetPassword
  split_ifs
  · trivial
  refine (All.await trivial).bind fun verification => ?_
  cases verification with
  | none =>
      trivial
  | some verification =>
      refine (All.await trivial).bind fun now => ?_
      split_ifs
      · exact (All.await trivial).bind fun _ => trivial
      refine (All.await trivial).bind fun user => ?_
      cases user with
      | none =>
          trivial
      | some user =>
          exact (All.await trivial).bind fun _ => (All.await trivial).bind fun _ =>
            (All.await trivial).bind fun _ => trivial

theorem emailHandler_elsewhere (r : EmailRequest) : (emailHandler dep r).All Elsewhere := by
  cases r with
  | register body userAgent ip originUrl guestSessionId =>
      exact register_elsewhere body userAgent ip originUrl guestSessionId
  | verifyEmail token =>
      exact (verifyEmail_apart token).mono fun _ => Apart.elsewhere
  | resendEmail email =>
      exact resendEmail_elsewhere email
  | forgotPassword email =>
      exact forgotPassword_elsewhere email
  | validateResetPasswordToken token =>
      exact (validateResetPasswordToken_apart token).mono fun _ => Apart.elsewhere
  | resetPassword body =>
      exact (resetPassword_apart body).mono fun _ => Apart.elsewhere

theorem handleJob_holding (job : EmailJob) (r : EmailOutbox) :
    Holding r.id (handleJob dep job r) := by
  have hlink : ∀ codeId token mail, mail.outboxId = r.id →
      Holding r.id (sendLink dep r codeId token mail) := fun codeId token mail hmail =>
    (Holding.await rfl (by simp)).bind fun _ => (Holding.await rfl (by simp)).bind fun _ =>
      Holding.await (congrArg some hmail) (by simp)
  unfold handleJob
  split
  · refine (Holding.await rfl (by simp)).bind fun token => ?_
    split
    · exact hlink _ _ _ rfl
    · exact hlink _ _ _ rfl
    · trivial
  · split_ifs
    · unfold handleOrderEmail
      split
      · trivial
      · exact Holding.await rfl (by simp)
    · trivial

theorem process_stage (job : EmailJob) : Stage w (process dep job) := by
  refine .reading (fun r => ?_) fun x hx => ?_
  · exact Holding.tryCatch ((handleJob_holding job r).bind fun _ =>
      (Holding.await rfl (by simp)).bind fun _ => trivial)
      fun _ => (Holding.await rfl (by simp)).bind fun _ => trivial
  · rcases x with e | _ | r
    · rfl
    · rfl
    · exact absurd rfl (hx r)

/-! ### Steps -/

/-- **One step.** No worker is at a row that is withdrawn. -/
theorem staged_step
    (hfree : CancelsFree dep c a)
    (hc : Staged c)
    (hstep : (emailServer dep).step c a = some c') :
    Staged c' := by
  have hold : ∀ p, p ∈ c.threads → Stage c'.world p := by
    intro p hp
    refine (hc p hp).of_active fun id hid hactive => ?_
    cases a with
    | env event =>
        obtain ⟨q, hq⟩ := System.step_env_world (emailServer dep) hstep
        rcases emailServer_env hq with hw | ⟨ms, hw⟩ <;> rw [hw] <;> exact hactive
    | run i j o =>
        rcases System.step_run_world (emailServer dep) hstep with ⟨s, hs, hw⟩ | ⟨-, hw⟩
        · obtain ⟨k, hi⟩ := call_of_nextStatement hs
          have hne := (hc _ (List.mem_of_getElem? hi)).ne_cancelled
          simp only [CancelsFree, hs] at hfree
          rw [hw]
          refine attempt_cases (motive := fun x => EmailWorld.active x.1 id = true)
            (fun _ => hactive) fun w' r ho hexec => ?_
          have hactive' : w'.active id = true := by
            refine active_exec hne ?_ hactive hexec
            rintro email rfl
            have hall := (hfree.resolve_left ho)
            have hnone := List.all_eq_true.mp hall p hp
            rw [hid] at hnone
            simpa using hnone
          exact ⟨hactive', hactive'⟩
        · rw [hw]
          exact hactive
  refine threads_step (Q := Stage c'.world) ?_ ?_ hold hstep
  · intro event w' p ha henv
    cases event with
    | arrive r =>
        cases henv
        exact .elsewhere (emailHandler_elsewhere r)
    | work n =>
        obtain ⟨job, -, hw⟩ := Option.map_eq_some_iff.mp henv
        cases hw
        exact process_stage job
    | tick ms =>
        cases henv
  · rintro i j o p w' p' left rfl hi hadvance
    have hp := hold p (List.mem_of_getElem? hi)
    cases p with
    | ret b =>
        cases hadvance
    | raise e =>
        cases hadvance
    | call s k =>
        cases hadvance
        have hw := (System.step_call (emailServer dep) hi hstep).1
        rw [hw]
        exact ⟨(hc _ (List.mem_of_getElem? hi)).next o, fun q hq => by cases hq⟩
    | pick n k =>
        simp only [System.advance] at hadvance
        split at hadvance
        · cases hadvance
          refine ⟨?_, fun q hq => by cases hq⟩
          cases hp with
          | elsewhere h =>
              exact .elsewhere (h _)
          | working h _ =>
              exact h.elim
        · cases hadvance
    | leave s p =>
        cases hadvance
        cases hp with
        | elsewhere h =>
            refine ⟨.elsewhere h.2, fun q hq => ?_⟩
            rw [List.mem_singleton.mp hq]
            exact .elsewhere ⟨h.1, fun _ => trivial⟩
        | working h _ =>
            exact h.elim

/-- **One step.** A withdrawn row stays withdrawn. -/
theorem cancelled_step
    (hc : Staged c)
    (hcancelled : c.world.cancelled id = true)
    (hstep : (emailServer dep).step c a = some c') :
    c'.world.cancelled id = true := by
  cases a with
  | env event =>
      obtain ⟨q, hq⟩ := System.step_env_world (emailServer dep) hstep
      rcases emailServer_env hq with hw | ⟨ms, hw⟩ <;> rw [hw] <;> exact hcancelled
  | run i j o =>
      rcases System.step_run_world (emailServer dep) hstep with ⟨s, hs, hw⟩ | ⟨-, hw⟩
      · obtain ⟨k, hi⟩ := call_of_nextStatement hs
        rw [hw]
        refine attempt_of_exec (P := fun w w' : EmailWorld => w.cancelled id = true →
          w'.cancelled id = true) (fun _ h => h) (fun w' r hexec h => ?_) o hcancelled
        refine cancelled_exec (fun status hstatus => ?_) h hexec
        subst hstatus
        exact (hc _ (List.mem_of_getElem? hi)).active_of_held rfl
      · rw [hw]
        exact hcancelled

end Email
end BookStore
