import BookStore.Async.Amid
import BookStore.Email.Services

/-!
# Attempts of a mail job

A job of the mail queue is attempted up to `emailJobAttempts` times.  `process` looks for a
pending row, and an attempt that fails leaves the row failed: the attempts after it find
nothing and end without an error.

`Attempts` runs the attempts one after another while others leave the row alone; `transport k`
says whether the transport would take the mail in attempt `k`.
-/

namespace BookStore
namespace Email

open Async Program

/-- How many mails were sent for the row. -/
def EmailWorld.mailsFor (w : EmailWorld) (outboxId : Nat) : Nat :=
  w.mails.countP fun m => decide (m.outboxId = outboxId)

/-- Others leave the row and its mails alone, and delete no code. -/
structure LeavesAlone (outboxId : Nat) (w v : EmailWorld) : Prop where
  row : v.outbox.find outboxId = w.outbox.find outboxId
  mails : v.mailsFor outboxId = w.mailsFor outboxId
  codes : ∀ c, (w.codes.find c).isSome → (v.codes.find c).isSome

/-- The statements are executed, and the transport takes the mail or refuses it. -/
def TransportTakes (taken : Bool) (s : EmailStmt) (o : Outcome) : Prop :=
  match s with
  | .sendMail _ => o = if taken then .ok else .fail
  | _ => o = .ok

variable (dep : EmailDeployment)

/-- Attempts number `k` and up to `n` of them; one that throws is followed by the next. -/
def Attempts (job : EmailJob) (transport : Nat → Bool) :
    Nat → Nat → EmailWorld → EmailWorld → Prop
  | _, 0, w, w' => w' = w
  | k, n + 1, w, w' =>
      ∃ v x, (process dep job).Amid (emailExec dep) .database (LeavesAlone job.outboxId)
          (TransportTakes (transport k)) w v x ∧
        match x with
        | .ok _ => w' = v
        | .error _ => Attempts job transport (k + 1) n v w'

/-- The job that was added for the row. -/
inductive JobOf (w : EmailWorld) (r : EmailOutbox) : EmailJob → Prop
  | outboxEmail (verificationCodeId : Nat) (originUrl : Option String) :
      r.templateKey = .otpRegister ∨ r.templateKey = .otpForgotPassword →
      (w.codes.find verificationCodeId).isSome →
      JobOf w r (outboxEmailJob r.id verificationCodeId originUrl)
  | orderEmail (payload : OrderEmailPayload) :
      r.templateKey = .orderEmail → r.payload = some payload →
      JobOf w r (orderEmailJob r.id)

/-- What is expected of the attempts of a job. -/
structure RetriesRetry
    (job : EmailJob) (transport : Nat → Bool) (w w' : EmailWorld) : Prop where
  sent : w.mailsFor job.outboxId < w'.mailsFor job.outboxId ↔
    ∃ k, k < job.attempts ∧ transport k = true
  once : w'.mailsFor job.outboxId ≤ w.mailsFor job.outboxId + 1
  status : ∃ r, w'.outbox.find job.outboxId = some r ∧ r.status =
    if w.mailsFor job.outboxId < w'.mailsFor job.outboxId then .sent else .failed

variable {dep} {w w' v : EmailWorld} {r : EmailOutbox} {n : Nat} {taken : Bool}

/-- The row as it is now, and the number of its mails. -/
structure RowIs (r : EmailOutbox) (n : Nat) (w : EmailWorld) : Prop where
  row : w.outbox.find r.id = some r
  mails : w.mailsFor r.id = n

theorem LeavesAlone.refl (outboxId : Nat) (w : EmailWorld) : LeavesAlone outboxId w w :=
  ⟨rfl, rfl, fun _ h => h⟩

theorem RowIs.leavesAlone (hw : RowIs r n w) (h : LeavesAlone r.id w v) : RowIs r n v :=
  ⟨h.row.trans hw.row, h.mails.trans hw.mails⟩

/-! ### One statement -/

theorem RowIs.setStatus (hw : RowIs r n w) (status : EmailStatus) :
    ∃ w', emailExec dep (.updateByIdEmailStatus r.id status) w = .ok (w', ()) ∧
      RowIs (setStatus status r) n w' := by
  refine ⟨{ w with
    outbox := w.outbox.update r.id (Email.setStatus status) (key_setStatus status) },
    by simp only [emailExec, hw.row], ?_, hw.mails⟩
  refine (Table.find_update w.outbox r.id _ (key_setStatus status) r.id).trans ?_
  rw [if_pos rfl, hw.row]
  rfl

theorem RowIs.updateCodeHash
    (hw : RowIs r n w) {c : Nat} (hc : (w.codes.find c).isSome) (codeHash : String) :
    ∃ w', emailExec dep (.updateCodeHash c codeHash r.id) w = .ok (w', ()) ∧ RowIs r n w' := by
  obtain ⟨row, hrow⟩ := Option.isSome_iff_exists.mp hc
  exact ⟨{ w with
    codes := w.codes.update c (setCodeHash codeHash) (key_setCodeHash codeHash) },
    by simp only [emailExec, hrow], hw.row, hw.mails⟩

theorem RowIs.sendMail (hw : RowIs r n w) {m : Mail} (hm : m.outboxId = r.id) :
    ∃ w', emailExec dep (.sendMail m) w = .ok (w', ()) ∧ RowIs r (n + 1) w' := by
  refine ⟨{ w with mails := w.mails ++ [m] }, rfl, hw.row, ?_⟩
  rw [EmailWorld.mailsFor, List.countP_append, List.countP_singleton, if_pos (by simpa using hm)]
  exact congrArg (· + 1) hw.mails

/-! ### One attempt -/

section Attempt

variable {β : Type} {Q : Except EmailFailure β → EmailWorld → Prop}
variable {f : Unit → EmailService β}

/-- Whatever the worker ends in meets `Q`. -/
abbrev WorkerEnsures (dep : EmailDeployment) (outboxId : Nat) (taken : Bool)
    (Q : Except EmailFailure β → EmailWorld → Prop) (p : EmailService β) (w : EmailWorld) : Prop :=
  Ensures (emailExec dep) .database (LeavesAlone outboxId) (TransportTakes taken) Q p w

/-- A status is written. -/
theorem worker_setStatus
    (hw : RowIs r n w) (status : EmailStatus)
    (h : ∀ w', RowIs (setStatus status r) n w' → WorkerEnsures dep r.id taken Q (f ()) w') :
    WorkerEnsures dep r.id taken Q
      ((emailQuery (.updateByIdEmailStatus r.id status)).bind f) w := by
  refine Ensures.await_bind_done (fun _ ho => ho) fun v hv => ?_
  obtain ⟨w', hexec, hw'⟩ := (hw.leavesAlone hv).setStatus status
  exact ⟨w', (), hexec, h w' hw'⟩

/-- The transport takes the mail, or the handler fails. -/
theorem worker_sendMail {m : Mail}
    (hm : m.outboxId = r.id)
    (hw : RowIs r n w)
    (htaken : ∀ w', taken = true → RowIs r (n + 1) w' → WorkerEnsures dep r.id taken Q (f ()) w')
    (hrefused : ∀ w', taken = false → RowIs r n w' → Q (.error .database) w') :
    WorkerEnsures dep r.id taken Q ((emailQuery (.sendMail m)).bind f) w := by
  cases taken with
  | true =>
      refine Ensures.await_bind_done (fun _ ho => ho) fun v hv => ?_
      obtain ⟨w', hexec, hw'⟩ := (hw.leavesAlone hv).sendMail hm
      exact ⟨w', (), hexec, htaken w' rfl hw'⟩
  | false =>
      exact Ensures.await_bind_fail (fun _ ho => ho)
        fun v hv => hrefused v rfl (hw.leavesAlone hv)

/-- The link is stored and sent. -/
theorem worker_sendLink {m : Mail} {verificationCodeId : Nat} {token : String}
    (hm : m.outboxId = r.id)
    (hw : RowIs r n w)
    (hcode : (w.codes.find verificationCodeId).isSome)
    (htaken : ∀ w', taken = true → RowIs (setStatus .sending r) (n + 1) w' →
      WorkerEnsures dep r.id taken Q (f ()) w')
    (hrefused : ∀ w', taken = false → RowIs (setStatus .sending r) n w' →
      Q (.error .database) w') :
    WorkerEnsures dep r.id taken Q ((sendLink dep r verificationCodeId token m).bind f) w := by
  simp only [sendLink, bind_eq_bind, Program.bind_assoc]
  refine Ensures.await_bind_done (fun _ ho => ho) fun v hv => ?_
  obtain ⟨v', hexec, hv'⟩ := (hw.leavesAlone hv).updateCodeHash (hv.codes _ hcode) _
  refine ⟨v', (), hexec, worker_setStatus hv' .sending fun w' hw' => ?_⟩
  exact worker_sendMail (r := setStatus .sending r) hm hw' htaken hrefused

/-- The mail of a job: it is sent, or the attempt fails. -/
theorem worker_handleJob {job : EmailJob}
    (hjob : JobOf w r job)
    (hw : RowIs r n w)
    (htaken : ∀ status w', taken = true → RowIs (setStatus status r) (n + 1) w' →
      WorkerEnsures dep r.id taken Q (f ()) w')
    (hrefused : ∀ status w', taken = false → RowIs (setStatus status r) n w' →
      Q (.error .database) w') :
    WorkerEnsures dep r.id taken Q ((handleJob dep job r).bind f) w := by
  cases hjob with
  | outboxEmail verificationCodeId originUrl htemplate hcode =>
      simp only [handleJob, outboxEmailJob, handleVerifyEmail, bind_eq_bind, Program.bind_assoc]
      refine Ensures.await_bind_done (fun _ ho => ho) fun v hv => ?_
      have hcode := hv.codes _ hcode
      have hv := hw.leavesAlone hv
      refine ⟨_, _, rfl, ?_⟩
      rcases htemplate with htemplate | htemplate <;> rw [htemplate]
      · exact worker_sendLink rfl ⟨hv.row, hv.mails⟩ hcode (htaken .sending) (hrefused .sending)
      · exact worker_sendLink rfl ⟨hv.row, hv.mails⟩ hcode (htaken .sending) (hrefused .sending)
  | orderEmail payload htemplate hpayload =>
      simp only [handleJob, orderEmailJob, htemplate, if_true, handleOrderEmail, hpayload]
      exact worker_sendMail rfl hw (htaken r.status) (hrefused r.status)

/-- What an attempt leaves behind. -/
structure Attempted (r : EmailOutbox) (n : Nat) (taken : Bool)
    (x : Except EmailFailure EmailAnswer) (w : EmailWorld) : Prop where
  answer : x.isOk = taken
  row : RowIs (setStatus (if taken then .sent else .failed) r) (if taken then n + 1 else n) w

/-- **An attempt** at a pending row -/
theorem process_pending {job : EmailJob} {x : Except EmailFailure EmailAnswer}
    (hjob : JobOf w r job)
    (hw : RowIs r n w)
    (hpending : r.status = .pending)
    (h : (process dep job).Amid (emailExec dep) .database (LeavesAlone job.outboxId)
      (TransportTakes taken) w w' x) :
    Attempted r n taken x w' := by
  have hid : job.outboxId = r.id := by
    cases hjob <;> rfl
  revert h
  suffices hensures : WorkerEnsures dep r.id taken (Attempted r n taken) (process dep job) w by
    rw [hid]
    exact hensures w' x
  rw [process, hid]
  refine Ensures.await_bind_done (fun _ ho => ho) fun v hv => ?_
  have hjob : JobOf v r job := by
    cases hjob with
    | outboxEmail verificationCodeId originUrl htemplate hcode =>
        exact .outboxEmail verificationCodeId originUrl htemplate (hv.codes _ hcode)
    | orderEmail payload htemplate hpayload =>
        exact .orderEmail payload htemplate hpayload
  have hv := hw.leavesAlone hv
  refine ⟨v, some r, by simp [emailExec, hv.row, hpending], ?_⟩
  -- what the `try` block ends in, and then the `catch` block
  have htry : WorkerEnsures dep r.id taken
      (fun x u => match x with
        | .ok _ => Attempted r n taken x u
        | .error _ => taken = false ∧ ∃ status, RowIs (setStatus status r) n u)
      ((handleJob dep job r).bind fun _ =>
        (emailQuery (.updateByIdEmailStatus r.id .sent)).bind fun _ =>
          ret EmailAnswer.processed) v := by
    refine worker_handleJob hjob hv (fun status u htaken hu => ?_) fun status u hrefused hu =>
      ⟨hrefused, status, hu⟩
    refine worker_setStatus hu .sent fun u' hu' => ensures_ret ?_
    subst htaken
    exact ⟨rfl, hu'⟩
  refine Ensures.tryCatch (fun u a hu => htry u _ hu) fun u e hu => ?_
  obtain ⟨hrefused, status, hu⟩ := htry u _ hu
  refine worker_setStatus hu .failed fun u' hu' => ensures_raise ?_
  subst hrefused
  exact ⟨rfl, hu'⟩

/-- An attempt at a row that is not pending -/
theorem process_not_pending {job : EmailJob} {x : Except EmailFailure EmailAnswer}
    (hid : job.outboxId = r.id)
    (hw : RowIs r n w)
    (hpending : r.status ≠ .pending)
    (h : (process dep job).Amid (emailExec dep) .database (LeavesAlone job.outboxId)
      (TransportTakes taken) w w' x) :
    x.isOk = true ∧ RowIs r n w' := by
  revert h
  suffices hensures : WorkerEnsures dep r.id taken (fun x w' => x.isOk = true ∧ RowIs r n w')
      (process dep job) w by
    rw [hid]
    exact hensures w' x
  rw [process, hid]
  refine Ensures.await_bind_done (fun _ ho => ho) fun v hv => ?_
  have hv := hw.leavesAlone hv
  exact ⟨v, none, by simp [emailExec, hv.row, hpending], ensures_ret ⟨rfl, hv⟩⟩

end Attempt

/-! ### All attempts -/

theorem attempts_not_pending
    {job : EmailJob} {transport : Nat → Bool} {k m : Nat}
    (hid : job.outboxId = r.id)
    (hw : RowIs r n w)
    (hpending : r.status ≠ .pending)
    (h : Attempts dep job transport k m w w') :
    RowIs r n w' := by
  cases m with
  | zero =>
      cases h
      exact hw
  | succ m =>
      obtain ⟨v, x, hprocess, hrest⟩ := h
      obtain ⟨hx, hv⟩ := process_not_pending hid hw hpending hprocess
      cases x with
      | ok a =>
          cases hrest
          exact hv
      | error e =>
          cases hx

/-- What the attempts come to is decided in the first of them. -/
theorem attempts_pending
    {job : EmailJob} {transport : Nat → Bool} {k m : Nat}
    (hjob : JobOf w r job)
    (hw : RowIs r n w)
    (hpending : r.status = .pending)
    (h : Attempts dep job transport k (m + 1) w w') :
    RowIs (setStatus (if transport k then .sent else .failed) r)
      (if transport k then n + 1 else n) w' := by
  have hid : job.outboxId = r.id := by
    cases hjob <;> rfl
  obtain ⟨v, x, hprocess, hrest⟩ := h
  obtain ⟨hx, hv⟩ := process_pending hjob hw hpending hprocess
  cases x with
  | ok a =>
      cases hrest
      exact hv
  | error e =>
      have hrefused : transport k = false := hx.symm
      rw [hrefused] at hv ⊢
      exact attempts_not_pending hid hv (by simp [setStatus]) hrest

theorem exists_transportTakes (taken : Bool) (s : EmailStmt) :
    ∃ o, TransportTakes taken s o := by
  cases s <;> exact ⟨_, rfl⟩

theorem handleJob_live (dep : EmailDeployment) (job : EmailJob) (outBox : EmailOutbox) :
    (handleJob dep job outBox).Live := by
  have hlink : ∀ c token mail, (sendLink dep outBox c token mail).Live := fun c token mail =>
    (Live.await _).bind fun _ => (Live.await _).bind fun _ => Live.await _
  unfold handleJob
  split
  · refine (Live.await _).bind fun token => ?_
    split
    · exact hlink _ _ _
    · exact hlink _ _ _
    · trivial
  · split_ifs
    · unfold handleOrderEmail
      split
      · trivial
      · exact Live.await _
    · trivial

theorem process_live (dep : EmailDeployment) (job : EmailJob) : (process dep job).Live := by
  refine (Live.await _).bind fun outBox => ?_
  cases outBox with
  | none =>
      trivial
  | some outBox =>
      refine Live.tryCatch ?_ fun er => ?_
      · exact (handleJob_live dep job outBox).bind fun _ => (Live.await _).bind fun _ => trivial
      · exact (Live.await _).bind fun _ => trivial

/-- The attempts take place, whatever the transport does. -/
theorem exists_attempts
    (dep : EmailDeployment) (job : EmailJob) (transport : Nat → Bool) (k m : Nat)
    (w : EmailWorld) :
    ∃ w', Attempts dep job transport k m w w' := by
  induction m generalizing k w with
  | zero =>
      exact ⟨w, rfl⟩
  | succ m ih =>
      obtain ⟨v, x, h⟩ : ∃ v x, (process dep job).Amid (emailExec dep) .database
          (LeavesAlone job.outboxId) (TransportTakes (transport k)) w v x :=
        exists_amid (LeavesAlone.refl job.outboxId) (exists_transportTakes (transport k))
          (process_live dep job) w
      cases x with
      | ok a =>
          exact ⟨v, v, .ok a, h, rfl⟩
      | error e =>
          obtain ⟨w', hrest⟩ := ih (k + 1) v
          exact ⟨w', v, .error e, h, hrest⟩

/--
The attempts of a job do what is expected of them exactly if the transport takes the mail in
the first attempt, or in none.
-/
theorem retries_iff
    (dep : EmailDeployment) {w w' : EmailWorld} {r : EmailOutbox} {job : EmailJob}
    {transport : Nat → Bool}
    (hr : w.outbox.find r.id = some r)
    (hpending : r.status = .pending)
    (hjob : JobOf w r job)
    (hrun : Attempts dep job transport 0 job.attempts w w') :
    RetriesRetry job transport w w' ↔
      transport 0 = true ∨ ∀ k, k < job.attempts → transport k = false := by
  have hid : job.outboxId = r.id := by
    cases hjob <;> rfl
  have hattempts : job.attempts = 2 + 1 := by
    cases hjob <;> rfl
  rw [hattempts] at hrun
  obtain ⟨hrow, hmails⟩ := attempts_pending hjob ⟨hr, rfl⟩ hpending hrun
  change w'.outbox.find r.id = _ at hrow
  change w'.mailsFor r.id = _ at hmails
  cases hfirst : transport 0 with
  | true =>
      rw [hfirst, if_pos rfl] at hrow hmails
      refine iff_of_true ?_ (.inl rfl)
      constructor
      · rw [hid, hmails]
        exact iff_of_true (Nat.lt_succ_self _) ⟨0, by omega, hfirst⟩
      · rw [hid, hmails]
      · rw [hid, hmails, if_pos (Nat.lt_succ_self _)]
        exact ⟨_, hrow, rfl⟩
  | false =>
      rw [hfirst, if_neg Bool.false_ne_true] at hrow hmails
      have hnone : ¬ w.mailsFor job.outboxId < w'.mailsFor job.outboxId := by
        rw [hid, hmails]
        exact Nat.lt_irrefl _
      constructor
      · intro h
        refine .inr fun k hk => Bool.eq_false_iff.mpr fun hk' => ?_
        exact hnone (h.sent.mpr ⟨k, hk, hk'⟩)
      · rintro (h | h)
        · cases h
        refine ⟨iff_of_false hnone ?_, ?_, ?_⟩
        · rintro ⟨k, hk, hk'⟩
          rw [h k hk] at hk'
          cases hk'
        · rw [hid, hmails]
          exact Nat.le_succ _
        · rw [if_neg hnone, hid]
          exact ⟨_, hrow, rfl⟩

/-- The mail of a new address waits in the outbox. -/
def samplePending : EmailWorld :=
  { sampleEmailWorld with
    codes := (Table.empty : Table VerificationCode).insert (newCode 1 "a" 3600000 .register)
      (key_newCode 1 "a" 3600000 .register)
    outbox := (Table.empty : Table EmailOutbox).insert (newOutbox "a" .otpRegister 0)
      (key_newOutbox "a" .otpRegister 0) }

theorem samplePending_jobOf :
    JobOf samplePending (newOutbox "a" .otpRegister 0 1) (outboxEmailJob 1 1 none) :=
  .outboxEmail 1 none (.inl rfl) (by decide)

/-- The transport takes the mail at once. -/
theorem retries_iff_firstAttempt :
    ∃ w', Attempts sampleEmail (outboxEmailJob 1 1 none) (fun _ => true) 0 3 samplePending w' ∧
      RetriesRetry (outboxEmailJob 1 1 none) (fun _ => true) samplePending w' := by
  obtain ⟨w', hrun⟩ := exists_attempts sampleEmail (outboxEmailJob 1 1 none) (fun _ => true) 0 3
    samplePending
  exact ⟨w', hrun, (retries_iff sampleEmail (by decide) rfl samplePending_jobOf hrun).mpr
    (.inl rfl)⟩

/-- The transport refuses the mail in the first attempt only, and the mail is never sent. -/
theorem secondAttempt_sends_nothing :
    ∃ w', Attempts sampleEmail (outboxEmailJob 1 1 none) (fun k => decide (k = 1)) 0 3
        samplePending w' ∧
      w'.mailsFor 1 = 0 ∧
      ¬ RetriesRetry (outboxEmailJob 1 1 none) (fun k => decide (k = 1)) samplePending w' := by
  obtain ⟨w', hrun⟩ := exists_attempts sampleEmail (outboxEmailJob 1 1 none)
    (fun k => decide (k = 1)) 0 3 samplePending
  have hmails : w'.mailsFor 1 = 0 :=
    (attempts_pending samplePending_jobOf ⟨by decide, rfl⟩ rfl hrun).mails
  refine ⟨w', hrun, hmails, fun h => ?_⟩
  have hsent := h.sent.mpr ⟨1, by decide, rfl⟩
  change 0 < w'.mailsFor 1 at hsent
  omega

end Email
end BookStore
