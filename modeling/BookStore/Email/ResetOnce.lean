import BookStore.Async.Everywhere
import BookStore.Async.Sends
import BookStore.Email.Services

/-!
# A reset link is used once

`resetPassword` finds an unused code, writes the password and marks the code as used, in three
statements.  Calls that present one token may come between one another.

`OneWriter` is what a run needs for the token to change a password once: a password is written
while the code is unused and no other call stands between its write and its mark, and the
answer of the write and the mark are not lost.  The other half needs nothing: until a password
has been changed the token can be used.
-/

namespace BookStore
namespace Email

open Async Program

/-- The code with the id `k` is the one that the token resets a password with, until `e`. -/
structure ResetLink (dep : EmailDeployment) (token email : String) (k e : Nat) (w : EmailWorld) :
    Prop where
  row : ∃ c, w.codes.find k = some c ∧ c.type = .forgotPassword ∧
    c.codeHash = some (dep.hashToken token) ∧ c.isFor dep.toAuthDeployment email = true ∧
    c.expiresAt = e
  only : ∀ c, c ∈ w.codes.rows → c.type = .forgotPassword →
    c.codeHash = some (dep.hashToken token) → c.id = k

/-- The code is not marked as used. -/
def EmailWorld.unused (w : EmailWorld) (k : Nat) : Bool :=
  (w.codes.find k).any fun c => c.usedAt.isNone

/-- How often a password was changed with the token. -/
def EmailWorld.resetsWith (w : EmailWorld) (token : String) : Nat :=
  w.history.resets.count token

/-- Calls of `resetPassword` and `validateResetPasswordToken`, and time that passes -/
def ResetEvent : EmailEvent → Prop
  | .arrive (.resetPassword _) => True
  | .arrive (.validateResetPasswordToken _) => True
  | .tick _ => True
  | _ => False

/-- The call has written the password and is about to mark the code. -/
def closes (k : Nat) : EmailService EmailAnswer → Bool
  | .call (.markUsedById id _) f => decide (id = k) && decide ((f (.ok ())).answer = some .success)
  | _ => false

/-- The statements of the two functions -/
def ResetStmt : EmailStmt → Prop
  | .findActiveForgotByCodeHash _ _ => True
  | .auth .newDate => True
  | .auth (.findAuthByEmailPassword _) => True
  | .bcryptHash _ => True
  | .updatePassword _ _ _ _ => True
  | .markUsedById _ _ => True
  | _ => False

variable {dep : EmailDeployment} {token email : String} {k e : Nat} {w w' v : EmailWorld}

/-! ### One statement -/

theorem newDate_exec {r : Nat} (h : emailExec dep (.auth .newDate) w = .ok (w', r)) :
    w' = w ∧ r = w.auth.now := by
  simp only [emailExec, authExec, Except.ok.injEq, Prod.mk.injEq] at h
  exact ⟨h.1.symm, h.2.symm⟩

/-- Codes are only marked as used. -/
theorem resetStmt_codes
    {s : EmailStmt} {r : EmailResponse s} (hs : ResetStmt s)
    (h : emailExec dep s w = .ok (w', r)) :
    w'.codes = w.codes ∨ ∃ id usedAt, s = .markUsedById id usedAt ∧
      w'.codes = w.codes.update id (setUsedAt usedAt) (key_setUsedAt usedAt) := by
  have heff := emailExec_effects dep h
  cases s with
  | markUsedById id usedAt =>
      exact .inr ⟨id, usedAt, rfl, heff.codes⟩
  | updatePassword userId password presented verificationCodeId =>
      exact .inl heff.codes
  | findActiveForgotByCodeHash codeHash email =>
      exact .inl heff.codes
  | bcryptHash password =>
      exact .inl heff.codes
  | auth s =>
      exact .inl heff.codes
  | _ =>
      exact hs.elim

theorem ResetLink.exec
    {s : EmailStmt} {r : EmailResponse s} (hs : ResetStmt s)
    (hw : ResetLink dep token email k e w)
    (h : emailExec dep s w = .ok (w', r)) :
    ResetLink dep token email k e w' := by
  rcases resetStmt_codes hs h with hcodes | ⟨id, usedAt, -, hcodes⟩
  · exact ⟨hcodes ▸ hw.row, hcodes ▸ hw.only⟩
  · constructor
    · obtain ⟨c, hc, hrow⟩ := hw.row
      rw [hcodes, Table.find_update]
      split_ifs with hk
      · rw [← hk, hc]
        exact ⟨_, rfl, hrow⟩
      · exact ⟨c, hc, hrow⟩
    · rw [hcodes]
      exact Table.forall_updateWhere (fun c hc _ => hw.only c hc) (fun c hc _ => hw.only c hc)

theorem unused_markUsedById
    {usedAt : Nat} (h : emailExec dep (.markUsedById k usedAt) w = .ok (w', ())) :
    w'.unused k = false := by
  have hcodes : w'.codes = w.codes.update k (setUsedAt usedAt) (key_setUsedAt usedAt) :=
    (emailExec_effects dep h).codes
  rw [EmailWorld.unused, hcodes, Table.find_update, if_pos rfl]
  cases w.codes.find k <;> rfl

theorem unused_of_other
    {s : EmailStmt} {r : EmailResponse s} (hs : ResetStmt s)
    (hother : ∀ usedAt, s ≠ .markUsedById k usedAt)
    (h : emailExec dep s w = .ok (w', r)) :
    w'.unused k = w.unused k := by
  unfold EmailWorld.unused
  rcases resetStmt_codes hs h with hcodes | ⟨id, usedAt, rfl, hcodes⟩
  · rw [hcodes]
  · have hid : k ≠ id := fun hid => hother usedAt (by rw [hid])
    rw [hcodes, Table.find_update, if_neg hid]

/-- A password that is changed is counted for the token presented. -/
theorem resetStmt_history
    {s : EmailStmt} {r : EmailResponse s} (hs : ResetStmt s)
    (h : emailExec dep s w = .ok (w', r)) :
    w'.history.resets = w.history.resets ∨ ∃ userId password presented id,
      s = .updatePassword userId password presented id ∧
        w'.history.resets = w.history.resets ++ [presented] := by
  have hhistory := (emailExec_effects dep h).history
  cases s with
  | updatePassword userId password presented id =>
      exact .inr ⟨userId, password, presented, id, rfl, congrArg EmailHistory.resets hhistory⟩
  | markUsedById id usedAt =>
      exact .inl (congrArg EmailHistory.resets hhistory)
  | findActiveForgotByCodeHash codeHash email =>
      exact .inl (congrArg EmailHistory.resets hhistory)
  | bcryptHash password =>
      exact .inl (congrArg EmailHistory.resets hhistory)
  | auth s =>
      exact .inl (congrArg EmailHistory.resets hhistory)
  | _ =>
      exact hs.elim

/-! ### What the calls send -/

/-- What lasts while the calls run. -/
structure ResetRely (dep : EmailDeployment) (token email : String) (k e : Nat)
    (w v : EmailWorld) : Prop where
  link : ResetLink dep token email k e w → ResetLink dep token email k e v
  now : w.auth.now ≤ v.auth.now
  resets : ∀ t, t ∈ w.history.resets → t ∈ v.history.resets

theorem ResetRely.refl (w : EmailWorld) : ResetRely dep token email k e w w :=
  ⟨fun h => h, Nat.le_refl _, fun _ h => h⟩

theorem ResetRely.trans {u : EmailWorld}
    (h : ResetRely dep token email k e u v) (h' : ResetRely dep token email k e v w) :
    ResetRely dep token email k e u w :=
  ⟨fun hu => h'.link (h.link hu), h.now.trans h'.now, fun t ht => h'.resets t (h.resets t ht)⟩

theorem resetRely_exec
    {s : EmailStmt} {r : EmailResponse s} (hs : ResetStmt s)
    (h : emailExec dep s w = .ok (w', r)) :
    ResetRely dep token email k e w w' := by
  refine ⟨fun hw => hw.exec hs h, (emailExec_effects dep h).now.ge, fun t ht => ?_⟩
  rcases resetStmt_history hs h with hsame | ⟨_, _, presented, _, -, hmore⟩
  · rwa [hsame]
  · rw [hmore]
    exact List.mem_append_left _ ht

/-- A password is written through the code of the token presented, and the code is marked
after it has expired or the password was changed. -/
def resetPromise (dep : EmailDeployment) (token email : String) (k e : Nat) :
    Promise EmailStmt EmailWorld where
  rely := ResetRely dep token email k e
  rely_refl := ResetRely.refl
  rely_trans := fun _ _ _ => ResetRely.trans
  sends := fun v s => ResetStmt s ∧
    match s with
    | .updatePassword _ _ presented id => presented = token → id = k
    | .markUsedById id _ => id = k → e < v.auth.now ∨ token ∈ v.history.resets
    | _ => True

/-- The code that a token presented finds. -/
theorem found_spec
    {presented : String} {email' : Option String} {verification : VerificationCode}
    (hv : ResetLink dep token email k e v)
    (h : emailExec dep (.findActiveForgotByCodeHash (dep.hashToken presented) email') v =
      .ok (w', some verification)) :
    w' = v ∧ (presented = token → verification.id = k) ∧
      (verification.id = k → presented = token ∧ verification.expiresAt = e) := by
  simp only [emailExec, Except.ok.injEq, Prod.mk.injEq] at h
  obtain ⟨rfl, hfind⟩ := h
  obtain ⟨hmem, hrow⟩ := Table.findFirst_eq_some hfind
  simp only [Bool.and_eq_true, decide_eq_true_eq] at hrow
  obtain ⟨⟨⟨htype, hhash⟩, -⟩, -⟩ := hrow
  refine ⟨rfl, fun hpresented => hv.only _ hmem htype (hpresented ▸ hhash), fun hid => ?_⟩
  obtain ⟨c, hc, -, hchash, -, hexpires⟩ := hv.row
  have heq : verification = c := by
    have := Table.find_of_mem hmem
    rw [show key verification = k from hid, hc] at this
    exact (Option.some.inj this).symm
  rw [heq, hchash, Option.some.injEq] at hhash
  exact ⟨(dep.hashToken_injective hhash).symm, heq ▸ hexpires⟩

/-- The handler keeps the promise. -/
abbrev ResetSends (dep : EmailDeployment) (token email : String) (k e : Nat)
    (p : EmailService EmailAnswer) (w : EmailWorld) : Prop :=
  Sends (resetPromise dep token email k e) (fun _ _ _ => True) (emailExec dep) .database
    (fun _ _ => True) p w

theorem resetPassword_sends
    (body : ResetPasswordRequestDto) (hw : ResetLink dep token email k e w) :
    ResetSends dep token email k e (resetPassword dep body) w := by
  unfold resetPassword
  split_ifs
  · exact fun _ _ => trivial
  refine Sends.await_bind (fun _ _ => ⟨trivial, trivial⟩) (fun _ _ => trivial)
    fun v o v' verification hv _ _ hfind => ?_
  cases verification with
  | none =>
      exact fun _ _ => trivial
  | some verification =>
      obtain ⟨rfl, hid, hk⟩ := found_spec (hv.link hw) hfind
      refine Sends.await_bind (fun _ _ => ⟨trivial, trivial⟩) (fun _ _ => trivial)
        fun v₂ o₂ v₂' now hv₂ _ _ hnow => ?_
      obtain ⟨rfl, rfl⟩ := newDate_exec hnow
      split_ifs with hexpired
      · refine Sends.await_bind (fun v₃ hv₃ => ⟨trivial, fun hid => .inl ?_⟩) (fun _ _ => trivial)
          fun _ _ _ _ _ _ _ _ _ _ => trivial
        rw [← (hk hid).2]
        exact hexpired.trans_le hv₃.now
      · refine Sends.await_bind (fun _ _ => ⟨trivial, trivial⟩) (fun _ _ => trivial)
          fun v₃ o₃ v₃' user hv₃ _ _ _ => ?_
        cases user with
        | none =>
            exact fun _ _ => trivial
        | some user =>
            refine Sends.await_bind (fun _ _ => ⟨trivial, trivial⟩) (fun _ _ => trivial)
              fun _ _ _ passwordHash _ _ _ _ => ?_
            refine Sends.await_bind (fun _ _ => ⟨trivial, hid⟩) (fun _ _ => trivial)
              fun v₄ o₄ v₄' _ hv₄ _ _ hwrite => ?_
            refine Sends.await_bind (fun v₅ hv₅ => ⟨trivial, fun hid => .inr ?_⟩)
              (fun _ _ => trivial) fun _ _ _ _ _ _ _ _ _ _ => trivial
            refine hv₅.resets token ?_
            have hhistory := (emailExec_effects dep hwrite).history
            rw [hhistory, ← (hk hid).1]
            exact List.mem_append_right _ (List.mem_singleton_self _)

theorem validateResetPasswordToken_sends
    (presented : String) (hw : ResetLink dep token email k e w) :
    ResetSends dep token email k e (validateResetPasswordToken dep presented) w := by
  refine Sends.await_bind (fun _ _ => ⟨trivial, trivial⟩) (fun _ _ => trivial)
    fun v o v' verification hv _ _ hfind => ?_
  cases verification with
  | none =>
      exact fun _ _ => trivial
  | some verification =>
      obtain ⟨rfl, -, hk⟩ := found_spec (hv.link hw) hfind
      refine Sends.await_bind (fun _ _ => ⟨trivial, trivial⟩) (fun _ _ => trivial)
        fun v₂ o₂ v₂' now hv₂ _ _ hnow => ?_
      obtain ⟨rfl, rfl⟩ := newDate_exec hnow
      split_ifs with hexpired
      · refine Sends.await_bind (fun v₃ hv₃ => ⟨trivial, fun hid => .inl ?_⟩) (fun _ _ => trivial)
          fun _ _ _ _ _ _ _ _ _ _ => trivial
        rw [← (hk hid).2]
        exact hexpired.trans_le hv₃.now
      · exact fun _ _ => trivial

/-! ### While the calls run -/

/-- The token can be used until it expires or a password has been changed with it. -/
structure Untouched (dep : EmailDeployment) (token email : String) (k e : Nat)
    (c : EmailState) : Prop where
  link : ResetLink dep token email k e c.world
  sends : AllSend (emailServer dep) (resetPromise dep token email k e) (fun _ _ _ _ => True) c
  unused : c.world.unused k = false → e < c.world.auth.now ∨ token ∈ c.world.history.resets

variable {c c' : EmailState} {a : Action EmailEvent}

theorem Untouched.sent {i : Nat} {s : EmailStmt}
    (hc : Untouched dep token email k e c) (h : System.nextStatement c i = some s) :
    (resetPromise dep token email k e).sends c.world s :=
  Sends.next (fun p hp => hc.sends i p hp) h

theorem resetRely_step
    (hc : Untouched dep token email k e c)
    (hstep : (emailServer dep).step c a = some c') :
    ResetRely dep token email k e c.world c'.world := by
  cases a with
  | env event =>
      obtain ⟨p, hp⟩ := System.step_env_world (emailServer dep) hstep
      rcases emailServer_env hp with hw | ⟨ms, hw⟩ <;> rw [hw]
      · exact .refl _
      · exact ⟨fun h => ⟨h.row, h.only⟩, Nat.le_add_right _ _, fun _ h => h⟩
  | run i j o =>
      rcases System.step_run_world (emailServer dep) hstep with ⟨s, hs, hw⟩ | ⟨-, hw⟩
      · rw [hw]
        exact attempt_of_exec (P := ResetRely dep token email k e) .refl
          (fun _ _ h => resetRely_exec (hc.sent hs).1 h) o
      · rw [hw]
        exact .refl _

/-- **One step**, of which nothing is asked -/
theorem untouched_step
    (hevent : ∀ event, a = .env event → ResetEvent event)
    (hc : Untouched dep token email k e c)
    (hstep : (emailServer dep).step c a = some c') :
    Untouched dep token email k e c' := by
  have hrely := resetRely_step hc hstep
  have hkeep : (e < c.world.auth.now ∨ token ∈ c.world.history.resets) →
      e < c'.world.auth.now ∨ token ∈ c'.world.history.resets :=
    Or.imp (fun h => h.trans_le hrely.now) (hrely.resets token)
  refine ⟨hrely.link hc.link, ?_, fun hused => ?_⟩
  · refine sends_step (fun event w' p i ha hp => ?_) (fun _ _ _ _ _ _ => trivial) hrely
      hc.sends hstep
    have hevent := hevent event ha
    cases event with
    | arrive r =>
        cases hp
        cases r with
        | resetPassword body =>
            exact resetPassword_sends body hc.link
        | validateResetPasswordToken presented =>
            exact validateResetPasswordToken_sends presented hc.link
        | _ =>
            exact hevent.elim
    | work n =>
        exact hevent.elim
    | tick ms =>
        cases hp
  · cases a with
    | env event =>
        obtain ⟨p, hp⟩ := System.step_env_world (emailServer dep) hstep
        refine hkeep (hc.unused ?_)
        rcases emailServer_env hp with hw | ⟨ms, hw⟩ <;> rw [hw] at hused <;> exact hused
    | run i j o =>
        rcases System.step_run_world (emailServer dep) hstep with ⟨s, hs, hw⟩ | ⟨-, hw⟩
        · have hsent := hc.sent hs
          by_cases hmark : ∃ usedAt, s = .markUsedById k usedAt
          · obtain ⟨usedAt, rfl⟩ := hmark
            exact hkeep (hsent.2 rfl)
          · have hsame : c'.world.unused k = c.world.unused k := by
              rw [hw]
              exact attempt_of_exec (P := fun w w' : EmailWorld => w'.unused k = w.unused k)
                (fun _ => rfl) (fun _ _ h => unused_of_other hsent.1
                  (fun usedAt hs => hmark ⟨usedAt, hs⟩) h) o
            exact hkeep (hc.unused (hsame ▸ hused))
        · rw [hw] at hused ⊢
          exact hc.unused hused

/-! ### One writer at a time -/

/-- A password is written while the code is unused and no other call is about to mark it, and
neither the answer of the write nor the mark is lost. -/
def OneWriter (dep : EmailDeployment) (token : String) (k : Nat)
    (c : EmailState) : Action EmailEvent → Prop
  | .env _ => True
  | .run i _ o =>
      match System.nextStatement c i with
      | some (.updatePassword userId password presented id) =>
          presented = token →
            o = .fail ∨
            (emailExec dep (.updatePassword userId password presented id) c.world).isOk = false ∨
            o = .ok ∧ c.world.unused k = true ∧ c.threads.all (fun p => !closes k p) = true
      | some (.markUsedById _ _) => c.threads[i]?.any (closes k) = true → o ≠ .fail
      | _ => True

/-- After the password is written the code is marked. -/
def WriteCloses : EmailService EmailAnswer → Prop
  | .call (.updatePassword _ _ _ id) f => closes id (f (.ok ())) = true
  | .leave _ _ => False
  | _ => True

theorem resetPassword_writeCloses (body : ResetPasswordRequestDto) :
    (resetPassword dep body).Everywhere WriteCloses := by
  unfold resetPassword
  split_ifs
  · trivial
  refine Everywhere.await_bind trivial (fun _ => trivial) fun verification => ?_
  cases verification with
  | none =>
      trivial
  | some verification =>
      refine Everywhere.await_bind trivial (fun _ => trivial) fun now => ?_
      split_ifs
      · exact Everywhere.await_bind trivial (fun _ => trivial) fun _ => trivial
      · refine Everywhere.await_bind trivial (fun _ => trivial) fun user => ?_
        cases user with
        | none =>
            trivial
        | some user =>
            refine Everywhere.await_bind trivial (fun _ => trivial) fun passwordHash => ?_
            refine Everywhere.await_bind ?_ (fun _ => trivial) fun _ =>
              Everywhere.await_bind trivial (fun _ => trivial) fun _ => trivial
            simp [WriteCloses, closes, resume, answer]

theorem validateResetPasswordToken_writeCloses (presented : String) :
    (validateResetPasswordToken dep presented).Everywhere WriteCloses := by
  refine Everywhere.await_bind trivial (fun _ => trivial) fun verification => ?_
  cases verification with
  | none =>
      trivial
  | some verification =>
      refine Everywhere.await_bind trivial (fun _ => trivial) fun now => ?_
      split_ifs
      · exact Everywhere.await_bind trivial (fun _ => trivial) fun _ => trivial
      · trivial

/-- Some call is about to mark the code. -/
def Closing (k : Nat) (c : EmailState) : Prop :=
  ∃ (i : Nat) (p : EmailService EmailAnswer), c.threads[i]? = some p ∧ closes k p = true

/-- One password at most has been changed, and then the code is used or about to be. -/
structure Once (token : String) (k : Nat) (c : EmailState) : Prop where
  le : c.world.resetsWith token ≤ 1
  closed : c.world.resetsWith token = 1 → c.world.unused k = false ∨ Closing k c

theorem next_of_closes {p : EmailService EmailAnswer} (h : closes k p = true) :
    ∃ usedAt f, p = .call (.markUsedById k usedAt) f := by
  unfold closes at h
  split at h
  · rename_i id usedAt f
    simp only [Bool.and_eq_true, decide_eq_true_eq] at h
    obtain ⟨rfl, -⟩ := h
    exact ⟨usedAt, f, rfl⟩
  · cases h

/-- The calls about to mark the code stay, but for the one that takes the step. -/
theorem Closing.step
    (hc : Closing k c)
    (hother : ∀ i j o p, a = .run i j o → c.threads[i]? = some p → closes k p = false)
    (hstep : (emailServer dep).step c a = some c') :
    Closing k c' := by
  obtain ⟨i, p, hp, hcloses⟩ := hc
  refine ⟨i, p, System.step_other (emailServer dep) hp (fun ha => ?_) hstep, hcloses⟩
  cases a with
  | env event =>
      cases ha
  | run i' j o =>
      cases ha
      have := hother i j o p rfl hp
      rw [hcloses] at this
      cases this

/-- Where the count stays and the code is not made usable. -/
theorem Once.of_same
    (hc : Once token k c)
    (hcount : c'.world.resetsWith token = c.world.resetsWith token)
    (hunused : c.world.unused k = false → c'.world.unused k = false)
    (hother : ∀ i j o p, a = .run i j o → c.threads[i]? = some p → closes k p = false)
    (hstep : (emailServer dep).step c a = some c') :
    Once token k c' :=
  ⟨hcount ▸ hc.le, fun hone =>
    (hc.closed (hcount ▸ hone)).imp hunused fun hclosing => hclosing.step hother hstep⟩

section Call

variable {i j : Nat} {o : Outcome}

/-- A handler at another statement than the mark is not about to mark the code. -/
theorem not_closes_of_next
    {p : EmailService EmailAnswer}
    (hi : c.threads[i]? = some p) (hp : closes k p = false) :
    ∀ i' j' o' q, (.run i j o : Action EmailEvent) = .run i' j' o' →
      c.threads[i']? = some q → closes k q = false := by
  rintro _ _ _ q ⟨rfl, rfl, rfl⟩ hq
  rw [hi] at hq
  cases hq
  exact hp

/-- The statement leaves the code unused or used as it is, unless it is the mark. -/
theorem attempt_unused
    {s : EmailStmt} (hs : ResetStmt s)
    (w : EmailWorld) :
    w.unused k = false → (attempt (emailExec dep) .database s o w).1.unused k = false := by
  refine attempt_of_exec
    (P := fun w w' : EmailWorld => w.unused k = false → w'.unused k = false)
    (fun _ => id) (fun w' r h hused => ?_) o
  by_cases hmark : ∃ usedAt, s = .markUsedById k usedAt
  · obtain ⟨usedAt, rfl⟩ := hmark
    exact unused_markUsedById h
  · rw [unused_of_other hs (fun usedAt hs => hmark ⟨usedAt, hs⟩) h]
    exact hused

/-- Other statements than the write of a password with the token change no count. -/
theorem attempt_resetsWith
    {s : EmailStmt} (hs : ResetStmt s)
    (hother : ∀ userId password id, s ≠ .updatePassword userId password token id)
    (w : EmailWorld) :
    (attempt (emailExec dep) .database s o w).1.resetsWith token = w.resetsWith token := by
  refine attempt_of_exec
    (P := fun w w' : EmailWorld => w'.resetsWith token = w.resetsWith token)
    (fun _ => rfl) (fun w' r h => ?_) o
  unfold EmailWorld.resetsWith
  rcases resetStmt_history hs h with hsame | ⟨userId, password, presented, id, rfl, hmore⟩
  · rw [hsame]
  · rw [hmore, List.count_append, List.count_singleton, if_neg, Nat.add_zero]
    simp only [beq_iff_eq]
    rintro rfl
    exact hother userId password id rfl

/-- The password is written with the token. -/
theorem once_updatePassword
    {userId id : Nat} {password : String}
    {f : Except EmailFailure Unit → EmailService EmailAnswer}
    (hlink : Untouched dep token email k e c)
    (hwrites : AllEverywhere WriteCloses c)
    (hc : Once token k c)
    (hguard : OneWriter dep token k c (.run i j o))
    (hi : c.threads[i]? = some (.call (.updatePassword userId password token id) f))
    (hstep : (emailServer dep).step c (.run i j o) = some c') :
    Once token k c' := by
  have hs : System.nextStatement c i = some (.updatePassword userId password token id) := by
    rw [System.nextStatement, hi]
  obtain ⟨hstmt, hid⟩ := hlink.sent hs
  obtain ⟨hw, hnext⟩ := System.step_call (emailServer dep) hi hstep
  have hsame : c'.world = c.world → Once token k c' := fun hworld =>
    hc.of_same (by rw [hworld]) (fun h => hworld.symm ▸ h) (not_closes_of_next hi rfl) hstep
  simp only [OneWriter, hs] at hguard
  cases hexec : emailExec dep (.updatePassword userId password token id) c.world with
  | error er =>
      refine hsame ?_
      rw [hw]
      cases o <;> simp only [emailServer, attempt, hexec]
  | ok x =>
      obtain ⟨w', r⟩ := x
      rcases hguard trivial with rfl | herror | ⟨rfl, hfree, hnone⟩
      · exact hsame hw
      · rw [hexec] at herror
        cases herror
      · -- nobody has changed the password yet, and this call is about to mark the code
        have hzero : c.world.resetsWith token = 0 := by
          have := hc.le
          by_contra hne
          rcases hc.closed (by omega) with hused | ⟨i', p, hp, hcloses⟩
          · rw [hfree] at hused
            cases hused
          · have := List.all_eq_true.mp hnone p (List.mem_of_getElem? hp)
            rw [hcloses] at this
            cases this
        have hhistory := (emailExec_effects dep hexec).history
        have hone : c'.world.resetsWith token = 1 := by
          rw [hw.trans (attempt_fst (by simp) hexec), EmailWorld.resetsWith, hhistory]
          rw [EmailWorld.resetsWith] at hzero
          simp [emailHistoryAfter, hzero]
        refine ⟨hone.le, fun _ => .inr ⟨i, _, hnext, ?_⟩⟩
        have hclose := hwrites.thread hi
        rw [← hid rfl]
        simpa only [emailServer, attempt, hexec, WriteCloses] using hclose

/-- A code is marked. -/
theorem once_markUsedById
    {id usedAt : Nat}
    {f : Except EmailFailure Unit → EmailService EmailAnswer}
    (hlink : Untouched dep token email k e c)
    (hc : Once token k c)
    (hguard : OneWriter dep token k c (.run i j o))
    (hi : c.threads[i]? = some (.call (.markUsedById id usedAt) f))
    (hstep : (emailServer dep).step c (.run i j o) = some c') :
    Once token k c' := by
  have hs : System.nextStatement c i = some (.markUsedById id usedAt) := by
    rw [System.nextStatement, hi]
  have hw := (System.step_call (emailServer dep) hi hstep).1
  have hcount : c'.world.resetsWith token = c.world.resetsWith token := by
    rw [hw]
    exact attempt_resetsWith (s := .markUsedById id usedAt) trivial (by simp) c.world
  cases hcloses : closes k (.call (.markUsedById id usedAt) f) with
  | false =>
      refine hc.of_same hcount ?_ (not_closes_of_next hi hcloses) hstep
      rw [hw]
      exact attempt_unused (s := .markUsedById id usedAt) trivial c.world
  | true =>
      obtain ⟨_, _, hcall⟩ := next_of_closes hcloses
      cases hcall
      simp only [OneWriter, hs, hi, Option.any_some] at hguard
      obtain ⟨row, hrow, -⟩ := hlink.link.row
      have hexec : (emailExec dep (.markUsedById k usedAt) c.world).isOk := by
        simp [emailExec, hrow, Except.isOk, Except.toBool]
      cases hresult : emailExec dep (.markUsedById k usedAt) c.world with
      | error er =>
          rw [hresult] at hexec
          cases hexec
      | ok x =>
          refine ⟨hcount ▸ hc.le, fun _ => .inl ?_⟩
          rw [hw.trans (attempt_fst (hguard hcloses) hresult)]
          exact unused_markUsedById hresult

end Call

/-- **One step** of a run with one writer at a time -/
theorem once_step
    (hlink : Untouched dep token email k e c)
    (hwrites : AllEverywhere WriteCloses c)
    (hc : Once token k c)
    (hguard : OneWriter dep token k c a)
    (hstep : (emailServer dep).step c a = some c') :
    Once token k c' := by
  cases a with
  | env event =>
      obtain ⟨p, hp⟩ := System.step_env_world (emailServer dep) hstep
      have hsame : c'.world.resetsWith token = c.world.resetsWith token ∧
          c'.world.unused k = c.world.unused k := by
        rcases emailServer_env hp with hw | ⟨ms, hw⟩ <;> rw [hw] <;> exact ⟨rfl, rfl⟩
      exact hc.of_same hsame.1 (fun h => hsame.2.trans h) (fun _ _ _ _ h => by cases h) hstep
  | run i j o =>
      rcases System.step_run_world (emailServer dep) hstep with ⟨s, hs, hw⟩ | ⟨hs, hw⟩
      · obtain ⟨f, hi⟩ := call_of_nextStatement hs
        have hstmt := (hlink.sent hs).1
        by_cases hwrite : ∃ userId password id, s = .updatePassword userId password token id
        · obtain ⟨userId, password, id, rfl⟩ := hwrite
          exact once_updatePassword hlink hwrites hc hguard hi hstep
        by_cases hmark : ∃ id usedAt, s = .markUsedById id usedAt
        · obtain ⟨id, usedAt, rfl⟩ := hmark
          exact once_markUsedById hlink hc hguard hi hstep
        have hcloses : closes k (.call s f) = false := by
          unfold closes
          split
          · rename_i id usedAt _ hcall
            cases hcall
            exact absurd ⟨_, _, rfl⟩ hmark
          · rfl
        refine hc.of_same ?_ ?_ (not_closes_of_next hi hcloses) hstep
        · rw [hw]
          exact attempt_resetsWith hstmt (fun userId password id hs =>
            hwrite ⟨userId, password, id, hs⟩) c.world
        · rw [hw]
          exact attempt_unused hstmt c.world
      · refine hc.of_same (by rw [hw]) (by rw [hw]; exact id) ?_ hstep
        rintro _ _ _ p ⟨rfl, rfl, rfl⟩ hp
        cases hcloses : closes k p with
        | false =>
            rfl
        | true =>
            obtain ⟨usedAt, f, rfl⟩ := next_of_closes hcloses
            simp [System.nextStatement, hp] at hs

/-! ### Every run -/

/-- A usable token changes the password of the account. -/
theorem resetPassword_alone
    {body : ResetPasswordRequestDto} {user : User}
    (hlink : ResetLink dep token email k e w)
    (hunused : w.unused k = true)
    (hnow : w.auth.now ≤ e)
    (htoken : body.token = token) (hemail : dep.collate body.email = dep.collate email)
    (hconfirm : body.password = body.passwordConfirmation)
    (huser : w.auth.userAt dep.toAuthDeployment email = some user) :
    ∃ w', (resetPassword dep body).alone (emailExec dep) .database w = some (w', .ok .success) ∧
      w'.resetsWith token = w.resetsWith token + 1 := by
  obtain ⟨c, hc, htype, hhash, hcemail, hexpires⟩ := hlink.row
  have hcused : c.usedAt = none := by
    simpa [EmailWorld.unused, hc] using hunused
  have hfor : c.isFor dep.toAuthDeployment body.email = true := by
    rwa [VerificationCode.isFor, hemail]
  have hrow : (decide (c.type = .forgotPassword) &&
      decide (c.codeHash = some (dep.hashToken body.token)) &&
      (some body.email).all (fun e => c.isFor dep.toAuthDeployment e) && c.usedAt.isNone) =
        true := by
    simp [htype, hhash, htoken, hfor, hcused]
  -- the token finds the code, and no other
  have hfind : emailExec dep
      (.findActiveForgotByCodeHash (dep.hashToken body.token) (some body.email)) w =
        .ok (w, some c) := by
    have hsome : (w.codes.findFirst fun c => decide (c.type = .forgotPassword) &&
        decide (c.codeHash = some (dep.hashToken body.token)) &&
        (some body.email).all (fun e => c.isFor dep.toAuthDeployment e) &&
        c.usedAt.isNone).isSome :=
      List.find?_isSome.mpr ⟨c, Table.find_mem hc, hrow⟩
    obtain ⟨verification, hverification⟩ := Option.isSome_iff_exists.mp hsome
    obtain ⟨hmem, hmeets⟩ := Table.findFirst_eq_some hverification
    simp only [Bool.and_eq_true, decide_eq_true_eq] at hmeets
    have hid := hlink.only _ hmem hmeets.1.1.1 (htoken ▸ hmeets.1.1.2)
    have hsame := Table.find_of_mem hmem
    rw [show key verification = k from hid, hc] at hsame
    rw [emailExec, hverification, Option.some.inj hsame]
  have hdate : emailExec dep (.auth .newDate) w = .ok (w, w.auth.now) := rfl
  have hauth : emailExec dep (.auth (.findAuthByEmailPassword body.email)) w =
      .ok (w, some user) := by
    simp only [emailExec, authExec, AuthWorld.userAt, hemail]
    rw [← AuthWorld.userAt, huser]
  have hkey : w.auth.users.find user.id = some user :=
    Table.find_of_mem (Table.findFirst_eq_some huser).1
  obtain ⟨u, hhashed, hsame⟩ : ∃ u, emailExec dep (.bcryptHash body.password) w =
      .ok (u, dep.bcryptHash w.auth.keys body.password) ∧ u.auth.users = w.auth.users :=
    ⟨_, rfl, rfl⟩
  have hhashedEff := emailExec_effects dep hhashed
  obtain ⟨v, hwrite⟩ : ∃ v, emailExec dep (.updatePassword user.id
      (dep.bcryptHash w.auth.keys body.password) body.token c.id) u = .ok (v, ()) := by
    simp only [emailExec, hsame, hkey]
    exact ⟨_, rfl⟩
  have heff := emailExec_effects dep hwrite
  obtain ⟨v', hmark⟩ : ∃ v', emailExec dep (.markUsedById c.id w.auth.now) v = .ok (v', ()) := by
    have hcodes : v.codes.find c.id = some c := by
      rw [heff.codes]
      change u.codes.find c.id = some c
      rw [hhashedEff.codes]
      exact Table.find_of_mem (Table.find_mem hc)
    simp only [emailExec, hcodes]
    exact ⟨_, rfl⟩
  refine ⟨v', ?_, ?_⟩
  · unfold resetPassword
    rw [if_neg (not_not.mpr hconfirm)]
    simp only [bind_eq_bind, newDate, alone_bind, alone_await_ok hfind, alone_await_ok hdate,
      Option.bind_some, hexpires, Nat.not_lt.mpr hnow, if_false, alone_await_ok hauth,
      alone_await_ok hhashed, alone_await_ok hwrite, alone_await_ok hmark, Program.alone]
  · rw [EmailWorld.resetsWith, (emailExec_effects dep hmark).history]
    change v.history.resets.count token = _
    rw [heff.history]
    change (u.history.resets ++ [body.token]).count token = _
    rw [hhashedEff.history]
    change (w.history.resets ++ [body.token]).count token = _
    rw [htoken, List.count_append, List.count_singleton_self, EmailWorld.resetsWith]

/-- The token works at least until it expires: a call changes the password. -/
def StillWorks (dep : EmailDeployment) (token email : String) (w : EmailWorld) : Prop :=
  ∀ body user, body.token = token → dep.collate body.email = dep.collate email →
    body.password = body.passwordConfirmation →
    w.auth.userAt dep.toAuthDeployment email = some user →
    ∃ w', (resetPassword dep body).alone (emailExec dep) .database w =
        some (w', .ok .success) ∧
      w'.resetsWith token = w.resetsWith token + 1

variable (dep) in
/--
In every run of calls of `resetPassword` and `validateResetPasswordToken`, a token whose
password was not changed works until it expires; with one writer at a time the password is
changed once at most.
-/
theorem resetOnce_runs
    {as : List (Action EmailEvent)}
    (hlink : ResetLink dep token email k e c.world)
    (hunused : c.world.unused k = true)
    (hresets : c.world.resetsWith token = 0)
    (hthreads : c.threads = [])
    (hevents : ∀ event, .env event ∈ as → ResetEvent event)
    (hrun : runs (emailServer dep).step c as = some c') :
    (c'.world.resetsWith token = 0 → c'.world.auth.now ≤ e →
        StillWorks dep token email c'.world) ∧
      (Meets (emailServer dep).step (OneWriter dep token k) c as →
        c'.world.resetsWith token ≤ 1) := by
  have hno : ∀ p, p ∉ c.threads := by
    rw [hthreads]
    exact fun p hp => by cases hp
  have hstart : Untouched dep token email k e c :=
    ⟨hlink, fun i p hp => absurd (List.mem_of_getElem? hp) (hno p), fun hused => by
      rw [hunused] at hused
      cases hused⟩
  have hevents' : Meets (emailServer dep).step
      (fun _ a => ∀ event, a = .env event → ResetEvent event) c as :=
    Meets.of_forall_mem fun a ha _ event h => hevents event (h ▸ ha)
  constructor
  · intro hzero hnow body user htoken hemail hconfirm huser
    have hend : Untouched dep token email k e c' :=
      runs_invariant (I := Untouched dep token email k e)
        (fun d a d' hd ha hstep => untouched_step ha hd hstep) hstart hevents' hrun
    refine resetPassword_alone hend.link ?_ hnow htoken hemail hconfirm huser
    by_contra hused
    rcases hend.unused (Bool.not_eq_true _ ▸ hused) with hlate | hmem
    · omega
    · exact List.count_pos_iff.mpr hmem |>.ne' hzero
  · intro hwriter
    have hwrites : AllEverywhere WriteCloses c := fun p hp => absurd hp (hno p)
    have hzero : Once token k c :=
      ⟨hresets ▸ Nat.zero_le 1, fun hone => by
        rw [hresets] at hone
        cases hone⟩
    suffices h : Untouched dep token email k e c' ∧ AllEverywhere WriteCloses c' ∧
        Once token k c' from h.2.2.le
    refine runs_invariant
      (I := fun c => Untouched dep token email k e c ∧ AllEverywhere WriteCloses c ∧
        Once token k c)
      (G := fun c a => (∀ event, a = .env event → ResetEvent event) ∧
        OneWriter dep token k c a)
      (fun d a d' hd ha hstep => ?_) ⟨hstart, hwrites, hzero⟩ (hevents'.and hwriter) hrun
    obtain ⟨hd, hdw, hdo⟩ := hd
    refine ⟨untouched_step ha.1 hd hstep, ?_, once_step hd hdw hdo ha.2 hstep⟩
    refine everywhere_step (fun event w' p hevent henv => ?_) (fun s p h => h.elim) hdw hstep
    have hok := ha.1 event hevent
    cases event with
    | arrive r =>
        cases henv
        cases r with
        | resetPassword body =>
            exact resetPassword_writeCloses body
        | validateResetPasswordToken presented =>
            exact validateResetPasswordToken_writeCloses presented
        | _ =>
            exact hok.elim
    | work n =>
        exact hok.elim
    | tick ms =>
        cases henv

instance (c : EmailState) (a : Action EmailEvent) : Decidable (OneWriter dep token k c a) := by
  unfold OneWriter
  split
  · infer_instance
  · split <;> infer_instance

/-- A reset link was sent to the address. -/
def sampleResetWorld : EmailWorld :=
  { sampleEmailWorld with
    codes := ((Table.empty : Table VerificationCode).insert (newCode 1 "a" 3600000 .forgotPassword)
      (key_newCode 1 "a" 3600000 .forgotPassword)).update 1 (setCodeHash "t")
        (key_setCodeHash "t") }

def sampleReset : ResetPasswordRequestDto :=
  ⟨"t", "a", "new", "new"⟩

theorem sampleResetWorld_link : ResetLink sampleEmail "t" "a" 1 3600000 sampleResetWorld :=
  ⟨⟨_, rfl, rfl, rfl, rfl, rfl⟩, by
    intro c hc _ _
    have hrows : sampleResetWorld.codes.rows =
        [setCodeHash "t" (newCode 1 "a" 3600000 .forgotPassword 1)] := by
      decide
    rw [hrows, List.mem_singleton] at hc
    rw [hc]
    rfl⟩

/-- One call that comes after another -/
def resetTwice : List (Action EmailEvent) :=
  .env (.arrive (.resetPassword sampleReset)) :: emailSteps 0 6 ++
    .env (.arrive (.resetPassword sampleReset)) :: emailSteps 1 1

theorem resetOnce_runs_resetTwice :
    ∃ c', runs (emailServer sampleEmail).step ⟨sampleResetWorld, []⟩ resetTwice = some c' ∧
      c'.world.resetsWith "t" ≤ 1 := by
  obtain ⟨c', hrun⟩ := Option.isSome_iff_exists.mp
    (by decide +kernel : (runs (emailServer sampleEmail).step ⟨sampleResetWorld, []⟩
      resetTwice).isSome)
  refine ⟨c', hrun, (resetOnce_runs sampleEmail sampleResetWorld_link (by decide) (by decide) rfl
    ?_ hrun).2 (by decide +kernel)⟩
  intro event h
  simp [resetTwice, emailSteps] at h
  subst h
  trivial

/-- Two calls that both find the code before one of them marks it -/
def racingResets : List (Action EmailEvent) :=
  .env (.arrive (.resetPassword sampleReset)) :: .env (.arrive (.resetPassword sampleReset)) ::
    (emailSteps 0 4 ++ emailSteps 1 4 ++ emailSteps 0 2 ++ emailSteps 1 2)

/-- Both calls change the password and answer with success. -/
theorem racingResets_resetTwice :
    ResetLink sampleEmail "t" "a" 1 3600000 sampleResetWorld ∧
      ((runs (emailServer sampleEmail).step ⟨sampleResetWorld, []⟩ racingResets).any fun c =>
        c.quiet && decide (c.world.resetsWith "t" = 2)) = true :=
  ⟨sampleResetWorld_link, by decide +kernel⟩

end Email
end BookStore
