import BookStore.Async.Amid
import BookStore.Email.Services
import BookStore.RateLimit

/-!
# The quota of verification mails

`resendEmail` counts the registration mails of the last day and looks at the latest one.
Calls for one address that are answered one after another keep to the limit `RateLimited` of
`resendMaxAttemptsPerDay` mails a day with `resendBlockWindowInMs` between further ones.

The clock may move on before every statement, and a statement may fail.
-/

namespace BookStore
namespace Email

open Async Program

theorem resendMaxAttemptsPerDay_pos : 0 < resendMaxAttemptsPerDay := by
  decide

theorem resendBlockWindowInMs_pos : 0 < resendBlockWindowInMs := by
  decide

theorem mailsPerDay : resendMaxAttemptsPerDay + oneDayInMs / resendBlockWindowInMs = 9 := by
  decide

-- the proofs do not look at the numbers
attribute [local irreducible] oneDayInMs resendBlockWindowInMs resendMaxAttemptsPerDay

section Definitions

variable (dep : EmailDeployment)

/-- When the registration mails to the address were created. -/
def EmailWorld.otpTimes (w : EmailWorld) (email : String) : List Nat :=
  (w.outbox.filter (EmailOutbox.otpRegisterTo dep.toAuthDeployment email)).map
    EmailOutbox.createdAt

/-- Time passes, and nobody else creates a registration mail to the address. -/
structure Later (email : String) (w v : EmailWorld) : Prop where
  times : v.otpTimes dep email = w.otpTimes dep email
  now : w.auth.now ≤ v.auth.now

/-- The registration mails to the address keep to the limit, and none is in the future. -/
structure WithinQuota (email : String) (w : EmailWorld) : Prop where
  limited : RateLimited oneDayInMs resendBlockWindowInMs resendMaxAttemptsPerDay
    (w.otpTimes dep email)
  past : ∀ t, t ∈ w.otpTimes dep email → t ≤ w.auth.now

/-- The limit lets a mail to the address pass. -/
abbrev EmailWorld.PassesQuota (w : EmailWorld) (email : String) : Prop :=
  Passes oneDayInMs resendBlockWindowInMs resendMaxAttemptsPerDay (w.otpTimes dep email)
    w.auth.now

/-- Some statement other than the creation of a registration mail to the address -/
def KeepsTimes (email : String) : EmailStmt → Prop
  | .createOutboxEmail toEmail templateKey _ =>
      ¬ (dep.collate toEmail = dep.collate email ∧ templateKey = .otpRegister)
  | _ => True

end Definitions

section Later

variable {dep : EmailDeployment} {email : String} {u v w : EmailWorld}

theorem Later.refl (w : EmailWorld) : Later dep email w w :=
  ⟨rfl, Nat.le_refl _⟩

theorem Later.trans (h : Later dep email u v) (h' : Later dep email v w) : Later dep email u w :=
  ⟨h'.times.trans h.times, h.now.trans h'.now⟩

theorem WithinQuota.later (hw : WithinQuota dep email w) (h : Later dep email w v) :
    WithinQuota dep email v :=
  ⟨h.times ▸ hw.limited, fun t ht => (hw.past t (h.times ▸ ht)).trans h.now⟩

/-- A new status leaves the times as they are. -/
theorem otpTimes_updateWhere
    {p : EmailOutbox → Bool} {status : EmailStatus}
    (h : w.outbox = v.outbox.updateWhere p (setStatus status) (key_setStatus status)) :
    w.otpTimes dep email = v.otpTimes dep email := by
  have hrow : ∀ r : EmailOutbox,
      EmailOutbox.otpRegisterTo dep.toAuthDeployment email
          (if p r then setStatus status r else r) =
        EmailOutbox.otpRegisterTo dep.toAuthDeployment email r ∧
      (if p r then setStatus status r else r).createdAt = r.createdAt := by
    intro r
    split_ifs <;> exact ⟨rfl, rfl⟩
  rw [EmailWorld.otpTimes, h, EmailWorld.otpTimes, Table.filter, Table.filter,
    Table.rows_updateWhere, List.filter_map, List.map_map]
  have hfilter :
      (EmailOutbox.otpRegisterTo dep.toAuthDeployment email ∘
          fun r => if p r then setStatus status r else r) =
        EmailOutbox.otpRegisterTo dep.toAuthDeployment email :=
    funext fun r => (hrow r).1
  rw [hfilter]
  exact List.map_congr_left fun r _ => (hrow r).2

end Later

section Statements

variable {dep : EmailDeployment} {email : String} {v v' w : EmailWorld}

theorem exec_later
    {s : EmailStmt} {r : EmailResponse s}
    (hs : KeepsTimes dep email s) (h : emailExec dep s v = .ok (v', r)) :
    Later dep email v v' := by
  have heff := emailExec_effects dep h
  refine ⟨?_, heff.now.ge⟩
  have houtbox := heff.outbox
  cases s with
  | createOutboxEmail toEmail templateKey verificationCodeId =>
      have hother : EmailOutbox.otpRegisterTo dep.toAuthDeployment email
          (newOutbox toEmail templateKey v.auth.now v.outbox.next) = false := by
        rw [← Bool.not_eq_true, EmailOutbox.otpRegisterTo, Bool.and_eq_true, decide_eq_true_eq,
          decide_eq_true_eq]
        exact hs
      rw [EmailWorld.otpTimes, houtbox, outboxAfter, Table.filter_insert_of_not hother]
      rfl
  | updateByIdEmailStatus id status =>
      exact otpTimes_updateWhere houtbox
  | cancelOtpRegisterInProgressByEmail toEmail =>
      exact otpTimes_updateWhere houtbox
  | _ =>
      rw [EmailWorld.otpTimes, houtbox]
      rfl

theorem later_attempt
    {s : EmailStmt} (hs : KeepsTimes dep email s) (v : EmailWorld) (o : Outcome) :
    Later dep email v (attempt (emailExec dep) .database s o v).1 :=
  attempt_of_exec Later.refl (fun _ _ h => exec_later hs h) o

/-- A registration mail that passes -/
theorem exec_createOutboxEmail
    {toEmail : String} {verificationCodeId : Nat} {r : EmailOutbox}
    (hto : dep.collate toEmail = dep.collate email)
    (hv : WithinQuota dep email v)
    (hpass : v.PassesQuota dep email)
    (h : emailExec dep (.createOutboxEmail toEmail .otpRegister verificationCodeId) v =
      .ok (v', r)) :
    WithinQuota dep email v' := by
  have heff := emailExec_effects dep h
  have htimes : v'.otpTimes dep email = v.otpTimes dep email ++ [v.auth.now] := by
    rw [EmailWorld.otpTimes, heff.outbox, outboxAfter, Table.filter, Table.rows_insert,
      List.filter_append, List.map_append,
      List.filter_cons_of_pos (by simp [EmailOutbox.otpRegisterTo, newOutbox, hto])]
    rfl
  constructor
  · rw [htimes]
    exact .snoc hv.limited hpass
  · rw [htimes, heff.now]
    intro t ht
    rcases List.mem_append.mp ht with ht | ht
    · exact hv.past t ht
    · exact (List.mem_singleton.mp ht).le

end Statements

/-! ### The check -/

section Check

variable {dep : EmailDeployment} {email : String} {v w : EmailWorld}

theorem latestRow_spec {l : List EmailOutbox} (hne : l ≠ []) :
    ∃ latest, latestRow l = some latest ∧ latest ∈ l ∧
      ∀ r, r ∈ l → r.createdAt ≤ latest.createdAt := by
  cases l with
  | nil =>
      exact absurd rfl hne
  | cons r rs =>
      refine ⟨rs.foldl laterRow r, rfl, ?_⟩
      clear hne
      induction rs generalizing r with
      | nil =>
          simp
      | cons s rs ih =>
          obtain ⟨hmem, hmax⟩ := ih (laterRow r s)
          rw [List.foldl_cons]
          have hhead := hmax (laterRow r s) List.mem_cons_self
          have hpair : (laterRow r s = r ∨ laterRow r s = s) ∧
              r.createdAt ≤ (laterRow r s).createdAt ∧
              s.createdAt ≤ (laterRow r s).createdAt := by
            unfold laterRow
            split_ifs with hlt
            · exact ⟨.inr rfl, hlt.le, Nat.le_refl _⟩
            · exact ⟨.inl rfl, Nat.le_refl _, Nat.not_lt.mp hlt⟩
          constructor
          · rcases List.mem_cons.mp hmem with heq | hrest
            · rw [heq]
              rcases hpair.1 with h | h <;> simp [h]
            · exact List.mem_cons_of_mem r (List.mem_cons_of_mem s hrest)
          · intro t ht
            rcases List.mem_cons.mp ht with rfl | ht
            · exact hpair.2.1.trans hhead
            · rcases List.mem_cons.mp ht with rfl | ht
              · exact hpair.2.2.trans hhead
              · exact hmax t (List.mem_cons_of_mem _ ht)

theorem map_otpRegisterSince (w : EmailWorld) (email : String) (since : Nat) :
    (w.otpRegisterSince dep email since).map EmailOutbox.createdAt =
      (w.otpTimes dep email).filter fun t => decide (since ≤ t) := by
  rw [EmailWorld.otpRegisterSince, EmailWorld.otpTimes, Table.filter, Table.filter,
    List.filter_map, List.filter_filter]
  congr 2
  funext r
  exact Bool.and_comm _ _

/-- **The check.** Where it does not stop the call, the limit lets a mail pass. -/
theorem passes_of_not_quotaExceeded
    {u : EmailWorld} {since now : Nat}
    (hu : u.otpTimes dep email = v.otpTimes dep email)
    (hw : w.otpTimes dep email = v.otpTimes dep email)
    (hquota : WithinQuota dep email w)
    (hsince : ∀ t, w.auth.now ≤ t + oneDayInMs → since ≤ t)
    (hnow : now ≤ w.auth.now)
    (hcheck : ¬ quotaExceeded (v.otpRegisterSince dep email since).length
      (latestRow (u.otpRegisterSince dep email since)) now = true) :
    w.PassesQuota dep email := by
  refine ⟨hquota.past, fun hmost t ht => ?_⟩
  rw [hw] at hmost ht
  have hcount : ∀ v' : EmailWorld, v'.otpTimes dep email = v.otpTimes dep email →
      resendMaxAttemptsPerDay ≤ (v'.otpRegisterSince dep email since).length := by
    intro v' hv'
    rw [← List.length_map EmailOutbox.createdAt, map_otpRegisterSince, hv']
    refine hmost.trans ?_
    simp only [← List.countP_eq_length_filter]
    refine List.countP_mono_left fun u _ hu => ?_
    simp only [decide_eq_true_eq] at hu ⊢
    exact hsince u hu
  have hne : u.otpRegisterSince dep email since ≠ [] := by
    intro hnil
    have := hcount u hu
    rw [hnil] at this
    exact absurd this (Nat.not_le.mpr resendMaxAttemptsPerDay_pos)
  obtain ⟨latest, hlatest, hmem, hmax⟩ := latestRow_spec hne
  -- the latest mail is far enough, and the others are older
  have hgap : latest.createdAt + resendBlockWindowInMs ≤ now := by
    refine Nat.not_lt.mp fun hlt => hcheck ?_
    rw [hlatest, quotaExceeded, decide_eq_true (hcount v rfl), Option.any_some, Bool.true_and]
    exact decide_eq_true hlt
  have hold : t ≤ latest.createdAt := by
    have hin : ∀ t, t ∈ (u.otpRegisterSince dep email since).map EmailOutbox.createdAt ↔
        t ∈ v.otpTimes dep email ∧ since ≤ t := by
      intro t
      rw [map_otpRegisterSince, hu]
      simp
    by_cases hrecent : since ≤ t
    · obtain ⟨r, hr, rfl⟩ := List.mem_map.mp ((hin t).mpr ⟨ht, hrecent⟩)
      exact hmax r hr
    · have := ((hin latest.createdAt).mp (List.mem_map_of_mem hmem)).2
      omega
  omega

end Check

/-! ### The calls -/

section Calls

variable (dep : EmailDeployment) (email : String)

/-- A call is answered, or it fails. -/
def Answers (w : EmailWorld) (call : EmailService EmailAnswer) (w' : EmailWorld) : Prop :=
  ∃ x, call.Amid (emailExec dep) .database (Later dep email) (fun _ _ => True) w w' x

/-- Whatever the handler ends in is within the quota. -/
abbrev EnsuresQuota {α : Type} (p : EmailService α) (w : EmailWorld) : Prop :=
  Ensures (emailExec dep) .database (Later dep email) (fun _ _ => True)
    (fun _ v => WithinQuota dep email v) p w

variable {dep email} {α β : Type} {w : EmailWorld}

/-- A statement that creates no registration mail to the address -/
theorem EnsuresQuota.await_bind
    {s : EmailStmt} {f : EmailResponse s → EmailService β}
    (hs : KeepsTimes dep email s)
    (hw : WithinQuota dep email w)
    (h : ∀ v v' r, Later dep email w v → emailExec dep s v = .ok (v', r) → Later dep email w v' →
      EnsuresQuota dep email (f r) v') :
    EnsuresQuota dep email ((await s).bind f) w := by
  refine Ensures.await_bind (fun v e hv => hw.later hv) fun v v' r hv hexec => ?_
  have hv' := hv.trans (exec_later hs hexec)
  exact ⟨hw.later hv', h v v' r hv hexec hv'⟩

/-- A part without such statements -/
theorem EnsuresQuota.bind_all
    {p : EmailService α} {f : α → EmailService β}
    (hp : p.All (KeepsTimes dep email))
    (hw : WithinQuota dep email w)
    (h : ∀ v a, Later dep email w v → EnsuresQuota dep email (f a) v) :
    EnsuresQuota dep email (p.bind f) w := by
  have hlater : ∀ v (x : Except EmailFailure α), p.Amid (emailExec dep) .database (Later dep email)
      (fun _ _ => True) w v x → Later dep email w v := fun v x hpx =>
    hpx.of_all Later.refl (fun _ _ _ => Later.trans) (fun _ _ h => h)
      (hp.mono fun s hs v o => later_attempt hs v o)
  exact Ensures.bind (fun v a hpa => h v a (hlater v _ hpa))
    fun v e hpe => hw.later (hlater v _ hpe)

/-- The new mail, where the limit lets it pass -/
theorem ensuresQuota_sendRegisterVerification
    {user : AuthMe} {originUrl : Option String} {f : Unit → EmailService β}
    (huser : dep.collate user.email = dep.collate email)
    (hw : WithinQuota dep email w)
    (hpass : ∀ v, Later dep email w v → v.PassesQuota dep email)
    (hf : ∀ v, WithinQuota dep email v → EnsuresQuota dep email (f ()) v) :
    EnsuresQuota dep email ((sendRegisterVerification user originUrl).bind f) w := by
  simp only [sendRegisterVerification, signVerifyCode, newDate, createRegisterVerification,
    createVerification, enqueueOutboxEmail, bind_eq_bind, Program.bind_assoc, bind_ret]
  refine EnsuresQuota.await_bind trivial hw fun v₁ v₁' now _ _ h₁ => ?_
  refine EnsuresQuota.await_bind trivial (hw.later h₁) fun v₂ v₂' record _ _ h₂ => ?_
  have h₂ := h₁.trans h₂
  refine Ensures.await_bind (fun v e hv => hw.later (h₂.trans hv))
    fun v v' outbox hv hexec => ?_
  have hv' := exec_createOutboxEmail huser (hw.later (h₂.trans hv)) (hpass v (h₂.trans hv))
    hexec
  exact ⟨hv', EnsuresQuota.await_bind trivial hv' fun _ v'' _ _ _ h => hf v'' (hv'.later h)⟩

theorem ensuresQuota_register
    {body : RegisterRequestDto} {userAgent ip originUrl : String} {guestSessionId : Option String}
    (hemail : dep.collate body.email = dep.collate email)
    (hnone : w.otpTimes dep email = []) :
    EnsuresQuota dep email (register dep body userAgent ip originUrl guestSessionId) w := by
  have hw : WithinQuota dep email w := by
    refine ⟨hnone ▸ .nil, fun t ht => ?_⟩
    rw [hnone] at ht
    cases ht
  unfold register
  split_ifs
  · exact ensures_raise hw
  simp only [bind_eq_bind]
  refine EnsuresQuota.await_bind trivial hw fun v₁ v₁' exists₁ _ _ h₁ => ?_
  split_ifs
  · exact ensures_raise (hw.later h₁)
  refine EnsuresQuota.await_bind trivial (hw.later h₁) fun v₀ v₀' passwordHash _ _ h₀ => ?_
  have h₀ := h₁.trans h₀
  refine EnsuresQuota.await_bind trivial (hw.later h₀) fun v₂ v₂' user _ hexec h₂ => ?_
  have huser : dep.collate user.email = dep.collate email := by
    simp only [emailExec] at hexec
    split at hexec
    · cases hexec
    · cases hexec
      exact hemail
  have h₂ := h₀.trans h₂
  refine EnsuresQuota.bind_all ?_ (hw.later h₂) fun v₃ signature h₃ => ?_
  · exact (All.await trivial).bind fun _ => (All.await trivial).bind fun _ => trivial
  have h₃ := h₂.trans h₃
  refine EnsuresQuota.await_bind trivial (hw.later h₃) fun v₄ v₄' role _ _ h₄ => ?_
  have h₄ := h₃.trans h₄
  cases role with
  | none =>
      exact ensures_raise (hw.later h₄)
  | some role =>
      refine EnsuresQuota.bind_all ?_ (hw.later h₄) fun v₅ _ h₅ => ?_
      · refine (All.await trivial).bind fun _ => All.promiseAll fun s hs => ?_
        simp only [List.mem_cons, List.not_mem_nil, or_false] at hs
        rcases hs with rfl | rfl | rfl <;> trivial
      have h₅ := h₄.trans h₅
      refine ensuresQuota_sendRegisterVerification huser (hw.later h₅) (fun v hv => ?_)
        fun v hv => ?_
      · -- there is no mail before
        have hempty := (h₅.trans hv).times.trans hnone
        refine ⟨fun t ht => ?_, fun _ t ht => ?_⟩ <;> rw [hempty] at ht <;> cases ht
      · cases truthy guestSessionId with
        | none =>
            exact ensures_ret hv
        | some guestSessionId =>
            exact EnsuresQuota.await_bind trivial hv fun _ v' _ _ _ h =>
              ensures_ret (hv.later h)

/-- What the two queries of the check answer -/
theorem amid_recentOtp
    {since : Nat} {w' : EmailWorld} {x : Except EmailFailure (Nat × Option EmailOutbox)}
    (h : (alongside (EmailStmt.countOtpRegisterByEmailSince email since)
      (emailQuery (.findLatestOtpRegisterByEmailSince email since))).Amid (emailExec dep)
        .database (Later dep email) (fun _ _ => True) w w' x) :
    Later dep email w w' ∧ ((∃ e, x = .error e) ∨ ∃ v u, Later dep email w v ∧ Later dep email w u ∧
      x = .ok ((v.otpRegisterSince dep email since).length,
        latestRow (u.otpRegisterSince dep email since))) := by
  obtain ⟨h, ⟨e, he⟩ | ⟨r, a, v, u, hv, hu, ⟨o, hr⟩, ⟨o', ha⟩, hx⟩⟩ :=
    amid_alongside_await h (fun _ _ _ => Later.trans)
      (fun o v => by cases o <;> rfl) (fun o v => by cases o <;> rfl)
  · exact ⟨h, .inl ⟨e, he⟩⟩
  · refine ⟨h, .inr ⟨v, u, hv, hu, ?_⟩⟩
    cases o <;> cases hr
    cases o' <;> cases ha
    exact hx

theorem ensuresQuota_resendEmail (hw : WithinQuota dep email w) :
    EnsuresQuota dep email (resendEmail email) w := by
  simp only [resendEmail, newDate, bind_eq_bind]
  refine EnsuresQuota.await_bind trivial hw fun v₁ v₁' user _ hexec h₁ => ?_
  cases user with
  | none =>
      exact ensures_ret (hw.later h₁)
  | some user =>
      have huser : dep.collate user.email = dep.collate email := by
        simp only [emailExec, Except.ok.injEq, Prod.mk.injEq] at hexec
        obtain ⟨row, hrow, rfl⟩ := Option.map_eq_some_iff.mp hexec.2
        exact of_decide_eq_true (Table.findFirst_eq_some hrow).2
      dsimp only
      split_ifs
      · exact ensures_ret (hw.later h₁)
      refine EnsuresQuota.await_bind trivial (hw.later h₁) fun v₂ v₂' today _ htoday h₂ => ?_
      cases htoday
      have h₂ := h₁.trans h₂
      generalize hsince : v₂.auth.now - oneDayInMs = since
      refine Ensures.bind (fun v₃ recentOtp hrecent => ?_)
        fun v₃ e hrecent => hw.later (h₂.trans (amid_recentOtp hrecent).1)
      obtain ⟨h₃, ⟨e, he⟩ | ⟨v, u, hv, hu, hx⟩⟩ := amid_recentOtp hrecent
      · cases he
      cases hx
      have hw₂ := hw.later h₂
      refine EnsuresQuota.await_bind trivial (hw₂.later h₃) fun v₄ v₄' now hv₄ hnow h₄ => ?_
      cases hnow
      have h₄ := h₃.trans h₄
      split_ifs with hcheck
      · exact ensures_raise (hw₂.later h₄)
      simp only [renewVerification, newDate, bind_eq_bind]
      refine EnsuresQuota.await_bind trivial (hw₂.later h₄) fun v₅ v₅' usedAt _ _ h₅ => ?_
      refine EnsuresQuota.bind_all ?_ (hw₂.later (h₄.trans h₅)) fun v₆ _ h₆ => ?_
      · refine All.promiseAll fun s hs => ?_
        simp only [List.mem_cons, List.not_mem_nil, or_false] at hs
        rcases hs with rfl | rfl <;> trivial
      have h₆ := h₅.trans h₆
      refine ensuresQuota_sendRegisterVerification huser (hw₂.later (h₄.trans h₆))
        (fun v' hv' => ?_) fun v' hv' => ensures_ret hv'
      -- the instants of the check lie before that of the mail
      have hnow := h₆.trans hv'
      have htoday := h₄.trans hnow
      refine passes_of_not_quotaExceeded (v := v) (u := u) (hu.times.trans hv.times.symm)
        (htoday.times.trans hv.times.symm) (hw₂.later htoday) (fun t ht => ?_) hnow.now hcheck
      have : v₂.auth.now ≤ v'.auth.now := htoday.now
      omega

end Calls

/--
A new address is registered and verification mails are resent to it, one call after another.
Any window of a day has at most nine registration mails to the address, and from the sixth on
each comes `resendBlockWindowInMs` after the one before.
-/
theorem resendQuota
    (dep : EmailDeployment) (email : String) {w w' : EmailWorld} {n : Nat}
    {body : RegisterRequestDto} {userAgent ip originUrl : String} {guestSessionId : Option String}
    (hemail : dep.collate body.email = dep.collate email)
    (hnew : w.otpTimes dep email = [])
    (hserves : Serves (Answers dep email) w
      (register dep body userAgent ip originUrl guestSessionId ::
        List.replicate n (resendEmail email)) w') :
    (w'.otpTimes dep email).Pairwise (· ≤ ·) ∧ ∀ a,
      (window oneDayInMs a (w'.otpTimes dep email)).length ≤ 9 ∧
      ∀ before u t after, window oneDayInMs a (w'.otpTimes dep email) = before ++ u :: t :: after →
        resendMaxAttemptsPerDay ≤ before.length + 1 → u + resendBlockWindowInMs ≤ t := by
  obtain ⟨v, ⟨x, hregister⟩, hresend⟩ := hserves
  have hv : WithinQuota dep email v := ensuresQuota_register hemail hnew v x hregister
  have hw' : WithinQuota dep email w' := by
    refine (Serves.invariant (P := fun _ => True) ?_ hv hresend).1
    rintro u call u' hcall hu ⟨x, hx⟩
    rw [List.eq_of_mem_replicate hcall] at hx
    exact ⟨ensuresQuota_resendEmail hu u' x hx, trivial⟩
  refine ⟨hw'.limited.sorted, fun a => ⟨?_, fun before u t after hwindow hfifth => ?_⟩⟩
  · rw [← mailsPerDay]
    exact hw'.limited.length_window_le resendMaxAttemptsPerDay_pos resendBlockWindowInMs_pos a
  · exact hw'.limited.spaced a hwindow hfifth

/-- A new address is registered. -/
def sampleRegister : EmailService EmailAnswer :=
  register sampleEmail ⟨"b", "p", "p"⟩ "agent" "127.0.0.1" "" none

/-- The new address, and one more mail -/
def sampleResend : Option EmailWorld :=
  (sampleRegister.alone (emailExec sampleEmail) .database sampleEmailWorld).bind fun r =>
    ((resendEmail "b").alone (emailExec sampleEmail) .database r.1).map Prod.fst

theorem resendQuota_twoMails :
    ∃ w', Serves (Answers sampleEmail "b") sampleEmailWorld [sampleRegister, resendEmail "b"] w' ∧
      (w'.otpTimes sampleEmail "b").length = 2 ∧
      (window oneDayInMs 0 (w'.otpTimes sampleEmail "b")).length ≤ 9 := by
  have hrun :
      sampleResend.any (fun w => decide ((w.otpTimes sampleEmail "b").length = 2)) = true := by
    decide +kernel
  obtain ⟨w', hw', htwo⟩ := (Option.any_eq_true _ _).mp hrun
  obtain ⟨⟨v, x⟩, hregister, hresend⟩ := Option.bind_eq_some_iff.mp hw'
  obtain ⟨⟨u, y⟩, hanswer, hu⟩ := Option.map_eq_some_iff.mp hresend
  cases hu
  have hserves : Serves (Answers sampleEmail "b") sampleEmailWorld
      [sampleRegister, resendEmail "b"] _ :=
    ⟨v, ⟨x, amid_of_alone Later.refl (fun _ => trivial) hregister⟩, _,
      ⟨y, amid_of_alone Later.refl (fun _ => trivial) hanswer⟩, rfl⟩
  exact ⟨_, hserves, of_decide_eq_true htwo,
    ((resendQuota sampleEmail "b" (n := 1) rfl (by decide +kernel) hserves).2 0).1⟩

end Email
end BookStore
