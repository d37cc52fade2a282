import BookStore.Async.Sends
import BookStore.Email.Withdrawn

/-!
# The newest link

`resendEmail` withdraws the earlier codes and mails of an address before it makes new ones.
Two calls for one address may come between one another, and so may the worker.

* `RowsInTurn` is what a run needs besides `CancelsFree`: a row is made while the links of the
  earlier rows cannot be used.
* `LinksInv` is the invariant, `linksPromise` what the statements of all handlers meet.
* `withdrawn_runs` is the result: withdrawn mails stay withdrawn, and only the link of the
  newest row is accepted.
-/

namespace BookStore
namespace Email

open Async Program

/-- The code of the row can be used, and its link was sent or may still be. -/
def EmailWorld.linkOpen (w : EmailWorld) (id : Nat) : Bool :=
  (w.active id || w.mails.any fun m => decide (m.outboxId = id)) &&
    w.codes.rows.any fun c => w.history.bundles.contains (id, c.id) && c.usedAt.isNone

variable (dep : EmailDeployment)

/-- The row with the id is a registration mail to the address. -/
def EmailWorld.otpRegister (w : EmailWorld) (email : String) (id : Nat) : Bool :=
  (w.outbox.find id).any fun r => r.otpRegisterTo dep.toAuthDeployment email

/-- A registration mail is made while no link of an earlier one can be used. -/
def RowsInTurn (c : EmailState) : Action EmailEvent → Prop
  | .env _ => True
  | .run i _ o =>
      match System.nextStatement c i with
      | some (.createOutboxEmail email .otpRegister _) =>
          o = .fail ∨ (c.world.outbox.rows.all fun r =>
            !(r.otpRegisterTo dep.toAuthDeployment email && c.world.linkOpen r.id)) = true
      | _ => True

/-- The row is the newest registration mail to the address. -/
def EmailWorld.newest (w : EmailWorld) (email : String) (id : Nat) : Prop :=
  w.otpRegister dep email id = true ∧ ∀ j, w.otpRegister dep email j = true → j ≤ id

/-- `verifyEmail` accepts the token. -/
def Accepts (token : String) (w : EmailWorld) : Prop :=
  ∃ w', (verifyEmail dep token).alone (emailExec dep) .database w = some (w', .ok .success)

/-- The token was drawn for a code of the row, which is a registration mail to the address. -/
def LinkOf (w : EmailWorld) (m : Mail) (token : String) : Prop :=
  ∃ n k, token = dep.randomKey n ∧ (n, k) ∈ w.history.tokens ∧
    (m.outboxId, k) ∈ w.history.bundles ∧ w.otpRegister dep m.toEmail m.outboxId = true

structure LinksInv (w : EmailWorld) : Prop where
  drawn : ∀ n k, (n, k) ∈ w.history.tokens →
    n < w.auth.keys ∧ ∀ k', (n, k') ∈ w.history.tokens → k' = k
  hashed : ∀ c, c ∈ w.codes.rows → ∀ codeHash, c.codeHash = some codeHash →
    ∃ n, (n, c.id) ∈ w.history.tokens ∧ codeHash = dep.hashToken (dep.randomKey n)
  bundled : ∀ id k, (id, k) ∈ w.history.bundles →
    id < w.outbox.next ∧ k < w.codes.next ∧ ∀ k', (id, k') ∈ w.history.bundles → k' = k
  mail : ∀ m, m ∈ w.mails → ∀ token, m.verifyToken = some token → LinkOf dep w m token
  job : ∀ job, job ∈ w.jobs → ∀ k originUrl, job.data = .sendEmail k originUrl →
    (job.outboxId, k) ∈ w.history.bundles
  newest : ∀ email id j, w.otpRegister dep email id = true → w.linkOpen id = true →
    w.otpRegister dep email j = true → j ≤ id

/-- What lasts -/
structure LinksRely (w v : EmailWorld) : Prop where
  codes : w.codes.next ≤ v.codes.next
  tokens : ∀ x, x ∈ w.history.tokens → x ∈ v.history.tokens
  bundles : ∀ x, x ∈ w.history.bundles → x ∈ v.history.bundles
  rows : ∀ id r, w.outbox.find id = some r → ∃ r', v.outbox.find id = some r' ∧
    r'.toEmail = r.toEmail ∧ r'.templateKey = r.templateKey

variable {dep} {w w' v u : EmailWorld} {c c' : EmailState} {a : Action EmailEvent} {id : Nat}

theorem LinksRely.refl (w : EmailWorld) : LinksRely w w :=
  ⟨le_rfl, fun _ h => h, fun _ h => h, fun _ r hr => ⟨r, hr, rfl, rfl⟩⟩

theorem LinksRely.trans (huv : LinksRely u v) (hvw : LinksRely v w) : LinksRely u w where
  codes := huv.codes.trans hvw.codes
  tokens := fun x hx => hvw.tokens x (huv.tokens x hx)
  bundles := fun x hx => hvw.bundles x (huv.bundles x hx)
  rows := by
    intro id r hr
    obtain ⟨r₁, hr₁, hemail₁, hkey₁⟩ := huv.rows id r hr
    obtain ⟨r₂, hr₂, hemail₂, hkey₂⟩ := hvw.rows id r₁ hr₁
    exact ⟨r₂, hr₂, hemail₂.trans hemail₁, hkey₂.trans hkey₁⟩

/-- What the statements of all handlers meet -/
def linksPromise (dep : EmailDeployment) : Promise EmailStmt EmailWorld where
  rely := LinksRely
  rely_refl := .refl
  rely_trans := fun _ _ _ => .trans
  sends w s :=
    match s with
    | .createOutboxEmail _ _ k => k < w.codes.next
    | .add job => ∀ k originUrl, job.data = .sendEmail k originUrl →
        (job.outboxId, k) ∈ w.history.bundles
    | .updateCodeHash k codeHash _ => ∃ n, (n, k) ∈ w.history.tokens ∧
        codeHash = dep.hashToken (dep.randomKey n)
    | .sendMail mail => ∀ token, mail.verifyToken = some token → LinkOf dep w mail token
    | _ => True

theorem otpRegister_congr
    {email email' : String} (h : dep.collate email = dep.collate email') :
    w.otpRegister dep email id = w.otpRegister dep email' id := by
  rw [EmailWorld.otpRegister, EmailWorld.otpRegister]
  congr 1
  funext r
  rw [EmailOutbox.otpRegisterTo, EmailOutbox.otpRegisterTo, h]

theorem newest_congr {email email' : String} (h : dep.collate email = dep.collate email') :
    w.newest dep email id ↔ w.newest dep email' id := by
  simp only [EmailWorld.newest, otpRegister_congr h]

theorem LinksRely.otpRegister
    {email : String} (h : LinksRely w v) (hid : w.otpRegister dep email id = true) :
    v.otpRegister dep email id = true := by
  obtain ⟨r, hr, hto⟩ := Option.any_eq_true _ _ |>.mp hid
  obtain ⟨r', hr', hemail, hkey⟩ := h.rows id r hr
  rw [EmailWorld.otpRegister, hr', Option.any_some, EmailOutbox.otpRegisterTo, hemail, hkey]
  exact hto

theorem LinkOf.of_rely {m : Mail} {token : String}
    (h : LinkOf dep w m token) (hrely : LinksRely w v) :
    LinkOf dep v m token := by
  obtain ⟨n, k, htoken, hdrawn, hbundle, hrow⟩ := h
  exact ⟨n, k, htoken, hrely.tokens _ hdrawn, hrely.bundles _ hbundle, hrely.otpRegister hrow⟩

/-! ### One statement -/

theorem exec_linksRely
    {s : EmailStmt} {r : EmailResponse s}
    (h : emailExec dep s w = .ok (w', r)) :
    LinksRely w w' := by
  have heff := emailExec_effects dep h
  refine ⟨?_, fun x hx => ?_, fun x hx => ?_, fun id row hrow => ?_⟩
  · rw [heff.codes]
    cases s with
    | createVerifyCationCode userId email expiresAt type =>
        exact Nat.le_succ _
    | _ =>
        exact le_rfl
  · rw [heff.history]
    cases s with
    | randomKey outboxId k =>
        exact List.mem_append_left _ hx
    | _ =>
        exact hx
  · rw [heff.history]
    cases s with
    | createOutboxEmail toEmail templateKey k =>
        exact List.mem_append_left _ hx
    | _ =>
        exact hx
  · rw [heff.outbox]
    rcases find_outboxAfter (s := s) hrow with hsame | ⟨status, -, hset⟩ | ⟨email, -, -, hset⟩
    · exact ⟨row, hsame, rfl, rfl⟩
    · exact ⟨_, hset, rfl, rfl⟩
    · exact ⟨_, hset, rfl, rfl⟩

/-- The only new row is the one that is made. -/
theorem find_outboxAfter_none
    {s : EmailStmt} (hrow : w.outbox.find id = none) :
    (outboxAfter dep s w).find id = none ∨
      id = w.outbox.next ∧ ∃ toEmail templateKey k,
        s = .createOutboxEmail toEmail templateKey k ∧
          (outboxAfter dep s w).find id =
            some (newOutbox toEmail templateKey w.auth.now w.outbox.next) := by
  cases s with
  | createOutboxEmail toEmail templateKey k =>
      rw [outboxAfter, Table.find_insert]
      by_cases hnext : id = w.outbox.next
      · rw [if_pos hnext]
        exact .inr ⟨hnext, toEmail, templateKey, k, rfl, rfl⟩
      · rw [if_neg hnext]
        exact .inl hrow
  | updateByIdEmailStatus id' status =>
      refine .inl ?_
      rw [outboxAfter, Table.find_update]
      split_ifs with hid
      · rw [← hid, hrow]
        rfl
      · exact hrow
  | cancelOtpRegisterInProgressByEmail email =>
      rw [outboxAfter, Table.find_updateWhere, hrow]
      exact .inl rfl
  | _ =>
      exact .inl hrow

/-- A registration mail is an old one, or it has just been made. -/
theorem otpRegister_exec
    {s : EmailStmt} {r : EmailResponse s} {email : String}
    (h : emailExec dep s w = .ok (w', r))
    (hid : w'.otpRegister dep email id = true) :
    w.otpRegister dep email id = true ∨
      id = w.outbox.next ∧ ∃ toEmail k, s = .createOutboxEmail toEmail .otpRegister k ∧
        dep.collate toEmail = dep.collate email := by
  rw [EmailWorld.otpRegister, (emailExec_effects dep h).outbox] at hid
  cases hrow : w.outbox.find id with
  | some row =>
      refine .inl ?_
      rw [EmailWorld.otpRegister, hrow]
      rcases find_outboxAfter (s := s) hrow with hsame | ⟨_, -, hset⟩ | ⟨_, -, -, hset⟩
      · rwa [hsame] at hid
      · rwa [hset] at hid
      · rwa [hset] at hid
  | none =>
      rcases find_outboxAfter_none (s := s) hrow with hnone | ⟨hnext, _, _, k, rfl, hnew⟩
      · rw [hnone] at hid
        cases hid
      · simp only [hnew, Option.any_some, EmailOutbox.otpRegisterTo, newOutbox,
          Bool.and_eq_true, decide_eq_true_eq] at hid
        obtain ⟨hto, rfl⟩ := hid
        exact .inr ⟨hnext, _, k, rfl, hto⟩

/-- A row that is there and was not withdrawn before the statement -/
theorem active_of_exec
    {s : EmailStmt} {r : EmailResponse s}
    (hheld : heldRow s = some id → w.active id = true)
    (hid : id < w.outbox.next)
    (h : emailExec dep s w = .ok (w', r))
    (hactive : w'.active id = true) :
    w.active id = true := by
  rw [EmailWorld.active, (emailExec_effects dep h).outbox] at hactive
  cases hrow : w.outbox.find id with
  | some row =>
      rcases find_outboxAfter (s := s) hrow with hsame | ⟨_, rfl, -⟩ | ⟨_, -, -, hset⟩
      · rw [EmailWorld.active, hrow]
        rwa [hsame] at hactive
      · exact hheld rfl
      · rw [hset] at hactive
        cases hactive
  | none =>
      rcases find_outboxAfter_none (s := s) hrow with hnone | ⟨hnext, -⟩
      · rw [hnone] at hactive
        cases hactive
      · exact absurd hnext hid.ne

/-- A code that goes with an old row and can be used was there and could be used before. -/
theorem usable_of_exec
    {s : EmailStmt} {r : EmailResponse s} {code' : VerificationCode}
    (hbundled : ∀ id k, (id, k) ∈ w.history.bundles → k < w.codes.next)
    (hid : id < w.outbox.next)
    (h : emailExec dep s w = .ok (w', r))
    (hcode : code' ∈ w'.codes.rows)
    (hbundle : (id, code'.id) ∈ w'.history.bundles)
    (hunused : code'.usedAt = none) :
    ∃ code, code ∈ w.codes.rows ∧ code.id = code'.id ∧ code.usedAt = none ∧
      (id, code.id) ∈ w.history.bundles := by
  have heff := emailExec_effects dep h
  have hold : (id, code'.id) ∈ w.history.bundles := by
    rw [heff.history] at hbundle
    cases s with
    | createOutboxEmail toEmail templateKey k =>
        rcases List.mem_append.mp hbundle with hbundle | hbundle
        · exact hbundle
        · cases List.mem_singleton.mp hbundle
          exact absurd hid (lt_irrefl _)
    | _ =>
        exact hbundle
  suffices hsame : ∃ code, code ∈ w.codes.rows ∧ code.id = code'.id ∧ code.usedAt = none by
    obtain ⟨code, hmem, hcodeId, hnone⟩ := hsame
    exact ⟨code, hmem, hcodeId, hnone, hcodeId ▸ hold⟩
  have hused : ∀ usedAt (p : VerificationCode → Bool),
      code' ∈ (w.codes.updateWhere p (setUsedAt usedAt) (key_setUsedAt usedAt)).rows →
      ∃ code, code ∈ w.codes.rows ∧ code.id = code'.id ∧ code.usedAt = none := by
    intro usedAt p hmem
    obtain ⟨code, hrow, rfl⟩ := List.mem_map.mp hmem
    split_ifs at hunused ⊢
    · cases hunused
    · exact ⟨code, hrow, rfl, hunused⟩
  rw [heff.codes] at hcode
  cases s with
  | createVerifyCationCode userId email expiresAt type =>
      rcases List.mem_append.mp hcode with hcode | hcode
      · exact ⟨code', hcode, rfl, hunused⟩
      · rw [List.mem_singleton.mp hcode] at hold
        exact absurd (hbundled _ _ hold) (lt_irrefl _)
  | updateCodeHash k codeHash outboxId =>
      obtain ⟨code, hmem, rfl⟩ := List.mem_map.mp hcode
      refine ⟨code, hmem, ?_, ?_⟩
      · split_ifs <;> rfl
      · split_ifs at hunused <;> exact hunused
  | markUsedById k usedAt =>
      exact hused usedAt _ hcode
  | markAllRegisterUnusedByEmail email usedAt =>
      exact hused usedAt _ hcode
  | _ =>
      exact ⟨code', hcode, rfl, hunused⟩

theorem linkOpen_of_exec
    {s : EmailStmt} {r : EmailResponse s}
    (hbundled : ∀ id k, (id, k) ∈ w.history.bundles → k < w.codes.next)
    (hheld : heldRow s = some id → w.active id = true)
    (hid : id < w.outbox.next)
    (h : emailExec dep s w = .ok (w', r))
    (hopen : w'.linkOpen id = true) :
    w.linkOpen id = true := by
  obtain ⟨hsent, hcodes⟩ := Bool.and_eq_true_iff.mp hopen
  refine Bool.and_eq_true_iff.mpr ⟨?_, ?_⟩
  · rcases Bool.or_eq_true_iff.mp hsent with hactive | hmail
    · exact Bool.or_eq_true_iff.mpr (.inl (active_of_exec hheld hid h hactive))
    · rw [(emailExec_effects dep h).mails] at hmail
      cases s with
      | sendMail mail =>
          rw [mailsAfter, List.any_append, Bool.or_eq_true_iff] at hmail
          rcases hmail with hmail | hmail
          · exact Bool.or_eq_true_iff.mpr (.inr hmail)
          · -- the row of the mail that is sent has not been withdrawn
            have hrow : mail.outboxId = id := by simpa using hmail
            exact Bool.or_eq_true_iff.mpr (.inl (hheld (congrArg some hrow)))
      | _ =>
          exact Bool.or_eq_true_iff.mpr (.inr hmail)
  · obtain ⟨code', hcode', hmeets⟩ := List.any_eq_true.mp hcodes
    obtain ⟨hbundle, hunused⟩ := Bool.and_eq_true_iff.mp hmeets
    obtain ⟨code, hcode, -, hnone, hold⟩ := usable_of_exec hbundled hid h hcode'
      (List.contains_iff_mem.mp hbundle) (Option.isNone_iff_eq_none.mp hunused)
    refine List.any_eq_true.mpr ⟨code, hcode, Bool.and_eq_true_iff.mpr ⟨?_, ?_⟩⟩
    · exact List.contains_iff_mem.mpr hold
    · rw [hnone]
      rfl

/-- The keys that were drawn, each for one code -/
theorem drawn_exec
    {s : EmailStmt} {r : EmailResponse s}
    (hinv : LinksInv dep w)
    (h : emailExec dep s w = .ok (w', r)) :
    ∀ n k, (n, k) ∈ w'.history.tokens →
      n < w'.auth.keys ∧ ∀ k', (n, k') ∈ w'.history.tokens → k' = k := by
  have heff := emailExec_effects dep h
  have hkeys : w.auth.keys ≤ w'.auth.keys := by
    rw [heff.keys]
    cases s with
    | auth s =>
        cases s <;> simp [drawnAfter, keysAfter]
    | _ =>
        simp [drawnAfter]
  have hsame : w'.history.tokens = w.history.tokens → ∀ n k, (n, k) ∈ w'.history.tokens →
      n < w'.auth.keys ∧ ∀ k', (n, k') ∈ w'.history.tokens → k' = k := by
    intro hsame n k hk
    rw [hsame] at hk ⊢
    exact ⟨(hinv.drawn n k hk).1.trans_le hkeys, (hinv.drawn n k hk).2⟩
  cases s with
  | randomKey outboxId code =>
      have htokens : w'.history.tokens = w.history.tokens ++ [(w.auth.keys, code)] := by
        rw [heff.history]
        rfl
      have hnext : w'.auth.keys = w.auth.keys + 1 := heff.keys
      have hold : ∀ n k, (n, k) ∈ w'.history.tokens →
          (n, k) ∈ w.history.tokens ∨ n = w.auth.keys ∧ k = code := by
        intro n k hk
        rw [htokens] at hk
        rcases List.mem_append.mp hk with hk | hk
        · exact .inl hk
        · cases List.mem_singleton.mp hk
          exact .inr ⟨rfl, rfl⟩
      intro n k hk
      rcases hold n k hk with hk | ⟨rfl, rfl⟩
      · obtain ⟨hlt, honce⟩ := hinv.drawn n k hk
        refine ⟨hlt.trans_le hkeys, fun k' hk' => ?_⟩
        rcases hold n k' hk' with hk' | ⟨rfl, -⟩
        · exact honce k' hk'
        · exact absurd hlt (lt_irrefl _)
      · refine ⟨by omega, fun k' hk' => ?_⟩
        rcases hold _ k' hk' with hk' | ⟨-, rfl⟩
        · exact absurd (hinv.drawn _ k' hk').1 (lt_irrefl _)
        · rfl
  | _ =>
      exact hsame (by rw [heff.history]; rfl)

/-- The rows that were made, each for one code -/
theorem bundled_exec
    {s : EmailStmt} {r : EmailResponse s}
    (hinv : LinksInv dep w)
    (hsends : (linksPromise dep).sends w s)
    (h : emailExec dep s w = .ok (w', r)) :
    ∀ id k, (id, k) ∈ w'.history.bundles →
      id < w'.outbox.next ∧ k < w'.codes.next ∧
        ∀ k', (id, k') ∈ w'.history.bundles → k' = k := by
  have heff := emailExec_effects dep h
  have hcodes : w.codes.next ≤ w'.codes.next := (exec_linksRely h).codes
  have hoff : w.outbox.next ≤ w'.outbox.next := by
    rw [heff.outbox]
    cases s with
    | createOutboxEmail toEmail templateKey k =>
        exact Nat.le_succ _
    | _ =>
        exact le_rfl
  cases s with
  | createOutboxEmail toEmail templateKey code =>
      have hbundles : w'.history.bundles = w.history.bundles ++ [(w.outbox.next, code)] := by
        rw [heff.history]
        rfl
      have hnext : w'.outbox.next = w.outbox.next + 1 := by
        rw [heff.outbox]
        rfl
      have hold : ∀ id k, (id, k) ∈ w'.history.bundles →
          (id, k) ∈ w.history.bundles ∨ id = w.outbox.next ∧ k = code := by
        intro id k hk
        rw [hbundles] at hk
        rcases List.mem_append.mp hk with hk | hk
        · exact .inl hk
        · cases List.mem_singleton.mp hk
          exact .inr ⟨rfl, rfl⟩
      intro id k hk
      rcases hold id k hk with hk | ⟨rfl, rfl⟩
      · obtain ⟨hlt, hcode, honce⟩ := hinv.bundled id k hk
        refine ⟨hlt.trans_le hoff, hcode.trans_le hcodes, fun k' hk' => ?_⟩
        rcases hold id k' hk' with hk' | ⟨rfl, -⟩
        · exact honce k' hk'
        · exact absurd hlt (lt_irrefl _)
      · have hcode : k < w.codes.next := hsends
        refine ⟨by omega, hcode.trans_le hcodes, fun k' hk' => ?_⟩
        rcases hold _ k' hk' with hk' | ⟨-, rfl⟩
        · exact absurd (hinv.bundled _ k' hk').1 (lt_irrefl _)
        · rfl
  | _ =>
      have hsame : w'.history.bundles = w.history.bundles := by
        rw [heff.history]
        rfl
      intro id k hk
      rw [hsame] at hk ⊢
      obtain ⟨hlt, hcode, honce⟩ := hinv.bundled id k hk
      exact ⟨hlt.trans_le hoff, hcode.trans_le hcodes, honce⟩

/-- The hashes of the codes are those of keys that were drawn for them. -/
theorem hashed_exec
    {s : EmailStmt} {r : EmailResponse s}
    (hinv : LinksInv dep w)
    (hsends : (linksPromise dep).sends w s)
    (h : emailExec dep s w = .ok (w', r)) :
    ∀ code, code ∈ w'.codes.rows → ∀ codeHash, code.codeHash = some codeHash →
      ∃ n, (n, code.id) ∈ w'.history.tokens ∧ codeHash = dep.hashToken (dep.randomKey n) := by
  have heff := emailExec_effects dep h
  have htokens := (exec_linksRely h).tokens
  have hold : ∀ code, code ∈ w.codes.rows → ∀ codeHash, code.codeHash = some codeHash →
      ∃ n, (n, code.id) ∈ w'.history.tokens ∧ codeHash = dep.hashToken (dep.randomKey n) := by
    intro code hcode codeHash hhash
    obtain ⟨n, hn, heq⟩ := hinv.hashed code hcode codeHash hhash
    exact ⟨n, htokens _ hn, heq⟩
  rw [heff.codes]
  cases s with
  | createVerifyCationCode userId email expiresAt type =>
      intro code hcode codeHash hhash
      rcases List.mem_append.mp hcode with hcode | hcode
      · exact hold code hcode codeHash hhash
      · rw [List.mem_singleton.mp hcode] at hhash
        cases hhash
  | updateCodeHash k codeHash outboxId =>
      refine Table.forall_updateWhere (fun code hcode hk codeHash' hhash => ?_)
        fun code hcode _ => hold code hcode
      cases hhash
      obtain ⟨n, hn, heq⟩ := hsends
      refine ⟨n, htokens _ ?_, heq⟩
      have hid : code.id = k := of_decide_eq_true hk
      rw [← hid] at hn
      exact hn
  | markUsedById k usedAt =>
      exact Table.forall_updateWhere (fun code hcode _ => hold code hcode)
        fun code hcode _ => hold code hcode
  | markAllRegisterUnusedByEmail email usedAt =>
      exact Table.forall_updateWhere (fun code hcode _ => hold code hcode)
        fun code hcode _ => hold code hcode
  | _ =>
      exact hold

/-- **One statement** that the handlers may send, when a new row is made in turn -/
theorem LinksInv.exec
    {s : EmailStmt} {r : EmailResponse s}
    (hinv : LinksInv dep w)
    (hsends : (linksPromise dep).sends w s)
    (hheld : ∀ id, heldRow s = some id → w.active id = true)
    (hturn : ∀ email k, s = .createOutboxEmail email .otpRegister k →
      ∀ id, w.otpRegister dep email id = true → w.linkOpen id = false)
    (h : emailExec dep s w = .ok (w', r)) :
    LinksInv dep w' := by
  have heff := emailExec_effects dep h
  have hrely := exec_linksRely h
  refine ⟨drawn_exec hinv h, hashed_exec hinv hsends h, bundled_exec hinv hsends h,
    fun m hm token htoken => ?_, fun job hjob k originUrl hdata => ?_,
    fun email id j hid hopen hj => ?_⟩
  · rw [heff.mails] at hm
    cases s with
    | sendMail mail =>
        rcases List.mem_append.mp hm with hm | hm
        · exact (hinv.mail m hm token htoken).of_rely hrely
        · rw [List.mem_singleton.mp hm] at htoken ⊢
          exact (hsends token htoken).of_rely hrely
    | _ =>
        exact (hinv.mail m hm token htoken).of_rely hrely
  · refine hrely.bundles _ ?_
    rcases heff.jobs with hsame | ⟨new, rfl, hmore⟩
    · exact hinv.job job (hsame ▸ hjob) k originUrl hdata
    · rw [hmore] at hjob
      rcases List.mem_append.mp hjob with hjob | hjob
      · exact hinv.job job hjob k originUrl hdata
      · rw [List.mem_singleton.mp hjob] at hdata ⊢
        exact hsends k originUrl hdata
  · have hbundled : ∀ id k, (id, k) ∈ w.history.bundles → k < w.codes.next :=
      fun id k hk => (hinv.bundled id k hk).2.1
    have hlt : ∀ {i}, w.otpRegister dep email i = true → i < w.outbox.next := by
      intro i hi
      obtain ⟨row, hrow, -⟩ := Option.any_eq_true _ _ |>.mp hi
      exact Table.find_lt hrow
    rcases otpRegister_exec h hid with hid | ⟨rfl, -⟩
    · have hopen := linkOpen_of_exec hbundled (hheld id) (hlt hid) h hopen
      rcases otpRegister_exec h hj with hj | ⟨-, toEmail, k, rfl, hto⟩
      · exact hinv.newest email id j hid hopen hj
      · -- a new row is made while the link of no row can be used
        rw [hturn toEmail k rfl id ((otpRegister_congr hto).trans hid)] at hopen
        cases hopen
    · rcases otpRegister_exec h hj with hj | ⟨rfl, -⟩
      · exact (hlt hj).le
      · exact le_rfl

/-! ### The handlers -/

/-- The handler keeps the promise. -/
abbrev KeepsLinks (dep : EmailDeployment) (p : EmailService EmailAnswer) (w : EmailWorld) : Prop :=
  Sends (linksPromise dep) (fun _ _ _ => True) (emailExec dep) .database (fun _ _ => True) p w

theorem sends_of_apart {s : EmailStmt} (hs : Apart s) (v : EmailWorld) :
    (linksPromise dep).sends v s := by
  cases s <;> trivial

theorem attempt_linksRely (s : EmailStmt) (w : EmailWorld) (o : Outcome) :
    LinksRely w (attempt (emailExec dep) .database s o w).1 :=
  attempt_of_exec .refl (fun _ _ h => exec_linksRely h) o

theorem links_of_all
    {p : EmailService EmailAnswer} (h : p.All Apart) :
    KeepsLinks dep p w :=
  Sends.of_all (K := fun _ => True) (fun _ _ _ _ => trivial) attempt_linksRely
    (h.mono fun _ hs v _ => sends_of_apart hs v) (fun _ _ _ => trivial) trivial

/-- A part of a handler without such statements, then the rest -/
theorem links_bind_all
    {α : Type} {p : EmailService α} {f : α → EmailService EmailAnswer}
    (h : p.All Apart)
    (hf : ∀ x v, KeepsLinks dep (f x) v) :
    KeepsLinks dep (p.bind f) w :=
  Sends.bind_all attempt_linksRely (h.mono fun _ hs v => sends_of_apart hs v)
    (fun _ _ => trivial) (fun x v _ => hf x v)

/-- A statement of which nothing is asked, then the rest -/
theorem links_await_bind
    {s : EmailStmt} {f : EmailResponse s → EmailService EmailAnswer}
    (hs : Apart s)
    (hf : ∀ r v, KeepsLinks dep (f r) v) :
    KeepsLinks dep ((await s).bind f) w :=
  Sends.await_bind (fun v _ => sends_of_apart hs v) (fun _ _ => trivial)
    fun _ _ v' r _ _ _ _ => hf r v'

/-- A code, the row that goes with it, and the job of the row -/
theorem createVerification_links
    {type : VerificationType} {templateKey : TemplateKey} {userId expiresAt : Nat}
    {email : String} {originUrl : Option String} {f : Unit → EmailService EmailAnswer}
    (hf : ∀ v, KeepsLinks dep (f ()) v) :
    KeepsLinks dep
      ((createVerification type templateKey userId email expiresAt).bind fun bundle =>
        (enqueueOutboxEmail bundle.2.id bundle.1.id originUrl).bind f) w := by
  simp only [createVerification, bind_eq_bind, Program.bind_assoc, bind_ret]
  refine Sends.await_bind (fun _ _ => trivial) (fun _ _ => trivial)
    fun v _ v' record _ _ _ hcreate => ?_
  have hcode : record.id < v'.codes.next := by
    simp only [emailExec] at hcreate
    split at hcreate
    · cases hcreate
    · cases hcreate
      exact Nat.lt_succ_self _
  refine Sends.await_bind (fun u hu => hcode.trans_le hu.codes) (fun _ _ => trivial)
    fun u _ u' outbox _ _ _ hinsert => ?_
  have hbundle : (outbox.id, record.id) ∈ u'.history.bundles := by
    cases hinsert
    exact List.mem_append_right _ (List.mem_singleton_self _)
  refine Sends.await_bind (fun z hz k originUrl hdata => ?_) (fun _ _ => trivial)
    fun _ _ z' _ _ _ _ _ => hf z'
  cases hdata
  exact hz.bundles _ hbundle

theorem sendRegisterVerification_links
    {user : AuthMe} {originUrl : Option String} {f : Unit → EmailService EmailAnswer}
    (hf : ∀ v, KeepsLinks dep (f ()) v) :
    KeepsLinks dep ((sendRegisterVerification user originUrl).bind f) w := by
  simp only [sendRegisterVerification, bind_eq_bind, Program.bind_assoc]
  refine links_bind_all signVerifyCode_apart fun expiresAt v => ?_
  exact createVerification_links hf

theorem register_links
    (body : RegisterRequestDto) (userAgent ip originUrl : String)
    (guestSessionId : Option String) :
    KeepsLinks dep (register dep body userAgent ip originUrl guestSessionId) w := by
  unfold register
  split_ifs
  · exact fun _ _ => trivial
  refine links_await_bind trivial fun existsEmail v => ?_
  split_ifs
  · exact fun _ _ => trivial
  refine links_await_bind trivial fun passwordHash v => ?_
  refine links_await_bind trivial fun user v => ?_
  refine links_bind_all (signTokenPair_apart _) fun signature v =>
    links_await_bind trivial fun role v => ?_
  cases role with
  | none =>
      exact fun _ _ => trivial
  | some role =>
      refine links_bind_all (openAccount_apart _ _ _ _ _) fun _ v =>
        sendRegisterVerification_links fun v => ?_
      cases truthy guestSessionId with
      | none =>
          exact fun _ _ => trivial
      | some guestSessionId =>
          exact links_await_bind trivial fun _ _ _ _ => trivial

theorem resendEmail_links (email : String) : KeepsLinks dep (resendEmail email) w := by
  refine links_await_bind trivial fun user v => ?_
  cases user with
  | none =>
      exact fun _ _ => trivial
  | some user =>
      dsimp only
      split_ifs
      · exact fun _ _ => trivial
      refine links_await_bind trivial fun today v =>
        links_bind_all (All.alongside trivial (All.await trivial)) fun recentOtp v =>
          links_await_bind trivial fun now v => ?_
      split_ifs
      · exact fun _ _ => trivial
      · exact links_await_bind trivial fun usedAt v =>
          links_bind_all (all_promiseAll_pair trivial trivial) fun _ v =>
            sendRegisterVerification_links fun _ _ _ => trivial

theorem forgotPassword_links (email : String) : KeepsLinks dep (forgotPassword email) w := by
  refine links_await_bind trivial fun user v => ?_
  cases user with
  | none =>
      exact fun _ _ => trivial
  | some user =>
      exact links_bind_all signVerifyCode_apart fun expiresAt v =>
        createVerification_links fun _ _ _ => trivial

theorem sendMail_links
    {mail : Mail} {Q : Except EmailFailure Unit → EmailWorld → Prop}
    (hmail : ∀ v, LinksRely w v → ∀ token, mail.verifyToken = some token →
      LinkOf dep v mail token)
    (hQ : ∀ x v, Q x v) :
    Sends (linksPromise dep) (fun _ _ _ => True) (emailExec dep) .database Q
      (emailQuery (.sendMail mail)) w :=
  Sends.await (s := EmailStmt.sendMail mail) hmail hQ

/-- The mail of a job and the hash of its token -/
theorem handleJob_links
    {job : EmailJob} {r : EmailOutbox} {Q : Except EmailFailure Unit → EmailWorld → Prop}
    (hjob : ∀ k originUrl, job.data = .sendEmail k originUrl → (r.id, k) ∈ w.history.bundles)
    (hrow : w.outbox.find r.id = some r)
    (hQ : ∀ x v, Q x v) :
    Sends (linksPromise dep) (fun _ _ _ => True) (emailExec dep) .database Q
      (handleJob dep job r) w := by
  unfold handleJob
  split
  · rename_i k originUrl hdata
    have hbundle := hjob k originUrl hdata
    refine Sends.await_bind (fun _ _ => trivial) (fun e v => hQ _ v)
      fun v _ v' token hv _ _ hdraw => ?_
    have hrely : LinksRely w v' := hv.trans (exec_linksRely hdraw)
    obtain ⟨n, htoken, hdrawn⟩ : ∃ n, token = dep.randomKey n ∧ (n, k) ∈ v'.history.tokens := by
      cases hdraw
      exact ⟨_, rfl, List.mem_append_right _ (List.mem_singleton_self _)⟩
    have hlink : ∀ mail, (∀ u, LinksRely v' u → ∀ token, mail.verifyToken = some token →
          LinkOf dep u mail token) →
        Sends (linksPromise dep) (fun _ _ _ => True) (emailExec dep) .database Q
          (sendLink dep r k token mail) v' := by
      intro mail hmail
      refine Sends.await_bind (fun u hu => ⟨n, hu.tokens _ hdrawn, by rw [htoken]⟩)
        (fun e v => hQ _ v) fun u _ u' _ hu _ _ hhash => ?_
      refine Sends.await_bind (fun _ _ => trivial) (fun e v => hQ _ v)
        fun z _ z' _ hz _ _ hstatus => sendMail_links (fun y hy => ?_) hQ
      exact hmail y (((hu.trans (exec_linksRely hhash)).trans
        (hz.trans (exec_linksRely hstatus))).trans hy)
    split
    · exact hlink _ fun u hu token htoken => by cases htoken
    · rename_i htemplate
      refine hlink _ fun u hu token' htoken' => ?_
      cases htoken'
      refine ⟨n, k, htoken, hu.tokens _ hdrawn, (hrely.trans hu).bundles _ hbundle,
        (hrely.trans hu).otpRegister ?_⟩
      rw [EmailWorld.otpRegister, hrow, Option.any_some, EmailOutbox.otpRegisterTo, htemplate]
      simp
    · exact fun v _ => hQ _ v
  · split_ifs
    · unfold handleOrderEmail
      split
      · exact fun v _ => hQ _ v
      · exact sendMail_links (fun _ _ token htoken => by cases htoken) hQ
    · exact fun v _ => hQ _ v

theorem process_links
    {job : EmailJob}
    (hjob : ∀ k originUrl, job.data = .sendEmail k originUrl →
      (job.outboxId, k) ∈ w.history.bundles) :
    KeepsLinks dep (process dep job) w := by
  refine Sends.await_bind (fun _ _ => trivial) (fun _ _ => trivial)
    fun v _ v' outBox hv _ _ hread => ?_
  cases outBox with
  | none =>
      exact fun _ _ => trivial
  | some r =>
      simp only [emailExec, Except.ok.injEq, Prod.mk.injEq] at hread
      obtain ⟨rfl, hfilter⟩ := hread
      have hfind := (Option.filter_eq_some_iff.mp hfilter).1
      have hid : r.id = job.outboxId := Table.find_key hfind
      have hcatch : ∀ e u, KeepsLinks dep
          ((emailQuery (.updateByIdEmailStatus r.id .failed)).bind fun _ => raise e) u :=
        fun e u => Sends.await_bind (fun _ _ => trivial) (fun _ _ => trivial)
          fun _ _ _ _ _ _ _ _ _ _ => trivial
      refine Sends.tryCatch (Sends.bind (handleJob_links (fun k originUrl hdata => ?_)
        (hid ▸ hfind) fun x u => ?_))
      · rw [hid]
        exact hv.bundles _ (hjob k originUrl hdata)
      · cases x with
        | ok a =>
            exact Sends.await_bind (fun _ _ => trivial) (fun e u => hcatch e u)
              fun _ _ _ _ _ _ _ _ _ _ => trivial
        | error e =>
            exact hcatch e u

theorem emailServer_env_links
    {event : EmailEvent} {p : EmailService EmailAnswer}
    (hinv : LinksInv dep w)
    (h : (emailServer dep).env event w = some (w', some p)) :
    KeepsLinks dep p w' := by
  cases event with
  | arrive r =>
      cases h
      cases r with
      | register body userAgent ip originUrl guestSessionId =>
          exact register_links body userAgent ip originUrl guestSessionId
      | verifyEmail token =>
          exact links_of_all (verifyEmail_apart token)
      | resendEmail email =>
          exact resendEmail_links email
      | forgotPassword email =>
          exact forgotPassword_links email
      | validateResetPasswordToken token =>
          exact links_of_all (validateResetPasswordToken_apart token)
      | resetPassword body =>
          exact links_of_all (resetPassword_apart body)
  | work n =>
      obtain ⟨job, hjob, hw⟩ := Option.map_eq_some_iff.mp h
      cases hw
      exact process_links fun k originUrl hdata =>
        hinv.job job (List.mem_of_getElem? hjob) k originUrl hdata
  | tick ms =>
      cases h

/-! ### Runs -/

variable (dep) in
/-- Rows that are made and withdrawn in turn -/
def RenewsInTurn (c : EmailState) (a : Action EmailEvent) : Prop :=
  CancelsFree dep c a ∧ RowsInTurn dep c a

/-- What every state of such a run meets -/
structure InTurn (dep : EmailDeployment) (c : EmailState) : Prop where
  staged : Staged c
  sends : AllSend (emailServer dep) (linksPromise dep) (fun _ _ _ _ => True) c
  inv : LinksInv dep c.world

theorem step_linksRely
    (hstep : (emailServer dep).step c a = some c') :
    LinksRely c.world c'.world := by
  refine System.step_world (emailServer dep) .refl (fun event w w' p hp => ?_)
    (fun _ _ _ _ h => exec_linksRely h) hstep
  rcases emailServer_env hp with hw | ⟨ms, hw⟩ <;> rw [hw]
  · exact .refl _
  · exact ⟨le_rfl, fun _ h => h, fun _ h => h, fun _ r hr => ⟨r, hr, rfl, rfl⟩⟩

/-- **One step** of a run in turn -/
theorem inTurn_step
    (hturn : RenewsInTurn dep c a)
    (hc : InTurn dep c)
    (hstep : (emailServer dep).step c a = some c') :
    InTurn dep c' := by
  refine ⟨staged_step hturn.1 hc.staged hstep, sends_step (fun event w' p i _ hp =>
    emailServer_env_links hc.inv hp) (fun _ _ _ _ _ _ => trivial) (step_linksRely hstep)
    hc.sends hstep, ?_⟩
  cases a with
  | env event =>
      obtain ⟨p, hp⟩ := System.step_env_world (emailServer dep) hstep
      rcases emailServer_env hp with hw | ⟨ms, hw⟩ <;> rw [hw]
      · exact hc.inv
      · exact ⟨hc.inv.drawn, hc.inv.hashed, hc.inv.bundled, hc.inv.mail, hc.inv.job,
          hc.inv.newest⟩
  | run i j o =>
      rcases System.step_run_world (emailServer dep) hstep with ⟨s, hs, hw⟩ | ⟨-, hw⟩
      · obtain ⟨k, hi⟩ := call_of_nextStatement hs
        have hsent := Sends.next (hc.sends i) hs
        have hrow := hturn.2
        simp only [RowsInTurn, hs] at hrow
        rw [hw]
        refine attempt_cases (motive := fun x => LinksInv dep x.1) (fun _ => hc.inv)
          fun w' r ho hexec => ?_
        have hinv' : LinksInv dep w' := by
          refine hc.inv.exec hsent
            (fun id hid => (hc.staged _ (List.mem_of_getElem? hi)).active_of_held hid) ?_ hexec
          rintro email k rfl id hid
          have hall := hrow.resolve_left ho
          obtain ⟨row, hfind, hto⟩ := Option.any_eq_true _ _ |>.mp hid
          have hrow := List.all_eq_true.mp hall row (Table.find_mem hfind)
          rw [hto, Bool.true_and, show row.id = id from Table.find_key hfind] at hrow
          simpa using hrow
        exact ⟨hinv', hinv'⟩
      · rw [hw]
        exact hc.inv

/-- No registration code and no mail has been made yet. -/
structure NoMails (w : EmailWorld) : Prop where
  codes : w.codes.rows = []
  outbox : w.outbox.rows = []
  jobs : w.jobs = []
  mails : w.mails = []
  tokens : w.history.tokens = []
  bundles : w.history.bundles = []

theorem inTurn_start (hw : NoMails w) : InTurn dep ⟨w, []⟩ where
  staged := by
    intro p hp
    cases hp
  sends := by
    intro i p hp
    simp at hp
  inv := by
    refine ⟨fun n k hk => ?_, fun code hcode => ?_, fun id k hk => ?_, fun m hm => ?_,
      fun job hjob => ?_, fun email id j hid => ?_⟩
    · rw [hw.tokens] at hk
      cases hk
    · rw [hw.codes] at hcode
      cases hcode
    · rw [hw.bundles] at hk
      cases hk
    · rw [hw.mails] at hm
      cases hm
    · rw [hw.jobs] at hjob
      cases hjob
    · obtain ⟨row, hrow, -⟩ := Option.any_eq_true _ _ |>.mp hid
      have hmem := Table.find_mem hrow
      rw [hw.outbox] at hmem
      cases hmem

/-- A token that is accepted is that of a registration code that has not been used. -/
theorem usable_of_accepts {token : String} (h : Accepts dep token w) :
    ∃ code, code ∈ w.codes.rows ∧ code.codeHash = some (dep.hashToken token) ∧
      code.usedAt = none := by
  obtain ⟨w', h⟩ := h
  have hexec : emailExec dep (.findActiveRegisterByCodeHash (dep.hashToken token)) w = .ok (w, _) :=
    rfl
  rw [verifyEmail, bind_eq_bind, alone_bind, alone_await_ok hexec, Option.bind_some] at h
  cases hfind : w.codes.findFirst fun c => decide (c.type = .register) &&
      decide (c.codeHash = some (dep.hashToken token)) && c.usedAt.isNone with
  | none =>
      rw [hfind] at h
      cases h
  | some code =>
      obtain ⟨hmem, hmeets⟩ := Table.findFirst_eq_some hfind
      simp only [Bool.and_eq_true, decide_eq_true_eq, Option.isNone_iff_eq_none] at hmeets
      exact ⟨code, hmem, hmeets.1.2, hmeets.2⟩

/-- The code behind a link that was sent and is accepted -/
theorem LinksInv.code_of_accepts
    {m : Mail} {token : String}
    (hinv : LinksInv dep w)
    (hm : m ∈ w.mails) (htoken : m.verifyToken = some token)
    (haccepts : Accepts dep token w) :
    w.otpRegister dep m.toEmail m.outboxId = true ∧ ∃ code, code ∈ w.codes.rows ∧
      code.codeHash = some (dep.hashToken token) ∧ code.usedAt = none ∧
      (m.outboxId, code.id) ∈ w.history.bundles := by
  obtain ⟨code, hcode, hhash, hunused⟩ := usable_of_accepts haccepts
  obtain ⟨n, k, rfl, hdrawn, hbundle, hrow⟩ := hinv.mail m hm token htoken
  obtain ⟨n', hdrawn', heq⟩ := hinv.hashed code hcode _ hhash
  have hn := dep.randomKey_injective (dep.hashToken_injective heq)
  subst hn
  have hid := (hinv.drawn n k hdrawn).2 _ hdrawn'
  exact ⟨hrow, code, hcode, hhash, hunused, hid ▸ hbundle⟩

/-- A link that was sent and is accepted is that of the newest row. -/
theorem LinksInv.newest_of_accepts
    {m : Mail} {token : String}
    (hinv : LinksInv dep w)
    (hm : m ∈ w.mails) (htoken : m.verifyToken = some token)
    (haccepts : Accepts dep token w) :
    w.newest dep m.toEmail m.outboxId := by
  obtain ⟨hrow, code, hcode, -, hunused, hbundle⟩ := hinv.code_of_accepts hm htoken haccepts
  refine ⟨hrow, fun j hj => hinv.newest _ _ j hrow ?_ hj⟩
  refine Bool.and_eq_true_iff.mpr ⟨Bool.or_eq_true_iff.mpr (.inr ?_), ?_⟩
  · exact List.any_eq_true.mpr ⟨m, hm, decide_eq_true rfl⟩
  · refine List.any_eq_true.mpr ⟨code, hcode, Bool.and_eq_true_iff.mpr ⟨?_, ?_⟩⟩
    · exact List.contains_iff_mem.mpr hbundle
    · rw [hunused]
      rfl

/-- Two such links of one address are the same. -/
theorem LinksInv.unique_of_accepts
    {m m' : Mail} {token token' : String}
    (hinv : LinksInv dep w)
    (hm : m ∈ w.mails) (htoken : m.verifyToken = some token) (haccepts : Accepts dep token w)
    (hm' : m' ∈ w.mails) (htoken' : m'.verifyToken = some token')
    (haccepts' : Accepts dep token' w)
    (hto : dep.collate m'.toEmail = dep.collate m.toEmail) :
    token' = token := by
  have hnewest := hinv.newest_of_accepts hm htoken haccepts
  have hnewest' := hinv.newest_of_accepts hm' htoken' haccepts'
  rw [newest_congr hto] at hnewest'
  have hrow : m'.outboxId = m.outboxId :=
    (hnewest.2 _ hnewest'.1).antisymm (hnewest'.2 _ hnewest.1)
  obtain ⟨-, code, hcode, hhash, -, hbundle⟩ := hinv.code_of_accepts hm htoken haccepts
  obtain ⟨-, code', hcode', hhash', -, hbundle'⟩ := hinv.code_of_accepts hm' htoken' haccepts'
  rw [hrow] at hbundle'
  have hid := (hinv.bundled _ _ hbundle).2.2 _ hbundle'
  have hsame : code' = code := by
    have hfind := Table.find_of_mem hcode'
    rw [show key code' = key code from hid, Table.find_of_mem hcode] at hfind
    exact (Option.some.inj hfind).symm
  rw [hsame, hhash, Option.some.injEq] at hhash'
  exact dep.hashToken_injective hhash'.symm

variable (dep) in
/--
In every run in which rows are made and withdrawn in turn, a mail that was withdrawn stays
withdrawn, and of the links sent to an address only that of the newest row is accepted.
-/
theorem withdrawn_runs
    {as bs : List (Action EmailEvent)}
    (hw : NoMails w)
    (hrun : runs (emailServer dep).step ⟨w, []⟩ as = some c)
    (hrun' : runs (emailServer dep).step c bs = some c')
    (hturn : Meets (emailServer dep).step (RenewsInTurn dep) ⟨w, []⟩ (as ++ bs)) :
    (∀ id, c.world.cancelled id = true → c'.world.cancelled id = true) ∧
      ∀ m token, m ∈ c'.world.mails → m.verifyToken = some token →
        Accepts dep token c'.world →
        c'.world.newest dep m.toEmail m.outboxId ∧
          ∀ m' token', m' ∈ c'.world.mails →
            dep.collate m'.toEmail = dep.collate m.toEmail →
            m'.verifyToken = some token' → Accepts dep token' c'.world → token' = token := by
  obtain ⟨hfirst, hsecond⟩ := (meets_append hrun).mp hturn
  have hmid : InTurn dep c :=
    runs_invariant (I := InTurn dep) (fun _ _ _ hd ha hstep => inTurn_step ha hd hstep)
      (inTurn_start hw) hfirst hrun
  constructor
  · intro id hcancelled
    exact (runs_invariant
      (I := fun d : EmailState => InTurn dep d ∧ d.world.cancelled id = true)
      (fun d a d' hd ha hstep => ⟨inTurn_step ha hd.1 hstep,
        cancelled_step hd.1.staged hd.2 hstep⟩) ⟨hmid, hcancelled⟩ hsecond hrun').2
  · have hend : InTurn dep c' :=
      runs_invariant (I := InTurn dep) (fun _ _ _ hd ha hstep => inTurn_step ha hd hstep)
        hmid hsecond hrun'
    intro m token hm htoken haccepts
    exact ⟨hend.inv.newest_of_accepts hm htoken haccepts, fun m' token' hm' hto htoken' h =>
      hend.inv.unique_of_accepts hm htoken haccepts hm' htoken' h hto⟩

variable (dep) in
/-- `CancelsFree`, computed -/
def cancelsFree (c : EmailState) : Action EmailEvent → Bool
  | .env _ => true
  | .run i _ o =>
      match System.nextStatement c i with
      | some (.cancelOtpRegisterInProgressByEmail email) =>
          decide (o = .fail) ||
            c.threads.all fun p => (held p).all fun id => !c.world.withdraws dep email id
      | _ => true

variable (dep) in
/-- `RowsInTurn`, computed -/
def rowsInTurn (c : EmailState) : Action EmailEvent → Bool
  | .env _ => true
  | .run i _ o =>
      match System.nextStatement c i with
      | some (.createOutboxEmail email .otpRegister _) =>
          decide (o = .fail) ||
            c.world.outbox.rows.all fun r =>
              !(r.otpRegisterTo dep.toAuthDeployment email && c.world.linkOpen r.id)
      | _ => true

theorem cancelsFree_iff {c : EmailState} {a : Action EmailEvent} :
    cancelsFree dep c a = true ↔ CancelsFree dep c a := by
  cases a with
  | env _ =>
      exact iff_of_true rfl trivial
  | run i j o =>
      cases hs : System.nextStatement c i with
      | none => simp [cancelsFree, CancelsFree, hs]
      | some s => cases s <;> simp [cancelsFree, CancelsFree, hs]

theorem rowsInTurn_iff {c : EmailState} {a : Action EmailEvent} :
    rowsInTurn dep c a = true ↔ RowsInTurn dep c a := by
  cases a with
  | env _ =>
      exact iff_of_true rfl trivial
  | run i j o =>
      cases hs : System.nextStatement c i with
      | none => simp [rowsInTurn, RowsInTurn, hs]
      | some s =>
          cases s with
          | createOutboxEmail _ kind _ => cases kind <;> simp [rowsInTurn, RowsInTurn, hs]
          | _ => simp [rowsInTurn, RowsInTurn, hs]

instance (c : EmailState) (a : Action EmailEvent) : Decidable (CancelsFree dep c a) :=
  decidable_of_iff _ cancelsFree_iff

instance (c : EmailState) (a : Action EmailEvent) : Decidable (RowsInTurn dep c a) :=
  decidable_of_iff _ rowsInTurn_iff

instance (c : EmailState) (a : Action EmailEvent) : Decidable (RenewsInTurn dep c a) :=
  inferInstanceAs (Decidable (CancelsFree dep c a ∧ RowsInTurn dep c a))

theorem accepts_iff {token : String} :
    (((verifyEmail dep token).alone (emailExec dep) .database w).any fun x =>
      decide (x.2.toOption = some .success)) = true ↔ Accepts dep token w := by
  rw [Option.any_eq_true]
  constructor
  · rintro ⟨⟨w', e | answer⟩, halone, hanswer⟩
    · cases of_decide_eq_true hanswer
    · cases of_decide_eq_true hanswer
      exact ⟨w', halone⟩
  · rintro ⟨w', halone⟩
    exact ⟨_, halone, rfl⟩

instance (token : String) (w : EmailWorld) : Decidable (Accepts dep token w) :=
  decidable_of_iff _ accepts_iff

/-- A call of `resendEmail`, and its first `n` steps as handler `i` -/
def sampleResendSteps (i n : Nat) : List (Action EmailEvent) :=
  .env (.arrive (.resendEmail "a")) :: emailSteps i n

/-- Two calls one after the other -/
def resentTwice : List (Action EmailEvent) :=
  sampleResendSteps 0 15 ++ sampleResendSteps 1 15

/-- The worker attempts both jobs. -/
def bothWorked : List (Action EmailEvent) :=
  .env (.work 0) :: emailSteps 2 1 ++ .env (.work 1) :: emailSteps 3 6

theorem sampleEmailWorld_noMails : NoMails sampleEmailWorld := by
  constructor <;> rfl

set_option maxRecDepth 4000 in
/-- The first mail is withdrawn and never sent, and the link of the second is accepted. -/
theorem withdrawn_runs_resentTwice :
    ∃ c c', runs (emailServer sampleEmail).step ⟨sampleEmailWorld, []⟩ resentTwice = some c ∧
      runs (emailServer sampleEmail).step c bothWorked = some c' ∧
      c'.world.cancelled 1 = true ∧
      ∃ m, m ∈ c'.world.mails ∧ Accepts sampleEmail "k" c'.world ∧
        c'.world.newest sampleEmail "a" m.outboxId := by
  have hrun : (runs (emailServer sampleEmail).step ⟨sampleEmailWorld, []⟩ resentTwice).any
      (fun c => c.world.cancelled 1 && (runs (emailServer sampleEmail).step c bothWorked).any
        fun c' => c'.world.mails.any (fun m =>
          decide (m.toEmail = "a") && decide (m.verifyToken = some "k")) &&
          decide (Accepts sampleEmail "k" c'.world)) = true := by
    decide +kernel
  have hturn : Meets (emailServer sampleEmail).step (RenewsInTurn sampleEmail)
      ⟨sampleEmailWorld, []⟩ (resentTwice ++ bothWorked) := by
    decide +kernel
  obtain ⟨c, hc, hrest⟩ := Option.any_eq_true _ _ |>.mp hrun
  obtain ⟨hcancelled, hrest⟩ := Bool.and_eq_true_iff.mp hrest
  obtain ⟨c', hc', hend⟩ := Option.any_eq_true _ _ |>.mp hrest
  obtain ⟨hmail, haccepts⟩ := Bool.and_eq_true_iff.mp hend
  obtain ⟨m, hm, hmeets⟩ := List.any_eq_true.mp hmail
  obtain ⟨hto, htoken⟩ := Bool.and_eq_true_iff.mp hmeets
  have haccepts := of_decide_eq_true haccepts
  have hwithdrawn := withdrawn_runs sampleEmail sampleEmailWorld_noMails hc hc' hturn
  refine ⟨c, c', hc, hc', hwithdrawn.1 1 hcancelled, m, hm, haccepts, ?_⟩
  rw [← of_decide_eq_true hto]
  exact (hwithdrawn.2 m "k" hm (of_decide_eq_true htoken) haccepts).1

/-- The worker has read the row when a second call withdraws it. -/
def withdrawnWhileRead : List (Action EmailEvent) :=
  sampleResendSteps 0 15 ++ .env (.work 0) :: emailSteps 1 1 ++ sampleResendSteps 2 11

/-- Two calls that both withdraw before one of them makes its code -/
def racingResends : List (Action EmailEvent) :=
  sampleResendSteps 0 11 ++ sampleResendSteps 1 11 ++ emailSteps 0 4 ++ emailSteps 1 4 ++
    .env (.work 0) :: emailSteps 2 6 ++ .env (.work 1) :: emailSteps 3 6

set_option maxRecDepth 4000 in
/-- A withdrawn mail is sent all the same, and two links of one address are accepted. -/
theorem withdrawn_then_sent :
    ((runs (emailServer sampleEmail).step ⟨sampleEmailWorld, []⟩ withdrawnWhileRead).any fun c =>
        c.world.cancelled 1 && (runs (emailServer sampleEmail).step c (emailSteps 1 5)).any
          fun c' => (c'.world.outbox.find 1).any fun r => decide (r.status = .sent)) = true ∧
      ((runs (emailServer sampleEmail).step ⟨sampleEmailWorld, []⟩ racingResends).any fun c =>
        decide (c.world.mails.map (fun m => (m.toEmail, m.verifyToken)) =
          [("a", some "k"), ("a", some "kk")]) &&
        decide (Accepts sampleEmail "k" c.world) &&
        decide (Accepts sampleEmail "kk" c.world)) = true :=
  ⟨by decide +kernel, by decide +kernel⟩

end Email
end BookStore
