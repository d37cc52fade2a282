import BookStore.Async.Logic
import BookStore.Async.Sequential

/-!
# Handlers side by side

`Promise.all` over handlers that send several statements each: the statements of one
may run between those of the other.

* `Program.beside p q` answers with both answers; the error of the one that throws first
  is thrown once the other has ended.
* `Program.forAll bs f` is `Promise.all(bs.map(f))`.

`Safe.beside` is the parallel rule: two handlers that are safe with their own shares are
safe side by side with both.  It rests on the frame rule `Safe.frame`.  `Safe.yields`
says what a safe handler comes to when it runs by itself.
-/

namespace BookStore
namespace Async

namespace Program

variable {S : Type} {R : S → Type} {E α β γ : Type}

/-- The handler is not recalled; once it has ended, `e` is thrown. -/
def unrecalled (p : Program S R E β) (e : E) : Program S R E α :=
  (p.bind fun _ => raise e).tryCatch fun _ => raise e

/-- A handler `p` that sends `s` and goes on as `rest`, beside another. -/
def besideCall (s : S) (p : Program S R E α)
    (rest : Except E (R s) → Program S R E β → Program S R E (α × β)) :
    Program S R E β → Program S R E (α × β)
  | ret b => call s fun x => rest x (ret b)
  | raise e => p.unrecalled e
  | call t k =>
      pick 2 fun j =>
        if j = 0 then
          call s fun x => rest x (call t k)
        else
          call t fun y => besideCall s p rest (k y)
  | pick n k => pick n fun j => besideCall s p rest (k j)
  | leave t q => leave t (besideCall s p rest q)

/-- `await Promise.all([p, q])` -/
def beside : Program S R E α → Program S R E β → Program S R E (α × β)
  | ret a, q => q.bind fun b => ret (a, b)
  | raise e, q => q.unrecalled e
  | call s k, q => besideCall s (call s k) (fun x => beside (k x)) q
  | pick n k, q => pick n fun j => beside (k j) q
  | leave s p, q => leave s (beside p q)

/-- `await Promise.all(bs.map(f))` -/
def forAll : List γ → (γ → Program S R E α) → Program S R E (List α)
  | [], _ => ret []
  | b :: bs, f => (beside (f b) (forAll bs f)).bind fun x => ret (x.1 :: x.2)

/-- No choice is one among nothing. -/
def Live : Program S R E α → Prop
  | ret _ => True
  | raise _ => True
  | call _ k => ∀ x, (k x).Live
  | pick n k => 0 < n ∧ ∀ j, (k j).Live
  | leave _ p => p.Live

theorem Live.bind {p : Program S R E α} {f : α → Program S R E β}
    (hp : p.Live) (hf : ∀ a, (f a).Live) : (p.bind f).Live := by
  induction p with
  | ret a =>
      exact hf a
  | raise e =>
      trivial
  | call s k ih =>
      exact fun x => ih x (hp x)
  | pick n k ih =>
      exact ⟨hp.1, fun j => ih j (hp.2 j)⟩
  | leave s p ih =>
      exact ih hp

theorem Live.tryCatch {p : Program S R E α} {f : E → Program S R E α}
    (hp : p.Live) (hf : ∀ e, (f e).Live) : (p.tryCatch f).Live := by
  induction p with
  | ret a =>
      trivial
  | raise e =>
      exact hf e
  | call s k ih =>
      exact fun x => ih x (hp x)
  | pick n k ih =>
      exact ⟨hp.1, fun j => ih j (hp.2 j)⟩
  | leave s p ih =>
      exact ih hp

theorem Live.await (s : S) : (await s : Program S R E (R s)).Live := by
  intro x
  cases x with
  | ok r =>
      trivial
  | error e =>
      trivial

theorem Live.alongside {s : S} {p : Program S R E α} (hp : p.Live) :
    (Program.alongside s p).Live := by
  induction p with
  | ret a =>
      intro x
      cases x with
      | ok r =>
          trivial
      | error e =>
          trivial
  | raise e =>
      exact fun _ => trivial
  | call t k ih =>
      refine ⟨Nat.two_pos, fun j => ?_⟩
      dsimp only
      split_ifs
      · intro x
        cases x with
        | ok r =>
            exact fun y => Live.bind (hp y) fun _ => trivial
        | error e =>
            exact fun y => Live.bind (hp y) fun _ => trivial
      · exact fun y => ih y (hp y)
  | pick n k ih =>
      exact ⟨hp.1, fun j => ih j (hp.2 j)⟩
  | leave t p ih =>
      exact ih hp

theorem Live.unrecalled {p : Program S R E β} {e : E} (hp : p.Live) :
    (p.unrecalled e : Program S R E α).Live :=
  Live.tryCatch (Live.bind (f := fun _ => raise e) hp fun _ => trivial) fun _ => trivial

theorem Live.besideCall
    {s : S} {p : Program S R E α}
    {rest : Except E (R s) → Program S R E β → Program S R E (α × β)}
    {q : Program S R E β}
    (hp : p.Live)
    (hrest : ∀ x q, q.Live → (rest x q).Live)
    (hq : q.Live) :
    (besideCall s p rest q).Live := by
  induction q with
  | ret b =>
      exact fun x => hrest x _ hq
  | raise e =>
      exact hp.unrecalled
  | call t k ih =>
      refine ⟨Nat.two_pos, fun j => ?_⟩
      by_cases hj : j = 0
      · simp only [hj, if_true]
        exact fun x => hrest x _ hq
      · simp only [hj, if_false]
        exact fun y => ih y (hq y)
  | pick n k ih =>
      exact ⟨hq.1, fun j => ih j (hq.2 j)⟩
  | leave t q ih =>
      exact ih hq

theorem Live.beside {p : Program S R E α} {q : Program S R E β}
    (hp : p.Live) (hq : q.Live) : (beside p q).Live := by
  induction p generalizing q with
  | ret a =>
      exact hq.bind fun _ => trivial
  | raise e =>
      exact hq.unrecalled
  | call s k ih =>
      exact Live.besideCall hp (fun x q hq => ih x (hp x) hq) hq
  | pick n k ih =>
      exact ⟨hp.1, fun j => ih j (hp.2 j) hq⟩
  | leave s p ih =>
      exact ih hp hq

theorem Live.forAll {bs : List γ} {f : γ → Program S R E α}
    (hf : ∀ b, b ∈ bs → (f b).Live) : (forAll bs f).Live := by
  induction bs with
  | nil =>
      trivial
  | cons b bs ih =>
      exact ((hf b (by simp)).beside (ih fun c hc => hf c (List.mem_cons_of_mem b hc))).bind
        fun _ => trivial

end Program

variable {S : Type} {R : S → Type} {E α β γ σ M : Type}
variable {exec : (s : S) → σ → Except E (σ × R s)} {fault : E}

/-- A live handler comes to an end by itself. -/
theorem exists_yields {p : Program S R E α} (hp : p.Live) (w : σ) :
    ∃ w' x, p.Yields exec fault w w' x := by
  induction p generalizing w with
  | ret a =>
      exact ⟨w, .ok a, rfl, rfl⟩
  | raise e =>
      exact ⟨w, .error e, rfl, rfl⟩
  | call s k ih =>
      exact ih _ (hp _) _
  | pick n k ih =>
      obtain ⟨w', x, h⟩ := ih ⟨0, hp.1⟩ (hp.2 _) w
      exact ⟨w', x, _, h⟩
  | leave s p ih =>
      exact ih hp _

namespace Logic

variable [AddCommMonoid M] {L : Logic S σ M}

/-! ### The frame rule -/

theorem StatementSafe.frame
    {s : S} {Q : Except E (R s) → M → σ → Prop} {m : M} (n : M) {w : σ}
    (h : StatementSafe L exec fault s Q m w) :
    StatementSafe L exec fault s (fun x m' v => ∃ m₁, m' = m₁ + n ∧ Q x m₁ v) (m + n) w := by
  intro v F o hwv hinv hg
  rw [add_assoc] at hinv
  obtain ⟨m', hinv', hrely, hQ⟩ := h v (n + F) o hwv hinv hg
  exact ⟨m' + n, by rwa [add_assoc], hrely, m', rfl, hQ⟩

/-- A share that a handler does not use. -/
theorem Safe.frame
    {Q : Except E α → M → σ → Prop} {p : Program S R E α} {m : M} (n : M) {w : σ}
    (h : Safe L exec fault Q p m w) :
    Safe L exec fault (fun x m' v => ∃ m₁, m' = m₁ + n ∧ Q x m₁ v) p (m + n) w := by
  induction p generalizing m w with
  | ret a =>
      exact fun v hwv => ⟨m, rfl, h v hwv⟩
  | raise e =>
      exact fun v hwv => ⟨m, rfl, h v hwv⟩
  | call s k ih =>
      refine (StatementSafe.frame (L := L) n h).mono ?_
      rintro x m' v _ ⟨m₁, rfl, hx⟩
      exact ih x hx
  | pick k f ih =>
      exact fun j => ih j (h j)
  | leave s p ih =>
      obtain ⟨m₁, m₂, rfl, hs, hp⟩ := h
      exact ⟨m₁, m₂ + n, add_assoc _ _ _, hs, ih hp⟩

/-! ### The parallel rule -/

variable {P : Except E α → M → σ → Prop} {Q : Except E β → M → σ → Prop}

/-- What two handlers end in, side by side. -/
def Both (P : Except E α → M → σ → Prop) (Q : Except E β → M → σ → Prop) :
    Except E (α × β) → M → σ → Prop :=
  fun x m v => ∃ y z m₁ m₂, m = m₁ + m₂ ∧ P y m₁ v ∧ Q z m₂ v ∧
    ((∃ a b, x = .ok (a, b) ∧ y = .ok a ∧ z = .ok b) ∨
      ∃ e, x = .error e ∧ (y = .error e ∨ z = .error e))

theorem Safe.unrecalled
    {p : Program S R E β} {e : E} {m : M} {w : σ}
    (hQ : ∀ x m v v', Q x m v → L.rely v v' → Q x m v')
    (h : Safe L exec fault Q p m w) :
    Safe L exec fault (fun (x : Except E α) m' v => x = .error e ∧ ∃ y, Q y m' v)
      (p.unrecalled e) m w := by
  refine Safe.tryCatch (Safe.bind (h.mono fun x m' v _ hx => ?_))
  cases x with
  | ok b =>
      exact fun v' hv' v'' hv'' =>
        ⟨rfl, _, hQ _ _ _ _ hx (L.rely_trans _ _ _ hv' hv'')⟩
  | error e' =>
      exact fun v' hv' => ⟨rfl, _, hQ _ _ _ _ hx hv'⟩

theorem Safe.beside
    {p : Program S R E α} {q : Program S R E β} {m n : M} {w : σ}
    (hP : ∀ x m v v', P x m v → L.rely v v' → P x m v')
    (hQ : ∀ x m v v', Q x m v → L.rely v v' → Q x m v')
    (hp : Safe L exec fault P p m w)
    (hq : Safe L exec fault Q q n w) :
    Safe L exec fault (Both P Q) (Program.beside p q) (m + n) w := by
  induction p generalizing q m n w with
  | ret a =>
      rw [add_comm]
      refine Safe.bind ((hq.frame m).mono fun x m' v hwv hx => ?_)
      obtain ⟨m₁, rfl, hx⟩ := hx
      cases x with
      | ok b =>
          intro v' hv'
          exact ⟨.ok a, .ok b, m, m₁, add_comm _ _, hp v' (L.rely_trans _ _ _ hwv hv'),
            hQ _ _ _ _ hx hv', .inl ⟨a, b, rfl, rfl, rfl⟩⟩
      | error e =>
          exact ⟨.ok a, .error e, m, m₁, add_comm _ _, hp v hwv, hx, .inr ⟨e, rfl, .inr rfl⟩⟩
  | raise e =>
      rw [add_comm]
      refine Safe.mono ((hq.frame m).unrecalled ?_) fun x m' v hwv hx => ?_
      · rintro x m' v v' ⟨m₁, rfl, hx⟩ hv
        exact ⟨m₁, rfl, hQ _ _ _ _ hx hv⟩
      · obtain ⟨rfl, y, m₁, rfl, hy⟩ := hx
        exact ⟨.error e, y, m, m₁, add_comm _ _, hp v hwv, hy, .inr ⟨e, rfl, .inl rfl⟩⟩
  | call s k ih =>
      induction q generalizing n w with
      | ret b =>
          refine (StatementSafe.frame (L := L) n hp).mono ?_
          rintro x m' v hwv ⟨m₁, rfl, hx⟩
          exact ih x hx (hq.of_rely hwv)
      | raise e =>
          refine Safe.mono ((Safe.frame (p := .call s k) n hp).unrecalled ?_)
            fun x m' v hwv hx => ?_
          · rintro x m' v v' ⟨m₁, rfl, hx⟩ hv
            exact ⟨m₁, rfl, hP _ _ _ _ hx hv⟩
          · obtain ⟨rfl, y, m₁, rfl, hy⟩ := hx
            exact ⟨y, .error e, m₁, n, rfl, hy, hq v hwv, .inr ⟨e, rfl, .inr rfl⟩⟩
      | call t l ihq =>
          intro j
          by_cases hj : j = 0
          · simp only [hj, if_true]
            refine (StatementSafe.frame (L := L) n hp).mono ?_
            rintro x m' v hwv ⟨m₁, rfl, hx⟩
            exact ih x hx (hq.of_rely hwv)
          · simp only [hj, if_false]
            rw [add_comm]
            refine (StatementSafe.frame (L := L) m hq).mono ?_
            rintro y m' v hwv ⟨m₁, rfl, hy⟩
            rw [add_comm]
            exact ihq y (Safe.of_rely (p := .call s k) hp hwv) hy
      | pick i l ihq =>
          exact fun j => ihq j hp (hq j)
      | leave t q ihq =>
          obtain ⟨m₁, m₂, rfl, hs, hq⟩ := hq
          exact ⟨m₁, m + m₂, add_left_comm _ _ _, hs, ihq hp hq⟩
  | pick i k ih =>
      exact fun j => ih j (hp j) hq
  | leave s p ih =>
      obtain ⟨m₁, m₂, rfl, hs, hp⟩ := hp
      exact ⟨m₁, m₂ + n, add_assoc _ _ _, hs, ih hp hq⟩

/-- `Promise.all` over handlers that share nothing. -/
theorem Safe.forAll
    {P : γ → Except E α → σ → Prop} {bs : List γ} {f : γ → Program S R E α} {w : σ}
    (hP : ∀ b x v v', P b x v → L.rely v v' → P b x v')
    (h : ∀ b, b ∈ bs → Safe L exec fault (fun x m v => m = 0 ∧ P b x v) (f b) 0 w) :
    Safe L exec fault
      (fun x m v => m = 0 ∧
        ((∃ as, x = .ok as ∧ List.Forall₂ (fun b a => P b (.ok a) v) bs as) ∨
          ∃ e b, x = .error e ∧ b ∈ bs ∧ P b (.error e) v))
      (Program.forAll bs f) 0 w := by
  induction bs with
  | nil =>
      exact fun v _ => ⟨rfl, .inl ⟨[], rfl, .nil⟩⟩
  | cons b bs ih =>
      have hrest := ih fun c hc => h c (List.mem_cons_of_mem b hc)
      have hpair := Safe.beside (L := L) (fun x m v v' hx hv => ⟨hx.1, hP b x v v' hx.2 hv⟩)
        (fun x m v v' hx hv => ⟨hx.1, hx.2.imp
          (fun ⟨as, h, has⟩ => ⟨as, h, has.imp fun _ _ ha => hP _ _ _ _ ha hv⟩)
          (fun ⟨e, c, h, hc, he⟩ => ⟨e, c, h, hc, hP _ _ _ _ he hv⟩)⟩)
        (h b (by simp)) hrest
      rw [add_zero] at hpair
      refine Safe.bind (hpair.mono fun x m v _ hx => ?_)
      obtain ⟨y, z, m₁, m₂, rfl, ⟨rfl, hy⟩, ⟨rfl, hz⟩, hxyz⟩ := hx
      rcases hxyz with ⟨a, as, rfl, rfl, rfl⟩ | ⟨e, rfl, rfl | rfl⟩
      · rcases hz with ⟨as', has', hall⟩ | ⟨e, _, h, -⟩
        · cases has'
          refine fun v' hv' => ⟨add_zero 0, .inl ⟨a :: as, rfl, .cons ?_ ?_⟩⟩
          · exact hP _ _ _ _ hy hv'
          · exact hall.imp fun _ _ ha => hP _ _ _ _ ha hv'
        · cases h
      · exact ⟨add_zero 0, .inr ⟨e, b, rfl, by simp, hy⟩⟩
      · rcases hz with ⟨_, h, -⟩ | ⟨e', c, h, hc, he⟩
        · cases h
        · cases h
          exact ⟨add_zero 0, .inr ⟨e, c, rfl, List.mem_cons_of_mem b hc, he⟩⟩

/-- What a safe handler comes to by itself, where its statements meet the guard. -/
theorem Safe.yields
    {p : Program S R E α} {m : M} (F : M) {w w' : σ} {x : Except E α}
    (hguard : ∀ v s, L.guard v s .ok)
    (h : Safe L exec fault P p m w)
    (hinv : L.inv (m + F) w)
    (hy : p.Yields exec fault w w' x) :
    ∃ m' F', L.inv (m' + F') w' ∧ P x m' w' := by
  induction p generalizing m F w with
  | ret a =>
      obtain ⟨rfl, rfl⟩ := hy
      exact ⟨m, F, hinv, h _ (L.rely_refl _)⟩
  | raise e =>
      obtain ⟨rfl, rfl⟩ := hy
      exact ⟨m, F, hinv, h _ (L.rely_refl _)⟩
  | call s k ih =>
      obtain ⟨m', hinv', -, hk⟩ := h w F .ok (L.rely_refl w) hinv (hguard w s)
      exact ih _ F hk hinv' hy
  | pick n k ih =>
      obtain ⟨j, hy⟩ := hy
      exact ih j F (h j) hinv hy
  | leave s p ih =>
      obtain ⟨m₁, m₂, rfl, hs, hp⟩ := h
      rw [add_assoc] at hinv
      obtain ⟨m', hinv', hrely, -⟩ := hs w (m₂ + F) .ok (L.rely_refl w) hinv (hguard w s)
      rw [add_left_comm] at hinv'
      exact ih (m' + F) (hp.of_rely hrely) hinv' hy

/-- `Promise.all` over handlers whose answers do not depend on the order they run in. -/
theorem yields_forAll_map
    {g : γ → α} {bs : List γ} {f : γ → Program S R E α} {w w' : σ} {x : Except E (List α)}
    (hguard : ∀ v s, L.guard v s .ok)
    (h : ∀ b, b ∈ bs →
      Safe L exec fault (fun x m _ => m = 0 ∧ x = .ok (g b)) (f b) 0 w)
    (hinv : L.inv 0 w)
    (hy : (Program.forAll bs f).Yields exec fault w w' x) :
    (∃ m, L.inv m w') ∧ x = .ok (bs.map g) := by
  have hsafe := Safe.forAll (P := fun b x _ => x = .ok (g b)) (fun _ _ _ _ h _ => h) h
  rw [← add_zero (0 : M)] at hinv
  obtain ⟨m, F, hinv', -, ⟨as, rfl, has⟩ | ⟨e, b, -, -, he⟩⟩ :=
    Safe.yields 0 hguard hsafe hinv hy
  · refine ⟨⟨_, hinv'⟩, congrArg Except.ok ?_⟩
    clear hy hsafe h
    induction has with
    | nil =>
        rfl
    | cons ha _ ih =>
        rw [List.map_cons, Except.ok.inj ha, ih]
  · cases he

end Logic

end Async
end BookStore
