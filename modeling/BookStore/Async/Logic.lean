import BookStore.Async.Pool
import Mathlib.Algebra.BigOperators.Group.List.Basic

/-!
# Rely–guarantee reasoning with resources

A `Logic` for a system consists of

* an invariant `inv m w` of the shared state `w`, where `m` is what the handlers
  under way hold together, counted in a commutative monoid `M`;
* a preorder `rely w w'` that every step respects, so that a fact about the
  state that is kept along it can be carried over the steps of other handlers;
* a `guard`, the condition under which statements are executed.

`Safe Q p m w` says: handler `p`, holding its share `m` since state `w`, keeps the
invariant at each of its statements whatever the others hold and do, and ends
in a state of `Q`.  `Logic.balancedTo_runs` is the soundness theorem: along every
conforming run the shares of the handlers add up to the `m` of the invariant, and
a handler that has ended has ended in `Q`.  `Safe.thread_runs` follows one handler
where there is nothing to share.
-/

namespace BookStore
namespace Async

universe u

/-- An invariant with resources, a preorder every step respects, a guard. -/
structure Logic (S σ M : Type) where
  inv : M → σ → Prop
  rely : σ → σ → Prop
  rely_refl : ∀ w, rely w w
  rely_trans : ∀ u v w, rely u v → rely v w → rely u w
  guard : σ → S → Outcome → Prop
  /-- What a handler may still hold once it has ended. -/
  done : M → Prop

namespace Logic

section Safe

variable {S : Type} {R : S → Type} {E σ M α β : Type}
variable [AddCommMonoid M]
variable (L : Logic S σ M)
variable (exec : (s : S) → σ → Except E (σ × R s)) (fault : E)

/--
The statement `s`, sent by a holder of `m` since `w`, keeps the invariant and
leaves a share and a state of `Q`.
-/
def StatementSafe
    (s : S)
    (Q : Except E (R s) → M → σ → Prop)
    (m : M) (w : σ) : Prop :=
  ∀ v F o, L.rely w v → L.inv (m + F) v → L.guard v s o →
    ∃ m',
      L.inv (m' + F) (attempt exec fault s o v).1 ∧
      L.rely v (attempt exec fault s o v).1 ∧
      Q (attempt exec fault s o v).2 m' (attempt exec fault s o v).1

/-- The handler keeps the invariant and ends in `Q`. -/
def Safe (Q : Except E α → M → σ → Prop) :
    Program S R E α → M → σ → Prop
  | .ret a, m, w => ∀ v, L.rely w v → Q (.ok a) m v
  | .raise e, m, w => ∀ v, L.rely w v → Q (.error e) m v
  | .call s k, m, w =>
      StatementSafe L exec fault s (fun x m' v => Safe Q (k x) m' v) m w
  | .pick _ k, m, w => ∀ j, Safe Q (k j) m w
  | .leave s p, m, w =>
      ∃ m₁ m₂, m = m₁ + m₂ ∧
        StatementSafe L exec fault s (fun _ m' _ => L.done m') m₁ w ∧
        Safe Q p m₂ w

/-- The handler keeps the invariant and ends with an admissible share. -/
abbrev SafeHandler : Program S R E α → M → σ → Prop :=
  Safe L exec fault (fun _ m _ => L.done m)

variable {L exec fault}

theorem StatementSafe.of_rely
    {s : S} {Q : Except E (R s) → M → σ → Prop} {m : M} {w v : σ}
    (h : StatementSafe L exec fault s Q m w)
    (hwv : L.rely w v) :
    StatementSafe L exec fault s Q m v :=
  fun u F o hvu hinv hg => h u F o (L.rely_trans _ _ _ hwv hvu) hinv hg

theorem StatementSafe.mono
    {s : S} {Q Q' : Except E (R s) → M → σ → Prop} {m : M} {w : σ}
    (h : StatementSafe L exec fault s Q m w)
    (himp : ∀ x m' v, L.rely w v → Q x m' v → Q' x m' v) :
    StatementSafe L exec fault s Q' m w := by
  intro v F o hwv hinv hg
  obtain ⟨m', h₁, h₂, h₃⟩ := h v F o hwv hinv hg
  exact ⟨m', h₁, h₂, himp _ _ _ (L.rely_trans _ _ _ hwv h₂) h₃⟩

/-- The steps of the other handlers do not spoil safety. -/
theorem Safe.of_rely
    {Q : Except E α → M → σ → Prop}
    {p : Program S R E α} {m : M} {w v : σ}
    (h : Safe L exec fault Q p m w)
    (hwv : L.rely w v) :
    Safe L exec fault Q p m v := by
  induction p generalizing m with
  | ret a =>
      exact fun u hvu => h u (L.rely_trans _ _ _ hwv hvu)
  | raise e =>
      exact fun u hvu => h u (L.rely_trans _ _ _ hwv hvu)
  | call s k _ =>
      exact StatementSafe.of_rely h hwv
  | pick n k ih =>
      exact fun j => ih j (h j)
  | leave s p ih =>
      obtain ⟨m₁, m₂, hm, hs, hp⟩ := h
      exact ⟨m₁, m₂, hm, hs.of_rely hwv, ih hp⟩

theorem Safe.mono
    {Q Q' : Except E α → M → σ → Prop}
    {p : Program S R E α} {m : M} {w : σ}
    (h : Safe L exec fault Q p m w)
    (himp : ∀ x m' v, L.rely w v → Q x m' v → Q' x m' v) :
    Safe L exec fault Q' p m w := by
  induction p generalizing m w with
  | ret a =>
      exact fun v hwv => himp _ _ _ hwv (h v hwv)
  | raise e =>
      exact fun v hwv => himp _ _ _ hwv (h v hwv)
  | call s k ih =>
      refine StatementSafe.mono (L := L) h ?_
      intro x m' v hwv hx
      refine ih x hx ?_
      intro y m'' u hvu
      exact himp y m'' u (L.rely_trans _ _ _ hwv hvu)
  | pick n k ih =>
      exact fun j => ih j (h j) himp
  | leave s p ih =>
      obtain ⟨m₁, m₂, hm, hs, hp⟩ := h
      exact ⟨m₁, m₂, hm, hs, ih hp himp⟩

/-- Sequencing: what follows starts from what the first part ends in. -/
theorem Safe.bind
    {Q : Except E β → M → σ → Prop}
    {p : Program S R E α} {f : α → Program S R E β} {m : M} {w : σ}
    (h : Safe L exec fault
      (fun x m' v =>
        match x with
        | .ok a => Safe L exec fault Q (f a) m' v
        | .error e => Q (.error e) m' v) p m w) :
    Safe L exec fault Q (p.bind f) m w := by
  induction p generalizing m w with
  | ret a =>
      exact h w (L.rely_refl w)
  | raise e =>
      exact h
  | call s k ih =>
      exact StatementSafe.mono (L := L) h (fun x m' v _ hx => ih x hx)
  | pick n k ih =>
      exact fun j => ih j (h j)
  | leave s p ih =>
      obtain ⟨m₁, m₂, hm, hs, hp⟩ := h
      exact ⟨m₁, m₂, hm, hs, ih hp⟩

/-- `try`/`catch`: the handler of the error starts from where it was thrown. -/
theorem Safe.tryCatch
    {Q : Except E α → M → σ → Prop}
    {p : Program S R E α} {f : E → Program S R E α} {m : M} {w : σ}
    (h : Safe L exec fault
      (fun x m' v =>
        match x with
        | .ok a => Q (.ok a) m' v
        | .error e => Safe L exec fault Q (f e) m' v) p m w) :
    Safe L exec fault Q (p.tryCatch f) m w := by
  induction p generalizing m w with
  | ret a =>
      exact h
  | raise e =>
      exact h w (L.rely_refl w)
  | call s k ih =>
      exact StatementSafe.mono (L := L) h (fun x m' v _ hx => ih x hx)
  | pick n k ih =>
      exact fun j => ih j (h j)
  | leave s p ih =>
      obtain ⟨m₁, m₂, hm, hs, hp⟩ := h
      exact ⟨m₁, m₂, hm, hs, ih hp⟩

/-- A loop keeps what each of its rounds keeps. -/
theorem Safe.forEach
    {γ : Type} {J : M → σ → Prop}
    {Q : Except E Unit → M → σ → Prop}
    {f : γ → Program S R E Unit} {bs : List γ} {m : M} {w : σ}
    (hJ : ∀ m' v v', J m' v → L.rely v v' → J m' v')
    (hround : ∀ b, b ∈ bs → ∀ m' v, J m' v →
      Safe L exec fault
        (fun x m'' v' =>
          match x with
          | .ok _ => J m'' v'
          | .error e => Q (.error e) m'' v') (f b) m' v)
    (hend : ∀ m' v, J m' v → Q (.ok ()) m' v)
    (h : J m w) :
    Safe L exec fault Q (Program.forEach bs f) m w := by
  induction bs generalizing m w with
  | nil =>
      exact fun v hwv => hend _ _ (hJ _ _ _ h hwv)
  | cons b bs ih =>
      apply Safe.bind
      refine Safe.mono (hround b (by simp) m w h) ?_
      intro x m' v _ hx
      cases x with
      | error e =>
          exact hx
      | ok a =>
          exact ih (fun c hc => hround c (List.mem_cons_of_mem b hc)) hx

/--
`Promise.all`: `J ss m w` describes the group while the statements `ss` are
outstanding, and `D ss` what is required of those abandoned after an error.
-/
theorem Safe.promiseAll
    {J : List S → M → σ → Prop}
    {Q : Except E Unit → M → σ → Prop}
    {ss : List S} {m : M} {w : σ}
    (hJ : ∀ rest m' v v', J rest m' v → L.rely v v' → J rest m' v')
    (hnil : ∀ m' v, J [] m' v → Q (.ok ()) m' v)
    (hcall : ∀ (rest : List S) (j : Fin rest.length) (m' : M) (v : σ),
      J rest m' v →
      StatementSafe L exec fault (rest.get j)
        (fun x m'' v' =>
          match x with
          | .ok _ => J (rest.eraseIdx j) m'' v'
          | .error e =>
              Safe L exec fault Q (Program.leaveAll (rest.eraseIdx j) e) m'' v')
        m' v)
    (h : J ss m w) :
    Safe L exec fault Q (Program.promiseAll ss) m w := by
  have key : ∀ n (ss : List S) (m : M) (w : σ), ss.length = n → J ss m w →
      Safe L exec fault Q (Program.promiseAllOf n ss) m w := by
    intro n
    induction n with
    | zero =>
        intro ss m w hn h
        obtain rfl := List.length_eq_zero_iff.mp hn
        exact fun v hwv => hnil _ _ (hJ _ _ _ _ h hwv)
    | succ n ih =>
        intro ss m w hn h j
        refine StatementSafe.mono (hcall ss j m w h) ?_
        intro x m' v _ hx
        cases x with
        | error e =>
            exact hx
        | ok a =>
            refine ih _ _ _ ?_ hx
            rw [List.length_eraseIdx_of_lt j.isLt, hn]
            rfl
  exact key _ ss m w rfl h

/-- Abandoned statements that need no share are safe. -/
theorem Safe.leaveAll
    {Q : Except E α → M → σ → Prop}
    {ss : List S} {e : E} {m : M} {w : σ}
    (hs : ∀ s, s ∈ ss →
      StatementSafe L exec fault s (fun _ m' _ => L.done m') 0 w)
    (hQ : ∀ v, L.rely w v → Q (.error e) m v) :
    Safe L exec fault Q (Program.leaveAll ss e) m w := by
  induction ss with
  | nil =>
      exact hQ
  | cons s ss ih =>
      exact ⟨0, m, (zero_add m).symm, hs s (by simp),
        ih (fun t ht => hs t (List.mem_cons_of_mem s ht))⟩

/-- A statement that is refused leaves the share; one that is executed trades it. -/
theorem StatementSafe.of_exec
    {s : S} {Q : Except E (R s) → M → σ → Prop} {m : M} {w : σ}
    (herror : ∀ v e, L.rely w v → Q (.error e) m v)
    (hok : ∀ v F o v' r, L.rely w v → L.inv (m + F) v → L.guard v s o →
      o ≠ .fail → exec s v = .ok (v', r) →
      ∃ m', L.inv (m' + F) v' ∧ L.rely v v' ∧
        Q (.ok r) m' v' ∧ Q (.error fault) m' v') :
    StatementSafe L exec fault s Q m w := by
  intro v F o hwv hinv hg
  refine attempt_cases (motive := fun x => ∃ m',
    L.inv (m' + F) x.1 ∧ L.rely v x.1 ∧ Q x.2 m' x.1) ?_ ?_
  · exact fun e => ⟨m, hinv, L.rely_refl v, herror v e hwv⟩
  · intro v' r ho h
    obtain ⟨m', hinv', hrely, hQ, hQ'⟩ := hok v F o v' r hwv hinv hg ho h
    exact ⟨⟨m', hinv', hrely, hQ⟩, ⟨m', hinv', hrely, hQ'⟩⟩

/-- A statement that only reads. -/
theorem StatementSafe.of_read
    {s : S} {Q : Except E (R s) → M → σ → Prop} {m : M} {w : σ}
    (f : σ → R s)
    (hexec : ∀ v, exec s v = .ok (v, f v))
    (hok : ∀ v F, L.rely w v → L.inv (m + F) v → Q (.ok (f v)) m v)
    (herror : ∀ v e, L.rely w v → Q (.error e) m v) :
    StatementSafe L exec fault s Q m w := by
  refine StatementSafe.of_exec herror ?_
  intro v F o v' r hwv hinv _ _ h
  rw [hexec] at h
  cases h
  exact ⟨m, hinv, L.rely_refl v, hok v F hwv hinv, herror v fault hwv⟩

variable (L exec fault) in
/-- While `K` holds, the statement keeps the invariant whatever is held. -/
def Harmless (K : σ → Prop) (s : S) : Prop :=
  ∀ v m o, K v → L.inv m v → L.guard v s o →
    L.inv m (attempt exec fault s o v).1 ∧
      L.rely v (attempt exec fault s o v).1

/-- A harmless statement leaves the share as it is. -/
theorem Harmless.statementSafe
    {K : σ → Prop} {s : S} {Q : Except E (R s) → M → σ → Prop} {m : M} {w : σ}
    (h : Harmless L exec fault K s)
    (hK : ∀ v, L.rely w v → K v)
    (hQ : ∀ x v, L.rely w v → Q x m v) :
    StatementSafe L exec fault s Q m w := by
  intro v F o hwv hinv hg
  obtain ⟨hinv', hrely⟩ := h v (m + F) o (hK v hwv) hinv hg
  exact ⟨m, hinv', hrely, hQ _ _ (L.rely_trans _ _ _ hwv hrely)⟩

/-- A program of harmless statements is safe while `K` lasts. -/
theorem Safe.of_all
    {K : σ → Prop} {Q : Except E α → M → σ → Prop}
    {p : Program S R E α} {m : M} {w : σ}
    (hK : ∀ v v', K v → L.rely v v' → K v')
    (hall : p.All (Harmless L exec fault K))
    (hdone : L.done 0)
    (hQ : ∀ x v, K v → Q x m v)
    (hw : K w) :
    Safe L exec fault Q p m w := by
  induction p generalizing w with
  | ret a =>
      exact fun v hwv => hQ _ v (hK _ _ hw hwv)
  | raise e =>
      exact fun v hwv => hQ _ v (hK _ _ hw hwv)
  | call s k ih =>
      exact hall.1.statementSafe (fun v hwv => hK _ _ hw hwv)
        (fun x v hwv => ih x (hall.2 x) (hK _ _ hw hwv))
  | pick n k ih =>
      exact fun j => ih j (hall j) hw
  | leave s p ih =>
      refine ⟨0, m, (zero_add m).symm, ?_, ih hall.2 hw⟩
      exact hall.1.statementSafe (fun v hwv => hK _ _ hw hwv) (fun _ _ _ => hdone)

/-- An awaited statement whose answer describes the state it was given in. -/
theorem Safe.call_resume
    {s : S} {f : R s → Program S R E β} {Q : Except E β → M → σ → Prop}
    {m : M} {w : σ}
    (h : StatementSafe L exec fault s
      (fun x m' v =>
        match x with
        | .ok r => Safe L exec fault Q (f r) m' v
        | .error e => ∀ v', L.rely v v' → Q (.error e) m' v') m w) :
    Safe L exec fault Q (Program.call s (Program.resume f)) m w := by
  refine StatementSafe.mono (L := L) h ?_
  intro x m' v _ hx
  cases x with
  | ok r =>
      exact hx
  | error e =>
      exact hx

/-- The same for the way services are written. -/
theorem Safe.await_bind
    {s : S} {f : R s → Program S R E β} {Q : Except E β → M → σ → Prop}
    {m : M} {w : σ}
    (h : StatementSafe L exec fault s
      (fun x m' v =>
        match x with
        | .ok r => Safe L exec fault Q (f r) m' v
        | .error e => ∀ v', L.rely v v' → Q (.error e) m' v') m w) :
    Safe L exec fault Q ((Program.await s).bind f) m w := by
  rw [Program.bind_await]
  exact Safe.call_resume h

omit [AddCommMonoid M] in
theorem Harmless.mono
    {K K' : σ → Prop} {s : S}
    (h : Harmless L exec fault K s)
    (himp : ∀ v, K' v → K v) :
    Harmless L exec fault K' s :=
  fun v m o hv => h v m o (himp v hv)

/--
`Promise.all([s, p])` where `p` is harmless: what `s` has brought about holds when
both have ended.
-/
theorem Safe.alongside
    {J : σ → Prop} {s : S} {p : Program S R E α} {m : M} {w : σ}
    (hJ : ∀ v v', J v → L.rely v v' → J v')
    (hdone : L.done 0)
    (hs : ∀ w, StatementSafe L exec fault s
      (fun x m' v => m' = m ∧ ∀ r, x = .ok r → J v) m w)
    (hp : p.All (Harmless L exec fault fun _ => True)) :
    Safe L exec fault (fun x _ v => ∀ a, x = .ok a → J v)
      (Program.alongside s p) m w := by
  -- a handler that throws in the end promises nothing
  have hraise : ∀ {β γ : Type} (q : Program S R E β) (e : E) (v : σ),
      q.All (Harmless L exec fault fun _ => True) →
      Safe L exec fault (fun (x : Except E γ) _ v => ∀ a, x = .ok a → J v)
        (q.bind fun _ => .raise e) m v := by
    intro β γ q e v hq
    refine Safe.bind (Safe.of_all (K := fun _ => True) (fun _ _ _ _ => trivial) hq hdone
      (fun x v _ => ?_) trivial)
    cases x with
    | ok a =>
        exact fun _ _ _ h => by cases h
    | error e =>
        exact fun _ h => by cases h
  induction p generalizing w with
  | ret a =>
      refine Safe.call_resume ((hs w).mono fun x m' v _ hx => ?_)
      cases x with
      | ok r =>
          exact fun v' hv' _ _ => hJ _ _ (hx.2 r rfl) hv'
      | error e =>
          exact fun _ _ _ h => by cases h
  | raise e =>
      exact (hs w).mono fun x m' v _ _ => fun _ _ _ h => by cases h
  | call t k ih =>
      intro j
      by_cases hj : j = 0
      · simp only [hj, if_true]
        refine (hs w).mono fun x m' v _ hx => ?_
        obtain ⟨rfl, hx⟩ := hx
        cases x with
        | ok r =>
            refine Safe.of_all (p := (Program.call t k).bind fun a => .ret (r, a)) hJ
              (Program.All.bind (hp.mono fun _ h => h.mono fun _ _ => trivial)
                fun _ => trivial) hdone (fun _ _ hv _ _ => hv) (hx r rfl)
        | error e =>
            exact hraise (Program.call t k) e v hp
      · simp only [hj, if_false]
        exact hp.1.statementSafe (fun _ _ => trivial) fun y v _ => ih y (hp.2 y)
  | pick n k ih =>
      exact fun j => ih j (hp j)
  | leave t p ih =>
      refine ⟨0, m, (zero_add m).symm, ?_, ih hp.2⟩
      exact hp.1.statementSafe (fun _ _ => trivial) fun _ _ _ => hdone

/-- `Promise.all([s, t])`: what each of the answers says holds when both have come. -/
theorem Safe.alongside_await
    {s t : S} {J : R s → σ → Prop} {K : R t → σ → Prop} {m : M} {w : σ}
    (hJ : ∀ r v v', J r v → L.rely v v' → J r v')
    (hK : ∀ r v v', K r v → L.rely v v' → K r v')
    (hs : StatementSafe L exec fault s
      (fun x m' v => m' = m ∧ ∀ r, x = .ok r → J r v) m w)
    (ht : StatementSafe L exec fault t
      (fun x m' v => m' = m ∧ ∀ r, x = .ok r → K r v) m w) :
    Safe L exec fault
      (fun x m' v => m' = m ∧ ∀ a, x = .ok a → J a.1 v ∧ K a.2 v)
      (Program.alongside s (Program.await t)) m w := by
  intro j
  by_cases hj : j = 0
  · simp only [hj, if_true]
    refine hs.mono fun x m' v hv hx => ?_
    obtain ⟨rfl, hx⟩ := hx
    cases x with
    | ok r =>
        refine (ht.of_rely hv).mono fun y m'' v' hv' hy => ?_
        obtain ⟨rfl, hy⟩ := hy
        cases y with
        | ok r' =>
            intro u hu
            refine ⟨rfl, fun a ha => ?_⟩
            cases ha
            exact ⟨hJ _ _ _ (hx r rfl) (L.rely_trans _ _ _ hv' hu), hK _ _ _ (hy r' rfl) hu⟩
        | error e =>
            exact fun _ _ => ⟨rfl, fun _ h => by cases h⟩
    | error e =>
        refine (ht.of_rely hv).mono fun y m'' v' _ hy => ?_
        obtain ⟨rfl, -⟩ := hy
        cases y with
        | ok r' =>
            exact fun _ _ => ⟨rfl, fun _ h => by cases h⟩
        | error e' =>
            exact fun _ _ => ⟨rfl, fun _ h => by cases h⟩
  · simp only [hj, if_false]
    refine ht.mono fun y m' v hv hy => ?_
    obtain ⟨rfl, hy⟩ := hy
    cases y with
    | ok r' =>
        refine (hs.of_rely hv).mono fun x m'' v' hv' hx => ?_
        obtain ⟨rfl, hx⟩ := hx
        cases x with
        | ok r =>
            intro u hu
            refine ⟨rfl, fun a ha => ?_⟩
            cases ha
            exact ⟨hJ _ _ _ (hx r rfl) hu, hK _ _ _ (hy r' rfl) (L.rely_trans _ _ _ hv' hu)⟩
        | error e =>
            exact fun _ _ => ⟨rfl, fun _ h => by cases h⟩
    | error e =>
        refine (hs.of_rely hv).mono fun x m'' v' _ hx => ?_
        obtain ⟨rfl, -⟩ := hx
        exact fun _ _ => ⟨rfl, fun _ h => by cases h⟩

/-- A part of harmless statements, then the rest. -/
theorem Safe.bind_all
    {p : Program S R E α} {f : α → Program S R E β} {Q : Except E β → M → σ → Prop}
    {m : M} {w : σ}
    (hdone : L.done 0)
    (hp : p.All (Harmless L exec fault fun _ => True))
    (hok : ∀ a v, L.rely w v → Safe L exec fault Q (f a) m v)
    (herror : ∀ e v, Q (.error e) m v) :
    Safe L exec fault Q (p.bind f) m w := by
  refine Safe.bind (Safe.of_all (K := L.rely w) (fun _ _ hv hv' => L.rely_trans _ _ _ hv hv')
    (hp.mono fun _ h => h.mono fun _ _ => trivial) hdone (fun x v hv => ?_)
    (L.rely_refl w))
  cases x with
  | ok a =>
      exact hok a v hv
  | error e =>
      exact herror e v

/--
`Promise.all([s, t])` where `s` is harmless: what `t` has brought about holds when
both have ended.
-/
theorem Safe.promiseAll_pair
    {J : σ → Prop} {s t : S} {m : M} {w : σ}
    (hJ : ∀ v v', J v → L.rely v v' → J v')
    (hdone : ∀ m, L.done m)
    (hs : Harmless L exec fault (fun _ => True) s)
    (ht : ∀ v, StatementSafe L exec fault t (fun x _ v => ∀ r, x = .ok r → J v) m v) :
    Safe L exec fault (fun x _ v => ∀ a, x = .ok a → J v)
      (Program.promiseAll [s, t]) m w := by
  intro j
  match j with
  | ⟨0, _⟩ =>
      refine hs.statementSafe (fun _ _ => trivial) fun x v _ => ?_
      cases x with
      | error e =>
          exact ⟨m, 0, (add_zero m).symm, (ht v).mono fun _ _ _ _ _ => hdone _,
            fun _ _ _ h => by cases h⟩
      | ok r =>
          intro j
          match j with
          | ⟨0, _⟩ =>
              refine (ht v).mono fun x m' v' _ hx => ?_
              cases x with
              | error e =>
                  exact fun _ _ _ h => by cases h
              | ok r =>
                  exact fun v'' hv'' _ _ => hJ _ _ (hx r rfl) hv''
  | ⟨1, _⟩ =>
      refine (ht w).mono fun x m' v _ hx => ?_
      cases x with
      | error e =>
          exact ⟨0, m', (zero_add m').symm,
            hs.statementSafe (fun _ _ => trivial) fun _ _ _ => hdone 0,
            fun _ _ _ h => by cases h⟩
      | ok r =>
          intro j
          match j with
          | ⟨0, _⟩ =>
              refine hs.statementSafe (fun _ _ => trivial) fun x v' hv' => ?_
              cases x with
              | error e =>
                  exact fun _ _ _ h => by cases h
              | ok r' =>
                  exact fun v'' hv'' _ _ => hJ _ _ (hx r rfl) (L.rely_trans _ _ _ hv' hv'')

end Safe

section Soundness

variable {S : Type} {R : S → Type} {E α σ A M : Type}
variable [AddCommMonoid M]
variable (L : Logic S σ M) (sys : System S R E α σ A)

/--
The handlers hold safe shares that add up to what the invariant counts, and each
of them ends in `Q`.
-/
def BalancedTo (Q : Except E α → M → σ → Prop) (c : Config S R E α σ) : Prop :=
  ∃ ms : List M,
    List.Forall₂
      (fun p m => Safe L sys.exec sys.fault Q p m c.world)
      c.threads ms ∧
    L.inv ms.sum c.world

/-- The environment keeps the invariant and starts handlers that end in `Q`. -/
def EnvSafeTo
    (Q : Except E α → M → σ → Prop)
    (envGuard : σ → A → Prop) : Prop :=
  ∀ w F a w' p, L.inv F w → envGuard w a → sys.env a w = some (w', p) →
    L.rely w w' ∧
      match p with
      | none => L.inv F w'
      | some p =>
          ∃ m, L.inv (m + F) w' ∧ Safe L sys.exec sys.fault Q p m w'

/-- The handlers hold safe shares that add up to what the invariant counts. -/
abbrev Balanced (c : Config S R E α σ) : Prop :=
  BalancedTo L sys (fun _ m _ => L.done m) c

/-- The environment keeps the invariant and starts safe handlers. -/
abbrev EnvSafe (envGuard : σ → A → Prop) : Prop :=
  EnvSafeTo L sys (fun _ m _ => L.done m) envGuard

variable {L sys}

/--
The partner of one entry of a list, and how to replace both once the relation
has weakened for all the others.
-/
theorem forall₂_split
    {β γ : Type} {T : β → γ → Prop} {l : List β} {ms : List γ} {i : Nat} {b : β}
    (h : List.Forall₂ T l ms)
    (hi : l[i]? = some b) :
    ∃ ms₁ m ms₂, ms = ms₁ ++ m :: ms₂ ∧ T b m ∧
      ∀ T' : β → γ → Prop, (∀ c n, T c n → T' c n) →
        ∀ b' m', T' b' m' → List.Forall₂ T' (l.set i b') (ms₁ ++ m' :: ms₂) := by
  induction h generalizing i with
  | nil =>
      simp at hi
  | @cons c m l ms hcm hrest ih =>
      cases i with
      | zero =>
          simp only [List.getElem?_cons_zero, Option.some.injEq] at hi
          subst hi
          exact ⟨[], m, ms, rfl, hcm,
            fun T' hT b' m' hb => .cons hb (hrest.imp hT)⟩
      | succ i =>
          simp only [List.getElem?_cons_succ] at hi
          obtain ⟨ms₁, m₁, ms₂, rfl, hb, hset⟩ := ih hi
          exact ⟨m :: ms₁, m₁, ms₂, rfl, hb,
            fun T' hT b' m' hb' => .cons (hT _ _ hcm) (hset T' hT b' m' hb')⟩

theorem forall₂_snoc
    {β γ : Type} {T : β → γ → Prop} {l : List β} {ms : List γ} {b : β} {m : γ}
    (h : List.Forall₂ T l ms)
    (hb : T b m) :
    List.Forall₂ T (l ++ [b]) (ms ++ [m]) := by
  induction h with
  | nil =>
      exact .cons hb .nil
  | cons hcm _ ih =>
      exact .cons hcm ih

variable {Q : Except E α → M → σ → Prop}

theorem BalancedTo.of_rely
    {c : Config S R E α σ} {ms : List M} {w : σ}
    (h : List.Forall₂
      (fun p m => Safe L sys.exec sys.fault Q p m c.world) c.threads ms)
    (hw : L.rely c.world w) :
    List.Forall₂
      (fun p m => Safe L sys.exec sys.fault Q p m w) c.threads ms :=
  h.imp (fun _ _ hp => Safe.of_rely hp hw)

/-- One conforming step of the environment keeps the balance. -/
theorem BalancedTo.env_step
    {envGuard : σ → A → Prop}
    (henv : EnvSafeTo L sys Q envGuard)
    {c c' : Config S R E α σ} {a : A}
    (hc : BalancedTo L sys Q c)
    (hg : envGuard c.world a)
    (hstep : sys.step c (.env a) = some c') :
    BalancedTo L sys Q c' ∧ L.rely c.world c'.world := by
  obtain ⟨ms, hthreads, hinv⟩ := hc
  simp only [System.step] at hstep
  cases ha : sys.env a c.world with
  | none =>
      simp [ha] at hstep
  | some wp =>
      obtain ⟨w, p⟩ := wp
      simp only [ha, Option.some.injEq] at hstep
      subst hstep
      obtain ⟨hrely, hp⟩ := henv _ _ _ _ _ hinv hg ha
      have hthreads' := BalancedTo.of_rely hthreads hrely
      refine ⟨?_, hrely⟩
      cases p with
      | none =>
          exact ⟨ms, by simpa using hthreads', hp⟩
      | some p =>
          obtain ⟨m, hm, hsafe⟩ := hp
          refine ⟨ms ++ [m], by simpa using forall₂_snoc hthreads' hsafe, ?_⟩
          rw [List.sum_append, List.sum_singleton, add_comm]
          exact hm

/-- One conforming step of a handler keeps the balance. -/
theorem BalancedTo.run_step
    (hidle : ∀ m v, L.done m → Q (.ok sys.idle) m v)
    {c c' : Config S R E α σ} {i j : Nat} {o : Outcome}
    (hc : BalancedTo L sys Q c)
    (hg : ∀ s, System.nextStatement c i = some s → L.guard c.world s o)
    (hstep : sys.step c (.run i j o) = some c') :
    BalancedTo L sys Q c' ∧ L.rely c.world c'.world := by
  obtain ⟨ms, hthreads, hinv⟩ := hc
  simp only [System.step] at hstep
  cases hi : c.threads[i]? with
  | none =>
      simp [hi] at hstep
  | some p =>
      simp only [hi] at hstep
      obtain ⟨ms₁, m, ms₂, rfl, hp, hset⟩ := forall₂_split hthreads hi
      have hsum : ∀ m' : M, (ms₁ ++ m' :: ms₂).sum = m' + (ms₁.sum + ms₂.sum) := by
        intro m'
        rw [List.sum_append, List.sum_cons, add_left_comm]
      rw [hsum] at hinv
      cases p with
      | ret a =>
          simp [System.advance] at hstep
      | raise e =>
          simp [System.advance] at hstep
      | call s k =>
          simp only [System.advance, List.append_nil, Option.some.injEq] at hstep
          subst hstep
          have hg' := hg s (by simp [System.nextStatement, hi])
          obtain ⟨m', hinv', hrely, hsafe⟩ :=
            hp c.world _ o (L.rely_refl _) hinv hg'
          refine ⟨⟨ms₁ ++ m' :: ms₂, ?_, by rw [hsum]; exact hinv'⟩, hrely⟩
          exact hset _ (fun _ _ hq => Safe.of_rely hq hrely) _ _ hsafe
      | pick n k =>
          by_cases hlt : j < n
          · simp only [System.advance, hlt, dite_true, List.append_nil,
              Option.some.injEq] at hstep
            subst hstep
            refine ⟨⟨ms₁ ++ m :: ms₂, ?_, by rw [hsum]; exact hinv⟩, L.rely_refl _⟩
            exact hset _ (fun _ _ hq => hq) _ _ (hp ⟨j, hlt⟩)
          · simp [System.advance, hlt] at hstep
      | leave s p =>
          simp only [System.advance, Option.some.injEq] at hstep
          subst hstep
          obtain ⟨m₁, m₂, rfl, hs, hrest⟩ := hp
          have hleft : Safe L sys.exec sys.fault Q
              (.call s (fun _ => .ret sys.idle)) m₁ c.world :=
            hs.mono (fun _ _ _ _ hd v _ => hidle _ v hd)
          refine ⟨⟨(ms₁ ++ m₂ :: ms₂) ++ [m₁],
            forall₂_snoc (hset _ (fun _ _ hq => hq) _ _ hrest) hleft, ?_⟩, L.rely_refl _⟩
          rw [List.sum_append, hsum, List.sum_singleton, add_comm, ← add_assoc]
          exact hinv

/-- One conforming step keeps the balance. -/
theorem BalancedTo.step
    (hidle : ∀ m v, L.done m → Q (.ok sys.idle) m v)
    {envGuard : σ → A → Prop}
    (henv : EnvSafeTo L sys Q envGuard)
    {c c' : Config S R E α σ} {a : Action A}
    (hc : BalancedTo L sys Q c)
    (hg : System.Conforms envGuard L.guard c a)
    (hstep : sys.step c a = some c') :
    BalancedTo L sys Q c' ∧ L.rely c.world c'.world := by
  cases a with
  | env a =>
      exact hc.env_step henv hg hstep
  | run i j o =>
      refine hc.run_step hidle ?_ hstep
      intro s hs
      simpa only [System.Conforms, hs] using hg

/-- Every conforming run keeps the balance and what the preorder keeps. -/
theorem balancedTo_runs_rely
    (hidle : ∀ m v, L.done m → Q (.ok sys.idle) m v)
    {envGuard : σ → A → Prop}
    (henv : EnvSafeTo L sys Q envGuard)
    {c c' : Config S R E α σ} {as : List (Action A)}
    (hc : BalancedTo L sys Q c)
    (hmeets : Meets sys.step (System.Conforms envGuard L.guard) c as)
    (hrun : runs sys.step c as = some c') :
    BalancedTo L sys Q c' ∧ L.rely c.world c'.world := by
  refine runs_invariant (I := fun d => BalancedTo L sys Q d ∧ L.rely c.world d.world)
    ?_ ⟨hc, L.rely_refl _⟩ hmeets hrun
  rintro d a d' ⟨hd, hrely⟩ hg hstep
  have hnext := hd.step hidle henv hg hstep
  exact ⟨hnext.1, L.rely_trans _ _ _ hrely hnext.2⟩

/-- **Soundness.** Every conforming run keeps the balance. -/
theorem balancedTo_runs
    (hidle : ∀ m v, L.done m → Q (.ok sys.idle) m v)
    {envGuard : σ → A → Prop}
    (henv : EnvSafeTo L sys Q envGuard)
    {c c' : Config S R E α σ} {as : List (Action A)}
    (hc : BalancedTo L sys Q c)
    (hmeets : Meets sys.step (System.Conforms envGuard L.guard) c as)
    (hrun : runs sys.step c as = some c') :
    BalancedTo L sys Q c' :=
  (balancedTo_runs_rely hidle henv hc hmeets hrun).1

theorem balanced_runs
    {envGuard : σ → A → Prop}
    (henv : EnvSafe L sys envGuard)
    {c c' : Config S R E α σ} {as : List (Action A)}
    (hc : Balanced L sys c)
    (hmeets : Meets sys.step (System.Conforms envGuard L.guard) c as)
    (hrun : runs sys.step c as = some c') :
    Balanced L sys c' :=
  balancedTo_runs (fun _ _ hd => hd) henv hc hmeets hrun

/-- The shares of two handlers are parts of the whole. -/
theorem forall₂_two
    {β : Type} {T : β → M → Prop} {l : List β} {ms : List M} {i j : Nat} {b b' : β}
    (h : List.Forall₂ T l ms)
    (hij : i < j)
    (hi : l[i]? = some b)
    (hj : l[j]? = some b') :
    ∃ m m' F, ms.sum = m + (m' + F) ∧ T b m ∧ T b' m' := by
  induction h generalizing i j with
  | nil =>
      simp at hi
  | @cons c n l ms hcn hrest ih =>
      obtain ⟨j, rfl⟩ := Nat.exists_eq_add_one_of_ne_zero (Nat.ne_zero_of_lt hij)
      rw [List.getElem?_cons_succ] at hj
      cases i with
      | zero =>
          rw [List.getElem?_cons_zero, Option.some.injEq] at hi
          subst hi
          obtain ⟨ms₁, m', ms₂, rfl, hb', -⟩ := forall₂_split hrest hj
          refine ⟨n, m', ms₁.sum + ms₂.sum, ?_, hcn, hb'⟩
          rw [List.sum_cons, List.sum_append, List.sum_cons, add_left_comm m']
      | succ i =>
          rw [List.getElem?_cons_succ] at hi
          obtain ⟨m, m', F, hsum, hb, hb'⟩ := ih (Nat.lt_of_succ_lt_succ hij) hi hj
          refine ⟨m, m', n + F, ?_, hb, hb'⟩
          rw [List.sum_cons, hsum, add_left_comm n m, add_left_comm n m']

/-- A handler that has returned has ended in `Q`. -/
theorem BalancedTo.returned
    {c : Config S R E α σ} {i : Nat} {a : α}
    (hc : BalancedTo L sys Q c)
    (hi : c.threads[i]? = some (.ret a)) :
    ∃ m, Q (.ok a) m c.world := by
  obtain ⟨ms, hthreads, -⟩ := hc
  obtain ⟨-, m, -, -, hp, -⟩ := forall₂_split hthreads hi
  exact ⟨m, hp c.world (L.rely_refl _)⟩

/-- Two handlers that have returned hold what they have ended with. -/
theorem BalancedTo.returned_two
    {c : Config S R E α σ} {i j : Nat} {a b : α}
    (hc : BalancedTo L sys Q c)
    (hij : i < j)
    (hi : c.threads[i]? = some (.ret a))
    (hj : c.threads[j]? = some (.ret b)) :
    ∃ m m' F, L.inv (m + (m' + F)) c.world ∧ Q (.ok a) m c.world ∧ Q (.ok b) m' c.world := by
  obtain ⟨ms, hthreads, hinv⟩ := hc
  obtain ⟨m, m', F, hsum, hm, hm'⟩ := forall₂_two hthreads hij hi hj
  exact ⟨m, m', F, hsum ▸ hinv, hm c.world (L.rely_refl _), hm' c.world (L.rely_refl _)⟩

/-- A shared state with no handler under way is balanced if the invariant holds. -/
theorem balancedTo_start
    {w : σ}
    (h : L.inv 0 w) :
    BalancedTo L sys Q ⟨w, []⟩ :=
  ⟨[], .nil, by simpa using h⟩

theorem balanced_start
    {w : σ}
    (h : L.inv 0 w) :
    Balanced L sys ⟨w, []⟩ :=
  balancedTo_start h

/-- An ended handler has ended in `Q`. -/
theorem Safe.of_finished
    {p : Program S R E α} {m : M} {w : σ}
    (h : Safe L sys.exec sys.fault Q p m w)
    (hp : p.finished = true) :
    ∃ x, Q x m w := by
  cases p with
  | ret a =>
      exact ⟨_, h w (L.rely_refl w)⟩
  | raise e =>
      exact ⟨_, h w (L.rely_refl w)⟩
  | call s k =>
      cases hp
  | pick n k =>
      cases hp
  | leave s p =>
      cases hp

/-- Shares that are all nothing add up to nothing. -/
theorem sum_eq_zero_of_forall₂
    {β : Type} {T : β → M → Prop} {l : List β} {ms : List M}
    (h : List.Forall₂ T l ms)
    (hzero : ∀ b, b ∈ l → ∀ m, T b m → m = 0) :
    ms.sum = 0 := by
  induction h with
  | nil =>
      rfl
  | @cons b m l ms hbm _ ih =>
      rw [List.sum_cons, hzero b (by simp) m hbm, zero_add]
      exact ih fun c hc => hzero c (List.mem_cons_of_mem b hc)

/-- Where ended handlers hold nothing, a quiet configuration owes nothing. -/
theorem BalancedTo.quiet
    {c : Config S R E α σ}
    (hc : BalancedTo L sys Q c)
    (hzero : ∀ x m v, Q x m v → m = 0)
    (hquiet : c.quiet = true) :
    L.inv 0 c.world := by
  obtain ⟨ms, hthreads, hinv⟩ := hc
  rwa [sum_eq_zero_of_forall₂ hthreads fun p hp m hsafe => ?_] at hinv
  obtain ⟨x, hx⟩ := Safe.of_finished hsafe (List.all_eq_true.mp hquiet p hp)
  exact hzero x m _ hx

/-- Where handlers that return hold nothing, nothing is owed once all have returned. -/
theorem BalancedTo.all_returned
    {c : Config S R E α σ}
    (hc : BalancedTo L sys Q c)
    (hzero : ∀ a m v, Q (.ok a) m v → m = 0)
    (hreturned : ∀ p, p ∈ c.threads → p.answer.isSome = true) :
    L.inv 0 c.world := by
  obtain ⟨ms, hthreads, hinv⟩ := hc
  rwa [sum_eq_zero_of_forall₂ hthreads fun p hp m hsafe => ?_] at hinv
  have hsome := hreturned p hp
  cases p with
  | ret a =>
      exact hzero a m _ (hsafe _ (L.rely_refl _))
  | _ =>
      cases hsome

/-- Handlers under way, each with its share. -/
theorem balancedTo_threads
    {ι : Type} {w : σ} {ps : ι → Program S R E α} {share : ι → M} {is : List ι}
    (hsafe : ∀ i, i ∈ is → Safe L sys.exec sys.fault Q (ps i) (share i) w)
    (hinv : L.inv (is.map share).sum w) :
    BalancedTo L sys Q ⟨w, is.map ps⟩ := by
  refine ⟨is.map share, ?_, hinv⟩
  clear hinv
  induction is with
  | nil =>
      exact .nil
  | cons i is ih =>
      exact .cons (hsafe i (by simp)) (ih fun j hj => hsafe j (List.mem_cons_of_mem i hj))

/-- One step for one handler, where its share is not part of the invariant. -/
theorem Safe.thread_step
    {c c' : Config S R E α σ} {a : Action A} {i : Nat} {p : Program S R E α} {m : M}
    (hinv : ∀ m, L.inv m c.world)
    (hp : c.threads[i]? = some p)
    (h : Safe L sys.exec sys.fault Q p m c.world)
    (hg : ∀ j o s, a = .run i j o → System.nextStatement c i = some s →
      L.guard c.world s o)
    (hrely : L.rely c.world c'.world)
    (hstep : sys.step c a = some c') :
    ∃ p' m', c'.threads[i]? = some p' ∧ Safe L sys.exec sys.fault Q p' m' c'.world := by
  have hlt : i < c.threads.length := (List.getElem?_eq_some_iff.mp hp).1
  have hkeep : ∀ ps, (c.threads ++ ps)[i]? = some p := fun ps => by
    rw [List.getElem?_append_left hlt, hp]
  cases a with
  | env a =>
      simp only [System.step] at hstep
      cases ha : sys.env a c.world with
      | none =>
          simp [ha] at hstep
      | some wp =>
          simp only [ha, Option.some.injEq] at hstep
          subst hstep
          exact ⟨p, m, hkeep _, h.of_rely hrely⟩
  | run k j o =>
      simp only [System.step] at hstep
      cases hk : c.threads[k]? with
      | none =>
          simp [hk] at hstep
      | some q =>
          simp only [hk] at hstep
          cases hq : sys.advance j o c.world q with
          | none =>
              simp [hq] at hstep
          | some r =>
              obtain ⟨w, q', left⟩ := r
              simp only [hq, Option.some.injEq] at hstep
              subst hstep
              by_cases hik : k = i
              · subst hik
                have hnow : (c.threads.set k q' ++ left)[k]? = some q' := by
                  rw [List.getElem?_append_left (by simpa using hlt)]
                  exact List.getElem?_set_self hlt
                rw [hp] at hk
                cases hk
                cases p with
                | ret a =>
                    simp [System.advance] at hq
                | raise e =>
                    simp [System.advance] at hq
                | call s f =>
                    simp only [System.advance, Option.some.injEq, Prod.mk.injEq] at hq
                    obtain ⟨rfl, rfl, rfl⟩ := hq
                    obtain ⟨m', -, -, hsafe⟩ := h c.world 0 o (L.rely_refl _) (hinv _)
                      (hg j o s rfl (by simp [System.nextStatement, hp]))
                    exact ⟨_, m', hnow, hsafe⟩
                | pick n f =>
                    by_cases hj : j < n
                    · simp only [System.advance, hj, dite_true, Option.some.injEq,
                        Prod.mk.injEq] at hq
                      obtain ⟨rfl, rfl, rfl⟩ := hq
                      exact ⟨_, m, hnow, h ⟨j, hj⟩⟩
                    · simp [System.advance, hj] at hq
                | leave s f =>
                    simp only [System.advance, Option.some.injEq, Prod.mk.injEq] at hq
                    obtain ⟨rfl, rfl, rfl⟩ := hq
                    obtain ⟨_, m₂, -, -, hrest⟩ := h
                    exact ⟨_, m₂, hnow, hrest⟩
              · refine ⟨p, m, ?_, h.of_rely hrely⟩
                rw [List.getElem?_append_left (by simpa using hlt),
                  List.getElem?_set_ne hik, hp]

/-- What one handler ends in, where the invariant says nothing. -/
theorem Safe.thread_runs
    {G : Config S R E α σ → Action A → Prop}
    (hinv : ∀ m w, L.inv m w)
    (hguard : ∀ c i j o s, G c (.run i j o) → System.nextStatement c i = some s →
      L.guard c.world s o)
    (hrely : ∀ c a c', G c a → sys.step c a = some c' → L.rely c.world c'.world)
    {c c' : Config S R E α σ} {as : List (Action A)} {i : Nat}
    {p : Program S R E α} {m : M}
    (hp : c.threads[i]? = some p)
    (h : Safe L sys.exec sys.fault Q p m c.world)
    (hmeets : Meets sys.step G c as)
    (hrun : runs sys.step c as = some c') :
    ∃ p' m', c'.threads[i]? = some p' ∧ Safe L sys.exec sys.fault Q p' m' c'.world := by
  refine runs_invariant (I := fun d => ∃ p m, d.threads[i]? = some p ∧
    Safe L sys.exec sys.fault Q p m d.world) ?_ ⟨p, m, hp, h⟩ hmeets hrun
  rintro d a d' ⟨p, m, hp, h⟩ hg hstep
  exact Safe.thread_step (fun m => hinv m _) hp h
    (fun j o s ha hs => hguard d i j o s (ha ▸ hg) hs) (hrely d a d' hg hstep) hstep

/-- What one handler of a balanced pool ends in, where nothing is shared. -/
theorem BalancedTo.thread_runs
    {Q' : Except E α → M → σ → Prop}
    (hshare : ∀ m n w, L.inv m w → L.inv n w)
    (hidle : ∀ m v, L.done m → Q' (.ok sys.idle) m v)
    {envGuard : σ → A → Prop}
    (henv : EnvSafeTo L sys Q' envGuard)
    {c c' : Config S R E α σ} {as : List (Action A)} {i : Nat}
    {p : Program S R E α} {m : M}
    (hc : BalancedTo L sys Q' c)
    (hp : c.threads[i]? = some p)
    (h : Safe L sys.exec sys.fault Q p m c.world)
    (hmeets : Meets sys.step (System.Conforms envGuard L.guard) c as)
    (hrun : runs sys.step c as = some c') :
    ∃ p' m', c'.threads[i]? = some p' ∧ Safe L sys.exec sys.fault Q p' m' c'.world := by
  refine (runs_invariant (I := fun d => BalancedTo L sys Q' d ∧ ∃ p m,
    d.threads[i]? = some p ∧ Safe L sys.exec sys.fault Q p m d.world) ?_
    ⟨hc, p, m, hp, h⟩ hmeets hrun).2
  rintro d a d' ⟨hd, p, m, hp, h⟩ hg hstep
  obtain ⟨hd', hrely⟩ := hd.step hidle henv hg hstep
  refine ⟨hd', Safe.thread_step (fun m => ?_) hp h ?_ hrely hstep⟩
  · obtain ⟨ms, -, hinv⟩ := hd
    exact hshare _ m _ hinv
  · rintro j o s rfl hs
    simpa only [System.Conforms, hs] using hg

end Soundness

end Logic

end Async
end BookStore
