import Mathlib.Data.List.Basic

/-!
# Asynchronous programs over atomic statements

A request handler of a single-threaded server awaits one statement after
another: a database query, a command to a key-value store, a job pushed on a
queue.  Every statement is atomic; between two of them any other handler may
run.

`Program S R E α` is the type of such handlers.

* `S` is the type of statements and `R s` the type of the answer of `s`.
* `E` is the type of errors; a statement answers with `Except E (R s)`.
* `pick` leaves a choice to the scheduler and `leave` abandons a statement that
  was already sent: both come from `promiseAll`, whose statements run in any
  order and whose first failure does not recall the others.

The module names no statement: it is used at the statements of the repository.
-/

namespace BookStore
namespace Async

/-- A handler: the statements it awaits, and how it goes on with each answer. -/
inductive Program (S : Type) (R : S → Type) (E : Type) (α : Type) : Type
  | ret (a : α)
  | raise (e : E)
  | call (s : S) (k : Except E (R s) → Program S R E α)
  | pick (n : Nat) (k : Fin n → Program S R E α)
  | leave (s : S) (p : Program S R E α)

namespace Program

variable {S : Type} {R : S → Type} {E α β : Type}

/-- Sequencing; an error skips what follows. -/
def bind : Program S R E α → (α → Program S R E β) → Program S R E β
  | ret a, f => f a
  | raise e, _ => raise e
  | call s k, f => call s (fun x => (k x).bind f)
  | pick n k, f => pick n (fun j => (k j).bind f)
  | leave s p, f => leave s (p.bind f)

/-- `try p catch (e) { h e }`. -/
def tryCatch : Program S R E α → (E → Program S R E α) → Program S R E α
  | ret a, _ => ret a
  | raise e, h => h e
  | call s k, h => call s (fun x => (k x).tryCatch h)
  | pick n k, h => pick n (fun j => (k j).tryCatch h)
  | leave s p, h => leave s (p.tryCatch h)

instance : Monad (Program S R E) where
  pure := ret
  bind := bind

/-- What a handler does with the answer of an awaited statement. -/
def resume (f : α → Program S R E β) : Except E α → Program S R E β
  | .ok a => f a
  | .error e => raise e

/-- `await s`: an error of the statement is thrown. -/
def await (s : S) : Program S R E (R s) :=
  call s (resume ret)

/-- Abandon the statements of a list, then throw. -/
def leaveAll : List S → E → Program S R E α
  | [], e => raise e
  | s :: ss, e => leave s (leaveAll ss e)

/-- `Promise.all` over the statements of a list of length `n`. -/
def promiseAllOf : Nat → List S → Program S R E Unit
  | 0, _ => ret ()
  | n + 1, ss =>
      pick ss.length fun j =>
        call (ss.get j) fun x =>
          match x with
          | .ok _ => promiseAllOf n (ss.eraseIdx j)
          | .error e => leaveAll (ss.eraseIdx j) e

/--
`await Promise.all(ss)`: the statements run in any order; the first error is
thrown at once and the statements still under way are not recalled.
-/
def promiseAll (ss : List S) : Program S R E Unit :=
  promiseAllOf ss.length ss

/-- `for (const b of bs) { await f b }`. -/
def forEach {γ : Type} : List γ → (γ → Program S R E Unit) → Program S R E Unit
  | [], _ => ret ()
  | b :: bs, f => (f b).bind fun _ => forEach bs f

/--
`await Promise.all([s, p])` for a statement and a handler: `s` runs at any point
of `p`.  An error is thrown once both have ended.
-/
def alongside (s : S) : Program S R E α → Program S R E (R s × α)
  | ret a => call s (resume fun r => ret (r, a))
  | raise e => call s fun _ => raise e
  | call t k =>
      pick 2 fun j =>
        if j = 0 then
          call s fun x =>
            match x with
            | .ok r => call t fun y => (k y).bind fun a => ret (r, a)
            | .error e => call t fun y => (k y).bind fun _ => raise e
        else
          call t fun y => alongside s (k y)
  | pick n k => pick n fun j => alongside s (k j)
  | leave t p => leave t (alongside s p)

@[simp] theorem pure_eq_ret (a : α) :
    (pure a : Program S R E α) = ret a := rfl

@[simp] theorem bind_eq_bind
    (p : Program S R E α)
    (f : α → Program S R E β) :
    p >>= f = p.bind f := rfl

@[simp] theorem bind_ret
    (a : α)
    (f : α → Program S R E β) :
    (ret a : Program S R E α).bind f = f a := rfl

@[simp] theorem bind_raise
    (e : E)
    (f : α → Program S R E β) :
    (raise e : Program S R E α).bind f = raise e := rfl

@[simp] theorem bind_call
    (s : S)
    (k : Except E (R s) → Program S R E α)
    (f : α → Program S R E β) :
    (call s k).bind f = call s (fun x => (k x).bind f) := rfl

@[simp] theorem bind_pick
    (n : Nat)
    (k : Fin n → Program S R E α)
    (f : α → Program S R E β) :
    (pick n k).bind f = pick n (fun j => (k j).bind f) := rfl

@[simp] theorem bind_leave
    (s : S)
    (p : Program S R E α)
    (f : α → Program S R E β) :
    (leave s p).bind f = leave s (p.bind f) := rfl

/-- An awaited statement followed by `f` is one call. -/
@[simp] theorem bind_await
    (s : S)
    (f : R s → Program S R E β) :
    (await s : Program S R E (R s)).bind f = call s (resume f) := by
  show call s (fun x => (resume ret x).bind f) = call s (resume f)
  congr 1
  funext x
  cases x <;> rfl

theorem bind_assoc {γ : Type}
    (p : Program S R E α)
    (f : α → Program S R E β)
    (g : β → Program S R E γ) :
    (p.bind f).bind g = p.bind (fun a => (f a).bind g) := by
  induction p with
  | ret a => rfl
  | raise e => rfl
  | call s k ih =>
      simp only [bind_call]
      congr 1
      funext x
      exact ih x
  | pick n k ih =>
      simp only [bind_pick]
      congr 1
      funext j
      exact ih j
  | leave s p ih =>
      simp only [bind_leave]
      rw [ih]

/-! ### The statements a program can send -/

/-- Every statement that the program can send meets `P`. -/
def All (P : S → Prop) : Program S R E α → Prop
  | ret _ => True
  | raise _ => True
  | call s k => P s ∧ ∀ x, (k x).All P
  | pick _ k => ∀ j, (k j).All P
  | leave s p => P s ∧ p.All P

variable {P : S → Prop}

theorem All.mono
    {P' : S → Prop}
    {p : Program S R E α}
    (h : p.All P)
    (himp : ∀ s, P s → P' s) :
    p.All P' := by
  induction p with
  | ret a =>
      trivial
  | raise e =>
      trivial
  | call s k ih =>
      exact ⟨himp s h.1, fun x => ih x (h.2 x)⟩
  | pick n k ih =>
      exact fun j => ih j (h j)
  | leave s p ih =>
      exact ⟨himp s h.1, ih h.2⟩

theorem All.of_forall (h : ∀ s, P s) (p : Program S R E α) : p.All P := by
  induction p with
  | ret a =>
      trivial
  | raise e =>
      trivial
  | call s k ih =>
      exact ⟨h s, ih⟩
  | pick n k ih =>
      exact ih
  | leave s p ih =>
      exact ⟨h s, ih⟩

theorem All.bind
    {p : Program S R E α} {f : α → Program S R E β}
    (hp : p.All P)
    (hf : ∀ a, (f a).All P) :
    (p.bind f).All P := by
  induction p with
  | ret a =>
      exact hf a
  | raise e =>
      trivial
  | call s k ih =>
      exact ⟨hp.1, fun x => ih x (hp.2 x)⟩
  | pick n k ih =>
      exact fun j => ih j (hp j)
  | leave s p ih =>
      exact ⟨hp.1, ih hp.2⟩

theorem All.tryCatch
    {p : Program S R E α} {h : E → Program S R E α}
    (hp : p.All P)
    (hh : ∀ e, (h e).All P) :
    (p.tryCatch h).All P := by
  induction p with
  | ret a =>
      trivial
  | raise e =>
      exact hh e
  | call s k ih =>
      exact ⟨hp.1, fun x => ih x (hp.2 x)⟩
  | pick n k ih =>
      exact fun j => ih j (hp j)
  | leave s p ih =>
      exact ⟨hp.1, ih hp.2⟩

theorem All.call_resume
    {s : S} {f : R s → Program S R E β}
    (hs : P s)
    (hf : ∀ r, (f r).All P) :
    (call s (resume f)).All P := by
  refine ⟨hs, fun x => ?_⟩
  cases x with
  | ok r =>
      exact hf r
  | error e =>
      trivial

theorem All.await {s : S} (hs : P s) :
    (await s : Program S R E (R s)).All P :=
  All.call_resume hs (fun _ => trivial)

theorem All.forEach
    {γ : Type} {f : γ → Program S R E Unit} {bs : List γ}
    (hf : ∀ b, b ∈ bs → (f b).All P) :
    (forEach bs f).All P := by
  induction bs with
  | nil =>
      trivial
  | cons b bs ih =>
      exact (hf b (by simp)).bind
        (fun _ => ih (fun c hc => hf c (List.mem_cons_of_mem b hc)))

theorem All.leaveAll
    {ss : List S} {e : E}
    (hs : ∀ s, s ∈ ss → P s) :
    (leaveAll ss e : Program S R E α).All P := by
  induction ss with
  | nil =>
      trivial
  | cons s ss ih =>
      exact ⟨hs s (by simp), ih (fun t ht => hs t (List.mem_cons_of_mem s ht))⟩

theorem All.promiseAll
    {ss : List S}
    (hs : ∀ s, s ∈ ss → P s) :
    (promiseAll ss : Program S R E Unit).All P := by
  have key : ∀ n (ss : List S), (∀ s, s ∈ ss → P s) →
      (promiseAllOf n ss : Program S R E Unit).All P := by
    intro n
    induction n with
    | zero =>
        intros
        trivial
    | succ n ih =>
        intro ss hs j
        refine ⟨hs _ (List.get_mem ss j), fun x => ?_⟩
        have hrest : ∀ s, s ∈ ss.eraseIdx j → P s :=
          fun s h => hs s (List.mem_of_mem_eraseIdx h)
        cases x with
        | ok r =>
            exact ih _ hrest
        | error e =>
            exact All.leaveAll hrest
  exact key _ ss hs

theorem All.alongside
    {s : S} {p : Program S R E α}
    (hs : P s)
    (hp : p.All P) :
    (alongside s p).All P := by
  induction p with
  | ret a =>
      exact All.call_resume hs (fun _ => trivial)
  | raise e =>
      exact ⟨hs, fun _ => trivial⟩
  | call t k ih =>
      intro j
      dsimp only
      split_ifs
      · refine ⟨hs, fun x => ?_⟩
        cases x with
        | ok r =>
            exact ⟨hp.1, fun y => (hp.2 y).bind fun _ => trivial⟩
        | error e =>
            exact ⟨hp.1, fun y => (hp.2 y).bind fun _ => trivial⟩
      · exact ⟨hp.1, fun y => ih y (hp.2 y)⟩
  | pick n k ih =>
      exact fun j => ih j (hp j)
  | leave t p ih =>
      exact ⟨hp.1, ih hp.2⟩

end Program

end Async
end BookStore
