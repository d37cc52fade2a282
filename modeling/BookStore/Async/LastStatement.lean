import BookStore.Async.Everywhere

/-!
# The statement before a handler returns

`p.EndsWith A G`: a handler returns an answer of `A` only right after a statement, which was
answered, and `G` relates the statement and its answer to what the handler returns.

`endsWith_finish`: in a pool of such handlers the step with which one returns is that
statement.
-/

namespace BookStore
namespace Async

variable {S : Type} {R : S → Type} {E α β σ B : Type}

namespace Program

/-- Still under way, or with an answer that is not of `A` -/
def Unreturned (A : α → Prop) (p : Program S R E α) : Prop :=
  ∀ a, p = .ret a → ¬ A a

/-- An answer of `A` comes right after a statement. -/
def ReturnsAfter (A : α → Prop) (G : (s : S) → R s → α → Prop) : Program S R E α → Prop
  | .call s k => ∀ x a, k x = .ret a → A a → ∃ r, x = .ok r ∧ G s r a
  | .pick _ k => ∀ j, (k j).Unreturned A
  | .leave _ p => p.Unreturned A
  | _ => True

abbrev EndsWith (A : α → Prop) (G : (s : S) → R s → α → Prop) (p : Program S R E α) : Prop :=
  p.Everywhere (ReturnsAfter A G)

section Rules

variable {A : α → Prop} {G : (s : S) → R s → α → Prop}

theorem EndsWith.await_bind
    {s : S} {f : R s → Program S R E α}
    (hf : ∀ r, (f r).EndsWith A G)
    (hret : ∀ r a, f r = .ret a → A a → G s r a) :
    ((await s).bind f).EndsWith A G := by
  refine Everywhere.await_bind ?_ (fun _ => trivial) hf
  rw [Program.bind_await]
  intro x a ha hA
  cases x with
  | ok r =>
      exact ⟨r, rfl, hret r a ha hA⟩
  | error e =>
      cases ha

theorem unreturned_await_bind {s : S} {f : R s → Program S R E α} :
    ((await s : Program S R E (R s)).bind f).Unreturned A := by
  rw [Program.bind_await]
  intro a ha
  cases ha

/-- What goes on after any handler -/
theorem EndsWith.bind
    {p : Program S R E β} {f : β → Program S R E α}
    (hf : ∀ b, (f b).EndsWith A G ∧ (f b).Unreturned A) :
    (p.bind f).EndsWith A G ∧ (p.bind f).Unreturned A := by
  induction p with
  | ret b =>
      exact hf b
  | raise e =>
      exact ⟨trivial, fun a ha => by cases ha⟩
  | call s k ih =>
      exact ⟨⟨fun x a ha hA => absurd hA ((ih x).2 a ha), fun x => (ih x).1⟩,
        fun a ha => by cases ha⟩
  | pick n k ih =>
      exact ⟨⟨fun j => (ih j).2, fun j => (ih j).1⟩, fun a ha => by cases ha⟩
  | leave s p ih =>
      exact ⟨⟨ih.2, ih.1⟩, fun a ha => by cases ha⟩

end Rules

end Program

section Pool

variable {sys : System S R E α σ B} {A : α → Prop} {G : (s : S) → R s → α → Prop}
variable {c c' : Config S R E α σ}

/-- Every handler under way ends so. -/
abbrev AllEndWith (A : α → Prop) (G : (s : S) → R s → α → Prop) (c : Config S R E α σ) : Prop :=
  AllEverywhere (Program.ReturnsAfter A G) c

theorem allEndWith_runs
    (henv : ∀ a w w' p, sys.env a w = some (w', some p) → p.EndsWith A G)
    (hidle : ¬ A sys.idle)
    (hc : AllEndWith A G c) {as : List (Action B)} (hrun : runs sys.step c as = some c') :
    AllEndWith A G c' := by
  refine everywhere_runs henv (fun s p _ => ⟨fun x a ha hA => absurd hA ?_, fun _ => trivial⟩)
    hc hrun
  cases ha
  exact hidle

theorem answered_of_attempt
    {exec : (s : S) → σ → Except E (σ × R s)} {fault : E} {s : S} {o : Outcome} {w : σ} {r : R s}
    (h : (attempt exec fault s o w).2 = .ok r) :
    o = .ok ∧ exec s w = .ok ((attempt exec fault s o w).1, r) := by
  cases o with
  | ok =>
      cases hexec : exec s w with
      | ok wr =>
          simp only [attempt, hexec, Except.ok.injEq] at h ⊢
          rw [← h]
          exact ⟨trivial, rfl⟩
      | error e =>
          simp [attempt, hexec] at h
  | fail =>
      simp [attempt] at h
  | lost =>
      cases hexec : exec s w with
      | ok wr =>
          simp [attempt, hexec] at h
      | error e =>
          simp [attempt, hexec] at h

/-- The step with which a handler returns -/
theorem endsWith_finish
    {i j : Nat} {o : Outcome} {a : α}
    (hc : AllEndWith A G c)
    (hstep : sys.step c (.run i j o) = some c')
    (hret : c'.threads[i]? = some (.ret a)) (hA : A a) :
    ∃ s r, System.nextStatement c i = some s ∧ o = .ok ∧
      sys.exec s c.world = .ok (c'.world, r) ∧ G s r a := by
  simp only [System.step] at hstep
  split at hstep
  · cases hstep
  · rename_i p hp
    have hreturns := hc.thread hp
    have hlt : i < c.threads.length := (List.getElem?_eq_some_iff.mp hp).1
    split at hstep
    · cases hstep
    · rename_i w p' left hadvance
      cases hstep
      have hp' : p' = .ret a := by
        rw [List.getElem?_append_left (by simpa using hlt), List.getElem?_set_self hlt] at hret
        exact Option.some.inj hret
      subst hp'
      cases p with
      | ret b =>
          cases hadvance
      | raise e =>
          cases hadvance
      | call s k =>
          simp only [System.advance, Option.some.injEq, Prod.mk.injEq] at hadvance
          obtain ⟨rfl, hk, -⟩ := hadvance
          obtain ⟨r, hr, hG⟩ := hreturns _ a hk hA
          obtain ⟨ho, hexec⟩ := answered_of_attempt hr
          exact ⟨s, r, by simp [System.nextStatement, hp], ho, hexec, hG⟩
      | pick n k =>
          simp only [System.advance] at hadvance
          split at hadvance
          · simp only [Option.some.injEq, Prod.mk.injEq] at hadvance
            exact absurd hA (hreturns _ a hadvance.2.1)
          · cases hadvance
      | leave s p =>
          simp only [System.advance, Option.some.injEq, Prod.mk.injEq] at hadvance
          exact absurd hA (hreturns a hadvance.2.1)

end Pool

end Async
end BookStore
