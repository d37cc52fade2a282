import BookStore.Async.Pool

/-!
# What is left of a handler at any time

`p.Everywhere Q`: the handler `p`, and whatever is left of it later on, meets `Q`, with any
answers of its statements.  `everywhere_runs`: so do all handlers of a pool.
-/

namespace BookStore
namespace Async

variable {S : Type} {R : S → Type} {E α β σ B : Type}

namespace Program

def Everywhere (Q : Program S R E α → Prop) : Program S R E α → Prop
  | .ret a => Q (.ret a)
  | .raise e => Q (.raise e)
  | .call s k => Q (.call s k) ∧ ∀ x, (k x).Everywhere Q
  | .pick n k => Q (.pick n k) ∧ ∀ j, (k j).Everywhere Q
  | .leave s p => Q (.leave s p) ∧ p.Everywhere Q

section Rules

variable {Q : Program S R E α → Prop}

theorem Everywhere.self {p : Program S R E α} (h : p.Everywhere Q) : Q p := by
  cases p with
  | ret a =>
      exact h
  | raise e =>
      exact h
  | call s k =>
      exact h.1
  | pick n k =>
      exact h.1
  | leave s p =>
      exact h.1

theorem Everywhere.await_bind
    {s : S} {f : R s → Program S R E α}
    (hself : Q ((await s).bind f))
    (herror : ∀ e, Q (.raise e))
    (hf : ∀ r, (f r).Everywhere Q) :
    ((await s).bind f).Everywhere Q := by
  rw [Program.bind_await] at hself ⊢
  refine ⟨hself, fun x => ?_⟩
  cases x with
  | ok r =>
      exact hf r
  | error e =>
      exact herror e

end Rules

end Program

section Pool

variable {sys : System S R E α σ B} {Q : Program S R E α → Prop}
variable {c c' : Config S R E α σ}

/-- Every handler under way meets `Q`, now and later. -/
def AllEverywhere (Q : Program S R E α → Prop) (c : Config S R E α σ) : Prop :=
  ∀ p, p ∈ c.threads → p.Everywhere Q

theorem AllEverywhere.thread
    (hc : AllEverywhere Q c) {i : Nat} {p : Program S R E α} (hi : c.threads[i]? = some p) :
    Q p :=
  (hc p (List.mem_of_getElem? hi)).self

/-- A handler at a statement -/
theorem call_of_nextStatement
    {i : Nat} {s : S} (h : System.nextStatement c i = some s) :
    ∃ k, c.threads[i]? = some (.call s k) := by
  unfold System.nextStatement at h
  split at h
  · rename_i k hi
    cases h
    exact ⟨k, hi⟩
  · cases h

/-- The handlers after a step are old ones, or what the step has made. -/
theorem threads_step
    {a : Action B}
    (henv : ∀ b w' p, a = .env b → sys.env b c.world = some (w', some p) → Q p)
    (hrun : ∀ i j o p w' p' left, a = .run i j o → c.threads[i]? = some p →
      sys.advance j o c.world p = some (w', p', left) → Q p' ∧ ∀ q, q ∈ left → Q q)
    (hold : ∀ p, p ∈ c.threads → Q p)
    (hstep : sys.step c a = some c') :
    ∀ p, p ∈ c'.threads → Q p := by
  cases a with
  | env a =>
      simp only [System.step] at hstep
      split at hstep
      · cases hstep
      · rename_i w p hp
        cases hstep
        intro q hq
        rcases List.mem_append.mp hq with hq | hq
        · exact hold q hq
        · exact henv a w q rfl (by rw [hp, Option.mem_toList.mp hq])
  | run i j o =>
      simp only [System.step] at hstep
      split at hstep
      · cases hstep
      · rename_i p hp
        split at hstep
        · cases hstep
        · rename_i w p' left hadvance
          cases hstep
          obtain ⟨hnew, hleft⟩ := hrun i j o p w p' left rfl hp hadvance
          intro q hq
          rcases List.mem_append.mp hq with hq | hq
          · rcases List.mem_or_eq_of_mem_set hq with hq | rfl
            · exact hold q hq
            · exact hnew
          · exact hleft q hq

/-- **One step** -/
theorem everywhere_step
    {a : Action B}
    (henv : ∀ b w' p, a = .env b → sys.env b c.world = some (w', some p) → p.Everywhere Q)
    (hleave : ∀ s p, Q (.leave s p) → (Program.call s fun _ => .ret sys.idle).Everywhere Q)
    (hc : AllEverywhere Q c) (hstep : sys.step c a = some c') :
    AllEverywhere Q c' := by
  refine threads_step (Q := fun p => p.Everywhere Q) henv ?_ hc hstep
  intro i j o p w p' left _ hi hadvance
  have hp : p.Everywhere Q := hc p (List.mem_of_getElem? hi)
  cases p with
  | ret a =>
      cases hadvance
  | raise e =>
      cases hadvance
  | call s k =>
      cases hadvance
      exact ⟨hp.2 _, fun q hq => by cases hq⟩
  | pick n k =>
      simp only [System.advance] at hadvance
      split at hadvance
      · cases hadvance
        exact ⟨hp.2 _, fun q hq => by cases hq⟩
      · cases hadvance
  | leave s p =>
      cases hadvance
      refine ⟨hp.2, fun q hq => ?_⟩
      rw [List.mem_singleton.mp hq]
      exact hleave s _ hp.1

theorem everywhere_runs
    (henv : ∀ a w w' p, sys.env a w = some (w', some p) → p.Everywhere Q)
    (hleave : ∀ s p, Q (.leave s p) → (Program.call s fun _ => .ret sys.idle).Everywhere Q)
    (hc : AllEverywhere Q c) {as : List (Action B)} (hrun : runs sys.step c as = some c') :
    AllEverywhere Q c' :=
  runs_invariant (I := AllEverywhere Q) (G := fun _ _ => True)
    (fun d _ _ hd _ hstep => everywhere_step (fun b w' p _ hb => henv b d.world w' p hb) hleave hd
      hstep) hc
    (Meets.of_forall_mem fun _ _ _ => trivial) hrun

end Pool

end Async
end BookStore
