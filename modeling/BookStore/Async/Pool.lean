import BookStore.Async.Program

/-!
# A pool of handlers over a shared state

A `System` fixes what each statement does to the shared state and what the
environment may do (let time pass, deliver a request, hand a queued job to a
worker).  A configuration is a shared state and the handlers under way; one
action is either a step of the environment or one statement of one handler.

A statement may succeed, fail without effect, or take effect and lose its
answer: the last two reach the handler as the same error.

`runs` executes a list of actions and `Meets` says that every action of the
list meets a condition in the state it starts from.
-/

namespace BookStore
namespace Async

section Runs

variable {σ α : Type}

/-- The state after a list of actions, if all of them are enabled. -/
def runs (step : σ → α → Option σ) : σ → List α → Option σ
  | s, [] => some s
  | s, a :: as =>
      match step s a with
      | none => none
      | some s' => runs step s' as

/-- Every action of the list meets `G` in the state it starts from. -/
def Meets (step : σ → α → Option σ) (G : σ → α → Prop) : σ → List α → Prop
  | _, [] => True
  | s, a :: as =>
      G s a ∧
        match step s a with
        | none => True
        | some s' => Meets step G s' as

instance decidableMeets
    (step : σ → α → Option σ)
    (G : σ → α → Prop)
    [∀ s a, Decidable (G s a)] :
    ∀ (s : σ) (as : List α), Decidable (Meets step G s as)
  | _, [] => inferInstanceAs (Decidable True)
  | s, a :: as =>
      match h : step s a with
      | none =>
          decidable_of_iff (G s a) (by simp [Meets, h])
      | some s' =>
          have : Decidable (Meets step G s' as) := decidableMeets step G s' as
          decidable_of_iff (G s a ∧ Meets step G s' as) (by simp [Meets, h])

variable {step : σ → α → Option σ} {G : σ → α → Prop}

theorem runs_cons
    {s t : σ} {a : α} {as : List α} :
    runs step s (a :: as) = some t ↔
      ∃ s', step s a = some s' ∧ runs step s' as = some t := by
  simp only [runs]
  cases step s a <;> simp

theorem runs_append
    {s t : σ} {as bs : List α} :
    runs step s (as ++ bs) = some t ↔
      ∃ u, runs step s as = some u ∧ runs step u bs = some t := by
  induction as generalizing s with
  | nil =>
      simp [runs]
  | cons a as ih =>
      simp only [List.cons_append, runs_cons, ih]
      constructor
      · rintro ⟨s', hs, u, hu, ht⟩
        exact ⟨u, ⟨s', hs, hu⟩, ht⟩
      · rintro ⟨u, ⟨s', hs, hu⟩, ht⟩
        exact ⟨s', hs, u, hu, ht⟩

theorem Meets.mono
    {G' : σ → α → Prop}
    (himp : ∀ s a, G s a → G' s a)
    {s : σ} {as : List α}
    (h : Meets step G s as) :
    Meets step G' s as := by
  induction as generalizing s with
  | nil =>
      trivial
  | cons a as ih =>
      refine ⟨himp _ _ h.1, ?_⟩
      have htail := h.2
      cases hs : step s a with
      | none =>
          trivial
      | some s' =>
          rw [hs] at htail
          exact ih htail

theorem Meets.and
    {G' : σ → α → Prop} {s : σ} {as : List α}
    (h : Meets step G s as) (h' : Meets step G' s as) :
    Meets step (fun s a => G s a ∧ G' s a) s as := by
  induction as generalizing s with
  | nil =>
      trivial
  | cons a as ih =>
      refine ⟨⟨h.1, h'.1⟩, ?_⟩
      have htail := h.2
      have htail' := h'.2
      cases hs : step s a with
      | none =>
          trivial
      | some s' =>
          rw [hs] at htail htail'
          exact ih htail htail'

/-- A run in two parts. -/
theorem meets_append
    {G : σ → α → Prop} {s u : σ} {as bs : List α}
    (hrun : runs step s as = some u) :
    Meets step G s (as ++ bs) ↔ Meets step G s as ∧ Meets step G u bs := by
  induction as generalizing s with
  | nil =>
      cases hrun
      simp [Meets]
  | cons a as ih =>
      obtain ⟨s', hs, hrun'⟩ := runs_cons.mp hrun
      simp only [List.cons_append, Meets, hs, ih hrun', and_assoc]

/-- A condition on the actions alone. -/
theorem Meets.of_forall_mem
    {s : σ} {as : List α}
    (h : ∀ a, a ∈ as → ∀ s, G s a) :
    Meets step G s as := by
  induction as generalizing s with
  | nil =>
      trivial
  | cons a as ih =>
      refine ⟨h a (by simp) s, ?_⟩
      cases step s a with
      | none =>
          trivial
      | some s' =>
          exact ih (fun b hb => h b (List.mem_cons_of_mem a hb))

/-- What every conforming action preserves, every conforming run preserves. -/
theorem runs_invariant
    {I : σ → Prop}
    (hstep : ∀ s a s', I s → G s a → step s a = some s' → I s')
    {s t : σ} {as : List α}
    (hs : I s)
    (hmeets : Meets step G s as)
    (hrun : runs step s as = some t) :
    I t := by
  induction as generalizing s with
  | nil =>
      simp only [runs, Option.some.injEq] at hrun
      subst hrun
      exact hs
  | cons a as ih =>
      obtain ⟨s', ha, htail⟩ := runs_cons.mp hrun
      have hm := hmeets.2
      rw [ha] at hm
      exact ih (hstep s a s' hs hmeets.1 ha) hm htail

/-- A condition that follows from another while `I` lasts, which that other keeps. -/
theorem Meets.of_invariant
    {I : σ → Prop} {A B : σ → α → Prop}
    (himp : ∀ s a, I s → A s a → B s a)
    (hstep : ∀ s a s', I s → A s a → step s a = some s' → I s')
    {s : σ} {as : List α}
    (hs : I s)
    (h : Meets step A s as) :
    Meets step B s as := by
  induction as generalizing s with
  | nil =>
      trivial
  | cons a as ih =>
      refine ⟨himp s a hs h.1, ?_⟩
      have htail := h.2
      cases ha : step s a with
      | none =>
          trivial
      | some s' =>
          rw [ha] at htail
          exact ih (hstep s a s' hs h.1 ha) htail

/-- Two conditions that agree while `I` lasts, the first of which keeps it. -/
theorem meets_iff_of_invariant
    {I : σ → Prop} {A B : σ → α → Prop}
    (hiff : ∀ s a, I s → (A s a ↔ B s a))
    (hstep : ∀ s a s', I s → A s a → step s a = some s' → I s')
    {s : σ} {as : List α}
    (hs : I s) :
    Meets step A s as ↔ Meets step B s as := by
  induction as generalizing s with
  | nil =>
      exact Iff.rfl
  | cons a as ih =>
      simp only [Meets, ← hiff s a hs]
      refine and_congr_right fun hA => ?_
      cases ha : step s a with
      | none =>
          exact Iff.rfl
      | some s' =>
          exact ih (hstep s a s' hs hA ha)

end Runs

/-- How a statement ends: done, refused without effect, or done unanswered. -/
inductive Outcome
  | ok
  | fail
  | lost
  deriving DecidableEq, Repr

/-- The effect of a statement and the answer that reaches the handler. -/
def attempt {S : Type} {R : S → Type} {E σ : Type}
    (exec : (s : S) → σ → Except E (σ × R s))
    (fault : E)
    (s : S) (o : Outcome) (w : σ) : σ × Except E (R s) :=
  match o with
  | .ok =>
      match exec s w with
      | .ok (w', r) => (w', .ok r)
      | .error e => (w, .error e)
  | .fail => (w, .error fault)
  | .lost =>
      match exec s w with
      | .ok (w', _) => (w', .error fault)
      | .error e => (w, .error e)

/-- A statement changes nothing and reports an error, or it takes effect. -/
theorem attempt_cases {S : Type} {R : S → Type} {E σ : Type}
    {exec : (s : S) → σ → Except E (σ × R s)} {fault : E}
    {s : S} {o : Outcome} {w : σ}
    {motive : σ × Except E (R s) → Prop}
    (herror : ∀ e, motive (w, .error e))
    (hok : ∀ w' r, o ≠ .fail → exec s w = .ok (w', r) →
      motive (w', .ok r) ∧ motive (w', .error fault)) :
    motive (attempt exec fault s o w) := by
  cases o with
  | fail =>
      exact herror fault
  | ok =>
      cases h : exec s w with
      | error e =>
          simpa only [attempt, h] using herror e
      | ok wr =>
          simpa only [attempt, h] using (hok wr.1 wr.2 (by simp) h).1
  | lost =>
      cases h : exec s w with
      | error e =>
          simpa only [attempt, h] using herror e
      | ok wr =>
          simpa only [attempt, h] using (hok wr.1 wr.2 (by simp) h).2

/-- What every statement that takes effect does, an attempt does. -/
theorem attempt_of_exec {S : Type} {R : S → Type} {E σ : Type}
    {exec : (s : S) → σ → Except E (σ × R s)} {fault : E}
    {P : σ → σ → Prop}
    (hrefl : ∀ w, P w w)
    {s : S} {w : σ}
    (hexec : ∀ w' r, exec s w = .ok (w', r) → P w w')
    (o : Outcome) :
    P w (attempt exec fault s o w).1 :=
  attempt_cases (motive := fun x => P w x.1) (fun _ => hrefl w)
    (fun w' r _ h => ⟨hexec w' r h, hexec w' r h⟩)

/-- A statement that can be executed and does not fail takes effect. -/
theorem attempt_fst {S : Type} {R : S → Type} {E σ : Type}
    {exec : (s : S) → σ → Except E (σ × R s)} {fault : E}
    {s : S} {o : Outcome} {w w' : σ} {r : R s}
    (ho : o ≠ .fail)
    (h : exec s w = .ok (w', r)) :
    (attempt exec fault s o w).1 = w' := by
  cases o with
  | ok =>
      simp only [attempt, h]
  | fail =>
      exact absurd rfl ho
  | lost =>
      simp only [attempt, h]

/--
A reflexive property of the states before and after a statement is the same as a
guard `G` if it is so for the statements that take effect and the others meet the
guard.
-/
theorem attempt_iff {S : Type} {R : S → Type} {E σ : Type}
    {exec : (s : S) → σ → Except E (σ × R s)} {fault : E}
    {P : σ → σ → Prop} {G : σ → S → Outcome → Prop}
    (hrefl : ∀ w, P w w)
    (hfail : ∀ s w, G w s .fail)
    (herror : ∀ s o w e, exec s w = .error e → G w s o)
    (hok : ∀ s o w w' r, o ≠ .fail → exec s w = .ok (w', r) → (P w w' ↔ G w s o))
    (s : S) (o : Outcome) (w : σ) :
    P w (attempt exec fault s o w).1 ↔ G w s o := by
  by_cases ho : o = .fail
  · subst ho
    exact iff_of_true (hrefl w) (hfail s w)
  · cases h : exec s w with
    | error e =>
        refine iff_of_true ?_ (herror s o w e h)
        have : (attempt exec fault s o w).1 = w := by
          cases o <;> simp [attempt, h]
        rw [this]
        exact hrefl w
    | ok wr =>
        rw [attempt_fst ho h]
        exact hok s o w wr.1 wr.2 ho h

/-- What the statements and the environment do to the shared state. -/
structure System (S : Type) (R : S → Type) (E α σ A : Type) where
  /-- The effect and the answer of a statement. -/
  exec : (s : S) → σ → Except E (σ × R s)
  /-- The error of a statement that failed or whose answer was lost. -/
  fault : E
  /-- The result of an abandoned statement. -/
  idle : α
  /-- A step of the environment, which may start a handler. -/
  env : A → σ → Option (σ × Option (Program S R E α))

/-- The shared state and the handlers under way. -/
structure Config (S : Type) (R : S → Type) (E α σ : Type) where
  world : σ
  threads : List (Program S R E α)

/-- A step of the environment, or the next step of handler `i`. -/
inductive Action (A : Type)
  | env (a : A)
  | run (i j : Nat) (o : Outcome)

/-- The handler that takes the step. -/
def Action.thread {A : Type} : Action A → Option Nat
  | .env _ => none
  | .run i _ _ => some i

namespace System

variable {S : Type} {R : S → Type} {E α σ A : Type}
variable (sys : System S R E α σ A)

/-- One step of a handler: the state, what is left of it, what it abandoned. -/
def advance (j : Nat) (o : Outcome) (w : σ) :
    Program S R E α →
    Option (σ × Program S R E α × List (Program S R E α))
  | .ret _ => none
  | .raise _ => none
  | .call s k =>
      some ((attempt sys.exec sys.fault s o w).1,
        k (attempt sys.exec sys.fault s o w).2, [])
  | .pick n k =>
      if h : j < n then some (w, k ⟨j, h⟩, []) else none
  | .leave s p =>
      some (w, p, [.call s (fun _ => .ret sys.idle)])

/-- One action of a configuration. -/
def step (c : Config S R E α σ) : Action A → Option (Config S R E α σ)
  | .env a =>
      match sys.env a c.world with
      | none => none
      | some (w, p) => some ⟨w, c.threads ++ p.toList⟩
  | .run i j o =>
      match c.threads[i]? with
      | none => none
      | some p =>
          match sys.advance j o c.world p with
          | none => none
          | some (w, p', left) => some ⟨w, c.threads.set i p' ++ left⟩

/-- The statement that handler `i` is about to execute. -/
def nextStatement (c : Config S R E α σ) (i : Nat) : Option S :=
  match c.threads[i]? with
  | some (.call s _) => some s
  | _ => none

/-- A condition on environment steps and on statements, as one on actions. -/
def Conforms
    (envGuard : σ → A → Prop)
    (guard : σ → S → Outcome → Prop)
    (c : Config S R E α σ) : Action A → Prop
  | .env a => envGuard c.world a
  | .run i _ o =>
      match System.nextStatement c i with
      | some s => guard c.world s o
      | none => True

instance
    (envGuard : σ → A → Prop) [∀ w a, Decidable (envGuard w a)]
    (guard : σ → S → Outcome → Prop) [∀ w s o, Decidable (guard w s o)]
    (c : Config S R E α σ) (a : Action A) :
    Decidable (System.Conforms envGuard guard c a) := by
  unfold System.Conforms
  cases a with
  | env a =>
      infer_instance
  | run i j o =>
      dsimp only
      cases System.nextStatement c i <;> infer_instance

/-- Guards that agree on every statement agree on every action of a run. -/
theorem meets_conforms_congr
    {step : Config S R E α σ → Action A → Option (Config S R E α σ)}
    {envGuard : σ → A → Prop} {guard guard' : σ → S → Outcome → Prop}
    (h : ∀ w s o, guard w s o ↔ guard' w s o)
    (c : Config S R E α σ) (as : List (Action A)) :
    Meets step (System.Conforms envGuard guard) c as ↔
      Meets step (System.Conforms envGuard guard') c as := by
  have : guard = guard' := by
    funext w s o
    exact propext (h w s o)
  rw [this]

/-- A step of a handler executes its next statement or leaves the state alone. -/
theorem step_run_world
    {c c' : Config S R E α σ} {i j : Nat} {o : Outcome}
    (h : sys.step c (.run i j o) = some c') :
    (∃ s, System.nextStatement c i = some s ∧
      c'.world = (attempt sys.exec sys.fault s o c.world).1) ∨
    System.nextStatement c i = none ∧ c'.world = c.world := by
  simp only [System.step] at h
  cases hi : c.threads[i]? with
  | none =>
      simp [hi] at h
  | some p =>
      simp only [hi] at h
      cases p with
      | ret a =>
          simp [System.advance] at h
      | raise e =>
          simp [System.advance] at h
      | call s k =>
          simp only [System.advance, Option.some.injEq] at h
          subst h
          exact .inl ⟨s, by simp [System.nextStatement, hi], rfl⟩
      | pick n k =>
          by_cases hlt : j < n
          · simp only [System.advance, hlt, dite_true, Option.some.injEq] at h
            subst h
            exact .inr ⟨by simp [System.nextStatement, hi], rfl⟩
          · simp [System.advance, hlt] at h
      | leave s p =>
          simp only [System.advance, Option.some.injEq] at h
          subst h
          exact .inr ⟨by simp [System.nextStatement, hi], rfl⟩

/-- The steps of others leave a handler as it is. -/
theorem step_other
    {c c' : Config S R E α σ} {a : Action A} {i : Nat} {p : Program S R E α}
    (hi : c.threads[i]? = some p)
    (ha : a.thread ≠ some i)
    (h : sys.step c a = some c') :
    c'.threads[i]? = some p := by
  have hlt : i < c.threads.length := (List.getElem?_eq_some_iff.mp hi).1
  cases a with
  | env a =>
      simp only [System.step] at h
      split at h
      · cases h
      · cases h
        rw [List.getElem?_append_left hlt, hi]
  | run k j o =>
      have hk : k ≠ i := fun hk => ha (congrArg some hk)
      simp only [System.step] at h
      split at h
      · cases h
      · split at h
        · cases h
        · cases h
          rw [List.getElem?_append_left (by simpa using hlt), List.getElem?_set_ne hk, hi]

theorem runs_other
    {c c' : Config S R E α σ} {as : List (Action A)} {i : Nat} {p : Program S R E α}
    (hi : c.threads[i]? = some p)
    (has : ∀ a, a ∈ as → a.thread ≠ some i)
    (h : runs sys.step c as = some c') :
    c'.threads[i]? = some p :=
  runs_invariant (I := fun d => d.threads[i]? = some p)
    (G := fun _ a => a.thread ≠ some i) (fun _ _ _ hd ha hstep => step_other sys hd ha hstep)
    hi (Meets.of_forall_mem fun a ha _ => has a ha) h

/-- The step of a handler at a statement. -/
theorem step_call
    {c c' : Config S R E α σ} {i j : Nat} {o : Outcome} {s : S}
    {k : Except E (R s) → Program S R E α}
    (hi : c.threads[i]? = some (.call s k))
    (h : sys.step c (.run i j o) = some c') :
    c'.world = (attempt sys.exec sys.fault s o c.world).1 ∧
      c'.threads[i]? = some (k (attempt sys.exec sys.fault s o c.world).2) := by
  have hlt : i < c.threads.length := (List.getElem?_eq_some_iff.mp hi).1
  simp only [System.step, hi, System.advance, Option.some.injEq, List.append_nil] at h
  subst h
  exact ⟨rfl, List.getElem?_set_self hlt⟩

/-- A handler whose next step is a statement can take it, whatever the outcome. -/
theorem step_of_nextStatement
    {c : Config S R E α σ} {i : Nat} {s : S}
    (h : System.nextStatement c i = some s) (j : Nat) (o : Outcome) :
    ∃ c', sys.step c (.run i j o) = some c' ∧
      c'.world = (attempt sys.exec sys.fault s o c.world).1 := by
  unfold System.nextStatement at h
  split at h
  · rename_i s' k hi
    cases h
    refine ⟨⟨(attempt sys.exec sys.fault s o c.world).1,
      c.threads.set i (k (attempt sys.exec sys.fault s o c.world).2) ++ []⟩, ?_, rfl⟩
    simp only [System.step, hi, System.advance]
  · cases h

/-- A step of the environment changes the state as `env` says. -/
theorem step_env_world
    {c c' : Config S R E α σ} {a : A}
    (h : sys.step c (.env a) = some c') :
    ∃ p, sys.env a c.world = some (c'.world, p) := by
  simp only [System.step] at h
  cases ha : sys.env a c.world with
  | none =>
      simp [ha] at h
  | some wp =>
      simp only [ha, Option.some.injEq] at h
      subst h
      exact ⟨wp.2, rfl⟩

/-! ### Properties of single steps -/

/-- What the environment and every statement do, every step does. -/
theorem step_world
    {P : σ → σ → Prop}
    (hrefl : ∀ w, P w w)
    (henv : ∀ a w w' p, sys.env a w = some (w', p) → P w w')
    (hexec : ∀ s w w' r, sys.exec s w = .ok (w', r) → P w w')
    {c c' : Config S R E α σ} {a : Action A}
    (h : sys.step c a = some c') :
    P c.world c'.world := by
  cases a with
  | env a =>
      obtain ⟨p, hp⟩ := System.step_env_world sys h
      exact henv _ _ _ _ hp
  | run i j o =>
      rcases System.step_run_world sys h with ⟨s, -, hw⟩ | ⟨-, hw⟩
      · rw [hw]
        exact attempt_of_exec hrefl (fun w' r => hexec s c.world w' r) o
      · rw [hw]
        exact hrefl _

/-- The action changes the state as `P` allows. -/
def Respects (P : σ → σ → Prop) (c : Config S R E α σ) (a : Action A) : Prop :=
  ∀ c', sys.step c a = some c' → P c.world c'.world

/--
Where `P` is the same as a guard for every statement and the environment always
respects it, an action respects `P` exactly if it meets the guard.
-/
theorem respects_iff
    {P : σ → σ → Prop} {guard : σ → S → Outcome → Prop}
    (hrefl : ∀ w, P w w)
    (henv : ∀ a w w' p, sys.env a w = some (w', p) → P w w')
    (hstatement : ∀ s o w,
      P w (attempt sys.exec sys.fault s o w).1 ↔ guard w s o)
    (c : Config S R E α σ) (a : Action A) :
    System.Respects sys P c a ↔ System.Conforms (fun _ _ => True) guard c a := by
  cases a with
  | env a =>
      refine iff_of_true (fun c' h => ?_) trivial
      obtain ⟨p, hp⟩ := System.step_env_world sys h
      exact henv _ _ _ _ hp
  | run i j o =>
      cases hs : System.nextStatement c i with
      | none =>
          refine iff_of_true (fun c' h => ?_) (by simp only [System.Conforms, hs])
          rcases System.step_run_world sys h with ⟨s, hs', -⟩ | ⟨-, hw⟩
          · rw [hs] at hs'
            cases hs'
          · rw [hw]
            exact hrefl _
      | some s =>
          obtain ⟨c', hc', hw⟩ := System.step_of_nextStatement sys hs j o
          simp only [System.Conforms, hs, ← hstatement s o c.world]
          constructor
          · intro h
            have := h c' hc'
            rwa [hw] at this
          · intro h c'' hc''
            rw [hc', Option.some.injEq] at hc''
            subst hc''
            rwa [hw]

/-- The same for all the actions of a run. -/
theorem meets_respects_iff
    {P : σ → σ → Prop} {guard : σ → S → Outcome → Prop}
    (hrefl : ∀ w, P w w)
    (henv : ∀ a w w' p, sys.env a w = some (w', p) → P w w')
    (hstatement : ∀ s o w,
      P w (attempt sys.exec sys.fault s o w).1 ↔ guard w s o)
    (c : Config S R E α σ) (as : List (Action A)) :
    Meets sys.step (System.Respects sys P) c as ↔
      Meets sys.step (System.Conforms (fun _ _ => True) guard) c as :=
  ⟨Meets.mono fun d a => (respects_iff sys hrefl henv hstatement d a).mp,
    Meets.mono fun d a => (respects_iff sys hrefl henv hstatement d a).mpr⟩

/--
Where a statement keeps `I` exactly if it meets the guard, and the environment
always does, `I` lasts along a run exactly if the run meets the guard.
-/
theorem meets_invariant_iff
    {I : σ → Prop} {guard : σ → S → Outcome → Prop}
    (henv : ∀ a w w' p, I w → sys.env a w = some (w', p) → I w')
    (hstatement : ∀ s o w, I w →
      (I (attempt sys.exec sys.fault s o w).1 ↔ guard w s o))
    {c : Config S R E α σ} (as : List (Action A))
    (hc : I c.world) :
    Meets sys.step (System.Respects sys fun _ w' => I w') c as ↔
      Meets sys.step (System.Conforms (fun _ _ => True) guard) c as := by
  refine meets_iff_of_invariant (I := fun d => I d.world) ?_
    (fun _ _ d' _ hA hstep => hA d' hstep) hc
  intro d a hd
  have hiff : System.Respects sys (fun w w' => I w → I w') d a ↔
      System.Conforms (fun _ _ => True) (fun w s o => I w → guard w s o) d a :=
    respects_iff sys (fun _ h => h) (fun a w w' p h hw => henv a w w' p hw h)
      (fun s o w => imp_congr_right fun hw => hstatement s o w hw) d a
  have hkeeps : System.Respects sys (fun _ w' => I w') d a ↔
      System.Respects sys (fun w w' => I w → I w') d a :=
    ⟨fun h d' hd' _ => h d' hd', fun h d' hd' => h d' hd' hd⟩
  rw [hkeeps, hiff]
  cases a with
  | env a =>
      exact Iff.rfl
  | run i j o =>
      simp only [System.Conforms]
      cases System.nextStatement d i with
      | none =>
          exact Iff.rfl
      | some s =>
          exact ⟨fun h => h hd, fun h _ => h⟩

/-- An action that conforms respects what the statements and the environment respect. -/
theorem respects_of_conforms
    {P : σ → σ → Prop} {envGuard : σ → A → Prop} {guard : σ → S → Outcome → Prop}
    {c : Config S R E α σ} {a : Action A}
    (hrefl : ∀ w, P w w)
    (henv : ∀ a w' p, envGuard c.world a → sys.env a c.world = some (w', p) → P c.world w')
    (hexec : ∀ s o w' r, guard c.world s o → o ≠ .fail → sys.exec s c.world = .ok (w', r) →
      P c.world w')
    (h : System.Conforms envGuard guard c a) :
    System.Respects sys P c a := by
  intro c' hstep
  cases a with
  | env a =>
      obtain ⟨p, hp⟩ := System.step_env_world sys hstep
      exact henv _ _ _ h hp
  | run i j o =>
      rcases System.step_run_world sys hstep with ⟨s, hs, hw⟩ | ⟨-, hw⟩
      · rw [hw]
        simp only [System.Conforms, hs] at h
        exact attempt_cases (motive := fun x => P c.world x.1) (fun _ => hrefl _)
          fun w' r ho hok => ⟨hexec s o w' r h ho hok, hexec s o w' r h ho hok⟩
      · rw [hw]
        exact hrefl _

/-- What `P` carries from a state to the next is carried along a run. -/
theorem respects_runs
    {P : σ → σ → Prop} {I : σ → Prop}
    (hI : ∀ w w', I w → P w w' → I w')
    {c c' : Config S R E α σ} {as : List (Action A)}
    (hc : I c.world)
    (hmeets : Meets sys.step (System.Respects sys P) c as)
    (hrun : runs sys.step c as = some c') :
    I c'.world :=
  runs_invariant (I := fun d => I d.world)
    (fun _ _ d' hd hP hstep => hI _ _ hd (hP d' hstep)) hc hmeets hrun

/-- What the statements and the environment keep where they meet the guards. -/
theorem conforms_runs
    {I : σ → Prop} {envGuard : σ → A → Prop} {guard : σ → S → Outcome → Prop}
    (henv : ∀ a w w' p, I w → envGuard w a → sys.env a w = some (w', p) → I w')
    (hexec : ∀ s o w w' r, I w → guard w s o → o ≠ .fail → sys.exec s w = .ok (w', r) → I w')
    {c c' : Config S R E α σ} {as : List (Action A)}
    (hc : I c.world)
    (hmeets : Meets sys.step (System.Conforms envGuard guard) c as)
    (hrun : runs sys.step c as = some c') :
    I c'.world := by
  refine runs_invariant (I := fun d => I d.world) ?_ hc hmeets hrun
  intro d a d' hd hg hstep
  exact respects_of_conforms sys (P := fun w w' => I w → I w') (fun _ h => h)
    (fun a w' p hg hp hw => henv a d.world w' p hw hg hp)
    (fun s o w' r hg ho hok hw => hexec s o d.world w' r hw hg ho hok) hg d' hstep hd

/-- Nothing is asked of a run. -/
theorem meets_conforms_true (c : Config S R E α σ) (as : List (Action A)) :
    Meets sys.step (System.Conforms (fun _ _ => True) fun _ _ _ => True) c as := by
  refine Meets.of_forall_mem fun a _ d => ?_
  cases a with
  | env a =>
      trivial
  | run i j o =>
      simp only [System.Conforms]
      split <;> trivial

/-- What every statement and the environment keep is kept along every run. -/
theorem invariant_runs
    {I : σ → Prop}
    (henv : ∀ a w w' p, I w → sys.env a w = some (w', p) → I w')
    (hexec : ∀ s w w' r, I w → sys.exec s w = .ok (w', r) → I w')
    {c c' : Config S R E α σ} {as : List (Action A)}
    (hc : I c.world)
    (hrun : runs sys.step c as = some c') :
    I c'.world := by
  exact conforms_runs sys (fun a w w' p hw _ => henv a w w' p hw)
    (fun s _ w w' r hw _ _ => hexec s w w' r hw) hc (meets_conforms_true sys c as) hrun

end System

namespace Program

variable {S : Type} {R : S → Type} {E α : Type}

/-- The handler has returned or thrown. -/
def finished : Program S R E α → Bool
  | ret _ => true
  | raise _ => true
  | _ => false

end Program

/-- No handler is under way. -/
def Config.quiet {S : Type} {R : S → Type} {E α σ : Type}
    (c : Config S R E α σ) : Bool :=
  c.threads.all Program.finished

section Alone

variable {S : Type} {R : S → Type} {E α β σ A : Type}

/--
The handler by itself, without failures: statements that may run in any order run
in the order in which they were sent.
-/
def Program.alone
    (exec : (s : S) → σ → Except E (σ × R s))
    (fault : E) :
    Program S R E α → σ → Option (σ × Except E α)
  | .ret a, w => some (w, .ok a)
  | .raise e, w => some (w, .error e)
  | .call s k, w =>
      (k (attempt exec fault s .ok w).2).alone exec fault
        (attempt exec fault s .ok w).1
  | .pick n k, w =>
      if h : 0 < n then (k ⟨0, h⟩).alone exec fault w else none
  | .leave s p, w => p.alone exec fault (attempt exec fault s .ok w).1

/-- A handler that has ended. -/
def Program.ended : Except E α → Program S R E α
  | .ok a => .ret a
  | .error e => .raise e

/-- What a handler has returned. -/
def Program.answer : Program S R E α → Option α
  | .ret a => some a
  | _ => none

theorem bind_answer_eq_some_iff {x : Option (Program S R E α)} {a : α} :
    x.bind Program.answer = some a ↔ x = some (.ret a) := by
  rcases x with _ | p
  · simp
  · cases p <;> simp [Program.answer]

variable {exec : (s : S) → σ → Except E (σ × R s)} {fault : E}

theorem alone_bind
    (p : Program S R E α)
    (f : α → Program S R E β)
    (w : σ) :
    (p.bind f).alone exec fault w =
      (p.alone exec fault w).bind fun x =>
        match x.2 with
        | .ok a => (f a).alone exec fault x.1
        | .error e => some (x.1, .error e) := by
  induction p generalizing w with
  | ret a =>
      rfl
  | raise e =>
      rfl
  | call s k ih =>
      exact ih _ _
  | pick n k ih =>
      simp only [Program.bind_pick, Program.alone]
      split
      · exact ih _ _
      · rfl
  | leave s p ih =>
      exact ih _

theorem alone_tryCatch
    (p : Program S R E α)
    (f : E → Program S R E α)
    (w : σ) :
    (p.tryCatch f).alone exec fault w =
      (p.alone exec fault w).bind fun x =>
        match x.2 with
        | .ok a => some (x.1, .ok a)
        | .error e => (f e).alone exec fault x.1 := by
  induction p generalizing w with
  | ret a =>
      rfl
  | raise e =>
      rfl
  | call s k ih =>
      exact ih _ _
  | pick n k ih =>
      simp only [Program.tryCatch, Program.alone]
      split
      · exact ih _ _
      · rfl
  | leave s p ih =>
      exact ih _

theorem alone_await_ok
    {s : S} {w w' : σ} {r : R s}
    (h : exec s w = .ok (w', r)) :
    (Program.await s).alone exec fault w = some (w', .ok r) := by
  simp only [Program.await, Program.alone, attempt, h, Program.resume]

theorem alone_await_error
    {s : S} {w : σ} {e : E}
    (h : exec s w = .error e) :
    (Program.await s).alone exec fault w = some (w, .error e) := by
  simp only [Program.await, Program.alone, attempt, h, Program.resume]

/-- A handler that throws in the end does not return. -/
theorem alone_bind_raise
    (p : Program S R E α) (e : E) (w w' : σ) (b : β) :
    (p.bind fun _ => (.raise e : Program S R E β)).alone exec fault w ≠
      some (w', .ok b) := by
  rw [alone_bind]
  cases p.alone exec fault w with
  | none =>
      simp
  | some x =>
      obtain ⟨v, x⟩ := x
      cases x <;> simp [Program.alone]

/-- What a handler does by itself is a run of the pool it is in. -/
theorem runs_of_alone
    (sys : System S R E α σ A)
    {p : Program S R E α} {w' : σ} {x : Except E α} {c : Config S R E α σ} {i : Nat}
    (hi : c.threads[i]? = some p)
    (h : p.alone sys.exec sys.fault c.world = some (w', x)) :
    ∃ as c', runs sys.step c as = some c' ∧ c'.world = w' ∧
      c'.threads[i]? = some (Program.ended x) := by
  have hset : ∀ (c : Config S R E α σ) p q left, c.threads[i]? = some p →
      (c.threads.set i q ++ left)[i]? = some q := by
    intro c p q left hi
    have hlt : i < c.threads.length := (List.getElem?_eq_some_iff.mp hi).1
    rw [List.getElem?_append_left (by simpa using hlt), List.getElem?_set_self hlt]
  induction p generalizing c with
  | ret a =>
      cases h
      exact ⟨[], c, rfl, rfl, hi⟩
  | raise e =>
      cases h
      exact ⟨[], c, rfl, rfl, hi⟩
  | call s k ih =>
      obtain ⟨as, c', has, hc'⟩ := ih _
        (c := ⟨_, c.threads.set i (k (attempt sys.exec sys.fault s .ok c.world).2) ++ []⟩)
        (hset c _ _ _ hi) h
      exact ⟨.run i 0 .ok :: as, c', by
        simpa [runs, System.step, System.advance, hi] using has, hc'⟩
  | pick n k ih =>
      simp only [Program.alone] at h
      split at h
      · rename_i hn
        obtain ⟨as, c', has, hc'⟩ := ih _
          (c := ⟨c.world, c.threads.set i (k ⟨0, hn⟩) ++ []⟩) (hset c _ _ _ hi) h
        exact ⟨.run i 0 .ok :: as, c', by
          simpa [runs, System.step, System.advance, hi, hn] using has, hc'⟩
      · cases h
  | leave s p ih =>
      -- the abandoned statement is the last handler; it runs first
      have hlt : i < c.threads.length := (List.getElem?_eq_some_iff.mp hi).1
      obtain ⟨as, c', has, hc'⟩ := ih
        (c := ⟨(attempt sys.exec sys.fault s .ok c.world).1,
          c.threads.set i p ++ [.ret sys.idle]⟩)
        (hset c _ _ _ hi) h
      refine ⟨.run i 0 .ok :: .run c.threads.length 0 .ok :: as, c', ?_, hc'⟩
      simpa [runs, System.step, System.advance, hi, List.getElem?_append_right,
        List.set_append_right] using has

end Alone

end Async
end BookStore
