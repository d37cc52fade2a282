import BookStore.Async.Logic

/-!
# Handlers that carry a value of their own

What a statement may be required to find can depend on what its own handler has
done before.  `p.carry next g` is the handler `p` in which every statement comes
with a value that the handler carries: at first `g`, then what `next` makes of it
with each answer.  No statement reads the value, it is an auxiliary variable.

* `carrying_runs`: a run of a system is a run of its carrying system, through the
  same states.
* `CarrySafe` and its rules: `Safe` for handlers that carry a value.

The guard of a logic for the carrying system sees the value next to the
statement.
-/

namespace BookStore
namespace Async

section Carry

variable {S : Type} {R : S → Type} {E α β σ A G : Type}

namespace Program

/-- The handler with the value that it carries at each of its statements. -/
def carry (next : G → (s : S) → Except E (R s) → G) :
    Program S R E α → G →
      Program (G × S) (fun s => R s.2) E (Except E α × G)
  | ret a, g => ret (.ok a, g)
  | raise e, g => ret (.error e, g)
  | call s k, g => call (g, s) fun x => (k x).carry next (next g s x)
  | pick n k, g => pick n fun j => (k j).carry next g
  | leave s p, g => leave (g, s) (p.carry next g)

variable {next : G → (s : S) → Except E (R s) → G}

theorem carry_bind
    (p : Program S R E α)
    (f : α → Program S R E β)
    (g : G) :
    (p.bind f).carry next g =
      (p.carry next g).bind fun y =>
        match y.1 with
        | .ok a => (f a).carry next y.2
        | .error e => ret (.error e, y.2) := by
  induction p generalizing g with
  | ret a =>
      rfl
  | raise e =>
      rfl
  | call s k ih =>
      simp only [bind_call, carry, ih]
  | pick n k ih =>
      simp only [bind_pick, carry, ih]
  | leave s p ih =>
      simp only [bind_leave, carry, ih]

theorem carry_tryCatch
    (p : Program S R E α)
    (f : E → Program S R E α)
    (g : G) :
    (p.tryCatch f).carry next g =
      (p.carry next g).bind fun y =>
        match y.1 with
        | .ok a => ret (.ok a, y.2)
        | .error e => (f e).carry next y.2 := by
  induction p generalizing g with
  | ret a =>
      rfl
  | raise e =>
      rfl
  | call s k ih =>
      simp only [tryCatch, carry, bind_call, ih]
  | pick n k ih =>
      simp only [tryCatch, carry, bind_pick, ih]
  | leave s p ih =>
      simp only [tryCatch, carry, bind_leave, ih]

/-- `q` sends what `p` sends, with values that it carries. -/
inductive Shadows :
    Program S R E α → Program (G × S) (fun s => R s.2) E β → Prop
  | ret (a : α) (b : β) : Shadows (.ret a) (.ret b)
  | raise (e : E) (b : β) : Shadows (.raise e) (.ret b)
  | call (s : S) (g : G) {k : Except E (R s) → Program S R E α}
      {k' : Except E (R s) → Program (G × S) (fun s => R s.2) E β}
      (h : ∀ x, Shadows (k x) (k' x)) :
      Shadows (.call s k) (.call (g, s) k')
  | pick (n : Nat) {k : Fin n → Program S R E α}
      {k' : Fin n → Program (G × S) (fun s => R s.2) E β}
      (h : ∀ j, Shadows (k j) (k' j)) :
      Shadows (.pick n k) (.pick n k')
  | leave (s : S) (g : G) {p : Program S R E α}
      {p' : Program (G × S) (fun s => R s.2) E β}
      (h : Shadows p p') :
      Shadows (.leave s p) (.leave (g, s) p')

theorem shadows_carry (p : Program S R E α) (g : G) :
    Shadows p (p.carry next g) := by
  induction p generalizing g with
  | ret a =>
      exact .ret a _
  | raise e =>
      exact .raise e _
  | call s k ih =>
      exact .call s g fun x => ih x _
  | pick n k ih =>
      exact .pick n fun j => ih j g
  | leave s p ih =>
      exact .leave s g (ih g)

theorem Shadows.finished
    {p : Program S R E α} {q : Program (G × S) (fun s => R s.2) E β}
    (h : Shadows p q) :
    q.finished = p.finished := by
  cases h <;> rfl

end Program

/--
The system whose handlers carry a value: `start` for the handler that a step of
the environment starts, `blank` for an abandoned statement once it has run.
-/
def System.carrying
    (sys : System S R E α σ A)
    (next : G → (s : S) → Except E (R s) → G)
    (start : A → σ → G)
    (blank : G) :
    System (G × S) (fun s => R s.2) E (Except E α × G) σ A where
  exec s := sys.exec s.2
  fault := sys.fault
  idle := (.ok sys.idle, blank)
  env a w := (sys.env a w).map fun x =>
    (x.1, x.2.map fun p => p.carry next (start a w))

/-- The same state, and handlers that shadow those of the first. -/
structure Config.Shadows
    (c : Config S R E α σ)
    (d : Config (G × S) (fun s => R s.2) E (Except E α × G) σ) : Prop where
  world : d.world = c.world
  threads : List.Forall₂ Program.Shadows c.threads d.threads

variable {sys : System S R E α σ A}
variable {next : G → (s : S) → Except E (R s) → G} {start : A → σ → G} {blank : G}

theorem Config.Shadows.quiet
    {c : Config S R E α σ}
    {d : Config (G × S) (fun s => R s.2) E (Except E α × G) σ}
    (h : c.Shadows d) :
    d.quiet = c.quiet := by
  have hthreads := h.threads
  simp only [Config.quiet]
  generalize c.threads = ps at hthreads
  generalize d.threads = qs at hthreads
  induction hthreads with
  | nil =>
      rfl
  | cons hpq _ ih =>
      simp only [List.all_cons, hpq.finished, ih]

/-- The value that comes with a statement has no part in what it does. -/
theorem attempt_carrying
    (exec : (s : S) → σ → Except E (σ × R s)) (fault : E)
    (g : G) (s : S) (o : Outcome) (w : σ) :
    attempt (R := fun s : G × S => R s.2) (fun s => exec s.2) fault (g, s) o w =
      attempt exec fault s o w := by
  cases h : exec s w <;> cases o <;> simp only [attempt, h]

theorem advance_shadows
    {p p' : Program S R E α}
    {q : Program (G × S) (fun s => R s.2) E (Except E α × G)}
    {j : Nat} {o : Outcome} {w w' : σ} {left : List (Program S R E α)}
    (hpq : Program.Shadows p q)
    (h : sys.advance j o w p = some (w', p', left)) :
    ∃ q' left', (sys.carrying next start blank).advance j o w q = some (w', q', left') ∧
      Program.Shadows p' q' ∧ List.Forall₂ Program.Shadows left left' := by
  cases hpq with
  | ret a b =>
      cases h
  | raise e b =>
      cases h
  | call s g hk =>
      cases h
      refine ⟨_, [], ?_, hk _, .nil⟩
      simp only [System.advance, System.carrying, attempt_carrying]
  | pick n hk =>
      simp only [System.advance] at h
      split at h
      · rename_i hj
        cases h
        exact ⟨_, [], by simp [System.advance, hj], hk _, .nil⟩
      · cases h
  | leave s g hp =>
      cases h
      exact ⟨_, _, rfl, hp, .cons (.call s g fun _ => .ret _ _) .nil⟩

/-- The partner of one entry, and how to replace both. -/
theorem forall₂_getElem?
    {β γ : Type} {T : β → γ → Prop} {l : List β} {ms : List γ} {i : Nat} {b : β}
    (h : List.Forall₂ T l ms)
    (hi : l[i]? = some b) :
    ∃ m, ms[i]? = some m ∧ T b m ∧
      ∀ b' m', T b' m' → List.Forall₂ T (l.set i b') (ms.set i m') := by
  induction h generalizing i with
  | nil =>
      simp at hi
  | cons hcm hrest ih =>
      cases i with
      | zero =>
          rw [List.getElem?_cons_zero, Option.some.injEq] at hi
          subst hi
          exact ⟨_, rfl, hcm, fun b' m' hb => .cons hb hrest⟩
      | succ i =>
          rw [List.getElem?_cons_succ] at hi
          obtain ⟨m, hm, hb, hset⟩ := ih hi
          exact ⟨m, hm, hb, fun b' m' hb' => .cons hcm (hset b' m' hb')⟩

/-- One step of the system is a step of the carrying system. -/
theorem step_shadows
    {c c' : Config S R E α σ}
    {d : Config (G × S) (fun s => R s.2) E (Except E α × G) σ} {a : Action A}
    (hcd : c.Shadows d)
    (h : sys.step c a = some c') :
    ∃ d', (sys.carrying next start blank).step d a = some d' ∧ c'.Shadows d' := by
  obtain ⟨w, qs⟩ := d
  obtain ⟨hw, hthreads⟩ := hcd
  dsimp only at hw hthreads
  subst hw
  cases a with
  | env a =>
      simp only [System.step] at h
      split at h
      · cases h
      · rename_i w' p ha
        cases h
        refine ⟨⟨w', qs ++ (p.map fun p => p.carry next (start a c.world)).toList⟩, ?_,
          rfl, List.rel_append hthreads ?_⟩
        · simp only [System.step, System.carrying, ha, Option.map_some]
        · cases p with
          | none =>
              exact .nil
          | some p =>
              exact .cons (Program.shadows_carry p _) .nil
  | run i j o =>
      simp only [System.step] at h
      split at h
      · cases h
      · rename_i p hi
        split at h
        · cases h
        · rename_i w' p' left hp
          cases h
          obtain ⟨q, hq, hpq, hset⟩ := forall₂_getElem? hthreads hi
          obtain ⟨q', left', hadvance, hpq', hleft⟩ : ∃ q' left',
              (sys.carrying next start blank).advance j o c.world q =
                some (w', q', left') ∧ _ ∧ _ :=
            advance_shadows hpq hp
          refine ⟨⟨w', qs.set i q' ++ left'⟩, ?_, rfl,
            List.rel_append (hset p' q' hpq') hleft⟩
          simp only [System.step, hq, hadvance]

/-- **Erasure.** A run of the system is a run of the carrying system. -/
theorem carrying_runs
    {c c' : Config S R E α σ}
    {d : Config (G × S) (fun s => R s.2) E (Except E α × G) σ} {as : List (Action A)}
    (hcd : c.Shadows d)
    (h : runs sys.step c as = some c') :
    ∃ d', runs (sys.carrying next start blank).step d as = some d' ∧ c'.Shadows d' := by
  induction as generalizing c d with
  | nil =>
      cases h
      exact ⟨d, rfl, hcd⟩
  | cons a as ih =>
      obtain ⟨u, hu, hrun⟩ := runs_cons.mp h
      obtain ⟨e, he, hue⟩ := step_shadows hcd hu
      obtain ⟨d', hd', hshadows⟩ := ih hue hrun
      exact ⟨d', runs_cons.mpr ⟨e, he, hd'⟩, hshadows⟩

/-- Without handlers there is nothing to carry. -/
theorem shadows_start (w : σ) :
    Config.Shadows (S := S) (R := R) (E := E) (α := α) (G := G) ⟨w, []⟩ ⟨w, []⟩ :=
  ⟨rfl, .nil⟩

end Carry

namespace Logic

section Carry

variable {S : Type} {R : S → Type} {E α β σ M G : Type}
variable [AddCommMonoid M]
variable (L : Logic (G × S) σ M)
variable (exec : (s : S) → σ → Except E (σ × R s)) (fault : E)
variable (next : G → (s : S) → Except E (R s) → G)

/-- What a carrying handler ends in: its result, and what it carries then. -/
def Carried (Q : Except E α → G → M → σ → Prop) :
    Except E (Except E α × G) → M → σ → Prop
  | .ok y, m, w => Q y.1 y.2 m w
  | .error _, _, _ => False

/-- `StatementSafe` for a statement of a handler that carries `g`. -/
abbrev CarryStatementSafe
    (s : S) (Q : Except E (R s) → M → σ → Prop) (g : G) : M → σ → Prop :=
  StatementSafe (R := fun s : G × S => R s.2) L (fun s => exec s.2) fault (g, s) Q

/-- The handler, carrying `g`, keeps the invariant and ends in `Q`. -/
def CarrySafe
    (Q : Except E α → G → M → σ → Prop)
    (p : Program S R E α) (g : G) : M → σ → Prop :=
  Safe L (fun s => exec s.2) fault (Carried Q) (p.carry next g)

variable {L exec fault next}

/-- The carried value only matters to the guard. -/
theorem CarryStatementSafe.of_attempt
    {s : S} {Q : Except E (R s) → M → σ → Prop} {g : G} {m : M} {w : σ}
    (h : ∀ v F o, L.rely w v → L.inv (m + F) v → L.guard v (g, s) o →
      ∃ m', L.inv (m' + F) (attempt exec fault s o v).1 ∧
        L.rely v (attempt exec fault s o v).1 ∧
        Q (attempt exec fault s o v).2 m' (attempt exec fault s o v).1) :
    CarryStatementSafe L exec fault s Q g m w := by
  intro v F o hwv hinv hguard
  rw [attempt_carrying]
  exact h v F o hwv hinv hguard

theorem CarrySafe.mono
    {Q Q' : Except E α → G → M → σ → Prop}
    {p : Program S R E α} {g : G} {m : M} {w : σ}
    (h : CarrySafe L exec fault next Q p g m w)
    (himp : ∀ x g m' v, L.rely w v → Q x g m' v → Q' x g m' v) :
    CarrySafe L exec fault next Q' p g m w := by
  refine Safe.mono h fun x m' v hwv hx => ?_
  cases x with
  | ok y =>
      exact himp _ _ _ _ hwv hx
  | error e =>
      exact hx

theorem CarrySafe.bind
    {Q : Except E β → G → M → σ → Prop}
    {p : Program S R E α} {f : α → Program S R E β} {g : G} {m : M} {w : σ}
    (h : CarrySafe L exec fault next
      (fun x g m' v =>
        match x with
        | .ok a => CarrySafe L exec fault next Q (f a) g m' v
        | .error e => ∀ v', L.rely v v' → Q (.error e) g m' v') p g m w) :
    CarrySafe L exec fault next Q (p.bind f) g m w := by
  unfold CarrySafe
  rw [Program.carry_bind]
  refine Safe.bind (Safe.mono h fun x m' v _ hx => ?_)
  rcases x with e | ⟨x, g'⟩
  · exact hx
  · cases x <;> exact hx

theorem CarrySafe.tryCatch
    {Q : Except E α → G → M → σ → Prop}
    {p : Program S R E α} {f : E → Program S R E α} {g : G} {m : M} {w : σ}
    (h : CarrySafe L exec fault next
      (fun x g m' v =>
        match x with
        | .ok a => ∀ v', L.rely v v' → Q (.ok a) g m' v'
        | .error e => CarrySafe L exec fault next Q (f e) g m' v) p g m w) :
    CarrySafe L exec fault next Q (p.tryCatch f) g m w := by
  unfold CarrySafe
  rw [Program.carry_tryCatch]
  refine Safe.bind (Safe.mono h fun x m' v _ hx => ?_)
  rcases x with e | ⟨x, g'⟩
  · exact hx
  · cases x <;> exact hx

theorem CarrySafe.call
    {s : S} {k : Except E (R s) → Program S R E α} {Q : Except E α → G → M → σ → Prop}
    {g : G} {m : M} {w : σ}
    (h : CarryStatementSafe L exec fault s
      (fun x m' v => CarrySafe L exec fault next Q (k x) (next g s x) m' v) g m w) :
    CarrySafe L exec fault next Q (Program.call s k) g m w := h

/-- An awaited statement whose answer describes the state it was given in. -/
theorem CarrySafe.call_resume
    {s : S} {f : R s → Program S R E β} {Q : Except E β → G → M → σ → Prop}
    {g : G} {m : M} {w : σ}
    (h : CarryStatementSafe L exec fault s
      (fun x m' v =>
        match x with
        | .ok r => CarrySafe L exec fault next Q (f r) (next g s x) m' v
        | .error e => ∀ v', L.rely v v' → Q (.error e) (next g s x) m' v') g m w) :
    CarrySafe L exec fault next Q (Program.call s (Program.resume f)) g m w := by
  refine CarrySafe.call (StatementSafe.mono (L := L) h ?_)
  intro x m' v _ hx
  cases x with
  | ok r =>
      exact hx
  | error e =>
      exact hx

theorem CarrySafe.await_bind
    {s : S} {f : R s → Program S R E β} {Q : Except E β → G → M → σ → Prop}
    {g : G} {m : M} {w : σ}
    (h : CarryStatementSafe L exec fault s
      (fun x m' v =>
        match x with
        | .ok r => CarrySafe L exec fault next Q (f r) (next g s x) m' v
        | .error e => ∀ v', L.rely v v' → Q (.error e) (next g s x) m' v') g m w) :
    CarrySafe L exec fault next Q ((Program.await s).bind f) g m w := by
  rw [Program.bind_await]
  exact CarrySafe.call_resume h

/-- A program of harmless statements that leave the carried value as it is. -/
theorem CarrySafe.of_all
    {K : σ → Prop} {Q : Except E α → G → M → σ → Prop}
    {p : Program S R E α} {g : G} {m : M} {w : σ}
    (hK : ∀ v v', K v → L.rely v v' → K v')
    (hall : p.All fun s =>
      Harmless (R := fun s : G × S => R s.2) L (fun s => exec s.2) fault K (g, s) ∧
        ∀ x, next g s x = g)
    (hdone : L.done 0)
    (hQ : ∀ x v, K v → Q x g m v)
    (hw : K w) :
    CarrySafe L exec fault next Q p g m w := by
  induction p generalizing w with
  | ret a =>
      exact fun v hwv => hQ _ v (hK _ _ hw hwv)
  | raise e =>
      exact fun v hwv => hQ _ v (hK _ _ hw hwv)
  | call s k ih =>
      refine CarrySafe.call
        (hall.1.1.statementSafe (fun v hwv => hK _ _ hw hwv) fun x v hwv => ?_)
      rw [hall.1.2]
      exact ih x (hall.2 x) (hK _ _ hw hwv)
  | pick n k ih =>
      exact fun j => ih j (hall j) hw
  | leave s p ih =>
      refine ⟨0, m, (zero_add m).symm, ?_, ih hall.2 hw⟩
      exact hall.1.1.statementSafe (fun v hwv => hK _ _ hw hwv) (fun _ _ _ => hdone)

end Carry

end Logic

end Async
end BookStore
