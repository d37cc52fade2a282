import BookStore.Async.Pool

/-!
# What a handler has seen when it sends a statement

`Logic` speaks of the shared state; here the subject is one handler.  `Sends` says
that each statement of a handler meets a condition when it is sent, where the
handler may rely on what it was answered before and on what the steps of all
handlers keep.

* `Promise` collects the conditions; a `guard` is what may be assumed of the
  statements of the handler at hand, for instance that they were really sent.
* `sends_step` carries `Sends` along one step of a pool.
* `Sent` and `meets_occurs` speak of the run in which a statement was sent.
-/

namespace BookStore
namespace Async

/-- What a handler relies on and what its statements have to meet. -/
structure Promise (S σ : Type) where
  rely : σ → σ → Prop
  rely_refl : ∀ w, rely w w
  rely_trans : ∀ u v w, rely u v → rely v w → rely u w
  /-- What every statement meets when it is sent. -/
  sends : σ → S → Prop

section Sends

variable {S : Type} {R : S → Type} {E σ α β : Type}
variable (P : Promise S σ) (guard : σ → S → Outcome → Prop)
variable (exec : (s : S) → σ → Except E (σ × R s)) (fault : E)

/-- The handler, whose statements meet the guard, keeps its promise and ends in `Q`. -/
def Sends (Q : Except E α → σ → Prop) : Program S R E α → σ → Prop
  | .ret a, w => ∀ v, P.rely w v → Q (.ok a) v
  | .raise e, w => ∀ v, P.rely w v → Q (.error e) v
  | .call s k, w =>
      ∀ v, P.rely w v → P.sends v s ∧ ∀ o, guard v s o →
        Sends Q (k (attempt exec fault s o v).2) (attempt exec fault s o v).1
  | .pick _ k, w => ∀ j, Sends Q (k j) w
  | .leave s p, w => (∀ v, P.rely w v → P.sends v s) ∧ Sends Q p w

variable {P guard exec fault}

theorem Sends.of_rely
    {Q : Except E α → σ → Prop} {p : Program S R E α} {w v : σ}
    (h : Sends P guard exec fault Q p w)
    (hwv : P.rely w v) :
    Sends P guard exec fault Q p v := by
  induction p with
  | ret a =>
      exact fun u hvu => h u (P.rely_trans _ _ _ hwv hvu)
  | raise e =>
      exact fun u hvu => h u (P.rely_trans _ _ _ hwv hvu)
  | call s k _ =>
      exact fun u hvu => h u (P.rely_trans _ _ _ hwv hvu)
  | pick n k ih =>
      exact fun j => ih j (h j)
  | leave s p ih =>
      exact ⟨fun u hvu => h.1 u (P.rely_trans _ _ _ hwv hvu), ih h.2⟩

theorem Sends.mono
    {Q Q' : Except E α → σ → Prop} {p : Program S R E α} {w : σ}
    (himp : ∀ x v, Q x v → Q' x v)
    (h : Sends P guard exec fault Q p w) :
    Sends P guard exec fault Q' p w := by
  induction p generalizing w with
  | ret a =>
      exact fun v hwv => himp _ v (h v hwv)
  | raise e =>
      exact fun v hwv => himp _ v (h v hwv)
  | call s k ih =>
      exact fun v hwv => ⟨(h v hwv).1, fun o ho => ih _ ((h v hwv).2 o ho)⟩
  | pick n k ih =>
      exact fun j => ih j (h j)
  | leave s p ih =>
      exact ⟨h.1, ih h.2⟩

/-- Sequencing: what follows starts from what the first part ends in. -/
theorem Sends.bind
    {Q : Except E β → σ → Prop} {p : Program S R E α} {f : α → Program S R E β} {w : σ}
    (h : Sends P guard exec fault
      (fun x v =>
        match x with
        | .ok a => Sends P guard exec fault Q (f a) v
        | .error e => Q (.error e) v) p w) :
    Sends P guard exec fault Q (p.bind f) w := by
  induction p generalizing w with
  | ret a =>
      exact h w (P.rely_refl w)
  | raise e =>
      exact h
  | call s k ih =>
      exact fun v hwv => ⟨(h v hwv).1, fun o ho => ih _ ((h v hwv).2 o ho)⟩
  | pick n k ih =>
      exact fun j => ih j (h j)
  | leave s p ih =>
      exact ⟨h.1, ih h.2⟩

/-- An awaited statement and what follows its answer. -/
theorem Sends.await_bind
    {Q : Except E β → σ → Prop} {s : S} {f : R s → Program S R E β} {w : σ}
    (hsends : ∀ v, P.rely w v → P.sends v s)
    (herror : ∀ e v, Q (.error e) v)
    (hok : ∀ v o v' r, P.rely w v → guard v s o → o ≠ .fail →
      exec s v = .ok (v', r) → Sends P guard exec fault Q (f r) v') :
    Sends P guard exec fault Q ((Program.await s).bind f) w := by
  rw [Program.bind_await]
  refine fun v hwv => ⟨hsends v hwv, fun o hg => ?_⟩
  refine attempt_cases (motive := fun x =>
    Sends P guard exec fault Q (Program.resume f x.2) x.1) ?_ ?_
  · exact fun e u _ => herror e u
  · exact fun v' r ho h => ⟨hok v o v' r hwv hg ho h, fun u _ => herror fault u⟩

/-- `try`/`catch`: the handler of the error starts from where it was thrown. -/
theorem Sends.tryCatch
    {Q : Except E α → σ → Prop} {p : Program S R E α} {f : E → Program S R E α} {w : σ}
    (h : Sends P guard exec fault
      (fun x v =>
        match x with
        | .ok a => Q (.ok a) v
        | .error e => Sends P guard exec fault Q (f e) v) p w) :
    Sends P guard exec fault Q (p.tryCatch f) w := by
  induction p generalizing w with
  | ret a =>
      exact h
  | raise e =>
      exact h w (P.rely_refl w)
  | call s k ih =>
      exact fun v hwv => ⟨(h v hwv).1, fun o ho => ih _ ((h v hwv).2 o ho)⟩
  | pick n k ih =>
      exact fun j => ih j (h j)
  | leave s p ih =>
      exact ⟨h.1, ih h.2⟩

/-- An awaited statement with which a handler ends. -/
theorem Sends.await
    {s : S} {Q : Except E (R s) → σ → Prop} {w : σ}
    (hsends : ∀ v, P.rely w v → P.sends v s)
    (hQ : ∀ x v, Q x v) :
    Sends P guard exec fault Q (Program.await s) w := by
  refine fun v hwv => ⟨hsends v hwv, fun o _ => ?_⟩
  cases (attempt exec fault s o v).2 with
  | ok r =>
      exact fun u _ => hQ _ u
  | error e =>
      exact fun u _ => hQ _ u

/-- A program of statements that need no more than what lasts. -/
theorem Sends.of_all
    {K : σ → Prop} {Q : Except E α → σ → Prop} {p : Program S R E α} {w : σ}
    (hK : ∀ v v', K v → P.rely v v' → K v')
    (hstep : ∀ s v o, P.rely v (attempt exec fault s o v).1)
    (hall : p.All fun s => ∀ v, K v → P.sends v s)
    (hQ : ∀ x v, K v → Q x v)
    (hw : K w) :
    Sends P guard exec fault Q p w := by
  induction p generalizing w with
  | ret a =>
      exact fun v hwv => hQ _ v (hK _ _ hw hwv)
  | raise e =>
      exact fun v hwv => hQ _ v (hK _ _ hw hwv)
  | call s k ih =>
      intro v hwv
      have hv := hK _ _ hw hwv
      exact ⟨hall.1 v hv, fun o _ => ih _ (hall.2 _) (hK _ _ hv (hstep s v o))⟩
  | pick n k ih =>
      exact fun j => ih j (hall j) hw
  | leave s p ih =>
      exact ⟨fun v hwv => hall.1 v (hK _ _ hw hwv), ih hall.2 hw⟩

/-- A part of such statements, then the rest. -/
theorem Sends.bind_all
    {Q : Except E β → σ → Prop} {p : Program S R E α} {f : α → Program S R E β} {w : σ}
    (hstep : ∀ s v o, P.rely v (attempt exec fault s o v).1)
    (hall : p.All fun s => ∀ v, P.sends v s)
    (herror : ∀ e v, Q (.error e) v)
    (hok : ∀ a v, P.rely w v → Sends P guard exec fault Q (f a) v) :
    Sends P guard exec fault Q (p.bind f) w := by
  refine Sends.bind (Sends.of_all (K := P.rely w)
    (fun _ _ hv hv' => P.rely_trans _ _ _ hv hv') hstep
    (hall.mono fun _ h v _ => h v) (fun x v hv => ?_) (P.rely_refl w))
  cases x with
  | ok a =>
      exact hok a v hv
  | error e =>
      exact herror e v

/-- A handler that is about to send a statement meets the condition. -/
theorem Sends.next
    {Q : Except E α → σ → Prop} {c : Config S R E α σ} {i : Nat} {s : S}
    (h : ∀ p, c.threads[i]? = some p → Sends P guard exec fault Q p c.world)
    (hs : System.nextStatement c i = some s) :
    P.sends c.world s := by
  unfold System.nextStatement at hs
  split at hs
  · rename_i s' k hi
    cases hs
    exact (h _ hi c.world (P.rely_refl _)).1
  · cases hs

end Sends

section Runs

variable {S : Type} {R : S → Type} {E α σ A : Type}
variable {sys : System S R E α σ A} {P : Promise S σ}
variable {guard : Nat → σ → S → Outcome → Prop}

/-- Every handler keeps the promise, with the guard that goes with its number. -/
def AllSend (sys : System S R E α σ A) (P : Promise S σ)
    (guard : Nat → σ → S → Outcome → Prop) (c : Config S R E α σ) : Prop :=
  ∀ i p, c.threads[i]? = some p →
    Sends P (guard i) sys.exec sys.fault (fun _ _ => True) p c.world

/-- **One step** of a pool whose handlers keep their promises. -/
theorem sends_step
    {c c' : Config S R E α σ} {a : Action A}
    (henv : ∀ b w' p i, a = .env b → sys.env b c.world = some (w', some p) →
      Sends P (guard i) sys.exec sys.fault (fun _ _ => True) p w')
    (hguard : ∀ i j o s, a = .run i j o → System.nextStatement c i = some s →
      guard i c.world s o)
    (hrely : P.rely c.world c'.world)
    (hc : AllSend sys P guard c)
    (hstep : sys.step c a = some c') :
    AllSend sys P guard c' := by
  -- a handler of the step before, or one that the step has started
  have hold : ∀ i p, c.threads[i]? = some p →
      Sends P (guard i) sys.exec sys.fault (fun _ _ => True) p c'.world :=
    fun i p hp => (hc i p hp).of_rely hrely
  have hsplit : ∀ {l l' : List (Program S R E α)} {i : Nat} {p : Program S R E α},
      (l ++ l')[i]? = some p → l[i]? = some p ∨ p ∈ l' := by
    intro l l' i p hp
    by_cases hi : i < l.length
    · exact .inl (by rwa [List.getElem?_append_left hi] at hp)
    · rw [List.getElem?_append_right (Nat.not_lt.mp hi)] at hp
      exact .inr (List.mem_of_getElem? hp)
  intro i p hp
  cases a with
  | env b =>
      simp only [System.step] at hstep
      cases hb : sys.env b c.world with
      | none =>
          simp [hb] at hstep
      | some wp =>
          obtain ⟨w, q⟩ := wp
          simp only [hb, Option.some.injEq] at hstep
          subst hstep
          rcases hsplit hp with hp | hp
          · exact hold i p hp
          · rw [Option.mem_toList] at hp
            rw [Option.mem_def.mp hp] at hb
            exact henv b w p i rfl hb
  | run k j o =>
      simp only [System.step] at hstep
      cases hk : c.threads[k]? with
      | none =>
          simp [hk] at hstep
      | some q =>
          simp only [hk] at hstep
          cases hq : sys.advance j o c.world q with
          | none =>
              simp [hq] at hstep
          | some r =>
              obtain ⟨w, q', left⟩ := r
              simp only [hq, Option.some.injEq] at hstep
              subst hstep
              have hlt : k < c.threads.length := (List.getElem?_eq_some_iff.mp hk).1
              have hnow := hc k q hk
              have hown : Sends P (guard k) sys.exec sys.fault (fun _ _ => True) q' w ∧
                  ∀ p, p ∈ left → Sends P (guard i) sys.exec sys.fault (fun _ _ => True) p w := by
                cases q with
                | ret b =>
                    simp [System.advance] at hq
                | raise e =>
                    simp [System.advance] at hq
                | call s f =>
                    simp only [System.advance, Option.some.injEq, Prod.mk.injEq] at hq
                    obtain ⟨rfl, rfl, rfl⟩ := hq
                    have hs : System.nextStatement c k = some s := by
                      simp [System.nextStatement, hk]
                    refine ⟨(hnow c.world (P.rely_refl _)).2 o
                      (hguard k j o s rfl hs), fun p hp => ?_⟩
                    simp at hp
                | pick n f =>
                    by_cases hj : j < n
                    · simp only [System.advance, hj, dite_true, Option.some.injEq,
                        Prod.mk.injEq] at hq
                      obtain ⟨rfl, rfl, rfl⟩ := hq
                      exact ⟨hnow ⟨j, hj⟩, fun p hp => by simp at hp⟩
                    · simp [System.advance, hj] at hq
                | leave s f =>
                    simp only [System.advance, Option.some.injEq, Prod.mk.injEq] at hq
                    obtain ⟨rfl, rfl, rfl⟩ := hq
                    refine ⟨hnow.2, fun p hp => ?_⟩
                    obtain rfl := List.mem_singleton.mp hp
                    exact fun v hv => ⟨hnow.1 v hv, fun _ _ _ _ => trivial⟩
              rcases hsplit hp with hp | hp
              · by_cases hik : k = i
                · subst hik
                  rw [List.getElem?_set_self hlt, Option.some.injEq] at hp
                  exact hp ▸ hown.1
                · rw [List.getElem?_set_ne hik] at hp
                  exact hold i p hp
              · exact hown.2 p hp

/-- In the run `as` from `c₀`, handler `i` sends `s` in the state `d`. -/
def Sent (sys : System S R E α σ A) (c₀ : Config S R E α σ) (as : List (Action A))
    (i : Nat) (s : S) (d : Config S R E α σ) : Prop :=
  ∃ as₁ j o as₂, as = as₁ ++ .run i j o :: as₂ ∧ runs sys.step c₀ as₁ = some d ∧
    System.nextStatement d i = some s

/-- The state and the action occur in the run. -/
def Occurs (sys : System S R E α σ A) (c₀ : Config S R E α σ) (as : List (Action A))
    (d : Config S R E α σ) (a : Action A) : Prop :=
  ∃ as₁ as₂, as = as₁ ++ a :: as₂ ∧ runs sys.step c₀ as₁ = some d

theorem Occurs.sent
    {c₀ d : Config S R E α σ} {as : List (Action A)} {i j : Nat} {o : Outcome} {s : S}
    (h : Occurs sys c₀ as d (.run i j o))
    (hs : System.nextStatement d i = some s) :
    Sent sys c₀ as i s d := by
  obtain ⟨as₁, as₂, has, hrun⟩ := h
  exact ⟨as₁, j, o, as₂, has, hrun, hs⟩

/-- What occurs in a run occurs in it. -/
theorem meets_occurs (c₀ : Config S R E α σ) (as : List (Action A)) :
    Meets sys.step (Occurs sys c₀ as) c₀ as := by
  have key : ∀ (bs : List (Action A)) (pre : List (Action A)) (d : Config S R E α σ),
      as = pre ++ bs → runs sys.step c₀ pre = some d →
      Meets sys.step (Occurs sys c₀ as) d bs := by
    intro bs
    induction bs with
    | nil =>
        intros
        trivial
    | cons b bs ih =>
        intro pre d has hpre
        refine ⟨⟨pre, bs, has, hpre⟩, ?_⟩
        cases hb : sys.step d b with
        | none =>
            trivial
        | some d' =>
            refine ih (pre ++ [b]) d' (by simpa using has) ?_
            exact runs_append.mpr ⟨d, hpre, by simp [runs, hb]⟩
  exact key as [] c₀ rfl rfl

/-- Statements of one kind -/
def onlySends {S σ : Type} (P : S → Prop) : Promise S σ where
  rely _ _ := True
  rely_refl _ := trivial
  rely_trans _ _ _ _ _ := trivial
  sends _ s := P s

/-- Where every handler sends only statements of one kind, the guard on these is met. -/
theorem meets_conforms_of_all
    {K : S → Prop} {G : σ → S → Outcome → Prop}
    (henv : ∀ b w w' p, sys.env b w = some (w', some p) → p.All K)
    (hguard : ∀ w s o, K s → G w s o)
    (w : σ) (as : List (Action A)) :
    Meets sys.step (System.Conforms (fun _ _ => True) G) ⟨w, []⟩ as := by
  have hsends : ∀ {p : Program S R E α} {w : σ}, p.All K →
      Sends (onlySends K) (fun _ _ _ => True) sys.exec sys.fault (fun _ _ => True) p w :=
    fun hall => Sends.of_all (K := fun _ => True) (fun _ _ _ _ => trivial)
      (fun _ _ _ => trivial) (hall.mono fun _ hs _ _ => hs) (fun _ _ _ => trivial) trivial
  refine Meets.of_invariant (I := AllSend sys (onlySends K) fun _ _ _ _ => True)
    (A := fun _ _ => True) (fun c a hc _ => ?_) (fun c a c' hc _ hstep => ?_) ?_
    (Meets.of_forall_mem fun _ _ _ => trivial)
  · cases a with
    | env b =>
        trivial
    | run i j o =>
        simp only [System.Conforms]
        split
        · rename_i s hs
          exact hguard _ _ _ (Sends.next (hc i) hs)
        · trivial
  · exact sends_step (fun b w' p i _ hb => hsends (henv b _ w' p hb))
      (fun _ _ _ _ _ _ => trivial) trivial hc hstep
  · intro i p hp
    simp at hp

end Runs

end Async
end BookStore
