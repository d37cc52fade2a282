import BookStore.Async.Pool

/-!
# Handlers one after another

`p.Yields w w' x`: by itself and without failures the handler `p` may take the state
`w` to `w'` and end in `x`; what is left to the scheduler is decided in any way.
`Program.alone` is one of these ways.

`Serves step w bs w'` is a run of labelled steps, such as requests that are each
handled to the end before the next one starts.
-/

namespace BookStore
namespace Async

section Yields

variable {S : Type} {R : S → Type} {E α β σ D : Type}
variable (exec : (s : S) → σ → Except E (σ × R s)) (fault : E)

def Program.Yields : Program S R E α → σ → σ → Except E α → Prop
  | .ret a, w, w', x => w' = w ∧ x = .ok a
  | .raise e, w, w', x => w' = w ∧ x = .error e
  | .call s k, w, w', x =>
      (k (attempt exec fault s .ok w).2).Yields (attempt exec fault s .ok w).1 w' x
  | .pick _ k, w, w', x => ∃ j, (k j).Yields w w' x
  | .leave s p, w, w', x => p.Yields (attempt exec fault s .ok w).1 w' x

/-- The statement leaves the state as it is, and its answer depends on `part` only. -/
structure ReadsOnly (part : σ → D) (s : S) : Prop where
  kept : ∀ w, (attempt exec fault s .ok w).1 = w
  answer : ∀ w v, part w = part v →
    (attempt exec fault s .ok w).2 = (attempt exec fault s .ok v).2

variable {exec fault}

@[simp] theorem yields_ret {a : α} {w w' : σ} {x : Except E α} :
    (Program.ret a : Program S R E α).Yields exec fault w w' x ↔ w' = w ∧ x = .ok a :=
  Iff.rfl

@[simp] theorem yields_raise {e : E} {w w' : σ} {x : Except E α} :
    (Program.raise e : Program S R E α).Yields exec fault w w' x ↔ w' = w ∧ x = .error e :=
  Iff.rfl

theorem yields_bind
    {p : Program S R E α} {f : α → Program S R E β} {w w' : σ} {x : Except E β} :
    (p.bind f).Yields exec fault w w' x ↔
      (∃ v a, p.Yields exec fault w v (.ok a) ∧ (f a).Yields exec fault v w' x) ∨
        ∃ e, p.Yields exec fault w w' (.error e) ∧ x = .error e := by
  induction p generalizing w with
  | ret a =>
      simp
  | raise e =>
      simp
  | call s k ih =>
      exact ih _
  | pick n k ih =>
      simp only [Program.bind_pick, Program.Yields, ih]
      constructor
      · rintro ⟨j, ⟨v, a, hp, hf⟩ | ⟨e, hp, hx⟩⟩
        · exact .inl ⟨v, a, ⟨j, hp⟩, hf⟩
        · exact .inr ⟨e, ⟨j, hp⟩, hx⟩
      · rintro (⟨v, a, ⟨j, hp⟩, hf⟩ | ⟨e, ⟨j, hp⟩, hx⟩)
        · exact ⟨j, .inl ⟨v, a, hp, hf⟩⟩
        · exact ⟨j, .inr ⟨e, hp, hx⟩⟩
  | leave s p ih =>
      exact ih

/-- A statement that answers. -/
theorem yields_await_bind
    {s : S} {f : R s → Program S R E β} {w v w' : σ} {r : R s} {x : Except E β}
    (h : exec s w = .ok (v, r)) :
    ((Program.await s).bind f).Yields exec fault w w' x ↔
      (f r).Yields exec fault v w' x := by
  rw [Program.bind_await]
  simp only [Program.Yields, attempt, h, Program.resume]

/-- A statement that throws. -/
theorem yields_await_bind_error
    {s : S} {f : R s → Program S R E β} {w w' : σ} {e : E} {x : Except E β}
    (h : exec s w = .error e) :
    ((Program.await s).bind f).Yields exec fault w w' x ↔ w' = w ∧ x = .error e := by
  rw [Program.bind_await]
  simp only [Program.Yields, attempt, h, Program.resume]

/-- The state and the answer of a statement. -/
theorem yields_await {s : S} {w w' : σ} {r : R s} :
    (Program.await s : Program S R E (R s)).Yields exec fault w w' (.ok r) ↔
      exec s w = .ok (w', r) := by
  cases h : exec s w with
  | ok a =>
      simp only [Program.await, Program.Yields, attempt, h, Program.resume, Except.ok.injEq,
        Prod.ext_iff, eq_comm]
  | error e =>
      simp only [Program.await, Program.Yields, attempt, h, Program.resume]
      simp

/-- Two statements together that leave the state as it is. -/
theorem yields_alongside_await
    {s t : S} {w w' : σ} {r : R s} {a : R t} {x : Except E (R s × R t)}
    (hs : exec s w = .ok (w, r))
    (ht : exec t w = .ok (w, a)) :
    (Program.alongside s (Program.await t)).Yields exec fault w w' x ↔
      w' = w ∧ x = .ok (r, a) := by
  simp [Program.await, Program.alongside, Program.Yields, Fin.exists_fin_two, attempt, hs, ht,
    Program.resume]

/-- Two statements together that are both refused. -/
theorem yields_alongside_await_error
    {s t : S} {w w' : σ} {e : E} {x : Except E (R s × R t)}
    (hs : exec s w = .error e)
    (ht : exec t w = .error e) :
    (Program.alongside s (Program.await t)).Yields exec fault w w' x ↔
      w' = w ∧ x = .error e := by
  simp [Program.await, Program.alongside, Program.Yields, Fin.exists_fin_two, attempt, hs, ht,
    Program.resume]

/-- What a handler does by itself is one of the things it may do. -/
theorem yields_of_alone
    {p : Program S R E α} {w w' : σ} {x : Except E α}
    (h : p.alone exec fault w = some (w', x)) :
    p.Yields exec fault w w' x := by
  induction p generalizing w with
  | ret a =>
      cases h
      exact ⟨rfl, rfl⟩
  | raise e =>
      cases h
      exact ⟨rfl, rfl⟩
  | call s k ih =>
      exact ih _ h
  | pick n k ih =>
      simp only [Program.alone] at h
      split at h
      · exact ⟨_, ih _ h⟩
      · cases h
  | leave s p ih =>
      exact ih h

/-- What every statement that the handler can send does to the state, the handler does. -/
theorem Program.Yields.of_all
    {T : σ → σ → Prop} {p : Program S R E α} {w w' : σ} {x : Except E α}
    (hrefl : ∀ w, T w w)
    (htrans : ∀ u v w, T u v → T v w → T u w)
    (hp : p.All fun s => ∀ w, T w (attempt exec fault s .ok w).1)
    (h : p.Yields exec fault w w' x) :
    T w w' := by
  induction p generalizing w with
  | ret a =>
      exact h.1 ▸ hrefl w
  | raise e =>
      exact h.1 ▸ hrefl w
  | call s k ih =>
      exact htrans _ _ _ (hp.1 w) (ih _ (hp.2 _) h)
  | pick n k ih =>
      obtain ⟨j, h⟩ := h
      exact ih j (hp j) h
  | leave s p ih =>
      exact htrans _ _ _ (hp.1 w) (ih hp.2 h)

/-- A handler that only reads leaves the state as it is. -/
theorem Program.Yields.eq_of_reads
    {part : σ → D} {p : Program S R E α} {w w' : σ} {x : Except E α}
    (hp : p.All (ReadsOnly exec fault part))
    (h : p.Yields exec fault w w' x) :
    w' = w :=
  (h.of_all (T := fun w w' => w' = w) (fun _ => rfl) (fun _ _ _ h h' => h'.trans h)
    (hp.mono fun _ hs => hs.kept))

/-- What a handler that only reads ends in depends on what it reads. -/
theorem Program.Yields.of_reads
    {part : σ → D} {p : Program S R E α} {w v : σ} {x : Except E α}
    (hp : p.All (ReadsOnly exec fault part))
    (hpart : part w = part v)
    (h : p.Yields exec fault w w x) :
    p.Yields exec fault v v x := by
  induction p with
  | ret a =>
      exact ⟨rfl, h.2⟩
  | raise e =>
      exact ⟨rfl, h.2⟩
  | call s k ih =>
      rw [Program.Yields, hp.1.kept] at h ⊢
      rw [← hp.1.answer w v hpart]
      exact ih _ (hp.2 _) h
  | pick n k ih =>
      obtain ⟨j, h⟩ := h
      exact ⟨j, ih j (hp j) h⟩
  | leave s p ih =>
      rw [Program.Yields, hp.1.kept] at h ⊢
      exact ih hp.2 h

/-- Statements in any order, none of which fails; `J ss` describes the rest `ss`. -/
theorem Program.Yields.promiseAll
    {J : List S → σ → Prop} {ss : List S} {w w' : σ} {x : Except E Unit}
    (hstep : ∀ ss (j : Fin ss.length) w, J ss w →
      ∃ v r, exec (ss.get j) w = .ok (v, r) ∧ J (ss.eraseIdx j) v)
    (hw : J ss w)
    (h : (Program.promiseAll ss).Yields exec fault w w' x) :
    J [] w' ∧ x = .ok () := by
  have key : ∀ n (ss : List S) (w : σ), ss.length = n → J ss w →
      (Program.promiseAllOf n ss).Yields exec fault w w' x → J [] w' ∧ x = .ok () := by
    intro n
    induction n with
    | zero =>
        rintro ss w hn hw ⟨rfl, rfl⟩
        obtain rfl := List.length_eq_zero_iff.mp hn
        exact ⟨hw, rfl⟩
    | succ n ih =>
        rintro ss w hn hw ⟨j, h⟩
        obtain ⟨v, r, hexec, hv⟩ := hstep ss j w hw
        simp only [Program.Yields, attempt, hexec] at h
        refine ih _ v ?_ hv h
        rw [List.length_eraseIdx_of_lt j.isLt, hn]
        rfl
  exact key _ ss w rfl hw h

end Yields

section Serves

variable {σ β : Type} (step : σ → β → σ → Prop)

/-- The steps take place one after another. -/
def Serves : σ → List β → σ → Prop
  | w, [], w' => w' = w
  | w, b :: bs, w' => ∃ v, step w b v ∧ Serves v bs w'

variable {step}

theorem Serves.nil {w : σ} : Serves step w [] w :=
  rfl

theorem Serves.cons {w v w' : σ} {b : β} {bs : List β} (hb : step w b v)
    (h : Serves step v bs w') : Serves step w (b :: bs) w' :=
  ⟨v, hb, h⟩

theorem serves_append {w w' : σ} {bs cs : List β} :
    Serves step w (bs ++ cs) w' ↔ ∃ v, Serves step w bs v ∧ Serves step v cs w' := by
  induction bs generalizing w with
  | nil =>
      simp [Serves]
  | cons b bs ih =>
      simp only [List.cons_append, Serves, ih]
      constructor
      · rintro ⟨u, hu, v, hv, hw⟩
        exact ⟨v, ⟨u, hu, hv⟩, hw⟩
      · rintro ⟨v, ⟨u, hu, hv⟩, hw⟩
        exact ⟨u, hu, v, hv, hw⟩

/-- A run of one system is a run of another that follows it step by step. -/
theorem Serves.simulates
    {τ : Type} {step' : τ → β → τ → Prop} {R : σ → τ → Prop} {bs : List β} {w w' : σ} {m : τ}
    (hstep : ∀ w b v m, R w m → step w b v → ∃ m', step' m b m' ∧ R v m')
    (hR : R w m)
    (h : Serves step w bs w') :
    ∃ m', Serves step' m bs m' ∧ R w' m' := by
  induction bs generalizing w m with
  | nil =>
      cases h
      exact ⟨m, rfl, hR⟩
  | cons b bs ih =>
      obtain ⟨v, hb, hrest⟩ := h
      obtain ⟨m₁, hb', hv⟩ := hstep w b v m hR hb
      obtain ⟨m', hrest', hw'⟩ := ih hv hrest
      exact ⟨m', ⟨m₁, hb', hrest'⟩, hw'⟩

/-- A run that is computed. -/
theorem serves_of_runs
    {next : σ → β → Option σ} {bs : List β} {w w' : σ}
    (hnext : ∀ w b v, next w b = some v → step w b v)
    (h : runs next w bs = some w') :
    Serves step w bs w' := by
  induction bs generalizing w with
  | nil =>
      exact (Option.some.inj h).symm
  | cons b bs ih =>
      obtain ⟨v, hb, hrest⟩ := runs_cons.mp h
      exact ⟨v, hnext w b v hb, ih hrest⟩

/-- What every step keeps is kept by the run, and what it shows holds of every step. -/
theorem Serves.invariant
    {I : σ → Prop} {P : β → Prop} {bs : List β} {w w' : σ}
    (hstep : ∀ w b v, b ∈ bs → I w → step w b v → I v ∧ P b)
    (hw : I w)
    (h : Serves step w bs w') :
    I w' ∧ ∀ b, b ∈ bs → P b := by
  induction bs generalizing w with
  | nil =>
      cases h
      exact ⟨hw, by simp⟩
  | cons b bs ih =>
      obtain ⟨v, hb, hrest⟩ := h
      obtain ⟨hv, hP⟩ := hstep w b v (by simp) hw hb
      obtain ⟨hw', hPs⟩ :=
        ih (fun w c v hc => hstep w c v (List.mem_cons_of_mem b hc)) hv hrest
      exact ⟨hw', List.forall_mem_cons.mpr ⟨hP, hPs⟩⟩

/-- The same, where what is kept may speak of the steps done before. -/
theorem Serves.history
    {I : List β → σ → Prop} {P : β → Prop} {bs : List β} {w w' : σ}
    (hstep : ∀ done b rest w v,
      bs = done ++ b :: rest → I done w → step w b v → I (done ++ [b]) v ∧ P b)
    (hw : I [] w)
    (h : Serves step w bs w') :
    I bs w' ∧ ∀ b, b ∈ bs → P b := by
  suffices hrest : ∀ rest done w, bs = done ++ rest → I done w → Serves step w rest w' →
      I bs w' ∧ ∀ b, b ∈ rest → P b from
    hrest bs [] w rfl hw h
  intro rest
  induction rest with
  | nil =>
      rintro done w heq hI rfl
      rw [heq, List.append_nil]
      exact ⟨hI, by simp⟩
  | cons b rest ih =>
      rintro done w heq hI ⟨v, hb, hrest⟩
      obtain ⟨hv, hP⟩ := hstep done b rest w v heq hI hb
      obtain ⟨hw', hPs⟩ := ih (done ++ [b]) v (by rw [heq, List.append_assoc]; rfl) hv hrest
      exact ⟨hw', List.forall_mem_cons.mpr ⟨hP, hPs⟩⟩

end Serves

end Async
end BookStore
