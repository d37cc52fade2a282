import BookStore.Async.Parallel

/-!
# A handler while the state changes

`p.Amid exec fault rely allowed w w' x`: the handler `p` may take the state `w` to `w'` and
end in `x`, where the state may change before each of its statements as `rely` says, and a
statement may end as `allowed` says.

`Ensures … Q p w` says that whatever `p` ends in meets `Q`; its rules follow the program.
-/

namespace BookStore
namespace Async

section Definition

variable {S : Type} {R : S → Type} {E α σ : Type}
variable (exec : (s : S) → σ → Except E (σ × R s)) (fault : E)
variable (rely : σ → σ → Prop) (allowed : S → Outcome → Prop)

def Program.Amid : Program S R E α → σ → σ → Except E α → Prop
  | .ret a, w, w', x => w' = w ∧ x = .ok a
  | .raise e, w, w', x => w' = w ∧ x = .error e
  | .call s k, w, w', x =>
      ∃ v o, rely w v ∧ allowed s o ∧
        (k (attempt exec fault s o v).2).Amid (attempt exec fault s o v).1 w' x
  | .pick _ k, w, w', x => ∃ j, (k j).Amid w w' x
  | .leave s p, w, w', x =>
      ∃ v o, rely w v ∧ allowed s o ∧ p.Amid (attempt exec fault s o v).1 w' x

/-- Whatever the handler ends in meets `Q`. -/
def Ensures (Q : Except E α → σ → Prop) (p : Program S R E α) (w : σ) : Prop :=
  ∀ w' x, p.Amid exec fault rely allowed w w' x → Q x w'

end Definition

variable {S : Type} {R : S → Type} {E α β σ : Type}
variable {exec : (s : S) → σ → Except E (σ × R s)} {fault : E}
variable {rely : σ → σ → Prop} {allowed : S → Outcome → Prop} {w w' : σ}

theorem amid_bind {p : Program S R E α} {f : α → Program S R E β} {x : Except E β} :
    (p.bind f).Amid exec fault rely allowed w w' x ↔
      (∃ v a, p.Amid exec fault rely allowed w v (.ok a) ∧
        (f a).Amid exec fault rely allowed v w' x) ∨
      ∃ e, p.Amid exec fault rely allowed w w' (.error e) ∧ x = .error e := by
  induction p generalizing w with
  | ret a =>
      simp [Program.Amid]
  | raise e =>
      simp [Program.Amid]
  | call s k ih =>
      simp only [Program.bind_call, Program.Amid, ih]
      constructor
      · rintro ⟨v, o, hv, ho, ⟨u, a, hp, hf⟩ | ⟨e, hp, hx⟩⟩
        · exact .inl ⟨u, a, ⟨v, o, hv, ho, hp⟩, hf⟩
        · exact .inr ⟨e, ⟨v, o, hv, ho, hp⟩, hx⟩
      · rintro (⟨u, a, ⟨v, o, hv, ho, hp⟩, hf⟩ | ⟨e, ⟨v, o, hv, ho, hp⟩, hx⟩)
        · exact ⟨v, o, hv, ho, .inl ⟨u, a, hp, hf⟩⟩
        · exact ⟨v, o, hv, ho, .inr ⟨e, hp, hx⟩⟩
  | pick n k ih =>
      simp only [Program.bind_pick, Program.Amid, ih]
      constructor
      · rintro ⟨j, ⟨v, a, hp, hf⟩ | ⟨e, hp, hx⟩⟩
        · exact .inl ⟨v, a, ⟨j, hp⟩, hf⟩
        · exact .inr ⟨e, ⟨j, hp⟩, hx⟩
      · rintro (⟨v, a, ⟨j, hp⟩, hf⟩ | ⟨e, ⟨j, hp⟩, hx⟩)
        · exact ⟨j, .inl ⟨v, a, hp, hf⟩⟩
        · exact ⟨j, .inr ⟨e, hp, hx⟩⟩
  | leave s p ih =>
      simp only [Program.bind_leave, Program.Amid, ih]
      constructor
      · rintro ⟨v, o, hv, ho, ⟨u, a, hp, hf⟩ | ⟨e, hp, hx⟩⟩
        · exact .inl ⟨u, a, ⟨v, o, hv, ho, hp⟩, hf⟩
        · exact .inr ⟨e, ⟨v, o, hv, ho, hp⟩, hx⟩
      · rintro (⟨u, a, ⟨v, o, hv, ho, hp⟩, hf⟩ | ⟨e, ⟨v, o, hv, ho, hp⟩, hx⟩)
        · exact ⟨v, o, hv, ho, .inl ⟨u, a, hp, hf⟩⟩
        · exact ⟨v, o, hv, ho, .inr ⟨e, hp, hx⟩⟩

theorem amid_tryCatch {p : Program S R E α} {f : E → Program S R E α} {x : Except E α} :
    (p.tryCatch f).Amid exec fault rely allowed w w' x ↔
      (∃ a, p.Amid exec fault rely allowed w w' (.ok a) ∧ x = .ok a) ∨
      ∃ v e, p.Amid exec fault rely allowed w v (.error e) ∧
        (f e).Amid exec fault rely allowed v w' x := by
  induction p generalizing w with
  | ret a =>
      simp [Program.tryCatch, Program.Amid]
  | raise e =>
      simp [Program.tryCatch, Program.Amid]
  | call s k ih =>
      simp only [Program.tryCatch, Program.Amid, ih]
      constructor
      · rintro ⟨v, o, hv, ho, ⟨a, hp, hx⟩ | ⟨u, e, hp, hf⟩⟩
        · exact .inl ⟨a, ⟨v, o, hv, ho, hp⟩, hx⟩
        · exact .inr ⟨u, e, ⟨v, o, hv, ho, hp⟩, hf⟩
      · rintro (⟨a, ⟨v, o, hv, ho, hp⟩, hx⟩ | ⟨u, e, ⟨v, o, hv, ho, hp⟩, hf⟩)
        · exact ⟨v, o, hv, ho, .inl ⟨a, hp, hx⟩⟩
        · exact ⟨v, o, hv, ho, .inr ⟨u, e, hp, hf⟩⟩
  | pick n k ih =>
      simp only [Program.tryCatch, Program.Amid, ih]
      constructor
      · rintro ⟨j, ⟨a, hp, hx⟩ | ⟨v, e, hp, hf⟩⟩
        · exact .inl ⟨a, ⟨j, hp⟩, hx⟩
        · exact .inr ⟨v, e, ⟨j, hp⟩, hf⟩
      · rintro (⟨a, ⟨j, hp⟩, hx⟩ | ⟨v, e, ⟨j, hp⟩, hf⟩)
        · exact ⟨j, .inl ⟨a, hp, hx⟩⟩
        · exact ⟨j, .inr ⟨v, e, hp, hf⟩⟩
  | leave s p ih =>
      simp only [Program.tryCatch, Program.Amid, ih]
      constructor
      · rintro ⟨v, o, hv, ho, ⟨a, hp, hx⟩ | ⟨u, e, hp, hf⟩⟩
        · exact .inl ⟨a, ⟨v, o, hv, ho, hp⟩, hx⟩
        · exact .inr ⟨u, e, ⟨v, o, hv, ho, hp⟩, hf⟩
      · rintro (⟨a, ⟨v, o, hv, ho, hp⟩, hx⟩ | ⟨u, e, ⟨v, o, hv, ho, hp⟩, hf⟩)
        · exact ⟨v, o, hv, ho, .inl ⟨a, hp, hx⟩⟩
        · exact ⟨v, o, hv, ho, .inr ⟨u, e, hp, hf⟩⟩

theorem amid_await_bind {s : S} {f : R s → Program S R E β} {x : Except E β} :
    ((Program.await s).bind f).Amid exec fault rely allowed w w' x ↔
      ∃ v o, rely w v ∧ allowed s o ∧
        (Program.resume f (attempt exec fault s o v).2).Amid exec fault rely allowed
          (attempt exec fault s o v).1 w' x := by
  rw [Program.bind_await]
  exact Iff.rfl

/-- What `rely` and every statement of the handler do to the state, the handler does. -/
theorem Program.Amid.of_all
    {T : σ → σ → Prop} {p : Program S R E α} {x : Except E α}
    (hrefl : ∀ w, T w w)
    (htrans : ∀ u v w, T u v → T v w → T u w)
    (hrely : ∀ w v, rely w v → T w v)
    (hp : p.All fun s => ∀ v o, T v (attempt exec fault s o v).1)
    (h : p.Amid exec fault rely allowed w w' x) :
    T w w' := by
  induction p generalizing w with
  | ret a =>
      exact h.1 ▸ hrefl w
  | raise e =>
      exact h.1 ▸ hrefl w
  | call s k ih =>
      obtain ⟨v, o, hv, -, hk⟩ := h
      exact htrans _ _ _ (htrans _ _ _ (hrely w v hv) (hp.1 v o)) (ih _ (hp.2 _) hk)
  | pick n k ih =>
      obtain ⟨j, h⟩ := h
      exact ih j (hp j) h
  | leave s p ih =>
      obtain ⟨v, o, hv, -, hp'⟩ := h
      exact htrans _ _ _ (htrans _ _ _ (hrely w v hv) (hp.1 v o)) (ih hp.2 hp')

/-- A handler by itself, without failures, is one of the cases. -/
theorem amid_of_alone {p : Program S R E α} {x : Except E α}
    (hrely : ∀ w, rely w w)
    (hallowed : ∀ s, allowed s .ok)
    (h : p.alone exec fault w = some (w', x)) :
    p.Amid exec fault rely allowed w w' x := by
  induction p generalizing w with
  | ret a =>
      cases h
      exact ⟨rfl, rfl⟩
  | raise e =>
      cases h
      exact ⟨rfl, rfl⟩
  | call s k ih =>
      exact ⟨w, .ok, hrely w, hallowed s, ih _ h⟩
  | pick n k ih =>
      simp only [Program.alone] at h
      split at h
      · exact ⟨_, ih _ h⟩
      · cases h
  | leave s p ih =>
      exact ⟨w, .ok, hrely w, hallowed s, ih h⟩

/-! ### What a handler ensures -/

section Ensures

variable {Q : Except E β → σ → Prop}

theorem ensures_ret {a : β} (h : Q (.ok a) w) :
    Ensures exec fault rely allowed Q (Program.ret a : Program S R E β) w := by
  rintro w' x ⟨rfl, rfl⟩
  exact h

theorem ensures_raise {e : E} (h : Q (.error e) w) :
    Ensures exec fault rely allowed Q (Program.raise e : Program S R E β) w := by
  rintro w' x ⟨rfl, rfl⟩
  exact h

/-- Sequencing: what follows starts from what the first part ends in. -/
theorem Ensures.bind
    {p : Program S R E α} {f : α → Program S R E β}
    (hok : ∀ v a, p.Amid exec fault rely allowed w v (.ok a) →
      Ensures exec fault rely allowed Q (f a) v)
    (herror : ∀ v e, p.Amid exec fault rely allowed w v (.error e) → Q (.error e) v) :
    Ensures exec fault rely allowed Q (p.bind f) w := by
  intro w' x h
  rcases amid_bind.mp h with ⟨v, a, hp, hf⟩ | ⟨e, hp, rfl⟩
  · exact hok v a hp w' x hf
  · exact herror w' e hp

/-- An awaited statement and what follows its answer. -/
theorem Ensures.await_bind
    {s : S} {f : R s → Program S R E β}
    (herror : ∀ v e, rely w v → Q (.error e) v)
    (hok : ∀ v v' r, rely w v → exec s v = .ok (v', r) →
      Q (.error fault) v' ∧ Ensures exec fault rely allowed Q (f r) v') :
    Ensures exec fault rely allowed Q ((Program.await s).bind f) w := by
  intro w' x h
  obtain ⟨v, o, hv, -, h⟩ := amid_await_bind.mp h
  revert h
  refine attempt_cases (motive := fun y =>
    (Program.resume f y.2).Amid exec fault rely allowed y.1 w' x → Q x w') ?_ ?_
  · rintro e ⟨rfl, rfl⟩
    exact herror _ e hv
  · intro v' r _ hexec
    obtain ⟨hlost, hnext⟩ := hok v v' r hv hexec
    refine ⟨hnext w' x, ?_⟩
    rintro ⟨rfl, rfl⟩
    exact hlost

/-- A statement that is executed and answers, and what follows. -/
theorem Ensures.await_bind_done
    {s : S} {f : R s → Program S R E β}
    (hallowed : ∀ o, allowed s o → o = .ok)
    (h : ∀ v, rely w v → ∃ v' r, exec s v = .ok (v', r) ∧
      Ensures exec fault rely allowed Q (f r) v') :
    Ensures exec fault rely allowed Q ((Program.await s).bind f) w := by
  intro w' x hx
  obtain ⟨v, o, hv, ho, hx⟩ := amid_await_bind.mp hx
  obtain ⟨v', r, hexec, hnext⟩ := h v hv
  rw [hallowed o ho] at hx
  simp only [attempt, hexec, Program.resume] at hx
  exact hnext w' x hx

/-- A statement that fails, and with it the handler. -/
theorem Ensures.await_bind_fail
    {s : S} {f : R s → Program S R E β}
    (hallowed : ∀ o, allowed s o → o = .fail)
    (h : ∀ v, rely w v → Q (.error fault) v) :
    Ensures exec fault rely allowed Q ((Program.await s).bind f) w := by
  intro w' x hx
  obtain ⟨v, o, hv, ho, hx⟩ := amid_await_bind.mp hx
  rw [hallowed o ho] at hx
  obtain ⟨rfl, rfl⟩ := hx
  exact h _ hv

theorem Ensures.tryCatch
    {p : Program S R E β} {f : E → Program S R E β}
    (hok : ∀ v a, p.Amid exec fault rely allowed w v (.ok a) → Q (.ok a) v)
    (herror : ∀ v e, p.Amid exec fault rely allowed w v (.error e) →
      Ensures exec fault rely allowed Q (f e) v) :
    Ensures exec fault rely allowed Q (p.tryCatch f) w := by
  intro w' x h
  rcases amid_tryCatch.mp h with ⟨a, hp, rfl⟩ | ⟨v, e, hp, hf⟩
  · exact hok w' a hp
  · exact herror v e hp w' x hf

end Ensures

/-- A live handler comes to an end, where every statement may end somehow. -/
theorem exists_amid {p : Program S R E α}
    (hrely : ∀ w, rely w w)
    (hallowed : ∀ s, ∃ o, allowed s o)
    (hp : p.Live) (w : σ) :
    ∃ w' x, p.Amid exec fault rely allowed w w' x := by
  induction p generalizing w with
  | ret a =>
      exact ⟨w, .ok a, rfl, rfl⟩
  | raise e =>
      exact ⟨w, .error e, rfl, rfl⟩
  | call s k ih =>
      obtain ⟨o, ho⟩ := hallowed s
      obtain ⟨w', x, h⟩ := ih _ (hp _) _
      exact ⟨w', x, w, o, hrely w, ho, h⟩
  | pick n k ih =>
      obtain ⟨w', x, h⟩ := ih ⟨0, hp.1⟩ (hp.2 _) w
      exact ⟨w', x, _, h⟩
  | leave s p ih =>
      obtain ⟨o, ho⟩ := hallowed s
      obtain ⟨w', x, h⟩ := ih hp _
      exact ⟨w', x, w, o, hrely w, ho, h⟩

/-- Two statements together that leave the state as it is. -/
theorem amid_alongside_await
    {s t : S} {x : Except E (R s × R t)}
    (h : (Program.alongside s (Program.await t)).Amid exec fault rely allowed w w' x)
    (htrans : ∀ u v w, rely u v → rely v w → rely u w)
    (hs : ∀ o v, (attempt exec fault s o v).1 = v)
    (ht : ∀ o v, (attempt exec fault t o v).1 = v) :
    rely w w' ∧ ((∃ e, x = .error e) ∨
      ∃ r a v u, rely w v ∧ rely w u ∧ (∃ o, (attempt exec fault s o v).2 = .ok r) ∧
        (∃ o, (attempt exec fault t o u).2 = .ok a) ∧ x = .ok (r, a)) := by
  obtain ⟨j, h⟩ := h
  dsimp only at h
  split_ifs at h
  · obtain ⟨v, o, hv, -, h⟩ := h
    rw [hs] at h
    cases hr : (attempt exec fault s o v).2 with
    | error e =>
        rw [hr] at h
        obtain ⟨u, o', hu, -, h⟩ := h
        rw [ht] at h
        cases ha : (attempt exec fault t o' u).2 <;> rw [ha] at h <;>
          (obtain ⟨rfl, rfl⟩ := h; exact ⟨htrans _ _ _ hv hu, .inl ⟨_, rfl⟩⟩)
    | ok r =>
        rw [hr] at h
        obtain ⟨u, o', hu, -, h⟩ := h
        rw [ht] at h
        cases ha : (attempt exec fault t o' u).2 with
        | error e =>
            rw [ha] at h
            obtain ⟨rfl, rfl⟩ := h
            exact ⟨htrans _ _ _ hv hu, .inl ⟨_, rfl⟩⟩
        | ok a =>
            rw [ha] at h
            obtain ⟨rfl, rfl⟩ := h
            exact ⟨htrans _ _ _ hv hu, .inr ⟨r, a, v, _, hv, htrans _ _ _ hv hu,
              ⟨o, hr⟩, ⟨o', ha⟩, rfl⟩⟩
  · obtain ⟨u, o', hu, -, h⟩ := h
    rw [ht] at h
    cases ha : (attempt exec fault t o' u).2 with
    | error e =>
        rw [ha] at h
        obtain ⟨v, o, hv, -, h⟩ := h
        rw [hs] at h
        obtain ⟨rfl, rfl⟩ := h
        exact ⟨htrans _ _ _ hu hv, .inl ⟨_, rfl⟩⟩
    | ok a =>
        rw [ha] at h
        obtain ⟨v, o, hv, -, h⟩ := h
        rw [hs] at h
        cases hr : (attempt exec fault s o v).2 with
        | error e =>
            rw [hr] at h
            obtain ⟨rfl, rfl⟩ := h
            exact ⟨htrans _ _ _ hu hv, .inl ⟨_, rfl⟩⟩
        | ok r =>
            rw [hr] at h
            obtain ⟨rfl, rfl⟩ := h
            exact ⟨htrans _ _ _ hu hv, .inr ⟨r, a, _, u, htrans _ _ _ hu hv, hu,
              ⟨o, hr⟩, ⟨o', ha⟩, rfl⟩⟩

end Async
end BookStore
