import BookStore.Async.Logic
import BookStore.Async.Sends
import Mathlib.Algebra.BigOperators.Intervals

/-!
# Handlers by their numbers

`BalancedTo` asks the same of all handlers.  Here handler `i` ends in `Q i`, which may speak of
the event that has started it: in a run there is one such event, `Started.unique`.

* `BalancedAt` is the invariant with a share for each number.
* `BalancedAt.env_step` and `BalancedAt.run_step` carry it along a step, `balancedAt_runs` along
  a run.
* `BalancedAt.returned` is what a handler that has returned has ended in.
-/

namespace BookStore
namespace Async

section Numbered

variable {S : Type} {R : S → Type} {E σ α A : Type}
variable {sys : System S R E α σ A}

/-! ### The event that starts a handler -/

theorem step_threads_le
    {c c' : Config S R E α σ} {a : Action A}
    (h : sys.step c a = some c') :
    c.threads.length ≤ c'.threads.length := by
  cases a with
  | env b =>
      simp only [System.step] at h
      cases hb : sys.env b c.world with
      | none =>
          simp [hb] at h
      | some wp =>
          simp only [hb, Option.some.injEq] at h
          subst h
          simp
  | run i j o =>
      simp only [System.step] at h
      cases hi : c.threads[i]? with
      | none =>
          simp [hi] at h
      | some p =>
          simp only [hi] at h
          cases hp : sys.advance j o c.world p with
          | none =>
              simp [hp] at h
          | some r =>
              obtain ⟨w, q, left⟩ := r
              simp only [hp, Option.some.injEq] at h
              subst h
              simp

theorem runs_threads_le
    {c c' : Config S R E α σ} {as : List (Action A)}
    (h : runs sys.step c as = some c') :
    c.threads.length ≤ c'.threads.length :=
  runs_invariant (G := fun _ _ => True)
    (I := fun d : Config S R E α σ => c.threads.length ≤ d.threads.length)
    (fun _ _ _ hd _ hstep => hd.trans (step_threads_le hstep)) le_rfl
    (Meets.of_forall_mem fun _ _ _ => trivial) h

/-- In the run, event `b` starts handler `i` in the state `d`. -/
def Started (sys : System S R E α σ A) (c₀ : Config S R E α σ) (as : List (Action A))
    (i : Nat) (b : A) (d : Config S R E α σ) : Prop :=
  Occurs sys c₀ as d (.env b) ∧ d.threads.length = i ∧
    ∃ w p, sys.env b d.world = some (w, some p)

/-- After the event there is one handler more. -/
theorem lt_of_started
    {c₀ d e : Config S R E α σ} {as₁ as₂ : List (Action A)} {b : A} {w : σ}
    {p : Program S R E α}
    (hd : runs sys.step c₀ as₁ = some d)
    (hb : sys.env b d.world = some (w, some p))
    (he : runs sys.step c₀ (as₁ ++ .env b :: as₂) = some e) :
    d.threads.length < e.threads.length := by
  obtain ⟨d', hd', hrest⟩ := runs_append.mp he
  rw [hd, Option.some.injEq] at hd'
  subst hd'
  obtain ⟨d', hstep, hrest⟩ := runs_cons.mp hrest
  have hlt : d.threads.length < d'.threads.length := by
    simp only [System.step, hb, Option.some.injEq] at hstep
    subst hstep
    simp
  exact hlt.trans_le (runs_threads_le hrest)

/-- A handler is started once. -/
theorem Started.unique
    {c₀ d d' : Config S R E α σ} {as : List (Action A)} {i : Nat} {b b' : A}
    (h : Started sys c₀ as i b d)
    (h' : Started sys c₀ as i b' d') :
    d = d' ∧ b = b' := by
  obtain ⟨⟨as₁, as₂, has, hd⟩, hi, w, p, hb⟩ := h
  obtain ⟨⟨as₁', as₂', has', hd'⟩, hi', w', p', hb'⟩ := h'
  rw [has] at has'
  rcases List.append_eq_append_iff.mp has' with ⟨l, hl, hrest⟩ | ⟨l, hl, hrest⟩
  · cases l with
    | nil =>
        rw [List.append_nil] at hl
        rw [hl, hd] at hd'
        cases hd'
        rw [List.nil_append, List.cons.injEq] at hrest
        cases hrest.1
        exact ⟨rfl, rfl⟩
    | cons a l =>
        rw [List.cons_append, List.cons.injEq] at hrest
        cases hrest.1
        have := lt_of_started hd hb (hl ▸ hd')
        omega
  · cases l with
    | nil =>
        rw [List.append_nil] at hl
        rw [← hl, hd] at hd'
        cases hd'
        rw [List.nil_append, List.cons.injEq] at hrest
        cases hrest.1
        exact ⟨rfl, rfl⟩
    | cons a l =>
        rw [List.cons_append, List.cons.injEq] at hrest
        cases hrest.1
        have := lt_of_started hd' hb' (hl ▸ hd)
        omega

end Numbered

/-! ### Shares by number -/

namespace Logic

variable {S : Type} {R : S → Type} {E σ α A M : Type} [AddCommMonoid M]
variable {L : Logic S σ M} {sys : System S R E α σ A}
variable {Q : Nat → Except E α → M → σ → Prop}

/-- The shares add up to what the invariant counts, and handler `i` ends in `Q i`. -/
def BalancedAt (L : Logic S σ M) (sys : System S R E α σ A)
    (Q : Nat → Except E α → M → σ → Prop) (c : Config S R E α σ) : Prop :=
  ∃ m : Nat → M,
    (∀ i p, c.threads[i]? = some p → L.Safe sys.exec sys.fault (Q i) p (m i) c.world) ∧
      L.inv (∑ i ∈ Finset.range c.threads.length, m i) c.world

/-- The share of one handler and those of the others -/
theorem sum_shares (m : Nat → M) {i n : Nat} (hi : i < n) :
    ∃ F, (∑ k ∈ Finset.range n, m k) = m i + F ∧
      ∀ x, (∑ k ∈ Finset.range n, Function.update m i x k) = x + F := by
  have hmem := Finset.mem_range.mpr hi
  exact ⟨∑ k ∈ Finset.range n \ {i}, m k, Finset.sum_eq_add_sum_sdiff_singleton_of_mem hmem m,
    fun x => Finset.sum_update_of_mem hmem m x⟩

/-- The share of a handler that has been added -/
theorem sum_shares_succ (m : Nat → M) (n : Nat) (x : M) :
    (∑ k ∈ Finset.range (n + 1), Function.update m n x k) =
      x + ∑ k ∈ Finset.range n, m k := by
  rw [Finset.sum_range_succ, Function.update_self, add_comm]
  refine congrArg (x + ·) (Finset.sum_congr rfl fun k hk => ?_)
  rw [Function.update_of_ne (Finset.mem_range.mp hk).ne]

theorem balancedAt_start {w : σ} (h : L.inv 0 w) : BalancedAt L sys Q ⟨w, []⟩ :=
  ⟨fun _ => 0, fun i p hp => (by cases hp), by simpa using h⟩

/-- One step of the environment, which may start the next handler. -/
theorem BalancedAt.env_step
    {c c' : Config S R E α σ} {b : A}
    (henv : ∀ w' p F, sys.env b c.world = some (w', p) → L.inv F c.world →
      L.rely c.world w' ∧ (p = none → L.inv F w') ∧
        ∀ q, p = some q → ∃ m, L.inv (m + F) w' ∧
          L.Safe sys.exec sys.fault (Q c.threads.length) q m w')
    (hc : BalancedAt L sys Q c)
    (hstep : sys.step c (.env b) = some c') :
    BalancedAt L sys Q c' ∧ L.rely c.world c'.world := by
  obtain ⟨m, hsafe, hinv⟩ := hc
  simp only [System.step] at hstep
  cases hb : sys.env b c.world with
  | none =>
      simp [hb] at hstep
  | some wp =>
      obtain ⟨w, p⟩ := wp
      simp only [hb, Option.some.injEq] at hstep
      subst hstep
      obtain ⟨hrely, hnone, hsome⟩ := henv w p _ hb hinv
      refine ⟨?_, hrely⟩
      cases p with
      | none =>
          refine ⟨m, fun i p hp => (hsafe i p ?_).of_rely hrely, ?_⟩
          · simpa using hp
          · simpa using hnone rfl
      | some q =>
          obtain ⟨x, hx, hq⟩ := hsome q rfl
          refine ⟨Function.update m c.threads.length x, fun i p hp => ?_, ?_⟩
          · simp only [Option.toList_some] at hp
            by_cases hi : i = c.threads.length
            · subst hi
              rw [List.getElem?_concat_length, Option.some.injEq] at hp
              subst hp
              rw [Function.update_self]
              exact hq
            · rw [Function.update_of_ne hi]
              have hlt : i < c.threads.length := by
                have := (List.getElem?_eq_some_iff.mp hp).1
                rw [List.length_append, List.length_singleton] at this
                omega
              rw [List.getElem?_append_left hlt] at hp
              exact (hsafe i p hp).of_rely hrely
          · simp only [Option.toList_some, List.length_append, List.length_singleton]
            rw [sum_shares_succ]
            exact hx

/-- One step of a handler. -/
theorem BalancedAt.run_step
    (hidle : ∀ n m v, L.done m → Q n (.ok sys.idle) m v)
    {c c' : Config S R E α σ} {i j : Nat} {o : Outcome}
    (hc : BalancedAt L sys Q c)
    (hg : ∀ s, System.nextStatement c i = some s → L.guard c.world s o)
    (hstep : sys.step c (.run i j o) = some c') :
    BalancedAt L sys Q c' ∧ L.rely c.world c'.world := by
  obtain ⟨m, hsafe, hinv⟩ := hc
  simp only [System.step] at hstep
  cases hi : c.threads[i]? with
  | none =>
      simp [hi] at hstep
  | some p =>
      simp only [hi] at hstep
      have hlt : i < c.threads.length := (List.getElem?_eq_some_iff.mp hi).1
      have hp := hsafe i p hi
      obtain ⟨F, hsum, hset⟩ := sum_shares m hlt
      rw [hsum] at hinv
      -- what the other handlers are safe for, after a step to `w` that leaves `q` and `x`
      have hothers : ∀ {w q x}, L.rely c.world w →
          L.Safe sys.exec sys.fault (Q i) q x w → ∀ k r, (c.threads.set i q)[k]? = some r →
            L.Safe sys.exec sys.fault (Q k) r (Function.update m i x k) w := by
        intro w q x hrely hq k r hr
        by_cases hk : k = i
        · subst hk
          rw [List.getElem?_set_self hlt, Option.some.injEq] at hr
          subst hr
          rw [Function.update_self]
          exact hq
        · rw [List.getElem?_set_ne (Ne.symm hk)] at hr
          rw [Function.update_of_ne hk]
          exact (hsafe k r hr).of_rely hrely
      cases p with
      | ret a =>
          simp [System.advance] at hstep
      | raise e =>
          simp [System.advance] at hstep
      | call s k =>
          simp only [System.advance, List.append_nil, Option.some.injEq] at hstep
          subst hstep
          have hg' := hg s (by simp [System.nextStatement, hi])
          obtain ⟨x, hinv', hrely, hq⟩ := hp c.world F o (L.rely_refl _) hinv hg'
          refine ⟨⟨Function.update m i x, hothers hrely hq, ?_⟩, hrely⟩
          rw [List.length_set, hset]
          exact hinv'
      | pick n k =>
          by_cases hj : j < n
          · simp only [System.advance, hj, dite_true, List.append_nil,
              Option.some.injEq] at hstep
            subst hstep
            refine ⟨⟨Function.update m i (m i), hothers (L.rely_refl _) (hp ⟨j, hj⟩), ?_⟩,
              L.rely_refl _⟩
            rw [List.length_set, hset]
            exact hinv
          · simp [System.advance, hj] at hstep
      | leave s p =>
          simp only [System.advance, Option.some.injEq] at hstep
          subst hstep
          obtain ⟨m₁, m₂, hm, hs, hrest⟩ := hp
          have hleft : L.Safe sys.exec sys.fault (Q c.threads.length)
              (.call s (fun _ => .ret sys.idle)) m₁ c.world :=
            hs.mono fun _ _ _ _ hd v _ => hidle _ _ v hd
          refine ⟨⟨Function.update (Function.update m i m₂) c.threads.length m₁,
            fun k r hr => ?_, ?_⟩, L.rely_refl _⟩
          · by_cases hk : k = c.threads.length
            · subst hk
              have hlast : (c.threads.set i p ++ [.call s fun _ => .ret sys.idle])[
                  c.threads.length]? = some (.call s fun _ => .ret sys.idle) := by
                rw [List.getElem?_append_right (by simp)]
                simp
              rw [hlast, Option.some.injEq] at hr
              subst hr
              rw [Function.update_self]
              exact hleft
            · rw [Function.update_of_ne hk]
              have hklt : k < (c.threads.set i p).length := by
                have := (List.getElem?_eq_some_iff.mp hr).1
                rw [List.length_append, List.length_singleton] at this
                rw [List.length_set] at this ⊢
                omega
              rw [List.getElem?_append_left hklt] at hr
              exact hothers (L.rely_refl _) hrest k r hr
          · rw [List.length_append, List.length_set, List.length_singleton, sum_shares_succ,
              hset, ← add_assoc, ← hm]
            exact hinv

/-- **Soundness.** A run keeps the balance. -/
theorem balancedAt_runs
    (hidle : ∀ n m v, L.done m → Q n (.ok sys.idle) m v)
    (hguard : ∀ w s o, L.guard w s o)
    {c₀ c : Config S R E α σ} {as : List (Action A)}
    (henv : ∀ d b w' p F, Occurs sys c₀ as d (.env b) →
      sys.env b d.world = some (w', p) → L.inv F d.world →
      L.rely d.world w' ∧ (p = none → L.inv F w') ∧
        ∀ q, p = some q → ∃ m, L.inv (m + F) w' ∧
          L.Safe sys.exec sys.fault (Q d.threads.length) q m w')
    (hc : BalancedAt L sys Q c₀)
    (hrun : runs sys.step c₀ as = some c) :
    BalancedAt L sys Q c := by
  refine runs_invariant (I := BalancedAt L sys Q) ?_ hc (meets_occurs c₀ as) hrun
  intro d a d' hd hoccurs hstep
  cases a with
  | env b =>
      exact (hd.env_step (fun w' p F => henv d b w' p F hoccurs) hstep).1
  | run i j o =>
      exact (hd.run_step hidle (fun s _ => hguard _ s o) hstep).1

/-- A handler that has returned has ended in what goes with its number. -/
theorem BalancedAt.returned
    {c : Config S R E α σ} {i : Nat} {a : α}
    (hc : BalancedAt L sys Q c)
    (hi : c.threads[i]? = some (.ret a)) :
    ∃ m F, L.inv (m + F) c.world ∧ Q i (.ok a) m c.world := by
  obtain ⟨m, hsafe, hinv⟩ := hc
  obtain ⟨F, hsum, -⟩ := sum_shares m (List.getElem?_eq_some_iff.mp hi).1
  rw [hsum] at hinv
  exact ⟨m i, F, hinv, hsafe i _ hi c.world (L.rely_refl _)⟩

end Logic

end Async
end BookStore
