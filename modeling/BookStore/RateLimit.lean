import Mathlib.Data.List.Basic
import Mathlib.Tactic.Ring
import Mathlib.Tactic.Linarith

/-!
# Instants that a rate limit lets pass

A limit counts the instants of the last `span`; once there are `most` of them, the next one
has to keep a distance of `gap` from all before it.

`RateLimited.spaced` and `RateLimited.length_window_le` are about any window of length `span`, not
only those that end in one of the instants: from the instant number `most` on there is a
gap before each, so that no more than `most + span / gap` lie in the window.
-/

namespace BookStore

variable {span gap most : Nat}

/-- The limit lets `t` pass after `ts`. -/
structure Passes (span gap most : Nat) (ts : List Nat) (t : Nat) : Prop where
  later : ∀ u, u ∈ ts → u ≤ t
  spaced : most ≤ (ts.filter fun u => decide (t ≤ u + span)).length → ∀ u, u ∈ ts → u + gap ≤ t

/-- The limit has let all instants pass, one after another. -/
inductive RateLimited (span gap most : Nat) : List Nat → Prop
  | nil : RateLimited span gap most []
  | snoc {ts : List Nat} {t : Nat} :
      RateLimited span gap most ts → Passes span gap most ts t →
        RateLimited span gap most (ts ++ [t])

/-- The instants from `a` to `a + span`. -/
def window (span a : Nat) (ts : List Nat) : List Nat :=
  ts.filter fun t => decide (a ≤ t) && decide (t ≤ a + span)

theorem mem_window {a t : Nat} {ts : List Nat} :
    t ∈ window span a ts ↔ t ∈ ts ∧ a ≤ t ∧ t ≤ a + span := by
  simp [window]

theorem window_snoc (a t : Nat) (ts : List Nat) :
    window span a (ts ++ [t]) =
      if a ≤ t ∧ t ≤ a + span then window span a ts ++ [t] else window span a ts := by
  have hlast : ([t].filter fun t => decide (a ≤ t) && decide (t ≤ a + span)) =
      if a ≤ t ∧ t ≤ a + span then [t] else [] := by
    simp [List.filter_cons]
  rw [window, List.filter_append, hlast]
  split_ifs
  · rfl
  · exact List.append_nil _

/-- The instants are in order. -/
theorem RateLimited.sorted {ts : List Nat} (h : RateLimited span gap most ts) :
    ts.Pairwise (· ≤ ·) := by
  induction h with
  | nil =>
      exact .nil
  | snoc _ hpasses ih =>
      refine List.pairwise_append.mpr ⟨ih, List.pairwise_singleton _ _, fun u hu t ht => ?_⟩
      rw [List.mem_singleton.mp ht]
      exact hpasses.later u hu

/-- A window that ends with `t` or later has been counted. -/
theorem Passes.spaced_window
    {a t : Nat} {ts : List Nat}
    (h : Passes span gap most ts t)
    (hspan : t ≤ a + span)
    (hmost : most ≤ (window span a ts).length) :
    ∀ u, u ∈ ts → u + gap ≤ t := by
  refine h.spaced (hmost.trans ?_)
  simp only [window, ← List.countP_eq_length_filter]
  refine List.countP_mono_left fun u _ hu => ?_
  simp only [Bool.and_eq_true, decide_eq_true_eq] at hu ⊢
  omega

/-- From number `most` on an instant of a window comes `gap` after the one before. -/
theorem RateLimited.spaced
    {ts : List Nat} (h : RateLimited span gap most ts) (a : Nat)
    {before after : List Nat} {u t : Nat}
    (hwindow : window span a ts = before ++ u :: t :: after)
    (hmost : most ≤ before.length + 1) :
    u + gap ≤ t := by
  induction h generalizing after with
  | nil =>
      cases before <;> cases hwindow
  | @snoc ts t' hlimited hpasses ih =>
      rw [window_snoc] at hwindow
      split_ifs at hwindow with hin
      · rcases List.eq_nil_or_concat after with rfl | ⟨after, t'', rfl⟩
        · -- the pair ends with the last instant
          have hsplit : window span a ts ++ [t'] = (before ++ [u]) ++ [t] := by
            simpa using hwindow
          obtain ⟨hbefore, ht⟩ := List.append_inj' hsplit rfl
          cases ht
          have hu : u ∈ window span a ts := by
            rw [hbefore]
            simp
          exact hpasses.spaced_window hin.2 (by simpa [hbefore] using hmost) u
            (mem_window.mp hu).1
        · have hsplit : window span a ts ++ [t'] = (before ++ u :: t :: after) ++ [t''] := by
            simpa using hwindow
          exact ih (List.append_inj' hsplit rfl).1
      · exact ih hwindow

/-- The last instant of a window is the later, the more there are. -/
theorem RateLimited.last_window
    {ts : List Nat} (h : RateLimited span gap most ts) (hpos : 0 < most) (a : Nat)
    {before : List Nat} {t : Nat}
    (hwindow : window span a ts = before ++ [t]) :
    a + gap * (before.length + 1 - most) ≤ t := by
  induction h generalizing before t with
  | nil =>
      cases before <;> cases hwindow
  | @snoc ts t' hlimited hpasses ih =>
      rw [window_snoc] at hwindow
      split_ifs at hwindow with hin
      · obtain ⟨hbefore, ht⟩ := List.append_inj' hwindow rfl
        cases ht
        by_cases hmost : most ≤ before.length
        · rcases List.eq_nil_or_concat before with rfl | ⟨before', u, rfl⟩
          · exact absurd hmost (by simpa using Nat.pos_iff_ne_zero.mp hpos)
          · rw [List.concat_eq_append] at hbefore hmost ⊢
            have hu : u ∈ window span a ts := by
              rw [hbefore]
              simp
            have hgap := hpasses.spaced_window hin.2 (by rwa [hbefore]) u
              (mem_window.mp hu).1
            have hlast := ih hbefore
            rw [List.length_append, List.length_singleton] at hmost ⊢
            have hstep : before'.length + 1 + 1 - most = before'.length + 1 - most + 1 := by
              omega
            rw [hstep, Nat.mul_succ]
            omega
        · have hnone : before.length + 1 - most = 0 := by
            omega
          rw [hnone, Nat.mul_zero]
          exact hin.1
      · exact ih hwindow

/-- **Windows.** No window of length `span` has more than `most + span / gap` instants. -/
theorem RateLimited.length_window_le
    {ts : List Nat} (h : RateLimited span gap most ts)
    (hpos : 0 < most) (hgap : 0 < gap) (a : Nat) :
    (window span a ts).length ≤ most + span / gap := by
  rcases List.eq_nil_or_concat (window span a ts) with hnil | ⟨before, t, hlast⟩
  · simp [hnil]
  · rw [List.concat_eq_append] at hlast
    have hlow := h.last_window hpos a hlast
    have ht : t ∈ window span a ts := by
      rw [hlast]
      simp
    have hhigh : t ≤ a + span := (mem_window.mp ht).2.2
    have hfit : gap * (before.length + 1 - most) ≤ span := by
      omega
    have := (Nat.le_div_iff_mul_le hgap).mpr (Nat.mul_comm gap _ ▸ hfit)
    rw [hlast, List.length_append, List.length_singleton]
    omega

end BookStore
