import Mathlib.Logic.Basic

/-!
# Loops without a bound

`loop body` repeats `body`, which either goes on with another state or ends with a result.
`LoopEnds body s b`: from the state `s` the loop ends with `b`, after some number of rounds.

* `loopEnds_of_measure`: an invariant, and a measure that each round lowers.
* `LoopEnds.invariant`: what holds of the result of a loop that ends.
-/

namespace BookStore

variable {σ β : Type} {body : σ → σ ⊕ β} {s s' : σ} {b b' : β}

/-- The loop, cut off after `fuel` rounds -/
def loop (body : σ → σ ⊕ β) : Nat → σ → Option β
  | 0, _ => none
  | fuel + 1, s =>
      match body s with
      | .inl s' => loop body fuel s'
      | .inr b => some b

def LoopEnds (body : σ → σ ⊕ β) (s : σ) (b : β) : Prop :=
  ∃ fuel, loop body fuel s = some b

theorem LoopEnds.done (h : body s = .inr b) : LoopEnds body s b :=
  ⟨1, by simp only [loop, h]⟩

theorem LoopEnds.round
    (h : body s = .inl s') (hrest : LoopEnds body s' b) :
    LoopEnds body s b := by
  obtain ⟨fuel, hfuel⟩ := hrest
  exact ⟨fuel + 1, by simpa only [loop, h] using hfuel⟩

/-- More rounds do not change the result. -/
theorem loop_add
    {fuel : Nat} (h : loop body fuel s = some b) (more : Nat) :
    loop body (fuel + more) s = some b := by
  induction fuel generalizing s with
  | zero =>
      cases h
  | succ fuel ih =>
      rw [Nat.add_right_comm]
      simp only [loop] at h ⊢
      cases hbody : body s with
      | inl s' =>
          rw [hbody] at h
          exact ih h
      | inr b' =>
          rw [hbody] at h
          exact h

theorem LoopEnds.unique (h : LoopEnds body s b) (h' : LoopEnds body s b') : b = b' := by
  obtain ⟨fuel, hfuel⟩ := h
  obtain ⟨fuel', hfuel'⟩ := h'
  have := loop_add hfuel fuel'
  rw [Nat.add_comm, loop_add hfuel' fuel] at this
  exact (Option.some.inj this).symm

/-- The result of a loop that ends. -/
theorem LoopEnds.invariant
    {I : σ → Prop} {Q : β → Prop}
    (hround : ∀ s s', I s → body s = .inl s' → I s')
    (hdone : ∀ s b, I s → body s = .inr b → Q b)
    (hs : I s) (h : LoopEnds body s b) :
    Q b := by
  obtain ⟨fuel, hfuel⟩ := h
  induction fuel generalizing s with
  | zero =>
      cases hfuel
  | succ fuel ih =>
      simp only [loop] at hfuel
      cases hbody : body s with
      | inl s' =>
          rw [hbody] at hfuel
          exact ih (hround s s' hs hbody) hfuel
      | inr b' =>
          rw [hbody, Option.some.injEq] at hfuel
          exact hfuel ▸ hdone s b' hs hbody

/-- A loop whose rounds lower a measure ends. -/
theorem loopEnds_of_measure
    {I : σ → Prop} (μ : σ → Nat)
    (hround : ∀ s s', I s → body s = .inl s' → I s' ∧ μ s' < μ s)
    (hs : I s) :
    ∃ b, LoopEnds body s b := by
  induction hn : μ s using Nat.strongRecOn generalizing s with
  | ind n ih =>
      cases hbody : body s with
      | inl s' =>
          obtain ⟨hs', hless⟩ := hround s s' hs hbody
          obtain ⟨b, hb⟩ := ih (μ s') (hn ▸ hless) hs' rfl
          exact ⟨b, hb.round hbody⟩
      | inr b =>
          exact ⟨b, .done hbody⟩

end BookStore
