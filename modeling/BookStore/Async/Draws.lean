import BookStore.Async.Sequential

/-!
# Handlers that draw

`p.endings exec fault w` lists what the handler `p` ends in by itself and without failures, once
for each way in which its draws fall.  Where the draws are random and all alternatives of a draw
are equally likely, how often an end is listed is how likely it is.
-/

namespace BookStore
namespace Async

variable {S : Type} {R : S → Type} {E α β σ : Type}
variable (exec : (s : S) → σ → Except E (σ × R s)) (fault : E)

def Program.endings : Program S R E α → σ → List (σ × Except E α)
  | .ret a, w => [(w, .ok a)]
  | .raise e, w => [(w, .error e)]
  | .call s k, w =>
      (k (attempt exec fault s .ok w).2).endings (attempt exec fault s .ok w).1
  | .pick n k, w => (List.finRange n).flatMap fun j => (k j).endings w
  | .leave s p, w => p.endings (attempt exec fault s .ok w).1

/-- How a handler goes on from an end of the first part -/
def endingsAfter (f : α → Program S R E β) : σ × Except E α → List (σ × Except E β)
  | (v, .ok a) => (f a).endings exec fault v
  | (v, .error e) => [(v, .error e)]

variable {exec fault}

theorem mem_endings {p : Program S R E α} {w w' : σ} {x : Except E α} :
    (w', x) ∈ p.endings exec fault w ↔ p.Yields exec fault w w' x := by
  induction p generalizing w with
  | ret a =>
      simp [Program.endings]
  | raise e =>
      simp [Program.endings]
  | call s k ih =>
      exact ih _
  | pick n k ih =>
      simp only [Program.endings, Program.Yields, List.mem_flatMap, List.mem_finRange, true_and,
        ih]
  | leave s p ih =>
      exact ih

theorem endings_bind {p : Program S R E α} {f : α → Program S R E β} {w : σ} :
    (p.bind f).endings exec fault w =
      (p.endings exec fault w).flatMap (endingsAfter exec fault f) := by
  induction p generalizing w with
  | ret a =>
      exact (List.flatMap_singleton _ _).symm
  | raise e =>
      exact (List.flatMap_singleton _ _).symm
  | call s k ih =>
      exact ih _
  | pick n k ih =>
      simp only [Program.bind_pick, Program.endings, ih, List.flatMap_assoc]
  | leave s p ih =>
      exact ih

/-- A statement that answers -/
theorem endings_await_bind
    {s : S} {f : R s → Program S R E β} {w v : σ} {r : R s}
    (h : exec s w = .ok (v, r)) :
    ((Program.await s).bind f).endings exec fault w = (f r).endings exec fault v := by
  rw [Program.bind_await]
  simp only [Program.endings, attempt, h, Program.resume]

end Async
end BookStore
