import BookStore.Async.Outcomes

/-!
# `Promise.all` with answers

`gather s bs` sends the statements `s b` in any order and returns each `b` with its
answer, in the order in which they came in.  The first failure is thrown at once and the
statements still under way are not recalled.

If every statement can be executed in every state, the ends without an error are those of
the orders of the list: `ends_gather_ok`.
-/

namespace BookStore
namespace Async

variable {S : Type} {R : S → Type} {E σ β γ : Type}

namespace Program

section Definition

variable (s : β → S) (answer : (b : β) → R (s b) → γ)

def gatherOf : Nat → List β → List (β × γ) → Program S R E (List (β × γ))
  | 0, _, came => ret came
  | n + 1, bs, came =>
      pick bs.length fun j =>
        call (s (bs.get j)) fun x =>
          match x with
          | .ok r => gatherOf n (bs.eraseIdx j) (came ++ [(bs.get j, answer (bs.get j) r)])
          | .error e => leaveAll ((bs.eraseIdx j).map s) e

def gather (bs : List β) : Program S R E (List (β × γ)) :=
  gatherOf s answer bs.length bs []

end Definition

variable {s : β → S} {answer : (b : β) → R (s b) → γ}

theorem All.gather {P : S → Prop} {bs : List β} (hs : ∀ b, b ∈ bs → P (s b)) :
    (gather s answer bs : Program S R E (List (β × γ))).All P := by
  have key : ∀ n (bs : List β) (came : List (β × γ)), (∀ b, b ∈ bs → P (s b)) →
      (gatherOf s answer n bs came : Program S R E (List (β × γ))).All P := by
    intro n
    induction n with
    | zero =>
        intros
        trivial
    | succ n ih =>
        intro bs came hs j
        refine ⟨hs _ (List.get_mem bs j), fun x => ?_⟩
        have hrest : ∀ b, b ∈ bs.eraseIdx j → P (s b) :=
          fun b hb => hs b (List.mem_of_mem_eraseIdx hb)
        cases x with
        | ok r =>
            exact ih _ _ hrest
        | error e =>
            refine All.leaveAll fun t ht => ?_
            obtain ⟨b, hb, rfl⟩ := List.mem_map.mp ht
            exact hrest b hb
  exact key _ bs [] hs

theorem Live.gather (bs : List β) :
    (gather s answer bs : Program S R E (List (β × γ))).Live := by
  have key : ∀ n (bs : List β) (came : List (β × γ)), bs.length = n →
      (gatherOf s answer n bs came : Program S R E (List (β × γ))).Live := by
    intro n
    induction n with
    | zero =>
        intros
        trivial
    | succ n ih =>
        intro bs came hn
        refine ⟨by omega, fun j x => ?_⟩
        cases x with
        | ok r =>
            refine ih _ _ ?_
            rw [List.length_eraseIdx_of_lt j.isLt, hn]
            rfl
        | error e =>
            exact Program.Live.leaveAll _ e
  exact key _ bs [] rfl

end Program

/-! ### The ends without an error -/

section Ends

variable {exec : (s : S) → σ → Except E (σ × R s)} {fault : E} {faults : S → Outcome}
variable {s : β → S} {answer : (b : β) → R (s b) → γ}
variable {next : β → σ → σ} {given : β → σ → γ}

variable (next given) in
/-- The state and the answers once the statements have been executed in this order -/
def answered (l : List β) (w : σ) (came : List (β × γ)) : σ × List (β × γ) :=
  l.foldl (fun v b => (next b v.1, v.2 ++ [(b, given b v.1)])) (w, came)

theorem answered_cons (b : β) (l : List β) (w : σ) (came : List (β × γ)) :
    answered next given (b :: l) w came =
      answered next given l (next b w) (came ++ [(b, given b w)]) :=
  rfl

theorem perm_cons_iff_exists_get {bs l : List β} :
    l.Perm bs ↔ (bs = [] ∧ l = []) ∨
      ∃ (j : Fin bs.length) (l' : List β), l = bs.get j :: l' ∧ l'.Perm (bs.eraseIdx j) := by
  constructor
  · intro h
    cases l with
    | nil =>
        exact .inl ⟨h.symm.eq_nil, rfl⟩
    | cons b l =>
        obtain ⟨j, rfl⟩ := List.mem_iff_get.mp (h.mem_iff.mp List.mem_cons_self)
        exact .inr ⟨j, l, rfl, (List.perm_cons _).mp
          (h.trans (List.getElem_cons_eraseIdx_perm j.isLt).symm)⟩
  · rintro (⟨rfl, rfl⟩ | ⟨j, l', rfl, h⟩)
    · exact .refl _
    · exact (h.cons _).trans (List.getElem_cons_eraseIdx_perm j.isLt)

theorem ends_gather_ok
    (hexec : ∀ b w, ∃ r, exec (s b) w = .ok (next b w, r) ∧ answer b r = given b w)
    {bs : List β} {w w' : σ} {came : List (β × γ)} :
    (Program.gather s answer bs).Ends exec fault faults w w' (.ok came) ↔
      (∀ b, b ∈ bs → faults (s b) = .ok) ∧
        ∃ l : List β, l.Perm bs ∧ answered next given l w [] = (w', came) := by
  have key : ∀ n (bs : List β) (w : σ) (before : List (β × γ)), bs.length = n →
      ((Program.gatherOf s answer n bs before).Ends exec fault faults w w' (.ok came) ↔
        (∀ b, b ∈ bs → faults (s b) = .ok) ∧
          ∃ l : List β, l.Perm bs ∧ answered next given l w before = (w', came)) := by
    intro n
    induction n with
    | zero =>
        intro bs w before hn
        obtain rfl := List.length_eq_zero_iff.mp hn
        simp [Program.gatherOf, answered, eq_comm]
    | succ n ih =>
        intro bs w before hn
        have hne : bs ≠ [] := by
          rintro rfl
          cases hn
        have hlength : ∀ j : Fin bs.length, (bs.eraseIdx j).length = n := fun j => by
          rw [List.length_eraseIdx_of_lt j.isLt, hn]
          rfl
        have hmem : ∀ j : Fin bs.length, (∀ b, b ∈ bs → faults (s b) = .ok) ↔
            faults (s (bs.get j)) = .ok ∧ ∀ b, b ∈ bs.eraseIdx j → faults (s b) = .ok := by
          intro j
          rw [← List.forall_mem_cons (p := fun b => faults (s b) = .ok)]
          exact forall_congr' fun b => imp_congr_left
            (List.getElem_cons_eraseIdx_perm j.isLt).mem_iff.symm
        -- the statement that is sent first
        have hfirst : ∀ j : Fin bs.length,
            ((Program.call (s (bs.get j)) fun x =>
              match x with
              | .ok r => Program.gatherOf s answer n (bs.eraseIdx j)
                  (before ++ [(bs.get j, answer (bs.get j) r)])
              | .error e => Program.leaveAll ((bs.eraseIdx j).map s) e).Ends
                exec fault faults w w' (.ok came) ↔
              faults (s (bs.get j)) = .ok ∧ (∀ b, b ∈ bs.eraseIdx j → faults (s b) = .ok) ∧
                ∃ l' : List β, l'.Perm (bs.eraseIdx j) ∧
                  answered next given (bs.get j :: l') w before = (w', came)) := by
          intro j
          obtain ⟨r, hr, hanswer⟩ := hexec (bs.get j) w
          rw [Program.Ends]
          cases ho : faults (s (bs.get j)) with
          | ok =>
              simp only [attempt, hr, ih _ _ _ (hlength j), hanswer, answered_cons, true_and]
          | fail =>
              simp only [attempt, ends_leaveAll]
              simp
          | lost =>
              simp only [attempt, hr, ends_leaveAll]
              simp
        simp only [Program.gatherOf, Program.Ends] at hfirst ⊢
        constructor
        · rintro ⟨j, h⟩
          obtain ⟨hj, hrest, l', hl', hanswered⟩ := (hfirst j).mp h
          exact ⟨(hmem j).mpr ⟨hj, hrest⟩, _,
            perm_cons_iff_exists_get.mpr (.inr ⟨j, l', rfl, hl'⟩), hanswered⟩
        · rintro ⟨hall, l, hl, hanswered⟩
          rcases perm_cons_iff_exists_get.mp hl with ⟨hnil, -⟩ | ⟨j, l', rfl, hl'⟩
          · exact absurd hnil hne
          · exact ⟨j, (hfirst j).mpr
              ⟨((hmem j).mp hall).1, ((hmem j).mp hall).2, l', hl', hanswered⟩⟩
  exact key _ bs w [] rfl

end Ends

end Async
end BookStore
