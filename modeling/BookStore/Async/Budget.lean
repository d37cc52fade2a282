import BookStore.Async.Logic

/-!
# Budgets

Each statement has a cost in a commutative monoid `M`, and a program keeps to a
budget when the costs along every path through it add up to at most that budget.
A handler that keeps to its budget is safe when each statement keeps the
invariant for a holder of its cost: the budget is the share that pays for it.
-/

namespace BookStore
namespace Async

variable {S : Type} {R : S → Type} {E M α β : Type}
variable [AddCommMonoid M]

namespace Program

variable {cost : S → M}

/-- The statements along every path cost at most `m`. -/
def Costs (cost : S → M) : Program S R E α → M → Prop
  | ret _, _ => True
  | raise _, _ => True
  | call s k, m => ∃ n, m = cost s + n ∧ ∀ x, (k x).Costs cost n
  | pick _ k, m => ∀ j, (k j).Costs cost m
  | leave s p, m => ∃ n, m = cost s + n ∧ p.Costs cost n

/-- A larger budget is also kept. -/
theorem Costs.add
    {p : Program S R E α} {m : M}
    (h : p.Costs cost m) (n : M) :
    p.Costs cost (m + n) := by
  induction p generalizing m with
  | ret a =>
      trivial
  | raise e =>
      trivial
  | call s k ih =>
      obtain ⟨m', rfl, hk⟩ := h
      exact ⟨m' + n, add_assoc _ _ _, fun x => ih x (hk x)⟩
  | pick j k ih =>
      exact fun j => ih j (h j)
  | leave s p ih =>
      obtain ⟨m', rfl, hp⟩ := h
      exact ⟨m' + n, add_assoc _ _ _, ih hp⟩

/-- Statements that cost nothing keep to every budget. -/
theorem Costs.of_all
    {p : Program S R E α}
    (h : p.All (fun s => cost s = 0)) (m : M) :
    p.Costs cost m := by
  induction p with
  | ret a =>
      trivial
  | raise e =>
      trivial
  | call s k ih =>
      exact ⟨m, by rw [h.1, zero_add], fun x => ih x (h.2 x)⟩
  | pick j k ih =>
      exact fun j => ih j (h j)
  | leave s p ih =>
      exact ⟨m, by rw [h.1, zero_add], ih h.2⟩

theorem Costs.bind
    {p : Program S R E α} {f : α → Program S R E β} {m n : M}
    (hp : p.Costs cost m)
    (hf : ∀ a, (f a).Costs cost n) :
    (p.bind f).Costs cost (m + n) := by
  induction p generalizing m with
  | ret a =>
      rw [bind_ret, add_comm]
      exact (hf a).add m
  | raise e =>
      trivial
  | call s k ih =>
      obtain ⟨m', rfl, hk⟩ := hp
      exact ⟨m' + n, add_assoc _ _ _, fun x => ih x (hk x)⟩
  | pick j k ih =>
      exact fun j => ih j (hp j)
  | leave s p ih =>
      obtain ⟨m', rfl, hp⟩ := hp
      exact ⟨m' + n, add_assoc _ _ _, ih hp⟩

theorem Costs.tryCatch
    {p : Program S R E α} {h : E → Program S R E α} {m n : M}
    (hp : p.Costs cost m)
    (hh : ∀ e, (h e).Costs cost n) :
    (p.tryCatch h).Costs cost (m + n) := by
  induction p generalizing m with
  | ret a =>
      trivial
  | raise e =>
      have : (h e).Costs cost (m + n) := by
        rw [add_comm]
        exact (hh e).add m
      exact this
  | call s k ih =>
      obtain ⟨m', rfl, hk⟩ := hp
      exact ⟨m' + n, add_assoc _ _ _, fun x => ih x (hk x)⟩
  | pick j k ih =>
      exact fun j => ih j (hp j)
  | leave s p ih =>
      obtain ⟨m', rfl, hp⟩ := hp
      exact ⟨m' + n, add_assoc _ _ _, ih hp⟩

variable (cost) in
theorem Costs.await (s : S) :
    (await s : Program S R E (R s)).Costs cost (cost s) := by
  refine ⟨0, (add_zero _).symm, fun x => ?_⟩
  cases x <;> trivial

theorem Costs.leaveAll (ss : List S) (e : E) :
    (leaveAll ss e : Program S R E α).Costs cost (ss.map cost).sum := by
  induction ss with
  | nil =>
      trivial
  | cons s ss ih =>
      exact ⟨(ss.map cost).sum, List.sum_cons, ih⟩

variable (cost) in
/-- Statements sent together cost what they cost one after the other. -/
theorem Costs.promiseAll (ss : List S) :
    (promiseAll ss : Program S R E Unit).Costs cost (ss.map cost).sum := by
  have hsum : ∀ (ss : List S) (j : Fin ss.length),
      (ss.map cost).sum = cost (ss.get j) + ((ss.eraseIdx j).map cost).sum := by
    intro ss j
    have hperm : (ss.get j :: ss.eraseIdx j).Perm ss :=
      List.getElem_cons_eraseIdx_perm j.isLt
    rw [← List.sum_cons, ← List.map_cons]
    exact ((hperm.map cost).sum_eq).symm
  have key : ∀ n (ss : List S), ss.length = n →
      (promiseAllOf n ss : Program S R E Unit).Costs cost (ss.map cost).sum := by
    intro n
    induction n with
    | zero =>
        intros
        trivial
    | succ n ih =>
        intro ss hn j
        refine ⟨_, hsum ss j, fun x => ?_⟩
        cases x with
        | ok r =>
            refine ih _ ?_
            rw [List.length_eraseIdx_of_lt j.isLt, hn]
            rfl
        | error e =>
            exact Costs.leaveAll _ e
  exact key _ ss rfl

end Program

namespace Logic

variable {σ : Type}
variable {L : Logic S σ M} {exec : (s : S) → σ → Except E (σ × R s)} {fault : E}

variable (L exec fault) in
/-- While `K` holds, a holder of `c` may give it up for the statement. -/
def Pays (K : σ → Prop) (s : S) (c : M) : Prop :=
  ∀ v F o, K v → L.inv (c + F) v → L.guard v s o →
    L.inv F (attempt exec fault s o v).1 ∧
      L.rely v (attempt exec fault s o v).1

/-- A handler that keeps to its budget is safe while `K` lasts. -/
theorem Safe.of_costs
    {K : σ → Prop} {P : S → Prop} {cost : S → M} {Q : Except E α → M → σ → Prop}
    {p : Program S R E α} {m : M} {w : σ}
    (hK : ∀ v v', K v → L.rely v v' → K v')
    (hpays : ∀ s, P s → Pays L exec fault K s (cost s))
    (hall : p.All P)
    (hcosts : p.Costs cost m)
    (hdone : L.done 0)
    (hQ : ∀ x n v, K v → Q x n v)
    (hw : K w) :
    Safe L exec fault Q p m w := by
  induction p generalizing m w with
  | ret a =>
      exact fun v hwv => hQ _ _ v (hK _ _ hw hwv)
  | raise e =>
      exact fun v hwv => hQ _ _ v (hK _ _ hw hwv)
  | call s k ih =>
      obtain ⟨n, rfl, hk⟩ := hcosts
      intro v F o hwv hinv hg
      have hv := hK _ _ hw hwv
      obtain ⟨hinv', hrely⟩ :=
        hpays s hall.1 v (n + F) o hv (by rw [← add_assoc]; exact hinv) hg
      exact ⟨n, hinv', hrely, ih _ (hall.2 _) (hk _) (hK _ _ hv hrely)⟩
  | pick j k ih =>
      exact fun j => ih j (hall j) (hcosts j) hw
  | leave s p ih =>
      obtain ⟨n, rfl, hp⟩ := hcosts
      refine ⟨cost s, n, rfl, ?_, ih hall.2 hp hw⟩
      intro v F o hwv hinv hg
      obtain ⟨hinv', hrely⟩ := hpays s hall.1 v F o (hK _ _ hw hwv) hinv hg
      exact ⟨0, by rw [zero_add]; exact hinv', hrely, hdone⟩

end Logic

end Async
end BookStore
