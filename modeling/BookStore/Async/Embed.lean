import BookStore.Async.Sends

/-!
# A handler within a larger server

`p.embed f back g` is the handler `p` of one server as a handler of a larger one: `f` says which
statement of the larger server a statement is, `back` what its answer is, and `g` what an error
is.  What was proved about the statements of `p` carries over (`All.embed`, `Sends.embed`).
-/

namespace BookStore
namespace Async

variable {S S' : Type} {R : S → Type} {R' : S' → Type} {E E' α σ : Type}
variable {f : S → S'} {back : (s : S) → Except E' (R' (f s)) → Except E (R s)} {g : E → E'}

def Program.embed
    (f : S → S')
    (back : (s : S) → Except E' (R' (f s)) → Except E (R s))
    (g : E → E') :
    Program S R E α → Program S' R' E' α
  | .ret a => .ret a
  | .raise e => .raise (g e)
  | .call s k => .call (f s) fun x => (k (back s x)).embed f back g
  | .pick n k => .pick n fun j => (k j).embed f back g
  | .leave s p => .leave (f s) (p.embed f back g)

theorem Program.All.embed
    {P : S' → Prop} {p : Program S R E α}
    (h : p.All fun s => P (f s)) :
    (p.embed f back g).All P := by
  induction p with
  | ret a =>
      trivial
  | raise e =>
      trivial
  | call s k ih =>
      exact ⟨h.1, fun x => ih _ (h.2 _)⟩
  | pick n k ih =>
      exact fun j => ih j (h j)
  | leave s p ih =>
      exact ⟨h.1, ih h.2⟩

variable {exec : (s : S) → σ → Except E (σ × R s)} {fault : E}
variable {exec' : (s : S') → σ → Except E' (σ × R' s)} {fault' : E'}

/-- The larger server executes the statements as the smaller one does. -/
structure Executes
    (f : S → S') (back : (s : S) → Except E' (R' (f s)) → Except E (R s))
    (exec : (s : S) → σ → Except E (σ × R s)) (fault : E)
    (exec' : (s : S') → σ → Except E' (σ × R' s)) (fault' : E') : Prop where
  ok : ∀ s w w' r, exec s w = .ok (w', r) →
    ∃ r', exec' (f s) w = .ok (w', r') ∧ back s (.ok r') = .ok r
  error : ∀ s w e, exec s w = .error e →
    ∃ e', exec' (f s) w = .error e' ∧ back s (.error e') = .error e
  fault : ∀ s, back s (.error fault') = .error fault

theorem Executes.attempt
    (h : Executes f back exec fault exec' fault') (s : S) (o : Outcome) (w : σ) :
    (attempt exec' fault' (f s) o w).1 = (attempt exec fault s o w).1 ∧
      back s (attempt exec' fault' (f s) o w).2 = (attempt exec fault s o w).2 := by
  cases hexec : exec s w with
  | ok x =>
      obtain ⟨w', r⟩ := x
      obtain ⟨r', hr', hback⟩ := h.ok s w w' r hexec
      cases o with
      | ok =>
          simp only [Async.attempt, hexec, hr', hback, and_self]
      | fail =>
          exact ⟨rfl, h.fault s⟩
      | lost =>
          simp only [Async.attempt, hexec, hr', h.fault s, and_self]
  | error e =>
      obtain ⟨e', he', hback⟩ := h.error s w e hexec
      cases o with
      | ok =>
          simp only [Async.attempt, hexec, he', hback, and_self]
      | fail =>
          exact ⟨rfl, h.fault s⟩
      | lost =>
          simp only [Async.attempt, hexec, he', hback, and_self]

/-- A promise that a handler keeps in the smaller server, it keeps in the larger one. -/
theorem Sends.embed
    {P : Promise S σ} {P' : Promise S' σ}
    {guard : σ → S → Outcome → Prop} {guard' : σ → S' → Outcome → Prop}
    {Q : Except E α → σ → Prop} {Q' : Except E' α → σ → Prop}
    (hexec : Executes f back exec fault exec' fault')
    (hrely : ∀ w v, P'.rely w v → P.rely w v)
    (hsends : ∀ v s, P.sends v s → P'.sends v (f s))
    (hguard : ∀ v s o, guard' v (f s) o → guard v s o)
    (hok : ∀ a v, Q (.ok a) v → Q' (.ok a) v)
    (herror : ∀ e v, Q (.error e) v → Q' (.error (g e)) v)
    {p : Program S R E α} {w : σ}
    (h : Sends P guard exec fault Q p w) :
    Sends P' guard' exec' fault' Q' (p.embed f back g) w := by
  induction p generalizing w with
  | ret a =>
      exact fun v hv => hok a v (h v (hrely w v hv))
  | raise e =>
      exact fun v hv => herror e v (h v (hrely w v hv))
  | call s k ih =>
      intro v hv
      obtain ⟨hs, hnext⟩ := h v (hrely w v hv)
      refine ⟨hsends v s hs, fun o ho => ?_⟩
      obtain ⟨hworld, hanswer⟩ := hexec.attempt s o v
      dsimp only
      rw [hworld, hanswer]
      exact ih _ (hnext o (hguard v s o ho))
  | pick n k ih =>
      exact fun j => ih j (h j)
  | leave s p ih =>
      exact ⟨fun v hv => hsends v s (h.1 v (hrely w v hv)), ih h.2⟩

end Async
end BookStore
