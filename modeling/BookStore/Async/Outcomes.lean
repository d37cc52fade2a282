import BookStore.Async.Parallel

/-!
# Handlers whose statements fail

`p.Ends exec fault faults w w' x`: by itself the handler `p` may take the state `w` to
`w'` and end in `x`, where each statement ends as `faults` says; what is left to the
scheduler is decided in any way.  With `.ok` for every statement this is `Yields`.

The rules follow the program: `ends_bind`, `ends_tryCatch` and `ends_bind_await`.  The
one for a part that has one end only, `ends_bind_of_ok`, leaves no case to distinguish.
-/

namespace BookStore
namespace Async

variable {S : Type} {R : S → Type} {E α β γ σ : Type}

section Definition

variable (exec : (s : S) → σ → Except E (σ × R s)) (fault : E) (faults : S → Outcome)

def Program.Ends : Program S R E α → σ → σ → Except E α → Prop
  | .ret a, w, w', x => w' = w ∧ x = .ok a
  | .raise e, w, w', x => w' = w ∧ x = .error e
  | .call s k, w, w', x =>
      (k (attempt exec fault s (faults s) w).2).Ends (attempt exec fault s (faults s) w).1 w' x
  | .pick _ k, w, w', x => ∃ j, (k j).Ends w w' x
  | .leave s p, w, w', x => p.Ends (attempt exec fault s (faults s) w).1 w' x

end Definition

variable {exec : (s : S) → σ → Except E (σ × R s)} {fault : E} {faults : S → Outcome}
variable {w v w' : σ}

@[simp] theorem ends_ret {a : α} {x : Except E α} :
    (Program.ret a : Program S R E α).Ends exec fault faults w w' x ↔ w' = w ∧ x = .ok a :=
  Iff.rfl

@[simp] theorem ends_raise {e : E} {x : Except E α} :
    (Program.raise e : Program S R E α).Ends exec fault faults w w' x ↔
      w' = w ∧ x = .error e :=
  Iff.rfl

theorem ends_bind {p : Program S R E α} {f : α → Program S R E β} {x : Except E β} :
    (p.bind f).Ends exec fault faults w w' x ↔
      (∃ v a, p.Ends exec fault faults w v (.ok a) ∧ (f a).Ends exec fault faults v w' x) ∨
        ∃ e, p.Ends exec fault faults w w' (.error e) ∧ x = .error e := by
  induction p generalizing w with
  | ret a =>
      simp
  | raise e =>
      simp
  | call s k ih =>
      exact ih _
  | pick n k ih =>
      simp only [Program.bind_pick, Program.Ends, ih]
      constructor
      · rintro ⟨j, ⟨v, a, hp, hf⟩ | ⟨e, hp, hx⟩⟩
        · exact .inl ⟨v, a, ⟨j, hp⟩, hf⟩
        · exact .inr ⟨e, ⟨j, hp⟩, hx⟩
      · rintro (⟨v, a, ⟨j, hp⟩, hf⟩ | ⟨e, ⟨j, hp⟩, hx⟩)
        · exact ⟨j, .inl ⟨v, a, hp, hf⟩⟩
        · exact ⟨j, .inr ⟨e, hp, hx⟩⟩
  | leave s p ih =>
      exact ih

theorem ends_tryCatch {p : Program S R E α} {f : E → Program S R E α} {x : Except E α} :
    (p.tryCatch f).Ends exec fault faults w w' x ↔
      (∃ a, p.Ends exec fault faults w w' (.ok a) ∧ x = .ok a) ∨
        ∃ v e, p.Ends exec fault faults w v (.error e) ∧
          (f e).Ends exec fault faults v w' x := by
  induction p generalizing w with
  | ret a =>
      simp [Program.tryCatch]
  | raise e =>
      simp [Program.tryCatch]
  | call s k ih =>
      exact ih _
  | pick n k ih =>
      simp only [Program.tryCatch, Program.Ends, ih]
      constructor
      · rintro ⟨j, ⟨a, hp, hx⟩ | ⟨v, e, hp, hf⟩⟩
        · exact .inl ⟨a, ⟨j, hp⟩, hx⟩
        · exact .inr ⟨v, e, ⟨j, hp⟩, hf⟩
      · rintro (⟨a, ⟨j, hp⟩, hx⟩ | ⟨v, e, ⟨j, hp⟩, hf⟩)
        · exact ⟨j, .inl ⟨a, hp, hx⟩⟩
        · exact ⟨j, .inr ⟨v, e, hp, hf⟩⟩
  | leave s p ih =>
      exact ih

theorem ends_await {s : S} {x : Except E (R s)} :
    (Program.await s).Ends exec fault faults w w' x ↔
      w' = (attempt exec fault s (faults s) w).1 ∧
        x = (attempt exec fault s (faults s) w).2 := by
  simp only [Program.await, Program.Ends]
  cases (attempt exec fault s (faults s) w).2 with
  | ok r =>
      exact Iff.rfl
  | error e =>
      exact Iff.rfl

theorem ends_bind_await {s : S} {f : R s → Program S R E β} {x : Except E β} :
    ((Program.await s).bind f).Ends exec fault faults w w' x ↔
      (Program.resume f (attempt exec fault s (faults s) w).2).Ends exec fault faults
        (attempt exec fault s (faults s) w).1 w' x := by
  rw [Program.bind_await]
  exact Iff.rfl

/-- A statement that can be executed: done, refused, or done unanswered. -/
theorem ends_bind_await_of_ok {s : S} {f : R s → Program S R E β} {r : R s} {x : Except E β}
    (h : exec s w = .ok (v, r)) :
    ((Program.await s).bind f).Ends exec fault faults w w' x ↔
      faults s = .ok ∧ (f r).Ends exec fault faults v w' x ∨
      faults s = .fail ∧ w' = w ∧ x = .error fault ∨
      faults s = .lost ∧ w' = v ∧ x = .error fault := by
  rw [ends_bind_await]
  cases faults s with
  | ok =>
      simp [attempt, h, Program.resume]
  | fail =>
      simp [attempt, Program.resume]
  | lost =>
      simp [attempt, h, Program.resume]

/-- A statement that is executed and answers. -/
theorem ends_bind_await_of_done {s : S} {f : R s → Program S R E β} {r : R s} {x : Except E β}
    (ho : faults s = .ok)
    (h : exec s w = .ok (v, r)) :
    ((Program.await s).bind f).Ends exec fault faults w w' x ↔
      (f r).Ends exec fault faults v w' x := by
  rw [ends_bind_await]
  simp only [ho, attempt, h, Program.resume]

/-- A statement that cannot be executed. -/
theorem ends_bind_await_of_error {s : S} {f : R s → Program S R E β} {e : E} {x : Except E β}
    (h : exec s w = .error e) :
    ((Program.await s).bind f).Ends exec fault faults w w' x ↔
      w' = w ∧ x = .error (if faults s = .fail then fault else e) := by
  rw [ends_bind_await]
  cases faults s with
  | ok =>
      simp [attempt, h, Program.resume]
  | fail =>
      simp [attempt, Program.resume]
  | lost =>
      simp [attempt, h, Program.resume]

/-- Without failures a handler ends as it may end by itself. -/
theorem yields_iff_ends {p : Program S R E α} {x : Except E α} :
    p.Yields exec fault w w' x ↔ p.Ends exec fault (fun _ => .ok) w w' x := by
  induction p generalizing w with
  | ret a =>
      exact Iff.rfl
  | raise e =>
      exact Iff.rfl
  | call s k ih =>
      exact ih _
  | pick n k ih =>
      exact exists_congr fun j => ih j
  | leave s p ih =>
      exact ih

/-! ### Ends without an error -/

theorem ends_await_ok {s : S} {r : R s} :
    (Program.await s).Ends exec fault faults w w' (.ok r) ↔
      faults s = .ok ∧ exec s w = .ok (w', r) := by
  rw [ends_await]
  cases faults s with
  | ok =>
      cases h : exec s w with
      | ok wr =>
          simp [attempt, h, Prod.ext_iff, eq_comm]
      | error e =>
          simp [attempt, h]
  | fail =>
      simp [attempt]
  | lost =>
      cases h : exec s w with
      | ok wr =>
          simp [attempt, h]
      | error e =>
          simp [attempt, h]

theorem ends_bind_ok {p : Program S R E α} {f : α → Program S R E β} {b : β} :
    (p.bind f).Ends exec fault faults w w' (.ok b) ↔
      ∃ v a, p.Ends exec fault faults w v (.ok a) ∧
        (f a).Ends exec fault faults v w' (.ok b) := by
  rw [ends_bind]
  refine or_iff_left ?_
  rintro ⟨e, -, he⟩
  cases he

theorem ends_bind_await_ok {s : S} {f : R s → Program S R E β} {b : β} :
    ((Program.await s).bind f).Ends exec fault faults w w' (.ok b) ↔
      faults s = .ok ∧ ∃ v r, exec s w = .ok (v, r) ∧
        (f r).Ends exec fault faults v w' (.ok b) := by
  simp only [ends_bind_ok, ends_await_ok, and_assoc, exists_and_left]

/-! ### A part with one end -/

section OneEnd

variable {p : Program S R E α} {f : α → Program S R E β} {x : Except E β}

theorem ends_bind_of_ok {a : α}
    (h : ∀ w' x, p.Ends exec fault faults w w' x ↔ w' = v ∧ x = .ok a) :
    (p.bind f).Ends exec fault faults w w' x ↔ (f a).Ends exec fault faults v w' x := by
  simp [ends_bind, h]

end OneEnd

/-- One end of a loop whose bodies have one end each, given by `next`. -/
theorem ends_forEach
    {bs : List γ} {f : γ → Program S R E Unit} {next : γ → σ → σ} {x : Except E Unit}
    (h : ∀ b w w' x, (f b).Ends exec fault faults w w' x ↔ w' = next b w ∧ x = .ok ()) :
    (Program.forEach bs f).Ends exec fault faults w w' x ↔
      w' = bs.foldl (fun w b => next b w) w ∧ x = .ok () := by
  induction bs generalizing w with
  | nil =>
      exact Iff.rfl
  | cons b bs ih =>
      exact (ends_bind_of_ok (h b w)).trans ih

/-- A live handler comes to an end, however its statements end. -/
theorem exists_ends {p : Program S R E α} (hp : p.Live) (w : σ) :
    ∃ w' x, p.Ends exec fault faults w w' x := by
  induction p generalizing w with
  | ret a =>
      exact ⟨w, .ok a, rfl, rfl⟩
  | raise e =>
      exact ⟨w, .error e, rfl, rfl⟩
  | call s k ih =>
      exact ih _ (hp _) _
  | pick n k ih =>
      obtain ⟨w', x, h⟩ := ih ⟨0, hp.1⟩ (hp.2 _) w
      exact ⟨w', x, _, h⟩
  | leave s p ih =>
      exact ih hp _

/-- Nothing is left to the scheduler. -/
def Program.Determined : Program S R E α → Prop
  | .ret _ => True
  | .raise _ => True
  | .call _ k => ∀ x, (k x).Determined
  | .pick _ _ => False
  | .leave _ p => p.Determined

theorem Program.Determined.live {p : Program S R E α} (hp : p.Determined) : p.Live := by
  induction p with
  | ret a =>
      trivial
  | raise e =>
      trivial
  | call s k ih =>
      exact fun x => ih x (hp x)
  | pick n k ih =>
      cases hp
  | leave s p ih =>
      exact ih hp

theorem Program.Determined.bind {p : Program S R E α} {f : α → Program S R E β}
    (hp : p.Determined) (hf : ∀ a, (f a).Determined) : (p.bind f).Determined := by
  induction p with
  | ret a =>
      exact hf a
  | raise e =>
      trivial
  | call s k ih =>
      exact fun x => ih x (hp x)
  | pick n k ih =>
      cases hp
  | leave s p ih =>
      exact ih hp

theorem Program.Determined.tryCatch {p : Program S R E α} {f : E → Program S R E α}
    (hp : p.Determined) (hf : ∀ e, (f e).Determined) : (p.tryCatch f).Determined := by
  induction p with
  | ret a =>
      trivial
  | raise e =>
      exact hf e
  | call s k ih =>
      exact fun x => ih x (hp x)
  | pick n k ih =>
      cases hp
  | leave s p ih =>
      exact ih hp

theorem Program.Determined.await (s : S) :
    (Program.await s : Program S R E (R s)).Determined := by
  intro x
  cases x with
  | ok r =>
      trivial
  | error e =>
      trivial

/-- With nothing left to the scheduler there is one end. -/
theorem Program.Determined.unique {p : Program S R E α} {v' : σ} {x y : Except E α}
    (hp : p.Determined)
    (hx : p.Ends exec fault faults w w' x)
    (hy : p.Ends exec fault faults w v' y) :
    w' = v' ∧ x = y := by
  induction p generalizing w with
  | ret a =>
      exact ⟨hx.1.trans hy.1.symm, hx.2.trans hy.2.symm⟩
  | raise e =>
      exact ⟨hx.1.trans hy.1.symm, hx.2.trans hy.2.symm⟩
  | call s k ih =>
      exact ih _ (hp _) hx hy
  | pick n k ih =>
      cases hp
  | leave s p ih =>
      exact ih hp hx hy

/-! ### `Promise.all` -/

theorem Program.Live.leaveAll (ss : List S) (e : E) :
    (Program.leaveAll ss e : Program S R E α).Live := by
  induction ss with
  | nil =>
      trivial
  | cons s ss ih =>
      exact ih

theorem Program.Live.promiseAll (ss : List S) :
    (Program.promiseAll ss : Program S R E Unit).Live := by
  have key : ∀ n (ss : List S), ss.length = n →
      (Program.promiseAllOf n ss : Program S R E Unit).Live := by
    intro n
    induction n with
    | zero =>
        intros
        trivial
    | succ n ih =>
        intro ss hn
        refine ⟨by omega, fun j x => ?_⟩
        cases x with
        | ok r =>
            refine ih _ ?_
            rw [List.length_eraseIdx_of_lt j.isLt, hn]
            rfl
        | error e =>
            exact Live.leaveAll _ e
  exact key _ ss rfl

variable (exec fault faults) in
/-- The state once the statements have been sent, whatever they answer. -/
def sendAll (w : σ) (ss : List S) : σ :=
  ss.foldl (fun w s => (attempt exec fault s (faults s) w).1) w

theorem ends_leaveAll {ss : List S} {e : E} {x : Except E α} :
    (Program.leaveAll ss e : Program S R E α).Ends exec fault faults w w' x ↔
      w' = sendAll exec fault faults w ss ∧ x = .error e := by
  induction ss generalizing w with
  | nil =>
      exact Iff.rfl
  | cons s ss ih =>
      exact ih

/-- Each statement is sent once, in some order. -/
theorem Program.Ends.promiseAll_perm {ss : List S} {x : Except E Unit}
    (h : (Program.promiseAll ss).Ends exec fault faults w w' x) :
    ∃ l : List S, l.Perm ss ∧ w' = sendAll exec fault faults w l := by
  have key : ∀ n (ss : List S) (w : σ), ss.length = n →
      (Program.promiseAllOf n ss).Ends exec fault faults w w' x →
      ∃ l : List S, l.Perm ss ∧ w' = sendAll exec fault faults w l := by
    intro n
    induction n with
    | zero =>
        rintro ss w hn ⟨rfl, -⟩
        obtain rfl := List.length_eq_zero_iff.mp hn
        exact ⟨[], .refl _, rfl⟩
    | succ n ih =>
        rintro ss w hn ⟨j, h⟩
        have hperm : (ss.get j :: ss.eraseIdx j).Perm ss := List.getElem_cons_eraseIdx_perm j.isLt
        have hlength : (ss.eraseIdx j).length = n := by
          rw [List.length_eraseIdx_of_lt j.isLt, hn]
          rfl
        obtain ⟨l, hl, rfl⟩ : ∃ l : List S, l.Perm (ss.eraseIdx j) ∧ w' = sendAll exec fault
            faults (attempt exec fault (ss.get j) (faults (ss.get j)) w).1 l := by
          rw [Program.Ends] at h
          cases hx : (attempt exec fault (ss.get j) (faults (ss.get j)) w).2 with
          | ok r =>
              rw [hx] at h
              exact ih _ _ hlength h
          | error e =>
              rw [hx] at h
              exact ⟨_, .refl _, (ends_leaveAll.mp h).1⟩
        exact ⟨ss.get j :: l, (hl.cons _).trans hperm, rfl⟩
  exact key _ ss w rfl h

/-- Without an error every statement has answered. -/
theorem Program.Ends.promiseAll_ok {ss : List S}
    (h : (Program.promiseAll ss).Ends exec fault faults w w' (.ok ())) :
    ∀ s, s ∈ ss → faults s = .ok := by
  have key : ∀ n (ss : List S) (w : σ), ss.length = n →
      (Program.promiseAllOf n ss).Ends exec fault faults w w' (.ok ()) →
      ∀ s, s ∈ ss → faults s = .ok := by
    intro n
    induction n with
    | zero =>
        rintro ss w hn - s hs
        obtain rfl := List.length_eq_zero_iff.mp hn
        cases hs
    | succ n ih =>
        rintro ss w hn ⟨j, h⟩ s hs
        rw [Program.Ends] at h
        have hperm : (ss.get j :: ss.eraseIdx j).Perm ss := List.getElem_cons_eraseIdx_perm j.isLt
        cases hx : (attempt exec fault (ss.get j) (faults (ss.get j)) w).2 with
        | ok r =>
            rw [hx] at h
            rcases List.mem_cons.mp (hperm.mem_iff.mpr hs) with rfl | hs
            · exact (ends_await_ok.mp (ends_await.mpr ⟨rfl, hx.symm⟩)).1
            · refine ih _ _ ?_ h s hs
              rw [List.length_eraseIdx_of_lt j.isLt, hn]
              rfl
        | error e =>
            rw [hx] at h
            cases (ends_leaveAll.mp h).2
  exact key _ ss w rfl h

/-- Where every statement answers, there is no error. -/
theorem Program.Ends.promiseAll_answered
    {I : σ → Prop} {ss : List S} {x : Except E Unit}
    (hstep : ∀ s, s ∈ ss → ∀ w, I w →
      ∃ v r, attempt exec fault s (faults s) w = (v, .ok r) ∧ I v)
    (hw : I w)
    (h : (Program.promiseAll ss).Ends exec fault faults w w' x) :
    x = .ok () := by
  have key : ∀ n (ss : List S) (w : σ), ss.length = n →
      (∀ s, s ∈ ss → ∀ w, I w →
        ∃ v r, attempt exec fault s (faults s) w = (v, .ok r) ∧ I v) → I w →
      (Program.promiseAllOf n ss).Ends exec fault faults w w' x → x = .ok () := by
    intro n
    induction n with
    | zero =>
        rintro ss w - - - ⟨-, rfl⟩
        rfl
    | succ n ih =>
        rintro ss w hn hstep hw ⟨j, h⟩
        obtain ⟨v, r, hv, hI⟩ := hstep _ (List.get_mem ss j) w hw
        rw [Program.Ends, hv] at h
        refine ih _ v ?_ (fun s hs => hstep s (List.mem_of_mem_eraseIdx hs)) hI h
        rw [List.length_eraseIdx_of_lt j.isLt, hn]
        rfl
  exact key _ ss w rfl hstep hw h

theorem sendAll_keeps
    {Q : σ → Prop} {ss : List S}
    (hkeep : ∀ t, t ∈ ss → ∀ w, Q w → Q (attempt exec fault t (faults t) w).1)
    (hw : Q w) :
    Q (sendAll exec fault faults w ss) := by
  induction ss generalizing w with
  | nil =>
      exact hw
  | cons s ss ih =>
      exact ih (fun t ht => hkeep t (List.mem_cons_of_mem s ht)) (hkeep s (by simp) w hw)

/-- What one of the statements brings about and the others keep, is so in the end. -/
theorem sendAll_establishes
    {I Q : σ → Prop} {ss : List S} {s : S}
    (hs : s ∈ ss)
    (hinv : ∀ t, t ∈ ss → ∀ w, I w → I (attempt exec fault t (faults t) w).1)
    (hset : ∀ w, I w → Q (attempt exec fault s (faults s) w).1)
    (hkeep : ∀ t, t ∈ ss → ∀ w, I w → Q w → Q (attempt exec fault t (faults t) w).1)
    (hw : I w) :
    Q (sendAll exec fault faults w ss) := by
  obtain ⟨before, after, rfl⟩ := List.append_of_mem hs
  have hmid : I (sendAll exec fault faults w before) :=
    sendAll_keeps (fun t ht => hinv t (by simp [ht])) hw
  rw [sendAll, List.foldl_append, List.foldl_cons]
  have hboth := sendAll_keeps (Q := fun v => I v ∧ Q v)
    (fun t (ht : t ∈ after) v hv =>
      ⟨hinv t (by simp [ht]) v hv.1, hkeep t (by simp [ht]) v hv.1 hv.2⟩)
    ⟨hinv s (by simp) _ hmid, hset _ hmid⟩
  exact hboth.2

/-- What a single statement does to a part of the state, all of them do to it. -/
theorem sendAll_part
    {D : Type} (part : σ → D) {g : D → D} {ss : List S} {s : S}
    (hs : ∀ w, part (attempt exec fault s (faults s) w).1 = g (part w))
    (hothers : ∀ t, t ∈ ss → ∀ w, part (attempt exec fault t (faults t) w).1 = part w)
    {l : List S} (hl : l.Perm (s :: ss)) :
    part (sendAll exec fault faults w l) = g (part w) := by
  have hkept : ∀ (l : List S) (w : σ), (∀ t, t ∈ l → t ∈ ss) →
      part (sendAll exec fault faults w l) = part w := fun l w hl =>
    sendAll_keeps (Q := fun v => part v = part w)
      (fun t ht v hv => (hothers t (hl t ht) v).trans hv) rfl
  obtain ⟨before, after, rfl⟩ := List.append_of_mem (hl.mem_iff.mpr (List.mem_cons_self ..))
  have hrest : (before ++ after).Perm ss :=
    (List.perm_cons s).mp ((List.perm_middle.symm).trans hl)
  rw [sendAll, List.foldl_append, List.foldl_cons]
  refine (hkept after _ fun t ht => hrest.mem_iff.mp (List.mem_append_right _ ht)).trans ?_
  rw [hs]
  exact congrArg g (hkept before w fun t ht => hrest.mem_iff.mp (List.mem_append_left _ ht))

/-- What every statement that the handler can send does to the state, the handler does. -/
theorem Program.Ends.of_all
    {T : σ → σ → Prop} {p : Program S R E α} {x : Except E α}
    (hrefl : ∀ w, T w w)
    (htrans : ∀ u v w, T u v → T v w → T u w)
    (hp : p.All fun s => ∀ w, T w (attempt exec fault s (faults s) w).1)
    (h : p.Ends exec fault faults w w' x) :
    T w w' := by
  induction p generalizing w with
  | ret a =>
      exact h.1 ▸ hrefl w
  | raise e =>
      exact h.1 ▸ hrefl w
  | call s k ih =>
      exact htrans _ _ _ (hp.1 w) (ih _ (hp.2 _) h)
  | pick n k ih =>
      obtain ⟨j, h⟩ := h
      exact ih j (hp j) h
  | leave s p ih =>
      exact htrans _ _ _ (hp.1 w) (ih hp.2 h)

end Async
end BookStore
