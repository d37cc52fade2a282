import BookStore.Async.Carry
import BookStore.KeysFollow

/-!
# The Redis counters agree with the database

The keys follow what is free, and what is neither free nor reserved is owed: by a
checkout until it has handed its units to its job, by the job until it has
reserved them, by a refused checkout until it has given them back.  The code
loses sight of units: the job of a guest's transfer reserves nothing, a handler
that throws in between reserves and gives back nothing.

* `Honours` is what a handler that owes units has to meet; the server's handlers
  carry what they owe.
* `availability_agrees`: in every run whose statements mirror and honour, live
  keys and database agree whenever nothing is under way.
-/

namespace BookStore

open Async Program Logic

variable {dep : Deployment} {w w' : World}

/-! ### What a handler owes

A checkout that has taken units owes their reservation until it has handed them
to its job, the job until it has reserved them; a checkout that was refused owes
what it has to give back.
-/

/-- Some units are owed. -/
def Owes (g : List CheckoutItemDto) : Prop :=
  ∃ i, i ∈ g ∧ itemUnits g i.bookVariantId ≠ 0

instance (g : List CheckoutItemDto) : Decidable (Owes g) := by
  unfold Owes
  infer_instance

theorem itemUnits_of_not_owes
    {g : List CheckoutItemDto}
    (h : ¬ Owes g) :
    itemUnits g = 0 := by
  funext v
  by_cases hv : v ∈ g.map (·.bookVariantId)
  · obtain ⟨i, hi, rfl⟩ := List.mem_map.mp hv
    by_contra hne
    exact h ⟨i, hi, hne⟩
  · exact itemUnits_of_not_mem hv

theorem itemUnits_nil : itemUnits [] = 0 := rfl

theorem not_owes_nil : ¬ Owes [] := by
  rintro ⟨i, hi, -⟩
  cases hi

/-- The job of the payload reserves its units. -/
def Reserves (payload : CheckoutJobPayload) : Prop :=
  payload.isError = false ∧ (payload.isGuest = true → payload.payment = .cod)

instance (payload : CheckoutJobPayload) : Decidable (Reserves payload) := by
  unfold Reserves
  infer_instance

/-- What the job of the payload reserves. -/
def toReserve (payload : CheckoutJobPayload) : List CheckoutItemDto :=
  if Reserves payload then reservedVariant payload else []

/-- What a handler owes when it starts. -/
def owedAtStart : Event → World → List CheckoutItemDto
  | .startJob i, w => (w.queue[i]?).elim [] toReserve
  | _, _ => []

/-- What a handler that owed `g` owes once a statement has been answered. -/
def owedAfter (g : List CheckoutItemDto) :
    (s : Stmt) → Except Failure (Response s) → List CheckoutItemDto
  | .decrbyAvailable items, .ok results =>
      match firstShort items results with
      | none => items
      | some i => [i]
  | .incrbyAvailable _ _, _ => []
  | .updateReservedByIds _ .job, _ => []
  | .enqueueCheckout _, _ => []
  | _, _ => g

variable (dep) in
/-- The server; each handler remembers what it owes. -/
def owingServer :
    System (List CheckoutItemDto × Stmt) (fun s => Response s.2) Failure
      (Except Failure Answer × List CheckoutItemDto) World Event :=
  (server dep).carrying owedAfter owedAtStart []

variable (dep) in
/-- A handler that owes `g` does not lose sight of it. -/
def Honours (w : World) (g : List CheckoutItemDto) (s : Stmt) (o : Outcome) : Prop :=
  match s with
  | .decrbyAvailable items => o = .lost → ¬ Owes (claimed items w)
  | .incrbyAvailable _ _ => Owes g → o ≠ .fail
  | .updateReservedByIds payload .job =>
      if o = .fail then ¬ Owes g
      else ∀ i, i ∈ payload →
        grantedUnits payload w i.bookVariantId = itemUnits payload i.bookVariantId
  | .enqueueCheckout payload => Owes g → o ≠ .fail ∧ Reserves payload
  | s => Owes g → o = .ok ∧ (exec dep s w).isOk

instance (w : World) (g : List CheckoutItemDto) (s : Stmt) (o : Outcome) :
    Decidable (Honours dep w g s o) := by
  apply Stmt.casesOn (motive := fun s => Decidable (Honours dep w g s o)) s
  case updateReservedByIds =>
    intro payload origin
    apply Booking.casesOn
      (motive := fun b => Decidable (Honours dep w g (.updateReservedByIds payload b) o))
      origin <;> unfold Honours <;> infer_instance
  all_goals
    intros
    unfold Honours
    infer_instance

variable (dep) in
/-- The keys are moved along, and what is owed is not lost. -/
def InStep (w : World) (s : List CheckoutItemDto × Stmt) (o : Outcome) : Prop :=
  MirrorsIfExecuted dep w s.2 o ∧ Honours dep w s.1 s.2 o

instance (w : World) (s : List CheckoutItemDto × Stmt) (o : Outcome) :
    Decidable (InStep dep w s o) := by
  unfold InStep
  infer_instance

/-! ### The invariant -/

/-- The units that the queued jobs are to reserve. -/
def queuedUnits (w : World) (v : Nat) : Int :=
  (w.queue.map fun payload => itemUnits (toReserve payload) v).sum

/-- The keys follow, and what is not free is owed by a handler or a queued job. -/
structure AgreementInv (m : Nat → Int) (w : World) : Prop where
  keys : KeysFollow w
  owed : ∀ v, w.history.held v - w.history.bookedByJobs v + w.history.givingBack v =
    m v + queuedUnits w v
  /-- A guest's job has an address to write. -/
  addressed : ∀ payload, payload ∈ w.queue → payload.isGuest = true →
    payload.guestAddress ≠ none

variable {m F : Nat → Int}

/-- Statements that leave what is owed alone. -/
def LeavesOwed : Stmt → Prop
  | .decrbyAvailable _ => False
  | .incrbyAvailable _ _ => False
  | .updateReservedByIds _ origin => origin = .checkout
  | .enqueueCheckout _ => False
  | _ => True

theorem exec_sameOwed
    {s : Stmt} {r : Response s}
    (hs : LeavesOwed s)
    (h : exec dep s w = .ok (w', r)) :
    w'.queue = w.queue ∧ w'.history.held = w.history.held ∧
      w'.history.bookedByJobs = w.history.bookedByJobs ∧
      w'.history.givingBack = w.history.givingBack := by
  cases s with
  | decrbyAvailable items => cases hs
  | incrbyAvailable v q => cases hs
  | enqueueCheckout payload => cases hs
  | updateReservedByIds payload origin =>
      obtain rfl : origin = .checkout := hs
      simp only [exec] at h
      split at h
      · cases h
      · cases h
        exact ⟨rfl, rfl, rfl, rfl⟩
  | createItems k items =>
      simp only [exec] at h
      split at h
      · cases h
      · split at h <;> cases h
        exact ⟨rfl, rfl, rfl, rfl⟩
  | _ =>
      simp only [exec] at h
      first
        | (cases h; exact ⟨rfl, rfl, rfl, rfl⟩)
        | (split at h <;> cases h
           all_goals exact ⟨rfl, rfl, rfl, rfl⟩)

theorem exec_leavesOwed
    {s : Stmt} {r : Response s}
    (hs : LeavesOwed s)
    (hinv : AgreementInv m w)
    (hmirrors : Mirrors w s)
    (h : exec dep s w = .ok (w', r)) :
    AgreementInv m w' := by
  obtain ⟨hqueue, hheld, hbooked, hback⟩ := exec_sameOwed hs h
  refine ⟨(exec_keysFollow_iff hinv.keys h).mpr hmirrors, fun v => ?_, ?_⟩
  · rw [hheld, hbooked, hback, queuedUnits, hqueue]
    exact hinv.owed v
  · rw [hqueue]
    exact hinv.addressed

/-- What a script has claimed is owed. -/
theorem exec_decrbyAvailable_owed
    {items : List CheckoutItemDto} {r : Response (.decrbyAvailable items)}
    (hinv : AgreementInv F w)
    (hmirrors : Mirrors w (.decrbyAvailable items))
    (h : exec dep (.decrbyAvailable items) w = .ok (w', r)) :
    AgreementInv (itemUnits (claimed items w) + F) w' ∧
      owedAfter [] (.decrbyAvailable items) (.ok r) = claimed items w := by
  have hkeys := (exec_keysFollow_iff hinv.keys h).mpr hmirrors
  simp only [exec] at h
  split at h
  · rename_i hshort
    cases h
    refine ⟨⟨hkeys, fun v => ?_, hinv.addressed⟩, by simp only [owedAfter, claimed, hshort]⟩
    have := hinv.owed v
    simp only [Pi.add_apply, claimed, hshort, addItems, itemUnits, queuedUnits] at this ⊢
    omega
  · rename_i i hshort
    cases h
    refine ⟨⟨hkeys, fun v => ?_, hinv.addressed⟩, by simp only [owedAfter, claimed, hshort]⟩
    have := hinv.owed v
    simp only [Pi.add_apply, claimed, hshort, addItems, itemUnits, queuedUnits] at this ⊢
    omega

/-- What was to be given back is owed no more. -/
theorem exec_incrbyAvailable_owed
    {v : Nat} {q : Int} {r : Response (.incrbyAvailable v q)}
    (hinv : AgreementInv (itemUnits [⟨v, q⟩] + F) w)
    (hmirrors : Mirrors w (.incrbyAvailable v q))
    (h : exec dep (.incrbyAvailable v q) w = .ok (w', r)) :
    AgreementInv F w' := by
  have hkeys := (exec_keysFollow_iff hinv.keys h).mpr hmirrors
  cases h
  refine ⟨hkeys, fun u => ?_, hinv.addressed⟩
  have := hinv.owed u
  have hnil : quantityOf u [] = 0 := rfl
  simp only [Pi.add_apply, addItems, itemUnits, queuedUnits, List.map_cons, List.map_nil,
    quantityOf_cons, hnil] at this ⊢
  split_ifs at this ⊢ <;> omega

/-- What the job has reserved is owed no more. -/
theorem exec_updateReservedByIds_owed
    {payload : List CheckoutItemDto} {r : Response (.updateReservedByIds payload .job)}
    (hinv : AgreementInv (itemUnits payload + F) w)
    (hgranted : ∀ i, i ∈ payload →
      grantedUnits payload w i.bookVariantId = itemUnits payload i.bookVariantId)
    (h : exec dep (.updateReservedByIds payload .job) w = .ok (w', r)) :
    AgreementInv F w' := by
  have hkeys := (exec_keysFollow_iff hinv.keys h).mpr trivial
  have hall : ∀ v, grantedUnits payload w v = itemUnits payload v :=
    (forall_iff_forall_mem (l := payload) (f := (·.bookVariantId)) fun v hv => by
      rw [grantedUnits_of_not_mem hv, itemUnits_of_not_mem hv]).mpr hgranted
  simp only [exec] at h
  split at h
  · cases h
  cases h
  refine ⟨hkeys, fun v => ?_, hinv.addressed⟩
  have := hinv.owed v
  have hv := hall v
  simp only [Pi.add_apply, grantedUnits, queuedUnits] at this hv ⊢
  omega

/-- A job takes over what it is to reserve. -/
theorem exec_enqueueCheckout_owed
    {payload : CheckoutJobPayload} {r : Response (.enqueueCheckout payload)}
    (hinv : AgreementInv (itemUnits (toReserve payload) + F) w)
    (haddress : payload.isGuest = true → payload.guestAddress ≠ none)
    (h : exec dep (.enqueueCheckout payload) w = .ok (w', r)) :
    AgreementInv F w' := by
  have hkeys := (exec_keysFollow_iff hinv.keys h).mpr trivial
  cases h
  refine ⟨hkeys, fun v => ?_, fun p hp => ?_⟩
  · have := hinv.owed v
    simp only [Pi.add_apply, queuedUnits, List.map_append, List.map_cons, List.map_nil,
      List.sum_append, List.sum_cons, List.sum_nil] at this ⊢
    omega
  · rcases List.mem_append.mp hp with hp | hp
    · exact hinv.addressed p hp
    · rw [List.mem_singleton.mp hp]
      exact haddress

/-! ### The logic -/

variable (dep) in
/-- Handlers hold what they owe. -/
def agreementLogic : Logic (List CheckoutItemDto × Stmt) World (Nat → Int) where
  inv := AgreementInv
  rely := fun _ _ => True
  rely_refl := fun _ => trivial
  rely_trans := fun _ _ _ _ _ => trivial
  guard := InStep dep
  done := fun m => m = 0

section Statements

variable {g : List CheckoutItemDto}

/-- A statement that leaves what is owed alone; it fails only if nothing is owed. -/
theorem safe_leavesOwed
    {s : Stmt} {Q : Except Failure (Response s) → (Nat → Int) → World → Prop}
    (hs : LeavesOwed s)
    (hok : ∀ v v' r, exec dep s v = .ok (v', r) → Q (.ok r) m v')
    (herror : ¬ Owes g → ∀ e v, Q (.error e) m v) :
    CarryStatementSafe (agreementLogic dep) (exec dep) .database s Q g m w := by
  refine CarryStatementSafe.of_attempt fun v F o _ hinv hguard => ?_
  have hanswered : Owes g → o = .ok ∧ (exec dep s v).isOk := by
    have hhonours := hguard.2
    cases s with
    | updateReservedByIds payload origin =>
        obtain rfl : origin = .checkout := hs
        exact hhonours
    | _ =>
        first | exact hhonours | cases hs
  have hkeeps : ∀ v' r, o ≠ .fail → exec dep s v = .ok (v', r) → AgreementInv (m + F) v' :=
    fun v' r ho h => exec_leavesOwed hs hinv (mirrors_of_exec hguard.1 ho h) h
  by_cases howes : Owes g
  · obtain ⟨rfl, hisOk⟩ := hanswered howes
    cases h : exec dep s v with
    | error e =>
        rw [h] at hisOk
        cases hisOk
    | ok x =>
        obtain ⟨v', r⟩ := x
        simp only [attempt, h]
        exact ⟨m, hkeeps v' r (by simp) h, trivial, hok v v' r h⟩
  · refine attempt_cases (motive := fun x => ∃ m', AgreementInv (m' + F) x.1 ∧ True ∧
      Q x.2 m' x.1) (fun e => ⟨m, hinv, trivial, herror howes e v⟩) fun v' r ho h => ?_
    exact ⟨⟨m, hkeeps v' r ho h, trivial, hok v v' r h⟩,
      ⟨m, hkeeps v' r ho h, trivial, herror howes _ v'⟩⟩

/-- A script that is answered leaves its checkout owing what it has claimed. -/
theorem safe_decrbyAvailable
    {items : List CheckoutItemDto}
    {Q : Except Failure (List Int) → (Nat → Int) → World → Prop}
    (hok : ∀ results v,
      Q (.ok results) (itemUnits (owedAfter [] (.decrbyAvailable items) (.ok results))) v)
    (herror : ∀ e v, Q (.error e) 0 v) :
    CarryStatementSafe (agreementLogic dep) (exec dep) .database (.decrbyAvailable items)
      Q [] 0 w := by
  refine CarryStatementSafe.of_attempt fun v F o _ hinv hguard => ?_
  have hinv : AgreementInv F v := by rwa [← zero_add F]
  cases h : exec dep (.decrbyAvailable items) v with
  | error e =>
      cases o <;> simp only [attempt, h] <;>
        exact ⟨0, by rwa [zero_add], trivial, herror _ v⟩
  | ok x =>
      obtain ⟨v', r⟩ := x
      cases o with
      | ok =>
          obtain ⟨hinv', howed⟩ :=
            exec_decrbyAvailable_owed hinv (mirrors_of_exec hguard.1 (by simp) h) h
          simp only [attempt, h]
          exact ⟨_, hinv', trivial, howed ▸ hok r v'⟩
      | fail =>
          exact ⟨0, by rwa [zero_add], trivial, herror _ v⟩
      | lost =>
          obtain ⟨hinv', -⟩ :=
            exec_decrbyAvailable_owed hinv (mirrors_of_exec hguard.1 (by simp) h) h
          rw [itemUnits_of_not_owes (hguard.2 rfl)] at hinv'
          simp only [attempt, h]
          exact ⟨0, hinv', trivial, herror _ v'⟩

/-- What has been claimed in vain is given back. -/
theorem safe_incrbyAvailable
    {i : CheckoutItemDto} {Q : Except Failure Unit → (Nat → Int) → World → Prop}
    (hQ : ∀ x v, Q x 0 v) :
    CarryStatementSafe (agreementLogic dep) (exec dep) .database
      (.incrbyAvailable i.bookVariantId i.quantity) Q [i] (itemUnits [i]) w := by
  refine CarryStatementSafe.of_attempt fun v F o _ hinv hguard => ?_
  by_cases ho : o = .fail
  · subst ho
    have hnone : ¬ Owes [i] := fun howes => hguard.2 howes rfl
    rw [itemUnits_of_not_owes hnone] at hinv
    exact ⟨0, hinv, trivial, hQ _ v⟩
  · have h : exec dep (.incrbyAvailable i.bookVariantId i.quantity) v = .ok (_, ()) := rfl
    have hinv' := exec_incrbyAvailable_owed hinv (mirrors_of_exec hguard.1 ho h) h
    have hattempt : (attempt (exec dep) Failure.database _ o v).1 = _ := attempt_fst ho h
    rw [← hattempt, ← zero_add F] at hinv'
    exact ⟨0, hinv', trivial, hQ _ _⟩

/-- The job reserves what it owes. -/
theorem safe_updateReservedByIds
    {Q : Except Failure Unit → (Nat → Int) → World → Prop}
    (hQ : ∀ x v, Q x 0 v) :
    CarryStatementSafe (agreementLogic dep) (exec dep) .database
      (.updateReservedByIds g .job) Q g (itemUnits g) w := by
  refine CarryStatementSafe.of_attempt fun v F o _ hinv hguard => ?_
  have hhonours := hguard.2
  simp only [Honours] at hhonours
  have hkept : ¬ Owes g → AgreementInv (0 + F) v := by
    intro hnone
    rw [itemUnits_of_not_owes hnone] at hinv
    exact hinv
  cases h : exec dep (.updateReservedByIds g .job) v with
  | error e =>
      -- only an empty list is refused
      have hnil : g = [] := by
        simp only [exec] at h
        split at h
        · assumption
        · cases h
      subst hnil
      cases o <;> simp only [attempt, h] <;>
        exact ⟨0, hkept not_owes_nil, trivial, hQ _ v⟩
  | ok x =>
      by_cases ho : o = .fail
      · rw [if_pos ho] at hhonours
        subst ho
        exact ⟨0, hkept hhonours, trivial, hQ _ v⟩
      · rw [if_neg ho] at hhonours
        have hinv' := exec_updateReservedByIds_owed hinv hhonours h
        have hattempt : (attempt (exec dep) Failure.database _ o v).1 = _ := attempt_fst ho h
        rw [← hattempt, ← zero_add F] at hinv'
        exact ⟨0, hinv', trivial, hQ _ _⟩

/-- The checkout hands over to its job what it owes. -/
theorem safe_enqueueCheckout
    {payload : CheckoutJobPayload}
    {Q : Except Failure Unit → (Nat → Int) → World → Prop}
    (haddress : payload.isGuest = true → payload.guestAddress ≠ none)
    (hreserves : Reserves payload → itemUnits (reservedVariant payload) = itemUnits g)
    (hQ : ∀ x v, Q x 0 v) :
    CarryStatementSafe (agreementLogic dep) (exec dep) .database
      (.enqueueCheckout payload) Q g (itemUnits g) w := by
  refine CarryStatementSafe.of_attempt fun v F o _ hinv hguard => ?_
  by_cases ho : o = .fail
  · subst ho
    have hnone : ¬ Owes g := fun howes => (hguard.2 howes).1 rfl
    rw [itemUnits_of_not_owes hnone] at hinv
    exact ⟨0, hinv, trivial, hQ _ v⟩
  · have hunits : itemUnits (toReserve payload) = itemUnits g := by
      by_cases hr : Reserves payload
      · rw [toReserve, if_pos hr, hreserves hr]
      · have hnone : ¬ Owes g := fun howes => hr (hguard.2 howes).2
        rw [toReserve, if_neg hr, itemUnits_nil, itemUnits_of_not_owes hnone]
    have h : exec dep (.enqueueCheckout payload) v = .ok (_, ()) := rfl
    rw [← hunits] at hinv
    have hinv' := exec_enqueueCheckout_owed hinv haddress h
    have hattempt : (attempt (exec dep) Failure.database _ o v).1 = _ := attempt_fst ho h
    rw [← hattempt, ← zero_add F] at hinv'
    exact ⟨0, hinv', trivial, hQ _ _⟩

end Statements

/-! ### The services -/

section Services

variable {α β : Type}
variable {g : List CheckoutItemDto}

variable (dep) in
/-- The handler, owing `g` and holding `m`, keeps the invariant and ends in `Q`. -/
abbrev Owing
    (Q : Except Failure α → List CheckoutItemDto → (Nat → Int) → World → Prop)
    (p : Service α) (g : List CheckoutItemDto) (m : Nat → Int) (w : World) : Prop :=
  CarrySafe (agreementLogic dep) (exec dep) .database owedAfter Q p g m w

theorem owedAfter_of_leavesOwed
    {s : Stmt} (hs : LeavesOwed s) (x : Except Failure (Response s)) :
    owedAfter g s x = g := by
  cases s with
  | decrbyAvailable items => cases hs
  | incrbyAvailable v q => cases hs
  | enqueueCheckout payload => cases hs
  | updateReservedByIds payload origin =>
      obtain rfl : origin = .checkout := hs
      rfl
  | _ => rfl

theorem harmless_of_leavesOwed
    {s : Stmt} (hs : LeavesOwed s) :
    Harmless (R := fun s : List CheckoutItemDto × Stmt => Response s.2)
      (agreementLogic dep) (fun s => exec dep s.2) .database (fun _ => True) (g, s) := by
  intro v m o _ hinv hguard
  rw [attempt_carrying]
  refine attempt_cases (motive := fun x => AgreementInv m x.1 ∧ True)
    (fun _ => ⟨hinv, trivial⟩) fun v' r ho h => ?_
  have hinv' := exec_leavesOwed hs hinv (mirrors_of_exec hguard.1 ho h) h
  exact ⟨⟨hinv', trivial⟩, hinv', trivial⟩

/-- A part that leaves what is owed alone. -/
theorem owing_of_all
    {Q : Except Failure α → List CheckoutItemDto → (Nat → Int) → World → Prop}
    {p : Service α}
    (hp : p.All LeavesOwed)
    (hQ : ∀ x v, Q x g m v) :
    Owing dep Q p g m w :=
  CarrySafe.of_all (K := fun _ => True) (fun _ _ _ _ => trivial)
    (hp.mono fun _ hs => ⟨harmless_of_leavesOwed hs, owedAfter_of_leavesOwed hs⟩) rfl
    (fun x v _ => hQ x v) trivial

/-- A statement that leaves what is owed alone, then the rest. -/
theorem owing_await_bind
    {Q : Except Failure β → List CheckoutItemDto → (Nat → Int) → World → Prop}
    {s : Stmt} {f : Response s → Service β}
    (hs : LeavesOwed s)
    (hok : ∀ v v' r, exec dep s v = .ok (v', r) → Owing dep Q (f r) g m v')
    (herror : ¬ Owes g → ∀ e v, Q (.error e) g m v) :
    Owing dep Q ((query s).bind f) g m w := by
  refine CarrySafe.await_bind (safe_leavesOwed hs (fun v v' r h => ?_)
    fun hnone e v v' _ => ?_)
  · rw [owedAfter_of_leavesOwed hs]
    exact hok v v' r h
  · rw [owedAfter_of_leavesOwed hs]
    exact herror hnone e v'

/-- Nothing is held in the end. -/
abbrev Settled (_ : Except Failure α) (_ : List CheckoutItemDto) (m : Nat → Int)
    (_ : World) : Prop :=
  m = 0

/-- Nothing is held in the end, and nothing is owed where the body has thrown. -/
def SettledOrThrown (x : Except Failure Unit) (g : List CheckoutItemDto)
    (m : Nat → Int) (_ : World) : Prop :=
  m = 0 ∧ ∀ e, x = .error e → ¬ Owes g

/-- The last statement of the body of a job that reserves. -/
theorem reserve_agreement :
    Owing dep SettledOrThrown (query (.updateReservedByIds g .job)) g (itemUnits g) w := by
  refine CarrySafe.call_resume (safe_updateReservedByIds fun x v => ?_)
  cases x with
  | ok r =>
      exact fun _ _ => ⟨rfl, fun e h => by cases h⟩
  | error e =>
      exact fun _ _ => ⟨rfl, fun _ _ => not_owes_nil⟩

theorem writeUserOrder_agreement
    {payload : CheckoutJobPayload} (items : List OrderItemInput)
    (huser : payload.isGuest = false) :
    Owing dep SettledOrThrown (writeUserOrder payload items) (toReserve payload)
      (itemUnits (toReserve payload)) w := by
  refine owing_await_bind trivial (fun _ v' _ _ => ?_) fun hnone e v =>
    ⟨itemUnits_of_not_owes hnone, fun _ _ => hnone⟩
  split_ifs with herror
  · have hreserves : Reserves payload := ⟨herror, fun h => by rw [huser] at h; cases h⟩
    rw [toReserve, if_pos hreserves]
    exact reserve_agreement
  · have hreserves : ¬ Reserves payload := fun h => herror h.1
    rw [toReserve, if_neg hreserves]
    exact fun _ _ => ⟨itemUnits_nil, fun e h => by cases h⟩

theorem writeGuestOrder_agreement
    {payload : CheckoutJobPayload} (items : List OrderItemInput)
    (hguest : payload.isGuest = true)
    (haddress : payload.guestAddress ≠ none) :
    Owing dep SettledOrThrown (writeGuestOrder payload items) (toReserve payload)
      (itemUnits (toReserve payload)) w := by
  refine owing_await_bind trivial (fun _ v' _ _ => ?_) fun hnone e v =>
    ⟨itemUnits_of_not_owes hnone, fun _ _ => hnone⟩
  obtain ⟨address, haddress⟩ := Option.ne_none_iff_exists'.mp haddress
  simp only [haddress]
  refine owing_await_bind trivial (fun _ v' _ _ => ?_) fun hnone e v =>
    ⟨itemUnits_of_not_owes hnone, fun _ _ => hnone⟩
  split_ifs with hcod
  · have hreserves : Reserves payload := ⟨hcod.1, fun _ => hcod.2⟩
    rw [toReserve, if_pos hreserves]
    exact reserve_agreement
  · have hreserves : ¬ Reserves payload := fun h => hcod ⟨h.1, h.2 hguest⟩
    rw [toReserve, if_neg hreserves]
    exact fun _ _ => ⟨itemUnits_nil, fun e h => by cases h⟩

/-- The job reserves what its checkout has taken, or owes nothing. -/
theorem processCheckout_agreement
    {payload : CheckoutJobPayload}
    (haddress : payload.isGuest = true → payload.guestAddress ≠ none) :
    Owing dep Settled (processCheckout payload) (toReserve payload)
      (itemUnits (toReserve payload)) w := by
  refine owing_await_bind trivial (fun _ v₁ _ _ => ?_) fun hnone e v =>
    itemUnits_of_not_owes hnone
  refine owing_await_bind trivial (fun _ v₂ found _ => ?_) fun hnone e v =>
    itemUnits_of_not_owes hnone
  refine CarrySafe.bind (CarrySafe.tryCatch (CarrySafe.mono
    (Q := SettledOrThrown) ?_ fun x g m v _ hx => ?_))
  · split_ifs with hguest
    · exact writeGuestOrder_agreement _ hguest (haddress hguest)
    · exact writeUserOrder_agreement _ (by simpa using hguest)
  · obtain ⟨rfl, hnone⟩ := hx
    cases x with
    | ok a =>
        exact fun _ _ _ _ => rfl
    | error e =>
        refine owing_of_all (All.bind (All.await trivial) fun _ => trivial) fun x v => ?_
        cases x with
        | ok a =>
            exact fun _ _ => rfl
        | error e =>
            exact fun _ _ => rfl

/-- The job of an accepted checkout is to reserve what the checkout asked for. -/
theorem itemUnits_reservedVariant
    {items : List CheckoutItemDto} {variants : List BookVariant}
    (h : FoundFor items variants)
    (hlength : variants.length = items.length)
    {payload : CheckoutJobPayload}
    (hvariants : payload.variants = variants.map orderVariantOf)
    (hmap : payload.mapVariantIds = mapVariantIds items) :
    itemUnits (reservedVariant payload) = itemUnits items := by
  have hnodup := h.items_nodup hlength
  have hlines : ((requestedLines variants (mapVariantIds items)).map Prod.fst).Nodup := by
    rw [requestedLines, List.map_map]
    exact h.nodup
  funext v
  have hunits : itemUnits (reservedVariant payload) v =
      quantityOf v (requestedLines variants (mapVariantIds items)) := by
    simp only [itemUnits, reservedVariant, hvariants, hmap, requestedLines, List.map_map]
    rfl
  rw [hunits]
  by_cases hv : v ∈ (requestedLines variants (mapVariantIds items)).map Prod.fst
  · obtain ⟨l, hl, rfl⟩ := List.mem_map.mp hv
    rw [quantityOf_of_mem (q := l.2) hlines hl, mem_requestedLines hnodup hl]
  · rw [quantityOf_of_not_mem hv, itemUnits_of_not_mem]
    intro hmem
    rw [← (h.perm hlength).mem_iff] at hmem
    rw [requestedLines, List.map_map] at hv
    exact hv hmem

/-- Redis has taken the items, or has got back what it had taken. -/
theorem reserveInRedis_agreement (items : List CheckoutItemDto) (variants : List BookVariant) :
    Owing dep
      (fun x g m _ =>
        match x with
        | .ok _ => g = items ∧ m = itemUnits items
        | .error _ => g = [] ∧ m = 0)
      (reserveInRedis items variants) [] 0 w := by
  refine CarrySafe.bind (owing_of_all ?_ fun x v => ?_)
  · exact All.forEach fun v _ => (All.await trivial).tryCatch fun _ => trivial
  cases x with
  | error e =>
      exact fun _ _ => ⟨rfl, rfl⟩
  | ok _ =>
      refine CarrySafe.await_bind (safe_decrbyAvailable (fun results v => ?_)
        fun e v v' _ => ⟨rfl, rfl⟩)
      dsimp only
      rw [checkRemaining_eq]
      cases hshort : firstShort items results with
      | none =>
          have howed : owedAfter [] (.decrbyAvailable items) (.ok results) = items := by
            simp only [owedAfter, hshort]
          rw [howed]
          exact fun _ _ => ⟨rfl, rfl⟩
      | some i =>
          have howed : owedAfter [] (.decrbyAvailable items) (.ok results) = [i] := by
            simp only [owedAfter, hshort]
          rw [howed]
          refine CarrySafe.await_bind (safe_incrbyAvailable fun x v => ?_)
          cases x with
          | ok r =>
              exact fun _ _ => ⟨rfl, rfl⟩
          | error e =>
              exact fun _ _ => ⟨rfl, rfl⟩

/-- With `isError` nothing is owed to the job. -/
theorem reserveItems_agreement (items : List CheckoutItemDto) (variants : List BookVariant) :
    Owing dep
      (fun x g m _ =>
        m = itemUnits g ∧
          match x with
          | .ok isError => g = if isError then [] else items
          | .error _ => g = [])
      (reserveItems items variants) [] 0 w := by
  refine CarrySafe.tryCatch (CarrySafe.bind (CarrySafe.mono
    (reserveInRedis_agreement items variants) fun x g m v _ hx => ?_))
  cases x with
  | ok _ =>
      obtain ⟨rfl, rfl⟩ := hx
      exact fun _ _ _ _ => ⟨rfl, rfl⟩
  | error e =>
      obtain ⟨rfl, rfl⟩ := hx
      intro v' _
      have hdatabase : (reserveInDatabase items variants).All LeavesOwed := by
        unfold reserveInDatabase
        split_ifs
        · trivial
        · exact All.await rfl
      refine CarrySafe.bind (owing_of_all hdatabase fun x v => ?_)
      cases x with
      | ok _ =>
          exact fun _ _ => ⟨rfl, rfl⟩
      | error e =>
          exact fun _ _ => ⟨rfl, rfl⟩

/-- The intent may fail only where nothing is owed. -/
theorem createPaymentIntent_agreement
    (gateway : PaymentGateway) (totalAmount : ℚ) (orderCode : String) :
    Owing dep
      (fun x g' m _ => g' = g ∧ m = itemUnits g ∧ ∀ e, x = .error e → ¬ Owes g)
      (createPaymentIntent dep gateway totalAmount orderCode) g (itemUnits g) w := by
  unfold BookStore.createPaymentIntent
  split_ifs
  · exact fun _ _ => ⟨rfl, rfl, fun e h => by cases h⟩
  · exact owing_await_bind trivial (fun _ _ _ _ _ _ => ⟨rfl, rfl, fun e h => by cases h⟩)
      fun hnone e v => ⟨rfl, rfl, fun _ _ => hnone⟩

theorem placeOrder_agreement
    {body : CreateCheckOutDTO} {variants : List BookVariant}
    (guestSessionId : Option String) (userId : Option Nat) (email : Option String)
    (haddress : body.isGuest = true → body.guestAddress ≠ none)
    (hfound : FoundFor body.items variants)
    (hlength : variants.length = body.items.length)
    (isError : Bool) :
    Owing dep Settled (placeOrder dep body guestSessionId userId email variants isError)
      (if isError then [] else body.items)
      (itemUnits (if isError then [] else body.items)) w := by
  refine owing_await_bind trivial (fun _ v order _ => ?_) fun hnone e v =>
    itemUnits_of_not_owes hnone
  refine CarrySafe.bind (Q := Settled) ?_
  refine CarrySafe.mono (createPaymentIntent_agreement _ _ _) fun x g m v _ hx => ?_
  obtain ⟨rfl, rfl, hthrown⟩ := hx
  cases x with
  | error e =>
      exact fun _ _ => itemUnits_of_not_owes (hthrown e rfl)
  | ok result =>
      refine CarrySafe.await_bind (safe_enqueueCheckout (fun hguest => ?_)
        (fun hreserves => ?_) fun x v => ?_)
      · have hguest : body.isGuest = true := hguest
        simpa [checkoutJobPayload, hguest] using haddress hguest
      · have herror : isError = false := hreserves.1
        rw [herror]
        exact itemUnits_reservedVariant hfound hlength rfl rfl
      · cases x with
        | ok _ =>
            exact fun _ _ => rfl
        | error e =>
            exact fun _ _ => rfl

theorem createCheckout_agreement
    (body : CreateCheckOutDTO) (guestSessionId : Option String) (userId : Option Nat) :
    Owing dep Settled (createCheckout dep body guestSessionId userId) [] 0 w := by
  -- a guest without an address is turned away first
  by_cases haddress : body.isGuest = true → body.guestAddress ≠ none
  case neg =>
    simp only [not_forall, not_not] at haddress
    obtain ⟨hguest, hnone⟩ := haddress
    have hraise : ∃ e, checkShopper body guestSessionId userId = raise e := by
      unfold checkShopper
      rw [if_pos hguest, if_pos hnone]
      split_ifs <;> exact ⟨_, rfl⟩
    obtain ⟨e, hraise⟩ := hraise
    unfold BookStore.createCheckout
    rw [hraise]
    exact fun _ _ => rfl
  have hshopper : (checkShopper body guestSessionId userId).All LeavesOwed := by
    unfold checkShopper
    split_ifs
    · trivial
    · trivial
    · trivial
    · trivial
    · refine All.bind (All.await trivial) (fun address => ?_)
      cases address <;> trivial
  refine CarrySafe.bind (owing_of_all hshopper fun x v => ?_)
  rcases x with e | email
  · exact fun _ _ => rfl
  refine owing_await_bind trivial (fun v v' variants h => ?_) fun _ _ _ => rfl
  have hfound : FoundFor body.items variants := by
    cases h
    exact foundFor_findByIds body.items v.db.variants
  split
  · exact fun _ _ => rfl
  rename_i hlength
  refine CarrySafe.bind (CarrySafe.mono (reserveItems_agreement body.items variants)
    fun x g m v _ hx => ?_)
  obtain ⟨rfl, hg⟩ := hx
  cases x with
  | error e =>
      intro _ _
      rw [Settled, hg, itemUnits_nil]
  | ok isError =>
      obtain rfl := hg
      exact placeOrder_agreement guestSessionId userId email haddress hfound
        (not_not.mp hlength) isError

/-- A handler that a request starts owes nothing and ends owing nothing. -/
theorem handler_agreement (r : Request) :
    Owing dep Settled (handler dep r) [] 0 w := by
  have hsettled : ∀ {p : Service Answer}, p.All LeavesOwed → Owing dep Settled p [] 0 w :=
    fun hp => owing_of_all hp fun _ _ => rfl
  cases r with
  | createCheckout body guestSessionId userId =>
      exact createCheckout_agreement body guestSessionId userId
  | sepayWebhook body =>
      exact hsettled ((handleSepayWebhook_all body).mono fun s hs => by
        cases s <;> first | trivial | (rcases hs with hs | ⟨_, _, hs⟩ <;> cases hs))
  | getPaymentStatus orderCode =>
      exact hsettled ((getPaymentStatus_all orderCode).mono fun s hs => by
        cases s <;> trivial)
  | cleanOrder =>
      exact hsettled (cleanOrder_all.mono fun s hs => by cases s <;> trivial)
  | updateOrderStatus orderId body =>
      exact hsettled ((updateOrderStatus_all orderId body).mono fun s hs => by
        cases s <;> trivial)
  | createStockImport createdById body =>
      exact hsettled ((createStockImport_all createdById body).mono fun s hs => by
        cases s <;> trivial)

end Services

/-! ### Runs -/

/-- A queued job takes its units along. -/
theorem queuedUnits_eraseIdx
    {i : Nat} {payload : CheckoutJobPayload}
    (h : w.queue[i]? = some payload) (v : Nat) :
    queuedUnits w v = itemUnits (toReserve payload) v +
      queuedUnits { w with queue := w.queue.eraseIdx i } v := by
  unfold queuedUnits
  have hperm := (List.getElem_cons_eraseIdx_perm (List.getElem?_eq_some_iff.mp h).1).map
    fun payload => itemUnits (toReserve payload) v
  rw [← hperm.sum_eq, List.map_cons, List.sum_cons,
    (List.getElem?_eq_some_iff.mp h).2]

theorem environment_agreement :
    EnvSafeTo (agreementLogic dep) (owingServer dep) (Carried Settled)
      (fun _ _ => True) := by
  intro w F e w' p hinv _ h
  obtain ⟨x, hx, heq⟩ := Option.map_eq_some_iff.mp h
  obtain ⟨rfl, rfl⟩ := Prod.mk.inj heq
  refine ⟨trivial, ?_⟩
  cases e with
  | arrive r =>
      cases hx
      refine ⟨0, by rwa [zero_add], handler_agreement r⟩
  | startJob i =>
      obtain ⟨payload, hpayload, heq⟩ := Option.map_eq_some_iff.mp hx
      cases heq
      have hstart : owedAtStart (.startJob i) w = toReserve payload := by
        simp only [owedAtStart, hpayload, Option.elim_some]
      refine ⟨itemUnits (toReserve payload), ⟨hinv.keys, fun v => ?_, fun p hp =>
        hinv.addressed p (List.mem_of_mem_eraseIdx hp)⟩, ?_⟩
      · have := hinv.owed v
        have := queuedUnits_eraseIdx hpayload v
        simp only [Pi.add_apply]
        omega
      · rw [hstart]
        exact processCheckout_agreement
          (hinv.addressed payload (List.mem_of_getElem? hpayload))
  | expireKey v =>
      cases hx
      exact ⟨hinv.keys.expire v, hinv.owed, hinv.addressed⟩
  | tick ms =>
      cases hx
      exact ⟨hinv.keys, hinv.owed, hinv.addressed⟩

theorem agreementInv_fresh (hw : Fresh w) : AgreementInv 0 w := by
  refine ⟨fun v x hx => ?_, fun v => ?_, fun p hp => ?_⟩
  · rw [hw.redis] at hx
    cases hx
  · simp [hw.history, queuedUnits, hw.queue]
  · rw [hw.queue] at hp
    cases hp

variable (dep)

/--
In every run whose statements move the live keys along with what is free, and
whose handlers do not lose sight of what they owe, each live key holds
`stock - reserved` whenever no handler is under way and no job is queued.
-/
theorem availability_agrees
    {w : World} {c' : ServerState} {as : List (Action Event)}
    (hw : Fresh w)
    (hmeets : Meets (owingServer dep).step
      (System.Conforms (fun _ _ => True) (InStep dep)) ⟨w, []⟩ as)
    (hrun : runs (server dep).step ⟨w, []⟩ as = some c')
    (hquiet : Quiescent c') :
    ∀ v x, c'.world.redis v = some x →
      x = c'.world.db.stock v - c'.world.db.reserved v := by
  intro v x hx
  obtain ⟨d, hd, hshadows⟩ := carrying_runs (shadows_start w) hrun
  have hstart : BalancedTo (agreementLogic dep) (owingServer dep) (Carried Settled)
      ⟨w, []⟩ :=
    balancedTo_start (agreementInv_fresh hw)
  have hbalanced := balancedTo_runs (fun _ _ hd => hd) environment_agreement hstart hmeets hd
  have hinv : AgreementInv 0 d.world :=
    hbalanced.quiet (fun x m v hx => by cases x <;> first | exact hx | cases hx)
      (hshadows.quiet.trans hquiet.1)
  rw [hshadows.world] at hinv
  -- nothing is queued, so nothing is owed
  have howed := hinv.owed v
  have hqueued : queuedUnits c'.world v = 0 := by
    rw [queuedUnits, hquiet.2]
    rfl
  have hkey := hinv.keys v x hx
  simp only [Pi.zero_apply, free] at howed hkey
  omega

/-- A guest orders one copy, to be paid on delivery; the job runs. -/
def placedOnDelivery : List (Action Event) :=
  .env (.arrive (sampleGuest .cod 1)) :: steps 0 5 ++ .env (.startJob 0) :: steps 1 5

set_option maxRecDepth 4000 in
/-- After `placedOnDelivery` Redis and the database have four of five copies left. -/
theorem availability_agrees_placedOnDelivery :
    ∃ c', runs (server sampleDeployment).step ⟨sampleWorld 5, []⟩ placedOnDelivery =
        some c' ∧ c'.world.redis 1 = some 4 ∧
      ∀ v x, c'.world.redis v = some x →
        x = c'.world.db.stock v - c'.world.db.reserved v := by
  obtain ⟨c', hrun, hend⟩ := Option.map_eq_some_iff.mp
    (by decide +kernel : (runs (server sampleDeployment).step ⟨sampleWorld 5, []⟩
      placedOnDelivery).map (fun c => (c.world.redis 1, c.quiet, c.world.queue.isEmpty)) =
        some (some 4, true, true))
  obtain ⟨hkey, hend⟩ := Prod.mk.inj hend
  obtain ⟨hquiet, hqueue⟩ := Prod.mk.inj hend
  exact ⟨c', hrun, hkey, availability_agrees sampleDeployment (sampleWorld_fresh 5)
    (by decide +kernel) hrun ⟨hquiet, List.isEmpty_iff.mp hqueue⟩⟩

/-- A guest orders one copy, to be paid by transfer; the job runs. -/
def placedByTransfer : List (Action Event) :=
  .env (.arrive (sampleGuest .sepay 1)) :: steps 0 6 ++ .env (.startJob 0) :: steps 1 4

set_option maxRecDepth 4000 in
/-- The job of a guest's transfer reserves nothing: Redis has four, the database five. -/
theorem placedByTransfer_disagrees :
    ¬ ∀ (w : World) (as : List (Action Event)) (c' : ServerState), Fresh w →
      (∀ v, w.db.reserved v = 0) →
      runs (server sampleDeployment).step ⟨w, []⟩ as = some c' → Quiescent c' →
      ∀ v x, c'.world.redis v = some x →
        x = c'.world.db.stock v - c'.world.db.reserved v := by
  intro h
  obtain ⟨c', hrun, hend⟩ := Option.map_eq_some_iff.mp
    (by decide +kernel : (runs (server sampleDeployment).step ⟨sampleWorld 5, []⟩
      placedByTransfer).map (fun c => (c.quiet, c.world.queue.isEmpty, c.world.redis 1,
        c.world.db.stock 1 - c.world.db.reserved 1)) = some (true, true, some 4, 5))
  obtain ⟨hquiet, hend⟩ := Prod.mk.inj hend
  obtain ⟨hqueue, hend⟩ := Prod.mk.inj hend
  obtain ⟨hkey, hleft⟩ := Prod.mk.inj hend
  have hagree := h (sampleWorld 5) placedByTransfer c' (sampleWorld_fresh 5)
    (fun v => (sampleWorld_columns 5 v).1) hrun ⟨hquiet, List.isEmpty_iff.mp hqueue⟩ 1 4 hkey
  rw [hleft] at hagree
  revert hagree
  decide

end BookStore
