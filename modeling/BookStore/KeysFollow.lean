import BookStore.NoOversell

/-!
# The Redis counters follow what is free

A key `available:<variantId>` is seeded with `stock - reserved` and then moved by
the checkouts alone.  While a checkout owes the database the reservation of what
it took from Redis, or owes Redis what it took in vain, the key should stand at
`free`: `stock - reserved` less what is owed.

The code moves `stock` and `reserved` without the key (an import, the cleanup,
the fallback) and takes from the keys of a refused cart what it never gives back.

* `Mirrors` is what a statement has to meet to move the keys along with `free`.
* `exec_keysFollow_iff`, `meets_keysFollow_iff`: no less is enough, for one
  statement and along a run.
-/

namespace BookStore

open Async Logic

variable (dep : Deployment)

/-- Every live key holds what is free of its variant. -/
def KeysFollow (w : World) : Prop :=
  ∀ v x, w.redis v = some x → x = free w v

/-- What the `CASE` of the database grants of `v`. -/
def grantedUnits (payload : List CheckoutItemDto) (w : World) (v : Nat) : Int :=
  ((w.db.variants.find v).map (granted payload)).getD 0

/-- The items that a script takes for the checkout, or the one to be given back. -/
def claimed (items : List CheckoutItemDto) (w : World) : List CheckoutItemDto :=
  match firstShort items (decrbyAll items w.redis).2 with
  | none => items
  | some i => [i]

/-- The units of the lines of a stock import. -/
def importedUnits (data : StockImportInput) (v : Nat) : Int :=
  quantityOf v (data.lines.map fun l => (l.bookVariantId, (l.realQuantity : Int)))

/-- The statement moves each live key by as much as it moves what is free. -/
def Mirrors (w : World) : Stmt → Prop
  | .setAvailable v x => w.redis v = none → x = free w v
  | .decrbyAvailable items =>
      ∀ i, i ∈ items →
        (w.redis i.bookVariantId).getD 0 - itemUnits items i.bookVariantId =
          free w i.bookVariantId - itemUnits (claimed items w) i.bookVariantId
  | .incrbyAvailable v _ => w.redis v = none → free w v = 0
  | .updateReservedByIds payload .checkout =>
      ∀ i, i ∈ payload → (w.redis i.bookVariantId).isSome →
        grantedUnits payload w i.bookVariantId = 0
  | .clearOrder variantMap =>
      ∀ e, e ∈ variantMap → (w.redis e.1).isSome → w.db.hasVariant e.1 →
        mapQuantity variantMap e.1 = 0
  | .importStock data =>
      ∀ l, l ∈ data.lines → (w.redis l.bookVariantId).isSome →
        importedUnits data l.bookVariantId = 0
  | _ => True

instance (w : World) (s : Stmt) : Decidable (Mirrors w s) := by
  apply Stmt.casesOn (motive := fun s => Decidable (Mirrors w s)) s
  case updateReservedByIds =>
    intro payload origin
    apply Booking.casesOn
      (motive := fun b => Decidable (Mirrors w (.updateReservedByIds payload b)))
      origin <;> unfold Mirrors <;> infer_instance
  all_goals
    intros
    unfold Mirrors
    infer_instance

/-! ### What a statement does to the keys and to what is free -/

variable {dep} {w w' : World}

theorem claimed_of_not_mem
    {items : List CheckoutItemDto} {v : Nat}
    (hv : v ∉ items.map (·.bookVariantId)) :
    itemUnits (claimed items w) v = 0 := by
  refine itemUnits_of_not_mem fun hmem => hv ?_
  unfold claimed at hmem
  split at hmem
  · exact hmem
  · rename_i i hi
    obtain ⟨j, hj, rfl⟩ := List.mem_map.mp hmem
    rw [List.mem_singleton.mp hj]
    exact List.mem_map_of_mem (firstShort_mem hi)

theorem grantedUnits_of_not_mem
    {payload : List CheckoutItemDto} {v : Nat}
    (hv : v ∉ payload.map (·.bookVariantId)) :
    grantedUnits payload w v = 0 := by
  unfold grantedUnits
  cases hrow : w.db.variants.find v with
  | none =>
      rfl
  | some r =>
      have hid : r.id = v := Table.find_key hrow
      refine granted_of_not_listed (List.any_eq_false.mpr fun p hp h => hv ?_)
      rw [← hid, ← of_decide_eq_true h]
      exact List.mem_map_of_mem hp

/-- Where the keys stay, they follow if no live one is left behind. -/
theorem keysFollow_iff_of_redis
    {d : Nat → Int}
    (hw : KeysFollow w)
    (hredis : w'.redis = w.redis)
    (hfree : ∀ v, free w' v = free w v + d v) :
    KeysFollow w' ↔ ∀ v, (w.redis v).isSome → d v = 0 := by
  unfold KeysFollow
  rw [hredis]
  refine ⟨fun h v hv => ?_, fun h v x hx => ?_⟩
  · obtain ⟨x, hx⟩ := Option.isSome_iff_exists.mp hv
    have := h v x hx
    have := hw v x hx
    have := hfree v
    omega
  · have := hw v x hx
    have := h v (by rw [hx]; rfl)
    have := hfree v
    omega

/-- A condition on all variants where only listed ones matter. -/
theorem forall_iff_forall_mem
    {γ : Type} {l : List γ} {f : γ → Nat} {P : Nat → Prop}
    (h : ∀ v, v ∉ l.map f → P v) :
    (∀ v, P v) ↔ ∀ i, i ∈ l → P (f i) := by
  refine ⟨fun hP i _ => hP (f i), fun hP v => ?_⟩
  by_cases hv : v ∈ l.map f
  · obtain ⟨i, hi, rfl⟩ := List.mem_map.mp hv
    exact hP i hi
  · exact h v hv

theorem keysFollow_setAvailable
    {v : Nat} {x : Int} {r : Response (.setAvailable v x)}
    (hw : KeysFollow w)
    (h : exec dep (.setAvailable v x) w = .ok (w', r)) :
    KeysFollow w' ↔ (w.redis v = none → x = free w v) := by
  simp only [exec] at h
  split at h
  · rename_i y hy
    cases h
    exact iff_of_true hw fun hnone => by rw [hy] at hnone; cases hnone
  · rename_i hnone
    cases h
    refine ⟨fun hw' _ => hw' v x (Function.update_self ..), fun hx u y hy => ?_⟩
    have hy : Function.update w.redis v (some x) u = some y := hy
    by_cases hu : u = v
    · subst hu
      rw [Function.update_self, Option.some.injEq] at hy
      rw [← hy]
      exact hx hnone
    · rw [Function.update_of_ne hu] at hy
      exact hw u y hy

/-- What is free after a script is less by what the script claims. -/
theorem free_decrbyAvailable
    {items : List CheckoutItemDto} {r : Response (.decrbyAvailable items)}
    (h : exec dep (.decrbyAvailable items) w = .ok (w', r)) :
    w'.redis = (decrbyAll items w.redis).1 ∧
      ∀ v, free w' v = free w v - itemUnits (claimed items w) v := by
  simp only [exec] at h
  split at h
  · rename_i hshort
    cases h
    refine ⟨rfl, fun v => ?_⟩
    simp only [free, claimed, hshort, addItems, itemUnits]
    omega
  · rename_i i hshort
    cases h
    refine ⟨rfl, fun v => ?_⟩
    simp only [free, claimed, hshort, addItems, itemUnits]
    omega

theorem keysFollow_decrbyAvailable
    {items : List CheckoutItemDto} {r : Response (.decrbyAvailable items)}
    (hw : KeysFollow w)
    (h : exec dep (.decrbyAvailable items) w = .ok (w', r)) :
    KeysFollow w' ↔ ∀ i, i ∈ items →
      (w.redis i.bookVariantId).getD 0 - itemUnits items i.bookVariantId =
        free w i.bookVariantId - itemUnits (claimed items w) i.bookVariantId := by
  obtain ⟨hredis, hfree⟩ := free_decrbyAvailable h
  refine ⟨fun hw' i hi => ?_, fun hmirrors v x hx => ?_⟩
  · rw [← hfree]
    refine hw' i.bookVariantId _ ?_
    rw [hredis, decrbyAll_redis, if_pos (List.mem_map_of_mem hi)]
  · rw [hredis, decrbyAll_redis] at hx
    rw [hfree]
    split_ifs at hx with hv
    · obtain ⟨i, hi, rfl⟩ := List.mem_map.mp hv
      rw [← hmirrors i hi]
      exact (Option.some.inj hx).symm
    · rw [claimed_of_not_mem hv, sub_zero]
      exact hw v x hx

theorem keysFollow_incrbyAvailable
    {v : Nat} {q : Int} {r : Response (.incrbyAvailable v q)}
    (hw : KeysFollow w)
    (h : exec dep (.incrbyAvailable v q) w = .ok (w', r)) :
    KeysFollow w' ↔ (w.redis v = none → free w v = 0) := by
  cases h
  set w' : World := { w with
    redis := Function.update w.redis v (some ((w.redis v).getD 0 + q))
    history.givingBack := addItems [⟨v, -q⟩] w.history.givingBack } with hw'
  have hfree : ∀ u, free w' u = free w u + if v = u then q else 0 := by
    intro u
    simp only [hw', free, addItems, List.map_cons, List.map_nil, quantityOf_cons]
    split_ifs
    · simp [quantityOf]
      omega
    · simp [quantityOf]
  constructor
  · intro hfollow hnone
    have hkey := hfollow v ((w.redis v).getD 0 + q) (Function.update_self ..)
    rw [hfree, if_pos rfl, hnone, Option.getD_none] at hkey
    omega
  · intro hzero u y hy
    have hy : Function.update w.redis v (some ((w.redis v).getD 0 + q)) u = some y := hy
    rw [hfree]
    by_cases hu : u = v
    · subst hu
      rw [Function.update_self, Option.some.injEq] at hy
      rw [if_pos rfl, ← hy]
      cases hx : w.redis u with
      | none =>
          rw [hzero hx, Option.getD_none]
      | some x =>
          rw [Option.getD_some, hw u x hx]
    · rw [Function.update_of_ne hu] at hy
      rw [if_neg (Ne.symm hu), add_zero]
      exact hw u y hy

/-- What the fallback grants is free no more. -/
theorem free_updateReservedByIds
    {payload : List CheckoutItemDto}
    {r : Response (.updateReservedByIds payload .checkout)}
    (h : exec dep (.updateReservedByIds payload .checkout) w = .ok (w', r)) :
    w'.redis = w.redis ∧ ∀ v, free w' v = free w v + -grantedUnits payload w v := by
  have hcolumns := columns_updateReservedByIds w.db
    { w.db with variants := updateReservedByIds payload w.db.variants } rfl
  simp only [exec] at h
  split at h
  · cases h
  cases h
  refine ⟨rfl, fun v => ?_⟩
  simp only [free, grantedUnits, (hcolumns v).1, (hcolumns v).2]
  omega

/-- The cleanup adds to `stock` and takes from `reserved`. -/
theorem free_clearOrder
    {variantMap : List (Nat × Int)} {r : Response (.clearOrder variantMap)}
    (h : exec dep (.clearOrder variantMap) w = .ok (w', r)) :
    w'.redis = w.redis ∧ ∀ v, free w' v = free w v +
      if w.db.hasVariant v then 2 * mapQuantity variantMap v else 0 := by
  have hvariants : w'.db.variants = clearVariants variantMap w.db.variants :=
    (exec_effects dep h).variants
  have hhistory : w'.history = w.history := by cases h; rfl
  refine ⟨by cases h; rfl, fun v => ?_⟩
  obtain ⟨hstock, hreserved⟩ := columns_shiftVariants w.db w'.db hvariants v
  simp only [free, hstock, hreserved, hhistory]
  split_ifs <;> omega

theorem free_importStock
    {data : StockImportInput} {r : Response (.importStock data)}
    (h : exec dep (.importStock data) w = .ok (w', r)) :
    w'.redis = w.redis ∧ ∀ v, free w' v = free w v + importedUnits data v := by
  simp only [exec] at h
  split at h
  · cases h
  rename_i hcheck
  cases h
  refine ⟨rfl, fun v => ?_⟩
  obtain ⟨hstock, hreserved⟩ := columns_incrementStockById w.db
    (BookStore.importStock (dep.cuids w.db.stockImports.length) data w.db) rfl v
  simp only [free, hstock, hreserved, List.map_map]
  -- every imported variant has a row
  by_cases hv : w.db.hasVariant v
  · rw [if_pos hv]
    simp only [importedUnits, Function.comp_def]
    omega
  · have hnone : importedUnits data v = 0 := by
      refine quantityOf_of_not_mem (fun hmem => ?_)
      obtain ⟨e, he, rfl⟩ := List.mem_map.mp hmem
      obtain ⟨l, hl, rfl⟩ := List.mem_map.mp he
      refine hcheck (.inr (.inr (List.any_eq_true.mpr ⟨l, hl, ?_⟩)))
      simpa [Database.hasVariant] using hv
    rw [if_neg hv, hnone]
    omega

theorem free_of_leavesBooks
    {s : Stmt} {r : Response s}
    (hs : LeavesBooks s)
    (h : exec dep s w = .ok (w', r)) :
    w'.redis = w.redis ∧ ∀ v, free w' v = free w v + 0 := by
  have hbooks := exec_sameBooks hs h
  refine ⟨hbooks.redis, fun v => ?_⟩
  have := hbooks.columns v
  simp only [free, hbooks.held, hbooks.givingBack]
  omega

theorem mapQuantity_of_not_mem
    {m : List (Nat × Int)} {v : Nat}
    (hv : v ∉ m.map Prod.fst) :
    mapQuantity m v = 0 := by
  have hnone : m.find? (fun e => decide (e.1 = v)) = none := by
    refine List.find?_eq_none.mpr fun e he h => hv ?_
    rw [← of_decide_eq_true h]
    exact List.mem_map_of_mem he
  rw [mapQuantity, mapGet, hnone]
  rfl

/-- **One statement.** The keys go on to follow iff the statement mirrors. -/
theorem exec_keysFollow_iff
    {s : Stmt} {r : Response s}
    (hw : KeysFollow w)
    (h : exec dep s w = .ok (w', r)) :
    KeysFollow w' ↔ Mirrors w s := by
  have hsame : w'.redis = w.redis ∧ (∀ v, free w' v = free w v + 0) → KeysFollow w' :=
    fun h => (keysFollow_iff_of_redis hw h.1 h.2).mpr fun _ _ => rfl
  have hleaves : LeavesBooks s → KeysFollow w' :=
    fun hs => hsame (free_of_leavesBooks hs h)
  cases s with
  | setAvailable v x =>
      exact keysFollow_setAvailable hw h
  | decrbyAvailable items =>
      exact keysFollow_decrbyAvailable hw h
  | incrbyAvailable v q =>
      exact keysFollow_incrbyAvailable hw h
  | updateReservedByIds payload origin =>
      cases origin with
      | job =>
          exact iff_of_true (hleaves rfl) trivial
      | checkout =>
          obtain ⟨hredis, hfree⟩ := free_updateReservedByIds h
          rw [keysFollow_iff_of_redis hw hredis hfree,
            forall_iff_forall_mem (l := payload) (f := (·.bookVariantId))
              fun v hv _ => by rw [grantedUnits_of_not_mem hv, neg_zero]]
          simp only [neg_eq_zero, Mirrors]
  | createOrder data =>
      cases h
      exact iff_of_true (hsame ⟨rfl, fun v => (add_zero _).symm⟩) trivial
  | clearOrder variantMap =>
      obtain ⟨hredis, hfree⟩ := free_clearOrder h
      rw [keysFollow_iff_of_redis hw hredis hfree,
        forall_iff_forall_mem (l := variantMap) (f := Prod.fst)
          fun v hv _ => by rw [mapQuantity_of_not_mem hv, mul_zero, ite_self]]
      refine forall₂_congr fun e _ => imp_congr_right fun _ => ?_
      split_ifs with hv
      · simp [hv]
      · simp [hv]
  | importStock data =>
      obtain ⟨hredis, hfree⟩ := free_importStock h
      rw [keysFollow_iff_of_redis hw hredis hfree,
        forall_iff_forall_mem (l := data.lines) (f := (·.bookVariantId))
          fun v hv _ => quantityOf_of_not_mem (by rwa [List.map_map])]
      rfl
  | _ =>
      exact iff_of_true (hleaves trivial) trivial

variable (dep) in
/-- The condition on the statements that are executed. -/
def MirrorsIfExecuted (w : World) (s : Stmt) (o : Outcome) : Prop :=
  o ≠ .fail → (exec dep s w).isOk → Mirrors w s

instance (w : World) (s : Stmt) (o : Outcome) : Decidable (MirrorsIfExecuted dep w s o) := by
  unfold MirrorsIfExecuted
  infer_instance

theorem mirrors_of_exec
    {s : Stmt} {o : Outcome} {r : Response s}
    (hguard : MirrorsIfExecuted dep w s o)
    (ho : o ≠ .fail)
    (h : exec dep s w = .ok (w', r)) :
    Mirrors w s :=
  hguard ho (by rw [h]; rfl)

theorem KeysFollow.expire (hw : KeysFollow w) (v : Nat) :
    KeysFollow { w with redis := Function.update w.redis v none } := by
  intro u x hx
  have hx : Function.update w.redis v none u = some x := hx
  by_cases hu : u = v
  · rw [hu, Function.update_self] at hx
    cases hx
  · rw [Function.update_of_ne hu] at hx
    exact hw u x hx

/--
**Runs.** The keys follow in every state of a run iff every statement of the run
mirrors.
-/
theorem meets_keysFollow_iff
    {c : ServerState} (as : List (Action Event))
    (hc : KeysFollow c.world) :
    Meets (server dep).step (System.Respects (server dep) fun _ w' => KeysFollow w') c as ↔
      Meets (server dep).step
        (System.Conforms (fun _ _ => True) (MirrorsIfExecuted dep)) c as := by
  refine System.meets_invariant_iff _ ?_ ?_ as hc
  · intro a w w' p hw h
    cases a with
    | arrive r =>
        cases h
        exact hw
    | startJob i =>
        obtain ⟨payload, -, heq⟩ := Option.map_eq_some_iff.mp h
        cases heq
        exact hw
    | expireKey v =>
        cases h
        exact hw.expire v
    | tick ms =>
        cases h
        exact hw
  · intro s o w hw
    have hiff : (KeysFollow w → KeysFollow (attempt (exec dep) .database s o w).1) ↔
        (KeysFollow w → MirrorsIfExecuted dep w s o) := attempt_iff
      (P := fun w w' => KeysFollow w → KeysFollow w')
      (G := fun w s o => KeysFollow w → MirrorsIfExecuted dep w s o)
      (fun _ hw => hw) (fun _ _ _ ho => absurd rfl ho)
      (fun s o w e h _ _ hok => by rw [h] at hok; cases hok)
      (fun s o w w' r ho h => imp_congr_right fun hw => by
        rw [exec_keysFollow_iff hw h]
        exact ⟨fun hm _ _ => hm, fun hguard => mirrors_of_exec hguard ho h⟩) s o w
    exact ⟨fun h => hiff.mp (fun _ => h) hw, fun h => hiff.mpr (fun _ => h) hw⟩

end BookStore
