import BookStore.Async.Outcomes
import BookStore.Checkout.Numbers
import Mathlib.Data.List.TakeWhile

/-!
# What a checkout leaves

`createCheckout` by itself, however its statements end.

* `Outcomes` says how they end.
* `leftTaken` are the items whose quantities are missing from Redis when `reserveInRedis`
  ends; the items are `Held` if it has not thrown.
* `ends_reserveInRedis`, `ends_reserveInDatabase` and `ends_placeOrder` say what the three
  parts leave, and `ends_createCheckout` puts them together.
-/

namespace BookStore
namespace Numbers

open Async Program

/-- How statements end: each is sent once at most, the seeds once for a variant. -/
structure Outcomes where
  address : Outcome
  variants : Outcome
  seed : Nat → Outcome
  script : Outcome
  giveBack : Outcome
  book : Outcome
  order : Outcome
  intent : Outcome
  job : Outcome

def Outcomes.of (o : Outcomes) : Stmt → Outcome
  | .findByAddressIdAndUserId _ _ => o.address
  | .findByIds _ => o.variants
  | .setAvailable v _ => o.seed v
  | .decrbyAvailable _ => o.script
  | .incrbyAvailable _ => o.giveBack
  | .updateReservedByIds _ => o.book
  | .createOrder _ => o.order
  | .createPaymentIntent _ _ _ _ => o.intent
  | .enqueueCheckout _ => o.job

/-- A part of a checkout by itself. -/
abbrev CheckoutEnds {α : Type} (dep : Deployment) (column : IntColumn) (o : Outcomes)
    (p : Service α) (w w' : World) (x : Except Failure α) : Prop :=
  p.Ends (exec dep column) .database o.of w w' x

/-- The number under a key; an absent key counts as 0. -/
def World.level (w : World) (k : Nat) : Int :=
  (w.redis k).getD 0

section Script

variable {items : List CheckoutItemDto} {redis : Nat → Option Int} {k : Nat}

theorem getD_update (v k : Nat) (x : Int) :
    (Function.update redis v (some x) k).getD 0 = if v = k then x else (redis k).getD 0 := by
  by_cases h : v = k
  · subst h
    simp
  · rw [Function.update_of_ne (Ne.symm h), if_neg h]

theorem amountAt_cons (i : CheckoutItemDto) :
    amountAt (i :: items) k = (if i.key = k then i.quantity.num else 0) + amountAt items k :=
  rfl

theorem decremented_cons {i : CheckoutItemDto} (h : Whole i.quantity) :
    decremented (i :: items) = i :: decremented items :=
  List.takeWhile_cons_of_pos (decide_eq_true h)

theorem level_decrbyAll (items : List CheckoutItemDto) (redis : Nat → Option Int) (k : Nat) :
    ((decrbyAll items redis).1 k).getD 0 =
      (redis k).getD 0 - amountAt (decremented items) k := by
  induction items generalizing redis with
  | nil =>
      simp [decrbyAll, decremented, amountAt]
  | cons i items ih =>
      by_cases h : Whole i.quantity
      · simp only [decrbyAll, if_pos h, ih, getD_update]
        rw [decremented_cons h, amountAt_cons]
        split_ifs with hk
        · rw [hk]
          ring
        · ring
      · simp [decrbyAll, h, decremented, amountAt]

theorem decremented_of_whole (h : ∀ i, i ∈ items → Whole i.quantity) :
    decremented items = items :=
  List.takeWhile_eq_self_iff.mpr fun i hi => decide_eq_true (h i hi)

theorem decrbyAll_of_not_whole (h : ∃ i, i ∈ items ∧ ¬ Whole i.quantity) :
    (decrbyAll items redis).2 = none := by
  induction items generalizing redis with
  | nil =>
      obtain ⟨i, hi, -⟩ := h
      cases hi
  | cons j items ih =>
      by_cases hj : Whole j.quantity
      · have hrest : ∃ i, i ∈ items ∧ ¬ Whole i.quantity := by
          obtain ⟨i, hi, hne⟩ := h
          rcases List.mem_cons.mp hi with rfl | hi
          · exact absurd hj hne
          · exact ⟨i, hi, hne⟩
        rw [decrbyAll, if_pos hj]
        simp only [ih hrest, Option.map_none]
      · rw [decrbyAll, if_neg hj]

/-- With a key for each item the script answers what is left under the keys. -/
theorem decrbyAll_of_whole
    (hwhole : ∀ i, i ∈ items → Whole i.quantity)
    (hkeys : (items.map CheckoutItemDto.key).Nodup) :
    (decrbyAll items redis).2 =
      some (items.map fun i => (redis i.key).getD 0 - i.quantity.num) := by
  induction items generalizing redis with
  | nil =>
      rfl
  | cons i items ih =>
      rw [List.map_cons, List.nodup_cons] at hkeys
      have hi := hwhole i (by simp)
      simp only [decrbyAll, if_pos hi,
        ih (fun j hj => hwhole j (List.mem_cons_of_mem i hj)) hkeys.2, Option.map_some,
        List.map_cons, Option.some.injEq, List.cons.injEq, true_and]
      refine List.map_congr_left fun j hj => ?_
      have hne : i.key ≠ j.key := fun h => hkeys.1 (h ▸ List.mem_map_of_mem hj)
      rw [getD_update, if_neg hne]

/-- No key goes away. -/
theorem isSome_decrbyAll (h : (redis k).isSome = true) :
    ((decrbyAll items redis).1 k).isSome = true := by
  induction items generalizing redis with
  | nil =>
      exact h
  | cons i items ih =>
      by_cases hi : Whole i.quantity
      · rw [decrbyAll, if_pos hi]
        refine ih ?_
        by_cases hk : k = i.key
        · subst hk
          simp
        · rwa [Function.update_of_ne hk]
      · rw [decrbyAll, if_neg hi]
        exact h

/-- Without an item its amount is missing. -/
theorem amountAt_erase {i : CheckoutItemDto} (hi : i ∈ items) :
    amountAt (items.erase i) k = amountAt items k - amountAt [i] k := by
  have hsum := List.sum_map_erase (fun i => if i.key = k then i.quantity.num else 0) hi
  simp only [amountAt, List.map_cons, List.map_nil, List.sum_cons, List.sum_nil]
  omega

theorem amountAt_of_not_mem (h : ∀ i, i ∈ items → i.key ≠ k) : amountAt items k = 0 := by
  refine List.sum_eq_zero fun x hx => ?_
  obtain ⟨i, hi, rfl⟩ := List.mem_map.mp hx
  exact if_neg (h i hi)

/-- With a key for each item, its amount is its quantity. -/
theorem amountAt_of_mem {i : CheckoutItemDto}
    (hkeys : (items.map CheckoutItemDto.key).Nodup) (hi : i ∈ items) :
    amountAt items i.key = i.quantity.num := by
  induction items with
  | nil =>
      cases hi
  | cons j items ih =>
      rw [List.map_cons, List.nodup_cons] at hkeys
      rw [amountAt_cons]
      rcases List.mem_cons.mp hi with rfl | hi
      · have hother : amountAt items i.key = 0 := amountAt_of_not_mem fun l hl heq =>
          hkeys.1 (heq ▸ List.mem_map_of_mem hl)
        rw [if_pos rfl, hother, add_zero]
      · have hne : j.key ≠ i.key := fun heq => hkeys.1 (heq ▸ List.mem_map_of_mem hi)
        rw [if_neg hne, ih hkeys.2 hi, zero_add]

/-- With a key for each item, nothing is missing exactly if all quantities are 0. -/
theorem amountAt_eq_zero_iff
    (hkeys : (items.map CheckoutItemDto.key).Nodup) :
    (∀ k, amountAt items k = 0) ↔ ∀ i, i ∈ items → i.quantity.num = 0 := by
  refine ⟨fun h i hi => (amountAt_of_mem hkeys hi).symm.trans (h i.key), fun h k => ?_⟩
  refine List.sum_eq_zero fun x hx => ?_
  obtain ⟨i, hi, rfl⟩ := List.mem_map.mp hx
  rw [h i hi, ite_self]

end Script

/-! ### The Redis path -/

/-- One command of the pipeline -/
def World.seed (o : Outcomes) (w : World) (v : BookVariant) : World :=
  if o.seed v.id = .fail ∨ (w.redis v.id).isSome = true then w
  else { w with redis := Function.update w.redis v.id (some (v.stock - v.reserved)) }

/-- The state once the absent keys of the variants have been set. -/
def World.seeded (o : Outcomes) (variants : List BookVariant) (w : World) : World :=
  variants.foldl (World.seed o) w

/-- The first item for which there is not enough under its key. -/
def World.short (w : World) (items : List CheckoutItemDto) : Option CheckoutItemDto :=
  items.find? fun i => decide (w.level i.key < i.quantity.num)

/-- The Redis path takes all the items, and its answer arrives. -/
structure Held (o : Outcomes) (items : List CheckoutItemDto) (w : World) : Prop where
  script : o.script = .ok
  whole : ∀ i, i ∈ items → Whole i.quantity
  enough : ∀ i, i ∈ items → i.quantity.num ≤ w.level i.key

/-- What the script has taken and no command gives back: only an item found short is. -/
def leftTaken (o : Outcomes) (items : List CheckoutItemDto) (w : World) :
    List CheckoutItemDto :=
  if o.script = .fail then []
  else if o.script = .ok ∧ o.giveBack ≠ .fail ∧ ∀ i, i ∈ items → Whole i.quantity then
    match w.short items with
    | some i => items.erase i
    | none => items
  else decremented items

/-- What the Redis path leaves, from the seeded state `u` on. -/
structure RedisLeft (o : Outcomes) (items : List CheckoutItemDto) (u w' : World) : Prop where
  db : w'.db = u.db
  queue : w'.queue = u.queue
  now : w'.now = u.now
  level : ∀ k, w'.level k = u.level k - amountAt (leftTaken o items u) k
  present : ∀ k, (u.redis k).isSome = true → (w'.redis k).isSome = true
  taken : ∀ k, w'.taken k = u.taken k + amountAt (leftTaken o items u) k

section Redis

variable {dep : Deployment} {column : IntColumn} {o : Outcomes} {w w' : World}
variable {items : List CheckoutItemDto} {variants : List BookVariant} {k : Nat}

theorem short_eq_none_iff :
    w.short items = none ↔ ∀ i, i ∈ items → i.quantity.num ≤ w.level i.key := by
  simp [World.short]

theorem leftTaken_of_held (h : Held o items w) : leftTaken o items w = items := by
  have hshort : w.short items = none := short_eq_none_iff.mpr h.enough
  rw [leftTaken, hshort, h.script, if_neg (by decide)]
  split_ifs
  · rfl
  · exact decremented_of_whole h.whole

variable (dep column o w) in
theorem seed_eq (v : BookVariant) :
    (attempt (exec dep column) .database (.setAvailable v.id (v.stock - v.reserved))
      (o.seed v.id) w).1 = w.seed o v := by
  unfold World.seed
  cases hseed : o.seed v.id with
  | fail =>
      simp [attempt]
  | ok =>
      cases hkey : w.redis v.id with
      | some y =>
          simp [attempt, exec, hkey]
      | none =>
          simp [attempt, exec, hkey]
  | lost =>
      cases hkey : w.redis v.id with
      | some y =>
          simp [attempt, exec, hkey]
      | none =>
          simp [attempt, exec, hkey]

theorem ends_seedAvailable {x : Except Failure Unit} :
    CheckoutEnds dep column o (seedAvailable variants) w w' x ↔
      w' = w.seeded o variants ∧ x = .ok () := by
  refine ends_forEach fun v w w' x => ?_
  have hstate := seed_eq dep column o w v
  have hof : o.of (.setAvailable v.id (v.stock - v.reserved)) = o.seed v.id := rfl
  simp only [ends_tryCatch, ends_await, ends_ret, hof, hstate]
  cases hanswer : (attempt (exec dep column) Failure.database
    (.setAvailable v.id (v.stock - v.reserved)) (o.seed v.id) w).2 with
  | ok r =>
      constructor
      · rintro (⟨_, ⟨hw, -⟩, hx⟩ | ⟨_, _, ⟨-, he⟩, -⟩)
        · exact ⟨hw, hx⟩
        · cases he
      · rintro ⟨hw, hx⟩
        exact .inl ⟨r, ⟨hw, rfl⟩, hx⟩
  | error e =>
      simp

theorem seeded_cons (v : BookVariant) :
    w.seeded o (v :: variants) = (w.seed o v).seeded o variants := rfl

variable (o w variants) in
/-- Only Redis is written. -/
theorem seeded_frame :
    (w.seeded o variants).db = w.db ∧ (w.seeded o variants).queue = w.queue ∧
      (w.seeded o variants).now = w.now ∧ (w.seeded o variants).taken = w.taken := by
  induction variants generalizing w with
  | nil =>
      exact ⟨rfl, rfl, rfl, rfl⟩
  | cons v variants ih =>
      rw [seeded_cons]
      obtain ⟨hdb, hqueue, hnow, htaken⟩ := ih (w.seed o v)
      rw [hdb, hqueue, hnow, htaken]
      unfold World.seed
      split_ifs
      · exact ⟨rfl, rfl, rfl, rfl⟩
      · exact ⟨rfl, rfl, rfl, rfl⟩

/-- A key keeps its value; an absent one is set, unless its command fails. -/
theorem redis_seeded :
    (w.seeded o variants).redis k = (w.redis k).or
      (if o.seed k = .fail then none
        else (variants.find? fun v => decide (v.id = k)).map fun v => v.stock - v.reserved) := by
  induction variants generalizing w with
  | nil =>
      simp [World.seeded]
  | cons v variants ih =>
      rw [seeded_cons, ih, List.find?_cons]
      unfold World.seed
      by_cases hk : v.id = k
      · subst hk
        cases hkey : w.redis v.id with
        | some y =>
            simp [hkey]
        | none =>
            by_cases hfail : o.seed v.id = .fail
            · simp [hkey, hfail]
            · simp [hfail]
      · simp only [decide_eq_false hk]
        split_ifs
        · rfl
        · rfl
        · dsimp only
          rw [Function.update_of_ne (Ne.symm hk)]
        · dsimp only
          rw [Function.update_of_ne (Ne.symm hk)]

theorem isSome_seeded (h : (w.redis k).isSome = true) :
    ((w.seeded o variants).redis k).isSome = true := by
  rw [redis_seeded, Option.isSome_or, h, Bool.true_or]

/-- The first item found short is given back. -/
theorem ends_checkRemaining {lvl : Nat → Int} {x : Except Failure Unit}
    (h : CheckoutEnds dep column o
      (checkRemaining items (items.map fun i => lvl i.key - i.quantity.num)) w w' x) :
    items.find? (fun i => decide (lvl i.key < i.quantity.num)) = none ∧ w' = w ∧ x = .ok () ∨
      ∃ i e, items.find? (fun i => decide (lvl i.key < i.quantity.num)) = some i ∧
        x = .error e ∧
        w' = (attempt (exec dep column) .database (.incrbyAvailable i) o.giveBack w).1 := by
  induction items with
  | nil =>
      exact .inl ⟨rfl, h⟩
  | cons i items ih =>
      rw [List.map_cons, checkRemaining] at h
      by_cases hshort : lvl i.key < i.quantity.num
      · rw [if_pos (by omega)] at h
        rw [List.find?_cons, decide_eq_true hshort]
        rcases ends_bind.mp h with ⟨v, r, hsent, hthrown⟩ | ⟨e, hsent, rfl⟩
        · obtain ⟨rfl, rfl⟩ := hthrown
          exact .inr ⟨i, _, rfl, rfl, (ends_await.mp hsent).1⟩
        · exact .inr ⟨i, _, rfl, rfl, (ends_await.mp hsent).1⟩
      · rw [if_neg (by omega)] at h
        rw [List.find?_cons, decide_eq_false hshort]
        exact ih h

/-- The state after the script. -/
def World.scripted (items : List CheckoutItemDto) (w : World) : World :=
  { w with
    redis := (decrbyAll items w.redis).1
    taken := fun k => w.taken k + amountAt (decremented items) k }

theorem redisLeft_scripted (h : leftTaken o items w = decremented items) :
    RedisLeft o items w (w.scripted items) where
  db := rfl
  queue := rfl
  now := rfl
  level k := by
    rw [h]
    exact level_decrbyAll items w.redis k
  present _ := isSome_decrbyAll
  taken k := by
    rw [h]
    rfl

/-- The script has found an item short, which has been given back. -/
theorem redisLeft_givenBack
    {i : CheckoutItemDto}
    (hscript : o.script = .ok)
    (hback : o.giveBack ≠ .fail)
    (hwhole : ∀ i, i ∈ items → Whole i.quantity)
    (hshort : w.short items = some i) :
    RedisLeft o items w
      (attempt (exec dep column) .database (.incrbyAvailable i) o.giveBack
        (w.scripted items)).1 := by
  have hleft : leftTaken o items w = items.erase i := by
    rw [leftTaken, if_neg (by rw [hscript]; decide), if_pos ⟨hscript, hback, hwhole⟩, hshort]
  have hmem : i ∈ items := List.mem_of_find?_eq_some hshort
  rw [attempt_fst hback rfl]
  constructor
  case db => rfl
  case queue => rfl
  case now => rfl
  case level =>
    intro k
    have hlevel := level_decrbyAll items w.redis
    simp only [World.level, World.scripted, getD_update, hleft, amountAt_erase hmem, hlevel,
      decremented_of_whole hwhole]
    simp only [amountAt, List.map_cons, List.map_nil, List.sum_cons, List.sum_nil]
    split_ifs with hk
    · rw [hk]
      ring
    · ring
  case present =>
    intro k hk
    by_cases hkey : k = i.key
    · subst hkey
      simp
    · dsimp only
      rw [Function.update_of_ne hkey]
      exact isSome_decrbyAll hk
  case taken =>
    intro k
    simp only [World.scripted, hleft, amountAt_erase hmem, decremented_of_whole hwhole]
    ring

/-- What the Redis path leaves; it returns exactly if the items are held. -/
theorem ends_reserveInRedis {x : Except Failure Unit}
    (hkeys : (items.map CheckoutItemDto.key).Nodup)
    (h : CheckoutEnds dep column o (reserveInRedis items variants) w w' x) :
    RedisLeft o items (w.seeded o variants) w' ∧
      (Held o items (w.seeded o variants) ∧ x = .ok () ∨
        ¬ Held o items (w.seeded o variants) ∧ ∃ e, x = .error e) := by
  replace h := ends_bind_await.mp ((ends_bind_of_ok fun _ _ => ends_seedAvailable).mp h)
  generalize w.seeded o variants = u at h ⊢
  rw [show o.of (.decrbyAvailable items) = o.script from rfl] at h
  cases hscript : o.script with
  | fail =>
      rw [hscript] at h
      obtain ⟨rfl, rfl⟩ := h
      have hleft : leftTaken o items w' = [] := if_pos hscript
      refine ⟨⟨rfl, rfl, rfl, fun k => ?_, fun k hk => hk, fun k => ?_⟩,
        .inr ⟨fun hheld => ?_, _, rfl⟩⟩
      · rw [hleft]
        exact (sub_zero _).symm
      · rw [hleft]
        exact (add_zero _).symm
      · exact absurd (hscript.symm.trans hheld.script) (by decide)
  | lost =>
      rw [hscript] at h
      obtain ⟨rfl, rfl⟩ := h
      refine ⟨redisLeft_scripted ?_, .inr ⟨fun hheld => ?_, _, rfl⟩⟩
      · rw [leftTaken, hscript, if_neg (by decide), if_neg (by simp)]
      · exact absurd (hscript.symm.trans hheld.script) (by decide)
  | ok =>
      rw [hscript] at h
      change (Program.resume _ (.ok (decrbyAll items u.redis).2)).Ends (exec dep column)
        .database o.of (u.scripted items) w' x at h
      dsimp only [Program.resume] at h
      by_cases hwhole : ∀ i, i ∈ items → Whole i.quantity
      · rw [decrbyAll_of_whole hwhole hkeys] at h
        change CheckoutEnds dep column o (checkRemaining items
          (items.map fun i => u.level i.key - i.quantity.num)) (u.scripted items) w' x at h
        rcases ends_checkRemaining h with ⟨hshort, rfl, rfl⟩ | ⟨i, e, hshort, rfl, rfl⟩
        · have hheld : Held o items u := ⟨hscript, hwhole, short_eq_none_iff.mp hshort⟩
          refine ⟨redisLeft_scripted ?_, .inl ⟨hheld, rfl⟩⟩
          have hnone : u.short items = none := hshort
          rw [decremented_of_whole hwhole, leftTaken, hnone]
          split_ifs with hfail
          · exact absurd (hscript.symm.trans hfail) (by decide)
          · rfl
          · exact decremented_of_whole hwhole
        · refine ⟨?_, .inr ⟨fun hheld => ?_, e, rfl⟩⟩
          · by_cases hback : o.giveBack = .fail
            · rw [hback]
              refine redisLeft_scripted ?_
              rw [leftTaken, hscript, if_neg (by decide), if_neg (by simp [hback])]
            · exact redisLeft_givenBack hscript hback hwhole hshort
          · have hnone : u.short items = none := short_eq_none_iff.mpr hheld.enough
            cases hnone.symm.trans hshort
      · rw [decrbyAll_of_not_whole (by simpa using hwhole)] at h
        obtain ⟨rfl, rfl⟩ := h
        refine ⟨redisLeft_scripted ?_, .inr ⟨fun hheld => hwhole hheld.whole, _, rfl⟩⟩
        rw [leftTaken, hscript, if_neg (by decide), if_neg fun h => hwhole h.2.2]

end Redis

/-! ### Both paths -/

/-- The variants that are found for the items. -/
def World.found (w : World) (items : List CheckoutItemDto) : List BookVariant :=
  w.db.variants.filter fun r => (items.map (·.bookVariantId)).contains (r.id : ℚ)

/-- The database path takes the items, and its answer arrives. -/
structure Booked (o : Outcomes) (items : List CheckoutItemDto) (variants : List BookVariant) :
    Prop where
  inStock : ∀ v, v ∈ variants → 0 < v.stock - v.reserved
  nonempty : items ≠ []
  answered : o.book = .ok

/-- What `reserveItems` leaves and ends in. -/
structure Reserved (column : IntColumn) (o : Outcomes) (items : List CheckoutItemDto)
    (variants : List BookVariant) (w w' : World) (x : Except Failure Bool) : Prop where
  orders : w'.db.orders = w.db.orders
  intents : w'.db.paymentIntents = w.db.paymentIntents
  queue : w'.queue = w.queue
  now : w'.now = w.now
  level : ∀ k, w'.level k = (w.seeded o variants).level k -
    amountAt (leftTaken o items (w.seeded o variants)) k
  present : ∀ k, ((w.seeded o variants).redis k).isSome = true → (w'.redis k).isSome = true
  taken : ∀ k, w'.taken k = w.taken k +
    amountAt (leftTaken o items (w.seeded o variants)) k
  answer :
    Held o items (w.seeded o variants) ∧ x = .ok false ∧ w'.db.variants = w.db.variants ∨
    ¬ Held o items (w.seeded o variants) ∧ Booked o items variants ∧ x = .ok true ∧
      w'.db.variants = updateReservedByIds column items w.db.variants ∨
    ¬ Held o items (w.seeded o variants) ∧ ¬ Booked o items variants ∧ ∃ e, x = .error e

section Paths

variable {dep : Deployment} {column : IntColumn} {o : Outcomes} {w w' : World}
variable {items : List CheckoutItemDto} {variants : List BookVariant}

/-- The state once the items are reserved in the database. -/
def World.booked (column : IntColumn) (items : List CheckoutItemDto) (w : World) : World :=
  { w with db.variants := updateReservedByIds column items w.db.variants }

theorem ends_reserveInDatabase {x : Except Failure Unit}
    (h : CheckoutEnds dep column o (reserveInDatabase items variants) w w' x) :
    Booked o items variants ∧ x = .ok () ∧ w' = w.booked column items ∨
      ¬ Booked o items variants ∧ (∃ e, x = .error e) ∧
        (w' = w ∨ w' = w.booked column items) := by
  unfold reserveInDatabase at h
  split_ifs at h with hany
  · obtain ⟨rfl, rfl⟩ := h
    refine .inr ⟨fun hbooked => ?_, ⟨_, rfl⟩, .inl rfl⟩
    obtain ⟨v, hv, hle⟩ := List.any_eq_true.mp hany
    exact absurd (hbooked.inStock v hv) (not_lt.mpr (of_decide_eq_true hle))
  · have hstock : ∀ v, v ∈ variants → 0 < v.stock - v.reserved := fun v hv =>
      not_le.mp fun hle => hany (List.any_eq_true.mpr ⟨v, hv, decide_eq_true hle⟩)
    obtain ⟨rfl, rfl⟩ := ends_await.mp h
    rw [show o.of (.updateReservedByIds items) = o.book from rfl]
    by_cases hitems : items = []
    · have hrefused : exec dep column (.updateReservedByIds items) w = .error (.error "Expected `join([])` to be called with an array of multiple elements, but got an empty array") :=
        if_pos hitems
      refine .inr ⟨fun hbooked => hbooked.nonempty hitems, ?_⟩
      cases o.book with
      | fail =>
          exact ⟨⟨_, rfl⟩, .inl rfl⟩
      | ok =>
          simp only [attempt, hrefused]
          exact ⟨⟨_, rfl⟩, .inl trivial⟩
      | lost =>
          simp only [attempt, hrefused]
          exact ⟨⟨_, rfl⟩, .inl trivial⟩
    · have hdone : exec dep column (.updateReservedByIds items) w =
          .ok (w.booked column items, ()) := if_neg hitems
      cases hbook : o.book with
      | fail =>
          exact .inr ⟨fun hbooked => absurd (hbook.symm.trans hbooked.answered) (by decide),
            ⟨_, rfl⟩, .inl rfl⟩
      | ok =>
          simp only [attempt, hdone]
          exact .inl ⟨⟨hstock, hitems, hbook⟩, trivial, trivial⟩
      | lost =>
          simp only [attempt, hdone]
          exact .inr ⟨fun hbooked => absurd (hbook.symm.trans hbooked.answered) (by decide),
            ⟨_, rfl⟩, .inr trivial⟩

theorem ends_reserveItems {x : Except Failure Bool}
    (hkeys : (items.map CheckoutItemDto.key).Nodup)
    (h : CheckoutEnds dep column o (reserveItems items variants) w w' x) :
    Reserved column o items variants w w' x := by
  obtain ⟨hdb, hqueue, hnow, htaken⟩ := seeded_frame o w variants
  -- what is left of Redis stays in the database path
  have hleft : ∀ {v : World}, RedisLeft o items (w.seeded o variants) v →
      ∀ v' : World, v'.redis = v.redis → v'.taken = v.taken → v'.queue = v.queue →
      v'.now = v.now → v'.db.orders = v.db.orders →
      v'.db.paymentIntents = v.db.paymentIntents → ∀ {x : Except Failure Bool},
      (Held o items (w.seeded o variants) ∧ x = .ok false ∧ v'.db.variants = w.db.variants ∨
        ¬ Held o items (w.seeded o variants) ∧ Booked o items variants ∧ x = .ok true ∧
          v'.db.variants = updateReservedByIds column items w.db.variants ∨
        ¬ Held o items (w.seeded o variants) ∧ ¬ Booked o items variants ∧
          ∃ e, x = .error e) →
      Reserved column o items variants w v' x := by
    intro v hv v' hredis htaken' hqueue' hnow' horders hintents x hanswer
    have hvdb : v.db = w.db := hv.db.trans hdb
    exact
      { orders := horders.trans (by rw [hvdb])
        intents := hintents.trans (by rw [hvdb])
        queue := hqueue'.trans (hv.queue.trans hqueue)
        now := hnow'.trans (hv.now.trans hnow)
        level := fun k => by rw [World.level, hredis]; exact hv.level k
        present := fun k hk => by rw [hredis]; exact hv.present k hk
        taken := fun k => by rw [htaken', hv.taken k, htaken]
        answer := hanswer }
  rcases ends_tryCatch.mp h with ⟨b, htry, rfl⟩ | ⟨v, e, htry, hcatch⟩
  · rcases ends_bind.mp htry with ⟨v, u, hredis, hret⟩ | ⟨e, -, he⟩
    · obtain ⟨hv, hheld⟩ := ends_reserveInRedis hkeys hredis
      obtain ⟨rfl, hb⟩ := hret
      obtain rfl := Except.ok.inj hb
      obtain ⟨hheld, -⟩ := hheld.resolve_right fun hnot => by
        obtain ⟨-, e, he⟩ := hnot
        cases he
      refine hleft hv w' rfl rfl rfl rfl rfl rfl (.inl ⟨hheld, rfl, ?_⟩)
      rw [hv.db, hdb]
    · cases he
  · rcases ends_bind.mp htry with ⟨v', u, -, hret⟩ | ⟨e', hredis, -⟩
    · cases hret.2
    · obtain ⟨hv, hheld⟩ := ends_reserveInRedis hkeys hredis
      obtain ⟨hnot, -⟩ := hheld.resolve_left fun hheld => by cases hheld.2
      have hvariants : v.db.variants = w.db.variants := by rw [hv.db, hdb]
      rcases ends_bind.mp hcatch with ⟨v', u, hbook, hret⟩ | ⟨e', hbook, rfl⟩
      · obtain ⟨rfl, rfl⟩ := hret
        obtain ⟨hbooked, -, rfl⟩ := (ends_reserveInDatabase hbook).resolve_right fun hnot => by
          obtain ⟨-, ⟨e, he⟩, -⟩ := hnot
          cases he
        refine hleft hv (v.booked column items) rfl rfl rfl rfl rfl rfl
          (.inr (.inl ⟨hnot, hbooked, rfl, ?_⟩))
        rw [World.booked, hvariants]
      · obtain ⟨hrefused, -, hstate⟩ := (ends_reserveInDatabase hbook).resolve_left
          fun hbooked => by cases hbooked.2.1
        rcases hstate with rfl | rfl
        · exact hleft hv w' rfl rfl rfl rfl rfl rfl (.inr (.inr ⟨hnot, hrefused, e', rfl⟩))
        · exact hleft hv (v.booked column items) rfl rfl rfl rfl rfl rfl
            (.inr (.inr ⟨hnot, hrefused, e', rfl⟩))

end Paths

/-! ### The quantities of a checkout -/

section Quantities

variable {items : List CheckoutItemDto}

theorem mapGet_mapSet (m : List (ℚ × ℚ)) (k q j : ℚ) :
    mapGet (mapSet m k q) j = if k = j then some q else mapGet m j := by
  induction m with
  | nil =>
      simp only [mapGet, mapSet, List.find?_cons, List.find?_nil]
      split_ifs with h <;> simp [h]
  | cons e m ih =>
      unfold mapSet
      split_ifs with he hj hj
      · simp [mapGet, hj]
      · have hne : ¬ e.1 = j := fun h => hj (he ▸ h)
        simp [mapGet, hj, hne]
      · have hne : ¬ e.1 = j := fun h => he (h.trans hj.symm)
        have hrest : mapGet (mapSet m k q) j = some q := by rw [ih, if_pos hj]
        rw [mapGet, List.find?_cons, decide_eq_false hne]
        exact hrest
      · have hrest : mapGet (mapSet m k q) j = mapGet m j := by rw [ih, if_neg hj]
        rw [mapGet, mapGet, List.find?_cons, List.find?_cons]
        cases decide (e.1 = j) with
        | true =>
            rfl
        | false =>
            exact hrest

/-- The map has the quantity of an item for the id, if there is one. -/
theorem mapGet_mapVariantIds_cases (items : List CheckoutItemDto) (k : ℚ) :
    mapGet (mapVariantIds items) k = none ∧ k ∉ items.map (·.bookVariantId) ∨
      ∃ i, i ∈ items ∧ i.bookVariantId = k ∧
        mapGet (mapVariantIds items) k = some i.quantity := by
  -- over the rest of the items the map has an earlier quantity or one of theirs
  have hrest : ∀ (items : List CheckoutItemDto) (m : List (ℚ × ℚ)),
      mapGet (items.foldl (fun m i => mapSet m i.bookVariantId i.quantity) m) k = mapGet m k ∧
          k ∉ items.map (·.bookVariantId) ∨
        ∃ i, i ∈ items ∧ i.bookVariantId = k ∧
          mapGet (items.foldl (fun m i => mapSet m i.bookVariantId i.quantity) m) k =
            some i.quantity := by
    intro items
    induction items with
    | nil =>
        exact fun m => .inl ⟨rfl, by simp⟩
    | cons j items ih =>
        intro m
        rcases ih (mapSet m j.bookVariantId j.quantity) with ⟨hkept, hnot⟩ | ⟨i, hi, hid, hget⟩
        · rw [mapGet_mapSet] at hkept
          by_cases hj : j.bookVariantId = k
          · rw [if_pos hj] at hkept
            exact .inr ⟨j, by simp, hj, hkept⟩
          · rw [if_neg hj] at hkept
            exact .inl ⟨hkept, by simpa [Ne.symm hj] using hnot⟩
        · exact .inr ⟨i, List.mem_cons_of_mem j hi, hid, hget⟩
  exact hrest items []

theorem mapGet_mapVariantIds {k : ℚ} (hk : k ∈ items.map (·.bookVariantId)) :
    ∃ i, i ∈ items ∧ i.bookVariantId = k ∧
      mapGet (mapVariantIds items) k = some i.quantity :=
  (mapGet_mapVariantIds_cases items k).resolve_left fun h => h.2 hk

end Quantities

/-! ### The order and its job -/

/-- No intent has the code that the next order will have. -/
def IntentFree (dep : Deployment) (db : Database) : Prop :=
  (db.paymentIntents.rows.all fun i =>
    !dep.sameText i.orderCode (dep.orderCodes db.orders.next) &&
      !i.content.any fun c => dep.sameText c (dep.orderCodes db.orders.next)) = true

/-- The order is created, with its intent, and its job is enqueued. -/
structure JobSent (dep : Deployment) (o : Outcomes) (gateway : PaymentGateway) (db : Database) :
    Prop where
  order : o.order = .ok
  intent : gateway = .cod ∨ o.intent = .ok ∧ IntentFree dep db
  job : o.job ≠ .fail

/-- What `placeOrder` leaves. -/
structure OrderPlaced (dep : Deployment) (o : Outcomes) (gateway : PaymentGateway)
    (data : OrderCreateInput) (quantities : List (ℚ × ℚ)) (isError : Bool) (w w' : World) :
    Prop where
  redis : w'.redis = w.redis
  taken : w'.taken = w.taken
  variants : w'.db.variants = w.db.variants
  orders : o.order = .fail ∧ w'.db.orders = w.db.orders ∨
    o.order ≠ .fail ∧ w'.db.orders =
      w.db.orders.insert (newOrder dep data w.now) (key_newOrder dep data w.now)
  queue : JobSent dep o gateway w.db ∧
      (∃ job, w'.queue = w.queue ++ [job] ∧ job.isError = isError ∧
        job.mapVariantIds = quantities) ∨
    ¬ JobSent dep o gateway w.db ∧ w'.queue = w.queue

section Placing

variable {dep : Deployment} {column : IntColumn} {o : Outcomes} {w w' : World}
variable {body : CreateCheckOutDTO} {guestSessionId : Option String} {userId : Option Nat}
variable {data : OrderCreateInput}

theorem key_ordered (dep : Deployment) (data : OrderCreateInput) (w : World) (n : Nat) :
    key (newOrder dep data w.now n) = n :=
  rfl

/-- The state once the order is created. -/
def World.ordered (dep : Deployment) (data : OrderCreateInput) (w : World) : World :=
  { w with
    db.orders := w.db.orders.insert (newOrder dep data w.now) (key_ordered dep data w) }

/-- The intent changes nothing but the intents. -/
structure IntentFrame (w w' : World) : Prop where
  redis : w'.redis = w.redis
  taken : w'.taken = w.taken
  queue : w'.queue = w.queue
  variants : w'.db.variants = w.db.variants
  orders : w'.db.orders = w.db.orders

theorem IntentFrame.refl (w : World) : IntentFrame w w :=
  ⟨rfl, rfl, rfl, rfl, rfl⟩

variable (column data) in
theorem exec_createPaymentIntent_ordered
    (tokenUrl : String) (paymentUrl : QrUrl) (h : IntentFree dep w.db) :
    ∃ v, exec dep column (.createPaymentIntent (dep.orderCodes w.db.orders.next)
        (dep.orderCodes w.db.orders.next) tokenUrl paymentUrl) (w.ordered dep data) =
      .ok (v, ()) ∧ IntentFrame (w.ordered dep data) v := by
  have hany : ((w.ordered dep data).db.orders.rows.any fun order =>
      dep.sameText order.orderCode (dep.orderCodes w.db.orders.next)) = true :=
    List.any_eq_true.mpr ⟨newOrder dep data w.now w.db.orders.next,
      List.mem_append_right _ (List.mem_singleton.mpr rfl), decide_eq_true rfl⟩
  exact ⟨_, if_pos ⟨hany, h⟩, ⟨rfl, rfl, rfl, rfl, rfl⟩⟩

variable (column data) in
theorem exec_createPaymentIntent_refused
    (tokenUrl : String) (paymentUrl : QrUrl) (h : ¬ IntentFree dep w.db) :
    exec dep column (.createPaymentIntent (dep.orderCodes w.db.orders.next)
        (dep.orderCodes w.db.orders.next) tokenUrl paymentUrl) (w.ordered dep data) =
      .error .database :=
  if_neg fun hok => h hok.2

theorem ends_createPaymentIntent
    {gateway : PaymentGateway} {amount : ℚ} {x : Except Failure (Option CreateUrlPayment)}
    (h : CheckoutEnds dep column o
      (createPaymentIntent dep gateway amount (dep.orderCodes w.db.orders.next))
      (w.ordered dep data) w' x) :
    IntentFrame (w.ordered dep data) w' ∧
      ((gateway = .cod ∨ o.intent = .ok ∧ IntentFree dep w.db) ∧ (∃ r, x = .ok r) ∨
        ¬ (gateway = .cod ∨ o.intent = .ok ∧ IntentFree dep w.db) ∧ ∃ e, x = .error e) := by
  unfold createPaymentIntent at h
  split_ifs at h with hcod
  · obtain ⟨rfl, rfl⟩ := h
    exact ⟨.refl _, .inl ⟨.inl hcod, _, rfl⟩⟩
  · let result := generateQrUrl dep amount (dep.orderCodes w.db.orders.next)
    by_cases hfree : IntentFree dep w.db
    · obtain ⟨v, hexec, hframe⟩ := exec_createPaymentIntent_ordered column data
        result.tokenUrl result.paymentUrl hfree
      rcases (ends_bind_await_of_ok hexec).mp h with
        ⟨ho, rfl, rfl⟩ | ⟨ho, rfl, rfl⟩ | ⟨ho, rfl, rfl⟩
      · exact ⟨hframe, .inl ⟨.inr ⟨ho, hfree⟩, _, rfl⟩⟩
      · have hfail : o.intent = .fail := ho
        exact ⟨.refl _, .inr ⟨by simp [hcod, hfail], _, rfl⟩⟩
      · have hlost : o.intent = .lost := ho
        exact ⟨hframe, .inr ⟨by simp [hcod, hlost], _, rfl⟩⟩
    · obtain ⟨rfl, rfl⟩ := (ends_bind_await_of_error (exec_createPaymentIntent_refused column
        data result.tokenUrl result.paymentUrl hfree)).mp h
      exact ⟨.refl _, .inr ⟨by simp [hcod, hfree], _, rfl⟩⟩

theorem ends_placeOrder
    {email : Option String} {variants : List BookVariant} {isError : Bool}
    {x : Except Failure Answer}
    (h : CheckoutEnds dep column o
      (placeOrder dep body guestSessionId userId email variants isError) w w' x) :
    OrderPlaced dep o body.paymentGateway
      (orderCreateInput body guestSessionId userId variants) (mapVariantIds body.items) isError
      w w' := by
  unfold placeOrder at h
  generalize orderCreateInput body guestSessionId userId variants = data at h ⊢
  have hcreated : exec dep column (.createOrder data) w =
      .ok (w.ordered dep data, newOrder dep data w.now w.db.orders.next) := rfl
  have hunsent : o.order ≠ .ok → ¬ JobSent dep o body.paymentGateway w.db :=
    fun hne hsent => hne hsent.order
  rcases (ends_bind_await_of_ok hcreated).mp h with ⟨ho, h⟩ | ⟨ho, rfl, rfl⟩ | ⟨ho, rfl, rfl⟩
  · have horder : o.order = .ok := ho
    have hne : o.order ≠ .fail := by rw [horder]; decide
    rcases ends_bind.mp h with ⟨v, r, hintent, h⟩ | ⟨e, hintent, rfl⟩
    · obtain ⟨hframe, hsent⟩ := ends_createPaymentIntent hintent
      obtain ⟨hsent, -⟩ := hsent.resolve_right fun hnot => by
        obtain ⟨-, e, he⟩ := hnot
        cases he
      let job := checkoutJobPayload body guestSessionId userId email variants isError
        (newOrder dep data w.now w.db.orders.next)
      have henqueued : exec dep column (.enqueueCheckout job) v =
          .ok ({ v with queue := v.queue ++ [job] }, ()) := rfl
      have hqueue : v.queue = w.queue := hframe.queue
      rcases (ends_bind_await_of_ok henqueued).mp h with
        ⟨ho, rfl, -⟩ | ⟨ho, rfl, -⟩ | ⟨ho, rfl, -⟩
      · have hjob : o.job = .ok := ho
        exact ⟨hframe.redis, hframe.taken, hframe.variants, .inr ⟨hne, hframe.orders⟩,
          .inl ⟨⟨horder, hsent, by rw [hjob]; decide⟩, job, by rw [← hqueue], rfl, rfl⟩⟩
      · exact ⟨hframe.redis, hframe.taken, hframe.variants, .inr ⟨hne, hframe.orders⟩,
          .inr ⟨fun hsent => hsent.job ho, hqueue⟩⟩
      · have hjob : o.job = .lost := ho
        exact ⟨hframe.redis, hframe.taken, hframe.variants, .inr ⟨hne, hframe.orders⟩,
          .inl ⟨⟨horder, hsent, by rw [hjob]; decide⟩, job, by rw [← hqueue], rfl, rfl⟩⟩
    · obtain ⟨hframe, hsent⟩ := ends_createPaymentIntent hintent
      obtain ⟨hnot, -⟩ := hsent.resolve_left fun hsent => by
        obtain ⟨-, r, hr⟩ := hsent
        cases hr
      exact ⟨hframe.redis, hframe.taken, hframe.variants, .inr ⟨hne, hframe.orders⟩,
        .inr ⟨fun hjob => hnot hjob.intent, hframe.queue⟩⟩
  · have horder : o.order = .fail := ho
    exact ⟨rfl, rfl, rfl, .inl ⟨horder, rfl⟩, .inr ⟨hunsent (by rw [horder]; decide), rfl⟩⟩
  · have horder : o.order = .lost := ho
    exact ⟨rfl, rfl, rfl, .inr ⟨by rw [horder]; decide, rfl⟩,
      .inr ⟨hunsent (by rw [horder]; decide), rfl⟩⟩

end Placing

/-! ### The checkout -/

/-- The address of a user -/
def World.addressOf (w : World) (addressId : ℚ) (userId : Nat) : Option UserAddress :=
  w.db.userAddresses.findFirst fun a =>
    decide ((a.id : ℚ) = addressId) && decide (a.userId = userId) && a.deletedAt.isNone

/-- The checks on who is buying pass. -/
def Accepted (o : Outcomes) (body : CreateCheckOutDTO) (guestSessionId : Option String)
    (userId : Option Nat) (w : World) : Prop :=
  if body.isGuest then guestSessionId.getD "" ≠ "" ∧ body.guestAddress ≠ none
  else body.addressId.getD 0 ≠ 0 ∧ o.address = .ok ∧ Whole (body.addressId.getD 0) ∧
    ∃ id, userId = some id ∧ (w.addressOf (body.addressId.getD 0) id).isSome = true

/-- The checks pass, and there is a variant for each item. -/
structure Reached (o : Outcomes) (body : CreateCheckOutDTO) (guestSessionId : Option String)
    (userId : Option Nat) (w : World) : Prop where
  accepted : Accepted o body guestSessionId userId w
  variants : o.variants = .ok
  whole : ∀ i, i ∈ body.items → Whole i.bookVariantId
  found : (w.found body.items).length = body.items.length

section Checkout

variable {dep : Deployment} {column : IntColumn} {o : Outcomes} {w w' : World}
variable {body : CreateCheckOutDTO} {guestSessionId : Option String} {userId : Option Nat}
variable {items : List CheckoutItemDto}

theorem ends_checkShopper {x : Except Failure (Option String)}
    (h : CheckoutEnds dep column o (checkShopper body guestSessionId userId) w w' x) :
    w' = w ∧ (Accepted o body guestSessionId userId w ∧ (∃ email, x = .ok email) ∨
      ¬ Accepted o body guestSessionId userId w ∧ ∃ e, x = .error e) := by
  unfold checkShopper at h
  unfold Accepted
  by_cases hguest : body.isGuest = true
  · simp only [if_pos hguest] at h ⊢
    split_ifs at h with hsession haddress
    · obtain ⟨rfl, rfl⟩ := h
      exact ⟨rfl, .inr ⟨fun h => h.1 hsession, _, rfl⟩⟩
    · obtain ⟨rfl, rfl⟩ := h
      exact ⟨rfl, .inr ⟨fun h => h.2 haddress, _, rfl⟩⟩
    · obtain ⟨rfl, rfl⟩ := h
      exact ⟨rfl, .inl ⟨⟨hsession, haddress⟩, _, rfl⟩⟩
  · simp only [if_neg hguest] at h ⊢
    split_ifs at h with hzero
    · obtain ⟨rfl, rfl⟩ := h
      exact ⟨rfl, .inr ⟨fun h => h.1 hzero, _, rfl⟩⟩
    · cases huser : userId with
      | none =>
          rw [huser] at h
          obtain ⟨rfl, rfl⟩ := (ends_bind_await_of_error rfl).mp h
          refine ⟨rfl, .inr ⟨?_, _, rfl⟩⟩
          rintro ⟨-, -, -, id, hid, -⟩
          cases hid
      | some id =>
          rw [huser] at h
          by_cases hwhole : Whole (body.addressId.getD 0)
          · rcases (ends_bind_await_of_ok (if_pos hwhole)).mp h with
              ⟨ho, h⟩ | ⟨ho, rfl, rfl⟩ | ⟨ho, rfl, rfl⟩
            · have hok : o.address = .ok := ho
              cases haddress : w.addressOf (body.addressId.getD 0) id with
              | none =>
                  have hfound := haddress
                  unfold World.addressOf at hfound
                  rw [hfound] at h
                  obtain ⟨rfl, rfl⟩ := h
                  refine ⟨rfl, .inr ⟨?_, _, rfl⟩⟩
                  rintro ⟨-, -, -, id', hid, hsome⟩
                  cases hid
                  rw [haddress] at hsome
                  cases hsome
              | some address =>
                  have hfound := haddress
                  unfold World.addressOf at hfound
                  rw [hfound] at h
                  obtain ⟨rfl, rfl⟩ := h
                  exact ⟨rfl, .inl ⟨⟨hzero, hok, hwhole, id, rfl, by rw [haddress]; rfl⟩, _, rfl⟩⟩
            · have hfail : o.address = .fail := ho
              exact ⟨rfl, .inr ⟨by simp [hfail], _, rfl⟩⟩
            · have hlost : o.address = .lost := ho
              exact ⟨rfl, .inr ⟨by simp [hlost], _, rfl⟩⟩
          · obtain ⟨rfl, rfl⟩ := (ends_bind_await_of_error (if_neg hwhole)).mp h
            exact ⟨rfl, .inr ⟨fun h => hwhole h.2.2.1, _, rfl⟩⟩

theorem nodup_found : ((w.found items).map fun v => (v.id : ℚ)).Nodup := by
  have hids : ((w.found items).map BookVariant.id).Nodup :=
    w.db.variants.nodup.sublist (List.filter_sublist.map _)
  have hcast := hids.map (f := fun n : Nat => (n : ℚ)) Nat.cast_injective
  rwa [List.map_map] at hcast

/-- The variants found are among those asked for. -/
theorem id_of_found {v : BookVariant} (hv : v ∈ w.found items) :
    (v.id : ℚ) ∈ items.map (·.bookVariantId) := by
  simpa using (List.mem_filter.mp hv).2

theorem subperm_of_found :
    ((w.found items).map fun v => (v.id : ℚ)).Subperm (items.map (·.bookVariantId)) := by
  refine List.subperm_of_subset nodup_found fun k hk => ?_
  obtain ⟨v, hv, rfl⟩ := List.mem_map.mp hk
  exact id_of_found hv

/-- With as many variants as items, each item has a variant of its own. -/
theorem perm_of_found (h : (w.found items).length = items.length) :
    ((w.found items).map fun v => (v.id : ℚ)).Perm (items.map (·.bookVariantId)) :=
  subperm_of_found.perm_of_length_le (by simp [h])

theorem keys_of_found (h : (w.found items).length = items.length) :
    (items.map CheckoutItemDto.key).Perm ((w.found items).map BookVariant.id) := by
  have hfloor := ((perm_of_found h).map fun id : ℚ => ⌊id⌋₊).symm
  have hid : (fun id : ℚ => ⌊id⌋₊) ∘ (fun v : BookVariant => (v.id : ℚ)) = BookVariant.id :=
    funext fun v => Nat.floor_natCast v.id
  rw [List.map_map, List.map_map, hid] at hfloor
  exact hfloor

theorem nodup_of_found (h : (w.found items).length = items.length) :
    (items.map CheckoutItemDto.key).Nodup :=
  (keys_of_found h).nodup_iff.mpr (w.db.variants.nodup.sublist (List.filter_sublist.map _))

/-- What `createCheckout` leaves: nothing, or what `reserveItems` and `placeOrder` do. -/
theorem ends_createCheckout {x : Except Failure Answer}
    (h : CheckoutEnds dep column o (createCheckout dep body guestSessionId userId) w w' x) :
    ¬ Reached o body guestSessionId userId w ∧ w' = w ∨
      Reached o body guestSessionId userId w ∧ ∃ v y,
        Reserved column o body.items (w.found body.items) w v y ∧
        ((∃ e, y = .error e ∧ w' = v) ∨
          ∃ isError, y = .ok isError ∧ OrderPlaced dep o body.paymentGateway
            (orderCreateInput body guestSessionId userId (w.found body.items))
            (mapVariantIds body.items) isError v w') := by
  unfold createCheckout at h
  rcases ends_bind.mp h with ⟨v, email, hcheck, hrest⟩ | ⟨e, hcheck, -⟩
  · obtain ⟨rfl, hcheck⟩ := ends_checkShopper hcheck
    obtain ⟨haccepted, -⟩ := hcheck.resolve_right fun hnot => by
      obtain ⟨-, e, he⟩ := hnot
      cases he
    by_cases hwhole : ∀ i, i ∈ body.items → Whole i.bookVariantId
    · have hall : ((body.items.map (·.bookVariantId)).all fun id => decide (Whole id)) = true := by
        simpa using hwhole
      rcases (ends_bind_await_of_ok (if_pos hall)).mp hrest with
        ⟨ho, h⟩ | ⟨ho, rfl, -⟩ | ⟨ho, rfl, -⟩
      · change (if (v.found body.items).length ≠ body.items.length then raise _
          else _ : Service Answer).Ends _ _ _ _ _ _ at h
        split_ifs at h with hlength
        · exact .inl ⟨fun hreached => hlength hreached.found, h.1⟩
        · rw [not_not] at hlength
          refine .inr ⟨⟨haccepted, ho, hwhole, hlength⟩, ?_⟩
          rcases ends_bind.mp h with ⟨u, isError, hreserve, hplace⟩ | ⟨e, hreserve, -⟩
          · exact ⟨u, _, ends_reserveItems (nodup_of_found hlength) hreserve,
              .inr ⟨isError, rfl, ends_placeOrder hplace⟩⟩
          · exact ⟨w', _, ends_reserveItems (nodup_of_found hlength) hreserve,
              .inl ⟨e, rfl, rfl⟩⟩
      · refine .inl ⟨fun hreached => ?_, rfl⟩
        exact absurd (ho.symm.trans hreached.variants) (by decide)
      · refine .inl ⟨fun hreached => ?_, rfl⟩
        exact absurd (ho.symm.trans hreached.variants) (by decide)
    · have hall :
          ¬ ((body.items.map (·.bookVariantId)).all fun id => decide (Whole id)) = true := by
        simpa using hwhole
      obtain ⟨rfl, -⟩ := (ends_bind_await_of_error (if_neg hall)).mp hrest
      exact .inl ⟨fun hreached => hwhole hreached.whole, rfl⟩
  · obtain ⟨rfl, hcheck⟩ := ends_checkShopper hcheck
    obtain ⟨hnot, -⟩ := hcheck.resolve_left fun haccepted => by
      obtain ⟨-, email, hemail⟩ := haccepted
      cases hemail
    exact .inl ⟨fun hreached => hnot hreached.accepted, rfl⟩

end Checkout

end Numbers
end BookStore
