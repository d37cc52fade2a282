import BookStore.Checkout.Reservation
import BookStore.Server

/-!
# Giving back what Redis has counted

A checkout that stops using its reservation in Redis should leave the counters as they
were.  `restores_iff` says when it does, however its statements end: only the first item
found short is given back, everything else that the script has taken stays taken.
-/

namespace BookStore
namespace Numbers

open Async Program

/-- All that was taken is given back, and the counters are as before. -/
structure RedisRestored (w w' : World) : Prop where
  returned : ∀ k, w'.taken k = w.taken k
  counters : ∀ k x, w.redis k = some x → w'.redis k = some x

/-- A job has been enqueued that relies on the reservation in Redis. -/
def InUse (w w' : World) : Prop :=
  ∃ job, w'.queue = w.queue ++ [job] ∧ job.isError = false

/-- A checkout whose reservation in Redis is not in use has restored Redis. -/
def RestoresRedis (dep : Deployment) (column : IntColumn) (o : Outcomes)
    (body : CreateCheckOutDTO) (guestSessionId : Option String) (userId : Option Nat)
    (w : World) : Prop :=
  ∀ w' x, CheckoutEnds dep column o (createCheckout dep body guestSessionId userId) w w' x →
    InUse w w' ∨ RedisRestored w w'

section Restoration

variable {dep : Deployment} {column : IntColumn} {o : Outcomes} {w w' : World}
variable {body : CreateCheckOutDTO} {guestSessionId : Option String} {userId : Option Nat}
variable {items : List CheckoutItemDto} {variants : List BookVariant}

theorem live_seedAvailable : (seedAvailable variants).Live := by
  unfold seedAvailable
  induction variants with
  | nil =>
      trivial
  | cons v variants ih =>
      exact Live.bind ((Live.await _).tryCatch fun _ => trivial) fun _ => ih

theorem live_checkRemaining {results : List Int} : (checkRemaining items results).Live := by
  induction items generalizing results with
  | nil =>
      trivial
  | cons i items ih =>
      cases results with
      | nil =>
          trivial
      | cons r results =>
          unfold checkRemaining
          split_ifs
          · exact (Live.await _).bind fun _ => trivial
          · exact ih

theorem live_reserveItems : (reserveItems items variants).Live := by
  refine Live.tryCatch (Live.bind ?_ fun _ => trivial) fun _ => Live.bind ?_ fun _ => trivial
  · refine live_seedAvailable.bind fun _ => (Live.await _).bind fun result => ?_
    cases result with
    | none =>
        trivial
    | some results =>
        exact live_checkRemaining
  · unfold reserveInDatabase
    split_ifs
    · trivial
    · exact Live.await _

theorem live_checkShopper : (checkShopper body guestSessionId userId).Live := by
  unfold checkShopper
  split_ifs
  · trivial
  · trivial
  · trivial
  · trivial
  · refine (Live.await _).bind fun address => ?_
    cases address <;> trivial

theorem live_placeOrder
    {email : Option String} {isError : Bool} :
    (placeOrder dep body guestSessionId userId email variants isError).Live := by
  refine (Live.await _).bind fun order => Live.bind ?_ fun result =>
    (Live.await _).bind fun _ => trivial
  unfold createPaymentIntent
  split_ifs
  · trivial
  · exact (Live.await _).bind fun _ => trivial

variable (dep column o body guestSessionId userId w) in
/-- A checkout comes to an end. -/
theorem exists_createCheckout :
    ∃ w' x, CheckoutEnds dep column o (createCheckout dep body guestSessionId userId) w w' x := by
  refine exists_ends (live_checkShopper.bind fun email => (Live.await _).bind fun variants => ?_) w
  split_ifs
  · trivial
  · exact live_reserveItems.bind fun isError => live_placeOrder

theorem leftTaken_sublist : (leftTaken o items w).Sublist items := by
  unfold leftTaken
  split_ifs
  · exact List.nil_sublist items
  · cases w.short items with
    | none =>
        exact List.Sublist.refl items
    | some i =>
        exact List.erase_sublist
  · exact List.takeWhile_sublist _

theorem JobSent.congr
    {gateway : PaymentGateway} {db db' : Database}
    (horders : db'.orders = db.orders)
    (hintents : db'.paymentIntents = db.paymentIntents) :
    JobSent dep o gateway db' ↔ JobSent dep o gateway db := by
  have hfree : IntentFree dep db' ↔ IntentFree dep db := by
    unfold IntentFree
    rw [horders, hintents]
  exact ⟨fun h => ⟨h.order, h.intent.imp_right (And.imp_right hfree.mp), h.job⟩,
    fun h => ⟨h.order, h.intent.imp_right (And.imp_right hfree.mpr), h.job⟩⟩

/-- The reservation is in use exactly if the items are held and the job is sent. -/
theorem inUse_iff
    {v : World} {y : Except Failure Bool}
    (hreserved : Reserved column o items variants w v y)
    (hrest : (∃ e, y = .error e ∧ w' = v) ∨ ∃ isError, y = .ok isError ∧
      ∃ gateway data quantities, gateway = body.paymentGateway ∧
        OrderPlaced dep o gateway data quantities isError v w') :
    InUse w w' ↔ Held o items (w.seeded o variants) ∧ JobSent dep o body.paymentGateway w.db := by
  have hunsent : w'.queue = w.queue → ¬ InUse w w' := by
    rintro hqueue ⟨job, happend, -⟩
    exact List.append_ne_nil_of_right_ne_nil [] (List.cons_ne_nil job [])
      (List.self_eq_append_right.mp (hqueue.symm.trans happend))
  have hanswer := hreserved.answer
  rcases hrest with ⟨e, rfl, rfl⟩ | ⟨isError, rfl, gateway, data, quantities, rfl, hplaced⟩
  · refine iff_of_false (hunsent hreserved.queue) fun hboth => ?_
    rcases hanswer with ⟨-, he, -⟩ | ⟨hnot, -⟩ | ⟨hnot, -⟩
    · cases he
    · exact hnot hboth.1
    · exact hnot hboth.1
  · have hsent : JobSent dep o body.paymentGateway v.db ↔
        JobSent dep o body.paymentGateway w.db :=
      JobSent.congr hreserved.orders hreserved.intents
    rcases hplaced.queue with ⟨hjob, job, hqueue, herror, -⟩ | ⟨hnot, hqueue⟩
    · rw [hreserved.queue] at hqueue
      constructor
      · rintro ⟨job', hqueue', herror'⟩
        obtain rfl : job = job' := by simpa using hqueue.symm.trans hqueue'
        refine ⟨?_, hsent.mp hjob⟩
        rcases hanswer with ⟨hheld, -⟩ | ⟨-, -, he, -⟩ | ⟨-, -, e, he⟩
        · exact hheld
        · obtain rfl := Except.ok.inj he
          cases herror.symm.trans herror'
        · cases he
      · rintro ⟨hheld, -⟩
        refine ⟨job, hqueue, ?_⟩
        rcases hanswer with ⟨-, he, -⟩ | ⟨hnot, -⟩ | ⟨hnot, -⟩
        · rw [herror, Except.ok.inj he]
        · exact absurd hheld hnot
        · exact absurd hheld hnot
    · exact iff_of_false (hunsent (hqueue.trans hreserved.queue)) fun hboth =>
        hnot (hsent.mpr hboth.2)

/-- The whole checkout, once the Redis path is reached. -/
theorem ends_of_reached {x : Except Failure Answer}
    (hreached : Reached o body guestSessionId userId w)
    (h : CheckoutEnds dep column o (createCheckout dep body guestSessionId userId) w w' x) :
    (InUse w w' ↔ Held o body.items (w.seeded o (w.found body.items)) ∧
        JobSent dep o body.paymentGateway w.db) ∧
      (RedisRestored w w' ↔
        ∀ i, i ∈ leftTaken o body.items (w.seeded o (w.found body.items)) →
          i.quantity = 0) := by
  obtain ⟨hnot, -⟩ | ⟨-, v, y, hreserved, hrest⟩ := ends_createCheckout h
  · exact absurd hreached hnot
  refine ⟨inUse_iff hreserved (hrest.imp_right fun ⟨isError, hy, hplaced⟩ =>
    ⟨isError, hy, _, _, _, rfl, hplaced⟩), ?_⟩
  have hsame : w'.redis = v.redis ∧ w'.taken = v.taken := by
    rcases hrest with ⟨e, -, rfl⟩ | ⟨isError, -, hplaced⟩
    · exact ⟨rfl, rfl⟩
    · exact ⟨hplaced.redis, hplaced.taken⟩
  generalize hleft : leftTaken o body.items (w.seeded o (w.found body.items)) = left
  have hlevel := hreserved.level
  have htaken := hreserved.taken
  rw [hleft] at hlevel htaken
  have hkeys : (left.map CheckoutItemDto.key).Nodup :=
    (nodup_of_found hreached.found).sublist (hleft ▸ leftTaken_sublist.map _)
  have hzero : (∀ k, amountAt left k = 0) ↔ ∀ i, i ∈ left → i.quantity = 0 := by
    rw [amountAt_eq_zero_iff hkeys]
    exact forall₂_congr fun i _ => Rat.num_eq_zero
  rw [← hzero]
  constructor
  · intro hrestored k
    have hk := hrestored.returned k
    rw [hsame.2, htaken] at hk
    omega
  · intro hnone
    refine ⟨fun k => by rw [hsame.2, htaken, hnone, add_zero], fun k y hk => ?_⟩
    obtain ⟨z, hz⟩ := Option.isSome_iff_exists.mp
      (hreserved.present k (isSome_seeded (by rw [hk]; rfl)))
    have hseeded : (w.seeded o (w.found body.items)).redis k = some y := by
      rw [redis_seeded, hk, Option.some_or]
    have hlevel := hlevel k
    rw [World.level, World.level, hz, hseeded, hnone, sub_zero] at hlevel
    rw [hsame.1, hz]
    exact congrArg some hlevel

/--
**Giving back.** A checkout that does not end up using its reservation in Redis has restored
the counters exactly if it does not get to the script, or the script takes nothing that
stays taken: only the first item found short is given back.
-/
theorem restores_iff :
    RestoresRedis dep column o body guestSessionId userId w ↔
      (Reached o body guestSessionId userId w →
        Held o body.items (w.seeded o (w.found body.items)) ∧
            JobSent dep o body.paymentGateway w.db ∨
          ∀ i, i ∈ leftTaken o body.items (w.seeded o (w.found body.items)) →
            i.quantity = 0) := by
  constructor
  · intro h hreached
    obtain ⟨w', x, hends⟩ := exists_createCheckout dep column o w body guestSessionId userId
    obtain ⟨huse, hrestored⟩ := ends_of_reached hreached hends
    exact (h w' x hends).imp huse.mp hrestored.mp
  · intro hcond w' x hends
    by_cases hreached : Reached o body guestSessionId userId w
    · obtain ⟨huse, hrestored⟩ := ends_of_reached hreached hends
      exact (hcond hreached).imp huse.mpr hrestored.mpr
    · obtain ⟨-, rfl⟩ | ⟨hnot, -⟩ := ends_createCheckout hends
      · exact .inr ⟨fun k => rfl, fun k y hk => hk⟩
      · exact absurd hnot hreached

end Restoration

/-! ### Samples -/

/-- Columns that round to the nearest whole number. -/
def sampleColumn : IntColumn where
  store := fun q => ⌊q + 1 / 2⌋
  store_intCast := by
    intro n
    rw [Int.floor_intCast_add]
    norm_num

/-- Nothing fails. -/
def allOk : Outcomes where
  address := .ok
  variants := .ok
  seed := fun _ => .ok
  script := .ok
  giveBack := .ok
  book := .ok
  order := .ok
  intent := .ok
  job := .ok

/-- Two variants with `stock` copies each, and no counters yet. -/
def sampleShelf (stock : Int) : World where
  db :=
    { (sampleWorld stock).db with
      variants := (sampleWorld stock).db.variants.insert fun n =>
        { id := n
          bookId := 1
          format := .hardcover
          isbn := "9780306406164"
          price := some 200000
          stock := stock
          available := 0
          isActive := true
          reserved := 0
          edition := 1 } }
  redis := fun _ => none
  queue := []
  now := 0
  taken := fun _ => 0

/-- A guest asks for these copies of variants `1` and `2`. -/
def sampleBody (first second : ℚ) : CreateCheckOutDTO where
  isGuest := true
  guestEmail := none
  guestAddress := some ⟨"Nguyễn Văn A", "123", "HCM", none, none, "09", none⟩
  addressId := none
  paymentGateway := .cod
  items := [⟨1, first⟩, ⟨2, second⟩]

/-- The second item is short: the first stays taken, and the order has a job of its own. -/
theorem first_item_stays_taken :
    ¬ ∀ (dep : Deployment) (column : IntColumn) (o : Outcomes) (body : CreateCheckOutDTO)
      (guestSessionId : Option String) (userId : Option Nat) (w : World),
      RestoresRedis dep column o body guestSessionId userId w := by
  intro h
  have hreached : Reached allOk (sampleBody 1 5) (some "guest") none (sampleShelf 3) := by
    refine ⟨?_, rfl, ?_, ?_⟩
    · exact ⟨by decide, by decide⟩
    · decide +kernel
    · decide +kernel
  obtain ⟨w', x, hends⟩ := exists_createCheckout sampleDeployment sampleColumn allOk
    (sampleShelf 3) (sampleBody 1 5) (some "guest") none
  obtain ⟨huse, hrestored⟩ := ends_of_reached hreached hends
  rcases h sampleDeployment sampleColumn allOk (sampleBody 1 5) (some "guest") none
    (sampleShelf 3) w' x hends with h | h
  · have henough := (huse.mp h).1.enough ⟨2, 5⟩ (by decide)
    revert henough
    decide +kernel
  · have hzero := hrestored.mp h ⟨1, 1⟩ (by decide +kernel)
    revert hzero
    decide +kernel

end Numbers
end BookStore
