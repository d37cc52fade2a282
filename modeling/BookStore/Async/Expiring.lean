import BookStore.Async.Logic
import Mathlib.Algebra.Order.PUnit
import Mathlib.Logic.Function.Basic

/-!
# Caches with times to live

Handlers answer from a cache in front of a database that anyone may change.  An entry lives for a
time; nobody removes it when the database changes.

* `ExpiringStmt` and `expiringExec` are the commands to the cache and the queries.
* `Program.readThrough` asks the cache first.
* `Freshness` says what the entries of a key are made of and how long they live; `freshLogic` is
  the invariant that every entry is what it should be.
* `Safe.readThrough` is the rule: what is answered was read for the request, or for one that has
  stored it no longer ago than the entry may live.
-/

namespace BookStore
namespace Async

structure CacheEntry (V : Type) where
  value : V
  setAt : Nat
  ttl : Option Nat
  /-- Bookkeeping: when the request arrived that has stored the entry. -/
  since : Nat

/-- The entry has not expired. -/
def CacheEntry.live {V : Type} (now : Nat) (e : CacheEntry V) : Bool :=
  e.ttl.all fun ttl => decide (now ≤ e.setAt + ttl)

structure ExpiringWorld (K V D : Type) where
  db : D
  now : Nat
  entries : K → Option (CacheEntry V)
  /-- Bookkeeping: the moments of the queries, with the database at each. -/
  past : List (Nat × D)

inductive ExpiringStmt (K V Q : Type)
  | get (key : K)
  | set (key : K) (value : V) (ttl : Option Nat) (since : Nat)
  | del (key : K)
  | query (q : Q)
  | dateNow

/-- The answer of a statement. -/
abbrev ExpiringResponse {K V Q : Type} (A : Q → Type) : ExpiringStmt K V Q → Type
  | .get _ => Option V
  | .query q => A q
  | .dateNow => Nat
  | _ => Unit

/-- The effect and the answer of a statement, where `answer` answers the queries. -/
def expiringExec {K V D Q E : Type} [DecidableEq K] {A : Q → Type} (answer : (q : Q) → D → A q) :
    (s : ExpiringStmt K V Q) → ExpiringWorld K V D →
      Except E (ExpiringWorld K V D × ExpiringResponse A s)
  | .get key, w => .ok (w, ((w.entries key).filter (CacheEntry.live w.now)).map CacheEntry.value)
  | .set key value ttl since, w =>
      .ok ({ w with
        entries := Function.update w.entries key (some ⟨value, w.now, ttl, since⟩) }, ())
  | .del key, w => .ok ({ w with entries := Function.update w.entries key none }, ())
  | .query q, w => .ok ({ w with past := w.past ++ [(w.now, w.db)] }, answer q w.db)
  | .dateNow, w => .ok (w, w.now)

/-- The cached value if there is one and it is `truthy`, else that of `fill`. -/
def Program.readThrough {K V Q E : Type} {A : Q → Type} (truthy : V → Bool) (key : K)
    (fill : Program (ExpiringStmt K V Q) (ExpiringResponse A) E V) :
    Program (ExpiringStmt K V Q) (ExpiringResponse A) E V :=
  (Program.await (ExpiringStmt.get key)).bind fun cached =>
    match cached.filter truthy with
    | some value => .ret value
    | none => fill

/-- A query at or after `since` found the database as `P` says. -/
def ReadSince {D : Type} (past : List (Nat × D)) (since : Nat) (P : D → Prop) : Prop :=
  ∃ t db, (t, db) ∈ past ∧ since ≤ t ∧ P db

theorem ReadSince.mono
    {D : Type} {past past' : List (Nat × D)} {since : Nat} {P P' : D → Prop}
    (hpast : past ⊆ past')
    (hP : ∀ db, P db → P' db)
    (h : ReadSince past since P) :
    ReadSince past' since P' := by
  obtain ⟨t, db, hmem, ht, hdb⟩ := h
  exact ⟨t, db, hpast hmem, ht, hP db hdb⟩

theorem ReadSince.of_le
    {D : Type} {past : List (Nat × D)} {since since' : Nat} {P : D → Prop}
    (h : ReadSince past since P)
    (hle : since' ≤ since) :
    ReadSince past since' P := by
  obtain ⟨t, db, hmem, ht, hdb⟩ := h
  exact ⟨t, db, hmem, hle.trans ht, hdb⟩

/-- What the entries of a key are made of, and how long they live. -/
structure Freshness (K V D : Type) where
  lasts : K → Nat → Prop
  /-- The value is made of answers that the database gave at or after a time. -/
  made : List (Nat × D) → Nat → K → V → Prop
  mono : ∀ past past' since key value, past ⊆ past' →
    made past since key value → made past' since key value

section Fresh

variable {K V D Q E : Type} {A : Q → Type}
variable (f : Freshness K V D)
-- when a request may store something, and when it has arrived
variable (within : Nat → Nat → Prop)

/-- What may be answered to a request that arrived at `arrivedAt`. -/
def Freshness.Answers (arrivedAt : Nat) (past : List (Nat × D)) (key : K) (value : V) : Prop :=
  f.made past arrivedAt key value ∨
    ∃ since setAt ttl, f.lasts key ttl ∧ within setAt since ∧ arrivedAt ≤ setAt + ttl ∧
      f.made past since key value

/-- The entry is what the entries of its key should be. -/
structure EntryFresh (past : List (Nat × D)) (key : K) (ttl : Nat) (e : CacheEntry V) : Prop where
  ttl : e.ttl = some ttl
  setAt : within e.setAt e.since
  made : f.made past e.since key e.value

def EntriesFresh (w : ExpiringWorld K V D) : Prop :=
  ∀ key e, w.entries key = some e → ∀ ttl, f.lasts key ttl → EntryFresh f within w.past key ttl e

/-- Time goes on, and what was read was read. -/
structure Later (w w' : ExpiringWorld K V D) : Prop where
  now : w.now ≤ w'.now
  past : w.past ⊆ w'.past

/-- A request stores what it stores in time. -/
def StoresWithin (w : ExpiringWorld K V D) (s : ExpiringStmt K V Q) (_ : Outcome) : Prop :=
  match s with
  | .set _ _ _ since => within w.now since
  | _ => True

instance [∀ now since, Decidable (within now since)]
    (w : ExpiringWorld K V D) (s : ExpiringStmt K V Q) (o : Outcome) :
    Decidable (StoresWithin within w s o) :=
  match s with
  | .set _ _ _ since => inferInstanceAs (Decidable (within w.now since))
  | .get _ => isTrue trivial
  | .del _ => isTrue trivial
  | .query _ => isTrue trivial
  | .dateNow => isTrue trivial

/-- Every entry is fresh. -/
def freshLogic : Logic (ExpiringStmt K V Q) (ExpiringWorld K V D) Unit where
  inv := fun _ w => EntriesFresh f within w
  rely := Later
  rely_refl := fun _ => ⟨le_rfl, List.Subset.refl _⟩
  rely_trans := fun _ _ _ h h' => ⟨h.now.trans h'.now, List.Subset.trans h.past h'.past⟩
  guard := StoresWithin within
  done := fun _ => True

variable {f within}

theorem Later.refl (w : ExpiringWorld K V D) : Later w w :=
  ⟨le_rfl, List.Subset.refl _⟩

theorem Later.trans {u v w : ExpiringWorld K V D} (h : Later u v) (h' : Later v w) : Later u w :=
  ⟨h.now.trans h'.now, List.Subset.trans h.past h'.past⟩

theorem Freshness.Answers.mono
    {arrivedAt : Nat} {past past' : List (Nat × D)} {key : K} {value : V}
    (h : f.Answers within arrivedAt past key value)
    (hpast : past ⊆ past') :
    f.Answers within arrivedAt past' key value := by
  rcases h with hmade | ⟨since, setAt, ttl, hlasts, hwithin, harrived, hmade⟩
  · exact .inl (f.mono _ _ _ _ _ hpast hmade)
  · exact .inr ⟨since, setAt, ttl, hlasts, hwithin, harrived, f.mono _ _ _ _ _ hpast hmade⟩

theorem EntryFresh.mono
    {past past' : List (Nat × D)} {key : K} {ttl : Nat} {e : CacheEntry V}
    (h : EntryFresh f within past key ttl e)
    (hpast : past ⊆ past') :
    EntryFresh f within past' key ttl e :=
  ⟨h.ttl, h.setAt, f.mono _ _ _ _ _ hpast h.made⟩

/-- A state whose entries are old ones -/
theorem EntriesFresh.of_entries
    {w w' : ExpiringWorld K V D}
    (h : EntriesFresh f within w)
    (hpast : w.past ⊆ w'.past)
    (hentries : ∀ key e, w'.entries key = some e → w.entries key = some e) :
    EntriesFresh f within w' :=
  fun key e he ttl httl => (h key e (hentries key e he) ttl httl).mono hpast

/-- A live entry may be answered. -/
theorem EntriesFresh.answers
    {w : ExpiringWorld K V D} {key : K} {ttl arrivedAt : Nat} {value : V}
    (h : EntriesFresh f within w)
    (httl : f.lasts key ttl)
    (harrived : arrivedAt ≤ w.now)
    (hvalue : ((w.entries key).filter (CacheEntry.live w.now)).map CacheEntry.value =
      some value) :
    f.Answers within arrivedAt w.past key value := by
  obtain ⟨e, hlive, rfl⟩ := Option.map_eq_some_iff.mp hvalue
  obtain ⟨he, hlive⟩ := Option.filter_eq_some_iff.mp hlive
  obtain ⟨hettl, hset, hmade⟩ := h key e he ttl httl
  rw [CacheEntry.live, hettl, Option.all_some, decide_eq_true_eq] at hlive
  exact .inr ⟨e.since, e.setAt, ttl, httl, hset, harrived.trans hlive, hmade⟩

variable [DecidableEq K]

/-- An entry that is dropped -/
theorem EntriesFresh.drop
    {w : ExpiringWorld K V D}
    (h : EntriesFresh f within w) (key : K) :
    EntriesFresh f within { w with entries := Function.update w.entries key none } := by
  refine h.of_entries (List.Subset.refl _) fun key' e he => ?_
  dsimp only at he
  rw [Function.update_apply] at he
  split_ifs at he
  exact he

/-- An entry that is stored -/
theorem EntriesFresh.set
    {w : ExpiringWorld K V D} {key : K} {e : CacheEntry V}
    (h : EntriesFresh f within w)
    (he : ∀ ttl, f.lasts key ttl → EntryFresh f within w.past key ttl e) :
    EntriesFresh f within { w with entries := Function.update w.entries key (some e) } := by
  intro key' e' he' ttl httl
  dsimp only at he'
  rw [Function.update_apply] at he'
  split_ifs at he' with hkey
  · cases he'
    subst hkey
    exact he ttl httl
  · exact h key' e' he' ttl httl

namespace Logic

variable {answer : (q : Q) → D → A q} {fault : E} {α : Type}
variable {P : Except E α → Unit → ExpiringWorld K V D → Prop} {w : ExpiringWorld K V D}

/-- A query reads its answer. -/
theorem StatementSafe.query {q : Q} :
    StatementSafe (freshLogic f within) (expiringExec answer) fault
      (ExpiringStmt.query (K := K) (V := V) q)
      (fun x _ v => ∀ r, x = .ok r → ReadSince v.past w.now fun db => answer q db = r) () w := by
  refine StatementSafe.of_exec (fun _ _ _ _ h => by cases h) ?_
  rintro v F o v' r hwv hinv - - hexec
  cases hexec
  have hpast : v.past ⊆ v.past ++ [(v.now, v.db)] := List.subset_append_left _ _
  refine ⟨(), EntriesFresh.of_entries hinv hpast fun _ _ he => he, ⟨le_rfl, hpast⟩, ?_,
    fun _ h => by cases h⟩
  rintro r hr
  cases hr
  exact ⟨v.now, v.db, List.mem_append_right _ (List.mem_singleton.mpr rfl), hwv.now, rfl⟩

/-- The rule of a query: its answer was read. -/
theorem Safe.query_bind
    {q : Q} {rest : A q → Program (ExpiringStmt K V Q) (ExpiringResponse A) E α}
    (herror : ∀ e v, P (.error e) () v)
    (hrest : ∀ r v, Later w v → ReadSince v.past w.now (fun db => answer q db = r) →
      Safe (freshLogic f within) (expiringExec answer) fault P (rest r) () v) :
    Safe (freshLogic f within) (expiringExec answer) fault P
      ((Program.await (ExpiringStmt.query q)).bind rest) () w := by
  refine Safe.await_bind (StatementSafe.query.mono fun x _ v hwv hx => ?_)
  cases x with
  | ok r =>
      exact hrest r v hwv (hx r rfl)
  | error e =>
      exact fun _ _ => herror e _

/-- The same for a query whose answer is awaited -/
theorem Safe.query {q : Q} :
    Safe (freshLogic f within) (expiringExec answer) fault
      (fun x _ v => ∀ r, x = .ok r → ReadSince v.past w.now fun db => answer q db = r)
      (Program.await (ExpiringStmt.query (K := K) (V := V) q)) () w := by
  rw [show Program.await (ExpiringStmt.query (K := K) (V := V) q) =
    (Program.await (ExpiringStmt.query q)).bind Program.ret from
      (Program.bind_await _ _).symm]
  refine Safe.query_bind (fun _ _ _ h => by cases h) fun r v hv hr => ?_
  intro v' hv' r' hr'
  cases hr'
  exact hr.mono hv'.past fun _ hdb => hdb

/-- The rule of two queries together -/
theorem Safe.queries_bind
    {q q' : Q} {rest : A q × A q' → Program (ExpiringStmt K V Q) (ExpiringResponse A) E α}
    (herror : ∀ e v, P (.error e) () v)
    (hrest : ∀ r v, Later w v → ReadSince v.past w.now (fun db => answer q db = r.1) →
      ReadSince v.past w.now (fun db => answer q' db = r.2) →
      Safe (freshLogic f within) (expiringExec answer) fault P (rest r) () v) :
    Safe (freshLogic f within) (expiringExec answer) fault P
      ((Program.alongside (ExpiringStmt.query q)
        (Program.await (ExpiringStmt.query q'))).bind rest) () w := by
  have hread : ∀ (q : Q) (r : A q) (v v' : ExpiringWorld K V D),
      ReadSince v.past w.now (fun db => answer q db = r) → Later v v' →
      ReadSince v'.past w.now (fun db => answer q db = r) :=
    fun _ _ _ _ h hv => h.mono hv.past fun _ hdb => hdb
  refine Safe.bind ((Safe.alongside_await (hread q) (hread q')
    (StatementSafe.query.mono fun _ _ _ _ h => ⟨rfl, h⟩)
    (StatementSafe.query.mono fun _ _ _ _ h => ⟨rfl, h⟩)).mono fun x _ v hwv hx => ?_)
  cases x with
  | ok r =>
      obtain ⟨hr, hr'⟩ := hx.2 r rfl
      exact hrest r v hwv hr hr'
  | error e =>
      exact herror e v

/-- The rule of the clock -/
theorem Safe.dateNow_bind
    {rest : Nat → Program (ExpiringStmt K V Q) (ExpiringResponse A) E α}
    (herror : ∀ e v, P (.error e) () v)
    (hrest : ∀ v, Later w v →
      Safe (freshLogic f within) (expiringExec answer) fault P (rest v.now) () v) :
    Safe (freshLogic f within) (expiringExec answer) fault P
      ((Program.await (ExpiringStmt.dateNow (K := K) (V := V) (Q := Q))).bind rest) () w := by
  exact Safe.await_bind (StatementSafe.of_read (fun v => v.now) (fun _ => rfl)
    (fun v _ hwv _ => hrest v hwv) fun _ _ _ _ _ => herror _ _)

/-- The rule of a value that is stored: it has to be what its key stands for. -/
theorem Safe.set_bind
    {key : K} {value : V} {ttl : Option Nat} {since : Nat}
    {rest : Unit → Program (ExpiringStmt K V Q) (ExpiringResponse A) E α}
    (herror : ∀ e v, P (.error e) () v)
    (hmade : ∀ n, f.lasts key n → ttl = some n ∧ f.made w.past since key value)
    (hrest : ∀ v, Later w v →
      Safe (freshLogic f within) (expiringExec answer) fault P (rest ()) () v) :
    Safe (freshLogic f within) (expiringExec answer) fault P
      ((Program.await (ExpiringStmt.set key value ttl since)).bind rest) () w := by
  refine Safe.await_bind (StatementSafe.of_exec (fun _ _ _ _ _ => herror _ _) ?_)
  rintro v F o v' r hwv hinv hguard - hexec
  cases hexec
  have hlater : Later v { v with
      entries := Function.update v.entries key (some ⟨value, v.now, ttl, since⟩) } :=
    ⟨le_rfl, List.Subset.refl _⟩
  refine ⟨(), EntriesFresh.set hinv fun n hn => ?_, hlater, hrest _ (hwv.trans hlater),
    fun _ _ => herror _ _⟩
  obtain ⟨rfl, hvalue⟩ := hmade n hn
  exact ⟨rfl, hguard, f.mono _ _ _ _ _ hwv.past hvalue⟩

/-- The rule of an entry that is removed -/
theorem Safe.del_bind
    {key : K} {rest : Unit → Program (ExpiringStmt K V Q) (ExpiringResponse A) E α}
    (herror : ∀ e v, P (.error e) () v)
    (hrest : ∀ v, Later w v →
      Safe (freshLogic f within) (expiringExec answer) fault P (rest ()) () v) :
    Safe (freshLogic f within) (expiringExec answer) fault P
      ((Program.await (ExpiringStmt.del key)).bind rest) () w := by
  refine Safe.await_bind (StatementSafe.of_exec (fun _ _ _ _ _ => herror _ _) ?_)
  rintro v F o v' r hwv hinv - - hexec
  cases hexec
  have hlater : Later v { v with entries := Function.update v.entries key none } :=
    ⟨le_rfl, List.Subset.refl _⟩
  exact ⟨(), EntriesFresh.drop hinv key, hlater, hrest _ (hwv.trans hlater),
    fun _ _ => herror _ _⟩

/-- **The rule** of a read through the cache. -/
theorem Safe.readThrough
    {truthy : V → Bool} {key : K} {ttl arrivedAt : Nat}
    {fill : Program (ExpiringStmt K V Q) (ExpiringResponse A) E V}
    (httl : f.lasts key ttl)
    (harrived : arrivedAt ≤ w.now)
    (hfill : ∀ v, Later w v →
      Safe (freshLogic f within) (expiringExec answer) fault
        (fun x _ v => ∀ value, x = .ok value → f.Answers within arrivedAt v.past key value)
        fill () v) :
    Safe (freshLogic f within) (expiringExec answer) fault
      (fun x _ v => ∀ value, x = .ok value → f.Answers within arrivedAt v.past key value)
      (Program.readThrough truthy key fill) () w := by
  refine Safe.await_bind (StatementSafe.of_read _ (fun _ => rfl) (fun v F hwv hinv => ?_)
    fun v e hwv v' hv' value hvalue => by cases hvalue)
  dsimp only
  cases hcached : Option.filter truthy
      (((v.entries key).filter (CacheEntry.live v.now)).map CacheEntry.value) with
  | none =>
      exact hfill v hwv
  | some value =>
      have hvalue := (Option.filter_eq_some_iff.mp hcached).1
      intro v' hv' value' hvalue'
      cases hvalue'
      exact (EntriesFresh.answers hinv httl (harrived.trans hwv.now) hvalue).mono hv'.past

end Logic

end Fresh

end Async
end BookStore
