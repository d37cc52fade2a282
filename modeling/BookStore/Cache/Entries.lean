import BookStore.Async.Sequential
import BookStore.Cache.Store

/-!
# The entry of a namespace

The entry of a namespace is the value stored under its current version.  A `withCache`
by itself answers with the entry if there is one; else it computes the value and makes
it the entry.  A bump leaves no entry where nothing is stored beyond the version.
-/

namespace BookStore

open Async Program

variable {Q V D E : Type} {QR : Q → Type}

/-- The stored version has reached `version`. -/
def Reached (ns : String) (w : CacheWorld D V) (version : Nat) : Prop :=
  ∃ n, w.versions (createVersionKey ns) = some n ∧ version ≤ n

/-- No value is stored under a version that has not been reached. -/
def NothingBeyond (ns : String) (w : CacheWorld D V) : Prop :=
  ∀ version, ¬ Reached ns w version → w.data (cacheDataKey ns version) = none

namespace CacheWorld

/-- The version under which a value is looked up; an absent one counts as 1. -/
def version (w : CacheWorld D V) (ns : String) : Nat :=
  (w.versions (createVersionKey ns)).getD 1

/-- The value stored under the current version. -/
def entry (w : CacheWorld D V) (ns : String) : Option V :=
  w.data (cacheDataKey ns (w.version ns))

/-- An absent version has been set. -/
def touch (w : CacheWorld D V) (ns : String) : CacheWorld D V :=
  { w with versions := Function.update w.versions (createVersionKey ns) (some (w.version ns)) }

/-- A value has been stored under the current version. -/
def store (w : CacheWorld D V) (ns : String) (value : V) : CacheWorld D V :=
  { w with data := Function.update w.data (cacheDataKey ns (w.version ns)) (some value) }

/-- The factory has answered `x`: a value is stored, an error is not. -/
def fill (w : CacheWorld D V) (ns : String) (x : Except E V) : CacheWorld D V :=
  match x with
  | .ok value => (w.touch ns).store ns value
  | .error _ => w.touch ns

/-- The version has been increased. -/
def bump (w : CacheWorld D V) (ns : String) : CacheWorld D V :=
  { w with
    versions := Function.update w.versions (createVersionKey ns)
      (some ((w.versions (createVersionKey ns)).getD 0 + 1))
    bumps := w.bumps ++
      [⟨createVersionKey ns, (w.versions (createVersionKey ns)).getD 0 + 1, w.db⟩] }

/-- A database and an empty cache. -/
def blank (db : D) : CacheWorld D V :=
  ⟨db, fun _ => none, fun _ => none, []⟩

variable {w : CacheWorld D V} {ns ns' : String} {value : V}

@[simp] theorem db_touch : (w.touch ns).db = w.db := rfl
@[simp] theorem db_store : (w.store ns value).db = w.db := rfl
@[simp] theorem db_bump : (w.bump ns).db = w.db := rfl
@[simp] theorem db_expire {key : String} : (w.expire key).db = w.db := rfl
@[simp] theorem db_fill {x : Except E V} : (w.fill ns x).db = w.db := by
  cases x <;> rfl

@[simp] theorem db_blank {db : D} : (blank db : CacheWorld D V).db = db := rfl
@[simp] theorem entry_blank {db : D} : (blank db : CacheWorld D V).entry ns = none := rfl

theorem touch_of_some {n : Nat} (h : w.versions (createVersionKey ns) = some n) :
    w.touch ns = w := by
  have hversion : some (w.version ns) = w.versions (createVersionKey ns) := by
    rw [version, h, Option.getD_some]
  rw [touch, hversion, Function.update_eq_self]

@[simp] theorem version_touch : (w.touch ns).version ns' = w.version ns' := by
  by_cases h : createVersionKey ns' = createVersionKey ns
  · obtain rfl := createVersionKey_inj.mp h
    simp [touch, version]
  · simp [touch, version, Function.update_of_ne h]

theorem version_fill {x : Except E V} : (w.fill ns x).version ns' = w.version ns' := by
  cases x with
  | ok value =>
      exact version_touch
  | error e =>
      exact version_touch

@[simp] theorem entry_touch : (w.touch ns).entry ns' = w.entry ns' := by
  rw [entry, version_touch]
  rfl

@[simp] theorem entry_store_self : (w.store ns value).entry ns = some value :=
  Function.update_self _ _ _

theorem entry_store_of_ne (h : ns' ≠ ns) : (w.store ns value).entry ns' = w.entry ns' :=
  Function.update_of_ne (fun heq => h (cacheDataKey_inj.mp heq).1) _ _

theorem entry_fill_self_ok : (w.fill ns (.ok value : Except E V)).entry ns = some value :=
  entry_store_self

theorem entry_fill_self_error {e : E} : (w.fill ns (.error e)).entry ns = w.entry ns :=
  entry_touch

theorem entry_fill_of_ne {x : Except E V} (h : ns' ≠ ns) :
    (w.fill ns x).entry ns' = w.entry ns' := by
  cases x with
  | ok value =>
      rw [fill, entry_store_of_ne h, entry_touch]
  | error e =>
      rw [fill, entry_touch]

theorem entry_bump_of_ne (h : ns' ≠ ns) : (w.bump ns).entry ns' = w.entry ns' := by
  have hkey : createVersionKey ns' ≠ createVersionKey ns := fun heq =>
    h (createVersionKey_inj.mp heq)
  have hversion : (w.bump ns).version ns' = w.version ns' := by
    simp [bump, version, Function.update_of_ne hkey]
  rw [entry, hversion]
  rfl

/-- Under a new version nothing is stored yet. -/
theorem entry_bump_self (h : NothingBeyond ns w) : (w.bump ns).entry ns = none := by
  refine h _ ?_
  rintro ⟨n, hn, hle⟩
  simp [bump, version, hn] at hle

theorem entry_expire {key : String} (h : (w.expire key).entry ns = some value) :
    w.entry ns = some value := by
  by_cases hkey : cacheDataKey ns (w.version ns) = key
  · have : (w.expire key).entry ns = none := by
      subst hkey
      exact Function.update_self _ _ _
    rw [this] at h
    cases h
  · rw [← h]
    exact (Function.update_of_ne hkey _ _).symm

end CacheWorld

section Beyond

variable {w : CacheWorld D V} {ns ns' : String} {value : V}

/-- A step that moves no version back and stores nothing beyond. -/
theorem NothingBeyond.mono
    {w' : CacheWorld D V}
    (h : NothingBeyond ns w)
    (hreached : ∀ version, Reached ns w version → Reached ns w' version)
    (hdata : ∀ version, ¬ Reached ns w' version →
      w'.data (cacheDataKey ns version) = w.data (cacheDataKey ns version) ∨
        w'.data (cacheDataKey ns version) = none) :
    NothingBeyond ns w' := by
  intro version hbeyond
  rcases hdata version hbeyond with heq | hnone
  · rw [heq]
    exact h version fun hr => hbeyond (hreached version hr)
  · exact hnone

theorem reached_update
    {n : Nat}
    (hle : ∀ m, w.versions (createVersionKey ns') = some m → m ≤ n)
    {version : Nat} (h : Reached ns w version) :
    Reached ns
      { w with versions := Function.update w.versions (createVersionKey ns') (some n) }
      version := by
  obtain ⟨m, hm, hversion⟩ := h
  by_cases hkey : createVersionKey ns = createVersionKey ns'
  · obtain rfl := createVersionKey_inj.mp hkey
    exact ⟨n, Function.update_self _ _ _, hversion.trans (hle m hm)⟩
  · exact ⟨m, by simp only [Function.update_of_ne hkey, hm], hversion⟩

theorem NothingBeyond.touch (h : NothingBeyond ns w) : NothingBeyond ns (w.touch ns') :=
  h.mono (fun _ => reached_update fun m hm => by simp [CacheWorld.version, hm])
    fun _ _ => .inl rfl

theorem NothingBeyond.bump (h : NothingBeyond ns w) : NothingBeyond ns (w.bump ns') :=
  h.mono (fun _ => reached_update (w := w) fun m hm => by simp [hm]) fun _ _ => .inl rfl

theorem NothingBeyond.expire {key : String} (h : NothingBeyond ns w) :
    NothingBeyond ns (w.expire key) := by
  refine h.mono (fun _ hr => hr) fun version _ => ?_
  by_cases hkey : cacheDataKey ns version = key
  · exact .inr (by subst hkey; exact Function.update_self _ _ _)
  · exact .inl (Function.update_of_ne hkey _ _)

theorem NothingBeyond.store
    (h : NothingBeyond ns w) {n : Nat}
    (hn : w.versions (createVersionKey ns') = some n) :
    NothingBeyond ns (w.store ns' value) := by
  refine h.mono (fun _ hr => hr) fun version hbeyond => .inl (Function.update_of_ne ?_ _ _)
  intro heq
  obtain ⟨rfl, rfl⟩ := cacheDataKey_inj.mp heq
  exact hbeyond ⟨n, hn, by simp [CacheWorld.version, hn]⟩

theorem NothingBeyond.fill {x : Except E V} (h : NothingBeyond ns w) :
    NothingBeyond ns (w.fill ns' x) := by
  cases x with
  | ok value =>
      exact h.touch.store (Function.update_self _ _ _)
  | error e =>
      exact h.touch

end Beyond

/-! ### `withCache` and `bumpVersion` by themselves -/

section Yields

variable {run : (q : Q) → D → Except E (D × QR q)} {fault : E}
variable {truthy : V → Bool} {ns : String} {ttl : Nat}
variable {w w' : CacheWorld D V}

/-- A query that reads. -/
theorem readsOnly_query {q : Q} {ans : D → QR q}
    (h : ∀ db, run q db = .ok (db, ans db)) :
    ReadsOnly (cacheExec (V := V) run) fault CacheWorld.db (.query q) where
  kept w := by simp only [attempt, cacheExec, h]
  answer w v hdb := by simp only [attempt, cacheExec, h, hdb]

/-- A query that is always refused. -/
theorem readsOnly_refused {q : Q} {e : E} (h : ∀ db, run q db = .error e) :
    ReadsOnly (cacheExec (V := V) run) fault CacheWorld.db (.query q) where
  kept w := by simp only [attempt, cacheExec, h]
  answer w v _ := by simp only [attempt, cacheExec, h]

variable (run fault) in
/-- The factory, on a database, may end in `x`. -/
def Computes (factory : CacheService QR E V V) (db : D) (x : Except E V) : Prop :=
  factory.Yields (cacheExec run) fault (.blank db) (.blank db) x

/-- A factory that only reads the database. -/
abbrev ReadsDb (run : (q : Q) → D → Except E (D × QR q)) (fault : E)
    {α : Type} (p : CacheService QR E V α) : Prop :=
  p.All (ReadsOnly (cacheExec run) fault CacheWorld.db)

theorem yields_factory
    {factory : CacheService QR E V V} (hfactory : ReadsDb run fault factory)
    {x : Except E V} :
    factory.Yields (cacheExec run) fault w w' x ↔ w' = w ∧ Computes run fault factory w.db x := by
  constructor
  · intro h
    obtain rfl := h.eq_of_reads hfactory
    exact ⟨rfl, h.of_reads hfactory (by rfl)⟩
  · rintro ⟨rfl, h⟩
    exact Program.Yields.of_reads hfactory (by rfl) h

theorem yields_createCacheKey {key : String} {x : Except E String}
    (hkey : key = cacheDataKey ns (w.version ns)) :
    (createCacheKey ns : CacheService QR E V String).Yields (cacheExec run) fault w w' x ↔
      w' = w.touch ns ∧ x = .ok key := by
  subst hkey
  have hget : cacheExec (V := V) run (.get (createVersionKey ns)) w =
      .ok (w, w.versions (createVersionKey ns)) := rfl
  unfold createCacheKey getVersionKey
  rw [bind_eq_bind, bind_eq_bind, bind_assoc]
  refine (yields_await_bind hget).trans ?_
  cases hversion : w.versions (createVersionKey ns) with
  | some n =>
      rw [CacheWorld.touch_of_some hversion]
      simp [CacheWorld.version, hversion]
  | none =>
      have hset : cacheExec (V := V) run (.set (createVersionKey ns) 1) w =
          .ok (w.touch ns, ()) := by
        simp [cacheExec, CacheWorld.touch, CacheWorld.version, hversion]
      rw [bind_eq_bind, bind_assoc]
      refine (yields_await_bind hset).trans ?_
      simp [CacheWorld.version, hversion]

/-- The entry if there is one, else what the factory computes. -/
theorem yields_withCache
    {factory : CacheService QR E V V} (hfactory : ReadsDb run fault factory)
    {x : Except E V} :
    (withCache truthy ns ttl factory).Yields (cacheExec run) fault w w' x ↔
      (∃ value, (w.entry ns).filter truthy = some value ∧ w' = w.touch ns ∧ x = .ok value) ∨
      (w.entry ns).filter truthy = none ∧ Computes run fault factory w.db x ∧
        w' = w.fill ns x := by
  unfold withCache
  rw [bind_eq_bind, yields_bind]
  simp only [yields_createCacheKey rfl]
  have hget : cacheExec (V := V) run (.getData (cacheDataKey ns (w.version ns))) (w.touch ns) =
      .ok (w.touch ns, w.entry ns) := rfl
  constructor
  · rintro (⟨v, key, ⟨rfl, h⟩, hrest⟩ | ⟨e, ⟨-, h⟩, -⟩)
    · cases h
      rw [bind_eq_bind] at hrest
      have hrest := (yields_await_bind hget).mp hrest
      cases hentry : (w.entry ns).filter truthy with
      | some value =>
          rw [hentry] at hrest
          exact .inl ⟨value, rfl, hrest⟩
      | none =>
          rw [hentry] at hrest
          dsimp only at hrest
          rw [bind_eq_bind, yields_bind] at hrest
          refine .inr ⟨rfl, ?_⟩
          simp only [yields_factory hfactory] at hrest
          obtain ⟨u, value, ⟨rfl, hvalue⟩, hstore⟩ | ⟨e, ⟨rfl, he⟩, rfl⟩ := hrest
          · have hset : cacheExec run
                (.setData (cacheDataKey ns (w.version ns)) value ttl) (w.touch ns) =
                .ok ((w.touch ns).store ns value, ()) := by
              simp [cacheExec, CacheWorld.store]
            rw [bind_eq_bind] at hstore
            obtain ⟨rfl, rfl⟩ := (yields_await_bind hset).mp hstore
            exact ⟨hvalue, rfl⟩
          · exact ⟨he, rfl⟩
    · cases h
  · intro h
    refine .inl ⟨_, _, ⟨rfl, rfl⟩, ?_⟩
    rw [bind_eq_bind]
    refine (yields_await_bind hget).mpr ?_
    rcases h with ⟨value, hentry, rfl, rfl⟩ | ⟨hentry, hx, hw'⟩
    · rw [hentry]
      exact ⟨rfl, rfl⟩
    · rw [hentry]
      dsimp only
      rw [bind_eq_bind, yields_bind]
      simp only [yields_factory hfactory]
      cases x with
      | ok value =>
          have hset : cacheExec run
              (.setData (cacheDataKey ns (w.version ns)) value ttl) (w.touch ns) =
              .ok ((w.touch ns).store ns value, ()) := by
            simp [cacheExec, CacheWorld.store]
          refine .inl ⟨_, _, ⟨rfl, hx⟩, ?_⟩
          rw [bind_eq_bind]
          exact (yields_await_bind hset).mpr ⟨hw', rfl⟩
      | error e =>
          exact .inr ⟨e, ⟨hw', hx⟩, rfl⟩

/-- The same where every value is truthy. -/
theorem yields_withCache_true
    {factory : CacheService QR E V V} (hfactory : ReadsDb run fault factory)
    {x : Except E V} :
    (withCache (fun _ => true) ns ttl factory).Yields (cacheExec run) fault w w' x ↔
      (∃ value, w.entry ns = some value ∧ w' = w.touch ns ∧ x = .ok value) ∨
      w.entry ns = none ∧ Computes run fault factory w.db x ∧ w' = w.fill ns x := by
  have hfilter : (w.entry ns).filter (fun _ => true) = w.entry ns := by
    cases w.entry ns <;> rfl
  rw [yields_withCache hfactory, hfilter]

end Yields

end BookStore
