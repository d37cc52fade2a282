import BookStore.Async.Logic
import BookStore.Cache.Entries
import Mathlib.Algebra.Order.PUnit

/-!
# A bump and the reads after it

Any number of handlers read one value through `withCache`, any number of handlers
change the value and then bump its version.  Stored values may expire at any time.

* `Versioned` is the value with all its earlier contents.
* `SetsForward` is the condition on the `SET` of the version: it may not take a
  version back that `INCR` has reached since the `GET` before it.
* `bumpVersion_invalidates` is the result: the condition is exactly what keeps the
  version from decreasing, and it keeps every later read from an older content.
* `lateSet_serves_replaced` is a run in which a late `SET` takes the version back.
-/

namespace BookStore

open Async Program Logic

variable {V E : Type}

/-- The value, with what it was before. -/
structure Versioned (V : Type) where
  past : List V
  current : V

/-- All the contents, the current one last. -/
def Versioned.contents (d : Versioned V) : List V :=
  d.past ++ [d.current]

inductive ValueQuery (V : Type)
  | read
  | update (value : V)

/-- An update answers with the number of contents before it. -/
abbrev ValueAnswer : ValueQuery V → Type
  | .read => V
  | .update _ => Nat

def runValue : (q : ValueQuery V) → Versioned V → Except E (Versioned V × ValueAnswer q)
  | .read, d => .ok (d, d.current)
  | .update value, d => .ok (⟨d.contents, value⟩, d.contents.length)

/-- What a handler returns. -/
inductive CacheAnswer (V : Type)
  | value (value : V)
  /-- `before` contents were there when the value was changed. -/
  | bumped (before : Nat)
  | none

/-- A step of the environment. -/
inductive CacheEvent (V : Type)
  | withCache
  | update (value : V)
  | expire (key : String)

abbrev ValueService (E V α : Type) : Type :=
  CacheService (ValueAnswer (V := V)) E V α

def valueQuery (q : ValueQuery V) : ValueService E V (ValueAnswer q) :=
  command (.query q)

section Server

variable (truthy : V → Bool) (ns : String) (ttl : Nat)

/-- A read through the cache. -/
def readCached : ValueService E V (CacheAnswer V) := do
  let value ← withCache truthy ns ttl (valueQuery .read)
  ret (.value value)

/-- A writer. -/
def updateAndBump (value : V) : ValueService E V (CacheAnswer V) := do
  let before : Nat ← valueQuery (.update value)
  let _ ← bumpVersion ns
  ret (.bumped before)

variable (fault : E)

/-- Readers and writers of one namespace. -/
def cacheServer :
    System (CacheStmt (ValueQuery V) V) (CacheResponse ValueAnswer) E (CacheAnswer V)
      (CacheWorld (Versioned V) V) (CacheEvent V) where
  exec := cacheExec runValue
  fault := fault
  idle := .none
  env := fun e w =>
    match e with
    | .withCache => some (w, some (readCached truthy ns ttl))
    | .update value => some (w, some (updateAndBump ns value))
    | .expire key => some (w.expire key, none)

end Server

/-- The store and the handlers under way. -/
abbrev CacheState (E V : Type) :=
  Config (CacheStmt (ValueQuery V) V) (CacheResponse ValueAnswer) E (CacheAnswer V)
    (CacheWorld (Versioned V) V)

variable (ns : String)

/-- The stored version does not decrease. -/
def VersionKept {D : Type} (w w' : CacheWorld D V) : Prop :=
  ∀ n, w.versions (createVersionKey ns) = some n →
    ∃ n', w'.versions (createVersionKey ns) = some n' ∧ n ≤ n'

/-- A `SET` of the version that is executed does not take it back. -/
def SetsForward {D Q : Type} (w : CacheWorld D V) (s : CacheStmt Q V) (o : Outcome) : Prop :=
  match s with
  | .set key version =>
      o ≠ .fail → key = createVersionKey ns → (w.versions key).getD 0 ≤ version
  | _ => True

instance {D Q : Type} (w : CacheWorld D V) (s : CacheStmt Q V) (o : Outcome) :
    Decidable (SetsForward ns w s o) := by
  apply CacheStmt.casesOn (motive := fun s => Decidable (SetsForward ns w s o)) s <;>
    intros <;> unfold SetsForward <;> infer_instance

/-- The value may have been read at or after every bump that has reached the version. -/
def FreshFor (w : CacheWorld (Versioned V) V) (version : Nat) (value : V) : Prop :=
  ∀ b, b ∈ w.bumps → b.key = createVersionKey ns → b.version ≤ version →
    value ∈ w.db.contents.drop b.db.past.length

/-- What holds of the store while the version is only set forward. -/
structure BumpInv (w : CacheWorld (Versioned V) V) : Prop where
  nothingBeyond : NothingBeyond ns w
  bumps_reached : ∀ b, b ∈ w.bumps → b.key = createVersionKey ns → Reached ns w b.version
  past_le : ∀ b, b ∈ w.bumps → b.db.past.length ≤ w.db.past.length
  fresh : ∀ version value, w.data (cacheDataKey ns version) = some value →
    FreshFor ns w version value

/-- What no step takes back while the version is only set forward. -/
structure BumpKept (w w' : CacheWorld (Versioned V) V) : Prop where
  version : VersionKept ns w w'
  contents : w.db.contents <+: w'.db.contents
  bumps_mem : ∀ b, b ∈ w.bumps → b ∈ w'.bumps
  bumps_new : ∀ b, b ∈ w'.bumps → b.key = createVersionKey ns →
    Reached ns w b.version → b ∈ w.bumps

variable {ns} {w w' u : CacheWorld (Versioned V) V}

theorem Reached.mono {version version' : Nat}
    (h : Reached ns w version)
    (hle : version' ≤ version) :
    Reached ns w version' := by
  obtain ⟨n, hn, hversion⟩ := h
  exact ⟨n, hn, hle.trans hversion⟩

theorem Reached.of_kept {version : Nat}
    (h : Reached ns w version)
    (hkept : VersionKept ns w w') :
    Reached ns w' version := by
  obtain ⟨n, hn, hversion⟩ := h
  obtain ⟨n', hn', hle⟩ := hkept n hn
  exact ⟨n', hn', hversion.trans hle⟩

theorem VersionKept.of_eq (h : w'.versions = w.versions) : VersionKept ns w w' :=
  fun n hn => ⟨n, by rw [h, hn], le_rfl⟩

theorem BumpKept.refl (w : CacheWorld (Versioned V) V) : BumpKept ns w w :=
  ⟨.of_eq rfl, List.prefix_rfl, fun _ h => h, fun _ h _ _ => h⟩

theorem BumpKept.trans (h : BumpKept ns w w') (h' : BumpKept ns w' u) : BumpKept ns w u where
  version := by
    intro n hn
    obtain ⟨n', hn', hle⟩ := h.version n hn
    obtain ⟨m, hm, hle'⟩ := h'.version n' hn'
    exact ⟨m, hm, hle.trans hle'⟩
  contents := h.contents.trans h'.contents
  bumps_mem b hb := h'.bumps_mem b (h.bumps_mem b hb)
  bumps_new b hb hkey hreached :=
    h.bumps_new b (h'.bumps_new b hb hkey (hreached.of_kept h.version)) hkey hreached

/-- A content stays a content of the same time or later. -/
theorem mem_drop_of_prefix {α : Type} {l l' : List α} {a : α} {n : Nat}
    (h : l <+: l')
    (ha : a ∈ l.drop n) :
    a ∈ l'.drop n := by
  obtain ⟨m, rfl⟩ := h
  rw [List.drop_append]
  exact List.mem_append_left _ ha

/-- What is fresh for a version that has been reached stays fresh. -/
theorem FreshFor.of_kept {version : Nat} {value : V}
    (h : FreshFor ns w version value)
    (hversion : Reached ns w version)
    (hkept : BumpKept ns w w') :
    FreshFor ns w' version value := by
  intro b hb hkey hle
  have hb' := hkept.bumps_new b hb hkey (hversion.mono hle)
  exact mem_drop_of_prefix hkept.contents (h b hb' hkey hle)

/-- The current content is fresh for every version. -/
theorem BumpInv.fresh_current (h : BumpInv ns w) (version : Nat) :
    FreshFor ns w version w.db.current := by
  intro b hb _ _
  rw [Versioned.contents, List.drop_append_of_le_length (h.past_le b hb)]
  simp

/-! ### One statement -/

theorem VersionKept.update
    {key : String} {n : Nat}
    (hn : key = createVersionKey ns → (w.versions key).getD 0 ≤ n)
    (hw' : w'.versions = Function.update w.versions key (some n)) :
    VersionKept ns w w' := by
  intro m hm
  by_cases hkey : createVersionKey ns = key
  · subst hkey
    refine ⟨n, by rw [hw', Function.update_self], ?_⟩
    simpa [hm] using hn rfl
  · exact ⟨m, by rw [hw', Function.update_of_ne hkey, hm], le_rfl⟩

/-- A statement that changes nothing but versions, and these forward. -/
theorem BumpInv.of_versions
    (hinv : BumpInv ns w)
    (hversion : VersionKept ns w w')
    (hdb : w'.db = w.db) (hdata : w'.data = w.data) (hbumps : w'.bumps = w.bumps) :
    BumpInv ns w' ∧ BumpKept ns w w' := by
  refine ⟨⟨?_, ?_, ?_, ?_⟩,
    ⟨hversion, hdb ▸ List.prefix_rfl, by simp [hbumps], fun b hb _ _ => hbumps ▸ hb⟩⟩
  · intro version hbeyond
    rw [hdata]
    exact hinv.nothingBeyond version fun h => hbeyond (h.of_kept hversion)
  · intro b hb hkey
    rw [hbumps] at hb
    exact (hinv.bumps_reached b hb hkey).of_kept hversion
  · rw [hbumps, hdb]
    exact hinv.past_le
  · simp only [hdata, FreshFor, hbumps, hdb]
    exact hinv.fresh

theorem BumpInv.reached_of_data
    (hinv : BumpInv ns w)
    {version : Nat} {value : V}
    (h : w.data (cacheDataKey ns version) = some value) :
    Reached ns w version := by
  by_contra hbeyond
  rw [hinv.nothingBeyond version hbeyond] at h
  cases h

/-- The answer of `INCR` has not been reached before. -/
theorem not_reached_incr {version : Nat}
    (hle : (w.versions (createVersionKey ns)).getD 0 + 1 ≤ version) :
    ¬ Reached ns w version := by
  rintro ⟨n, hn, hversion⟩
  rw [hn, Option.getD_some] at hle
  omega

theorem BumpInv.incr
    (hinv : BumpInv ns w) {key : String} {r : Nat}
    (h : cacheExec (V := V) (E := E) runValue (.incr key) w = .ok (w', r)) :
    BumpInv ns w' ∧ BumpKept ns w w' := by
  simp only [cacheExec, Except.ok.injEq, Prod.mk.injEq] at h
  obtain ⟨rfl, rfl⟩ := h
  have hversion : VersionKept ns w
      { w with
        versions := Function.update w.versions key (some ((w.versions key).getD 0 + 1))
        bumps := w.bumps ++ [⟨key, (w.versions key).getD 0 + 1, w.db⟩] } :=
    VersionKept.update (fun _ => Nat.le_succ _) rfl
  refine ⟨⟨?_, ?_, ?_, ?_⟩, ⟨hversion, List.prefix_rfl, ?_, ?_⟩⟩
  · intro version hbeyond
    exact hinv.nothingBeyond version fun h => hbeyond (h.of_kept hversion)
  · intro b hb hkey
    rcases List.mem_append.mp hb with hb | hb
    · exact (hinv.bumps_reached b hb hkey).of_kept hversion
    · obtain rfl := List.mem_singleton.mp hb
      subst hkey
      exact ⟨_, Function.update_self _ _ _, le_rfl⟩
  · intro b hb
    rcases List.mem_append.mp hb with hb | hb
    · exact hinv.past_le b hb
    · rw [List.mem_singleton.mp hb]
  · intro version value hvalue b hb hkey hle
    rcases List.mem_append.mp hb with hb | hb
    · exact hinv.fresh version value hvalue b hb hkey hle
    · -- nothing is stored under the new version yet
      obtain rfl := List.mem_singleton.mp hb
      subst hkey
      exact absurd (hinv.reached_of_data hvalue) (not_reached_incr hle)
  · exact fun b hb => List.mem_append_left _ hb
  · intro b hb hkey hreached
    rcases List.mem_append.mp hb with hb | hb
    · exact hb
    · obtain rfl := List.mem_singleton.mp hb
      subst hkey
      exact absurd hreached (not_reached_incr le_rfl)

theorem BumpInv.setData
    (hinv : BumpInv ns w) {version : Nat} {value : V}
    (hreached : Reached ns w version)
    (hfresh : FreshFor ns w version value)
    (hw' : w' = { w with
      data := Function.update w.data (cacheDataKey ns version) (some value) }) :
    BumpInv ns w' ∧ BumpKept ns w w' := by
  subst hw'
  refine ⟨⟨?_, hinv.bumps_reached, hinv.past_le, ?_⟩,
    ⟨.of_eq rfl, List.prefix_rfl, fun _ h => h, fun _ h _ _ => h⟩⟩
  · intro version' hbeyond
    have hne : cacheDataKey ns version' ≠ cacheDataKey ns version := by
      intro h
      obtain ⟨-, rfl⟩ := cacheDataKey_inj.mp h
      exact hbeyond hreached
    simp only [Function.update_of_ne hne]
    exact hinv.nothingBeyond version' hbeyond
  · intro version' value' hvalue
    by_cases h : version' = version
    · subst h
      simp only [Function.update_self, Option.some.injEq] at hvalue
      subst hvalue
      exact hfresh
    · have hne : cacheDataKey ns version' ≠ cacheDataKey ns version :=
        fun heq => h (cacheDataKey_inj.mp heq).2
      simp only [Function.update_of_ne hne] at hvalue
      exact hinv.fresh version' value' hvalue

theorem BumpInv.expire (hinv : BumpInv ns w) (key : String) :
    BumpInv ns (w.expire key) ∧ BumpKept ns w (w.expire key) := by
  have hsome : ∀ k value, (w.expire key).data k = some value → w.data k = some value := by
    intro k value h
    by_cases hk : k = key
    · subst hk
      simp [CacheWorld.expire] at h
    · simpa [CacheWorld.expire, Function.update_of_ne hk] using h
  refine ⟨⟨?_, hinv.bumps_reached, hinv.past_le, ?_⟩,
    ⟨.of_eq rfl, List.prefix_rfl, fun _ h => h, fun _ h _ _ => h⟩⟩
  · intro version hbeyond
    cases h : (w.expire key).data (cacheDataKey ns version) with
    | none =>
        rfl
    | some value =>
        exact absurd (hinv.reached_of_data (hsome _ _ h)) hbeyond
  · exact fun version value h => hinv.fresh version value (hsome _ _ h)

theorem BumpInv.update
    (hinv : BumpInv ns w) (value : V)
    (hw' : w' = { w with db := ⟨w.db.contents, value⟩ }) :
    BumpInv ns w' ∧ BumpKept ns w w' := by
  subst hw'
  have hcontents : w.db.contents <+: (⟨w.db.contents, value⟩ : Versioned V).contents :=
    List.prefix_append _ _
  refine ⟨⟨hinv.nothingBeyond, hinv.bumps_reached, ?_, ?_⟩,
    ⟨.of_eq rfl, hcontents, fun _ h => h, fun _ h _ _ => h⟩⟩
  · intro b hb
    have := hinv.past_le b hb
    simp only [Versioned.contents, List.length_append]
    omega
  · intro version value' hvalue b hb hkey hle
    exact mem_drop_of_prefix hcontents (hinv.fresh version value' hvalue b hb hkey hle)

/-! ### The handlers -/

variable (ns) in
/-- Nothing is shared; versions are only set forward. -/
def bumpLogic : Logic (CacheStmt (ValueQuery V) V) (CacheWorld (Versioned V) V) Unit where
  inv := fun _ w => BumpInv ns w
  rely := BumpKept ns
  rely_refl := .refl
  rely_trans := fun _ _ _ => .trans
  guard := SetsForward ns
  done := fun _ => True

variable {truthy : V → Bool} {ttl : Nat} {fault : E}

abbrev BumpSafe {α : Type} (ns : String) (fault : E)
    (Q : Except E α → CacheWorld (Versioned V) V → Prop)
    (p : ValueService E V α) (w : CacheWorld (Versioned V) V) : Prop :=
  Safe (bumpLogic ns) (cacheExec runValue) fault (fun x _ v => Q x v) p () w

/-- A version that has been reached, with all the bumps up to `w`. -/
theorem safe_getVersionKey (w : CacheWorld (Versioned V) V) :
    BumpSafe ns fault
      (fun x v => ∀ version, x = .ok version → Reached ns v version ∧
        ∀ b, b ∈ w.bumps → b.key = createVersionKey ns → b.version ≤ version)
      (getVersionKey ns) w := by
  refine Safe.await_bind (StatementSafe.of_read (fun v => v.versions (createVersionKey ns))
    (fun _ => rfl) (fun v _ hwv hinv => ?_) fun v e _ v' _ _ h => by cases h)
  cases hversion : v.versions (createVersionKey ns) with
  | some version =>
      rintro v' hv' _ ⟨⟩
      refine ⟨Reached.of_kept ⟨version, hversion, le_rfl⟩ hv'.version, fun b hb hkey => ?_⟩
      obtain ⟨n, hn, hle⟩ := hinv.bumps_reached b (hwv.bumps_mem b hb) hkey
      rw [hversion] at hn
      cases hn
      exact hle
  | none =>
      have hnone : ∀ b, b ∈ w.bumps → b.key = createVersionKey ns → False := by
        intro b hb hkey
        obtain ⟨n, hn, -⟩ := hinv.bumps_reached b (hwv.bumps_mem b hb) hkey
        rw [hversion] at hn
        cases hn
      refine Safe.await_bind (StatementSafe.of_exec (fun v e _ v' _ _ h => by cases h) ?_)
      intro u _ o u' r hu hinv hguard ho h
      cases h
      let u' : CacheWorld (Versioned V) V :=
        { u with versions := Function.update u.versions (createVersionKey ns) (some 1) }
      obtain ⟨hinv', hkept⟩ : BumpInv ns u' ∧ BumpKept ns u u' :=
        BumpInv.of_versions hinv (VersionKept.update (fun hkey => hguard ho hkey) rfl) rfl rfl rfl
      refine ⟨(), hinv', hkept, ?_, fun v' _ _ h => by cases h⟩
      rintro v' hv' _ ⟨⟩
      exact ⟨Reached.of_kept ⟨1, Function.update_self _ _ _, le_rfl⟩ hv'.version,
        fun b hb hkey => (hnone b hb hkey).elim⟩

/-- A read has returned nothing that was replaced before a bump up to `w`. -/
def ReadAfter (ns : String) (w : CacheWorld (Versioned V) V)
    (x : Except E (CacheAnswer V)) (v : CacheWorld (Versioned V) V) : Prop :=
  ∀ a, x = .ok a → ∃ value, a = .value value ∧
    ∀ b, b ∈ w.bumps → b.key = createVersionKey ns →
      value ∈ v.db.contents.drop b.db.past.length

variable (truthy ttl fault) in
theorem safe_readCached (w : CacheWorld (Versioned V) V) :
    BumpSafe ns fault (ReadAfter ns w)
      (readCached truthy ns ttl) w := by
  refine Safe.bind (Safe.bind (Safe.bind (Safe.mono (safe_getVersionKey w)
    fun x _ v hwv hx => ?_)))
  cases x with
  | error e =>
      rintro _ ⟨⟩
  | ok version =>
      obtain ⟨hreached, hbumps⟩ := hx version rfl
      -- what is fresh for the version is what the read may return
      have hreturn : ∀ u value u', BumpKept ns v u → FreshFor ns u version value →
          BumpKept ns u u' → ReadAfter ns w (.ok (.value value) : Except E _) u' := by
        rintro u value u' hvu hfresh hu' _ ⟨⟩
        refine ⟨value, rfl, fun b hb hkey => mem_drop_of_prefix hu'.contents ?_⟩
        exact hfresh b (hvu.bumps_mem b (hwv.bumps_mem b hb)) hkey (hbumps b hb hkey)
      intro v' hv'
      refine Safe.await_bind (StatementSafe.of_read
        (fun u => u.data (cacheDataKey ns version)) (fun _ => rfl)
        (fun u _ hu hinv => ?_) fun _ _ _ _ _ _ h => by cases h)
      have hvu := hv'.trans hu
      cases hraw : (u.data (cacheDataKey ns version)).filter truthy with
      | some cached =>
          have hdata := (Option.filter_eq_some_iff.mp hraw).1
          dsimp only
          rw [hraw]
          intro u₁ hu₁ u₂ hu₂
          exact hreturn u cached u₂ hvu (hinv.fresh version cached hdata) (hu₁.trans hu₂)
      | none =>
          dsimp only
          rw [hraw]
          refine Safe.await_bind (StatementSafe.of_read (fun u => u.db.current)
            (fun _ => rfl) (fun t _ ht hinv => ?_) fun _ _ _ _ _ _ h => by cases h)
          have hvt := hvu.trans ht
          have hfresh := hinv.fresh_current version
          refine Safe.await_bind (StatementSafe.of_exec
            (fun _ _ _ _ _ _ h => by cases h) ?_)
          intro s _ o s' r hs hinv _ _ h
          cases h
          have hvs := hvt.trans hs
          have hfresh' := hfresh.of_kept (hreached.of_kept hvt.version) hs
          obtain ⟨hinv', hkept⟩ :=
            hinv.setData (hreached.of_kept hvs.version) hfresh' rfl
          refine ⟨(), hinv', hkept, fun s₁ hs₁ s₂ hs₂ => ?_, fun _ _ _ h => by cases h⟩
          exact hreturn _ _ s₂ hvs hfresh' (hkept.trans (hs₁.trans hs₂))

/-- A writer has returned after its bump. -/
def Announced (ns : String)
    (x : Except E (CacheAnswer V)) (v : CacheWorld (Versioned V) V) : Prop :=
  ∀ before, x = .ok (.bumped before) →
    ∃ b, b ∈ v.bumps ∧ b.key = createVersionKey ns ∧ before ≤ b.db.past.length

variable (fault) in
theorem safe_updateAndBump (value : V) (w : CacheWorld (Versioned V) V) :
    BumpSafe ns fault (Announced ns) (updateAndBump ns value) w := by
  refine Safe.await_bind (StatementSafe.of_exec (fun _ _ _ _ _ _ h => by cases h) ?_)
  intro v _ o v' r hwv hinv _ _ h
  cases h
  obtain ⟨hinv', hkept⟩ := hinv.update value rfl
  refine ⟨(), hinv', hkept, ?_, fun _ _ _ h => by cases h⟩
  refine Safe.await_bind (StatementSafe.of_exec (fun _ _ _ _ _ _ h => by cases h) ?_)
  intro u _ o u' r hu hinv _ _ h
  obtain ⟨hinv', hkept⟩ := hinv.incr h
  refine ⟨(), hinv', hkept, ?_, fun _ _ _ h => by cases h⟩
  rintro u₁ hu₁ _ ⟨⟩
  cases h
  refine ⟨⟨_, _, u.db⟩, hu₁.bumps_mem _ (List.mem_append_right _ (List.mem_singleton.mpr rfl)),
    rfl, ?_⟩
  have hlength := hu.contents.length_le
  simp only [Versioned.contents, List.length_append, List.length_singleton] at hlength ⊢
  omega

/-! ### Every run -/

variable (truthy ns ttl fault)

theorem bump_envSafe :
    EnvSafeTo (bumpLogic ns) (cacheServer truthy ns ttl fault)
      (fun x _ v => Announced ns x v) (fun _ _ => True) := by
  intro w F e w' p hinv _ h
  cases e with
  | withCache =>
      cases h
      refine ⟨.refl _, (), hinv, Safe.mono (safe_readCached truthy ttl fault w) ?_⟩
      rintro x _ v _ hx before rfl
      obtain ⟨_, h, -⟩ := hx _ rfl
      cases h
  | update value =>
      cases h
      exact ⟨.refl _, (), hinv, safe_updateAndBump fault value w⟩
  | expire key =>
      cases h
      obtain ⟨hinv', hkept⟩ := hinv.expire key
      exact ⟨hkept, hinv'⟩

/--
A `withCache` that starts after a `bumpVersion` has completed returns nothing that was
replaced before the corresponding update.
-/
def NeverStale (c : CacheState E V) (as : List (Action (CacheEvent V))) : Prop :=
  ∀ as₁ as₂ (c₁ c₂ : CacheState E V) (i before : Nat) (value : V),
    as₁ ++ .env .withCache :: as₂ <+: as →
    runs (cacheServer truthy ns ttl fault).step c as₁ = some c₁ →
    runs (cacheServer truthy ns ttl fault).step c₁ (.env .withCache :: as₂) = some c₂ →
    c₁.threads[i]? = some (.ret (.bumped before)) →
    c₂.threads[c₁.threads.length]? = some (.ret (.value value)) →
    value ∈ c₂.world.db.contents.drop before

theorem neverStale_of_setsForward
    {w : CacheWorld (Versioned V) V} {as : List (Action (CacheEvent V))}
    (hinv : BumpInv ns w)
    (hmeets : Meets (cacheServer truthy ns ttl fault).step
      (System.Conforms (fun _ _ => True) (SetsForward ns)) ⟨w, []⟩ as) :
    NeverStale ns truthy ttl fault ⟨w, []⟩ as := by
  rintro as₁ as₂ c₁ c₂ i before value ⟨rest, rfl⟩ hrun₁ hrun₂ hi hvalue
  rw [List.append_assoc, meets_append hrun₁, meets_append hrun₂] at hmeets
  obtain ⟨hmeets₁, hmeets₂, -⟩ := hmeets
  have hidle : ∀ (m : Unit) (v : CacheWorld (Versioned V) V), True →
      Announced ns (.ok .none : Except E (CacheAnswer V)) v := by
    rintro _ _ _ _ ⟨⟩
  have hbalanced₁ := balancedTo_runs hidle (bump_envSafe ns truthy ttl fault)
    (balancedTo_start hinv) hmeets₁ hrun₁
  obtain ⟨-, hannounced⟩ := hbalanced₁.returned hi
  obtain ⟨b, hb, hkey, hbefore⟩ := hannounced before rfl
  -- the reader is the last handler when it starts
  have harrive : (cacheServer truthy ns ttl fault).step c₁ (.env .withCache) =
      some ⟨c₁.world, c₁.threads ++ [readCached truthy ns ttl]⟩ := rfl
  have hbalanced₂ :=
    hbalanced₁.env_step (bump_envSafe ns truthy ttl fault) trivial harrive
  have hthread : (c₁.threads ++ [readCached (E := E) truthy ns ttl])[c₁.threads.length]? =
      some (readCached truthy ns ttl) := by
    simp
  obtain ⟨p, m, hp, hsafe⟩ := hbalanced₂.1.thread_runs (fun _ _ _ h => h) hidle
    (bump_envSafe ns truthy ttl fault) hthread
    (safe_readCached truthy ttl fault c₁.world) hmeets₂.2 hrun₂
  rw [hvalue] at hp
  cases hp
  obtain ⟨value', h, hfresh⟩ := hsafe _ (.refl _) _ rfl
  cases h
  exact List.drop_subset_drop_left _ hbefore (hfresh b hb hkey)

/-- Taking the version back is what a `SET` may do, and nothing else. -/
theorem versionKept_iff_setsForward
    (s : CacheStmt (ValueQuery V) V) (o : Outcome) (w : CacheWorld (Versioned V) V) :
    VersionKept ns w (attempt (cacheExec (runValue (E := E))) fault s o w).1 ↔
      SetsForward ns w s o := by
  cases s with
  | set key version =>
      cases o with
      | fail =>
          exact iff_of_true (.of_eq rfl) fun h => absurd rfl h
      | ok | lost =>
          simp only [SetsForward, attempt, cacheExec]
          refine ⟨?_, fun h => VersionKept.update (h (by decide)) rfl⟩
          rintro h - rfl
          cases hn : w.versions (createVersionKey ns) with
          | none =>
              exact Nat.zero_le _
          | some n =>
              obtain ⟨n', hn', hle⟩ := h n hn
              simp only [Function.update_self, Option.some.injEq] at hn'
              rwa [← hn'] at hle
  | incr key =>
      refine iff_of_true (attempt_of_exec (P := VersionKept ns) (fun _ => .of_eq rfl) ?_ o) trivial
      intro w' r h
      cases h
      exact VersionKept.update (fun _ => Nat.le_succ _) rfl
  | query q =>
      refine iff_of_true (attempt_of_exec (P := VersionKept ns) (fun _ => .of_eq rfl) ?_ o) trivial
      intro w' r h
      cases q <;> cases h <;> exact .of_eq rfl
  | get key | getData key | setData key value ttl =>
      refine iff_of_true (attempt_of_exec (P := VersionKept ns) (fun _ => .of_eq rfl) ?_ o) trivial
      intro w' r h
      cases h
      exact .of_eq rfl

/--
**A bump invalidates** exactly in the runs in which no `SET` takes the version back:
then the version never decreases, and no read that starts after a bump returns what was
replaced before the update.
-/
theorem bumpVersion_invalidates
    (db : Versioned V) (versions : String → Option Nat) (data : String → Option V)
    (hbeyond : NothingBeyond ns ⟨db, versions, data, []⟩)
    (as : List (Action (CacheEvent V))) :
    (Meets (cacheServer truthy ns ttl fault).step
        (System.Respects (cacheServer truthy ns ttl fault) (VersionKept ns))
        ⟨⟨db, versions, data, []⟩, []⟩ as ∧
      NeverStale ns truthy ttl fault ⟨⟨db, versions, data, []⟩, []⟩ as) ↔
    Meets (cacheServer truthy ns ttl fault).step
      (System.Conforms (fun _ _ => True) (SetsForward ns)) ⟨⟨db, versions, data, []⟩, []⟩ as := by
  have henv : ∀ e w w' p,
      (cacheServer (E := E) truthy ns ttl fault).env e w = some (w', p) → VersionKept ns w w' := by
    rintro (_ | _ | _) w w' p ⟨⟩ <;> exact .of_eq rfl
  have hkept := System.meets_respects_iff (cacheServer truthy ns ttl fault)
    (fun w => VersionKept.of_eq rfl) henv (versionKept_iff_setsForward ns fault)
    ⟨⟨db, versions, data, []⟩, []⟩ as
  have hinv : BumpInv ns (⟨db, versions, data, []⟩ : CacheWorld (Versioned V) V) :=
    ⟨hbeyond, by simp, by simp, by simp [FreshFor]⟩
  rw [hkept]
  exact ⟨And.left, fun h => ⟨h, neverStale_of_setsForward ns truthy ttl fault hinv h⟩⟩

/-! ### A late `SET` -/

/-- A number is truthy unless it is 0. -/
def truthyNumber (n : Nat) : Bool :=
  decide (n ≠ 0)

abbrev booksServer : System (CacheStmt (ValueQuery Nat) Nat) (CacheResponse ValueAnswer) Unit
    (CacheAnswer Nat) (CacheWorld (Versioned Nat) Nat) (CacheEvent Nat) :=
  cacheServer truthyNumber "books" 60 ()

/-- The value is 1, and nothing is stored yet. -/
def booksStart : CacheState Unit Nat :=
  ⟨⟨⟨[], 1⟩, fun _ => none, fun _ => none, []⟩, []⟩

/-- Handler `i` takes `n` steps without failure. -/
def cacheSteps (i n : Nat) : List (Action (CacheEvent Nat)) :=
  List.replicate n (.run i 0 .ok)

/--
Two reads find no version.  The second has read 1 when a writer changes the value to 2
and bumps the version to 2.  The first read sets the version to 1, the second stores 1
under it.
-/
def lateSet : List (Action (CacheEvent Nat)) :=
  .env .withCache :: cacheSteps 0 1 ++ .env .withCache :: cacheSteps 1 4 ++
    .env (.update 2) :: cacheSteps 2 2 ++ cacheSteps 0 1 ++ cacheSteps 1 1

/-- A read after that returns the 1 that was replaced. -/
theorem lateSet_serves_replaced :
    ¬ Meets booksServer.step (System.Respects booksServer (VersionKept "books")) booksStart
        (lateSet ++ .env .withCache :: cacheSteps 3 2) ∧
      ¬ NeverStale "books" truthyNumber 60 () booksStart
        (lateSet ++ .env .withCache :: cacheSteps 3 2) := by
  constructor
  · have henv : ∀ e w w' p, booksServer.env e w = some (w', p) → VersionKept "books" w w' := by
      rintro (_ | _ | _) w w' p ⟨⟩ <;> exact .of_eq rfl
    rw [System.meets_respects_iff booksServer (fun w => VersionKept.of_eq rfl) henv
      (versionKept_iff_setsForward "books" ())]
    decide +kernel
  · intro h
    have := h lateSet (cacheSteps 3 2) _ _ 2 1 1 (List.prefix_rfl) rfl rfl rfl rfl
    revert this
    decide +kernel

/-- A read, a writer and a read, one after another. -/
theorem bumpVersion_invalidates_inTurn :
    Meets booksServer.step (System.Respects booksServer (VersionKept "books")) booksStart
        (.env .withCache :: cacheSteps 0 5 ++ .env (.update 2) :: cacheSteps 1 2 ++
          .env .withCache :: cacheSteps 2 4) ∧
      NeverStale "books" truthyNumber 60 () booksStart
        (.env .withCache :: cacheSteps 0 5 ++ .env (.update 2) :: cacheSteps 1 2 ++
          .env .withCache :: cacheSteps 2 4) :=
  (bumpVersion_invalidates "books" truthyNumber 60 () ⟨[], 1⟩ (fun _ => none)
    (fun _ => none) (fun _ _ => rfl) _).mpr (by decide +kernel)

end BookStore
