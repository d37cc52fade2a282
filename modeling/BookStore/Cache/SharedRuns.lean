import BookStore.Cache.Shared
import BookStore.Catalog.Listing
import BookStore.Catalog.Slugs

/-!
# The shared cache: every run

* `Made` says from which answers of the database a value is made.
* `shared_cache_fresh`: what is answered was read in the database, all of it no longer ago than
  an entry lives and a request takes.

The keys of the services are apart, so no value is found under the key of another.
-/

namespace BookStore
namespace Shared

open Async Program Logic
open BookCreation (sampleJs)

variable (js : JsText) (sql : SqlText) (delay : Nat)

/-- A count, as the database has it -/
def CountQuery.count : CountQuery → SharedDb → Nat
  | .countUsers => answer sql .countUsers
  | .countCustomersLoggedInSince since => answer sql (.countCustomersLoggedInSince since)
  | .countCategories => answer sql .countCategories
  | .countActiveCategories => answer sql .countActiveCategories
  | .countTotalBooks => answer sql .countTotalBooks
  | .countActiveBooks => answer sql .countActiveBooks
  | .countAuthors => answer sql .countAuthors
  | .countPublishers => answer sql .countPublishers

/-- The count was read. -/
def Counted (past : List (Nat × SharedDb)) (since : Nat) (q : CountQuery) (n : Nat) : Prop :=
  ReadSince past since fun db => q.count sql db = n

/-- The value under a key is made of answers of the database at or after `since`. -/
def Made (past : List (Nat × SharedDb)) (since : Nat) : SharedKey → SharedValue → Prop
  | .resolve code, .language l =>
      ReadSince past since (fun db => answer sql (.findLanguageByCode code) db = some l) ∨
        ReadSince past since (fun db => answer sql (.findLanguageByCode code) db = none) ∧
          ReadSince past since fun db => answer sql .findDefaultLanguage db = some l
  | .all, .roles roles => ReadSince past since fun db => answer sql .findAll db = roles
  | .byName name, .role role =>
      ReadSince past since fun db => answer sql (.findRoleByName name) db = role
  | .bookStats, .bookStats totalBooks activeBooks totalAuthors totalPublishers =>
      Counted sql past since .countTotalBooks totalBooks ∧
        Counted sql past since .countActiveBooks activeBooks ∧
        Counted sql past since .countAuthors totalAuthors ∧
        Counted sql past since .countPublishers totalPublishers
  | .userStats, .userStats totalUsers customersLoggedInLast24Hours =>
      Counted sql past since .countUsers totalUsers ∧
        ∃ now, since ≤ now ∧
          Counted sql past now (.countCustomersLoggedInSince (now - ADMIN_STATS_CACHE_TTL))
            customersLoggedInLast24Hours
  | .categoryStats, .categoryStats totalCategories activeCategories =>
      Counted sql past since .countCategories totalCategories ∧
        Counted sql past since .countActiveCategories activeCategories
  | _, _ => False

theorem Made.mono
    {past past' : List (Nat × SharedDb)} {since : Nat} {key : SharedKey} {value : SharedValue}
    (hpast : past ⊆ past')
    (h : Made sql past since key value) :
    Made sql past' since key value := by
  have hread : ∀ {since : Nat} {P : SharedDb → Prop},
      ReadSince past since P → ReadSince past' since P :=
    fun hr => hr.mono hpast fun _ hdb => hdb
  cases key <;> cases value <;> try exact h.elim
  · obtain ⟨hbooks, hactive, hauthors, hpublishers⟩ := h
    exact ⟨hread hbooks, hread hactive, hread hauthors, hread hpublishers⟩
  · obtain ⟨husers, now, hnow, hcustomers⟩ := h
    exact ⟨hread husers, now, hnow, hread hcustomers⟩
  · exact ⟨hread h.1, hread h.2⟩
  · exact h.imp hread fun hfallback => ⟨hread hfallback.1, hread hfallback.2⟩
  · exact hread h
  · exact hread h

/-- How long the services of this module keep a value -/
def lasts : SharedKey → Option Nat
  | .resolve _ => some CATEGORY_CACHE_TTL
  | .all => some ROLE_TTL
  | .byName _ => some ROLE_TTL
  | .bookStats => some ADMIN_STATS_CACHE_TTL
  | .userStats => some ADMIN_STATS_CACHE_TTL
  | .categoryStats => some ADMIN_STATS_CACHE_TTL
  | _ => none

/-- What the entries of the cache are, by the texts of their keys -/
def sharedFreshness : Freshness String SharedValue SharedDb where
  lasts text ttl := ∃ key : SharedKey, key.text = text ∧ lasts key = some ttl
  made past since text value := ∃ key : SharedKey, key.text = text ∧ Made sql past since key value
  mono := fun _ _ _ _ _ hpast h => h.imp fun _ hk => ⟨hk.1, Made.mono sql hpast hk.2⟩

/-- A request stores what it stores within `delay` of its arrival. -/
def InTime (now since : Nat) : Prop :=
  now ≤ since + delay

instance (now since : Nat) : Decidable (InTime delay now since) :=
  inferInstanceAs (Decidable (now ≤ since + delay))

abbrev sharedLogic : Logic SharedStmt SharedWorld Unit :=
  freshLogic (sharedFreshness sql) (InTime delay)

variable {js sql delay}

theorem made_text
    {past : List (Nat × SharedDb)} {since : Nat} {key : SharedKey} {value : SharedValue}
    (h : (sharedFreshness sql).made past since key.text value) :
    Made sql past since key value := by
  obtain ⟨key', htext, hmade⟩ := h
  rwa [SharedKey.text_injective htext] at hmade

theorem lasts_text
    {key : SharedKey} {ttl : Nat}
    (h : (sharedFreshness sql).lasts key.text ttl) : lasts key = some ttl := by
  obtain ⟨key', htext, hlasts⟩ := h
  rwa [SharedKey.text_injective htext] at hlasts

/-! ### Handlers -/

/-- What a read through the cache ends in -/
def Ends (sql : SqlText) (delay since : Nat) (key : SharedKey) :
    Except SharedFailure SharedValue → Unit → SharedWorld → Prop :=
  fun x _ v => ∀ value, x = .ok value →
    (sharedFreshness sql).Answers (InTime delay) since v.past key.text value

variable {since : Nat} {k : SharedKey} {ttl : Nat} {value : SharedValue} {w : SharedWorld}

/-- A value that was read for the request may be answered. -/
theorem ret_ends
    (hmade : Made sql w.past since k value) :
    Safe (sharedLogic sql delay) (expiringExec (answer sql)) .database
      (Ends sql delay since k) (ret value) () w := by
  intro v hv value' hvalue'
  cases hvalue'
  exact .inl ⟨k, rfl, hmade.mono sql hv.past⟩

/-- So it may be kept. -/
theorem keep_ends
    (httl : lasts k = some ttl)
    (hmade : Made sql w.past since k value) :
    Safe (sharedLogic sql delay) (expiringExec (answer sql)) .database
      (Ends sql delay since k) (keep since k ttl value) () w := by
  refine Safe.set_bind (fun _ _ _ h => by cases h) (fun n hn => ?_) fun v hv => ?_
  · rw [lasts_text hn] at httl
    cases httl
    exact ⟨rfl, k, rfl, hmade⟩
  · exact ret_ends (hmade.mono sql hv.past)

theorem resolveLanguage_ends (lang : Option String) (hsince : since ≤ w.now) :
    Safe (sharedLogic sql delay) (expiringExec (answer sql)) .database
      (Ends sql delay since (.resolve (normalized js lang)))
      (resolveLanguage js since lang) () w := by
  refine Safe.readThrough ⟨_, rfl, rfl⟩ hsince fun v hv => ?_
  have hv := hsince.trans hv.now
  refine Safe.query_bind (fun _ _ _ h => by cases h) fun found u hu hfound => ?_
  have hfound := ReadSince.of_le hfound hv
  cases found with
  | some found =>
      exact keep_ends rfl (.inl hfound)
  | none =>
      refine Safe.query_bind (fun _ _ _ h => by cases h) fun fallback t ht hfallback => ?_
      have hfallback := ReadSince.of_le hfallback (hv.trans hu.now)
      cases fallback with
      | none =>
          exact fun _ _ _ h => by cases h
      | some fallback =>
          exact keep_ends rfl (.inr ⟨hfound.mono ht.past fun _ h => h, hfallback⟩)

theorem findAllRole_ends (hsince : since ≤ w.now) :
    Safe (sharedLogic sql delay) (expiringExec (answer sql)) .database
      (Ends sql delay since .all) (findAllRole since) () w := by
  refine Safe.readThrough ⟨_, rfl, rfl⟩ hsince fun v hv => ?_
  refine Safe.query_bind (fun _ _ _ h => by cases h) fun roles u hu hroles => ?_
  have hroles := ReadSince.of_le hroles (hsince.trans hv.now)
  split_ifs
  · exact ret_ends hroles
  · exact keep_ends rfl hroles

theorem findRoleByName_ends (name : String) (hsince : since ≤ w.now) :
    Safe (sharedLogic sql delay) (expiringExec (answer sql)) .database
      (Ends sql delay since (.byName name)) (findRoleByName since name) () w := by
  refine Safe.readThrough ⟨_, rfl, rfl⟩ hsince fun v hv => ?_
  refine Safe.query_bind (fun _ _ _ h => by cases h) fun role u hu hrole => ?_
  have hrole := ReadSince.of_le hrole (hsince.trans hv.now)
  cases role with
  | none =>
      exact ret_ends (k := .byName name) hrole
  | some role =>
      exact keep_ends (k := .byName name) rfl hrole

theorem count_read (q : CountQuery) :
    Safe (sharedLogic sql delay) (expiringExec (answer sql)) .database
      (fun x _ v => ∀ n, x = .ok n → Counted sql v.past w.now q n) q.send () w := by
  cases q with
  | countUsers => exact Safe.query
  | countCustomersLoggedInSince since => exact Safe.query
  | countCategories => exact Safe.query
  | countActiveCategories => exact Safe.query
  | countTotalBooks => exact Safe.query
  | countActiveBooks => exact Safe.query
  | countAuthors => exact Safe.query
  | countPublishers => exact Safe.query

/-- The counts of `Promise.all` -/
theorem counts_bind
    {qs : List CountQuery} {rest : List Nat → SharedService SharedValue}
    (hrest : ∀ counts v, Later w v →
      List.Forall₂ (fun q n => Counted sql v.past w.now q n) qs counts →
      Safe (sharedLogic sql delay) (expiringExec (answer sql)) .database
        (Ends sql delay since k) (rest counts) () v) :
    Safe (sharedLogic sql delay) (expiringExec (answer sql)) .database
      (Ends sql delay since k) ((forAll qs CountQuery.send).bind rest) () w := by
  have hcounts : Safe (sharedLogic sql delay) (expiringExec (answer sql)) .database _
      (forAll qs CountQuery.send) 0 w := Safe.forAll
    (P := fun q x v => ∀ n, x = .ok n → Counted sql v.past w.now q n)
    (fun q x v v' h (hv : Later v v') n hn => (h n hn).mono hv.past fun _ hdb => hdb)
    fun q _ => (count_read q).mono fun x m v _ hx => ⟨rfl, hx⟩
  refine Safe.bind (hcounts.mono fun x m v hv hx => ?_)
  rcases hx with ⟨-, ⟨counts, rfl, hall⟩ | ⟨e, -, rfl, -, -⟩⟩
  · exact hrest counts v hv (hall.imp fun _ _ h => h _ rfl)
  · exact fun _ h => by cases h

theorem bookStats_ends (hsince : since ≤ w.now) :
    Safe (sharedLogic sql delay) (expiringExec (answer sql)) .database
      (Ends sql delay since .bookStats) (bookStats since) () w := by
  refine Safe.readThrough ⟨_, rfl, rfl⟩ hsince fun v hv => ?_
  have hv := hsince.trans hv.now
  refine counts_bind fun counts u hu hcounts => ?_
  obtain ⟨totalBooks, ns, hbooks, hns, rfl⟩ := List.forall₂_cons_left_iff.mp hcounts
  obtain ⟨activeBooks, ms, hactive, hms, rfl⟩ := List.forall₂_cons_left_iff.mp hns
  obtain ⟨totalAuthors, ls, hauthors, hls, rfl⟩ := List.forall₂_cons_left_iff.mp hms
  obtain ⟨totalPublishers, _, hpublishers, _, rfl⟩ := List.forall₂_cons_left_iff.mp hls
  exact keep_ends rfl ⟨hbooks.of_le hv, hactive.of_le hv, hauthors.of_le hv,
    hpublishers.of_le hv⟩

theorem categoryStats_ends (hsince : since ≤ w.now) :
    Safe (sharedLogic sql delay) (expiringExec (answer sql)) .database
      (Ends sql delay since .categoryStats) (categoryStats since) () w := by
  refine Safe.readThrough ⟨_, rfl, rfl⟩ hsince fun v hv => ?_
  have hv := hsince.trans hv.now
  refine counts_bind fun counts u hu hcounts => ?_
  obtain ⟨totalCategories, ns, htotal, hns, rfl⟩ := List.forall₂_cons_left_iff.mp hcounts
  obtain ⟨activeCategories, _, hactive, _, rfl⟩ := List.forall₂_cons_left_iff.mp hns
  exact keep_ends rfl ⟨htotal.of_le hv, hactive.of_le hv⟩

theorem userStats_ends (hsince : since ≤ w.now) :
    Safe (sharedLogic sql delay) (expiringExec (answer sql)) .database
      (Ends sql delay since .userStats) (userStats since) () w := by
  refine Safe.readThrough ⟨_, rfl, rfl⟩ hsince fun v hv => ?_
  refine Safe.dateNow_bind (fun _ _ _ h => by cases h) fun u hu => ?_
  have hu := (hsince.trans hv.now).trans hu.now
  refine counts_bind fun counts t ht hcounts => ?_
  obtain ⟨totalUsers, ns, husers, hns, rfl⟩ := List.forall₂_cons_left_iff.mp hcounts
  obtain ⟨customers, _, hcustomers, _, rfl⟩ := List.forall₂_cons_left_iff.mp hns
  exact keep_ends rfl ⟨husers.of_le hu, u.now, hu, hcustomers⟩

theorem handler_ends (r : SharedRead) (hsince : since ≤ w.now) :
    Safe (sharedLogic sql delay) (expiringExec (answer sql)) .database
      (Ends sql delay since (r.key js)) (r.handler js since) () w := by
  cases r with
  | resolveLanguage lang => exact resolveLanguage_ends lang hsince
  | findAllRole => exact findAllRole_ends hsince
  | findRoleByName name => exact findRoleByName_ends name hsince
  | bookStats => exact bookStats_ends hsince
  | userStats => exact userStats_ends hsince
  | categoryStats => exact categoryStats_ends hsince

/-- `RoleService.invalidateRoleCache` ends whatever the entries are. -/
theorem invalidateRoleCache_safe
    {P : Except SharedFailure Unit → Unit → SharedWorld → Prop}
    (hP : ∀ x v, P x () v) (name : Option String) :
    Safe (sharedLogic sql delay) (expiringExec (answer sql)) .database P
      (invalidateRoleCache name) () w := by
  refine Safe.del_bind (fun _ _ => hP _ _) fun v hv => ?_
  cases name with
  | none =>
      exact fun _ _ => hP _ _
  | some name =>
      dsimp only
      split_ifs
      · exact fun _ _ => hP _ _
      · rw [show (await (ExpiringStmt.del (SharedKey.byName name).text) : SharedService Unit) =
          (await (ExpiringStmt.del (SharedKey.byName name).text)).bind ret from
            (Program.bind_await _ _).symm]
        exact Safe.del_bind (fun _ _ => hP _ _) fun _ _ _ _ => hP _ _

/-! ### Runs -/

/-- A value that is answered is fresh. -/
def Answered (js : JsText) (sql : SqlText) (delay : Nat) :
    Except SharedFailure SharedAnswer → Unit → SharedWorld → Prop
  | .ok (.value arrivedAt r value), _, v =>
      (sharedFreshness sql).Answers (InTime delay) arrivedAt v.past (r.key js).text value
  | _, _, _ => True

theorem sharedServer_envSafe :
    EnvSafeTo (sharedLogic sql delay) (sharedServer js sql) (Answered js sql delay)
      (fun _ _ => True) := by
  intro w F e w' p hinv _ h
  cases e with
  | arrive r =>
      cases h
      refine ⟨.refl w, (), hinv, Safe.bind ((handler_ends r le_rfl).mono fun x m v _ hx => ?_)⟩
      cases x with
      | ok value =>
          exact fun v' hv' => (hx value rfl).mono hv'.past
      | error e =>
          trivial
  | invalidate name =>
      cases h
      refine ⟨.refl w, (), hinv, Safe.bind (invalidateRoleCache_safe (fun x v => ?_) name)⟩
      cases x with
      | ok _ =>
          exact fun _ _ => trivial
      | error e =>
          trivial
  | edit f =>
      cases h
      exact ⟨⟨le_rfl, List.Subset.refl _⟩, EntriesFresh.of_entries hinv (List.Subset.refl _)
        fun _ _ he => he⟩
  | tick ms =>
      cases h
      exact ⟨⟨Nat.le_add_right _ _, List.Subset.refl _⟩, EntriesFresh.of_entries hinv
        (List.Subset.refl _) fun _ _ he => he⟩
  | drop key =>
      cases h
      exact ⟨⟨le_rfl, List.Subset.refl _⟩, EntriesFresh.drop hinv key⟩
  | setOther key json ttl =>
      cases h
      refine ⟨⟨le_rfl, List.Subset.refl _⟩, EntriesFresh.set hinv fun n hn => ?_⟩
      -- the key of another service is none of these
      have hlasts := lasts_text hn
      cases key <;> cases hlasts

variable (js sql delay) in
/--
In every run that starts with an empty cache, and in which requests store what they store within
`delay`, each answer is made of answers of the database, and none of these is older than an entry
may be.
-/
theorem shared_cache_fresh
    {as : List (Action SharedEvent)} {c : SharedState} {w : SharedWorld}
    (hempty : ∀ key, w.entries key = none)
    (hmeets : Meets (sharedServer js sql).step
      (System.Conforms (fun _ _ => True) (StoresWithin (InTime delay))) ⟨w, []⟩ as)
    (hrun : runs (sharedServer js sql).step ⟨w, []⟩ as = some c)
    {i arrivedAt : Nat} {r : SharedRead} {value : SharedValue}
    (hreturned : c.threads[i]? = some (.ret (.value arrivedAt r value))) :
    ∃ since, arrivedAt ≤ since + delay + r.ttl ∧
      Made sql c.world.past since (r.key js) value := by
  have hstart : (sharedLogic sql delay).inv 0 w := fun key e he => by
    rw [hempty] at he
    cases he
  have hend := balancedTo_runs (fun _ _ _ => trivial) sharedServer_envSafe
    (balancedTo_start hstart) hmeets hrun
  obtain ⟨-, hmade | ⟨since, setAt, ttl, hlasts, hstored, harrived, hmade⟩⟩ :=
    hend.returned hreturned
  · exact ⟨arrivedAt, by omega, made_text hmade⟩
  · have httl := lasts_text hlasts
    have hstored : setAt ≤ since + delay := hstored
    refine ⟨since, ?_, made_text hmade⟩
    cases r <;> cases httl <;> exact harrived.trans (Nat.add_le_add_right hstored _)

/-- One role, and an empty cache -/
def sampleShared : SharedWorld where
  db := ⟨[], [⟨⟨1, .CUSTOMER, "customer", none, true⟩, none⟩], [], [], [], [], [], []⟩
  now := 0
  entries _ := none
  past := []

/-- The role is deleted after it was read; a minute later the entry answers. -/
def sampleSharedRun : List (Action SharedEvent) :=
  [.env (.arrive (.findRoleByName "customer")), .run 0 0 .ok, .run 0 0 .ok, .run 0 0 .ok,
    .env (.edit fun db => { db with roles := [] }), .env (.tick 60000),
    .env (.arrive (.findRoleByName "customer")), .run 1 0 .ok]

theorem shared_cache_fresh_sampleSharedRun :
    ∃ c, runs (sharedServer sampleJs sampleSql).step ⟨sampleShared, []⟩ sampleSharedRun = some c ∧
      c.world.db.roles.length = 0 ∧
      ∃ since, 60000 ≤ since + 0 + ROLE_TTL ∧
        Made sampleSql c.world.past since (.byName "customer")
          (.role (some ⟨1, .CUSTOMER, "customer"⟩)) := by
  have hends : (runs (sharedServer sampleJs sampleSql).step ⟨sampleShared, []⟩
      sampleSharedRun).any (fun c => decide (c.world.db.roles.length = 0) &&
        decide ((c.threads[1]?.bind Program.answer) = some
          (.value 60000 (.findRoleByName "customer")
            (.role (some ⟨1, .CUSTOMER, "customer"⟩))))) = true := by
    decide +kernel
  obtain ⟨c, hc, hend⟩ := Option.any_eq_true _ _ |>.mp hends
  obtain ⟨hroles, hanswer⟩ := Bool.and_eq_true_iff.mp hend
  have hanswer := bind_answer_eq_some_iff.mp (of_decide_eq_true hanswer)
  exact ⟨c, hc, of_decide_eq_true hroles,
    shared_cache_fresh sampleJs sampleSql 0 (fun _ => rfl) (by decide +kernel) hc hanswer⟩

end Shared
end BookStore
