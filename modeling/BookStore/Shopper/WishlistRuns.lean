import BookStore.Async.Sends
import BookStore.Columns
import BookStore.Shopper.WishlistSets

/-!
# Wishlists of many shoppers at once

Whatever the order in which the statements of the requests are executed, and whichever fail,
between any two states the lists of a shopper change in no way that the shopper has not asked
for (`wishlists_runs`).

* `AskedBy` says that an owner of a list made a request.
* `WishSends` is what a handler promises of its statements.
* `Accounted` compares the tables with those of an earlier state.
-/

namespace BookStore
namespace Wish

open Async Program

variable (asked : Shopper → WishRequest → Prop)

/-- An owner of the list made the request. -/
def AskedBy (l : Wishlist) (r : WishRequest) : Prop :=
  ∃ s : Shopper, s.owns l.userId l.guestSessionId = true ∧ asked s r

/-- What a statement meets when it is sent. -/
def WishSends (w : WishWorld) : WishStmt → Prop
  | .createList s _ => asked s .getWish ∨ ∃ body, asked s (.addWish body)
  | .softDeleteById id =>
      ∃ l, w.wishlists.find id = some l ∧ AskedBy asked l.toWishlist .deleteWish
  | .createByWishlistIdAndBookVariantId wishlistId bookVariantId =>
      ∃ l body, w.wishlists.find wishlistId = some l ∧
        AskedBy asked l.toWishlist (.addWish body) ∧ body.bookVariantId = bookVariantId
  | .deleteByIdAndWishlistId itemKey wishlistId =>
      ∃ l, w.wishlists.find wishlistId = some l ∧
        AskedBy asked l.toWishlist (.deleteWishItem itemKey)
  | _ => True

/-- A list keeps its owners. -/
def KeepsOwners (w w' : WishWorld) : Prop :=
  w.wishlists.Keeps (fun l => l.toWishlist) w'.wishlists

def wishPromise : Promise WishStmt WishWorld where
  rely := KeepsOwners
  rely_refl w := .refl w.wishlists
  rely_trans _ _ _ := .trans
  sends := WishSends asked

/-- What has happened to the tables since `w₀`. -/
structure Accounted (w₀ w : WishWorld) : Prop where
  /-- A list is deleted by its owner only. -/
  kept : ∀ k l₀, w₀.wishlists.find k = some l₀ → ∃ l, w.wishlists.find k = some l ∧
    l.toWishlist = l₀.toWishlist ∧ (l = l₀ ∨ AskedBy asked l₀.toWishlist .deleteWish)
  created : ∀ k l, w.wishlists.find k = some l → (∃ l₀, w₀.wishlists.find k = some l₀) ∨
    AskedBy asked l.toWishlist .getWish ∨ ∃ body, AskedBy asked l.toWishlist (.addWish body)
  /-- A new item has been asked for by an owner of the list. -/
  added : ∀ k i, w.items.find k = some i → w₀.items.find k = some i ∨
    ∃ l body, w.wishlists.find i.wishlistId = some l ∧
      AskedBy asked l.toWishlist (.addWish body) ∧ body.bookVariantId = i.bookVariantId
  /-- So has the end of one that is gone, by its key. -/
  removed : ∀ k i, w₀.items.find k = some i → w.items.find k = some i ∨
    ∃ l, w.wishlists.find i.wishlistId = some l ∧
      AskedBy asked l.toWishlist (.deleteWishItem (some k))

variable {asked} {w₀ w w' v : WishWorld}

theorem Accounted.refl (w : WishWorld) : Accounted asked w w where
  kept _ l h := ⟨l, h, rfl, .inl rfl⟩
  created _ l h := .inl ⟨l, h⟩
  added _ _ h := .inl h
  removed _ _ h := .inl h

/-! ### Statements -/

theorem wishExec_keepsOwners
    {st : WishStmt} {r : WishResponse st} (h : wishExec st w = .ok (w', r)) :
    KeepsOwners w w' := by
  cases st with
  | createList s languageId =>
      simp only [wishExec] at h
      split_ifs at h
      cases h
      exact Table.Keeps.insert (key_newList s w.now)
  | softDeleteById id =>
      simp only [wishExec] at h
      split at h
      · cases h
      · cases h
        have hkey : ∀ l : WishlistRow,
            key ({ l with updatedAt := w.now, deleteAt := some w.now } : WishlistRow) = key l :=
          fun _ => rfl
        exact Table.Keeps.update hkey fun _ => rfl
  | createByWishlistIdAndBookVariantId wishlistId bookVariantId =>
      simp only [wishExec] at h
      split_ifs at h
      cases h
      exact .refl _
  | deleteByIdAndWishlistId itemKey wishlistId =>
      cases itemKey with
      | none =>
          cases h
      | some itemKey =>
          cases h
          exact .refl _
  | findUserById id =>
      cases h
      exact .refl _
  | findList s languageId =>
      cases h
      exact .refl _
  | findByWishlistIdAndBookVariantId wishlistId bookVariantId =>
      cases h
      exact .refl _

/-- Only the items have changed. -/
theorem Accounted.of_items
    {items : Table WishlistItemRow}
    (h : Accounted asked w₀ w)
    (hadded : ∀ k i, items.find k = some i → w.items.find k = some i ∨
      ∃ l body, w.wishlists.find i.wishlistId = some l ∧
        AskedBy asked l.toWishlist (.addWish body) ∧ body.bookVariantId = i.bookVariantId)
    (hremoved : ∀ k i, w.items.find k = some i → items.find k = some i ∨
      ∃ l, w.wishlists.find i.wishlistId = some l ∧
        AskedBy asked l.toWishlist (.deleteWishItem (some k))) :
    Accounted asked w₀ { w with items := items } where
  kept := h.kept
  created := h.created
  added k i hi := by
    rcases hadded k i hi with hi | hi
    · exact h.added k i hi
    · exact .inr hi
  removed k i hi := by
    rcases h.removed k i hi with hi | hi
    · exact hremoved k i hi
    · exact .inr hi

/-- Only the lists have changed. -/
theorem Accounted.of_lists
    {wishlists : Table WishlistRow}
    (h : Accounted asked w₀ w)
    (hkept : ∀ k l, w.wishlists.find k = some l → ∃ l', wishlists.find k = some l' ∧
      l'.toWishlist = l.toWishlist ∧ (l' = l ∨ AskedBy asked l.toWishlist .deleteWish))
    (hcreated : ∀ k l', wishlists.find k = some l' →
      (∃ l, w.wishlists.find k = some l ∧ l'.toWishlist = l.toWishlist) ∨
        AskedBy asked l'.toWishlist .getWish ∨
          ∃ body, AskedBy asked l'.toWishlist (.addWish body)) :
    Accounted asked w₀ { w with wishlists := wishlists } where
  kept k l₀ hl₀ := by
    obtain ⟨l, hl, hsame, hdeleted⟩ := h.kept k l₀ hl₀
    obtain ⟨l', hl', hsame', hdeleted'⟩ := hkept k l hl
    refine ⟨l', hl', hsame'.trans hsame, ?_⟩
    rw [hsame] at hdeleted'
    rcases hdeleted' with rfl | hdeleted'
    · exact hdeleted
    · exact .inr hdeleted'
  created k l' hl' := by
    rcases hcreated k l' hl' with ⟨l, hl, hsame⟩ | hasked
    · rw [hsame]
      exact h.created k l hl
    · exact .inr hasked
  added k i hi := by
    rcases h.added k i hi with hi | ⟨l, body, hl, hasked, hv⟩
    · exact .inl hi
    · obtain ⟨l', hl', hsame, -⟩ := hkept _ l hl
      exact .inr ⟨l', body, hl', hsame ▸ hasked, hv⟩
  removed k i hi := by
    rcases h.removed k i hi with hi | ⟨l, hl, hasked⟩
    · exact .inl hi
    · obtain ⟨l', hl', hsame, -⟩ := hkept _ l hl
      exact .inr ⟨l', hl', hsame ▸ hasked⟩

/-- **One statement** that is sent as promised -/
theorem Accounted.wishExec
    {st : WishStmt} {r : WishResponse st}
    (hw : Accounted asked w₀ w)
    (hsends : WishSends asked w st)
    (h : wishExec st w = .ok (w', r)) :
    Accounted asked w₀ w' := by
  cases st with
  | createList s languageId =>
      simp only [Wish.wishExec] at h
      split_ifs at h
      cases h
      refine hw.of_lists (fun k l hl => ?_) fun k l' hl' => ?_
      · obtain ⟨l', hl', hsame⟩ := Table.Keeps.insert (f := id) (key_newList s w.now) k l hl
        exact ⟨l', hl', congrArg WishlistRow.toWishlist hsame, .inl hsame⟩
      · rw [Table.find_insert] at hl'
        split_ifs at hl'
        · cases hl'
          let l := newList s w.now w.wishlists.next
          have howns : s.owns l.userId l.guestSessionId = true := owns_newList.mpr rfl
          refine .inr (hsends.imp (fun hasked => ⟨s, howns, hasked⟩) ?_)
          rintro ⟨body, hasked⟩
          exact ⟨body, s, howns, hasked⟩
        · exact .inl ⟨l', hl', rfl⟩
  | softDeleteById id =>
      obtain ⟨l, hl, hasked⟩ := hsends
      simp only [Wish.wishExec, hl, Except.ok.injEq, Prod.mk.injEq] at h
      obtain ⟨rfl, -⟩ := h
      refine hw.of_lists (fun k l' hl' => ?_) fun k l' hl' => ?_
      · rw [Table.find_update]
        split_ifs with hk
        · subst hk
          rw [hl] at hl'
          cases hl'
          rw [hl]
          exact ⟨_, rfl, rfl, .inr hasked⟩
        · exact ⟨l', hl', rfl, .inl rfl⟩
      · rw [Table.find_update] at hl'
        split_ifs at hl' with hk
        · subst hk
          rw [hl] at hl'
          cases hl'
          exact .inl ⟨l, hl, rfl⟩
        · exact .inl ⟨l', hl', rfl⟩
  | createByWishlistIdAndBookVariantId wishlistId bookVariantId =>
      obtain ⟨l, body, hl, hasked, hv⟩ := hsends
      simp only [Wish.wishExec] at h
      split_ifs at h
      cases h
      refine hw.of_items (fun k i hi => ?_) fun k i hi => ?_
      · rw [Table.find_insert] at hi
        split_ifs at hi
        · cases hi
          exact .inr ⟨l, body, hl, hasked, hv⟩
        · exact .inl hi
      · refine .inl ?_
        have hlt : k < w.items.next := Table.find_lt hi
        rw [Table.find_insert, if_neg hlt.ne, hi]
  | deleteByIdAndWishlistId itemKey wishlistId =>
      obtain ⟨l, hl, hasked⟩ := hsends
      cases itemKey with
      | none =>
          cases h
      | some itemKey =>
          cases h
          refine hw.of_items (fun k i hi => ?_) fun k i hi => ?_
          · exact .inl (Table.find_deleteWhere_old hi).1
          · rw [Table.find_deleteWhere, hi, Option.filter_some]
            split_ifs with hkept
            · exact .inl rfl
            · simp only [Bool.not_eq_true, Bool.not_eq_false', Bool.and_eq_true,
                decide_eq_true_eq] at hkept
              have hid : i.id = k := Table.find_key hi
              rw [hid] at hkept
              obtain ⟨rfl, rfl⟩ := hkept
              exact .inr ⟨l, hl, hasked⟩
  | findUserById id =>
      cases h
      exact hw
  | findList s languageId =>
      cases h
      exact hw
  | findByWishlistIdAndBookVariantId wishlistId bookVariantId =>
      cases h
      exact hw

/-! ### What the requests promise -/

section Promises

variable {who : Requester} {s : Shopper} {languageId : Option Nat}

variable (asked) in
/-- The handler keeps its promise and ends in `Q`. -/
abbrev WishKeeps {α : Type} (Q : Except WishFailure α → WishWorld → Prop) (p : WishService α)
    (w : WishWorld) : Prop :=
  Sends (wishPromise asked) (fun _ _ _ => True) wishExec .database Q p w

/-- The list has been found, and its owner is the shopper. -/
def OwnList (s : Shopper) (list : WishlistWithItems) (w : WishWorld) : Prop :=
  s.owns list.list.userId list.list.guestSessionId = true ∧
    ∃ l, w.wishlists.find list.list.id = some l ∧ l.toWishlist = list.list.toWishlist

theorem OwnList.of_keepsOwners
    {list : WishlistWithItems} (h : OwnList s list w) (hwv : KeepsOwners w v) :
    OwnList s list v := by
  obtain ⟨howns, l, hl, hsame⟩ := h
  obtain ⟨l', hl', hsame'⟩ := hwv _ l hl
  exact ⟨howns, l', hl', hsame'.trans hsame⟩

/-- A request for the own list. -/
theorem OwnList.askedBy
    {list : WishlistWithItems} {r : WishRequest} (h : OwnList s list w) (hasked : asked s r) :
    ∃ l, w.wishlists.find list.list.id = some l ∧ AskedBy asked l.toWishlist r := by
  obtain ⟨howns, l, hl, hsame⟩ := h
  exact ⟨l, hl, s, hsame ▸ howns, hasked⟩

/-- A list that is found belongs to the shopper. -/
def OwnFound (s : Shopper) (x : Except WishFailure (Option WishlistWithItems)) (w : WishWorld) :
    Prop :=
  ∀ list, x = .ok (some list) → OwnList s list w

theorem resolveWishlist_keeps
    {create : Bool}
    (hcreate : create = true → asked s .getWish ∨ ∃ body, asked s (.addWish body)) :
    WishKeeps asked (OwnFound s) (resolveWishlist s create languageId) w := by
  refine Sends.await_bind (fun _ _ => trivial) (fun _ _ _ h => by cases h)
    fun v _ v' r _ _ _ hread => ?_
  cases hread
  cases hnewest : v.newestList s with
  | some l =>
      simp only [Option.map_some, Option.isSome_some, Bool.true_or, if_true]
      rintro u hvu list h
      cases h
      obtain ⟨hl, howns, -⟩ := newestList_live hnewest
      have hown : OwnList s (v.listWithItems languageId l) v :=
        ⟨howns, l, Table.find_of_mem hl, rfl⟩
      exact hown.of_keepsOwners hvu
  | none =>
      simp only [Option.map_none, Option.isSome_none, Bool.false_or]
      split_ifs with hmissing
      · rintro u - list h
        cases h
      · refine Sends.await_bind (fun _ _ => hcreate (by simpa using hmissing))
          (fun _ _ _ h => by cases h) fun z _ z' r _ _ _ hinsert => ?_
        simp only [Wish.wishExec] at hinsert
        split_ifs at hinsert
        cases hinsert
        rintro u hzu list h
        cases h
        have hown : OwnList s ((z.withList s).listWithItems languageId
            (newList s z.now z.wishlists.next)) (z.withList s) := by
          refine ⟨owns_newList.mpr rfl, newList s z.now z.wishlists.next, ?_, rfl⟩
          have hid : (newList s z.now z.wishlists.next).id = z.wishlists.next :=
            key_newList s z.now z.wishlists.next
          simp only [WishWorld.listWithItems, WishWorld.withList, hid, Table.find_insert, if_true]
        exact hown.of_keepsOwners hzu

/-- What the actor of a request finds belongs to its shopper. -/
theorem resolveWishlistByActor_keeps
    {create : Bool}
    (hcreate : create = true → ∀ s, shopperOf who = some s →
      asked s .getWish ∨ ∃ body, asked s (.addWish body)) :
    WishKeeps asked (fun x v => ∀ list, x = .ok (some list) →
        ∃ s, shopperOf who = some s ∧ OwnList s list v)
      (resolveWishlistByActor (resolveActor who).1 (resolveActor who).2 create languageId) w := by
  have hown : ∀ s, shopperOf who = some s → ∀ v, WishKeeps asked (fun x v => ∀ list,
      x = .ok (some list) → ∃ s, shopperOf who = some s ∧ OwnList s list v)
        (resolveWishlist s create languageId) v := by
    intro s hs v
    refine Sends.mono ?_ (resolveWishlist_keeps fun h => hcreate h s hs)
    exact fun x u h list hlist => ⟨s, hs, h list hlist⟩
  rw [resolveWishlistByActor_resolveActor]
  cases hs : shopperOf who with
  | none =>
      rintro v - list h
      cases h
  | some s =>
      cases s with
      | user userId =>
          refine Sends.await_bind (fun _ _ => trivial) (fun _ _ _ h => by cases h)
            fun v _ v' user _ _ _ hread => ?_
          cases user with
          | none =>
              rintro u - list h
              cases h
          | some id =>
              simp only [Wish.wishExec, Except.ok.injEq, Prod.mk.injEq] at hread
              obtain ⟨rfl, hread⟩ := hread
              split_ifs at hread
              cases hread
              simpa only [hs] using hown _ hs v
      | guest sessionId =>
          simpa only [hs] using hown _ hs w

theorem getWishlist_keeps
    (hasked : ∀ s, shopperOf who = some s → asked s .getWish ∨ ∃ body, asked s (.addWish body)) :
    WishKeeps asked (fun x v => ∀ list, x = .ok list →
        ∃ s, shopperOf who = some s ∧ OwnList s list v)
      (getWishlist (resolveActor who).1 (resolveActor who).2 languageId) w := by
  refine Sends.bind (Sends.mono ?_ (resolveWishlistByActor_keeps fun _ => hasked))
  rintro (e | found) v hfound
  · intro list h
    cases h
  · cases found with
    | none =>
        intro u _ list h
        cases h
    | some list =>
        intro u hvu list' h
        cases h
        obtain ⟨s, hs, hown⟩ := hfound list rfl
        exact ⟨s, hs, hown.of_keepsOwners hvu⟩

/-- A request keeps its promise, where its shopper has made it. -/
theorem handler_keeps
    {r : WishRequest} (hasked : ∀ s, shopperOf who = some s → asked s r) :
    WishKeeps asked (fun _ _ => True) (r.handler who languageId) w := by
  cases r with
  | getWish =>
      refine Sends.bind (Sends.mono ?_ (getWishlist_keeps fun s hs => .inl (hasked s hs)))
      rintro (e | list) v -
      · trivial
      · exact fun _ _ => trivial
  | addWish body =>
      refine Sends.bind (Sends.mono ?_
        (getWishlist_keeps fun s hs => .inr ⟨body, hasked s hs⟩))
      rintro (e | list) v hfound
      · trivial
      obtain ⟨s, hs, hown⟩ := hfound list rfl
      refine Sends.await_bind (fun _ _ => trivial) (fun _ _ => trivial)
        fun u _ u' existed hvu _ _ hread => ?_
      cases hread
      cases u.items.findFirst (WishWorld.pair list.list.id body.bookVariantId) with
      | some existed =>
          exact fun _ _ => trivial
      | none =>
          refine Sends.await_bind (fun z huz => ?_) (fun _ _ => trivial)
            fun _ _ _ _ _ _ _ _ _ _ => trivial
          obtain ⟨l, hl, hby⟩ :=
            ((hown.of_keepsOwners hvu).of_keepsOwners huz).askedBy (hasked s hs)
          exact ⟨l, body, hl, hby, rfl⟩
  | deleteWishItem itemKey =>
      refine Sends.bind (Sends.mono ?_ (resolveWishlistByActor_keeps (by simp)))
      rintro (e | found) v hfound
      · trivial
      cases found with
      | none =>
          exact fun _ _ => trivial
      | some list =>
          obtain ⟨s, hs, hown⟩ := hfound list rfl
          refine Sends.await_bind (fun z hvz => ?_) (fun _ _ => trivial)
            fun _ _ _ deleted _ _ _ _ => ?_
          · exact (hown.of_keepsOwners hvz).askedBy (hasked s hs)
          · split_ifs
            · exact fun _ _ => trivial
            · exact fun _ _ => trivial
  | deleteWish =>
      refine Sends.bind (Sends.mono ?_ (resolveWishlistByActor_keeps (by simp)))
      rintro (e | found) v hfound
      · trivial
      cases found with
      | none =>
          exact fun _ _ => trivial
      | some list =>
          obtain ⟨s, hs, hown⟩ := hfound list rfl
          refine Sends.await_bind (fun z hvz => ?_) (fun _ _ => trivial)
            fun _ _ _ _ _ _ _ _ _ _ => trivial
          exact (hown.of_keepsOwners hvz).askedBy (hasked s hs)

end Promises

/-! ### Runs -/

variable {c c' : WishState} {a : Action WishEvent}

variable (asked) in
/-- A request that arrives has been made by its shopper. -/
def WishArrives (_ : WishState) : Action WishEvent → Prop
  | .env (.arrive who _ r) => ∀ s, shopperOf who = some s → asked s r
  | _ => True

variable (asked w₀) in
structure WishGuarded (c : WishState) : Prop where
  sends : AllSend wishServer (wishPromise asked) (fun _ _ _ _ => True) c
  accounted : Accounted asked w₀ c.world

/-- **One step** -/
theorem wishGuarded_step
    (harrives : WishArrives asked c a)
    (hc : WishGuarded asked w₀ c)
    (hstep : wishServer.step c a = some c') :
    WishGuarded asked w₀ c' := by
  have hrely : KeepsOwners c.world c'.world := by
    refine System.step_world wishServer (P := KeepsOwners) (fun w => .refl w.wishlists)
      (fun event w w' p hp => ?_) (fun _ _ _ _ h => wishExec_keepsOwners h) hstep
    cases event <;> cases hp <;> exact .refl _
  refine ⟨sends_step (fun event w' p i ha hp => ?_) (fun _ _ _ _ _ _ => trivial) hrely
    hc.sends hstep, ?_⟩
  · subst ha
    cases event with
    | arrive who languageId r =>
        cases hp
        exact handler_keeps harrives
    | tick ms =>
        cases hp
  cases a with
  | env event =>
      obtain ⟨p, hp⟩ := System.step_env_world wishServer hstep
      have hsame : c'.world.wishlists = c.world.wishlists ∧ c'.world.items = c.world.items := by
        cases event <;> simp only [wishServer, Option.some.injEq, Prod.mk.injEq] at hp <;>
          rw [← hp.1] <;> exact ⟨rfl, rfl⟩
      exact ⟨hsame.1 ▸ hc.accounted.kept, hsame.1 ▸ hc.accounted.created,
        hsame.1 ▸ hsame.2 ▸ hc.accounted.added, hsame.1 ▸ hsame.2 ▸ hc.accounted.removed⟩
  | run i j o =>
      rcases System.step_run_world wishServer hstep with ⟨st, hst, hw⟩ | ⟨-, hw⟩
      · rw [hw]
        refine attempt_cases (motive := fun x => Accounted asked w₀ x.1)
          (fun _ => hc.accounted) fun w' r _ hexec => ?_
        have haccounted := hc.accounted.wishExec (Sends.next (hc.sends i) hst) hexec
        exact ⟨haccounted, haccounted⟩
      · rw [hw]
        exact hc.accounted

/-- The request of the shopper arrives in the run. -/
def MadeIn (as : List (Action WishEvent)) (s : Shopper) (r : WishRequest) : Prop :=
  ∃ who languageId, .env (.arrive who languageId r) ∈ as ∧ shopperOf who = some s

theorem meets_wishArrives (as bs : List (Action WishEvent)) (hsub : bs ⊆ as) (d : WishState) :
    Meets wishServer.step (WishArrives (MadeIn as)) d bs := by
  refine Meets.of_forall_mem fun a ha d => ?_
  cases a with
  | env event =>
      cases event with
      | arrive who languageId r =>
          exact fun s hs => ⟨who, languageId, hsub ha, hs⟩
      | tick ms =>
          trivial
  | run i j o =>
      trivial

theorem wishGuarded_runs
    {as bs : List (Action WishEvent)}
    (hsub : bs ⊆ as)
    (hc : WishGuarded (MadeIn as) w₀ c)
    (hrun : runs wishServer.step c bs = some c') :
    WishGuarded (MadeIn as) w₀ c' :=
  runs_invariant (G := WishArrives (MadeIn as))
    (fun _ _ _ hd ha hstep => wishGuarded_step ha hd hstep) hc
    (meets_wishArrives as bs hsub c) hrun

/--
Between any two states of a run a list is deleted only where an owner has asked for it, an item
is new in a list only where an owner has asked for its variant, and gone only where one has
asked for that by its key.
-/
theorem wishlists_runs
    {w : WishWorld} {as bs : List (Action WishEvent)}
    (hrun : runs wishServer.step ⟨w, []⟩ as = some c)
    (hrun' : runs wishServer.step c bs = some c') :
    Accounted (MadeIn (as ++ bs)) c.world c'.world := by
  have hstart : WishGuarded (MadeIn (as ++ bs)) w ⟨w, []⟩ :=
    ⟨fun i p hp => by simp at hp, .refl w⟩
  have hc := wishGuarded_runs (List.subset_append_left as bs) hstart hrun
  -- from `c` on the changes are counted anew
  exact (wishGuarded_runs (List.subset_append_right as bs) ⟨hc.sends, .refl c.world⟩
    hrun').accounted

theorem sampleVariant_pos : 1 ≤ 1 := le_rfl

/-- A user and a guest add the same variant in turns; the guest asks for the end of the user's. -/
def sampleWishRun : List (Action WishEvent) :=
  let user : Requester := ⟨some 1, none⟩
  let guest : Requester := ⟨none, some "guest"⟩
  [.env (.arrive user none (.addWish ⟨1, sampleVariant_pos⟩)),
    .env (.arrive guest none (.addWish ⟨1, sampleVariant_pos⟩)),
    .run 0 0 .ok, .run 1 0 .ok, .run 0 0 .ok, .run 1 0 .ok, .run 0 0 .ok, .run 1 0 .ok,
    .run 0 0 .ok, .run 0 0 .ok, .run 1 0 .ok, .env (.arrive guest none (.deleteWishItem (some 1))),
    .run 2 0 .ok, .run 2 0 .ok]

/-- The user's item, and the item once more where the guest has asked for its end. -/
theorem wishlists_runs_sampleWishes :
    ∃ c c', runs wishServer.step ⟨sampleWishes, []⟩ (sampleWishRun.take 11) = some c ∧
      runs wishServer.step c (sampleWishRun.drop 11) = some c' ∧
      c.world.items.find 1 = c'.world.items.find 1 ∧ (c.world.items.find 1).isSome = true ∧
      Accounted (MadeIn sampleWishRun) c.world c'.world := by
  have hends : (runs wishServer.step ⟨sampleWishes, []⟩ (sampleWishRun.take 11)).any (fun c =>
      (runs wishServer.step c (sampleWishRun.drop 11)).any fun c' =>
        decide (c.world.items.find 1 = c'.world.items.find 1) &&
          (c.world.items.find 1).isSome) = true := by
    decide +kernel
  obtain ⟨c, hc, hrest⟩ := Option.any_eq_true _ _ |>.mp hends
  obtain ⟨c', hc', hmeets⟩ := Option.any_eq_true _ _ |>.mp hrest
  rw [Bool.and_eq_true, decide_eq_true_eq] at hmeets
  have haccounted := wishlists_runs hc hc'
  rw [List.take_append_drop] at haccounted
  exact ⟨c, c', hc, hc', hmeets.1, hmeets.2, haccounted⟩

end Wish
end BookStore
