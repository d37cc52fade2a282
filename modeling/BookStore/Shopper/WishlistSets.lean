import Mathlib.Logic.Function.Basic
import BookStore.Async.Sequential
import BookStore.Shopper.Wishlists

/-!
# Wishlists are maps

What the wishlists are for: every shopper has a map from the keys of the items to the variants.
`Wishes` are these maps and `Wishes.Answers` says what a request makes of them and is answered.
Requests that are handled one after another are answered as the maps say
(`wishlists_refine`).

* `Sound` is what the tables keep: a shopper has no more than one list that is not deleted, and a
  list has one owner.
* `wishes` are the maps that the tables stand for.
-/

namespace BookStore
namespace Wish

open Async Program

/-! ### The maps -/

@[ext] structure Wishes where
  listed : Shopper → Nat → Option Nat
  /-- The next key. -/
  next : Nat
  known : Shopper → Bool
  stocked : Nat → Bool

namespace Wishes

variable (m : Wishes) (s : Shopper)

def add (bookVariantId : Nat) : Wishes :=
  { m with
    listed := Function.update m.listed s
      (Function.update (m.listed s) m.next (some bookVariantId))
    next := m.next + 1 }

def remove (itemKey : Nat) : Wishes :=
  { m with listed := Function.update m.listed s (Function.update (m.listed s) itemKey none) }

def clear : Wishes :=
  { m with listed := Function.update m.listed s fun _ => none }

end Wishes

/-- The answer shows the items of the map, the latest first. -/
structure Shows (l : WishlistWithItems) (f : Nat → Option Nat) : Prop where
  nodup : (l.items.map fun r => r.item.id).Nodup
  exact : ∀ k v, (∃ r, r ∈ l.items ∧ r.item.id = k ∧ r.item.bookVariantId = v) ↔ f k = some v
  latest : l.items.Pairwise fun r r' => r'.item.addedAt ≤ r.item.addedAt

/-- What the request of a shopper makes of the maps, and its answer. -/
inductive Wishes.Answers (m : Wishes) (s : Shopper) :
    WishRequest → Wishes → Except WishFailure WishAnswer → Prop
  | shown
      {l : WishlistWithItems}
      (hknown : m.known s = true)
      (hl : Shows l (m.listed s)) :
      Answers m s .getWish m (.ok (.wishlist l))
  | added
      {body : AddWishItemRequestDto}
      (hknown : m.known s = true)
      (hstocked : m.stocked body.bookVariantId = true)
      (hnew : ∀ k, m.listed s k ≠ some body.bookVariantId) :
      Answers m s (.addWish body) (m.add s body.bookVariantId)
        (.ok (.added true ⟨toString m.next, body.bookVariantId⟩))
  | again
      {body : AddWishItemRequestDto} {k : Nat}
      (hknown : m.known s = true)
      (hold : m.listed s k = some body.bookVariantId) :
      Answers m s (.addWish body) m (.ok (.added false ⟨toString k, body.bookVariantId⟩))
  | notStocked
      {body : AddWishItemRequestDto}
      (hknown : m.known s = true)
      (hstocked : m.stocked body.bookVariantId = false)
      (hnew : ∀ k, m.listed s k ≠ some body.bookVariantId) :
      Answers m s (.addWish body) m (.error .database)
  | removed
      {k : Nat}
      (hknown : m.known s = true)
      (hold : (m.listed s k).isSome = true) :
      Answers m s (.deleteWishItem (some k)) (m.remove s k) (.ok .success)
  | notFound
      {itemKey : Int}
      (hknown : ∀ id, s = .user id → m.known s = true)
      (hnone : ∀ k : Nat, (k : Int) = itemKey → m.listed s k = none) :
      Answers m s (.deleteWishItem (some itemKey)) m (.error (.notFound wishlistItemNotFound))
  | malformed
      {e : WishFailure}
      (hknown : ∀ id, s = .user id → m.known s = true) :
      Answers m s (.deleteWishItem none) m (.error e)
  | cleared
      (hknown : ∀ id, s = .user id → m.known s = true) :
      Answers m s .deleteWish (m.clear s) (.ok .success)
  | unknownUser
      {id : Nat} {r : WishRequest}
      (hs : s = .user id)
      (hknown : m.known s = false) :
      Answers m s r m (.error .forbidden)
  | unknownGuest
      {r : WishRequest}
      (hr : r = .getWish ∨ ∃ body, r = .addWish body)
      (hknown : m.known s = false) :
      Answers m s r m (.error .database)

/-- The answer to a request without a shopper. -/
def AnswersNobody (r : WishRequest) (x : Except WishFailure WishAnswer) : Prop :=
  x = match r with
    | .getWish => .error .forbidden
    | .addWish _ => .error .forbidden
    | .deleteWishItem _ => .error (.notFound wishlistItemNotFound)
    | .deleteWish => .ok .success

/-- The shopper that a request is for. -/
def shopperOf (who : Requester) : Option Shopper :=
  match who.user.filter fun n => decide (n ≠ 0), truthy who.guestSessionId with
  | some userId, _ => some (.user userId)
  | none, some sessionId => some (.guest sessionId)
  | none, none => none

/-! ### Requests one after another -/

/--
A request with its answer, or what happens elsewhere between two requests.  Inserts that have
failed, also those of the requests before, have used up keys of lists and of items.
-/
inductive WishEntry
  | call (who : Requester) (languageId : Option Nat) (r : WishRequest)
      (x : Except WishFailure WishAnswer)
  | elsewhere (shop : ShopperDb) (listKeys itemKeys ms : Nat)

/-- Nothing that the wishlists refer to goes away. -/
structure WishWorld.Grows (w w' : WishWorld) : Prop where
  known : ∀ s, w.known s = true → w'.known s = true
  stocked : ∀ v, w.stocked v = true → w'.stocked v = true

def wishStep (w : WishWorld) : WishEntry → WishWorld → Prop
  | .call who languageId r x, w' =>
      (r.handler who languageId).Yields wishExec .database w w' x
  | .elsewhere shop listKeys itemKeys ms, w' =>
      w.Grows w' ∧ w' =
        { shop := shop
          wishlists := w.wishlists.skip listKeys
          items := w.items.skip itemKeys
          now := w.now + ms }

def Wishes.Step (m : Wishes) : WishEntry → Wishes → Prop
  | .call who _ r x, m' =>
      match shopperOf who with
      | some s => m.Answers s r m' x
      | none => m' = m ∧ AnswersNobody r x
  | .elsewhere _ _ itemKeys _, m' =>
      m'.listed = m.listed ∧ m'.next = m.next + itemKeys ∧
        (∀ s, m.known s = true → m'.known s = true) ∧ ∀ v, m.stocked v = true → m'.stocked v = true

/-! ### What the tables keep -/

structure Sound (w : WishWorld) : Prop where
  oneList : ∀ s, (w.wishlists.filter (WishWorld.liveOf s)).length ≤ 1
  oneOwner : ∀ l, l ∈ w.wishlists.rows → ∀ s t : Shopper, s.owns l.userId l.guestSessionId = true →
    t.owns l.userId l.guestSessionId = true → s = t
  known : ∀ l, l ∈ w.wishlists.rows → ∀ s : Shopper, s.owns l.userId l.guestSessionId = true →
    w.known s = true
  inLists : ∀ i, i ∈ w.items.rows → i.wishlistId < w.wishlists.next

/-- The variant that is in a list under a key. -/
def WishWorld.entry (w : WishWorld) (l : WishlistRow) (k : Nat) : Option Nat :=
  ((w.items.find k).filter fun i => decide (i.wishlistId = l.id)).map fun i => i.bookVariantId

def wishes (w : WishWorld) : Wishes where
  listed s k := (w.newestList s).bind fun l => w.entry l k
  next := w.items.next
  known := w.known
  stocked := w.stocked

section Tables

variable {w w' : WishWorld} {s t : Shopper} {l : WishlistRow}

theorem newestList_eq_none :
    w.newestList s = none ↔ w.wishlists.filter (WishWorld.liveOf s) = [] := by
  unfold WishWorld.newestList
  rw [List.head?_eq_none_iff]
  constructor
  · intro h
    exact List.Perm.nil_eq (h ▸ perm_orderBy _ _) |>.symm
  · intro h
    rw [h]
    rfl

theorem newestList_eq_some (hw : Sound w) :
    w.newestList s = some l ↔ w.wishlists.filter (WishWorld.liveOf s) = [l] := by
  have hone := hw.oneList s
  unfold WishWorld.newestList
  cases h : w.wishlists.filter (WishWorld.liveOf s) with
  | nil =>
      simp [orderBy]
  | cons l' ls =>
      rw [h, List.length_cons] at hone
      obtain rfl : ls = [] := List.eq_nil_of_length_eq_zero (by omega)
      simp [orderBy]

theorem newestList_live (h : w.newestList s = some l) :
    l ∈ w.wishlists.rows ∧ s.owns l.userId l.guestSessionId = true ∧ l.deleteAt = none := by
  have hmem := (List.mem_insertionSort _).mp (List.mem_of_mem_head? h)
  obtain ⟨hl, hlive⟩ := List.mem_filter.mp hmem
  obtain ⟨howns, hdeleted⟩ := Bool.and_eq_true_iff.mp hlive
  exact ⟨hl, howns, of_decide_eq_true hdeleted⟩

/-- The lists of two shoppers are different. -/
theorem newestList_ne (hw : Sound w) {l' : WishlistRow}
    (h : w.newestList s = some l) (h' : w.newestList t = some l') (hst : s ≠ t) :
    l.id ≠ l'.id := by
  obtain ⟨hl, howns, -⟩ := newestList_live h
  obtain ⟨hl', howns', -⟩ := newestList_live h'
  intro heq
  have hkey : key l = key l' := heq
  obtain rfl := List.inj_on_of_nodup_map w.wishlists.nodup hl hl' hkey
  exact hst (hw.oneOwner l hl s t howns howns')

theorem newestList_congr
    (h : w'.wishlists.filter (WishWorld.liveOf t) = w.wishlists.filter (WishWorld.liveOf t)) :
    w'.newestList t = w.newestList t := by
  unfold WishWorld.newestList
  rw [h]

/-! ### A list that is created -/

def WishWorld.withList (w : WishWorld) (s : Shopper) : WishWorld :=
  { w with wishlists := w.wishlists.insert (newList s w.now) (key_newList s w.now) }

theorem owns_newList {now n : Nat} :
    t.owns (newList s now n).userId (newList s now n).guestSessionId = true ↔ t = s := by
  cases s <;> cases t <;> simp [Shopper.owns, newList, eq_comm]

theorem liveOf_newList {now n : Nat} : WishWorld.liveOf t (newList s now n) = decide (t = s) := by
  have hdeleted : (newList s now n).deleteAt = none := by cases s <;> rfl
  rw [Bool.eq_iff_iff]
  simp only [WishWorld.liveOf, hdeleted, Bool.and_eq_true, owns_newList, decide_eq_true_eq,
    and_true]

theorem filter_withList_of_ne (hst : t ≠ s) :
    (w.withList s).wishlists.filter (WishWorld.liveOf t) =
      w.wishlists.filter (WishWorld.liveOf t) :=
  @Table.filter_insert_of_not _ _ _ _ _ (key_newList s w.now)
    (by rw [liveOf_newList, decide_eq_false hst])

theorem filter_withList (hnone : w.newestList s = none) :
    (w.withList s).wishlists.filter (WishWorld.liveOf s) =
      [newList s w.now w.wishlists.next] := by
  have hfilter := newestList_eq_none.mp hnone
  rw [Table.filter] at hfilter
  simp [WishWorld.withList, Table.filter, hfilter, liveOf_newList]

theorem Sound.withList
    (hw : Sound w) (hknown : w.known s = true) (hnone : w.newestList s = none) :
    Sound (w.withList s) where
  oneList t := by
    by_cases hst : t = s
    · subst hst
      rw [filter_withList hnone]
      exact Nat.le_refl 1
    · rw [filter_withList_of_ne hst]
      exact hw.oneList t
  oneOwner l hl t u ht hu := by
    rcases List.mem_append.mp hl with hl | hl
    · exact hw.oneOwner l hl t u ht hu
    · obtain rfl := List.mem_singleton.mp hl
      rw [owns_newList] at ht hu
      rw [ht, hu]
  known l hl t ht := by
    rcases List.mem_append.mp hl with hl | hl
    · exact hw.known l hl t ht
    · obtain rfl := List.mem_singleton.mp hl
      rw [owns_newList] at ht
      rw [ht]
      exact hknown
  inLists i hi := Nat.lt_succ_of_lt (hw.inLists i hi)

theorem newestList_withList (hw : Sound w) (hknown : w.known s = true)
    (hnone : w.newestList s = none) :
    (w.withList s).newestList s = some (newList s w.now w.wishlists.next) :=
  (newestList_eq_some (hw.withList hknown hnone)).mpr (filter_withList hnone)

/-- A new list has no items. -/
theorem wishes_withList (hw : Sound w) (hknown : w.known s = true)
    (hnone : w.newestList s = none) :
    wishes (w.withList s) = wishes w := by
  have hlisted : (wishes (w.withList s)).listed = (wishes w).listed := by
    funext t k
    by_cases hst : t = s
    · subst hst
      simp only [wishes, newestList_withList hw hknown hnone, hnone, Option.bind_some,
        Option.bind_none, WishWorld.entry, Option.map_eq_none_iff]
      rw [Option.filter_eq_none_iff]
      intro i hi
      have hlt := hw.inLists i (Table.find_mem hi)
      have hid : (newList t w.now w.wishlists.next).id = w.wishlists.next :=
        key_newList t w.now w.wishlists.next
      rw [decide_eq_true_eq, hid]
      omega
    · simp only [wishes, newestList_congr (filter_withList_of_ne hst)]
      rfl
  exact Wishes.ext hlisted rfl rfl rfl

/-! ### Items -/

theorem wishes_listed (hl : w.newestList s = some l) (k : Nat) :
    (wishes w).listed s k = w.entry l k := by
  simp only [wishes, hl, Option.bind_some]

/-- What a change of the items does to the maps, seen from one list. -/
theorem wishes_items
    {items : Table WishlistItemRow} {f : Nat → Option Nat}
    (hl : w.newestList s = some l)
    (hs : ∀ k, ({ w with items := items } : WishWorld).entry l k = f k)
    (hother : ∀ t l' k, t ≠ s → w.newestList t = some l' →
      ({ w with items := items } : WishWorld).entry l' k = w.entry l' k) :
    wishes { w with items := items } =
      { wishes w with
        listed := Function.update (wishes w).listed s f
        next := items.next } := by
  have hlisted : (wishes { w with items := items }).listed =
      Function.update (wishes w).listed s f := by
    funext t k
    by_cases hst : t = s
    · subst hst
      rw [Function.update_self, ← hs k]
      show (w.newestList t).bind _ = _
      rw [hl]
      rfl
    · rw [Function.update_of_ne hst]
      show (w.newestList t).bind _ = (w.newestList t).bind _
      cases h : w.newestList t with
      | none =>
          rfl
      | some l' =>
          exact hother t l' k hst h
  exact Wishes.ext hlisted rfl rfl rfl

def WishWorld.withItem (w : WishWorld) (l : WishlistRow) (bookVariantId : Nat) : WishWorld :=
  { w with items := w.items.insert fun n => ⟨⟨n, l.id, bookVariantId⟩, w.now⟩ }

theorem Sound.withItem (hw : Sound w) (hl : l ∈ w.wishlists.rows) (v : Nat) :
    Sound (w.withItem l v) where
  oneList := hw.oneList
  oneOwner := hw.oneOwner
  known := hw.known
  inLists i hi := by
    rcases List.mem_append.mp hi with hi | hi
    · exact hw.inLists i hi
    · obtain rfl := List.mem_singleton.mp hi
      exact w.wishlists.below l hl

theorem wishes_withItem (hw : Sound w) (hl : w.newestList s = some l) (v : Nat) :
    wishes (w.withItem l v) = (wishes w).add s v := by
  refine wishes_items hl (fun k => ?_) fun t l' k hst hl' => ?_
  · have hnext : (wishes w).next = w.items.next := rfl
    rw [hnext]
    by_cases hk : k = w.items.next
    · rw [hk, Function.update_self]
      simp [WishWorld.entry, Table.find_insert]
    · rw [Function.update_of_ne hk, wishes_listed hl]
      simp only [WishWorld.entry, Table.find_insert, if_neg hk]
  · have hne := newestList_ne hw hl hl' (Ne.symm hst)
    simp only [WishWorld.entry, Table.find_insert]
    split_ifs with hk
    · rw [hk, Table.find_next]
      simp [hne]
    · rfl

def WishWorld.withoutItem (w : WishWorld) (l : WishlistRow) (itemKey : Int) : WishWorld :=
  { w with
    items := w.items.deleteWhere fun i =>
      decide ((i.id : Int) = itemKey) && decide (i.wishlistId = l.id) }

theorem Sound.withoutItem (hw : Sound w) (itemKey : Int) : Sound (w.withoutItem l itemKey) where
  oneList := hw.oneList
  oneOwner := hw.oneOwner
  known := hw.known
  inLists i hi := hw.inLists i (List.mem_of_mem_filter hi)

theorem entry_withoutItem (l' : WishlistRow) (itemKey : Int) (k : Nat) :
    (w.withoutItem l itemKey).entry l' k =
      if (k : Int) = itemKey ∧ l'.id = l.id then none else w.entry l' k := by
  simp only [WishWorld.entry, WishWorld.withoutItem, Table.find_deleteWhere]
  cases h : w.items.find k with
  | none =>
      simp
  | some i =>
      obtain rfl : i.id = k := Table.find_key h
      simp only [Option.filter_some]
      split_ifs <;> simp_all

theorem wishes_withoutItem (hw : Sound w) (hl : w.newestList s = some l) (itemKey : Int) :
    wishes (w.withoutItem l itemKey) =
      { wishes w with
        listed := Function.update (wishes w).listed s fun k =>
          if (k : Int) = itemKey then none else (wishes w).listed s k } := by
  refine wishes_items hl (fun k => ?_) fun t l' k hst hl' => ?_
  · rw [wishes_listed hl]
    exact (entry_withoutItem l itemKey k).trans (by simp)
  · have hne := newestList_ne hw hl hl' (Ne.symm hst)
    exact (entry_withoutItem l' itemKey k).trans (if_neg fun h => hne h.2.symm)

/-- The number of items that are deleted. -/
theorem deleted_eq_zero (hl : w.newestList s = some l) (itemKey : Int) :
    (w.items.filter fun i =>
        decide ((i.id : Int) = itemKey) && decide (i.wishlistId = l.id)).length = 0 ↔
      ∀ k : Nat, (k : Int) = itemKey → (wishes w).listed s k = none := by
  simp only [List.length_eq_zero_iff, Table.filter, List.filter_eq_nil_iff, wishes_listed hl,
    WishWorld.entry, Option.map_eq_none_iff, Option.filter_eq_none_iff]
  constructor
  · intro h k hk i hi
    have hid : i.id = k := Table.find_key hi
    have := h i (Table.find_mem hi)
    simp only [hid, hk, decide_true, Bool.true_and] at this
    exact this
  · intro h i hi hmeets
    obtain ⟨hid, hlist⟩ := Bool.and_eq_true_iff.mp hmeets
    exact h i.id (of_decide_eq_true hid) i (Table.find_of_mem hi) hlist

/-! ### A list that is deleted -/

theorem key_deletedList (now : Nat) (l : WishlistRow) :
    key { l with updatedAt := now, deleteAt := some now } = key l := rfl

def WishWorld.withoutList (w : WishWorld) (l : WishlistRow) : WishWorld :=
  { w with
    wishlists := w.wishlists.update l.id
      (fun l => { l with updatedAt := w.now, deleteAt := some w.now }) (key_deletedList w.now) }

theorem filter_withoutList_of_ne (hw : Sound w) (hl : w.newestList s = some l) (hst : t ≠ s) :
    (w.withoutList l).wishlists.filter (WishWorld.liveOf t) =
      w.wishlists.filter (WishWorld.liveOf t) := by
  obtain ⟨hmem, howns, -⟩ := newestList_live hl
  simp only [WishWorld.withoutList, Table.update, Table.filter, Table.rows_updateWhere]
  rw [List.filter_map, List.filter_congr (q := WishWorld.liveOf t)]
  · refine (List.map_congr_left fun r hr => ?_).trans (List.map_id _)
    obtain ⟨hr, hlive⟩ := List.mem_filter.mp hr
    rw [if_neg, id]
    intro hkey
    obtain rfl := List.inj_on_of_nodup_map w.wishlists.nodup hr hmem (of_decide_eq_true hkey)
    exact hst (hw.oneOwner r hr t s (Bool.and_eq_true_iff.mp hlive).1 howns)
  · intro r hr
    simp only [Function.comp]
    split_ifs with hkey
    · obtain rfl := List.inj_on_of_nodup_map w.wishlists.nodup hr hmem (of_decide_eq_true hkey)
      have hnot : t.owns r.userId r.guestSessionId = false :=
        Bool.eq_false_iff.mpr fun h => hst (hw.oneOwner r hr t s h howns)
      simp [WishWorld.liveOf, hnot]
    · rfl

theorem filter_withoutList (hw : Sound w) (hl : w.newestList s = some l) :
    (w.withoutList l).wishlists.filter (WishWorld.liveOf s) = [] := by
  have hone := (newestList_eq_some hw).mp hl
  simp only [WishWorld.withoutList, Table.update, Table.filter, Table.rows_updateWhere,
    List.filter_eq_nil_iff, List.mem_map]
  rintro - ⟨r, hr, rfl⟩
  split_ifs with hkey
  · simp [WishWorld.liveOf]
  · intro hlive
    have hmem : r ∈ w.wishlists.filter (WishWorld.liveOf s) := List.mem_filter.mpr ⟨hr, hlive⟩
    rw [hone, List.mem_singleton] at hmem
    exact hkey (decide_eq_true (congrArg key hmem))

theorem Sound.withoutList (hw : Sound w) (hl : w.newestList s = some l) :
    Sound (w.withoutList l) where
  oneList t := by
    by_cases hst : t = s
    · subst hst
      rw [filter_withoutList hw hl]
      exact Nat.zero_le 1
    · rw [filter_withoutList_of_ne hw hl hst]
      exact hw.oneList t
  oneOwner := Table.forall_updateWhere (fun r hr _ => hw.oneOwner r hr) fun r hr _ =>
    hw.oneOwner r hr
  known := Table.forall_updateWhere (fun r hr _ => hw.known r hr) fun r hr _ => hw.known r hr
  inLists := hw.inLists

theorem wishes_withoutList (hw : Sound w) (hl : w.newestList s = some l) :
    wishes (w.withoutList l) = (wishes w).clear s := by
  have hlisted : (wishes (w.withoutList l)).listed =
      Function.update (wishes w).listed s fun _ => none := by
    funext t k
    by_cases hst : t = s
    · subst hst
      rw [Function.update_self]
      simp only [wishes, newestList_eq_none.mpr (filter_withoutList hw hl), Option.bind_none]
    · rw [Function.update_of_ne hst]
      simp only [wishes, newestList_congr (filter_withoutList_of_ne hw hl hst)]
      rfl
  exact Wishes.ext hlisted rfl rfl rfl

end Tables

/-! ### What a request finds -/

section Calls

variable {w w' : WishWorld} {s : Shopper} {l : WishlistRow} {languageId : Option Nat}
variable {who : Requester} {create : Bool}

/-- By itself a handler takes `w` to `w'` and ends in `x`. -/
abbrev WishYields {α : Type} (p : WishService α) (w w' : WishWorld) (x : Except WishFailure α) :
    Prop :=
  p.Yields wishExec .database w w' x

theorem createList_known (hknown : w.known s = true) :
    wishExec (.createList s languageId) w = .ok (w.withList s,
      (w.withList s).listWithItems languageId (newList s w.now w.wishlists.next)) := by
  simp only [wishExec, hknown, if_true]
  rfl

theorem createList_unknown (hknown : w.known s = false) :
    wishExec (.createList s languageId) w = .error .database := by
  simp only [wishExec, hknown, Bool.false_eq_true, if_false]

/-- The shopper's list as it is found, with its items. -/
structure Found (w w' : WishWorld) (s : Shopper) (languageId : Option Nat)
    (list : WishlistWithItems) : Prop where
  sound : Sound w'
  same : wishes w' = wishes w
  newest : w'.newestList s = some list.list
  shown : list = w'.listWithItems languageId list.list

/-- What `resolveWishlist` ends in. -/
inductive Resolved (w : WishWorld) (s : Shopper) (create : Bool) (languageId : Option Nat) :
    WishWorld → Except WishFailure (Option WishlistWithItems) → Prop
  | found
      {w' : WishWorld} {list : WishlistWithItems}
      (hknown : w.known s = true)
      (hfound : Found w w' s languageId list) :
      Resolved w s create languageId w' (.ok (some list))
  | missing
      (hcreate : create = false)
      (hnone : w.newestList s = none) :
      Resolved w s create languageId w (.ok none)
  | refused
      (hcreate : create = true)
      (hknown : w.known s = false) :
      Resolved w s create languageId w (.error .database)

theorem yields_resolveWishlist
    {x : Except WishFailure (Option WishlistWithItems)}
    (hw : Sound w)
    (h : WishYields (resolveWishlist s create languageId) w w' x) :
    Resolved w s create languageId w' x := by
  unfold resolveWishlist at h
  rw [bind_eq_bind] at h
  have h := (yields_await_bind rfl).mp h
  cases hnewest : w.newestList s with
  | some l =>
      simp only [hnewest, Option.map_some, Option.isSome_some, Bool.true_or, if_true] at h
      obtain ⟨rfl, rfl⟩ := h
      obtain ⟨hl, howns, -⟩ := newestList_live hnewest
      exact .found (hw.known l hl s howns) ⟨hw, rfl, hnewest, rfl⟩
  | none =>
      cases create with
      | false =>
          simp only [hnewest, Option.map_none, Option.isSome_none, Bool.not_false, Bool.or_true,
            if_true] at h
          obtain ⟨rfl, rfl⟩ := h
          exact .missing rfl hnewest
      | true =>
          simp only [hnewest, Option.map_none, Option.isSome_none, Bool.not_true, Bool.or_false,
            Bool.false_eq_true, if_false] at h
          rw [bind_eq_bind] at h
          cases hknown : w.known s with
          | true =>
              obtain ⟨rfl, rfl⟩ := (yields_await_bind (createList_known hknown)).mp h
              exact .found hknown ⟨hw.withList hknown hnewest, wishes_withList hw hknown hnewest,
                newestList_withList hw hknown hnewest, rfl⟩
          | false =>
              obtain ⟨rfl, rfl⟩ := (yields_await_bind_error (createList_unknown hknown)).mp h
              exact .refused rfl hknown

/-- The actor of a request is its shopper. -/
theorem resolveWishlistByActor_resolveActor :
    resolveWishlistByActor (resolveActor who).1 (resolveActor who).2 create languageId =
      match shopperOf who with
      | some (.user userId) =>
          (await (.findUserById userId : WishStmt) : WishService (Option Nat)).bind fun user =>
            match user with
            | none => raise .forbidden
            | some id => resolveWishlist (.user id) create languageId
      | some (.guest sessionId) => resolveWishlist (.guest sessionId) create languageId
      | none => ret none := by
  unfold resolveWishlistByActor resolveActor shopperOf
  cases who.user.filter fun n => decide (n ≠ 0) with
  | some userId =>
      cases truthy who.guestSessionId <;>
      · simp only [bind_eq_bind]
        congr 1
        funext user
        cases user <;> rfl
  | none =>
      simp only [Option.isSome_none, Bool.false_eq_true, if_false]
      cases truthy who.guestSessionId with
      | some sessionId =>
          rfl
      | none =>
          rfl

/-- What a handler finds out about its actor. -/
inductive ActorResolved (w : WishWorld) (s : Shopper) (create : Bool) (languageId : Option Nat) :
    WishWorld → Except WishFailure (Option WishlistWithItems) → Prop
  | resolved
      {w' : WishWorld} {x : Except WishFailure (Option WishlistWithItems)}
      (huser : ∀ id, s = .user id → w.known s = true)
      (h : Resolved w s create languageId w' x) :
      ActorResolved w s create languageId w' x
  | unknown
      {id : Nat}
      (hs : s = .user id)
      (hknown : w.known s = false) :
      ActorResolved w s create languageId w (.error .forbidden)

theorem yields_resolveWishlistByActor
    {x : Except WishFailure (Option WishlistWithItems)}
    (hw : Sound w)
    (hs : shopperOf who = some s)
    (h : WishYields (resolveWishlistByActor (resolveActor who).1 (resolveActor who).2 create
      languageId) w w' x) :
    ActorResolved w s create languageId w' x := by
  rw [resolveWishlistByActor_resolveActor, hs] at h
  cases s with
  | user userId =>
      have h := (yields_await_bind rfl).mp h
      split_ifs at h with hmem
      · have hknown : w.known (.user userId) = true := decide_eq_true hmem
        exact .resolved (fun _ _ => hknown) (yields_resolveWishlist hw h)
      · obtain ⟨rfl, rfl⟩ := h
        exact .unknown rfl (decide_eq_false hmem)
  | guest sessionId =>
      refine .resolved (fun id hid => ?_) (yields_resolveWishlist hw h)
      cases hid

/-- The list that is found shows what the map says. -/
theorem Found.shows {list : WishlistWithItems} (h : Found w w' s languageId list) :
    Shows list ((wishes w).listed s) := by
  have hperm := perm_orderBy (fun i i' : WishlistItemRow => decide (i'.addedAt < i.addedAt))
    (w'.itemsOfList list.list.id)
  have hitems : list.items.map (fun r => r.item) =
      orderBy (fun i i' => decide (i'.addedAt < i.addedAt)) (w'.itemsOfList list.list.id) := by
    rw [h.shown, WishWorld.listWithItems, List.map_map]
    exact List.map_id _
  have hnodup : ((w'.itemsOfList list.list.id).map fun i => i.id).Nodup :=
    w'.items.nodup.sublist (List.filter_sublist.map _)
  refine ⟨?_, fun k v => ?_, ?_⟩
  · have hids : (list.items.map fun r => r.item.id) =
        (list.items.map fun r => r.item).map fun i => i.id := by
      rw [List.map_map]
      rfl
    rw [hids, hitems]
    exact ((hperm.map _).nodup_iff).mpr hnodup
  · rw [← h.same, wishes_listed h.newest]
    have hmem : ∀ i, (∃ r, r ∈ list.items ∧ r.item = i) ↔
        i ∈ w'.items.rows ∧ i.wishlistId = list.list.id := by
      intro i
      rw [← List.mem_map (f := fun r : WishItemRow => r.item), hitems, hperm.mem_iff]
      simp [WishWorld.itemsOfList, Table.filter]
    simp only [WishWorld.entry, Option.map_eq_some_iff, Option.filter_eq_some_iff,
      decide_eq_true_eq]
    constructor
    · rintro ⟨r, hr, rfl, rfl⟩
      obtain ⟨hi, hlist⟩ := (hmem r.item).mp ⟨r, hr, rfl⟩
      exact ⟨r.item, ⟨Table.find_of_mem hi, hlist⟩, rfl⟩
    · rintro ⟨i, ⟨hi, hlist⟩, rfl⟩
      obtain ⟨r, hr, rfl⟩ := (hmem i).mpr ⟨Table.find_mem hi, hlist⟩
      exact ⟨r, hr, Table.find_key hi, rfl⟩
  · rw [← List.pairwise_map (f := fun r : WishItemRow => r.item)
      (R := fun i i' => i'.addedAt ≤ i.addedAt), hitems]
    exact pairwise_orderBy_desc (fun i : WishlistItemRow => i.addedAt) _

/-- What `getWishlist` ends in. -/
inductive Got (w : WishWorld) (s : Shopper) (languageId : Option Nat) :
    WishWorld → Except WishFailure WishlistWithItems → Prop
  | found
      {w' : WishWorld} {list : WishlistWithItems}
      (hknown : w.known s = true)
      (hfound : Found w w' s languageId list) :
      Got w s languageId w' (.ok list)
  | unknownUser
      {id : Nat}
      (hs : s = .user id)
      (hknown : w.known s = false) :
      Got w s languageId w (.error .forbidden)
  | unknownGuest (hknown : w.known s = false) :
      Got w s languageId w (.error .database)

theorem yields_getWishlist
    {x : Except WishFailure WishlistWithItems}
    (hw : Sound w)
    (hs : shopperOf who = some s)
    (h : WishYields (getWishlist (resolveActor who).1 (resolveActor who).2 languageId) w w' x) :
    Got w s languageId w' x := by
  rcases yields_bind.mp h with ⟨v, found, hcall, hrest⟩ | ⟨e, hcall, rfl⟩
  · cases yields_resolveWishlistByActor hw hs hcall with
    | resolved huser hresolved =>
        cases hresolved with
        | found hknown hfound =>
            obtain ⟨rfl, rfl⟩ := hrest
            exact .found hknown hfound
        | missing hcreate hnone =>
            cases hcreate
  · cases yields_resolveWishlistByActor hw hs hcall with
    | resolved huser hresolved =>
        cases hresolved with
        | refused hcreate hknown =>
            exact .unknownGuest hknown
    | unknown hs hknown =>
        exact .unknownUser hs hknown

/-! ### Requests -/

/-- The item that is found is one of the list with the variant. -/
theorem entry_of_findFirst {i : WishlistItemRow} {v : Nat}
    (h : w.items.findFirst (WishWorld.pair l.id v) = some i) :
    w.entry l i.id = some v ∧ i.bookVariantId = v := by
  obtain ⟨hi, hpair⟩ := Table.findFirst_eq_some h
  obtain ⟨hlist, hv⟩ := Bool.and_eq_true_iff.mp hpair
  have hfind : w.items.find i.id = some i := Table.find_of_mem hi
  refine ⟨?_, of_decide_eq_true hv⟩
  simp only [WishWorld.entry, hfind, Option.filter_some, hlist, if_true, Option.map_some]
  exact congrArg some (of_decide_eq_true hv)

/-- No item of the list has the variant. -/
theorem any_pair_eq_false {v : Nat} (h : w.items.findFirst (WishWorld.pair l.id v) = none) :
    w.items.rows.any (WishWorld.pair l.id v) = false := by
  rw [Table.findFirst, List.find?_eq_none] at h
  rw [List.any_eq_false]
  exact h

theorem entry_ne_of_findFirst {v : Nat}
    (h : w.items.findFirst (WishWorld.pair l.id v) = none) (k : Nat) :
    w.entry l k ≠ some v := by
  intro hentry
  simp only [WishWorld.entry, Option.map_eq_some_iff, Option.filter_eq_some_iff] at hentry
  obtain ⟨i, ⟨hi, hlist⟩, hv⟩ := hentry
  have hany := List.any_eq_false.mp (any_pair_eq_false h) i (Table.find_mem hi)
  simp only [WishWorld.pair, hlist, hv, decide_true, Bool.and_self, not_true] at hany

theorem createItem_stocked {v : Nat}
    (hl : l ∈ w.wishlists.rows) (hstocked : w.stocked v = true)
    (hnew : w.items.rows.any (WishWorld.pair l.id v) = false) :
    wishExec (.createByWishlistIdAndBookVariantId l.id v) w =
      .ok (w.withItem l v, ⟨⟨w.items.next, l.id, v⟩, w.now⟩) := by
  have hfind : w.wishlists.find l.id = some l := Table.find_of_mem hl
  simp only [wishExec, hfind, hstocked, hnew, Option.isNone_some, Bool.not_true, Bool.or_self,
    Bool.false_eq_true, if_false]
  rfl

theorem createItem_notStocked {v : Nat} (hstocked : w.stocked v = false) :
    wishExec (.createByWishlistIdAndBookVariantId l.id v) w = .error .database := by
  simp [wishExec, hstocked]

section Refined

variable {x : Except WishFailure WishAnswer} (hw : Sound w) (hs : shopperOf who = some s)

include hw hs

theorem getWish_refines
    (h : WishYields (WishRequest.getWish.handler who languageId) w w' x) :
    Sound w' ∧ (wishes w).Answers s .getWish (wishes w') x := by
  rcases yields_bind.mp h with ⟨v, list, hcall, hrest⟩ | ⟨e, hcall, rfl⟩
  · obtain ⟨rfl, rfl⟩ := hrest
    cases yields_getWishlist hw hs hcall with
    | found hknown hfound =>
        refine ⟨hfound.sound, ?_⟩
        rw [hfound.same]
        exact .shown hknown hfound.shows
  · cases yields_getWishlist hw hs hcall with
    | unknownUser hs hknown =>
        exact ⟨hw, .unknownUser hs hknown⟩
    | unknownGuest hknown =>
        exact ⟨hw, .unknownGuest (.inl rfl) hknown⟩

theorem addWishItem_refines
    {body : AddWishItemRequestDto}
    (h : WishYields ((WishRequest.addWish body).handler who languageId) w w' x) :
    Sound w' ∧ (wishes w).Answers s (.addWish body) (wishes w') x := by
  rcases yields_bind.mp h with ⟨v, list, hcall, hrest⟩ | ⟨e, hcall, rfl⟩
  · cases yields_getWishlist hw hs hcall with
    | found hknown hfound =>
        have hlisted := wishes_listed hfound.newest
        rw [hfound.same] at hlisted
        have hrest := (yields_await_bind rfl).mp hrest
        cases hexisted : v.items.findFirst (WishWorld.pair list.list.id body.bookVariantId) with
        | some existed =>
            rw [hexisted] at hrest
            obtain ⟨rfl, rfl⟩ := hrest
            obtain ⟨hentry, hv⟩ := entry_of_findFirst hexisted
            refine ⟨hfound.sound, ?_⟩
            rw [hfound.same, WishlistItemRow.toDto, hv]
            exact .again hknown (by rw [hlisted, hentry])
        | none =>
            rw [hexisted] at hrest
            have hnew : ∀ k, (wishes w).listed s k ≠ some body.bookVariantId := by
              intro k
              rw [hlisted]
              exact entry_ne_of_findFirst hexisted k
            have hl := (newestList_live hfound.newest).1
            have hsame : v.stocked = w.stocked := congrArg Wishes.stocked hfound.same
            have hnext : v.items.next = w.items.next := congrArg Wishes.next hfound.same
            cases hstocked : v.stocked body.bookVariantId with
            | true =>
                obtain ⟨rfl, rfl⟩ := (yields_await_bind (createItem_stocked hl hstocked
                  (any_pair_eq_false hexisted))).mp hrest
                refine ⟨hfound.sound.withItem hl _, ?_⟩
                rw [wishes_withItem hfound.sound hfound.newest, hfound.same]
                rw [hsame] at hstocked
                rw [hnext]
                exact .added hknown hstocked hnew
            | false =>
                obtain ⟨rfl, rfl⟩ :=
                  (yields_await_bind_error (createItem_notStocked hstocked)).mp hrest
                refine ⟨hfound.sound, ?_⟩
                rw [hfound.same]
                rw [hsame] at hstocked
                exact .notStocked hknown hstocked hnew
  · cases yields_getWishlist hw hs hcall with
    | unknownUser hs hknown =>
        exact ⟨hw, .unknownUser hs hknown⟩
    | unknownGuest hknown =>
        exact ⟨hw, .unknownGuest (.inr ⟨body, rfl⟩) hknown⟩

theorem deleteWishItem_refines
    {itemKey : Option Int}
    (h : WishYields ((WishRequest.deleteWishItem itemKey).handler who languageId) w w' x) :
    Sound w' ∧ (wishes w).Answers s (.deleteWishItem itemKey) (wishes w') x := by
  rcases yields_bind.mp h with ⟨v, list, hcall, hrest⟩ | ⟨e, hcall, rfl⟩
  · cases yields_resolveWishlistByActor hw hs hcall with
    | resolved huser hresolved =>
        cases hresolved with
        | missing hcreate hnone =>
            obtain ⟨rfl, rfl⟩ := hrest
            refine ⟨hw, ?_⟩
            cases itemKey with
            | none =>
                exact .malformed huser
            | some itemKey =>
                refine .notFound huser fun k _ => ?_
                simp only [wishes, hnone, Option.bind_none]
        | found hknown hfound =>
            rename_i list
            cases itemKey with
            | none =>
                obtain ⟨rfl, rfl⟩ := (yields_await_bind_error rfl).mp hrest
                refine ⟨hfound.sound, ?_⟩
                rw [hfound.same]
                exact .malformed huser
            | some itemKey =>
                have hrest :=
                  (yields_await_bind (v := v.withoutItem list.list itemKey) rfl).mp hrest
                have hzero := deleted_eq_zero hfound.newest itemKey
                have hsound : Sound (v.withoutItem list.list itemKey) := hfound.sound.withoutItem _
                have hafter := wishes_withoutItem hfound.sound hfound.newest itemKey
                rw [hfound.same] at hzero hafter
                split_ifs at hrest with hdeleted
                · obtain ⟨rfl, rfl⟩ := hrest
                  have hnone := hzero.mp hdeleted
                  refine ⟨hsound, ?_⟩
                  have hkept : (fun k : Nat => if (k : Int) = itemKey then none
                      else (wishes w).listed s k) = (wishes w).listed s := by
                    funext k
                    split_ifs with hk
                    · exact (hnone k hk).symm
                    · rfl
                  rw [hafter, hkept, Function.update_eq_self]
                  exact .notFound huser hnone
                · obtain ⟨rfl, rfl⟩ := hrest
                  refine ⟨hsound, ?_⟩
                  rw [hzero] at hdeleted
                  push Not at hdeleted
                  obtain ⟨k, rfl, hk⟩ := hdeleted
                  have hremoved : (fun j : Nat => if (j : Int) = (k : Int) then none
                      else (wishes w).listed s j) =
                        Function.update ((wishes w).listed s) k none := by
                    funext j
                    simp only [Function.update_apply, Int.natCast_inj]
                  rw [hafter, hremoved]
                  exact .removed hknown (Option.isSome_iff_ne_none.mpr hk)
  · cases yields_resolveWishlistByActor hw hs hcall with
    | resolved huser hresolved =>
        cases hresolved with
        | refused hcreate hknown =>
            cases hcreate
    | unknown hs hknown =>
        exact ⟨hw, .unknownUser hs hknown⟩

theorem deleteWishlist_refines
    (h : WishYields (WishRequest.deleteWish.handler who languageId) w w' x) :
    Sound w' ∧ (wishes w).Answers s .deleteWish (wishes w') x := by
  rcases yields_bind.mp h with ⟨v, list, hcall, hrest⟩ | ⟨e, hcall, rfl⟩
  · cases yields_resolveWishlistByActor hw hs hcall with
    | resolved huser hresolved =>
        cases hresolved with
        | missing hcreate hnone =>
            obtain ⟨rfl, rfl⟩ := hrest
            refine ⟨hw, ?_⟩
            have hempty : (wishes w').listed s = fun _ => none := by
              funext k
              simp only [wishes, hnone, Option.bind_none]
            have hcleared : (wishes w').clear s = wishes w' := by
              rw [Wishes.clear, ← hempty, Function.update_eq_self]
            have hanswer : (wishes w').Answers s .deleteWish ((wishes w').clear s) (.ok .success) :=
              .cleared huser
            rwa [hcleared] at hanswer
        | found hknown hfound =>
            rename_i list
            have hl := (newestList_live hfound.newest).1
            have hfind : v.wishlists.find list.list.id = some list.list := Table.find_of_mem hl
            have hexec : wishExec (.softDeleteById list.list.id) v = .ok (v.withoutList list.list,
                { list.list with updatedAt := v.now, deleteAt := some v.now }) := by
              simp only [wishExec, hfind]
              rfl
            obtain ⟨rfl, rfl⟩ := (yields_await_bind hexec).mp hrest
            refine ⟨hfound.sound.withoutList hfound.newest, ?_⟩
            rw [wishes_withoutList hfound.sound hfound.newest, hfound.same]
            exact .cleared huser
  · cases yields_resolveWishlistByActor hw hs hcall with
    | resolved huser hresolved =>
        cases hresolved with
        | refused hcreate hknown =>
            cases hcreate
    | unknown hs hknown =>
        exact ⟨hw, .unknownUser hs hknown⟩

end Refined

/-- A request without a shopper leaves everything as it is. -/
theorem nobody_refines
    {r : WishRequest} {x : Except WishFailure WishAnswer}
    (hs : shopperOf who = none)
    (h : WishYields (r.handler who languageId) w w' x) :
    w' = w ∧ AnswersNobody r x := by
  have hactor : ∀ create, resolveWishlistByActor (resolveActor who).1 (resolveActor who).2 create
      languageId = ret none := by
    intro create
    rw [resolveWishlistByActor_resolveActor, hs]
  cases r with
  | getWish =>
      simp only [WishRequest.handler, getWishlist, hactor] at h
      exact h
  | addWish body =>
      simp only [WishRequest.handler, addWishItem, getWishlist, hactor] at h
      exact h
  | deleteWishItem itemKey =>
      simp only [WishRequest.handler, Wish.deleteWishItem, hactor] at h
      exact h
  | deleteWish =>
      simp only [WishRequest.handler, deleteWishlist, hactor] at h
      exact h

end Calls

/-! ### Runs -/

/-- **One step** -/
theorem wishStep_refines
    {w w' : WishWorld} {entry : WishEntry}
    (hw : Sound w)
    (h : wishStep w entry w') :
    Sound w' ∧ (wishes w).Step entry (wishes w') := by
  cases entry with
  | call who languageId r x =>
      cases hs : shopperOf who with
      | none =>
          obtain ⟨rfl, hanswer⟩ := nobody_refines hs h
          refine ⟨hw, ?_⟩
          simp only [Wishes.Step, hs]
          exact ⟨trivial, hanswer⟩
      | some s =>
          simp only [Wishes.Step, hs]
          cases r with
          | getWish =>
              exact getWish_refines hw hs h
          | addWish body =>
              exact addWishItem_refines hw hs h
          | deleteWishItem itemKey =>
              exact deleteWishItem_refines hw hs h
          | deleteWish =>
              exact deleteWishlist_refines hw hs h
  | elsewhere shop listKeys itemKeys ms =>
      obtain ⟨hgrows, rfl⟩ := h
      exact ⟨⟨hw.oneList, hw.oneOwner, fun l hl s hs => hgrows.known s (hw.known l hl s hs),
        fun i hi => Nat.lt_add_right listKeys (hw.inLists i hi)⟩, rfl, rfl, hgrows.known,
        hgrows.stocked⟩

/--
Requests that are handled one after another, with anything else in between, leave the tables
sound, and are answered as the maps say that the tables stand for.
-/
theorem wishlists_refine
    {w w' : WishWorld} {entries : List WishEntry}
    (hw : Sound w)
    (h : Serves wishStep w entries w') :
    Sound w' ∧ Serves Wishes.Step (wishes w) entries (wishes w') := by
  have hstep : ∀ v entry v' m, (Sound v ∧ m = wishes v) → wishStep v entry v' →
      ∃ m', Wishes.Step m entry m' ∧ (Sound v' ∧ m' = wishes v') := by
    rintro v entry v' m ⟨hv, rfl⟩ hstep
    obtain ⟨hv', hstep'⟩ := wishStep_refines hv hstep
    exact ⟨wishes v', hstep', hv', rfl⟩
  obtain ⟨m', hserves, hw', rfl⟩ :=
    h.simulates (R := fun v m => Sound v ∧ m = wishes v) hstep ⟨hw, rfl⟩
  exact ⟨hw', hserves⟩

/-- A shop with one book, and no wishlists. -/
def sampleWishes : WishWorld where
  shop := { sampleVisitors with
    variants := [⟨⟨1, 1, .paperback, "9780306406157", some 100000, 10, 10, true, 0, 1⟩, "VND"⟩] }
  wishlists := .empty
  items := .empty
  now := 0

theorem sampleWishes_sound : Sound sampleWishes where
  oneList _ := Nat.zero_le 1
  oneOwner _ hl := absurd hl List.not_mem_nil
  known _ hl := absurd hl List.not_mem_nil
  inLists _ hi := absurd hi List.not_mem_nil

/-- A user adds a variant twice, deletes the item and adds it once more. -/
def sampleWishEntries : List WishEntry :=
  let user : Requester := ⟨some 1, none⟩
  [.call user none (.addWish ⟨1, le_rfl⟩) (.ok (.added true ⟨"1", 1⟩)),
    .call user none (.addWish ⟨1, le_rfl⟩) (.ok (.added false ⟨"1", 1⟩)),
    .call user none (.deleteWishItem (some 1)) (.ok .success),
    .call user none (.addWish ⟨1, le_rfl⟩) (.ok (.added true ⟨"2", 1⟩))]

/-- A request that is answered so by itself. -/
def wishAlone (w : WishWorld) : WishEntry → Option WishWorld
  | .call who languageId r x =>
      ((r.handler who languageId).alone wishExec .database w).bind fun done =>
        if done.2 = x then some done.1 else none
  | .elsewhere _ _ _ _ => none

theorem wishStep_of_wishAlone
    {w w' : WishWorld} {entry : WishEntry} (h : wishAlone w entry = some w') :
    wishStep w entry w' := by
  cases entry with
  | call who languageId r x =>
      obtain ⟨⟨v, y⟩, halone, hdone⟩ := Option.bind_eq_some_iff.mp h
      dsimp only at hdone
      split_ifs at hdone with hx
      cases hdone
      exact hx ▸ yields_of_alone halone
  | elsewhere shop listKeys itemKeys ms =>
      cases h

theorem wishlists_refine_sampleWishes :
    ∃ w', Serves wishStep sampleWishes sampleWishEntries w' ∧
      Serves Wishes.Step (wishes sampleWishes) sampleWishEntries (wishes w') := by
  have hruns : (runs wishAlone sampleWishes sampleWishEntries).isSome = true := by
    decide +kernel
  obtain ⟨w', hruns⟩ := Option.isSome_iff_exists.mp hruns
  have hserves := serves_of_runs (fun _ _ _ => wishStep_of_wishAlone) hruns
  exact ⟨w', hserves, (wishlists_refine sampleWishes_sound hserves).2⟩

end Wish
end BookStore
