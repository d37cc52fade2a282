import BookStore.AnyOrder
import Mathlib.Data.List.Range
import Mathlib.Data.List.Flatten

/-!
# Pages of a list

`page` cuts a list into parts of one length, and `pageCount` is how many of them a total asks
for.

* `flatMap_page`: the pages of one list together are its first part.
* `perm_pages_iff`: when each page is cut from the rows in an order of its own, the pages are
  sure to show some values once each only if they fit on one page.
-/

namespace BookStore
namespace Pages

variable {α β : Type}

/-- The page with this index, from 0 on -/
def page (limit i : Nat) (l : List α) : List α :=
  (l.drop (i * limit)).take limit

/-- `total > 0 ? Math.ceil(total / limit) : 0` -/
def pageCount (total limit : Nat) : Nat :=
  if 0 < total then (total + limit - 1) / limit else 0

/-- The rows of the first pages, each cut from the rows in its order -/
def shown (orders : Nat → Arrangement α) (n limit : Nat) (rows : List α) : List α :=
  (List.range n).flatMap fun i => page limit i ((orders i).rows rows)

section Pages

variable {limit total n i : Nat} {l : List α} {a : α}

theorem page_zero : page limit 0 l = l.take limit := by
  rw [page, Nat.zero_mul, List.drop_zero]

theorem flatMap_page : ((List.range n).flatMap fun i => page limit i l) = l.take (n * limit) := by
  induction n with
  | zero =>
      simp
  | succ n ih =>
      rw [List.range_succ, List.flatMap_append, ih, List.flatMap_singleton, page, Nat.succ_mul,
        List.take_add]

theorem mem_of_mem_page (h : a ∈ page limit i l) : a ∈ l :=
  List.mem_of_mem_drop (List.mem_of_mem_take h)

/-- Every element is on some page. -/
theorem exists_mem_page_iff (hlimit : 0 < limit) : (∃ i, a ∈ page limit i l) ↔ a ∈ l := by
  constructor
  · exact fun h => h.elim fun _ hmem => mem_of_mem_page hmem
  · intro h
    have hall : a ∈ l.take (l.length * limit) := by
      rwa [List.take_of_length_le (Nat.le_mul_of_pos_right _ hlimit)]
    rw [← flatMap_page, List.mem_flatMap] at hall
    exact hall.elim fun i hi => ⟨i, hi.2⟩

theorem pageCount_pos_iff (hlimit : 0 < limit) : 0 < pageCount total limit ↔ 0 < total := by
  rw [pageCount]
  split
  · rw [Nat.div_pos_iff]
    omega
  · omega

theorem pageCount_le_one_iff (hlimit : 0 < limit) : pageCount total limit ≤ 1 ↔ total ≤ limit := by
  rw [pageCount]
  split
  · rw [← Nat.lt_succ_iff, Nat.div_lt_iff_lt_mul hlimit]
    omega
  · omega

theorem le_pageCount_mul (hlimit : 0 < limit) : total ≤ pageCount total limit * limit := by
  rw [pageCount]
  split
  · have := Nat.div_add_mod (total + limit - 1) limit
    have := Nat.mod_lt (total + limit - 1) hlimit
    rw [Nat.mul_comm]
    omega
  · omega

end Pages

/-! ### Each page in an order of its own -/

section Unordered

variable {f : α → β} {rows : List α} {values : List β} {limit n : Nat}
variable {orders : Nat → Arrangement α}

theorem perm_headAt (k : Nat) (l : List α) :
    (l.tail.take k ++ l.head?.toList ++ l.tail.drop k).Perm l := by
  cases l with
  | nil =>
      simp
  | cons a l =>
      have hmiddle : (l.take k ++ a :: l.drop k).Perm (a :: (l.take k ++ l.drop k)) :=
        List.perm_middle
      simpa [List.take_append_drop] using hmiddle

/-- The first row is moved down to the place with this index. -/
def headAt (k : Nat) : Arrangement α where
  rows := fun l => l.tail.take k ++ l.head?.toList ++ l.tail.drop k
  perm := perm_headAt k

theorem headAt_cons (k : Nat) (a : α) (l : List α) :
    (headAt k).rows (a :: l) = l.take k ++ a :: l.drop k := by
  simp [headAt]

theorem shown_one : shown orders 1 limit rows = ((orders 0).rows rows).take limit := by
  rw [shown, List.range_one, List.flatMap_singleton, page_zero]

theorem shown_table : shown (fun _ => Arrangement.table) n limit rows = rows.take (n * limit) :=
  flatMap_page

/-- More rows than a page has: the page can be without the first row. -/
theorem length_le_of_one_page
    (hlimit : 0 < limit)
    (hrows : (rows.map f).Nodup)
    (h : ∀ orders, ((shown orders 1 limit rows).map f).Perm values) :
    rows.length ≤ limit := by
  by_contra hlong
  cases rows with
  | nil =>
      exact hlong (Nat.zero_le _)
  | cons a rest =>
      have hshown : f a ∈ values := by
        obtain ⟨k, rfl⟩ := Nat.exists_eq_succ_of_ne_zero hlimit.ne'
        rw [← (h fun _ => Arrangement.table).mem_iff, shown_one]
        exact List.mem_cons_self
      have hlast : limit ≤ rest.length := by
        rw [List.length_cons] at hlong
        omega
      have hlength : (rest.take limit).length = limit := by
        rw [List.length_take, Nat.min_eq_left hlast]
      rw [← (h fun _ => headAt limit).mem_iff, shown_one, headAt_cons,
        List.take_append_of_le_length hlength.ge, List.take_of_length_le hlength.le] at hshown
      rw [List.map_cons, List.nodup_cons] at hrows
      exact hrows.1 (List.map_subset f (List.take_subset limit rest) hshown)

/-- More rows than a page has: the first row can be on two pages. -/
theorem length_le_of_two_pages
    (hlimit : 0 < limit) (hn : 1 < n)
    (hvalues : values.Nodup)
    (h : ∀ orders, ((shown orders n limit rows).map f).Perm values) :
    rows.length ≤ limit := by
  by_contra hlong
  cases rows with
  | nil =>
      exact hlong (Nat.zero_le _)
  | cons a rest =>
      obtain ⟨m, rfl⟩ : ∃ m, n = 2 + m := ⟨n - 2, by omega⟩
      have hlast : limit ≤ rest.length := by
        rw [List.length_cons] at hlong
        omega
      have hlength : (rest.take limit).length = limit := by
        rw [List.length_take, Nat.min_eq_left hlast]
      let orders : Nat → Arrangement α := fun i => if i = 0 then .table else headAt limit
      have hnodup := (h orders).nodup_iff.mpr hvalues
      rw [shown, List.range_add, List.flatMap_append, List.map_append] at hnodup
      have htwo := (List.nodup_append.mp hnodup).1
      have hpages : (List.range 2).flatMap (fun i => page limit i ((orders i).rows (a :: rest))) =
          (a :: rest).take limit ++ ((a :: rest.drop limit).take limit) := by
        have hsecond : page limit 1 ((headAt limit).rows (a :: rest)) =
            (a :: rest.drop limit).take limit := by
          rw [headAt_cons, page, Nat.one_mul, List.drop_append_of_le_length hlength.ge,
            List.drop_of_length_le hlength.le, List.nil_append]
        rw [← hsecond, ← page_zero]
        simp [List.range_succ, orders, Arrangement.table]
      obtain ⟨k, rfl⟩ := Nat.exists_eq_succ_of_ne_zero hlimit.ne'
      rw [hpages, List.map_append, List.nodup_append] at htwo
      exact htwo.2.2 (f a) List.mem_cons_self (f a) List.mem_cons_self rfl

/-- All values are shown once, in every order, just if there are none or one page has them. -/
theorem perm_pages_iff
    (hlimit : 0 < limit)
    (hrows : (rows.map f).Nodup)
    (hvalues : values.Nodup) :
    (∀ orders, ((shown orders (pageCount values.length limit) limit rows).map f).Perm values) ↔
      values = [] ∨ values.length ≤ limit ∧ (rows.map f).Perm values := by
  constructor
  · intro h
    refine or_iff_not_imp_left.mpr fun hsome => ?_
    have hpos := (pageCount_pos_iff hlimit).mpr (List.length_pos_of_ne_nil hsome)
    have htable := h fun _ => .table
    rw [shown_table] at htable
    have hrest : rows.length ≤ limit := by
      by_cases hone : pageCount values.length limit ≤ 1
      · rw [Nat.le_antisymm hone hpos] at h
        exact length_le_of_one_page hlimit hrows h
      · exact length_le_of_two_pages hlimit (Nat.lt_of_not_le hone) hvalues h
    have hall : rows.length ≤ pageCount values.length limit * limit :=
      hrest.trans (Nat.le_mul_of_pos_left _ hpos)
    rw [List.take_of_length_le hall] at htable
    refine ⟨?_, htable⟩
    rw [← htable.length_eq, List.length_map]
    exact hrest
  · rintro (rfl | ⟨hshort, hperm⟩) orders
    · exact .refl _
    · have hone := (pageCount_le_one_iff hlimit).mpr hshort
      rcases Nat.le_one_iff_eq_zero_or_eq_one.mp hone with hn | hn
      · have hempty : values.length = 0 := by
          by_contra hne
          have := (pageCount_pos_iff hlimit).mpr (Nat.pos_of_ne_zero hne)
          omega
        rw [hn, List.length_eq_zero_iff.mp hempty]
        exact .refl _
      · have horder := (orders 0).perm rows
        have hlength : ((orders 0).rows rows).length ≤ limit := by
          rw [horder.length_eq, ← List.length_map f, hperm.length_eq]
          exact hshort
        rw [hn, shown_one, List.take_of_length_le hlength]
        exact (horder.map f).trans hperm

end Unordered

end Pages
end BookStore
