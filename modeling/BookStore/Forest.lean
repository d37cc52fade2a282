import BookStore.Traversals
import Mathlib.Data.List.Flatten
import Mathlib.Data.List.Nodup
import Mathlib.Data.List.Perm.Subperm

/-!
# Forests from parent links

Nodes have keys, and each names a parent or none.  `grow` builds the trees below a list of
nodes, for a bounded depth.

* `Level n a`: the chain of parents of `a` has `n` links and ends at a node without parent.
* `Rooted`: there is such a chain.
* `exists_grow_roots`: from the nodes without parent the whole forest is built within a depth
  that the number of nodes bounds, with every rooted node once, below its parent.

Links may be missing or run in a cycle: no rooted node is on one.
-/

namespace BookStore
namespace Forest

inductive Tree (α : Type) : Type
  | node (value : α) (children : List (Tree α))

variable {α κ : Type}

namespace Tree

def value : Tree α → α
  | node a _ => a

def children : Tree α → List (Tree α)
  | node _ ts => ts

end Tree

mutual

/-- A tree and all trees below it -/
def subtrees : Tree α → List (Tree α)
  | .node a ts => .node a ts :: subtreesOf ts

/-- The trees of a forest and all trees below them -/
def subtreesOf : List (Tree α) → List (Tree α)
  | [] => []
  | t :: ts => subtrees t ++ subtreesOf ts

end

/-- The nodes of a forest -/
def values (ts : List (Tree α)) : List α :=
  (subtreesOf ts).map Tree.value

section Links

variable (key : α → κ) (parent : α → Option κ) (nodes : List α)

/-- The chain of parents has this length, within the nodes, and ends at one without parent. -/
inductive Level : Nat → α → Prop
  | root
      {a : α}
      (hmem : a ∈ nodes)
      (hparent : parent a = none) :
      Level 0 a
  | child
      {n : Nat} {a b : α}
      (hmem : a ∈ nodes)
      (hparent : parent a = some (key b))
      (habove : Level n b) :
      Level (n + 1) a

def Rooted (a : α) : Prop :=
  ∃ n, Level key parent nodes n a

/-- `d` links up from `x` is `a`. -/
inductive Above (a : α) : Nat → α → Prop
  | refl :
      Above a 0 a
  | step
      {d : Nat} {b x : α}
      (hmem : x ∈ nodes)
      (hparent : parent x = some (key b))
      (hb : b ∈ nodes)
      (habove : Above a d b) :
      Above a (d + 1) x

end Links

section Growth

variable [DecidableEq κ] (key : α → κ) (parent : α → Option κ)
variable (arrange : List α → List α) (nodes : List α)

def childrenOf (k : κ) : List α :=
  nodes.filter fun a => decide (parent a = some k)

def roots : List α :=
  nodes.filter fun a => decide (parent a = none)

/-- The trees below a list of nodes, in their arrangement, if the depth is enough -/
def grow : Nat → List α → Option (List (Tree α))
  | 0, _ => none
  | depth + 1, l =>
      (arrange l).mapM fun a =>
        (grow depth (childrenOf parent nodes (key a))).map (.node a)

end Growth

/-! ### Subtrees -/

@[simp] theorem subtreesOf_cons (t : Tree α) (ts : List (Tree α)) :
    subtreesOf (t :: ts) = subtrees t ++ subtreesOf ts := rfl

theorem subtrees_eq (t : Tree α) : subtrees t = t :: subtreesOf t.children := by
  cases t
  rfl

theorem subtreesOf_eq_flatMap (ts : List (Tree α)) : subtreesOf ts = ts.flatMap subtrees := by
  induction ts with
  | nil =>
      rfl
  | cons t ts ih =>
      rw [subtreesOf_cons, ih, List.flatMap_cons]

theorem mem_subtreesOf {s : Tree α} {ts : List (Tree α)} :
    s ∈ subtreesOf ts ↔ ∃ t, t ∈ ts ∧ (s = t ∨ s ∈ subtreesOf t.children) := by
  rw [subtreesOf_eq_flatMap, List.mem_flatMap]
  refine exists_congr fun t => and_congr_right fun _ => ?_
  rw [subtrees_eq, List.mem_cons]

theorem mem_values {x : α} {ts : List (Tree α)} :
    x ∈ values ts ↔ ∃ t, t ∈ ts ∧ (x = t.value ∨ x ∈ values t.children) := by
  constructor
  · intro h
    obtain ⟨s, hs, rfl⟩ := List.mem_map.mp h
    obtain ⟨t, ht, rfl | hs⟩ := mem_subtreesOf.mp hs
    · exact ⟨s, ht, .inl rfl⟩
    · exact ⟨t, ht, .inr (List.mem_map_of_mem hs)⟩
  · rintro ⟨t, ht, rfl | h⟩
    · exact List.mem_map_of_mem (mem_subtreesOf.mpr ⟨t, ht, .inl rfl⟩)
    · obtain ⟨s, hs, rfl⟩ := List.mem_map.mp h
      exact List.mem_map_of_mem (mem_subtreesOf.mpr ⟨t, ht, .inr hs⟩)

theorem values_eq_flatMap (ts : List (Tree α)) :
    values ts = ts.flatMap fun t => t.value :: values t.children := by
  rw [values, subtreesOf_eq_flatMap, List.map_flatMap]
  refine List.flatMap_congr fun t _ => ?_
  rw [subtrees_eq, List.map_cons, values]

/-! ### Levels -/

section Levels

variable {key : α → κ} {parent : α → Option κ} {nodes : List α} {m n d d' : Nat} {a a' b x : α}

theorem Level.mem (h : Level key parent nodes n a) : a ∈ nodes := by
  cases h with
  | root hmem _ =>
      exact hmem
  | child hmem _ _ =>
      exact hmem

theorem eq_of_key (hkeys : (nodes.map key).Nodup) (ha : a ∈ nodes) (hb : b ∈ nodes)
    (h : key a = key b) : a = b :=
  List.inj_on_of_nodup_map hkeys ha hb h

theorem Level.unique
    (hkeys : (nodes.map key).Nodup)
    (hm : Level key parent nodes m a) (hn : Level key parent nodes n a) : m = n := by
  induction hm generalizing n with
  | root _ hparent =>
      cases hn with
      | root _ _ =>
          rfl
      | child _ hparent' _ =>
          rw [hparent] at hparent'
          cases hparent'
  | child _ hparent habove ih =>
      cases hn with
      | root _ hparent' =>
          rw [hparent] at hparent'
          cases hparent'
      | child _ hparent' habove' =>
          have hkey := Option.some.inj (hparent.symm.trans hparent')
          cases eq_of_key hkeys habove.mem habove'.mem hkey
          exact congrArg (· + 1) (ih habove')

/-- The nodes of the chain are different, one for each level. -/
theorem Level.chain
    (hkeys : (nodes.map key).Nodup) (h : Level key parent nodes n a) :
    ∃ path : List α, path.length = n + 1 ∧ path.Nodup ∧
      ∀ b, b ∈ path → ∃ m, m ≤ n ∧ Level key parent nodes m b := by
  induction h with
  | @root a hmem hparent =>
      refine ⟨[a], rfl, List.nodup_singleton _, fun b hb => ⟨0, Nat.le_refl 0, ?_⟩⟩
      rw [List.mem_singleton.mp hb]
      exact .root hmem hparent
  | @child n a b hmem hparent habove ih =>
      obtain ⟨path, hlength, hnodup, hlevels⟩ := ih
      have hlevel : Level key parent nodes (n + 1) a := .child hmem hparent habove
      refine ⟨a :: path, by rw [List.length_cons, hlength], List.nodup_cons.mpr ⟨?_, hnodup⟩, ?_⟩
      · intro ha
        obtain ⟨m, hm, hbelow⟩ := hlevels a ha
        have := hlevel.unique hkeys hbelow
        omega
      · intro c hc
        rcases List.mem_cons.mp hc with rfl | hc
        · exact ⟨n + 1, Nat.le_refl _, hlevel⟩
        · obtain ⟨m, hm, hbelow⟩ := hlevels c hc
          exact ⟨m, by omega, hbelow⟩

theorem Level.lt_length
    (hkeys : (nodes.map key).Nodup) (h : Level key parent nodes n a) : n < nodes.length := by
  obtain ⟨path, hlength, hnodup, hlevels⟩ := h.chain hkeys
  have hsubset : path ⊆ nodes := fun b hb => (hlevels b hb).elim fun _ hlevel => hlevel.2.mem
  have := (hnodup.subperm hsubset).length_le
  omega

theorem Above.unique
    (hkeys : (nodes.map key).Nodup)
    (h : Above key parent nodes a d x) (h' : Above key parent nodes a' d x) : a = a' := by
  induction h with
  | refl =>
      cases h'
      rfl
  | step _ hparent hb _ ih =>
      cases h' with
      | step _ hparent' hb' habove' =>
          have hkey := Option.some.inj (hparent.symm.trans hparent')
          cases eq_of_key hkeys hb hb' hkey
          exact ih habove'

/-- One link more at the upper end -/
theorem Above.child_above
    (hb : b ∈ nodes) (hparent : parent b = some (key a)) (ha : a ∈ nodes)
    (h : Above key parent nodes b d x) : Above key parent nodes a (d + 1) x := by
  induction h with
  | refl =>
      exact .step hb hparent ha .refl
  | step hmem hparent' hb' _ ih =>
      exact .step hmem hparent' hb' ih

theorem Above.level
    (h : Above key parent nodes a d x) (ha : Level key parent nodes n a) :
    Level key parent nodes (n + d) x := by
  induction h with
  | refl =>
      exact ha
  | step hmem hparent _ _ ih =>
      exact .child hmem hparent ih

end Levels

/-! ### Growth -/

section Grown

variable [DecidableEq κ] {key : α → κ} {parent : α → Option κ}
variable {arrange : List α → List α} {nodes : List α}
variable {n depth : Nat} {l : List α} {forest : List (Tree α)} {a x : α} {k : κ}

theorem mem_childrenOf : a ∈ childrenOf parent nodes k ↔ a ∈ nodes ∧ parent a = some k := by
  rw [childrenOf, List.mem_filter, decide_eq_true_eq]

omit [DecidableEq κ] in
theorem mem_roots : a ∈ roots parent nodes ↔ a ∈ nodes ∧ parent a = none := by
  rw [roots, List.mem_filter, decide_eq_true_eq]

theorem map_node_eq_some_iff {ts : Option (List (Tree α))} {t : Tree α} :
    ts.map (.node a) = some t ↔ t.value = a ∧ ts = some t.children := by
  obtain ⟨b, us⟩ := t
  rw [Option.map_eq_some_iff]
  constructor
  · rintro ⟨us', rfl, heq⟩
    cases heq
    exact ⟨rfl, rfl⟩
  · rintro ⟨rfl, rfl⟩
    exact ⟨us, rfl, rfl⟩

/-- A tree is grown for each node of the list. -/
theorem forall₂_of_grow
    (h : grow key parent arrange nodes (depth + 1) l = some forest) :
    List.Forall₂ (fun a t => t.value = a ∧
      grow key parent arrange nodes depth (childrenOf parent nodes (key a)) = some t.children)
      (arrange l) forest :=
  (mapM_eq_some_iff.mp h).imp fun _ _ => map_node_eq_some_iff.mp

theorem values_of_grow
    (h : grow key parent arrange nodes depth l = some forest) :
    forest.map Tree.value = arrange l := by
  cases depth with
  | zero =>
      cases h
  | succ depth =>
      have hvalues := map_eq_of_forall₂ (f := id) (forall₂_of_grow h) fun _ _ ht => ht.1
      rwa [List.map_id] at hvalues

/-- A tree of the forest is grown from its node. -/
theorem grow_of_mem
    (h : grow key parent arrange nodes (depth + 1) l = some forest)
    {t : Tree α} (ht : t ∈ forest) :
    t.value ∈ arrange l ∧
      grow key parent arrange nodes depth (childrenOf parent nodes (key t.value)) =
        some t.children := by
  obtain ⟨a, ha, rfl, hgrow⟩ := exists_of_forall₂ (forall₂_of_grow h).flip ht
  exact ⟨ha, hgrow⟩

/-- The children of a node are those that name it. -/
theorem children_of_grow
    (h : grow key parent arrange nodes depth l = some forest)
    {t : Tree α} (ht : t ∈ subtreesOf forest) :
    t.children.map Tree.value = arrange (childrenOf parent nodes (key t.value)) := by
  induction depth generalizing l forest with
  | zero =>
      cases h
  | succ depth ih =>
      obtain ⟨s, hs, rfl | ht⟩ := mem_subtreesOf.mp ht
      · exact values_of_grow (grow_of_mem h hs).2
      · exact ih (grow_of_mem h hs).2 ht

/-- The forest is closed under children. -/
theorem subtreesOf_children
    (h : grow key parent arrange nodes depth l = some forest)
    {t c : Tree α} (ht : t ∈ subtreesOf forest) (hc : c ∈ t.children) :
    c ∈ subtreesOf forest := by
  induction depth generalizing l forest with
  | zero =>
      cases h
  | succ depth ih =>
      obtain ⟨s, hs, rfl | ht⟩ := mem_subtreesOf.mp ht
      · exact mem_subtreesOf.mpr ⟨t, hs, .inr (mem_subtreesOf.mpr ⟨c, hc, .inl rfl⟩)⟩
      · exact mem_subtreesOf.mpr ⟨s, hs, .inr (ih (grow_of_mem h hs).2 ht)⟩

/-- More depth changes nothing. -/
theorem grow_mono
    (h : grow key parent arrange nodes depth l = some forest) :
    grow key parent arrange nodes (depth + 1) l = some forest := by
  induction depth generalizing l forest with
  | zero =>
      cases h
  | succ depth ih =>
      exact mapM_eq_some_iff.mpr ((forall₂_of_grow h).imp fun _ _ ht =>
        map_node_eq_some_iff.mpr ⟨ht.1, ih ht.2⟩)

theorem grow_of_le
    {depth' : Nat} (hle : depth ≤ depth')
    (h : grow key parent arrange nodes depth l = some forest) :
    grow key parent arrange nodes depth' l = some forest := by
  induction hle with
  | refl =>
      exact h
  | step _ ih =>
      exact grow_mono ih

section Arranged

variable (harrange : ∀ l, (arrange l).Perm l)
include harrange

/-- The number of nodes bounds the depth. -/
theorem grow_isSome
    (hkeys : (nodes.map key).Nodup)
    (hlevel : ∀ a, a ∈ l → Level key parent nodes n a)
    (hn : n ≤ nodes.length) (hdepth : nodes.length < depth + n) :
    (grow key parent arrange nodes depth l).isSome := by
  induction depth generalizing l n with
  | zero =>
      omega
  | succ depth ih =>
      refine isSome_mapM.mpr fun a ha => ?_
      have habove := hlevel a ((harrange l).mem_iff.mp ha)
      have hlt := habove.lt_length hkeys
      rw [Option.isSome_map]
      refine ih (n := n + 1) (fun b hb => ?_) hlt (by omega)
      obtain ⟨hmem, hparent⟩ := mem_childrenOf.mp hb
      exact .child hmem hparent habove

/-- A node is above what grows from it. -/
theorem above_of_grow
    (hl : ∀ a, a ∈ l → a ∈ nodes)
    (h : grow key parent arrange nodes depth l = some forest)
    {t : Tree α} (ht : t ∈ forest) (hx : x ∈ values t.children) :
    ∃ d, Above key parent nodes t.value (d + 1) x := by
  induction depth generalizing l forest t with
  | zero =>
      cases h
  | succ depth ih =>
      obtain ⟨ha, hchildren⟩ := grow_of_mem h ht
      have hmem := hl _ ((harrange l).mem_iff.mp ha)
      obtain ⟨c, hc, hx⟩ := mem_values.mp hx
      have hvalue : c.value ∈ childrenOf parent nodes (key t.value) := by
        rw [← (harrange _).mem_iff, ← values_of_grow hchildren]
        exact List.mem_map_of_mem hc
      obtain ⟨hcmem, hparent⟩ := mem_childrenOf.mp hvalue
      rcases hx with rfl | hx
      · exact ⟨0, .step hcmem hparent hmem .refl⟩
      · obtain ⟨d, habove⟩ := ih (fun b hb => (mem_childrenOf.mp hb).1) hchildren hc hx
        exact ⟨d + 1, habove.child_above hcmem hparent hmem⟩

/-- No node grows twice. -/
theorem nodup_values_of_grow
    (hkeys : (nodes.map key).Nodup)
    (hlevel : ∀ a, a ∈ l → Level key parent nodes n a) (hl : l.Nodup)
    (h : grow key parent arrange nodes depth l = some forest) :
    (values forest).Nodup := by
  induction depth generalizing l n forest with
  | zero =>
      cases h
  | succ depth ih =>
      have hmem : ∀ a, a ∈ l → a ∈ nodes := fun a ha => (hlevel a ha).mem
      have hvalue : ∀ t, t ∈ forest → Level key parent nodes n t.value := fun t ht =>
        hlevel _ ((harrange l).mem_iff.mp (grow_of_mem h ht).1)
      have hbelow : ∀ t x, t ∈ forest → x ∈ t.value :: values t.children →
          ∃ d, Above key parent nodes t.value d x := by
        intro t x ht hx
        rcases List.mem_cons.mp hx with rfl | hx
        · exact ⟨0, .refl⟩
        · exact (above_of_grow harrange hmem h ht hx).imp' (· + 1) fun _ habove => habove
      rw [values_eq_flatMap, List.nodup_flatMap]
      constructor
      · intro t ht
        refine List.nodup_cons.mpr ⟨fun hself => ?_, ?_⟩
        · obtain ⟨d, habove⟩ := above_of_grow harrange hmem h ht hself
          have := (hvalue t ht).unique hkeys (habove.level (hvalue t ht))
          omega
        · refine ih (n := n + 1) (fun b hb => ?_) ?_ (grow_of_mem h ht).2
          · obtain ⟨hmem, hparent⟩ := mem_childrenOf.mp hb
            exact .child hmem hparent (hvalue t ht)
          · exact hkeys.of_map.filter _
      · have hdistinct : (forest.map Tree.value).Nodup := by
          rw [values_of_grow h]
          exact (harrange l).nodup_iff.mpr hl
        refine (List.pairwise_map.mp hdistinct).imp_of_mem fun {t t'} ht ht' hne x hx hx' => hne ?_
        -- a node of both trees is as far below the one as below the other
        obtain ⟨d, habove⟩ := hbelow t x ht hx
        obtain ⟨d', habove'⟩ := hbelow t' x ht' hx'
        have hlevels := (habove.level (hvalue t ht)).unique hkeys (habove'.level (hvalue t' ht'))
        obtain rfl : d = d' := by omega
        exact habove.unique hkeys habove'

/-- What grows from the nodes without parent is rooted, and every rooted node grows. -/
theorem mem_values_grow_roots
    (h : grow key parent arrange nodes depth (roots parent nodes) = some forest) :
    x ∈ values forest ↔ Rooted key parent nodes x := by
  constructor
  · intro hx
    cases depth with
    | zero =>
        cases h
    | succ depth =>
        obtain ⟨t, ht, hx⟩ := mem_values.mp hx
        obtain ⟨hmem, hparent⟩ := mem_roots.mp ((harrange _).mem_iff.mp (grow_of_mem h ht).1)
        have hroot : Level key parent nodes 0 t.value := .root hmem hparent
        rcases hx with rfl | hx
        · exact ⟨0, hroot⟩
        · obtain ⟨d, habove⟩ := above_of_grow harrange (fun a ha => (mem_roots.mp ha).1) h ht hx
          exact ⟨_, habove.level hroot⟩
  · rintro ⟨n, hlevel⟩
    induction hlevel with
    | @root a hmem hparent =>
        have hvalue : a ∈ forest.map Tree.value := by
          rw [values_of_grow h]
          exact (harrange _).mem_iff.mpr (mem_roots.mpr ⟨hmem, hparent⟩)
        obtain ⟨t, ht, rfl⟩ := List.mem_map.mp hvalue
        exact mem_values.mpr ⟨t, ht, .inl rfl⟩
    | @child n a b hmem hparent _ ih =>
        obtain ⟨t, ht, rfl⟩ := List.mem_map.mp ih
        have hvalue : a ∈ t.children.map Tree.value := by
          rw [children_of_grow h ht]
          exact (harrange _).mem_iff.mpr (mem_childrenOf.mpr ⟨hmem, hparent⟩)
        obtain ⟨c, hc, rfl⟩ := List.mem_map.mp hvalue
        exact List.mem_map_of_mem (subtreesOf_children h ht hc)

/--
The forest that is built from the nodes without parent: a depth that the number of nodes
bounds is enough, it has every rooted node once, and the trees below a node are those of
the nodes that name it, in their arrangement.
-/
theorem exists_grow_roots (hkeys : (nodes.map key).Nodup) :
    ∃ forest,
      (∀ depth, nodes.length < depth →
        grow key parent arrange nodes depth (roots parent nodes) = some forest) ∧
      (∀ a, a ∈ values forest ↔ Rooted key parent nodes a) ∧
      (values forest).Nodup ∧
      forest.map Tree.value = arrange (roots parent nodes) ∧
      ∀ t, t ∈ subtreesOf forest →
        t.children.map Tree.value = arrange (childrenOf parent nodes (key t.value)) := by
  have hroots : ∀ a, a ∈ roots parent nodes → Level key parent nodes 0 a := fun a ha =>
    .root (mem_roots.mp ha).1 (mem_roots.mp ha).2
  obtain ⟨forest, h⟩ := Option.isSome_iff_exists.mp
    (grow_isSome harrange hkeys hroots (Nat.zero_le _) (Nat.lt_succ_self nodes.length))
  exact ⟨forest, fun depth hdepth => grow_of_le hdepth h, fun a => mem_values_grow_roots harrange h,
    nodup_values_of_grow harrange hkeys hroots (hkeys.of_map.filter _) h, values_of_grow h,
    fun t ht => children_of_grow h ht⟩

end Arranged

end Grown

end Forest
end BookStore
