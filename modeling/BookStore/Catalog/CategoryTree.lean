import BookStore.Catalog.Tables
import BookStore.Forest
import BookStore.Maps
import Mathlib.Data.List.Sort

/-!
# The tree of the categories

`buildCatalogCategoryTree` puts the named categories into a map, appends each to the roots or
to the children of its parent, and sorts every list below the roots.

The recursion of `sortCategoryTree` over the links has no guard.  Here it has a depth, and a
depth above the number of rows is always enough: a category on a cycle is below no root.
-/

namespace BookStore

open Forest

/-- `CatalogCategoryTreeDto`, without its children -/
structure CategoryNode where
  id : Nat
  parentId : Option Nat
  name : String
  slug : Option String
  sortOrder : Int
  deriving DecidableEq, Repr

/-- The parent that is looked up: 0 is falsy. -/
def CategoryNode.parent (node : CategoryNode) : Option Nat :=
  node.parentId.filter fun id => decide (id ≠ 0)

/-- A category without a name in the language is left out. -/
def CategoryRow.node? (row : CategoryRow) : Option CategoryNode :=
  match row.categoryTranslation with
  | [] => none
  | translation :: _ =>
      if translation.name = "" then none
      else some
        { id := row.id
          parentId := row.parentId
          name := translation.name
          slug := translation.slug
          sortOrder := row.sortOrder }

/-- The categories that have a name in the language -/
def namedCategories (rows : List CategoryRow) : List CategoryNode :=
  rows.filterMap CategoryRow.node?

/-- The two lists that the links are written to -/
structure CategoryLinks where
  roots : List CategoryNode
  /-- `children`, by the id of the node -/
  children : List (Nat × List CategoryNode)

namespace CategoryLinks

def childrenOf (links : CategoryLinks) (id : Nat) : List CategoryNode :=
  (JsMap.get links.children id).getD []

/-- A node whose parent is not in the map is linked nowhere. -/
def link (nodes : List (Nat × CategoryNode)) (links : CategoryLinks) (node : CategoryNode) :
    CategoryLinks :=
  match node.parent with
  | none => { links with roots := links.roots ++ [node] }
  | some parentId =>
      match JsMap.get nodes parentId with
      | none => links
      | some _ =>
          { links with
            children := JsMap.set links.children parentId (links.childrenOf parentId ++ [node]) }

end CategoryLinks

/-- `a.sortOrder - b.sortOrder`, then `a.id - b.id` -/
def sortsBefore (a b : CategoryNode) : Bool :=
  decide (a.sortOrder < b.sortOrder) || decide (a.sortOrder = b.sortOrder) && decide (a.id < b.id)

def sortCategoryTree (links : CategoryLinks) :
    Nat → List CategoryNode → Option (List (Forest.Tree CategoryNode))
  | 0, _ => none
  | depth + 1, nodes =>
      (orderBy sortsBefore nodes).mapM fun node =>
        (sortCategoryTree links depth (links.childrenOf node.id)).map (.node node)

def linkCategories (nodes : List (Nat × CategoryNode)) : CategoryLinks :=
  (nodes.map Prod.snd).foldl (CategoryLinks.link nodes)
    { roots := [], children := nodes.map fun e => (e.1, []) }

/-- The tree, if the depth is enough for the recursion -/
def buildCatalogCategoryTree (depth : Nat) (rows : List CategoryRow) :
    Option (List (Forest.Tree CategoryNode)) :=
  let nodes := JsMap.ofEntries ((namedCategories rows).map fun node => (node.id, node))
  let links := linkCategories nodes
  sortCategoryTree links depth links.roots

/-- Ordered by `sortOrder`, then by the id -/
def CategoriesOrdered (l : List CategoryNode) : Prop :=
  l.Pairwise fun a b => a.sortOrder < b.sortOrder ∨ a.sortOrder = b.sortOrder ∧ a.id ≤ b.id

namespace CategoryTree

/-! ### The named categories -/

theorem id_of_node? {row : CategoryRow} {node : CategoryNode} (h : row.node? = some node) :
    node.id = row.id := by
  unfold CategoryRow.node? at h
  split at h
  · cases h
  · split at h
    · cases h
    · cases h
      rfl

theorem nodup_namedCategories
    {rows : List CategoryRow} (hids : (rows.map CategoryRow.id).Nodup) :
    ((namedCategories rows).map CategoryNode.id).Nodup := by
  refine List.pairwise_map.mpr ((List.pairwise_map.mp hids).filterMap _ ?_)
  intro row row' hne node hnode node' hnode'
  rwa [id_of_node? hnode, id_of_node? hnode']

/-! ### The links -/

section Links

variable {nodes : List (Nat × CategoryNode)} {links : CategoryLinks} {l : List CategoryNode}

/-- What the links are after the nodes of a list -/
structure Linked (nodes : List (Nat × CategoryNode)) (l : List CategoryNode)
    (links : CategoryLinks) : Prop where
  roots : links.roots = roots CategoryNode.parent l
  keys : (links.children.map Prod.fst).Nodup
  children : ∀ id, id ∈ nodes.map Prod.fst →
    links.childrenOf id = Forest.childrenOf CategoryNode.parent l id

theorem linked_nil (hnodes : (nodes.map Prod.fst).Nodup) :
    Linked nodes [] { roots := [], children := nodes.map fun e => (e.1, []) } where
  roots := rfl
  keys := by
    rw [List.map_map]
    exact hnodes
  children := by
    intro id hid
    have hget : JsMap.get (nodes.map fun e => (e.1, ([] : List CategoryNode))) id =
        (JsMap.get nodes id).map fun _ => [] :=
      JsMap.get_map (f := fun _ => [])
    rw [CategoryLinks.childrenOf, hget]
    cases JsMap.get nodes id <;> rfl

theorem link_root {node : CategoryNode} (h : node.parent = none) :
    links.link nodes node = { links with roots := links.roots ++ [node] } := by
  rw [CategoryLinks.link, h]

theorem link_missing
    {node : CategoryNode} {parentId : Nat}
    (h : node.parent = some parentId) (hget : JsMap.get nodes parentId = none) :
    links.link nodes node = links := by
  simp only [CategoryLinks.link, h, hget]

theorem link_child
    {node parent : CategoryNode} {parentId : Nat}
    (h : node.parent = some parentId) (hget : JsMap.get nodes parentId = some parent) :
    links.link nodes node =
      { links with
        children := JsMap.set links.children parentId (links.childrenOf parentId ++ [node]) } := by
  simp only [CategoryLinks.link, h, hget]

/-- One node is appended where it belongs. -/
theorem linked_link
    (h : Linked nodes l links) (node : CategoryNode) :
    Linked nodes (l ++ [node]) (links.link nodes node) := by
  cases hparent : node.parent with
  | none =>
      rw [link_root hparent]
      refine ⟨?_, h.keys, fun id hid => ?_⟩
      · simp [h.roots, roots, List.filter_append, hparent]
      · refine (h.children id hid).trans ?_
        simp [Forest.childrenOf, List.filter_append, hparent]
  | some parentId =>
      have hroots : roots CategoryNode.parent (l ++ [node]) = roots CategoryNode.parent l := by
        simp [roots, List.filter_append, hparent]
      cases hget : JsMap.get nodes parentId with
      | none =>
          have hmissing := JsMap.get_eq_none_iff.mp hget
          rw [link_missing hparent hget]
          refine ⟨h.roots.trans hroots.symm, h.keys, fun id hid => ?_⟩
          have hne : parentId ≠ id := fun heq => hmissing (heq ▸ hid)
          rw [h.children id hid]
          simp [Forest.childrenOf, List.filter_append, hparent, hne]
      | some parent =>
          rw [link_child hparent hget]
          refine ⟨h.roots.trans hroots.symm, JsMap.nodup_set h.keys, fun id hid => ?_⟩
          rw [CategoryLinks.childrenOf, JsMap.get_set h.keys]
          by_cases hid' : id = parentId
          · subst hid'
            rw [if_pos rfl, Option.getD_some, h.children id hid]
            simp [Forest.childrenOf, List.filter_append, hparent]
          · have hne : parentId ≠ id := fun heq => hid' heq.symm
            rw [if_neg hid']
            refine (h.children id hid).trans ?_
            simp [Forest.childrenOf, List.filter_append, hparent, hne]

theorem linked_foldl
    {l' : List CategoryNode} (h : Linked nodes l' links) (l : List CategoryNode) :
    Linked nodes (l' ++ l) (l.foldl (CategoryLinks.link nodes) links) := by
  induction l generalizing l' links with
  | nil =>
      rwa [List.append_nil]
  | cons node l ih =>
      have := ih (linked_link h node)
      rwa [List.append_assoc] at this

theorem linked_linkCategories (hnodes : (nodes.map Prod.fst).Nodup) :
    Linked nodes (nodes.map Prod.snd) (linkCategories nodes) :=
  linked_foldl (linked_nil hnodes) _

end Links

/-! ### The order -/

theorem sortsBefore_eq_false_iff {a b : CategoryNode} :
    sortsBefore b a = false ↔
      a.sortOrder < b.sortOrder ∨ a.sortOrder = b.sortOrder ∧ a.id ≤ b.id := by
  simp only [sortsBefore, Bool.or_eq_false_iff, Bool.and_eq_false_iff, decide_eq_false_iff_not]
  omega

theorem categoriesOrdered_orderBy (l : List CategoryNode) :
    CategoriesOrdered (orderBy sortsBefore l) := by
  have hsorted := @pairwise_orderBy _ sortsBefore
    (fun a b => by simp only [sortsBefore_eq_false_iff]; omega)
    (fun a b c => by simp only [sortsBefore_eq_false_iff]; omega) l
  exact hsorted.imp fun h => sortsBefore_eq_false_iff.mp h

/-! ### The tree -/

/-- The recursion over the links grows the forest. -/
theorem sortCategoryTree_eq_grow
    {nodes l : List CategoryNode} {links : CategoryLinks}
    (hchildren : ∀ id, id ∈ nodes.map CategoryNode.id →
      links.childrenOf id = childrenOf CategoryNode.parent nodes id)
    (hl : ∀ node, node ∈ l → node ∈ nodes)
    (depth : Nat) :
    sortCategoryTree links depth l =
      grow CategoryNode.id CategoryNode.parent (orderBy sortsBefore) nodes depth l := by
  induction depth generalizing l with
  | zero =>
      rfl
  | succ depth ih =>
      refine mapM_congr fun node hnode => ?_
      have hmem := hl node ((perm_orderBy _ l).mem_iff.mp hnode)
      rw [hchildren node.id (List.mem_map_of_mem hmem), ih fun c hc => (mem_childrenOf.mp hc).1]

theorem buildCatalogCategoryTree_eq_grow
    {rows : List CategoryRow} (hids : (rows.map CategoryRow.id).Nodup) (depth : Nat) :
    buildCatalogCategoryTree depth rows =
      grow CategoryNode.id CategoryNode.parent (orderBy sortsBefore) (namedCategories rows) depth
        (roots CategoryNode.parent (namedCategories rows)) := by
  have hnamed := nodup_namedCategories hids
  have hkeys : (((namedCategories rows).map fun node => (node.id, node)).map Prod.fst).Nodup := by
    rwa [List.map_map]
  have hlinked := linked_linkCategories hkeys
  rw [buildCatalogCategoryTree, JsMap.ofEntries_of_nodup hkeys]
  simp only [List.map_map, Function.comp_def, List.map_id'] at hlinked
  rw [← hlinked.roots]
  refine sortCategoryTree_eq_grow ?_ ?_ depth
  · exact fun id hid => hlinked.children id (by simpa using hid)
  · rw [hlinked.roots]
    exact fun node hnode => (mem_roots.mp hnode).1

/--
For all rows with different ids the tree is built, within a depth that the number of rows
bounds.  It has exactly the named categories with a chain of named parents up to one without
parent, each once and below its own parent, and all its lists are ordered.
-/
theorem buildCatalogCategoryTree_complete
    (rows : List CategoryRow) (hids : (rows.map CategoryRow.id).Nodup) :
    ∃ forest,
      (∀ depth, rows.length < depth → buildCatalogCategoryTree depth rows = some forest) ∧
      (∀ node, node ∈ values forest ↔
        Rooted CategoryNode.id CategoryNode.parent (namedCategories rows) node) ∧
      ((values forest).map CategoryNode.id).Nodup ∧
      (∀ tree, tree ∈ forest → tree.value.parent = none) ∧
      (∀ tree child, tree ∈ subtreesOf forest → child ∈ tree.children →
        child.value.parent = some tree.value.id) ∧
      CategoriesOrdered (forest.map Forest.Tree.value) ∧
      ∀ tree, tree ∈ subtreesOf forest →
        CategoriesOrdered (tree.children.map Forest.Tree.value) := by
  have hnamed := nodup_namedCategories hids
  obtain ⟨forest, hgrow, hvalues, hnodup, hroots, hchildren⟩ :=
    @exists_grow_roots _ _ _ _ CategoryNode.parent _ _ (perm_orderBy sortsBefore) hnamed
  have hlength : (namedCategories rows).length ≤ rows.length := List.length_filterMap_le _ _
  have hmem : ∀ node, node ∈ values forest → node ∈ namedCategories rows := fun node hnode =>
    ((hvalues node).mp hnode).elim fun _ hlevel => hlevel.mem
  refine ⟨forest, fun depth hdepth => ?_, hvalues, ?_, ?_, ?_, ?_, ?_⟩
  · rw [buildCatalogCategoryTree_eq_grow hids]
    exact hgrow depth (hlength.trans_lt hdepth)
  · exact hnodup.map_on fun a ha b hb => eq_of_key hnamed (hmem a ha) (hmem b hb)
  · intro tree htree
    have hvalue : tree.value ∈ forest.map Forest.Tree.value := List.mem_map_of_mem htree
    rw [hroots, (perm_orderBy _ _).mem_iff] at hvalue
    exact (mem_roots.mp hvalue).2
  · intro tree child htree hchild
    have hvalue : child.value ∈ tree.children.map Forest.Tree.value := List.mem_map_of_mem hchild
    rw [hchildren tree htree, (perm_orderBy _ _).mem_iff] at hvalue
    exact (mem_childrenOf.mp hvalue).2
  · rw [hroots]
    exact categoriesOrdered_orderBy _
  · intro tree htree
    rw [hchildren tree htree]
    exact categoriesOrdered_orderBy _

/-- Category 4 is below 2, 5 is its own parent, 6 and 7 are a cycle, 8 has a missing parent. -/
def linkedRows : List CategoryRow :=
  [(2, none, 1), (4, some 2, 3), (3, some 2, 3), (1, none, 0), (5, some 5, 0), (6, some 7, 0),
    (7, some 6, 0), (8, some 9, 0)].map fun row =>
      { id := row.1
        parentId := row.2.1
        sortOrder := row.2.2
        categoryTranslation :=
          [{ categoryId := row.1, languageId := 1, name := "Books", slug := none }] }

theorem buildCatalogCategoryTree_complete_linkedRows :
    (linkedRows.map CategoryRow.id).Nodup ∧
      ∃ forest, buildCatalogCategoryTree 9 linkedRows = some forest ∧
        ((values forest).map CategoryNode.id).Nodup := by
  have hids : (linkedRows.map CategoryRow.id).Nodup := by decide
  obtain ⟨forest, hbuild, -, hnodup, -⟩ := buildCatalogCategoryTree_complete linkedRows hids
  exact ⟨hids, forest, hbuild 9 (by decide), hnodup⟩

example : (buildCatalogCategoryTree 9 linkedRows).map (fun forest =>
    (values forest).map CategoryNode.id) = some [1, 2, 3, 4] := by
  decide +kernel

end CategoryTree

end BookStore
