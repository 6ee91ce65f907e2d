import Mathlib.Algebra.BigOperators.Group.Finset.Piecewise
import Mathlib.Order.Bounds.Basic
import QueryGrading.Proofs.Tree.Alignment

/-!
# Edit mappings

An edit mapping of two trees is a one-to-one set of pairs of nodes that keeps ancestors and the
order from left to right. Its cost is the number of nodes it leaves out on either side and of pairs
whose labels differ. This is what the distance of two trees is meant to be the least of, and it is
defined without any recursion or table: `tree_edit_distance` speaks of insertions, deletions and
renames that transform one tree into the other, and each costs one.

Nodes are paths here; numbered in postorder, edit mappings are the alignments of the two lists of
nodes (`exists_alignment_image`, `EditMapping.ofAlignment`), so the least cost is `forestDistance`
(`isLeast_forestDistance`).
-/

namespace QueryGrading

namespace Tree

/-! ## 1. Nodes and edit mappings

Edit mappings are those of the literature: pairs of nodes, each at most once on either side, that
keep ancestors and the order from left to right. Nodes are known by their paths, so that equal
subtrees are told apart. -/

/-- The nodes of a tree, each known by its path. -/
def nodeSet (t : Tree) : Finset Path := t.paths.toFinset

/-- A tree has as many nodes as its size says. -/
theorem card_nodeSet (t : Tree) : t.nodeSet.card = t.size := by
  rw [nodeSet, List.toFinset_card_of_nodup (nodup_paths t), length_paths, length_nodes]

/-- The label of the node at the end of a path. -/
def labelAt? (t : Tree) (p : Path) : Option (String × String) := (t.subtreeAt? p).map label

/-- A one-to-one set of pairs of nodes that keeps ancestors and the order from left to right. -/
structure EditMapping (s t : Tree) where
  pairs : Finset (Path × Path)
  isNode : ∀ p ∈ pairs, p.1 ∈ s.nodeSet ∧ p.2 ∈ t.nodeSet
  oneToOne : ∀ p ∈ pairs, ∀ q ∈ pairs, p.1 = q.1 ↔ p.2 = q.2
  above : ∀ p ∈ pairs, ∀ q ∈ pairs, Above p.1 q.1 ↔ Above p.2 q.2
  leftOf : ∀ p ∈ pairs, ∀ q ∈ pairs, LeftOf p.1 q.1 ↔ LeftOf p.2 q.2

/-- What a one-to-one map into a set leaves out of it. -/
theorem card_sdiff_image {α β : Type} [DecidableEq α] {pairs : Finset β} {f : β → α}
    {nodes : Finset α} (hsub : ∀ p ∈ pairs, f p ∈ nodes) (hinj : Set.InjOn f pairs) :
    (nodes \ pairs.image f).card + pairs.card = nodes.card := by
  rw [← Finset.card_image_of_injOn hinj]
  exact Finset.card_sdiff_add_card_eq_card (Finset.image_subset_iff.mpr hsub)

namespace EditMapping

variable {s t : Tree}

/-- The nodes on the left that are not mapped. -/
def deleted (M : EditMapping s t) : Finset Path := s.nodeSet \ M.pairs.image Prod.fst

/-- The nodes on the right that are not mapped to. -/
def inserted (M : EditMapping s t) : Finset Path := t.nodeSet \ M.pairs.image Prod.snd

/-- The pairs whose key or value differ. -/
def relabeled (M : EditMapping s t) : Finset (Path × Path) :=
  M.pairs.filter fun p => s.labelAt? p.1 ≠ t.labelAt? p.2

/-- Nodes to delete and to insert, and pairs to relabel. -/
def cost (M : EditMapping s t) : Nat := M.deleted.card + M.inserted.card + M.relabeled.card

/-- What is not mapped is left over of the nodes on the left. -/
theorem card_deleted (M : EditMapping s t) : M.deleted.card + M.pairs.card = s.size := by
  rw [deleted, card_sdiff_image (fun p hp => (M.isNode p hp).1), card_nodeSet]
  exact fun p hp q hq h => Prod.ext h ((M.oneToOne p hp q hq).mp h)

/-- And of the nodes on the right. -/
theorem card_inserted (M : EditMapping s t) : M.inserted.card + M.pairs.card = t.size := by
  rw [inserted, card_sdiff_image (fun p hp => (M.isNode p hp).2), card_nodeSet]
  exact fun p hp q hq h => Prod.ext ((M.oneToOne p hp q hq).mpr h) h

end EditMapping

/-! ## 2. Paths by number

Paths in postorder give each node a number, and the two relations of a mapping become one of numbers
and of the first number below a node. -/

/-- The path of node `i`. -/
def pathOf (t : Tree) (i : Nat) : Path := t.paths.getD i []

section Numbers

variable {t : Tree} {i j : Nat}

/-- Every number of a node has a path. -/
theorem getElem?_paths_of_lt (h : i < t.nodes.length) : t.paths[i]? = some (t.pathOf i) := by
  rw [pathOf, List.getD_eq_getElem?_getD, List.getElem?_eq_getElem (length_paths t ▸ h),
    Option.getD_some]

/-- Different numbers have different paths. -/
theorem pathOf_inj (hi : i < t.nodes.length) (hj : j < t.nodes.length) :
    t.pathOf i = t.pathOf j ↔ i = j := by
  constructor
  · intro h
    refine (List.getElem?_inj (length_paths t ▸ hi) (nodup_paths t)).mp ?_
    rw [getElem?_paths_of_lt hi, getElem?_paths_of_lt hj, h]
  · rintro rfl
    rfl

/-- Ancestors are read off the numbers. -/
theorem above_pathOf_iff (hi : i < t.nodes.length) (hj : j < t.nodes.length) :
    Above (t.pathOf i) (t.pathOf j) ↔ leftEnd t.nodes i ≤ j ∧ j < i :=
  (paths_order t (getElem?_paths_of_lt hi) (getElem?_paths_of_lt hj)).1

/-- And so is the order from left to right. -/
theorem leftOf_pathOf_iff (hi : i < t.nodes.length) (hj : j < t.nodes.length) :
    LeftOf (t.pathOf i) (t.pathOf j) ↔ i < leftEnd t.nodes j :=
  (paths_order t (getElem?_paths_of_lt hi) (getElem?_paths_of_lt hj)).2

/-- The nodes that come first in postorder are those below a node and those to its left. -/
theorem lt_iff_above_or_leftOf (hi : i < t.nodes.length) (hj : j < t.nodes.length) :
    i < j ↔ Above (t.pathOf j) (t.pathOf i) ∨ LeftOf (t.pathOf i) (t.pathOf j) := by
  have := leftEnd_le t.nodes j
  rw [above_pathOf_iff hj hi, leftOf_pathOf_iff hi hj]
  omega

/-- Every node has a number. -/
theorem mem_nodeSet_iff_exists {p : Path} :
    p ∈ t.nodeSet ↔ ∃ i < t.nodes.length, t.pathOf i = p := by
  rw [nodeSet, List.mem_toFinset, List.mem_iff_getElem?]
  constructor
  · rintro ⟨i, hi⟩
    have hlt : i < t.nodes.length := by
      rw [← length_paths]
      exact (List.getElem?_eq_some_iff.mp hi).1
    rw [getElem?_paths_of_lt hlt] at hi
    exact ⟨i, hlt, Option.some.inj hi⟩
  · rintro ⟨i, hi, rfl⟩
    exact ⟨i, getElem?_paths_of_lt hi⟩

/-- A node has one label by its path and by its number. -/
theorem labelAt?_pathOf (hi : i < t.nodes.length) :
    t.labelAt? (t.pathOf i) = some (labelAt t.nodes i) := by
  rw [labelAt?, getElem?_nodes_of_paths (getElem?_paths_of_lt hi), labelAt,
    List.getElem?_eq_getElem hi, Option.map_some, Option.getD_some]

end Numbers

/-! ## 3. Edit mappings and alignments

In one direction a mapping is read off an alignment, in the other an alignment off a mapping. The
costs agree, as a pair that is matched saves two changes, or one if it is relabelled. -/

/-- The paths of two nodes. -/
def pathsOf (s t : Tree) (p : Nat × Nat) : Path × Path := (s.pathOf p.1, t.pathOf p.2)

namespace EditMapping

variable {s t : Tree} {m : Finset (Nat × Nat)}

/-- The edit mapping of an alignment. -/
def ofAlignment (h : Alignment s.nodes t.nodes m) : EditMapping s t where
  pairs := m.image (pathsOf s t)
  isNode := by
    simp only [Finset.forall_mem_image, pathsOf]
    intro p hp
    have hb := h.bound p hp
    exact ⟨mem_nodeSet_iff_exists.mpr ⟨p.1, hb.1, rfl⟩, mem_nodeSet_iff_exists.mpr ⟨p.2, hb.2, rfl⟩⟩
  oneToOne := by
    simp only [Finset.forall_mem_image, pathsOf]
    intro p hp q hq
    have hbp := h.bound p hp
    have hbq := h.bound q hq
    have hpq := h.before p hp q hq
    have hqp := h.before q hq p hp
    rw [pathOf_inj hbp.1 hbq.1, pathOf_inj hbp.2 hbq.2]
    omega
  above := by
    simp only [Finset.forall_mem_image, pathsOf]
    intro p hp q hq
    have hbp := h.bound p hp
    have hbq := h.bound q hq
    have hqp := h.before q hq p hp
    have hside := h.beside q hq p hp
    rw [above_pathOf_iff hbp.1 hbq.1, above_pathOf_iff hbp.2 hbq.2]
    omega
  leftOf := by
    simp only [Finset.forall_mem_image, pathsOf]
    intro p hp q hq
    have hbp := h.bound p hp
    have hbq := h.bound q hq
    rw [leftOf_pathOf_iff hbp.1 hbq.1, leftOf_pathOf_iff hbp.2 hbq.2]
    exact h.beside p hp q hq

/-- Every edit mapping comes from an alignment. -/
theorem exists_alignment_image (M : EditMapping s t) :
    ∃ m, Alignment s.nodes t.nodes m ∧ M.pairs = m.image (pathsOf s t) := by
  have hmem : ∀ p ∈ (Finset.range s.nodes.length ×ˢ Finset.range t.nodes.length).filter
      (fun p => pathsOf s t p ∈ M.pairs),
      (p.1 < s.nodes.length ∧ p.2 < t.nodes.length) ∧ pathsOf s t p ∈ M.pairs := by
    intro p hp
    obtain ⟨hp, hpM⟩ := Finset.mem_filter.mp hp
    rw [Finset.mem_product, Finset.mem_range, Finset.mem_range] at hp
    exact ⟨hp, hpM⟩
  refine ⟨_, ⟨fun p hp => (hmem p hp).1, fun p hp q hq => ?_, fun p hp q hq => ?_⟩, ?_⟩
  · obtain ⟨hbp, hp⟩ := hmem p hp
    obtain ⟨hbq, hq⟩ := hmem q hq
    rw [lt_iff_above_or_leftOf hbp.1 hbq.1, lt_iff_above_or_leftOf hbp.2 hbq.2]
    exact or_congr (M.above _ hq _ hp) (M.leftOf _ hp _ hq)
  · obtain ⟨hbp, hp⟩ := hmem p hp
    obtain ⟨hbq, hq⟩ := hmem q hq
    rw [← leftOf_pathOf_iff hbp.1 hbq.1, ← leftOf_pathOf_iff hbp.2 hbq.2]
    exact M.leftOf _ hp _ hq
  · ext p
    rw [Finset.mem_image]
    constructor
    · intro hp
      obtain ⟨i, hi, hip⟩ := mem_nodeSet_iff_exists.mp (M.isNode p hp).1
      obtain ⟨j, hj, hjp⟩ := mem_nodeSet_iff_exists.mp (M.isNode p hp).2
      have he : pathsOf s t (i, j) = p := Prod.ext hip hjp
      refine ⟨(i, j), Finset.mem_filter.mpr ⟨?_, he.symm ▸ hp⟩, he⟩
      exact Finset.mem_product.mpr ⟨Finset.mem_range.mpr hi, Finset.mem_range.mpr hj⟩
    · rintro ⟨q, hq, rfl⟩
      exact (hmem q hq).2

/-- Different pairs of an alignment are different pairs of nodes. -/
theorem injOn_pathsOf (h : Alignment s.nodes t.nodes m) : Set.InjOn (pathsOf s t) m := by
  intro p hp q hq he
  have hbp := h.bound p hp
  have hbq := h.bound q hq
  obtain ⟨he₁, he₂⟩ := Prod.mk.inj he
  exact Prod.ext ((pathOf_inj hbp.1 hbq.1).mp he₁) ((pathOf_inj hbp.2 hbq.2).mp he₂)

/-- A match saves what it does not cost. -/
theorem cost_add_savings {M : EditMapping s t} (h : Alignment s.nodes t.nodes m)
    (hM : M.pairs = m.image (pathsOf s t)) :
    M.cost + savings s.nodes t.nodes m = s.size + t.size := by
  have hcard : M.pairs.card = m.card := by
    rw [hM, Finset.card_image_of_injOn (injOn_pathsOf h)]
  have hrelabel : M.relabeled.card + savings s.nodes t.nodes m = m.card * 2 := by
    rw [relabeled, hM, Finset.filter_image,
      Finset.card_image_of_injOn
        ((injOn_pathsOf h).mono (Finset.coe_subset.mpr (Finset.filter_subset _ m))),
      Finset.card_filter, savings, ← Finset.sum_add_distrib]
    refine Finset.sum_const_nat fun p hp => ?_
    have hb := h.bound p hp
    rw [pathsOf, labelAt?_pathOf hb.1, labelAt?_pathOf hb.2, saving, relabelCost]
    split <;> split <;> simp_all
  have hdel := M.card_deleted
  have hins := M.card_inserted
  rw [cost]
  omega

end EditMapping

/-! ## 4. The least cost -/

/-- A forest of one tree is as large as the tree. -/
theorem sizes_singleton (t : Tree) : sizes [t] = t.size := by
  simp [sizes]

/-- **The distance of forests is the least cost of an edit mapping.** -/
theorem isLeast_forestDistance (s t : Tree) :
    IsLeast {n | ∃ M : EditMapping s t, M.cost = n} (forestDistance [s] [t]) := by
  constructor
  · obtain ⟨m, h, he⟩ := exists_alignment [s] [t]
    simp only [List.reverse_singleton, forestNodes_singleton, sizes_singleton] at h he
    refine ⟨EditMapping.ofAlignment h, ?_⟩
    have hcost := EditMapping.cost_add_savings (M := EditMapping.ofAlignment h) h rfl
    omega
  · rintro n ⟨M, rfl⟩
    obtain ⟨m, h, hM⟩ := M.exists_alignment_image
    have hcost := EditMapping.cost_add_savings h hM
    have hle := forestDistance_add_savings_le [s] [t] m
    simp only [List.reverse_singleton, forestNodes_singleton, sizes_singleton] at hle
    have := hle h
    omega

end Tree

end QueryGrading
