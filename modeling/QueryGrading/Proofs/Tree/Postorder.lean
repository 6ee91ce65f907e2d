import QueryGrading.Proofs.Tree.Nodes

/-!
# Postorder arrays

`Postorder.ofTree t` describes `t.nodes`, as `Indexed::new` does with the walk of the tree: its
arrays hold the label of every node and where its subtree begins (`Postorder.lists_ofTree`), and its
key roots are the nodes that are last to begin where they begin (`Postorder.keyRoots_ofTree`). So
every node begins where some key root begins (`exists_lastNode`), and for a node below a key root
that one is no later (`le_of_leftEnd_eq`).

The walk adds a node behind those below it, so each lemma says what a tree adds to arrays that
already hold other nodes (`lists_addTree`, `keyRoots_addTree`). The key roots are noted on the way
here, where the first child of a node gives way to the node; in the source they are the last
occurrences of the leftmost leaves, and both come to the same nodes.
-/

namespace QueryGrading

namespace Tree

namespace Postorder

/-! ## 1. Labels and leftmost leaves

One walk over a tree fills the arrays. They are said to list the nodes of a forest, so that the walk
can be followed child by child. -/

variable {p : Postorder} {a x y : List Tree} {i : Nat}

/-- The arrays hold the labels and the leftmost leaves of these nodes. -/
structure Lists (p : Postorder) (a : List Tree) : Prop where
  labels : p.labels.toList = a.map Tree.label
  leftmost : p.leftmost.toList = (List.range a.length).map (leftEnd a)

theorem Lists.count_eq (h : p.Lists a) : p.count = a.length := by
  rw [count, ← Array.length_toList, h.labels, List.length_map]

/-- The array of leftmost leaves says where a subtree begins. -/
theorem Lists.leftmostOf_eq (h : p.Lists a) (hi : i < a.length) :
    p.leftmostOf i = leftEnd a i := by
  rw [leftmostOf, Array.getD_eq_getD_getElem?, ← Array.getElem?_toList, h.leftmost]
  simp [hi]

theorem Lists.label_eq (h : p.Lists a) {t : Tree} (ht : a[i]? = some t) : p.label i = t.label := by
  rw [label, Array.getD_eq_getD_getElem?, ← Array.getElem?_toList, h.labels]
  simp [ht]

theorem lists_empty : empty.Lists [] := ⟨rfl, rfl⟩

/-- One more node, with its leftmost leaf. -/
theorem Lists.add (h : p.Lists a) {t : Tree} {leaf : Option Nat}
    (hleaf : leaf.getD a.length = leftEnd (a ++ [t]) a.length) (isFirst : Bool) :
    (p.add t.label leaf isFirst).Lists (a ++ [t]) := by
  constructor
  · simp [Postorder.add, h.labels]
  · have hbefore : (List.range a.length).map (leftEnd (a ++ [t]))
        = (List.range a.length).map (leftEnd a) := by
      refine List.map_congr_left fun i hi => leftEnd_append_left (List.mem_range.mp hi)
    simp only [Postorder.add, Array.toList_push, h.leftmost, h.count_eq, hleaf,
      List.length_append, List.length_singleton, List.range_succ, List.map_append, hbefore,
      List.map_singleton]

mutual
/-- A tree adds its nodes, and gives back where it begins. -/
theorem lists_addTree : ∀ (t : Tree) {p : Postorder} {a : List Tree} (isFirst : Bool), p.Lists a →
    (p.addTree isFirst t).1.Lists (a ++ t.nodes) ∧ (p.addTree isFirst t).2 = a.length
  | node k v cs, p, a, isFirst, h => by
    obtain ⟨hbelow, hleaf⟩ := lists_addTrees cs true h
    have hroot := (below_root (node k v cs)).leftEnd_root a
    rw [children_node] at hroot
    have hget : (p.addTrees true cs).2.getD (a ++ forestNodes cs).length = a.length := by
      rw [hleaf]
      cases cs <;> simp [forestNodes]
    rw [addTree, nodes, ← List.append_assoc]
    constructor
    · exact hbelow.add (t := node k v cs) (hget.trans hroot.symm) isFirst
    · rw [← hbelow.count_eq] at hget
      exact hget

/-- Several trees add theirs, and give back where the first begins. -/
theorem lists_addTrees : ∀ (f : List Tree) {p : Postorder} {a : List Tree} (isFirst : Bool),
    p.Lists a → (p.addTrees isFirst f).1.Lists (a ++ forestNodes f) ∧
      (p.addTrees isFirst f).2 = f.head?.map fun _ => a.length
  | [], p, a, isFirst, h => by
    rw [addTrees, forestNodes, List.append_nil]
    exact ⟨h, rfl⟩
  | t :: f, p, a, isFirst, h => by
    obtain ⟨hfirst, hleaf⟩ := lists_addTree t isFirst h
    obtain ⟨hrest, -⟩ := lists_addTrees f false hfirst
    rw [addTrees, forestNodes, ← List.append_assoc]
    exact ⟨hrest, by simp [hleaf]⟩
end

/-- **The arrays of a tree hold its nodes.** -/
theorem lists_ofTree (t : Tree) : (ofTree t).Lists t.nodes := (lists_addTree t false lists_empty).1

/-! ## 2. Key roots

A node is noted as a key root if it is no first child. These are the nodes that are the last to
begin at their leftmost leaf, as the source has it. -/

/-- The nodes that no later node shares its leftmost leaf with; without those that begin the list
if `isFirst`. -/
def lastNodes (isFirst : Bool) (a : List Tree) : List Nat :=
  (List.range a.length).filter fun i =>
    (isFirst → leftEnd a i ≠ 0) ∧ ∀ j < a.length, i < j → leftEnd a j ≠ leftEnd a i

/-- Nodes behind others begin behind them. -/
theorem lastNodes_append (hy : Closed y) (hx : x ≠ []) (isFirst : Bool) :
    lastNodes isFirst (x ++ y)
      = lastNodes isFirst x ++ (lastNodes false y).map (x.length + ·) := by
  have hpos := List.length_pos_iff.mpr hx
  rw [lastNodes, List.length_append, List.range_add, List.filter_append, List.filter_map]
  congr 1
  · refine List.filter_congr fun i hi => ?_
    have hi := List.mem_range.mp hi
    rw [leftEnd_append_left hi, decide_eq_decide]
    refine and_congr_right fun _ => ⟨fun h j hj hij => ?_, fun h j hj hij => ?_⟩
    · have := h j (by omega) hij
      rwa [leftEnd_append_left hj] at this
    · rcases Nat.lt_or_ge j x.length with hlt | hge
      · rw [leftEnd_append_left hlt]
        exact h j hlt hij
      · -- a node of `y` begins behind `x`
        obtain ⟨d, rfl⟩ := Nat.exists_eq_add_of_le hge
        have := leftEnd_le x i
        rw [leftEnd_append_right hy]
        omega
  · congr 1
    refine List.filter_congr fun i hi => ?_
    have hi := List.mem_range.mp hi
    simp only [Function.comp_apply, decide_eq_decide, leftEnd_append_right hy, Bool.false_eq_true,
      false_implies, true_and]
    constructor
    · rintro ⟨-, h⟩ j hj hij
      have := h (x.length + j) (by omega) (by omega)
      rw [leftEnd_append_right hy] at this
      omega
    · intro h
      refine ⟨fun _ => by omega, fun j hj hij => ?_⟩
      obtain ⟨d, rfl⟩ := Nat.exists_eq_add_of_le (show x.length ≤ j by omega)
      have := h d (by omega) (by omega)
      rw [leftEnd_append_right hy]
      omega

/-- The root takes the place of the nodes that begin where it begins. -/
theorem lastNodes_root (t : Tree) (isFirst : Bool) :
    lastNodes isFirst t.nodes = lastNodes true (forestNodes t.children)
      ++ if isFirst then [] else [(forestNodes t.children).length] := by
  have hroot := (below_root t).leftEnd_root []
  simp only [List.nil_append, List.length_nil] at hroot
  rw [nodes_eq, lastNodes, List.length_append, List.length_singleton, List.range_succ,
    List.filter_append]
  congr 1
  · refine List.filter_congr fun i hi => ?_
    have hi := List.mem_range.mp hi
    rw [leftEnd_append_left hi, decide_eq_decide]
    constructor
    · rintro ⟨-, h⟩
      refine ⟨fun _ => ?_, fun j hj hij => ?_⟩
      · have := h _ (Nat.lt_succ_self _) hi
        omega
      · have := h j (by omega) hij
        rwa [leftEnd_append_left hj] at this
    · rintro ⟨h₀, h⟩
      refine ⟨fun _ => h₀ rfl, fun j hj hij => ?_⟩
      rcases Nat.lt_or_ge j (forestNodes t.children).length with hlt | hge
      · rw [leftEnd_append_left hlt]
        exact h j hlt hij
      · obtain rfl : j = (forestNodes t.children).length := by omega
        have := h₀ rfl
        omega
  · cases isFirst with
    | true => simp [hroot]
    | false =>
      rw [if_neg Bool.false_ne_true, List.filter_eq_self]
      intro i hi
      obtain rfl := List.mem_singleton.mp hi
      rw [decide_eq_true_iff]
      exact ⟨fun h => absurd h Bool.false_ne_true, fun j hj hij => by omega⟩

mutual
/-- A tree adds the nodes that are last to begin where they begin, without its own first ones if it
is a first child. -/
theorem keyRoots_addTree : ∀ (t : Tree) {p : Postorder} {a : List Tree} (isFirst : Bool),
    p.Lists a → (p.addTree isFirst t).1.keyRoots.toList
      = p.keyRoots.toList ++ (lastNodes isFirst t.nodes).map (a.length + ·)
  | node k v cs, p, a, isFirst, h => by
    have hbelow := keyRoots_addTrees cs true h
    have hcount := (lists_addTrees cs true h).1.count_eq
    rw [addTree, lastNodes_root, List.map_append, ← List.append_assoc, children_node, ← hbelow]
    cases isFirst <;> simp [Postorder.add, hcount]

/-- So do several trees. -/
theorem keyRoots_addTrees : ∀ (f : List Tree) {p : Postorder} {a : List Tree} (isFirst : Bool),
    p.Lists a → (p.addTrees isFirst f).1.keyRoots.toList
      = p.keyRoots.toList ++ (lastNodes isFirst (forestNodes f)).map (a.length + ·)
  | [], p, a, isFirst, h => by simp [addTrees, forestNodes, lastNodes]
  | t :: f, p, a, isFirst, h => by
    have hfirst := keyRoots_addTree t isFirst h
    have hrest := keyRoots_addTrees f false (lists_addTree t isFirst h).1
    have hne : t.nodes ≠ [] := by simp [nodes_eq]
    rw [addTrees, forestNodes, lastNodes_append (closed_forestNodes f) hne]
    simp only [hrest, hfirst, List.map_append, List.map_map, List.append_assoc, List.length_append]
    congr 3
    funext i
    simp [Nat.add_assoc]
end

/-- **The key roots of a tree are its last nodes.** -/
theorem keyRoots_ofTree (t : Tree) : (ofTree t).keyRoots.toList = lastNodes false t.nodes := by
  have h := keyRoots_addTree t false lists_empty
  rw [ofTree, h, empty]
  simp

end Postorder

/-! ## 3. The key root of a node -/

open Postorder

variable {a f : List Tree} {i k k' : Nat}

/-- A last node is one with which no later node begins. -/
theorem mem_lastNodes : k ∈ lastNodes false a ↔
    k < a.length ∧ ∀ j < a.length, k < j → leftEnd a j ≠ leftEnd a k := by
  simp [lastNodes]

/-- Last nodes are in ascending order. -/
theorem pairwise_lastNodes (isFirst : Bool) (a : List Tree) :
    (lastNodes isFirst a).Pairwise (· < ·) :=
  List.pairwise_lt_range.filter _

/-- Every node begins where some key root begins. -/
theorem exists_lastNode {a : List Tree} {i : Nat} (hi : i < a.length) :
    ∃ k ∈ lastNodes false a, leftEnd a k = leftEnd a i := by
  by_cases h : ∀ j < a.length, i < j → leftEnd a j ≠ leftEnd a i
  · exact ⟨i, mem_lastNodes.mpr ⟨hi, h⟩, rfl⟩
  · push Not at h
    obtain ⟨j, hj, hij, he⟩ := h
    obtain ⟨k, hk, hkj⟩ := exists_lastNode hj
    exact ⟨k, hk, hkj.trans he⟩
termination_by a.length - i

/-- Below a node no key root is needed that comes later. -/
theorem le_of_leftEnd_eq (hk : k ∈ lastNodes false (forestNodes f))
    (hk' : k' ∈ lastNodes false (forestNodes f)) (hi : leftEnd (forestNodes f) k ≤ i) (hik : i ≤ k)
    (he : leftEnd (forestNodes f) k' = leftEnd (forestNodes f) i) : k' ≤ k := by
  obtain ⟨hlen, hlast⟩ := mem_lastNodes.mp hk
  obtain ⟨hlen', -⟩ := mem_lastNodes.mp hk'
  by_contra hlt
  have hbegin := leftEnd_mono hlen hi hik
  have hle := leftEnd_le (forestNodes f) i
  -- node `k` ends inside the subtree of `k'`, so it begins no earlier
  have hinside := leftEnd_mono (j := k) hlen' (by omega) (by omega)
  have := hlast k' hlen' (by omega)
  omega

end Tree

end QueryGrading
