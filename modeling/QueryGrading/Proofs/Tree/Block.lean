import QueryGrading.Proofs.Tree.Postorder

/-!
# Forests by number

The distance of two trees is tabulated for the forests that the first nodes of a subtree make in
postorder: the table `fd` of `forest_distance` has a row for each of the one side and a column for
each of the other. `forest a l k` is the forest of the nodes from `l` up to `k`, and `Block a l k`
says that the nodes from `l` to `k` are those of a subtree, so that these forests are made of whole
trees and of the children of the roots that are left out.

On two blocks the recursion of `forestDistance` is one on numbers (`Block.blockDistance_succ`,
`Block.blockDistance_trees`). The two cases are those of the source: the subtrees begin where the
forests begin and are these forests, or their distance was found before and is taken as a whole.
-/

namespace QueryGrading

namespace Tree

/-! ## 1. Forests by number -/

/-- The forest of the nodes from number `l` up to number `k`, without node `k`, given from its
last tree to its first. -/
def forest (a : List Tree) (l : Nat) : Nat → List Tree
  | 0 => []
  | k + 1 => if l ≤ k then a[k]?.toList ++ forest a l (leftEnd a k) else []
termination_by k => k
decreasing_by have := leftEnd_le a k; omega

variable {a b : List Tree} {k l k' l' i j : Nat} {t u : Tree}

/-- Up to the first node there is no tree. -/
theorem forest_of_le (h : k ≤ l) : forest a l k = [] := by
  cases k with
  | zero => rw [forest]
  | succ k => rw [forest, if_neg (by omega)]

/-- A node takes the place of its children. -/
theorem forest_succ (ht : a[i]? = some t) (h : l ≤ i) :
    forest a l (i + 1) = t :: forest a l (leftEnd a i) := by
  rw [forest, if_pos h, ht, Option.toList_some, List.singleton_append]

/-- The nodes of some trees in a row make these trees. -/
theorem forest_append (x : List Tree) (h : l ≤ x.length) : ∀ g y : List Tree,
    forest (x ++ forestNodes g.reverse ++ y) l (x ++ forestNodes g.reverse).length
      = g ++ forest (x ++ forestNodes g.reverse ++ y) l x.length
  | [], y => by simp [forestNodes]
  | t :: g, y => by
    have ih := forest_append x h g (forestNodes t.children ++ [t] ++ y)
    have hroot := (below_root t).leftEnd_root (x ++ forestNodes g.reverse)
    have hlist : x ++ forestNodes (t :: g).reverse ++ y
        = x ++ forestNodes g.reverse ++ forestNodes t.children ++ [t] ++ y := by
      simp only [forestNodes_reverse_cons, List.append_assoc]
    have hlen : (x ++ forestNodes (t :: g).reverse).length
        = (x ++ forestNodes g.reverse ++ forestNodes t.children).length + 1 := by
      simp only [forestNodes_reverse_cons, List.length_append, List.length_singleton]
      omega
    rw [hlist, hlen, forest_succ, leftEnd_append_left, hroot]
    · simp only [← List.append_assoc] at ih
      rw [ih, List.cons_append]
    · simp
    · simp
    · simp only [List.length_append]
      omega

/-! ## 2. Blocks -/

/-- The nodes from `l` to `k` are those of a subtree: none of them begins before `l`, and the nodes
before a root end with its children. -/
structure Block (a : List Tree) (l k : Nat) : Prop where
  bound : k < a.length
  begins : ∀ i, l ≤ i → i ≤ k → l ≤ leftEnd a i
  children : ∀ i t, l ≤ i → i ≤ k → a[i]? = some t →
    forest a l i = t.children.reverse ++ forest a l (leftEnd a i)

/-- The nodes of a subtree are a block. -/
theorem block_forestNodes {f : List Tree} (hk : k < (forestNodes f).length) :
    Block (forestNodes f) (leftEnd (forestNodes f) k) k where
  bound := hk
  begins := fun i hi hik => leftEnd_mono hk hi hik
  children := by
    intro i t hi hik ht
    have hbegin := leftEnd_mono hk hi hik
    obtain ⟨x, y, hxy, hlen⟩ := exists_nodes_eq f ht
    have hx : leftEnd (forestNodes f) i = x.length := by
      rw [leftEnd_of_getElem? ht]
      omega
    have hi : i = (x ++ forestNodes t.children).length := by
      have := (below_root t).size_root
      rw [List.length_append]
      omega
    have h := forest_append x (hx ▸ hbegin) t.children.reverse ([t] ++ y)
    rw [List.reverse_reverse, ← List.append_assoc, List.append_assoc x, ← nodes_eq, ← hxy, ← hi,
      ← hx] at h
    exact h

/-- The forest up to a node has as many nodes as are numbered so far. -/
theorem Block.sizes_forest (h : Block a l k) (n : Nat) (hn : l + n ≤ k + 1) :
    sizes (forest a l (l + n)) = n := by
  induction n with
  | zero => rw [Nat.add_zero, forest_of_le (Nat.le_refl l), sizes]
  | succ n ih =>
    obtain ⟨t, ht⟩ : ∃ t, a[l + n]? = some t :=
      ⟨_, List.getElem?_eq_getElem (by have := h.bound; omega)⟩
    rw [← Nat.add_assoc, forest_succ ht (by omega), sizes_cons,
      ← h.children _ t (by omega) (by omega) ht, ih (by omega)]

/-! ## 3. Distances on two blocks -/

/-- The distance of two such forests. -/
def blockDistance (a b : List Tree) (l l' i j : Nat) : Nat :=
  forestDistance (forest a l i) (forest b l' j)

/-- A root is deleted, inserted, or matched with its whole tree. -/
theorem Block.blockDistance_succ (hA : Block a l k) (hB : Block b l' k') (hi : l ≤ i) (hik : i ≤ k)
    (hj : l' ≤ j) (hjk : j ≤ k') (ht : a[i]? = some t) (hu : b[j]? = some u) :
    blockDistance a b l l' (i + 1) (j + 1)
      = min (min (blockDistance a b l l' i (j + 1) + 1) (blockDistance a b l l' (i + 1) j + 1))
        (blockDistance a b l l' (leftEnd a i) (leftEnd b j) + forestDistance [t] [u]) := by
  simp only [blockDistance]
  rw [hA.children i t hi hik ht, hB.children j u hj hjk hu, forest_succ ht hi, forest_succ hu hj,
    forestDistance_cons_trees]

/-- Two subtrees that begin where the forests begin are the whole forests. -/
theorem Block.blockDistance_trees (hA : Block a l k) (hB : Block b l' k') (hi : l ≤ i) (hik : i ≤ k)
    (hj : l' ≤ j) (hjk : j ≤ k') (ht : a[i]? = some t) (hu : b[j]? = some u)
    (hl : leftEnd a i = l) (hl' : leftEnd b j = l') :
    blockDistance a b l l' (i + 1) (j + 1) = forestDistance [t] [u] ∧
    blockDistance a b l l' (i + 1) (j + 1)
      = min (min (blockDistance a b l l' i (j + 1) + 1) (blockDistance a b l l' (i + 1) j + 1))
        (blockDistance a b l l' i j + relabelCost t.label u.label) := by
  have hci := hA.children i t hi hik ht
  have hcj := hB.children j u hj hjk hu
  have hti := forest_succ ht hi
  have huj := forest_succ hu hj
  rw [hl, forest_of_le (Nat.le_refl l)] at hci hti
  rw [hl', forest_of_le (Nat.le_refl l')] at hcj huj
  simp only [blockDistance]
  rw [hci, hcj, hti, huj]
  constructor
  · rfl
  · rw [forestDistance_cons, forestDistance_nil_left, sizes, Nat.zero_add, List.append_nil,
      List.append_nil]

end Tree

end QueryGrading
