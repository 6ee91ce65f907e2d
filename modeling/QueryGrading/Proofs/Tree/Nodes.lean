import Mathlib.Data.List.Nodup
import QueryGrading.Proofs.Tree.Forest

/-!
# The nodes of a tree

A node is known by its path from the root: which child is taken at each step. `Above` and `LeftOf`
are the two relations that order a tree. Listed in postorder the nodes have numbers too, and the
relations can be read off them: the nodes below node `i` are numbered from `leftEnd i` up to `i`,
and those to its left have smaller numbers than that (`paths_order`).

`nodes` lists the subtrees in postorder and `paths` their paths. The numbers of a subtree are
consecutive (`exists_nodes_eq`), so the list for a part of a forest is a part of the list.

The walk of the source, `walk`, numbers the nodes in the same order and notes for each the leftmost
leaf below it, which is the node that `leftEnd` gives. That its arrays hold these numbers is shown
with the postorder arrays.
-/

namespace QueryGrading

namespace Tree

/-! ## 1. Subtrees in postorder

The arrays of the algorithm list nodes in postorder. The list of subtrees in this order is what they
are read off. -/

mutual
/-- The subtrees of a tree in postorder. -/
def nodes : Tree → List Tree
  | node k v cs => forestNodes cs ++ [node k v cs]

/-- The subtrees of several trees in postorder. -/
def forestNodes : List Tree → List Tree
  | [] => []
  | t :: rest => nodes t ++ forestNodes rest
end

/-- The root comes last. -/
theorem nodes_eq (t : Tree) : t.nodes = forestNodes t.children ++ [t] := by
  cases t
  rw [nodes, children_node]

theorem forestNodes_append (f g : List Tree) :
    forestNodes (f ++ g) = forestNodes f ++ forestNodes g := by
  induction f with
  | nil => rfl
  | cons t f ih => simp [forestNodes, ih]

theorem forestNodes_singleton (t : Tree) : forestNodes [t] = t.nodes := by
  simp [forestNodes]

theorem forestNodes_reverse_cons (t : Tree) (f : List Tree) :
    forestNodes (t :: f).reverse = forestNodes f.reverse ++ forestNodes t.children ++ [t] := by
  rw [List.reverse_cons, forestNodes_append, forestNodes_singleton, nodes_eq, List.append_assoc]

theorem forestNodes_reverse_children (t : Tree) (f : List Tree) :
    forestNodes (t.children.reverse ++ f).reverse
      = forestNodes f.reverse ++ forestNodes t.children := by
  rw [List.reverse_append, List.reverse_reverse, forestNodes_append]

mutual
theorem length_nodes : ∀ t : Tree, t.nodes.length = t.size
  | node k v cs => by simp [nodes, size, length_forestNodes cs, Nat.add_comm]

theorem length_forestNodes : ∀ f : List Tree, (forestNodes f).length = sizes f
  | [] => rfl
  | t :: f => by simp [forestNodes, sizes, length_nodes t, length_forestNodes f]
end

mutual
/-- The nodes of a subtree stand together, up to its root. -/
theorem exists_nodes_eq_of_nodes : ∀ (s : Tree) {i : Nat} {t : Tree}, s.nodes[i]? = some t →
    ∃ x y, s.nodes = x ++ t.nodes ++ y ∧ x.length + t.size = i + 1
  | node k v cs, i, t, h => by
    rw [nodes, List.getElem?_append] at h
    split at h
    · obtain ⟨x, y, hxy, hlen⟩ := exists_nodes_eq cs h
      exact ⟨x, y ++ [node k v cs], by rw [nodes, hxy]; simp, hlen⟩
    · next hi =>
      obtain ⟨hi', ht⟩ := List.getElem?_eq_some_iff.mp h
      simp only [List.length_singleton] at hi'
      have ht' : node k v cs = t := by simpa using ht
      refine ⟨[], [], by simp [← ht'], ?_⟩
      rw [← ht', size, ← length_forestNodes, List.length_nil]
      omega

/-- The same of a forest. -/
theorem exists_nodes_eq : ∀ (f : List Tree) {i : Nat} {t : Tree}, (forestNodes f)[i]? = some t →
    ∃ x y, forestNodes f = x ++ t.nodes ++ y ∧ x.length + t.size = i + 1
  | [], i, t, h => by simp [forestNodes] at h
  | s :: f, i, t, h => by
    rw [forestNodes, List.getElem?_append] at h
    split at h
    · obtain ⟨x, y, hxy, hlen⟩ := exists_nodes_eq_of_nodes s h
      exact ⟨x, y ++ forestNodes f, by rw [forestNodes, hxy]; simp, hlen⟩
    · obtain ⟨x, y, hxy, hlen⟩ := exists_nodes_eq f h
      refine ⟨s.nodes ++ x, y, by rw [forestNodes, hxy]; simp, ?_⟩
      rw [List.length_append]
      omega
end

/-! ## 2. Where a subtree begins

The subtree of a node takes up the numbers from its leftmost leaf to itself. All that the algorithm
asks of leftmost leaves follows from the sizes of subtrees. -/

/-- The number of the first node below node `i`, or `i` if there is none. -/
def leftEnd (a : List Tree) (i : Nat) : Nat := i + 1 - a[i]?.elim 1 size

/-- No subtree begins before the list. -/
def Closed (a : List Tree) : Prop := ∀ i t, a[i]? = some t → t.size ≤ i + 1

theorem closed_forestNodes (f : List Tree) : Closed (forestNodes f) := by
  intro i t h
  obtain ⟨x, y, -, hlen⟩ := exists_nodes_eq f h
  omega

theorem size_pos (t : Tree) : 0 < t.size := by
  rw [size_eq]
  omega

/-- A subtree begins as many nodes before its root as it has. -/
theorem leftEnd_of_getElem? {a : List Tree} {i : Nat} {t : Tree} (h : a[i]? = some t) :
    leftEnd a i = i + 1 - t.size := by
  rw [leftEnd, h, Option.elim_some]

/-- No subtree begins behind its root. -/
theorem leftEnd_le (a : List Tree) (i : Nat) : leftEnd a i ≤ i := by
  unfold leftEnd
  cases a[i]? with
  | none => simp
  | some t =>
    have := t.size_pos
    simp only [Option.elim_some]
    omega

/-- Nodes behind make no difference. -/
theorem leftEnd_append_left {a b : List Tree} {i : Nat} (h : i < a.length) :
    leftEnd (a ++ b) i = leftEnd a i := by
  rw [leftEnd, List.getElem?_append_left h, leftEnd]

/-- Nodes in front move everything. -/
theorem leftEnd_append_right {b : List Tree} (hb : Closed b) (a : List Tree) (i : Nat) :
    leftEnd (a ++ b) (a.length + i) = a.length + leftEnd b i := by
  rw [leftEnd, List.getElem?_append_right (Nat.le_add_right _ _), Nat.add_sub_cancel_left, leftEnd]
  cases hi : b[i]? with
  | none => simp
  | some t =>
    have := hb i t hi
    simp only [Option.elim_some]
    omega

/-- Subtrees are nested: one that ends inside another begins inside it. -/
theorem leftEnd_mono {f : List Tree} {i j : Nat} (hi : i < (forestNodes f).length)
    (hj : leftEnd (forestNodes f) i ≤ j) (hji : j ≤ i) :
    leftEnd (forestNodes f) i ≤ leftEnd (forestNodes f) j := by
  have ht : (forestNodes f)[i]? = some (forestNodes f)[i] := List.getElem?_eq_getElem hi
  obtain ⟨x, y, hxy, hlen⟩ := exists_nodes_eq f ht
  have hclosed : Closed (forestNodes f)[i].nodes := by
    rw [← forestNodes_singleton]
    exact closed_forestNodes _
  have hx : leftEnd (forestNodes f) i = x.length := by
    rw [leftEnd_of_getElem? ht]
    omega
  obtain ⟨d, rfl⟩ := Nat.exists_eq_add_of_le (hx ▸ hj)
  have hd : d < (forestNodes f)[i].nodes.length := by
    rw [length_nodes]
    omega
  rw [hx, hxy, leftEnd_append_left (by rw [List.length_append]; omega),
    leftEnd_append_right hclosed]
  omega

/-- The nodes `c` are those below the root `t`. -/
structure Below (c : List Tree) (t : Tree) : Prop where
  closed : Closed c
  size_root : t.size = c.length + 1

/-- The nodes below a root are those of its children. -/
theorem below_root (t : Tree) : Below (forestNodes t.children) t where
  closed := closed_forestNodes _
  size_root := by rw [size_eq, sizes_reverse, length_forestNodes]

/-- A root begins where the nodes below it begin. -/
theorem Below.leftEnd_root {c : List Tree} {t : Tree} (hc : Below c t) (x : List Tree) :
    leftEnd (x ++ c ++ [t]) (x ++ c).length = x.length := by
  rw [leftEnd, List.getElem?_concat_length, Option.elim_some, hc.size_root, List.length_append]
  omega

/-- Nodes below a root begin where they begin alone. -/
theorem Below.leftEnd_middle {c : List Tree} {t : Tree} (hc : Below c t) (x : List Tree) {i : Nat}
    (hi : i < c.length) :
    leftEnd (x ++ c ++ [t]) (x.length + i) = x.length + leftEnd c i := by
  rw [leftEnd_append_left (by rw [List.length_append]; omega), leftEnd_append_right hc.closed]

/-! ## 3. Paths

Subtrees may be equal, so a node is known by its path. -/

/-- The way from the root to a node: which child is taken at each step, counted from 0. -/
abbrev Path := List Nat

/-- The subtree at the end of a path. -/
def subtreeAt? : Tree → Path → Option Tree
  | t, [] => some t
  | t, i :: p =>
    match t.children[i]? with
    | some c => c.subtreeAt? p
    | none => none

/-- A node is an ancestor of another. -/
def Above (p q : Path) : Prop := ∃ i r, q = p ++ i :: r

/-- A node is to the left of another: where their paths part, it takes an earlier child. -/
def LeftOf (p q : Path) : Prop := ∃ r i j x y, p = r ++ i :: x ∧ q = r ++ j :: y ∧ i < j

theorem above_nil_iff (q : Path) : Above [] q ↔ q ≠ [] := by
  cases q <;> simp [Above]

theorem not_above_nil (p : Path) : ¬ Above p [] := by
  simp [Above]

/-- Where both paths take a step, it is the same and the rest is above. -/
theorem above_cons_iff (i j : Nat) (p q : Path) : Above (i :: p) (j :: q) ↔ i = j ∧ Above p q := by
  constructor
  · rintro ⟨k, r, h⟩
    obtain ⟨rfl, rfl⟩ := List.cons.inj h
    exact ⟨rfl, k, r, rfl⟩
  · rintro ⟨rfl, k, r, rfl⟩
    exact ⟨k, r, rfl⟩

theorem not_leftOf_nil_left (q : Path) : ¬ LeftOf [] q := by
  simp [LeftOf]

theorem not_leftOf_nil_right (p : Path) : ¬ LeftOf p [] := by
  simp [LeftOf]

/-- Where both paths take a step, the first is earlier, or it is the same and the rest is to the
left. -/
theorem leftOf_cons_iff (i j : Nat) (p q : Path) :
    LeftOf (i :: p) (j :: q) ↔ i < j ∨ i = j ∧ LeftOf p q := by
  constructor
  · rintro ⟨r, k, l, x, y, hp, hq, hkl⟩
    cases r with
    | nil =>
      obtain ⟨rfl, -⟩ := List.cons.inj hp
      obtain ⟨rfl, -⟩ := List.cons.inj hq
      exact Or.inl hkl
    | cons m r =>
      obtain ⟨rfl, rfl⟩ := List.cons.inj hp
      obtain ⟨rfl, rfl⟩ := List.cons.inj hq
      exact Or.inr ⟨rfl, r, k, l, x, y, rfl, rfl, hkl⟩
  · rintro (h | ⟨rfl, r, k, l, x, y, rfl, rfl, hkl⟩)
    · exact ⟨[], i, j, p, q, rfl, rfl, h⟩
    · exact ⟨i :: r, k, l, x, y, rfl, rfl, hkl⟩

/-! ## 4. Paths in postorder

Paths are listed in the same order as subtrees, and the two orders on paths can be read off the
numbers. -/

mutual
/-- The paths of all nodes of a tree in postorder. -/
def paths : Tree → List Path
  | node _ _ cs => forestPaths 0 cs ++ [[]]

/-- The paths of all nodes of several siblings in postorder, the first of them being child `i`. -/
def forestPaths (i : Nat) : List Tree → List Path
  | [] => []
  | t :: rest => t.paths.map (i :: ·) ++ forestPaths (i + 1) rest
end

mutual
theorem length_paths : ∀ t : Tree, t.paths.length = t.nodes.length
  | node k v cs => by rw [paths, nodes, List.length_append, List.length_append,
      length_forestPaths 0 cs, List.length_singleton, List.length_singleton]

theorem length_forestPaths : ∀ (i : Nat) (f : List Tree),
    (forestPaths i f).length = (forestNodes f).length
  | _, [] => rfl
  | i, t :: f => by simp [forestPaths, forestNodes, length_paths t, length_forestPaths (i + 1) f]
end

mutual
/-- Paths and subtrees are listed in the same order. -/
theorem map_subtreeAt?_paths : ∀ t : Tree, t.paths.map t.subtreeAt? = t.nodes.map some
  | node k v cs => by
    have h := map_subtreeAt?_forestPaths k v [] cs
    rw [List.nil_append, List.length_nil] at h
    rw [paths, nodes, List.map_append, List.map_append, h, List.map_singleton, List.map_singleton,
      subtreeAt?]

theorem map_subtreeAt?_forestPaths : ∀ (k v : String) (pre f : List Tree),
    (forestPaths pre.length f).map (node k v (pre ++ f)).subtreeAt? = (forestNodes f).map some
  | k, v, pre, [] => rfl
  | k, v, pre, t :: f => by
    have ht : ∀ p, (node k v (pre ++ t :: f)).subtreeAt? (pre.length :: p) = t.subtreeAt? p := by
      intro p
      simp [subtreeAt?]
    have hf := map_subtreeAt?_forestPaths k v (pre ++ [t]) f
    rw [List.length_append, List.length_singleton, List.append_assoc, List.singleton_append] at hf
    rw [forestPaths, forestNodes, List.map_append, List.map_append, List.map_map, hf,
      ← map_subtreeAt?_paths t]
    simp [ht]
end

/-- The head of every path of siblings counted from `i` is at least `i`. -/
theorem exists_cons_of_mem_forestPaths (f : List Tree) {i : Nat} {p : Path}
    (h : p ∈ forestPaths i f) : ∃ j q, p = j :: q ∧ i ≤ j := by
  induction f generalizing i with
  | nil => simp [forestPaths] at h
  | cons t f ih =>
    rw [forestPaths, List.mem_append, List.mem_map] at h
    rcases h with ⟨q, -, rfl⟩ | h
    · exact ⟨i, q, rfl, Nat.le_refl i⟩
    · obtain ⟨j, q, rfl, hj⟩ := ih h
      exact ⟨j, q, rfl, by omega⟩

/-- An entry of two lists together is one of the first list or one of the second. -/
theorem getElem?_append_some {α : Type} {a b : List α} {i : Nat} {x : α}
    (h : (a ++ b)[i]? = some x) :
    (i < a.length ∧ a[i]? = some x) ∨ ∃ d, i = a.length + d ∧ b[d]? = some x := by
  rcases Nat.lt_or_ge i a.length with hi | hi
  · rw [List.getElem?_append_left hi] at h
    exact Or.inl ⟨hi, h⟩
  · rw [List.getElem?_append_right hi] at h
    exact Or.inr ⟨i - a.length, by omega, h⟩

theorem getElem?_paths {k v : String} {cs : List Tree} {i : Nat} {p : Path}
    (h : (node k v cs).paths[i]? = some p) :
    (i < (forestNodes cs).length ∧ p ≠ [] ∧ (forestPaths 0 cs)[i]? = some p) ∨
      (i = (forestNodes cs).length ∧ p = []) := by
  rw [paths] at h
  rcases getElem?_append_some h with ⟨hi, hp⟩ | ⟨d, rfl, hp⟩
  · obtain ⟨l, q, rfl, -⟩ := exists_cons_of_mem_forestPaths cs (List.mem_of_getElem? hp)
    exact Or.inl ⟨length_forestPaths 0 cs ▸ hi, List.cons_ne_nil l q, hp⟩
  · cases d with
    | zero => exact Or.inr ⟨length_forestPaths 0 cs, by simpa using hp.symm⟩
    | succ d => simp at hp

theorem getElem?_forestPaths_cons {t : Tree} {f : List Tree} {k i : Nat} {p : Path}
    (h : (forestPaths k (t :: f))[i]? = some p) :
    (∃ q, p = k :: q ∧ i < t.nodes.length ∧ t.paths[i]? = some q) ∨
      (∃ d l q, i = t.nodes.length + d ∧ p = l :: q ∧ k < l ∧
        (forestPaths (k + 1) f)[d]? = some p) := by
  rw [forestPaths] at h
  rcases getElem?_append_some h with ⟨hi, hp⟩ | ⟨d, rfl, hp⟩
  · rw [List.length_map, length_paths] at hi
    rw [List.getElem?_map, Option.map_eq_some_iff] at hp
    obtain ⟨q, hq, rfl⟩ := hp
    exact Or.inl ⟨q, rfl, hi, hq⟩
  · obtain ⟨l, q, rfl, hl⟩ := exists_cons_of_mem_forestPaths f (List.mem_of_getElem? hp)
    exact Or.inr ⟨d, l, q, by rw [List.length_map, length_paths], rfl, hl, hp⟩

mutual
/-- **The two orders of a tree are read off the numbers**, in one tree. -/
theorem paths_order : ∀ (t : Tree) {i j : Nat} {p q : Path},
    t.paths[i]? = some p → t.paths[j]? = some q →
    (Above p q ↔ leftEnd t.nodes i ≤ j ∧ j < i) ∧ (LeftOf p q ↔ i < leftEnd t.nodes j)
  | node k v cs, i, j, p, q, hp, hq => by
    have hroot : leftEnd (node k v cs).nodes (forestNodes cs).length = 0 := by
      rw [leftEnd, nodes, List.getElem?_concat_length, Option.elim_some, size, length_forestNodes]
      omega
    have hbelow : ∀ {i}, i < (forestNodes cs).length →
        leftEnd (node k v cs).nodes i = leftEnd (forestNodes cs) i := by
      intro i hi
      rw [nodes, leftEnd_append_left hi]
    rcases getElem?_paths hp with ⟨hi, hp₀, hp⟩ | ⟨rfl, rfl⟩ <;>
      rcases getElem?_paths hq with ⟨hj, hq₀, hq⟩ | ⟨rfl, rfl⟩
    · rw [hbelow hi, hbelow hj]
      exact forestPaths_order cs hp hq
    · simp only [not_above_nil, not_leftOf_nil_right, hroot, false_iff]
      omega
    · have := leftEnd_le (node k v cs).nodes j
      simp only [above_nil_iff, not_leftOf_nil_left, hroot, false_iff, hq₀, ne_eq,
        not_false_eq_true, true_iff]
      omega
    · simp only [not_above_nil, not_leftOf_nil_right, hroot, false_iff]
      omega

/-- And among siblings; the two are shown together, as trees and forests are defined together. -/
theorem forestPaths_order : ∀ (f : List Tree) {k i j : Nat} {p q : Path},
    (forestPaths k f)[i]? = some p → (forestPaths k f)[j]? = some q →
    (Above p q ↔ leftEnd (forestNodes f) i ≤ j ∧ j < i) ∧
      (LeftOf p q ↔ i < leftEnd (forestNodes f) j)
  | [], k, i, j, p, q, hp, _ => by simp [forestPaths] at hp
  | t :: f, k, i, j, p, q, hp, hq => by
    have hfirst : ∀ {i}, i < t.nodes.length →
        leftEnd (forestNodes (t :: f)) i = leftEnd t.nodes i := by
      intro i hi
      rw [forestNodes, leftEnd_append_left hi]
    have hrest : ∀ d, leftEnd (forestNodes (t :: f)) (t.nodes.length + d)
        = t.nodes.length + leftEnd (forestNodes f) d := by
      intro d
      rw [forestNodes, leftEnd_append_right (closed_forestNodes f)]
    rcases getElem?_forestPaths_cons hp with ⟨p, rfl, hi, hp⟩ | ⟨d, l, p, rfl, rfl, hl, hp⟩ <;>
      rcases getElem?_forestPaths_cons hq with ⟨q, rfl, hj, hq⟩ | ⟨e, m, q, rfl, rfl, hm, hq⟩
    · -- both in the first tree
      rw [above_cons_iff, leftOf_cons_iff, hfirst hi, hfirst hj]
      simpa using paths_order t hp hq
    · rw [above_cons_iff, leftOf_cons_iff, hrest]
      omega
    · have := leftEnd_le (forestNodes (t :: f)) j
      rw [above_cons_iff, leftOf_cons_iff, hrest]
      omega
    · -- both in the later trees
      obtain ⟨habove, hleft⟩ := forestPaths_order f hp hq
      rw [hrest, hrest, habove, hleft]
      omega
end

theorem above_irrefl (p : Path) : ¬ Above p p := by
  rintro ⟨i, r, h⟩
  simpa using congrArg List.length h

theorem leftOf_irrefl : ∀ p : Path, ¬ LeftOf p p
  | [] => not_leftOf_nil_left []
  | i :: p => by
    rw [leftOf_cons_iff]
    have := leftOf_irrefl p
    simp [this]

/-- Every node is listed once. -/
theorem nodup_paths (t : Tree) : t.paths.Nodup := by
  rw [List.nodup_iff_getElem?_ne_getElem?]
  intro i j hij hj h
  obtain ⟨p, hp⟩ : ∃ p, t.paths[j]? = some p := ⟨_, List.getElem?_eq_getElem hj⟩
  obtain ⟨habove, hleft⟩ := paths_order t hp (h.trans hp)
  -- node `i` is below node `j` or to its left, and its path is the same
  rcases Nat.lt_or_ge i (leftEnd t.nodes j) with hlt | hge
  · exact leftOf_irrefl p ((paths_order t (h.trans hp) hp).2.mpr hlt)
  · exact above_irrefl p (habove.mpr ⟨hge, hij⟩)

/-- The path and the subtree of one number belong together. -/
theorem getElem?_nodes_of_paths {t : Tree} {i : Nat} {p : Path} (h : t.paths[i]? = some p) :
    t.subtreeAt? p = t.nodes[i]? := by
  have hmap := congrArg (fun l => l[i]?) (map_subtreeAt?_paths t)
  simp only [List.getElem?_map, h, Option.map_some] at hmap
  cases hn : t.nodes[i]? with
  | none => simp [hn] at hmap
  | some u => simpa [hn] using hmap

end Tree

end QueryGrading
