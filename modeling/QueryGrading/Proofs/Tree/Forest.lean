import QueryGrading.Tree.Distance

/-!
# The distance of forests

A forest is a list of trees, given here from its last tree to its first, so that the root that comes
last in postorder stands at the head. `forestDistance` is the plain recursion on these roots: either
root is taken away and leaves its children behind, or the two are matched, and then what is below
them is matched and so is what is beside them. It reads no table; that `tree_edit_distance` computes
it is shown with the table.

The recursion treats both sides alike, so it is symmetric (`forestDistance_comm`), and it is zero
only for equal forests (`forestDistance_eq_zero_iff`). Distances of parts add up to a bound for the
whole (`forestDistance_append_le`). This is what the triangle inequality (`forestDistance_triangle`)
needs where the middle root is matched on one side only.

The proofs go by `fun_induction`, or by recursion on the sizes as the definition does. The triangle
inequality has nine cases, for the last step on the way to the middle and the first on the way from
it, and the sums are left to linear arithmetic.
-/

namespace QueryGrading

namespace Tree

/-! ## 1. Parts of a forest -/

/-- The label of a node. -/
def label (t : Tree) : String × String := (t.key, t.value)

/-- A tree is its label and its children. -/
theorem eq_of_label_children {s t : Tree} (hl : s.label = t.label)
    (hc : s.children = t.children) : s = t := by
  cases s
  cases t
  simp_all [label]

theorem sizes_append (f g : List Tree) : sizes (f ++ g) = sizes f + sizes g := by
  induction f with
  | nil => simp [sizes]
  | cons t f ih => simp [sizes, ih, Nat.add_assoc]

theorem sizes_reverse (f : List Tree) : sizes f.reverse = sizes f := by
  induction f with
  | nil => rfl
  | cons t f ih => simp [sizes, sizes_append, ih, Nat.add_comm]

theorem size_eq (t : Tree) : t.size = sizes t.children.reverse + 1 := by
  cases t
  rw [size, sizes_reverse, children_node, Nat.add_comm]

/-- Taking the last root away leaves its children in its place and one node less. -/
theorem sizes_cons (t : Tree) (f : List Tree) :
    sizes (t :: f) = sizes (t.children.reverse ++ f) + 1 := by
  rw [sizes, sizes_append, size_eq]
  omega

/-- Relabeling costs nothing just where the labels are equal. -/
theorem relabelCost_eq_zero_iff (a b : String × String) : relabelCost a b = 0 ↔ a = b := by
  simp [relabelCost]

theorem relabelCost_comm (a b : String × String) : relabelCost a b = relabelCost b a := by
  simp only [relabelCost, eq_comm]

/-- Two relabelings cost no less than one. -/
theorem relabelCost_triangle (a b c : String × String) :
    relabelCost a c ≤ relabelCost a b + relabelCost b c := by
  unfold relabelCost
  split <;> split <;> split <;> simp_all

/-! ## 2. The recursion on last roots -/

/-- The distance of two forests, given from their last tree to their first. -/
def forestDistance : List Tree → List Tree → Nat
  | [], g => sizes g
  | t :: f, [] => sizes (t :: f)
  | t :: f, u :: g =>
    min (min (forestDistance (t.children.reverse ++ f) (u :: g) + 1)
        (forestDistance (t :: f) (u.children.reverse ++ g) + 1))
      (forestDistance f g + forestDistance t.children.reverse u.children.reverse
        + relabelCost t.label u.label)
termination_by f g => sizes f + sizes g
decreasing_by all_goals simp only [sizes_cons, sizes_append]; omega

/-- Against no trees all nodes are inserted. -/
@[simp] theorem forestDistance_nil_left (g : List Tree) : forestDistance [] g = sizes g := by
  rw [forestDistance]

/-- Against no trees all nodes are deleted. -/
@[simp] theorem forestDistance_nil_right (f : List Tree) : forestDistance f [] = sizes f := by
  cases f <;> rw [forestDistance]

/-- The recursion on the last roots. -/
theorem forestDistance_cons (t u : Tree) (f g : List Tree) :
    forestDistance (t :: f) (u :: g) =
      min (min (forestDistance (t.children.reverse ++ f) (u :: g) + 1)
          (forestDistance (t :: f) (u.children.reverse ++ g) + 1))
        (forestDistance f g + forestDistance t.children.reverse u.children.reverse
          + relabelCost t.label u.label) := by
  rw [forestDistance]

/-- The last root on the left may be deleted. -/
theorem forestDistance_delete_le (t : Tree) (f g : List Tree) :
    forestDistance (t :: f) g ≤ forestDistance (t.children.reverse ++ f) g + 1 := by
  cases g with
  | nil => simp [sizes_cons]
  | cons u g =>
    rw [forestDistance_cons]
    exact Nat.le_trans (Nat.min_le_left _ _) (Nat.min_le_left _ _)

/-- The last root on the right may be inserted. -/
theorem forestDistance_insert_le (f : List Tree) (u : Tree) (g : List Tree) :
    forestDistance f (u :: g) ≤ forestDistance f (u.children.reverse ++ g) + 1 := by
  cases f with
  | nil => simp [sizes_cons]
  | cons t f =>
    rw [forestDistance_cons]
    exact Nat.le_trans (Nat.min_le_left _ _) (Nat.min_le_right _ _)

/-- The last roots may be matched. -/
theorem forestDistance_match_le (t u : Tree) (f g : List Tree) :
    forestDistance (t :: f) (u :: g) ≤ forestDistance f g
      + forestDistance t.children.reverse u.children.reverse + relabelCost t.label u.label := by
  rw [forestDistance_cons]
  exact Nat.min_le_right _ _

/-- One of the three steps is taken. -/
theorem forestDistance_cases (t u : Tree) (f g : List Tree) :
    forestDistance (t :: f) (u :: g) = forestDistance (t.children.reverse ++ f) (u :: g) + 1 ∨
    forestDistance (t :: f) (u :: g) = forestDistance (t :: f) (u.children.reverse ++ g) + 1 ∨
    forestDistance (t :: f) (u :: g) = forestDistance f g
      + forestDistance t.children.reverse u.children.reverse + relabelCost t.label u.label := by
  rw [forestDistance_cons]
  omega

/-! ## 3. Symmetry, zero and size -/

/-- The recursion treats both sides alike. -/
theorem forestDistance_comm (f g : List Tree) : forestDistance f g = forestDistance g f := by
  fun_induction forestDistance f g with
  | case1 g => rw [forestDistance_nil_right]
  | case2 t f => rw [forestDistance_nil_left]
  | case3 t f u g ih₁ ih₂ ih₃ ih₄ =>
    rw [forestDistance_cons, ih₁, ih₂, ih₃, ih₄, relabelCost_comm,
      Nat.min_comm (forestDistance (u :: g) _ + 1)]

/-- Only equal forests are at no distance. -/
theorem forestDistance_eq_zero_iff (f g : List Tree) : forestDistance f g = 0 ↔ f = g := by
  fun_induction forestDistance f g with
  | case1 g =>
    cases g with
    | nil => simp [sizes]
    | cons u g => simp [sizes_cons]
  | case2 t f => simp [sizes_cons]
  | case3 t f u g ih₁ ih₂ ih₃ ih₄ =>
    rw [List.cons.injEq]
    constructor
    · intro h
      have hf : f = g := ih₃.mp (by omega)
      have hc := ih₄.mp (by omega)
      have hl := (relabelCost_eq_zero_iff t.label u.label).mp (by omega)
      exact ⟨eq_of_label_children hl (List.reverse_inj.mp hc), hf⟩
    · rintro ⟨rfl, rfl⟩
      have h₃ := ih₃.mpr rfl
      have h₄ := ih₄.mpr rfl
      have hl := (relabelCost_eq_zero_iff t.label t.label).mpr rfl
      omega

/-- All nodes may be deleted and all inserted. -/
theorem forestDistance_le_sizes (f g : List Tree) :
    forestDistance f g ≤ sizes f + sizes g := by
  fun_induction forestDistance f g with
  | case1 g => simp [sizes]
  | case2 t f => simp [sizes]
  | case3 t f u g ih₁ ih₂ ih₃ ih₄ =>
    rw [sizes_cons t f]
    omega

/-- The sizes differ by the distance at most. -/
theorem sizes_le_forestDistance (f g : List Tree) : sizes f ≤ forestDistance f g + sizes g := by
  fun_induction forestDistance f g with
  | case1 g => simp [sizes]
  | case2 t f => simp [sizes]
  | case3 t f u g ih₁ ih₂ ih₃ ih₄ =>
    simp only [sizes_cons, sizes_append] at *
    omega

/-! ## 4. Distances of parts add up -/

/-- Trees in front may be inserted one after another. -/
theorem forestDistance_insert_all_le (f g : List Tree) : ∀ h : List Tree,
    forestDistance f (h ++ g) ≤ sizes h + forestDistance f g
  | [] => by simp [sizes]
  | u :: h => by
    have hstep := forestDistance_insert_le f u (h ++ g)
    have ih := forestDistance_insert_all_le f g (u.children.reverse ++ h)
    rw [List.append_assoc] at ih
    rw [List.cons_append, sizes_cons]
    omega
termination_by h => sizes h
decreasing_by simp only [sizes_cons]; omega

/-- **Forests side by side are no farther apart than their parts together.** -/
theorem forestDistance_append_le (a b f g : List Tree) :
    forestDistance (a ++ f) (b ++ g) ≤ forestDistance a b + forestDistance f g := by
  fun_induction forestDistance a b with
  | case1 b => exact forestDistance_insert_all_le f g b
  | case2 t a =>
    rw [List.nil_append, forestDistance_comm, forestDistance_comm f g]
    exact forestDistance_insert_all_le g f (t :: a)
  | case3 t a u b ih₁ ih₂ ih₃ ih₄ =>
    have h₁ := forestDistance_delete_le t (a ++ f) (u :: (b ++ g))
    have h₂ := forestDistance_insert_le (t :: (a ++ f)) u (b ++ g)
    have h₃ := forestDistance_match_le t u (a ++ f) (b ++ g)
    simp only [List.append_assoc, List.cons_append] at *
    omega

/-- The step that matches two roots may take the distance of the two whole trees instead. -/
theorem forestDistance_cons_trees (t u : Tree) (f g : List Tree) :
    forestDistance (t :: f) (u :: g) =
      min (min (forestDistance (t.children.reverse ++ f) (u :: g) + 1)
          (forestDistance (t :: f) (u.children.reverse ++ g) + 1))
        (forestDistance f g + forestDistance [t] [u]) := by
  have hsplit := forestDistance_append_le [t] [u] f g
  have htree := forestDistance_match_le t u [] []
  have hcases := forestDistance_cases t u f g
  have h₁ := forestDistance_delete_le t f (u :: g)
  have h₂ := forestDistance_insert_le (t :: f) u g
  simp only [List.singleton_append, forestDistance_nil_left, sizes] at *
  omega

/-! ## 5. The triangle inequality -/

/-- **The triangle inequality.**  By induction on all three forests together. If `t` is deleted on
the way to the middle, or `v` inserted on the way from it, one step is taken on both sides of the
inequality. Else the middle root `u` is inserted or matched first and deleted or matched then; if
it is matched on one side only, the parts on that side are put together by
`forestDistance_append_le`. -/
theorem forestDistance_triangle (f g h : List Tree) :
    forestDistance f h ≤ forestDistance f g + forestDistance g h := by
  match f, g, h with
  | [], g, h =>
    have hle := sizes_le_forestDistance h g
    rw [forestDistance_comm h g] at hle
    rw [forestDistance_nil_left, forestDistance_nil_left]
    omega
  | f, g, [] =>
    have hle := sizes_le_forestDistance f g
    rw [forestDistance_nil_right, forestDistance_nil_right]
    exact hle
  | f, [], h =>
    rw [forestDistance_nil_left, forestDistance_nil_right]
    exact forestDistance_le_sizes f h
  | t :: f, u :: g, v :: h =>
    -- the middle root is deleted again, or one end moves alone
    have ih₁ := forestDistance_triangle (t.children.reverse ++ f) (u :: g) (v :: h)
    have ih₂ := forestDistance_triangle (t :: f) (u :: g) (v.children.reverse ++ h)
    have ih₃ := forestDistance_triangle (t :: f) (u.children.reverse ++ g) (v :: h)
    -- the middle root is matched on one side only
    have ih₄ := forestDistance_triangle (t :: f) (u.children.reverse ++ g) (v.children.reverse ++ h)
    have ih₅ := forestDistance_triangle (t.children.reverse ++ f) (u.children.reverse ++ g) (v :: h)
    have left := forestDistance_append_le t.children.reverse u.children.reverse f g
    have right := forestDistance_append_le u.children.reverse v.children.reverse g h
    -- the middle root is matched on both sides
    have ih₆ := forestDistance_triangle f g h
    have ih₇ := forestDistance_triangle t.children.reverse u.children.reverse v.children.reverse
    have hlabel := relabelCost_triangle t.label u.label v.label
    have hdelete := forestDistance_delete_le t f (v :: h)
    have hinsert := forestDistance_insert_le (t :: f) v h
    have hmatch := forestDistance_match_le t v f h
    rcases forestDistance_cases t u f g with h₁ | h₁ | h₁ <;>
      rcases forestDistance_cases u v g h with h₂ | h₂ | h₂ <;> omega
termination_by sizes f + sizes g + sizes h
decreasing_by all_goals simp only [sizes_cons, sizes_append]; omega

end Tree

end QueryGrading
