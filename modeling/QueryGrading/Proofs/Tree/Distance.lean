import QueryGrading.Proofs.Tree.Mapping
import QueryGrading.Proofs.Tree.Table

/-!
# The edit distance is least and a metric

`Tree.distance`, which is `tree_edit_distance`, is the least cost of an edit mapping of the two
trees, and with a missing tree read as one without nodes, as in `distance_between`, it is a metric.
Both hold of `forestDistance`, and the table computes that.

The laws for optional trees are those of `forestDistance` on forests of at most one tree, so a
missing tree is no case of its own.
-/

namespace QueryGrading

namespace Tree

/-- **The distance of two trees is the least cost of an edit mapping between them**: some mapping
attains it and none is cheaper. -/
theorem distance_isLeast (s t : Tree) :
    IsLeast {n | ∃ M : EditMapping s t, M.cost = n} (s.distance t) := by
  rw [distance_eq]
  exact isLeast_forestDistance s t

/-- A missing tree is a forest without trees. -/
theorem distance?_eq (x y : Option Tree) : distance? x y = forestDistance x.toList y.toList := by
  cases x <;> cases y <;> simp [distance?, distance_eq, sizes]

/-- **The distance of optional trees is a metric**, and that of two trees is at least the
difference of their sizes and at most the sum. -/
theorem distance?_metric :
    (∀ x y, distance? x y = 0 ↔ x = y) ∧
    (∀ x y, distance? x y = distance? y x) ∧
    (∀ x y z, distance? x z ≤ distance? x y + distance? y z) ∧
    ∀ s t : Tree, ((s.size : Int) - t.size).natAbs ≤ s.distance t ∧
      s.distance t ≤ s.size + t.size := by
  simp only [distance?_eq]
  refine ⟨fun x y => ?_, fun x y => forestDistance_comm _ _,
    fun x y z => forestDistance_triangle _ _ _, fun s t => ?_⟩
  · rw [forestDistance_eq_zero_iff]
    cases x <;> cases y <;> simp
  · have hle := forestDistance_le_sizes [s] [t]
    have hleft := sizes_le_forestDistance [s] [t]
    have hright := sizes_le_forestDistance [t] [s]
    rw [forestDistance_comm] at hright
    rw [sizes_singleton, sizes_singleton, ← distance_eq] at *
    omega

end Tree

end QueryGrading
