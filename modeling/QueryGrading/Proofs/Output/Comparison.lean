import QueryGrading.Output.Comparison
import QueryGrading.Proofs.Output.Grid

/-!
# When rows count as equal

`Grid.compare` says that two tables are equal when nothing of their canonical forms is left over.
`compare_equal_iff` shows that this happens only if the canonical forms are the same, so the
measures of the comparison never mistake one table for another.

The canonical form itself depends on the order of the rows: columns are compared from the first row
down, so that another row order may rank them in another way. `row_order_iff` says exactly when the
order of the rows makes no difference: when sorting the columns leaves the same rows.

`compare_rows` calls `canonicalize` on each grid, and only then asks for containment
(`is_sequence_contained`) and counts what is left of both grids (`max_overlap`). The columns are
sorted there before the rows, while the rows still stand as the query returned them.
-/

namespace QueryGrading

/-- What a comparison says in numbers: equal, all there, how far apart. -/
def OutputReport.verdict (r : OutputReport) : Bool × Bool × Nat := (r.equal, r.subset, r.difference)

namespace Grid

variable {w w₁ w₂ : Nat} {g a b : Grid} {ordered : Bool}

/-! ## 1. Two grids in canonical order

The report is made of two numbers only: how far the grids are apart, and whether one is part of the
other. -/

theorem difference_self (g : Grid) : difference g g = 0 := by
  have hcells := cells_le_overlap g
  unfold difference
  omega

/-- Two tables are nowhere apart exactly when they are equal. -/
theorem difference_eq_zero_iff (ha : IsTable w₁ a) (hb : IsTable w₂ b) :
    difference a b = 0 ↔ a = b := by
  constructor
  · intro h
    by_contra hne
    have hlt : ∀ down right, 2 * overlapAt down right a b < a.cells + b.cells := fun down right =>
      Nat.lt_of_not_le fun hle => hne (eq_of_le_overlapAt ha hb hle)
    have hmax : overlap a b ≤ (a.cells + b.cells - 1) / 2 :=
      (overlap_le_iff a b _).mpr fun down right => by
        have := hlt down right
        omega
    have hpos := hlt 0 0
    unfold difference at h
    omega
  · rintro rfl
    exact difference_self a

theorem hasRun_self (r : Row) : hasRun r r = true := by
  cases r with
  | nil => rfl
  | cons x r => simp [hasRun]

theorem embeds_self : ∀ g : Grid, g.embeds g = true
  | [] => rfl
  | r :: g => by rw [embeds, if_pos (hasRun_self r), embeds_self g]

theorem isPart_self (g : Grid) : g.isPart g = true := by
  simp [isPart, embeds_self]

/-- The verdict by the two measures: whether one grid is part of the other, and how much is left of
both. -/
theorem verdict_compareCanonical (a b : Grid) :
    (compareCanonical a b).verdict =
      (a.isPart b && decide (difference a b = 0), a.isPart b, difference a b) := by
  simp only [compareCanonical, OutputReport.verdict]
  cases a.isPart b with
  | false => rfl
  | true =>
    by_cases hd : difference a b = 0
    · simp [hd, OutputReport.matching]
    · simp [hd]

/-- Only the grid itself is part of a table and leaves nothing over. -/
theorem compareCanonical_equal_iff (ha : IsTable w₁ a) (hb : IsTable w₂ b) :
    (compareCanonical a b).equal = true ↔ a = b := by
  have hv : (compareCanonical a b).equal = (a.isPart b && decide (difference a b = 0)) :=
    congrArg Prod.fst (verdict_compareCanonical a b)
  rw [hv, Bool.and_eq_true, decide_eq_true_eq, difference_eq_zero_iff ha hb]
  constructor
  · exact fun h => h.2
  · rintro rfl
    exact ⟨isPart_self a, rfl⟩

theorem verdict_compareCanonical_self (g : Grid) :
    (compareCanonical g g).verdict = (true, true, 0) := by
  simp [verdict_compareCanonical, difference_self, isPart_self]

/-! ## 2. Two grids as they are returned

The report on two grids is that on their canonical forms, so what does not change these changes
nothing. -/

theorem compare_eq (ordered : Bool) (ha : a ≠ []) (hb : b ≠ []) :
    compare ordered a b = compareCanonical (a.canonical ordered) (b.canonical ordered) := by
  match a, b, ha, hb with
  | _ :: _, _ :: _, _, _ => rfl

/-- **Equal means the same canonical form.** -/
theorem compare_equal_iff (ha : IsTable w₁ a) (hb : IsTable w₂ b) :
    (compare ordered a b).equal = true ↔ a.canonical ordered = b.canonical ordered := by
  rw [compare_eq ordered ha.rows hb.rows]
  exact compareCanonical_equal_iff (ha.isTable_canonical ordered) (hb.isTable_canonical ordered)

theorem verdict_compare_of_canonical_eq (ha : IsTable w₁ a) (hb : IsTable w₂ b)
    (h : a.canonical ordered = b.canonical ordered) :
    (compare ordered a b).verdict = (true, true, 0) := by
  rw [compare_eq ordered ha.rows hb.rows, ← h]
  exact verdict_compareCanonical_self _

theorem canonical_eq_of_verdict (ha : IsTable w₁ a) (hb : IsTable w₂ b)
    (h : (compare ordered a b).verdict = (true, true, 0)) :
    a.canonical ordered = b.canonical ordered :=
  (compare_equal_iff ha hb).mp (congrArg Prod.fst h)

/-! ## 3. The order of the rows

The columns are sorted as the rows come, and the rows afterwards. Where another order of the rows
sorts the columns in another way, the canonical form is another one. -/

/-- **When the order of the rows makes no difference.**  Let `b` be a table `a` with its rows in
another order. Then `a` and `b` compare as equal, and every table compares with `b` as it does with
`a`, on either side, exactly when sorting the columns leaves the same rows in both. -/
theorem row_order_iff (ha : IsTable w a) (hp : b.Perm a) :
    ((compare false a b).verdict = (true, true, 0) ↔ a.sortColumns.Perm b.sortColumns) ∧
    ((∀ k g, IsTable k g → (compare false a g).verdict = (compare false b g).verdict) ↔
      a.sortColumns.Perm b.sortColumns) ∧
    ((∀ k g, IsTable k g → (compare false g a).verdict = (compare false g b).verdict) ↔
      a.sortColumns.Perm b.sortColumns) := by
  have hb := ha.of_perm hp
  simp only [← canonical_eq_iff]
  refine ⟨⟨canonical_eq_of_verdict ha hb, verdict_compare_of_canonical_eq ha hb⟩,
    ⟨fun h => ?_, fun h k g hg => ?_⟩, ⟨fun h => ?_, fun h k g hg => ?_⟩⟩
  · -- what `b` says of itself, `a` says of `b`
    exact canonical_eq_of_verdict ha hb
      ((h w b hb).trans (verdict_compare_of_canonical_eq hb hb rfl))
  · rw [compare_eq false ha.rows hg.rows, compare_eq false hb.rows hg.rows, h]
  · exact canonical_eq_of_verdict ha hb
      ((h w a ha).symm.trans (verdict_compare_of_canonical_eq ha ha rfl))
  · rw [compare_eq false hg.rows ha.rows, compare_eq false hg.rows hb.rows, h]

/-- Where both columns ascend from row to row, they keep their places in every order of rows. -/
theorem row_order_shuffled :
    IsTable 2 [["1", "Ada"], ["2", "Grace"], ["3", "Linus"]] ∧
    List.Perm [["3", "Linus"], ["1", "Ada"], ["2", "Grace"]]
      [["1", "Ada"], ["2", "Grace"], ["3", "Linus"]] ∧
    (compare false [["1", "Ada"], ["2", "Grace"], ["3", "Linus"]]
      [["3", "Linus"], ["1", "Ada"], ["2", "Grace"]]).verdict = (true, true, 0) := by
  have ht : IsTable 2 [["1", "Ada"], ["2", "Grace"], ["3", "Linus"]] :=
    ⟨by decide, by decide, by decide⟩
  have hp : List.Perm [["3", "Linus"], ["1", "Ada"], ["2", "Grace"]]
      [["1", "Ada"], ["2", "Grace"], ["3", "Linus"]] := by decide
  have hs : sortColumns [["1", "Ada"], ["2", "Grace"], ["3", "Linus"]]
      = [["1", "Ada"], ["2", "Grace"], ["3", "Linus"]] := by cbv
  have hs' : sortColumns [["3", "Linus"], ["1", "Ada"], ["2", "Grace"]]
      = [["3", "Linus"], ["1", "Ada"], ["2", "Grace"]] := by cbv
  exact ⟨ht, hp, (row_order_iff ht hp).1.mpr (by rw [hs, hs']; exact hp.symm)⟩

/-- Two rows in the other order can make the columns change places, and then nothing fits. -/
theorem row_order_matters :
    IsTable 2 [["1", "2"], ["3", "1"]] ∧
    List.Perm [["3", "1"], ["1", "2"]] [["1", "2"], ["3", "1"]] ∧
    (compare false [["1", "2"], ["3", "1"]] [["3", "1"], ["1", "2"]]).verdict
      = (false, false, 4) :=
  ⟨⟨by decide, by decide, by decide⟩, by decide, by cbv⟩

/-! ## 4. An output and itself -/

theorem compare_self_equal (ordered : Bool) (g : Grid) : (compare ordered g g).equal = true := by
  cases g with
  | nil => rfl
  | cons r rest => exact congrArg Prod.fst (verdict_compareCanonical_self _)

end Grid

theorem leftover_self {α : Type} [BEq α] [LawfulBEq α] : ∀ xs : List α, leftover xs xs = []
  | [] => rfl
  | x :: xs => by
    rw [leftover, if_pos (by simp), List.erase_cons_head, leftover_self xs]

/-- **Every output equals itself**: rows of any lengths, in both modes, and changes. -/
theorem Output.compare_self_equal (ordered : Bool) (o : Output) :
    (Output.compare ordered o o).equal = true := by
  cases o with
  | rows g => exact Grid.compare_self_equal ordered g
  | changes cs => simp [Output.compare, Change.compare, leftover_self]

end QueryGrading
