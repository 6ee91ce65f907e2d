import QueryGrading.Proofs.Repair.Alignment
import QueryGrading.Repair.EditDistance

/-!
# Distances of texts

`edit_distance_with` keeps one row of a table. The table has a row for every beginning of the
target. Its cells are the least costs of turning the beginnings of the source into that one, and a
row follows from the row above (`EditCosts.LeastCosts.rowAfter`). So the distance is the least cost
of an alignment of the characters, whatever the costs of the three changes
(`EditCosts.distance_attained_and_least`).

Where each change costs one, as in `edit_distance`, this is a metric, and it stays one in relation
to the lengths of the texts (`isMetric_editDistance_normalizedDistance`), as
`normalized_edit_distance` has it. The triangle inequality of the latter is no matter of course for
a quotient. It holds because the share of a part in its whole grows with the part, and falls as the
whole grows.

Characters are Unicode scalar values, as `chars` gives them. The normalized distance is taken as a
fraction, so nothing is said of rounding.
-/

namespace QueryGrading

namespace EditCosts

variable {costs : EditCosts} {source target done : List Char} {row : List Nat} {c : Char}
  {n first diagonal left : Nat}

/-! ## 1. The rows of the table

Only one row of the table is kept at a time. The invariant says what its cells are, for each
beginning of the source. -/

/-- The cells of a row behind the beginning `done` of a source that goes on with some characters:
one for each of these, with the least cost of turning the source up to there into the target. -/
def LeastCosts (costs : EditCosts) (target : List Char) : List Char → List Char → List Nat → Prop
  | done, s :: source, n :: row =>
    costs.LeastCost (done ++ [s]) target n ∧ LeastCosts costs target (done ++ [s]) source row
  | _, [], [] => True
  | _, _, _ => False

/-- The first row belongs to the empty target, against which all is deleted. -/
theorem leastCosts_firstRow (source : List Char) (hleft : costs.LeastCost done [] left) :
    ∃ row, firstRow costs left source = left :: row ∧ LeastCosts costs [] done source row := by
  induction source generalizing done left with
  | nil => exact ⟨[], rfl, trivial⟩
  | cons s source ih =>
    have hnext : costs.LeastCost (done ++ [s]) [] (left + costs.delete) := hleft.delete s
    obtain ⟨row, hrow, hcosts⟩ := ih hnext
    refine ⟨(left + costs.delete) :: row, ?_, hnext, hcosts⟩
    rw [firstRow, hrow]

/-- **The cells of a row follow from those of the row above.** -/
theorem LeastCosts.rowAfter (h : LeastCosts costs target done source row)
    (hdiagonal : costs.LeastCost done target diagonal)
    (hleft : costs.LeastCost done (target ++ [c]) left) :
    LeastCosts costs (target ++ [c]) done source
      (EditCosts.rowAfter costs c diagonal left source row) := by
  induction source generalizing done row diagonal left with
  | nil =>
    cases row with
    | nil => trivial
    | cons above row => exact h.elim
  | cons s source ih =>
    cases row with
    | nil => exact h.elim
    | cons above row =>
      obtain ⟨habove, hrest⟩ := h
      have hcell := hleft.cell habove hdiagonal
      exact ⟨hcell, ih hrest habove hcell⟩

/-- The last cell of a row belongs to the whole source. -/
theorem LeastCosts.getLastD (h : LeastCosts costs target done source row)
    (hfirst : costs.LeastCost done target first) :
    costs.LeastCost (done ++ source) target ((first :: row).getLastD 0) := by
  induction source generalizing done row first with
  | nil =>
    cases row with
    | nil => simpa using hfirst
    | cons above row => exact h.elim
  | cons s source ih =>
    cases row with
    | nil => exact h.elim
    | cons above row =>
      obtain ⟨habove, hrest⟩ := h
      have hlast := ih hrest habove
      rwa [List.append_assoc, List.singleton_append] at hlast

/-- Every row starts with the cell of the empty source, and holds the least costs behind it. -/
theorem exists_row (costs : EditCosts) (source target : List Char) :
    ∃ first row, target.foldl (nextRow costs source) (firstRow costs 0 source) = first :: row ∧
      costs.LeastCost [] target first ∧ LeastCosts costs target [] source row := by
  induction target using List.reverseRecOn with
  | nil =>
    have hfirst : costs.LeastCost ([] : List Char) [] 0 := leastCost_nil
    obtain ⟨row, hrow, hcosts⟩ := leastCosts_firstRow source hfirst
    exact ⟨0, row, hrow, hfirst, hcosts⟩
  | append_singleton target c ih =>
    obtain ⟨first, row, hrow, hfirst, hcosts⟩ := ih
    have hfirst' : costs.LeastCost [] (target ++ [c]) (first + costs.insert) := hfirst.insert c
    refine ⟨_, _, ?_, hfirst', hcosts.rowAfter hfirst hfirst'⟩
    rw [List.foldl_concat, hrow, nextRow]

/-! ## 2. The least cost -/

/-- The last cell of the last row is the least cost of the two texts. -/
theorem leastCost_distance (costs : EditCosts) (source target : List Char) :
    costs.LeastCost source target (costs.distance source target) := by
  obtain ⟨first, row, hrow, hfirst, hcosts⟩ := exists_row costs source target
  have hlast := hcosts.getLastD hfirst
  rwa [distance, hrow]

/-- **The distance of two texts is the least cost of an alignment of their characters**, whatever
the costs of the three changes: some alignment attains it and none is cheaper. -/
theorem distance_attained_and_least (costs : EditCosts) (source target : String) :
    costs.Aligns source.toList target.toList (costs.distance source.toList target.toList) ∧
      ∀ n, costs.Aligns source.toList target.toList n →
        costs.distance source.toList target.toList ≤ n := by
  obtain ⟨hattained, hleast⟩ := leastCost_distance costs source.toList target.toList
  exact ⟨hattained, fun n hn => hleast hn⟩

end EditCosts

/-! ## 3. The number of changes

With costs of one the distance is the number of changes, and the laws of a metric follow from
alignments: one that is turned round, and two that are put together. -/

section Unit

variable (a b c : String)

theorem leastCost_editDistance :
    EditCosts.unit.LeastCost a.toList b.toList (editDistance a b) :=
  EditCosts.leastCost_distance _ _ _

theorem editDistance_eq_zero_iff : editDistance a b = 0 ↔ a = b := by
  constructor
  · intro h
    exact String.toList_injective ((leastCost_editDistance a b).1.eq_of_zero h)
  · rintro rfl
    exact Nat.le_zero.mp ((leastCost_editDistance a a).2 (EditCosts.aligns_self _ _))

theorem editDistance_self : editDistance a a = 0 := (editDistance_eq_zero_iff a a).mpr rfl

theorem editDistance_comm : editDistance a b = editDistance b a := by
  have hback : EditCosts.unit.LeastCost b.toList a.toList (editDistance a b) :=
    (leastCost_editDistance a b).flip
  exact hback.unique (leastCost_editDistance b a)

/-- Two alignments, one after the other, are an alignment. -/
theorem editDistance_triangle : editDistance a c ≤ editDistance a b + editDistance b c := by
  obtain ⟨n, hn, halign⟩ := (leastCost_editDistance a b).1.trans (leastCost_editDistance b c).1
  exact ((leastCost_editDistance a c).2 halign).trans hn

/-- The lengths of two texts differ by the distance at most. -/
theorem length_le_add_editDistance : b.length ≤ a.length + editDistance a b := by
  have hlength := (leastCost_editDistance a b).1.length_le
  rwa [String.length_toList, String.length_toList] at hlength

/-- No more than all of both texts has to be changed. -/
theorem editDistance_le_add_length : editDistance a b ≤ a.length + b.length := by
  have hall := (leastCost_editDistance a b).2 (EditCosts.aligns_all _ _ _)
  rw [String.length_toList, String.length_toList] at hall
  simpa [EditCosts.unit] using hall

/-! ## 4. In relation to the lengths

The distance is divided by a length that contains the distance itself. The quotient is monotone in
the distance and antitone in the lengths, which gives the triangle inequality once more. -/

/-- `2d / (|a| + |b| + d)`, where zero by zero is zero. -/
theorem normalizedDistance_eq :
    normalizedDistance a b =
      2 * editDistance a b / (a.length + b.length + editDistance a b) := by
  unfold normalizedDistance
  extract_lets d total
  split
  · next htotal =>
    have hd : editDistance a b = 0 := by omega
    simp [hd]
  · rw [Rat.mkRat_eq_div, Int.ofNat_eq_natCast]
    push_cast [total]
    rfl

theorem normalizedDistance_eq_zero_iff : normalizedDistance a b = 0 ↔ a = b := by
  rw [normalizedDistance_eq, ← editDistance_eq_zero_iff a b]
  constructor
  · intro h
    rcases div_eq_zero_iff.mp h with hd | htotal
    · exact_mod_cast (mul_eq_zero.mp hd).resolve_left two_ne_zero
    · have hsum : a.length + b.length + editDistance a b = 0 := by exact_mod_cast htotal
      omega
  · intro h
    simp [h]

theorem normalizedDistance_comm : normalizedDistance a b = normalizedDistance b a := by
  rw [normalizedDistance_eq, normalizedDistance_eq, editDistance_comm a b,
    add_comm (a.length : ℚ) (b.length : ℚ)]

theorem normalizedDistance_le_one : normalizedDistance a b ≤ 1 := by
  have hle : (editDistance a b : ℚ) ≤ a.length + b.length := by
    exact_mod_cast editDistance_le_add_length a b
  rw [normalizedDistance_eq]
  exact div_le_one_of_le₀ (by linarith) (by positivity)

/-- The share of a part in its whole grows with the part. -/
theorem share_mono {r s t : ℚ} (hr : 0 ≤ r) (hs : 0 ≤ s) (hst : s ≤ t) :
    2 * s / (r + s) ≤ 2 * t / (r + t) := by
  rcases hs.eq_or_lt with rfl | hpos
  · simpa using div_nonneg (by linarith) (add_nonneg hr hst)
  · rw [div_le_div_iff₀ (by linarith) (by linarith)]
    linarith [mul_le_mul_of_nonneg_left hst hr]

/-- It falls as the whole grows. -/
theorem share_anti {s t u : ℚ} (hs : 0 ≤ s) (hst : s ≤ t) (htu : t ≤ u) :
    2 * s / u ≤ 2 * s / t := by
  rcases (hs.trans hst).eq_or_lt with rfl | hpos
  · rw [le_antisymm hst hs]
    simp
  · exact div_le_div_of_nonneg_left (by linarith) hpos htu

/-- The share of the distance between `a` and `c` is at most that of the way over `b`, and this one
is a sum of two. In the whole of either of them `b` stands in place of the other end and the way
there, which are not shorter together. -/
theorem normalizedDistance_triangle :
    normalizedDistance a c ≤ normalizedDistance a b + normalizedDistance b c := by
  simp only [normalizedDistance_eq]
  have htriangle : (editDistance a c : ℚ) ≤ editDistance a b + editDistance b c := by
    exact_mod_cast editDistance_triangle a b c
  have hright : (b.length : ℚ) ≤ c.length + editDistance b c := by
    rw [editDistance_comm b c]
    exact_mod_cast length_le_add_editDistance c b
  have hleft : (b.length : ℚ) ≤ a.length + editDistance a b := by
    exact_mod_cast length_le_add_editDistance a b
  -- the share grows to that of the way over `b`, is split, and each part is put over a smaller
  -- whole
  calc 2 * (editDistance a c : ℚ) / (a.length + c.length + editDistance a c)
    _ ≤ 2 * (editDistance a b + editDistance b c : ℚ) /
          (a.length + c.length + (editDistance a b + editDistance b c)) :=
        share_mono (by positivity) (by positivity) htriangle
    _ = 2 * (editDistance a b : ℚ) /
            (a.length + c.length + (editDistance a b + editDistance b c)) +
          2 * (editDistance b c : ℚ) /
            (a.length + c.length + (editDistance a b + editDistance b c)) := by
        rw [mul_add, add_div]
    _ ≤ 2 * (editDistance a b : ℚ) / (a.length + b.length + editDistance a b) +
          2 * (editDistance b c : ℚ) / (b.length + c.length + editDistance b c) := by
        refine add_le_add (share_anti ?_ ?_ ?_) (share_anti ?_ ?_ ?_)
        · positivity
        · linarith
        · linarith
        · positivity
        · linarith
        · linarith

end Unit

/-- The laws of a distance. -/
structure IsMetric {α K : Type} [Zero K] [Add K] [LE K] (d : α → α → K) : Prop where
  eq_zero_iff : ∀ a b, d a b = 0 ↔ a = b
  comm : ∀ a b, d a b = d b a
  triangle : ∀ a b c, d a c ≤ d a b + d b c

/-- **The number of changes between two texts is a metric, and it stays one in relation to their
lengths**, where it is at most one. -/
theorem isMetric_editDistance_normalizedDistance :
    IsMetric editDistance ∧ IsMetric normalizedDistance ∧
      ∀ a b, normalizedDistance a b =
          2 * editDistance a b / (a.length + b.length + editDistance a b) ∧
        normalizedDistance a b ≤ 1 :=
  ⟨⟨editDistance_eq_zero_iff, editDistance_comm, editDistance_triangle⟩,
    ⟨normalizedDistance_eq_zero_iff, normalizedDistance_comm, normalizedDistance_triangle⟩,
    fun a b => ⟨normalizedDistance_eq a b, normalizedDistance_le_one a b⟩⟩

end QueryGrading
