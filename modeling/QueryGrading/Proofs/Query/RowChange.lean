import QueryGrading.Proofs.Collection
import QueryGrading.Proofs.Query.Clause
import QueryGrading.Query.Insert
import QueryGrading.Query.Update

/-!
# Changes of rows that agree with themselves

Insertions and deletions always agree with themselves. An update does just where it gives a column
that it assigns several times one value (`Update.Unambiguous`): an assignment of the reference is
looked up by its column with `find`, and the first one found need not be the assignment itself.

The functions are the `compare` of insertions, updates and deletions, and `compare_rows`. Each part
has its law, in the order in which the comparator adds it: the table, the columns or assignments,
the rows or sources, the filter. A value of the reference may be the placeholder that accepts any
value (`Accepts`); compared with itself it is accepted like every other.

The laws on cells, rows and columns are stated for two statements, since what two equal insertions
have in common is read off them as well.
-/

namespace QueryGrading

variable {report : Report}

/-! ## 1. INSERT

The rows of an insertion are compared after they were put in the order of the reference; this is a
property of each cell. -/

namespace Insert

/-- The value of the reference is the value found, or stands for any value. -/
def Accepts (expected found : String) : Prop := expected = anyValue ∨ expected = found

/-- A cell agrees if its value is accepted. -/
theorem isClean_compareCell_iff (row : Nat) (report : Report) (cell : Nat × String × String) :
    (compareCell row report cell).IsClean ↔ report.IsClean ∧ Accepts cell.2.1 cell.2.2 := by
  unfold compareCell Accepts
  dsimp only
  split <;> simp [*]

/-- A row of values agrees where it is as long and agrees cell by cell. -/
theorem isClean_compareRow_iff (report : Report) (row : Nat × List String × List String) :
    (compareRow report row).IsClean ↔
      report.IsClean ∧ List.Forall₂ Accepts row.2.1 row.2.2 := by
  unfold compareRow
  dsimp only
  split
  · next h =>
    have hfail : ¬ (failLength report row.1 row.2.1 row.2.2).IsClean := by
      unfold failLength
      split <;> exact Report.not_isClean_failWith _ _ _
    exact iff_of_false hfail fun hrow => h hrow.2.length_eq
  · next h =>
    rw [Report.isClean_foldl_iff (isClean_compareCell_iff row.1),
      forall_numbered_zip_iff (not_not.mp h)]

/-- Rows agree where there are as many of them and they agree one by one. -/
theorem isClean_compareRows_iff (expected found : List (List String)) :
    (compareRows expected found report).IsClean ↔
      report.IsClean ∧ List.Forall₂ (List.Forall₂ Accepts) expected found := by
  unfold compareRows
  split
  · next h =>
    simp only [Bool.and_eq_true, List.isEmpty_iff] at h
    rw [h.1, h.2]
    exact (and_iff_left .nil).symm
  · split
    · next h =>
      exact iff_of_false (Report.not_isClean_failWith _ _ _) fun hrows => h hrows.2.length_eq
    · next h =>
      have hfold : ((numbered 1 (expected.zip found)).foldl compareRow report).IsClean ↔
          report.IsClean ∧ List.Forall₂ (List.Forall₂ Accepts) expected found := by
        rw [Report.isClean_foldl_iff isClean_compareRow_iff,
          forall_numbered_zip_iff (not_not.mp h)]
      dsimp only
      split <;> exact hfold

@[simp] theorem isClean_compareRows_self (rows : List (List String)) :
    (compareRows rows rows report).IsClean ↔ report.IsClean := by
  rw [isClean_compareRows_iff, and_iff_left_iff_imp]
  intro _
  simp only [List.forall₂_same]
  exact fun _ _ _ _ => .inr rfl

/-- The columns agree if they have the same names, up to case and order. -/
theorem isClean_compareColumns_iff (r s : Insert) :
    (compareColumns r s report).IsClean ↔
      report.IsClean ∧ (r.columns.map Text.lower).Perm (s.columns.map Text.lower) := by
  rw [← sorted_eq_iff]
  unfold compareColumns
  dsimp only
  split
  · next h => split <;> simp [h]
  · next h => simp [h]

@[simp] theorem isClean_compareColumns_self (s : Insert) :
    (compareColumns s s report).IsClean ↔ report.IsClean := by
  rw [isClean_compareColumns_iff, and_iff_left (List.Perm.refl _)]

@[simp] theorem isClean_compareSources_self (s : Insert) :
    (compareSources s s report).IsClean ↔ report.IsClean := by
  unfold compareSources
  cases s.source with
  | values rows => exact isClean_compareRows_self _
  | query q =>
    have hequal : (q.compare q).equal = true := (Select.isClean_compare_self q).1
    simp [hequal]
  | defaults => exact Report.isClean_pass_iff _

theorem isClean_compare_self (s : Insert) : (s.compare s).IsClean := by
  simp [compare]

end Insert

/-! ## 2. UPDATE

`compare` looks each column up by name, so of several assignments to one column only the first is
seen. This is why an update may differ from itself. -/

namespace Update

/-- A column that is assigned several times is assigned one value. -/
def Unambiguous (s : Update) : Prop :=
  ∀ a ∈ s.set, ∀ b ∈ s.set, Text.sameName a.column b.column = true → a.value = b.value

/-- An update assigns a value to a column if the first assignment to the column does. -/
theorem assigns_iff (s : Update) (a : Assigned) :
    s.assigns a = true ↔ (s.assigned? a.column).map Assigned.value = some a.value := by
  unfold assigns
  cases s.assigned? a.column <;> simp

/-- An assignment of the reference agrees if the submission makes it. -/
theorem isClean_compareAssigned_iff (s : Update) (report : Report) (a : Assigned) :
    (compareAssigned s report a).IsClean ↔ report.IsClean ∧ s.assigns a = true := by
  unfold compareAssigned assigns
  cases s.assigned? a.column with
  | none => simp
  | some b =>
    dsimp only
    split <;> simp [*]

/-- Every assignment is found again where no column is assigned two values. -/
theorem forall_assigns_iff (s : Update) :
    (∀ a ∈ s.set, s.assigns a = true) ↔ s.Unambiguous := by
  simp only [assigns_iff, Unambiguous, Text.sameName, beq_iff_eq]
  exact forall_find?_key_iff (fun a : Assigned => Text.asciiLower a.column) Assigned.value s.set

/-- The update has as many assignments as the other, and makes every one of them. -/
def Covers (s r : Update) : Prop :=
  r.set.length = s.set.length ∧ ∀ a ∈ r.set, s.assigns a = true

/-- The assignments agree where those of the reference are covered. -/
theorem isClean_compareSet_iff (r s : Update) :
    (compareSet r s report).IsClean ↔ report.IsClean ∧ s.Covers r := by
  have hfold := Report.isClean_foldl_iff (isClean_compareAssigned_iff s) r.set
  unfold compareSet Covers
  dsimp only
  by_cases hcount : r.set.length = s.set.length
  · simp only [hcount, beq_self_eq_true, if_true, Bool.true_and, true_and]
    split <;> simp [hfold]
  · have hne : (r.set.length == s.set.length) = false := beq_false_of_ne hcount
    simp [hne, hcount, hfold]

/-- An update agrees with another in its table, its assignments, its sources and its filter. -/
theorem isClean_compare_iff (r s : Update) :
    (r.compare s).IsClean ↔ Text.sameName r.table s.table = true ∧ s.Covers r ∧
      (r.sources.compare s.sources).Agrees ∧
      (Condition.compareClause "WHERE" r.filter s.filter).Agrees := by
  unfold compare
  extract_lets target set sources report filter
  have htarget : target.IsClean ↔ Text.sameName r.table s.table = true := by
    unfold target
    split <;> simp [*]
  have hset : set.IsClean ↔ Text.sameName r.table s.table = true ∧ s.Covers r := by
    rw [← htarget]
    exact isClean_compareSet_iff r s
  -- a clause that both statements lack agrees
  have hreport : report.IsClean ↔ set.IsClean ∧ sources.Agrees := by
    unfold report
    split
    · next habsent => exact (and_iff_left (.of_absent habsent)).symm
    · exact Report.isClean_addClause_iff _ _
  -- the parts in the order in which they were added
  rw [← and_assoc, ← hset, ← and_assoc, ← hreport]
  split
  · next habsent => exact (and_iff_left (.of_absent habsent)).symm
  · exact Report.isClean_addClause_iff _ _

/-- **An update agrees with itself just where it assigns no column two values.** -/
theorem isClean_compare_self_iff (s : Update) : (s.compare s).IsClean ↔ s.Unambiguous := by
  rw [isClean_compare_iff, Covers, forall_assigns_iff]
  simp

end Update

/-! ## 3. DELETE -/

theorem Delete.isClean_compare_self (s : Delete) : (s.compare s).IsClean := by
  have hsources := FromClause.agrees_compare_self s.sources
  simp only [compare, Text.sameName_self, if_true]
  cases hout : (s.sources.compare s.sources).outcome with
  | incorrect => exact absurd hout hsources
  | absent => split <;> simp
  | correct => split <;> simp

end QueryGrading
