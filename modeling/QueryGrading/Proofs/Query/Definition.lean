import QueryGrading.Proofs.Collection
import QueryGrading.Proofs.Query.Clause
import QueryGrading.Query.AlterTable
import QueryGrading.Query.View

/-!
# Definitions that agree with themselves

Views, assertions and alterations of a table always agree with themselves: they are compared part by
part, and a part with the one at its own place. These are the functions `compare` of views,
assertions and alterations, and `compare_operation`.
-/

namespace QueryGrading

/-! ## 1. Alterations

Alterations are compared position by position. -/

namespace AlterOperation

theorem parameterMismatch_self (n : Nat) (what value : String) :
    parameterMismatch n what value value = "" :=
  if_pos rfl

/-- An operation does not differ from itself. -/
theorem mismatch_self (n : Nat) (op : AlterOperation) : mismatch n op op = "" := by
  simp [mismatch, parameterMismatch_self]

end AlterOperation

namespace AlterTable

/-- An operation is in order where nothing is said of it. -/
theorem isClean_compareOperation_iff (report : Report)
    (item : Nat × AlterOperation × AlterOperation) :
    (compareOperation report item).IsClean ↔
      report.IsClean ∧ AlterOperation.mismatch item.1 item.2.1 item.2.2 = "" := by
  unfold compareOperation
  dsimp only
  split <;> simp [*]

theorem isClean_compare_self (s : AlterTable) : (s.compare s).IsClean := by
  have hoperations : ∀ item ∈ numbered 1 (s.operations.zip s.operations),
      AlterOperation.mismatch item.1 item.2.1 item.2.2 = "" :=
    forall_numbered_zip_self (fun n op _ => AlterOperation.mismatch_self n op) 1
  simp only [compare, ne_eq, not_true, if_true, if_false,
    Report.isClean_foldl_iff isClean_compareOperation_iff]
  exact ⟨by simp, hoperations⟩

end AlterTable

/-! ## 2. Views and assertions

The parts that a view or an assertion may lack are compared with a lack on the other side. -/

namespace View

variable {report : Report}

@[simp] theorem isClean_compareColumns_self (v : View) :
    (compareColumns v v report).IsClean ↔ report.IsClean := by
  rw [compareColumns, if_pos rfl]
  split <;> simp

@[simp] theorem isClean_compareQuery_self (v : View) :
    (compareQuery v v report).IsClean ↔ report.IsClean := by
  unfold compareQuery
  cases v.query with
  | none => rfl
  | some q =>
    have hequal : (q.compare q).equal = true := (Select.isClean_compare_self q).1
    simp [hequal]

theorem isClean_compare_self (v : View) : (v.compare v).IsClean := by
  simp [compare]

end View

theorem Assertion.isClean_compare_self (a : Assertion) : (a.compare a).IsClean := by
  have hcheck := Condition.agrees_compareClause_self "CHECK" a.check
  simp only [compare, Text.sameName_self, if_true]
  split
  · next h => exact absurd h hcheck
  · simp

end QueryGrading
