import QueryGrading.Proofs.Query.Definition
import QueryGrading.Proofs.Query.RowChange
import QueryGrading.Proofs.Query.Table
import QueryGrading.Query.Statement

/-!
# Statements compared with themselves

Statements of one kind are compared by the comparator of that kind, as in `compare_statements`, and
there is one for each of the eight kinds. A statement of any kind has a report on the comparison
with itself. The report is clean for every query, insertion, deletion, assertion, alteration and
view. For a table and for an update it is clean just where no column has two meanings, because their
columns are looked up by name and the first one found counts (`Statement.compare?_self_iff`).

The eight comparators have their laws in their own modules; what remains here is to put them
together. Which statements of two scripts meet at all is a question of their matching.
-/

namespace QueryGrading

namespace Statement

/-- No column that is looked up by its name has two meanings; only the definition of a table and an
update look columns up. -/
def Unambiguous : Statement → Prop
  | create s => s.Unambiguous
  | update s => s.Unambiguous
  | _ => True

/-- **A statement agrees with itself just where it is unambiguous.**  There is always a report; it
says that all is equal and names no incorrect part, unless two columns of one name are declared
differently, or one column is assigned two values. -/
theorem compare?_self_iff (s : Statement) :
    ∃ report, s.compare? s = some report ∧
      (report.equal = true ∧ report.incorrect = [] ↔ s.Unambiguous) := by
  cases s with
  | select q => exact ⟨_, rfl, iff_true_intro q.isClean_compare_self⟩
  | create s => exact ⟨_, rfl, s.isClean_compare_self_iff⟩
  | insert s => exact ⟨_, rfl, iff_true_intro s.isClean_compare_self⟩
  | update s => exact ⟨_, rfl, s.isClean_compare_self_iff⟩
  | delete s => exact ⟨_, rfl, iff_true_intro s.isClean_compare_self⟩
  | assertion s => exact ⟨_, rfl, iff_true_intro s.isClean_compare_self⟩
  | alter s => exact ⟨_, rfl, iff_true_intro s.isClean_compare_self⟩
  | view s => exact ⟨_, rfl, iff_true_intro s.isClean_compare_self⟩

/-- A target of an update that sets an element of an array to an integer: the position does not
belong to the name of the column. -/
def elementTarget (column position value : String) : Tree :=
  let integer := fun n => Tree.node "A_Const" "" [.node "ival" "" [.leaf "ival" n]]
  .node "ResTarget" ""
    [.leaf "name" column,
      .node "indirection" "" [.node "A_Indices" "" [.node "uidx" "" [integer position]]],
      .node "val" "" [integer value]]

/-- Two elements of one array are set: the values go to one column name, and the second is compared
with the first. -/
theorem compare?_self_differs :
    let update := Tree.node "UpdateStmt" ""
      [.node "relation" "" [.leaf "relname" "\"t\""],
        .node "targetList" "" [elementTarget "\"pos\"" "1" "1", elementTarget "\"pos\"" "2" "2"]]
    ∃ s report, ofTree? update = some s ∧ s.compare? s = some report ∧
      report.equal = false ∧ report.incorrect = ["Value for 'pos'"] :=
  ⟨_, _, rfl, rfl, by cbv, by cbv⟩

end Statement

end QueryGrading
