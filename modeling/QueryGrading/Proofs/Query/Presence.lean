import QueryGrading.Proofs.Query.Clause
import QueryGrading.Query.Statement

/-!
# Clauses that are present

A clause such as `WHERE` counts as present if its expression states a condition, and only then:
`extract_clause` gives what `extract_condition` makes of the expression, and that may be nothing.
`Tree.StatesCondition` says which expressions do state one: operators of the kinds that
`extract_operator_expression` knows, connectives, tests for null and subqueries of the known kinds,
and negations of these. A negated connective `NOT_EXPR` takes the first of its arguments that states
a condition.

Where one of two statements has a `WHERE` clause and the other has none, the report names the clause
just where its expression states a condition (`Statement.where_presence_iff`); a bare column, for
one, is taken for no clause at all. The statements are queries, updates and deletions. The
conditions of joins and of checks are read elsewhere, with a fall back on the text of the expression
(`conditionOrForm`), and are never without a form.

`condition?` is one large match in which each key has a branch of its own. Section 1 states it as
one equation for each key, and every later proof about it, also on renamed trees, cites these.
-/

namespace QueryGrading

namespace Tree

/-! ## 1. Expressions that state a condition

`extract_condition` returns nothing for a node of a kind that it does not know. Which nodes have a
condition is a property of the tree alone, and does not depend on the scope. -/

/-- The kinds of operator expressions that state a condition, negations apart. -/
def operatorKinds : List String :=
  ["AEXPR_OP", "AEXPR_IN", "AEXPR_LIKE", "AEXPR_ILIKE", "AEXPR_BETWEEN", "AEXPR_NOT_BETWEEN"]

/-- The kinds of subqueries that state a condition. -/
def subqueryKinds : List String :=
  ["EXISTS_SUBLINK", "ANY_SUBLINK", "ALL_SUBLINK", "EXPR_SUBLINK"]

/-- The expression states a condition. A negation does if what it negates does. -/
inductive StatesCondition : Tree → Prop
  | operator {t : Tree} (hkey : t.key = "A_Expr") (hkind : t.valueOf "kind" ∈ operatorKinds) :
    StatesCondition t
  | negated {t e : Tree} (hkey : t.key = "A_Expr") (hkind : t.valueOf "kind" = "AEXPR_NOT")
    (he : t.wrapped? "rexpr" = some e) (h : StatesCondition e) : StatesCondition t
  | connected {t : Tree} (hkey : t.key = "BoolExpr")
    (hop : t.valueOf "boolop" ∈ ["AND_EXPR", "OR_EXPR"]) : StatesCondition t
  | complement {t e : Tree} (hkey : t.key = "BoolExpr") (hop : t.valueOf "boolop" = "NOT_EXPR")
    (he : e ∈ t.under "args") (h : StatesCondition e) : StatesCondition t
  | nullTest {t : Tree} (hkey : t.key = "NullTest")
    (htype : t.valueOf "nulltesttype" ∈ ["IS_NULL", "IS_NOT_NULL"]) : StatesCondition t
  | subquery {t : Tree} (hkey : t.key = "SubLink")
    (htype : t.valueOf "subLinkType" ∈ subqueryKinds) : StatesCondition t

/-- An operator expression that is no negation states a condition by its kind alone. -/
theorem isSome_operatorCondition?_iff (scope : Scope) (t : Tree) :
    (t.operatorCondition? scope).isSome ↔ t.valueOf "kind" ∈ operatorKinds := by
  unfold operatorCondition? operatorKinds
  dsimp only
  split <;> simp_all

/-- A test for null states a condition if it says which test it is. -/
theorem isSome_nullCondition?_iff (scope : Scope) (t : Tree) :
    (t.nullCondition? scope).isSome ↔ t.valueOf "nulltesttype" ∈ ["IS_NULL", "IS_NOT_NULL"] := by
  unfold nullCondition?
  split <;> simp_all

/-- A subquery states a condition by its kind alone. -/
theorem isSome_subqueryCondition?_iff (scope : Scope) (t : Tree) :
    (t.subqueryCondition? scope).isSome ↔ t.valueOf "subLinkType" ∈ subqueryKinds := by
  unfold subqueryCondition? subqueryKinds
  dsimp only
  split <;> simp_all

/-- A conjunction or disjunction may be without parts, a negation may not. -/
theorem isSome_connect?_iff (connective : String) (parts : List Condition) :
    (connect? connective parts).isSome ↔
      connective ∈ ["AND_EXPR", "OR_EXPR"] ∨ connective = "NOT_EXPR" ∧ parts ≠ [] := by
  unfold connect?
  split <;> simp_all [List.ne_nil_iff_exists_cons]

section Rules

variable {t : Tree} (scope : Scope)

/-- The condition of a negated expression. -/
theorem condition?_of_negation (hkey : t.key = "A_Expr") (hkind : t.valueOf "kind" = "AEXPR_NOT") :
    t.condition? scope = (t.wrapped? "rexpr").bind fun e => (e.condition? scope).map .not := by
  rw [condition?]
  simp only [hkey, hkind, if_true]
  split <;> simp [*]

/-- The condition of an operator. -/
theorem condition?_of_operator (hkey : t.key = "A_Expr") (hkind : t.valueOf "kind" ≠ "AEXPR_NOT") :
    t.condition? scope = t.operatorCondition? scope := by
  rw [condition?]
  simp only [hkey, hkind, if_false]

/-- The condition of a connective, by those of its arguments that state one. -/
theorem condition?_of_connective (hkey : t.key = "BoolExpr") :
    t.condition? scope =
      connect? (t.valueOf "boolop") ((t.under "args").filterMap (condition? scope)) := by
  rw [condition?]
  simp only [hkey]
  congr 1
  simp

/-- The condition of a test for null. -/
theorem condition?_of_nullTest (hkey : t.key = "NullTest") :
    t.condition? scope = t.nullCondition? scope := by
  rw [condition?]
  simp only [hkey]

/-- The condition of a subquery. -/
theorem condition?_of_subquery (hkey : t.key = "SubLink") :
    t.condition? scope = t.subqueryCondition? scope := by
  rw [condition?]
  simp only [hkey]

/-- No other node has a condition. -/
theorem condition?_of_other (hkey : t.key ∉ ["A_Expr", "BoolExpr", "NullTest", "SubLink"]) :
    t.condition? scope = none := by
  rw [condition?]
  split <;> simp_all

end Rules

/-- What states a condition has one in every scope. -/
theorem StatesCondition.isSome_condition? {t : Tree} (h : t.StatesCondition) (scope : Scope) :
    (t.condition? scope).isSome := by
  induction h with
  | @operator t hkey hkind =>
    have hnot : t.valueOf "kind" ≠ "AEXPR_NOT" := by
      intro hkind'
      rw [hkind'] at hkind
      exact absurd hkind (by decide)
    rw [condition?_of_operator scope hkey hnot, isSome_operatorCondition?_iff]
    exact hkind
  | negated hkey hkind he _ ih => simp [condition?_of_negation scope hkey hkind, he, ih]
  | connected hkey hop =>
    rw [condition?_of_connective scope hkey, isSome_connect?_iff]
    exact .inl hop
  | complement hkey hop he _ ih =>
    obtain ⟨c, hc⟩ := Option.isSome_iff_exists.mp ih
    rw [condition?_of_connective scope hkey, isSome_connect?_iff]
    exact .inr ⟨hop, List.ne_nil_of_mem (List.mem_filterMap.mpr ⟨_, he, hc⟩)⟩
  | nullTest hkey htype =>
    rw [condition?_of_nullTest scope hkey, isSome_nullCondition?_iff]
    exact htype
  | subquery hkey htype =>
    rw [condition?_of_subquery scope hkey, isSome_subqueryCondition?_iff]
    exact htype

/-- The five equations cover every node. -/
theorem key_cases (t : Tree) : t.key = "A_Expr" ∨ t.key = "BoolExpr" ∨ t.key = "NullTest" ∨
    t.key = "SubLink" ∨ t.key ∉ ["A_Expr", "BoolExpr", "NullTest", "SubLink"] := by
  simp only [List.mem_cons, List.not_mem_nil, or_false]
  tauto

/-- What has a condition in some scope states one. -/
theorem statesCondition_of_isSome (scope : Scope) (t : Tree) (h : (t.condition? scope).isSome) :
    t.StatesCondition := by
  obtain hexpr | hbool | hnull | hsub | hother := key_cases t
  · by_cases hkind : t.valueOf "kind" = "AEXPR_NOT"
    · rw [condition?_of_negation scope hexpr hkind] at h
      obtain ⟨c, hc⟩ := Option.isSome_iff_exists.mp h
      obtain ⟨e, he, hec⟩ := Option.bind_eq_some_iff.mp hc
      obtain ⟨p, hp, -⟩ := Option.map_eq_some_iff.mp hec
      -- the negated expression is smaller
      have hsize : sizeOf e < sizeOf t := sizeOf_wrapped? he
      exact .negated hexpr hkind he (statesCondition_of_isSome scope e (Option.isSome_of_mem hp))
    · rw [condition?_of_operator scope hexpr hkind, isSome_operatorCondition?_iff] at h
      exact .operator hexpr h
  · rw [condition?_of_connective scope hbool, isSome_connect?_iff] at h
    obtain hop | ⟨hop, hparts⟩ := h
    · exact .connected hbool hop
    · obtain ⟨c, hc⟩ := List.exists_mem_of_ne_nil _ hparts
      obtain ⟨e, he, hec⟩ := List.mem_filterMap.mp hc
      -- and so is every argument
      have hsize : sizeOf e < sizeOf t := sizeOf_under he
      exact .complement hbool hop he (statesCondition_of_isSome scope e (Option.isSome_of_mem hec))
  · rw [condition?_of_nullTest scope hnull, isSome_nullCondition?_iff] at h
    exact .nullTest hnull h
  · rw [condition?_of_subquery scope hsub, isSome_subqueryCondition?_iff] at h
    exact .subquery hsub h
  · rw [condition?_of_other scope hother] at h
    exact absurd h (by simp)
termination_by t

/-- **An expression has a condition in every scope if it states one, and in none if it does
not.** -/
theorem isSome_condition?_iff (scope : Scope) (t : Tree) :
    (t.condition? scope).isSome ↔ t.StatesCondition :=
  ⟨statesCondition_of_isSome scope t, fun h => h.isSome_condition? scope⟩

instance decidableStatesCondition (t : Tree) : Decidable t.StatesCondition :=
  decidable_of_iff _ (isSome_condition?_iff .empty t)

/-! ## 2. A clause that one of two statements has

Two clauses are compared as they were extracted, where no condition and no clause look the same. -/

/-- One of two statements has the clause, with this expression, and the other one has none. -/
def InOne (clause : String) (r s e : Tree) : Prop :=
  r.wrapped? clause = some e ∧ s.wrapped? clause = none ∨
    r.wrapped? clause = none ∧ s.wrapped? clause = some e

/-- The condition of a clause is that of its expression. -/
theorem clauseCondition?_eq (scope : Scope) (t : Tree) (clause : String) :
    t.clauseCondition? scope clause = (t.wrapped? clause).bind (condition? scope) := by
  unfold clauseCondition? wrapped? under heldCondition?
  cases t.child? clause <;> rfl

/-- The clause is seen as a difference just where its expression states a condition. -/
theorem agrees_compareClause_iff {clause : String} {r s e : Tree} (h : InOne clause r s e)
    (name : String) (scope scope' : Scope) :
    (Condition.compareClause name (r.clauseCondition? scope clause)
      (s.clauseCondition? scope' clause)).Agrees ↔ ¬ e.StatesCondition := by
  rw [clauseCondition?_eq, clauseCondition?_eq]
  obtain ⟨hr, hs⟩ | ⟨hr, hs⟩ := h
  · rw [hr, hs, Option.bind_some, Option.bind_none, ← isSome_condition?_iff scope e]
    cases e.condition? scope <;> simp [Condition.compareClause, toString]
  · rw [hr, hs, Option.bind_some, Option.bind_none, ← isSome_condition?_iff scope' e]
    cases e.condition? scope' <;> simp [Condition.compareClause, toString]

end Tree

/-! ## 3. The part that a report names

Each of the three comparators names the filter under a label of its own, which no other part uses.
So the label is in the report just where the two filters do not agree. -/

open Condition (compareClause)

variable {report : Report}

theorem Select.tells_compare (r s : Select) :
    (r.compare s).Tells "WHERE clause" (compareClause "WHERE" r.filter s.filter) where
  mem_incorrect_iff := by
    rw [mem_incorrect_compare_iff]
    simp [clauseEntries]
  not_equal h := by
    rw [compare, List.isEmpty_eq_false_iff_exists_mem]
    exact ⟨⟨"WHERE clause", compareClause "WHERE" r.filter s.filter, none⟩, by
      simpa [clauseEntries, ClauseVerdict.Agrees] using h⟩

namespace Update

/-- The parts on the assignments are not called as the filter is. -/
theorem not_mem_incorrect_compareAssigned (s : Update) (report : Report) (a : Assigned)
    (h : "WHERE clause" ∉ report.incorrect) :
    "WHERE clause" ∉ (compareAssigned s report a).incorrect := by
  have hcolumn : "WHERE clause" ≠ s!"Set clause column ({a.column})" := fun heq => by
    simpa [toString] using congrArg String.toList heq
  have hvalue : "WHERE clause" ≠ s!"Value for '{a.column}'" := fun heq => by
    simpa [toString] using congrArg String.toList heq
  unfold compareAssigned
  cases s.assigned? a.column with
  | none => simp [h, hcolumn]
  | some found =>
    dsimp only
    split <;> simp [h, hvalue]

theorem not_mem_incorrect_compareSet (r s : Update) (h : "WHERE clause" ∉ report.incorrect) :
    "WHERE clause" ∉ (compareSet r s report).incorrect := by
  have hfold : ∀ first : Report, "WHERE clause" ∉ first.incorrect →
      "WHERE clause" ∉ (r.set.foldl (compareAssigned s) first).incorrect := fun _ =>
    Report.not_mem_incorrect_foldl (not_mem_incorrect_compareAssigned s) r.set
  unfold compareSet
  dsimp only
  split <;> split <;> simp [h, hfold]

theorem tells_compare (r s : Update) :
    (r.compare s).Tells "WHERE clause" (compareClause "WHERE" r.filter s.filter) := by
  unfold compare
  extract_lets target set sources report filter
  have htarget : "WHERE clause" ∉ target.incorrect := by
    unfold target
    split <;> simp
  have hset : "WHERE clause" ∉ set.incorrect := not_mem_incorrect_compareSet r s htarget
  have hreport : "WHERE clause" ∉ report.incorrect := by
    unfold report
    split <;> simp [hset]
  split
  · next habsent => exact Report.tells_of_agrees hreport (.of_absent habsent)
  · exact Report.tells_addClause hreport

end Update

theorem Delete.tells_compare (r s : Delete) :
    (r.compare s).Tells "WHERE clause" (compareClause "WHERE" r.filter s.filter) := by
  unfold compare
  extract_lets target sources report filter
  have htarget : "WHERE clause" ∉ target.incorrect := by
    unfold target
    split <;> simp
  have hreport : "WHERE clause" ∉ report.incorrect := by
    unfold report
    split <;> simp [htarget]
  split
  · next habsent => exact Report.tells_of_agrees hreport (.of_absent habsent)
  · exact Report.tells_addClause hreport

namespace Statement

@[simp] theorem equal_withText (kind : StatementKind) (report : Report) :
    (withText kind report).equal = report.equal := by
  unfold withText
  split <;> rfl

@[simp] theorem incorrect_withText (kind : StatementKind) (report : Report) :
    (withText kind report).incorrect = report.incorrect := by
  unfold withText
  split <;> rfl

/-- The report on two trees of one kind. -/
theorem compareTrees_eq {r s : Tree} {a b : Statement} (hkey : r.key = s.key)
    (hr : ofTree? r = some a) (hs : ofTree? s = some b) (h : a.compare? b = some report) :
    compareTrees r s = withText a.kind report := by
  rw [compareTrees, if_neg (not_not.mpr hkey), hr, hs]
  simp only [h]

/-- What the comparator of a kind tells of a part, the report on the two trees tells. -/
theorem tells_compareTrees {r s : Tree} {a b : Statement} {part : String} {v : ClauseVerdict}
    (hkey : r.key = s.key) (hr : ofTree? r = some a) (hs : ofTree? s = some b)
    (h : a.compare? b = some report) (htells : report.Tells part v) :
    (compareTrees r s).Tells part v := by
  rw [compareTrees_eq hkey hr hs h]
  exact ⟨by simpa using htells.mem_incorrect_iff, by simpa using htells.not_equal⟩

/-- The report on two queries, updates or deletions tells how their filters differ. -/
theorem exists_tells_compareTrees {r s : Tree}
    (hkind : r.key ∈ ["SelectStmt", "UpdateStmt", "DeleteStmt"]) (hkey : s.key = r.key) :
    ∃ scope scope', (compareTrees r s).Tells "WHERE clause" (compareClause "WHERE"
      (r.clauseCondition? scope "whereClause") (s.clauseCondition? scope' "whereClause")) := by
  have hofTree (kind : StatementKind) (hr : StatementKind.ofKey? r.key = some kind) :
      ofTree? r = some (ofKind r kind) ∧ ofTree? s = some (ofKind s kind) := by
    simp [ofTree?, hkey, hr]
  simp only [List.mem_cons, List.not_mem_nil, or_false] at hkind
  obtain h | h | h := hkind
  · obtain ⟨hr, hs⟩ := hofTree .select (by rw [h, StatementKind.ofKey?])
    exact ⟨_, _, tells_compareTrees hkey.symm hr hs rfl (Select.tells_compare _ _)⟩
  · obtain ⟨hr, hs⟩ := hofTree .update (by rw [h, StatementKind.ofKey?])
    exact ⟨_, _, tells_compareTrees hkey.symm hr hs rfl (Update.tells_compare _ _)⟩
  · obtain ⟨hr, hs⟩ := hofTree .delete (by rw [h, StatementKind.ofKey?])
    exact ⟨_, _, tells_compareTrees hkey.symm hr hs rfl (Delete.tells_compare _ _)⟩

/-- **A `WHERE` clause that one of two statements has is named as incorrect just where its
expression states a condition.**  The report then says that the statements are not equal. Any other
expression makes the clause pass for one that is absent. -/
theorem where_presence_iff {r s e : Tree}
    (hkind : r.key ∈ ["SelectStmt", "UpdateStmt", "DeleteStmt"]) (hkey : s.key = r.key)
    (h : Tree.InOne "whereClause" r s e) :
    ("WHERE clause" ∈ (compareTrees r s).incorrect ↔ e.StatesCondition) ∧
      (e.StatesCondition → (compareTrees r s).equal = false) := by
  obtain ⟨scope, scope', htells⟩ := exists_tells_compareTrees hkind hkey
  have hagrees := Tree.agrees_compareClause_iff h "WHERE" scope scope'
  refine ⟨?_, fun hstates => htells.not_equal ?_⟩
  · rw [htells.mem_incorrect_iff, hagrees, not_not]
  · rw [hagrees, not_not]
    exact hstates

/-- A deletion from one table, with the further clauses. -/
def deletion (clauses : List Tree) : Tree :=
  .node "DeleteStmt" "" (.node "relation" "" [.leaf "relname" "\"t\""] :: clauses)

/-- A reference to a column. -/
def column (name : String) : Tree :=
  .node "ColumnRef" "" [.node "fields" "" [.node "String" "" [.leaf "sval" name]]]

/-- A test for null states a condition: a deletion of the rows that it selects is told from a
deletion of all rows. -/
theorem where_presence_iff_nullTest :
    let missing := Tree.node "NullTest" ""
      [.leaf "nulltesttype" "\"IS_NULL\"", .node "arg" "" [column "\"due\""]]
    let r := deletion [.node "whereClause" "" [missing]]
    Tree.InOne "whereClause" r (deletion []) missing ∧ missing.StatesCondition ∧
      "WHERE clause" ∈ (compareTrees r (deletion [])).incorrect ∧
      (compareTrees r (deletion [])).equal = false := by
  intro missing r
  have hkind : r.key ∈ ["SelectStmt", "UpdateStmt", "DeleteStmt"] := by decide +kernel
  have hkey : (deletion []).key = r.key := rfl
  have hone : Tree.InOne "whereClause" r (deletion []) missing := .inl ⟨rfl, rfl⟩
  have hstates : missing.StatesCondition := .nullTest rfl (by decide +kernel)
  obtain ⟨hnamed, hequal⟩ := where_presence_iff hkind hkey hone
  exact ⟨hone, hstates, hnamed.mpr hstates, hequal hstates⟩

/-- A bare column is a filter that states no condition: a deletion of the rows that it selects
passes for a deletion of all rows. -/
theorem where_column_unseen :
    let active := column "\"active\""
    let r := deletion [.node "whereClause" "" [active]]
    Tree.InOne "whereClause" r (deletion []) active ∧
      (compareTrees r (deletion [])).equal = true ∧
      (compareTrees r (deletion [])).incorrect = [] := by
  intro active r
  have hkey : r.key = (deletion []).key := rfl
  rw [compareTrees_eq hkey rfl rfl rfl, equal_withText, incorrect_withText]
  exact ⟨.inl ⟨rfl, rfl⟩, by cbv, by cbv⟩

end Statement

end QueryGrading
