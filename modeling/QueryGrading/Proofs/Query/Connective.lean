import QueryGrading.Proofs.Query.Presence

/-!
# Operands of a connective

A conjunction, a disjunction or a negation is read from its operands, and only those that state a
condition are read (`Tree.StatesCondition`): the others fall away without a trace. So a connective
has a part for each of its operands just where each of them states a condition
(`Tree.operands_kept_iff`). Two `WHERE` clauses are told apart by the number of their conjuncts as
far as these are read, and a conjunct that is a bare column is not.

The operands of a `BoolExpr` are read by `extract_condition` one by one, and `filter_map` keeps
those for which it has a result. A whole clause is read by `extract_clause`, without a result for
the same expressions; in a join and in a check the text of the expression is taken instead
(`add_join`, `add_constraint`).
-/

namespace QueryGrading

namespace Tree

variable {t e : Tree} {operands : List Tree} {connective : String} {parts : List Condition}

/-! ## 1. Operands that are read

`extract_condition` collects the conditions of the operands with `filter_map`. What is dropped there
leaves no trace, so the parts are counted against the operands. -/

/-- The node connects some operands. -/
structure Connects (t : Tree) (connective : String) (operands : List Tree) : Prop where
  key : t.key = "BoolExpr"
  connective : t.valueOf "boolop" = connective
  operands : t.under "args" = operands

/-- A connective, which is written between quotes, of some operands. -/
def connection (connective : String) (operands : List Tree) : Tree :=
  .node "BoolExpr" "" [.leaf "boolop" connective, .node "args" "" operands]

/-- The node connects its operands. -/
theorem connects_connection (connective : String) (operands : List Tree) :
    (connection connective operands).Connects (unquote connective) operands :=
  ⟨rfl, rfl, rfl⟩

/-- The operands that state a condition. -/
def stating (operands : List Tree) : List Tree := operands.filter fun e => e.StatesCondition

/-- The parts of a connective are the conditions of the operands that state one, in their order;
there is a part for each operand just where all of them do. -/
structure PartsOf (scope : Scope) (operands : List Tree) (parts : List Condition) : Prop where
  inOrder : List.Forall₂ (fun e c => e.condition? scope = some c) (stating operands) parts
  complete : parts.length = operands.length ↔ ∀ e ∈ operands, e.StatesCondition

/-- An expression gives no condition just where it states none, in any scope. -/
theorem condition?_eq_none_iff (scope : Scope) (t : Tree) :
    t.condition? scope = none ↔ ¬ t.StatesCondition := by
  rw [← isSome_condition?_iff scope, Option.not_isSome_iff_eq_none]

/-- An expression has some condition just where it states one. -/
theorem exists_condition?_iff (scope : Scope) (t : Tree) :
    (∃ c, t.condition? scope = some c) ↔ t.StatesCondition := by
  rw [← isSome_condition?_iff scope, Option.isSome_iff_exists]

/-- Where all operands state a condition, none is left out. -/
theorem stating_eq_self (h : ∀ e ∈ operands, e.StatesCondition) : stating operands = operands :=
  List.filter_eq_self.mpr fun e he => decide_eq_true (h e he)

/-- The conditions that are read are those of the operands that state one, in order. -/
theorem forall₂_filterMap_condition? (scope : Scope) (operands : List Tree) :
    List.Forall₂ (fun e c => e.condition? scope = some c) (stating operands)
      (operands.filterMap (condition? scope)) := by
  induction operands with
  | nil => exact .nil
  | cons e rest ih =>
    by_cases he : e.StatesCondition
    · obtain ⟨c, hc⟩ := (exists_condition?_iff scope e).mpr he
      rw [stating, List.filter_cons_of_pos (by simpa using he), List.filterMap_cons_some hc]
      exact .cons hc ih
    · have hnone : e.condition? scope = none := (condition?_eq_none_iff scope e).mpr he
      rw [stating, List.filter_cons_of_neg (by simpa using he), List.filterMap_cons_none hnone]
      exact ih

theorem partsOf_filterMap (scope : Scope) (operands : List Tree) :
    PartsOf scope operands (operands.filterMap (condition? scope)) where
  inOrder := forall₂_filterMap_condition? scope operands
  complete := by
    rw [← (forall₂_filterMap_condition? scope operands).length_eq, stating,
      List.length_filter_eq_length_iff]
    simp

theorem Connects.condition?_eq (h : t.Connects connective operands) (scope : Scope) :
    t.condition? scope = connect? connective (operands.filterMap (condition? scope)) := by
  rw [condition?_of_connective scope h.key, h.connective, h.operands]

theorem Connects.exists_and (h : t.Connects "AND_EXPR" operands) (scope : Scope) :
    ∃ parts, t.condition? scope = some (.and parts) ∧ PartsOf scope operands parts :=
  ⟨_, h.condition?_eq scope, partsOf_filterMap scope operands⟩

theorem Connects.exists_or (h : t.Connects "OR_EXPR" operands) (scope : Scope) :
    ∃ parts, t.condition? scope = some (.or parts) ∧ PartsOf scope operands parts :=
  ⟨_, h.condition?_eq scope, partsOf_filterMap scope operands⟩

/-- A negation is one of its operand, or nothing. -/
theorem Connects.condition?_not (h : t.Connects "NOT_EXPR" [e]) (scope : Scope) :
    t.condition? scope = (e.condition? scope).map .not := by
  rw [h.condition?_eq scope]
  cases he : e.condition? scope with
  | none => rw [List.filterMap_cons_none he]; rfl
  | some c => rw [List.filterMap_cons_some he]; rfl

/-! ## 2. Conjuncts of a clause

The number of conjuncts survives into the outline of a clause, and so into the comparison. Nothing
but a conjunction is read as one, and any other condition counts as one conjunct. -/

/-- The expression is a conjunction. -/
def IsConjunction (t : Tree) : Prop := t.Connects "AND_EXPR" (t.under "args")

instance (t : Tree) : Decidable t.IsConjunction :=
  decidable_of_iff (t.key = "BoolExpr" ∧ t.valueOf "boolop" = "AND_EXPR")
    ⟨fun h => ⟨h.1, h.2, rfl⟩, fun h => ⟨h.key, h.connective⟩⟩

/-- The operands of a conjunction; any other expression is its only conjunct. -/
def conjuncts (t : Tree) : List Tree := if t.IsConjunction then t.under "args" else [t]

/-- The conjuncts of a clause; a clause that is absent has none. -/
def clauseConjuncts (t : Tree) (clause : String) : List Tree :=
  match t.wrapped? clause with
  | some e => e.conjuncts
  | none => []

/-- An operator is not read as a conjunction. -/
theorem operatorCondition?_ne_and (scope : Scope) (t : Tree) (parts : List Condition) :
    t.operatorCondition? scope ≠ some (.and parts) := by
  unfold operatorCondition?
  dsimp only
  split <;> simp

/-- Nor is a test for null. -/
theorem nullCondition?_ne_and (scope : Scope) (t : Tree) (parts : List Condition) :
    t.nullCondition? scope ≠ some (.and parts) := by
  unfold nullCondition?
  split <;> simp

/-- Nor is a subquery. -/
theorem subqueryCondition?_ne_and (scope : Scope) (t : Tree) (parts : List Condition) :
    t.subqueryCondition? scope ≠ some (.and parts) := by
  unfold subqueryCondition?
  dsimp only
  split <;> simp

theorem connective_of_connect? {qs : List Condition}
    (h : connect? connective qs = some (.and parts)) : connective = "AND_EXPR" := by
  unfold connect? at h
  split at h
  · rfl
  · cases h
  · obtain ⟨c, -, heq⟩ := Option.map_eq_some_iff.mp h
    cases heq
  · cases h

/-- Only a conjunction is read as one. -/
theorem isConjunction_of_condition? {scope : Scope} (h : t.condition? scope = some (.and parts)) :
    t.IsConjunction := by
  obtain hexpr | hbool | hnull | hsub | hother := key_cases t
  · by_cases hkind : t.valueOf "kind" = "AEXPR_NOT"
    · rw [condition?_of_negation scope hexpr hkind] at h
      obtain ⟨e, -, hnot⟩ := Option.bind_eq_some_iff.mp h
      obtain ⟨c, -, heq⟩ := Option.map_eq_some_iff.mp hnot
      cases heq
    · rw [condition?_of_operator scope hexpr hkind] at h
      exact absurd h (operatorCondition?_ne_and scope t parts)
  · -- of the connectives, a disjunction and a negation are read as what they are
    rw [condition?_of_connective scope hbool] at h
    exact ⟨hbool, connective_of_connect? h, rfl⟩
  · rw [condition?_of_nullTest scope hnull] at h
    exact absurd h (nullCondition?_ne_and scope t parts)
  · rw [condition?_of_subquery scope hsub] at h
    exact absurd h (subqueryCondition?_ne_and scope t parts)
  · rw [condition?_of_other scope hother] at h
    cases h

end Tree

/-- The number of conjuncts that the outline of a clause shows. -/
def Condition.Outline.conjunctCount : Option Condition.Outline → Nat
  | none => 0
  | some (.and signatures) => signatures.length
  | some _ => 1

namespace Tree

open Condition.Outline (conjunctCount)

theorem conjunctCount_and (parts : List Condition) :
    conjunctCount (some (Condition.outline (.and parts))) = parts.length := by
  have hlength : (Condition.sortedSignatures parts).length = (Condition.signatures parts).length :=
    (sorted_perm _).length_eq
  rw [Condition.outline, conjunctCount, hlength, Condition.signatures_eq_map, List.length_map]

/-- The outline of a clause shows as many conjuncts as state a condition. -/
theorem conjunctCount_clauseCondition? (scope : Scope) (t : Tree) (clause : String) :
    conjunctCount ((t.clauseCondition? scope clause).map Condition.outline) =
      (stating (t.clauseConjuncts clause)).length := by
  rw [clauseCondition?_eq, clauseConjuncts]
  cases t.wrapped? clause with
  | none => rfl
  | some e =>
    rw [Option.bind_some]
    dsimp only
    -- any other expression than a conjunction is one conjunct, and is read or not as a whole
    by_cases hand : e.IsConjunction
    · obtain ⟨parts, hparts, hof⟩ := hand.exists_and scope
      rw [hparts, Option.map_some, conjunctCount_and, conjuncts, if_pos hand,
        hof.inOrder.length_eq]
    · rw [conjuncts, if_neg hand]
      cases hc : e.condition? scope with
      | none =>
        have hstates : ¬ e.StatesCondition := (condition?_eq_none_iff scope e).mp hc
        simp [stating, hstates, conjunctCount]
      | some c =>
        have hstates : e.StatesCondition := (exists_condition?_iff scope e).mp ⟨c, hc⟩
        have hshown : conjunctCount (some c.outline) = 1 := by
          cases c with
          | and parts => exact absurd (isConjunction_of_condition? hc) hand
          | _ => rfl
        simp [stating, hstates, hshown]

/-- Clauses whose numbers of conjuncts that state a condition differ do not agree. -/
theorem not_agrees_of_conjuncts {r s : Tree} {clause : String}
    (h : (stating (r.clauseConjuncts clause)).length ≠ (stating (s.clauseConjuncts clause)).length)
    (name : String) (scope scope' : Scope) :
    ¬ (Condition.compareClause name (r.clauseCondition? scope clause)
      (s.clauseCondition? scope' clause)).Agrees := by
  intro hagrees
  have houtline := (Condition.agrees_compareClause_iff name _ _).mp hagrees
  apply h
  rw [← conjunctCount_clauseCondition? scope, ← conjunctCount_clauseCondition? scope', houtline]

/-! ## 3. What is kept and what is lost -/

/-- The column is null. -/
def nullTest (name : String) : Tree :=
  .node "NullTest" "" [.leaf "nulltesttype" "\"IS_NULL\"", .node "arg" "" [Statement.column name]]

theorem statesCondition_nullTest (name : String) : (nullTest name).StatesCondition := by
  have htype : (nullTest name).valueOf "nulltesttype" = "IS_NULL" := by
    change unquote "\"IS_NULL\"" = "IS_NULL"
    decide +kernel
  exact .nullTest rfl (htype ▸ List.mem_cons_self)

/-- **A connective keeps the operands that state a condition, in their order, and no others.**
A conjunction or a disjunction thus has a part for each operand just where all of them state one,
and a negation is read just where its operand does. Statements whose `WHERE` clauses have different
numbers of conjuncts are told apart as far as these conjuncts state conditions. -/
theorem operands_kept_iff (scope : Scope) :
    (∀ (t : Tree) operands, t.Connects "AND_EXPR" operands →
      ∃ parts, t.condition? scope = some (.and parts) ∧ PartsOf scope operands parts) ∧
    (∀ (t : Tree) operands, t.Connects "OR_EXPR" operands →
      ∃ parts, t.condition? scope = some (.or parts) ∧ PartsOf scope operands parts) ∧
    (∀ t e : Tree, t.Connects "NOT_EXPR" [e] →
      t.condition? scope = (e.condition? scope).map .not ∧
        ((∃ c, t.condition? scope = some (.not c)) ↔ e.StatesCondition)) ∧
    ∀ r s : Tree, r.key ∈ ["SelectStmt", "UpdateStmt", "DeleteStmt"] → s.key = r.key →
      (stating (r.clauseConjuncts "whereClause")).length ≠
        (stating (s.clauseConjuncts "whereClause")).length →
      "WHERE clause" ∈ (Statement.compareTrees r s).incorrect ∧
        (Statement.compareTrees r s).equal = false := by
  refine ⟨fun t operands h => h.exists_and scope, fun t operands h => h.exists_or scope, ?_, ?_⟩
  · intro t e h
    have hnot := h.condition?_not scope
    refine ⟨hnot, ?_⟩
    rw [hnot, ← exists_condition?_iff scope e]
    simp
  · intro r s hkind hkey hlength
    obtain ⟨scope₁, scope₂, htells⟩ := Statement.exists_tells_compareTrees hkind hkey
    have hdiffer := not_agrees_of_conjuncts hlength "WHERE" scope₁ scope₂
    exact ⟨htells.mem_incorrect_iff.mpr hdiffer, htells.not_equal hdiffer⟩

/-- Tests for null are kept: a deletion with one of them is told from a deletion with two. -/
theorem operands_kept_iff_nullTests :
    let due := nullTest "\"due\""
    let paid := nullTest "\"paid\""
    let both := connection "\"AND_EXPR\"" [due, paid]
    let either := connection "\"OR_EXPR\"" [due, paid]
    let negated := connection "\"NOT_EXPR\"" [due]
    let r := Statement.deletion [.node "whereClause" "" [both]]
    let s := Statement.deletion [.node "whereClause" "" [due]]
    both.Connects "AND_EXPR" [due, paid] ∧ either.Connects "OR_EXPR" [due, paid] ∧
      negated.Connects "NOT_EXPR" [due] ∧
      (∃ parts, both.condition? .empty = some (.and parts) ∧ parts.length = 2) ∧
      (∃ parts, either.condition? .empty = some (.or parts) ∧ parts.length = 2) ∧
      (∃ c, negated.condition? .empty = some (.not c)) ∧
      "WHERE clause" ∈ (Statement.compareTrees r s).incorrect ∧
      (Statement.compareTrees r s).equal = false := by
  intro due paid both either negated r s
  have hand : both.Connects "AND_EXPR" [due, paid] := connects_connection "\"AND_EXPR\"" _
  have hor : either.Connects "OR_EXPR" [due, paid] := connects_connection "\"OR_EXPR\"" _
  have hnot : negated.Connects "NOT_EXPR" [due] := connects_connection "\"NOT_EXPR\"" _
  have hdue : due.StatesCondition := statesCondition_nullTest "\"due\""
  have hpaid : paid.StatesCondition := statesCondition_nullTest "\"paid\""
  have hall : ∀ e ∈ [due, paid], e.StatesCondition := by simp [hdue, hpaid]
  have hlength : (stating (r.clauseConjuncts "whereClause")).length ≠
      (stating (s.clauseConjuncts "whereClause")).length := by
    have hr : r.clauseConjuncts "whereClause" = [due, paid] := rfl
    have hs : s.clauseConjuncts "whereClause" = [due] := rfl
    rw [hr, hs, stating_eq_self hall, stating_eq_self (by simp [hdue])]
    decide
  obtain ⟨hands, hors, hnots, hclauses⟩ := operands_kept_iff .empty
  obtain ⟨conjoined, hconjoined, hkept⟩ := hands both [due, paid] hand
  obtain ⟨disjoined, hdisjoined, hkept'⟩ := hors either [due, paid] hor
  exact ⟨hand, hor, hnot, ⟨conjoined, hconjoined, hkept.complete.mpr hall⟩,
    ⟨disjoined, hdisjoined, hkept'.complete.mpr hall⟩,
    (hnots negated due hnot).2.mpr hdue, hclauses r s (by decide +kernel) rfl hlength⟩

/-- A bare column is no part of a connective, and its negation is no condition. So a conjunction
with a bare column in it passes for the one without. -/
theorem column_operand_lost :
    let active := Statement.column "\"active\""
    let due := nullTest "\"due\""
    let paid := nullTest "\"paid\""
    let three := connection "\"AND_EXPR\"" [active, due, paid]
    let two := connection "\"AND_EXPR\"" [due, paid]
    let r := Statement.deletion [.node "whereClause" "" [three]]
    let s := Statement.deletion [.node "whereClause" "" [two]]
    three.Connects "AND_EXPR" [active, due, paid] ∧ two.Connects "AND_EXPR" [due, paid] ∧
      three.condition? .empty =
        some (.and [.simple "due" "IS NULL" "", .simple "paid" "IS NULL" ""]) ∧
      (connection "\"NOT_EXPR\"" [active]).condition? .empty = none ∧
      (Statement.compareTrees r s).equal = true ∧ (Statement.compareTrees r s).incorrect = [] := by
  intro active due paid three two r s
  refine ⟨connects_connection "\"AND_EXPR\"" _, connects_connection "\"AND_EXPR\"" _, ?_, ?_, ?_⟩
  · cbv
  · cbv
  · have hkey : r.key = s.key := rfl
    rw [Statement.compareTrees_eq hkey rfl rfl rfl, Statement.equal_withText,
      Statement.incorrect_withText]
    exact ⟨by cbv, by cbv⟩

end Tree

end QueryGrading
