import QueryGrading.Tree.Basic

/-!
# Statements of a parse tree

A statement is the node below a node with the key `stmt`. `statements` lists the `stmt` nodes of a
tree, and `statement?` is the first statement. They are `collect_statements` and `statement_node`,
which need not agree: the list takes a node `stmts` as a flat list of its `stmt` children and looks
into nothing else there, and passes over `stmt` nodes that are empty, while the search goes down
into everything. `statementKind` is `statement_type`, and `held?` is `unwrap_statement`.
-/

namespace QueryGrading

namespace Tree

mutual
/-- The `stmt` nodes of a tree in order. A `stmts` node counts all its `stmt` children; elsewhere
a `stmt` node without children is passed over. -/
def statements : Tree → List Tree
  | node key value children =>
    if key = "stmt" ∧ children ≠ [] then [node key value children]
    else if key = "stmts" then children.filter (·.key == "stmt")
    else statementsOf children

/-- The `stmt` nodes of several trees. -/
def statementsOf : List Tree → List Tree
  | [] => []
  | t :: rest => t.statements ++ statementsOf rest
end

mutual
/-- The first statement of a tree. -/
def statement? : Tree → Option Tree
  | node key _ children => if key = "stmt" then children.head? else firstStatement? children

/-- The first statement of several trees. -/
def firstStatement? : List Tree → Option Tree
  | [] => none
  | t :: rest =>
    match t.statement? with
    | some s => some s
    | none => firstStatement? rest
end

/-- The kind of the first statement, such as `SelectStmt`; empty if there is none. -/
def statementKind (t : Tree) : String :=
  match t.statement? with
  | some s => s.key
  | none => ""

/-- The statement that a `stmt` node holds. -/
def held? (t : Tree) : Option Tree := if t.key = "stmt" then t.children.head? else t.statement?

/-- All statements of a tree in order. -/
def allStatements (t : Tree) : List Tree := t.statements.filterMap held?

end Tree

end QueryGrading
