import QueryGrading.Grade.Engine
import QueryGrading.Proofs.Query.Matching
import QueryGrading.Proofs.Tree.Nodes

/-!
# The first statement

The first statement of a parse tree is found in two ways. Its kind, `statement_type`, decides how a
text is run, and for that `statement_node` goes down to the first `stmt` node that has a child.
Statements are compared in the order in which `collect_statements` lists the `stmt` nodes
(`Tree.statements` here). The list takes the `stmt` children of a `stmts` node as they are, empty
ones too, and does not look into the other children, which the search does.

A parser puts nothing but `stmt` nodes into a `stmts` node (`Tree.ListsStatements`). In such a tree
the two agree at every node (`Tree.head?_allStatements`), by induction over the tree and its
children at once: a `stmt` node is listed if it has a child, a `stmts` node passes its children on,
and below any other node the first child that lists a statement is the first in which one is found.

So a text is run as what it is compared as (`Tree.statement?_first`): the first statement of the
reference is the first for which `compare_queries` looks for a partner, and the first of the
submission is the first that is tried. What the later statements of a script change or return is
left to the engine, which is given the whole text.
-/

namespace QueryGrading

namespace Tree

variable {t c n : Tree}

/-! ## 1. Trees whose statements are listed -/

/-- The children of a `stmts` node are `stmt` nodes, everywhere in the tree. -/
def ListsStatements (t : Tree) : Prop :=
  ∀ n ∈ t.nodes, n.key = "stmts" → ∀ c ∈ n.children, c.key = "stmt"

instance (t : Tree) : Decidable t.ListsStatements :=
  inferInstanceAs (Decidable (∀ n ∈ t.nodes, n.key = "stmts" → ∀ c ∈ n.children, c.key = "stmt"))

/-- The nodes of a forest are the nodes of its trees. -/
theorem forestNodes_eq_flatMap (f : List Tree) : forestNodes f = f.flatMap nodes := by
  induction f with
  | nil => rfl
  | cons t f ih => rw [forestNodes, ih, List.flatMap_cons]

/-- Below a node whose statements are listed they are listed as well. -/
theorem ListsStatements.child (h : t.ListsStatements) (hc : c ∈ t.children) :
    c.ListsStatements := by
  intro n hn
  have hmem : n ∈ t.nodes := by
    rw [nodes_eq, forestNodes_eq_flatMap]
    exact List.mem_append_left _ (List.mem_flatMap.mpr ⟨c, hc, hn⟩)
  exact h n hmem

/-- A child of a `stmts` node is a statement, also where the node is the root. -/
theorem ListsStatements.key_child (h : t.ListsStatements) (hkey : t.key = "stmts")
    (hc : c ∈ t.children) : c.key = "stmt" := by
  have hmem : t ∈ t.nodes := by
    rw [nodes_eq]
    exact List.mem_append_right _ List.mem_cons_self
  exact h t hmem hkey c hc

/-! ## 2. The two searches agree -/

/-- The statement that a `stmt` node holds is the one that the search finds in it. -/
theorem held?_eq_statement? (t : Tree) : t.held? = t.statement? := by
  cases t with
  | node key value children =>
    rw [held?, key_node, children_node]
    split
    · next hkey => rw [statement?, if_pos hkey]
    · rfl

/-- The search goes through the children from left to right. -/
theorem firstStatement?_eq_findSome? (ts : List Tree) :
    firstStatement? ts = ts.findSome? statement? := by
  induction ts with
  | nil => rfl
  | cons t rest ih =>
    rw [firstStatement?, List.findSome?_cons, ih]
    cases t.statement? <;> rfl

/-- The first statement that some nodes hold is the one that the search finds in them. -/
theorem head?_filterMap_held? (ts : List Tree) :
    (ts.filterMap held?).head? = firstStatement? ts := by
  rw [List.head?_filterMap, firstStatement?_eq_findSome?]
  exact congrArg (ts.findSome? ·) (funext held?_eq_statement?)

mutual
/-- **The first statement that is listed is the first that is found.** -/
theorem head?_allStatements : ∀ t : Tree, t.ListsStatements → t.allStatements.head? = t.statement?
  | node key value children, h => by
    rw [allStatements, statements]
    split
    · -- a `stmt` node with a child is listed, and found
      rw [List.head?_filterMap, List.findSome?_singleton, held?_eq_statement?]
    · next hstmt =>
      split
      · -- a `stmts` node: no child is left out of the list
        next hkey =>
        have hall : ∀ c ∈ children, (c.key == "stmt") = true := fun c hc =>
          beq_iff_eq.mpr (h.key_child hkey hc)
        rw [List.filter_eq_self.mpr hall, head?_filterMap_held?, statement?, if_neg]
        rw [hkey]
        decide
      · have hbelow := head?_allStatementsOf children fun c hc => h.child hc
        rw [hbelow, statement?]
        split
        · -- a `stmt` node without children
          next hkey =>
          have hnil : children = [] := by
            by_contra hne
            exact hstmt ⟨hkey, hne⟩
          rw [hnil]
          rfl
        · rfl

/-- The same of the children of a node, which are searched one after another. -/
theorem head?_allStatementsOf : ∀ ts : List Tree, (∀ t ∈ ts, t.ListsStatements) →
    ((statementsOf ts).filterMap held?).head? = firstStatement? ts
  | [], _ => rfl
  | t :: rest, h => by
    have hfirst := head?_allStatements t (h t List.mem_cons_self)
    have hrest := head?_allStatementsOf rest fun c hc => h c (List.mem_cons_of_mem t hc)
    rw [allStatements] at hfirst
    rw [statementsOf, List.filterMap_append, List.head?_append, hfirst, hrest, firstStatement?]
    cases t.statement? <;> rfl
end

mutual
/-- Nothing but `stmt` nodes is listed. -/
theorem key_of_mem_statements : ∀ t : Tree, ∀ n ∈ t.statements, n.key = "stmt"
  | node key value children, n, hn => by
    rw [statements] at hn
    split at hn
    · next hstmt =>
      rw [List.mem_singleton.mp hn]
      exact hstmt.1
    · split at hn
      · exact beq_iff_eq.mp (List.mem_filter.mp hn).2
      · exact key_of_mem_statementsOf children n hn

/-- Nothing but `stmt` nodes is listed below the children of a node. -/
theorem key_of_mem_statementsOf : ∀ ts : List Tree, ∀ n ∈ statementsOf ts, n.key = "stmt"
  | [], _, hn => nomatch hn
  | t :: rest, n, hn => by
    rw [statementsOf] at hn
    rcases List.mem_append.mp hn with hn | hn
    · exact key_of_mem_statements t n hn
    · exact key_of_mem_statementsOf rest n hn
end

/-- A listed node holds its first child, if it has one. -/
theorem held?_of_mem_statements (h : n ∈ t.statements) : n.held? = n.children.head? :=
  if_pos (key_of_mem_statements t n h)

/-- Of some `stmt` nodes the first with a child holds the first statement. -/
theorem head?_filterMap_eq_bind : ∀ {ns : List Tree}, (∀ n ∈ ns, n.held? = n.children.head?) →
    (ns.filterMap held?).head? = (ns.find? fun n => !n.isLeaf).bind fun n => n.children.head?
  | [], _ => rfl
  | n :: rest, h => by
    rw [List.forall_mem_cons] at h
    obtain ⟨key, value, children⟩ := n
    cases children with
    | nil =>
      have hnone : (node key value []).held? = none := h.1
      rw [List.filterMap_cons_none hnone, head?_filterMap_eq_bind h.2]
      rfl
    | cons c cs =>
      have hsome : (node key value (c :: cs)).held? = some c := h.1
      rw [List.filterMap_cons_some hsome]
      rfl

end Tree

/-! ## 3. What is run and what is compared -/

/-- The output of a query is rows, that of any other statement is changes. -/
theorem Engine.output_execute_iff {engine : Engine} {text : String} {t : Tree} {e : Execution}
    (h : engine.execute text t = .ok e) :
    (∃ rows, e.output = .rows rows) ↔ t.statementKind = queryKind := by
  unfold execute at h
  split at h
  · next hkind =>
    refine iff_of_true ?_ hkind
    split at h <;> cases h <;> exact ⟨_, rfl⟩
  · next hkind =>
    refine iff_of_false ?_ hkind
    split at h <;> cases h <;> exact fun ⟨_, hrows⟩ => nomatch hrows

namespace Statement

/-- The first report is on the first statement of the reference and the first of its key. -/
theorem head?_compareEach (r : Tree) (rs ss : List Tree) :
    (compareEach (r :: rs) ss).head? = some (reportOn (r, ss.find? (·.key == r.key))) := by
  rw [compareEach, ← CreateTable.map_fst_takeFirst]
  cases CreateTable.takeFirst (fun s => s.key == r.key) ss <;> rfl

end Statement

namespace Tree

open Statement (compareEach compareGoal reportOn)

/-- **A text is run as the statement with which its comparison begins.**  The statement that is
found is the first child of the first listed node that has one, and there is none just where no
listed node has a child. It is the first of all statements that are compared, so the output of a
text is rows just where the first of these is a query. In a reference it is the first for which a
partner is looked for, and it is reported on first. In a submission it is the first that is tried:
if the first statement of the reference has its key, the first report is on the two. -/
theorem statement?_first (h : t.ListsStatements) :
    t.statement? = (t.statements.find? fun n => !n.isLeaf).bind (fun n => n.children.head?) ∧
      (t.statement? = none ↔ ∀ n ∈ t.statements, n.isLeaf = true) ∧
      t.allStatements.head? = t.statement? ∧
      t.statementKind = (t.allStatements.head?.map key).getD "" ∧
      (∀ (engine : Engine) (text : String) (e : Execution), engine.execute text t = .ok e →
        ((∃ rows, e.output = .rows rows) ↔
          ∃ a, t.allStatements.head? = some a ∧ a.key = Engine.queryKind)) ∧
      (∀ a, t.statement? = some a → ∀ s : Tree,
        (compareEach t.allStatements s.allStatements).head? =
          some (reportOn (a, s.allStatements.find? (·.key == a.key)))) ∧
      ∀ b, t.statement? = some b → ∀ r a : Tree, r.allStatements.head? = some a → a.key = b.key →
        (compareEach r.allStatements t.allStatements).head? = some (compareGoal a b) := by
  have hheld : ∀ n ∈ t.statements, n.held? = n.children.head? := fun n => held?_of_mem_statements
  have hfirst : t.allStatements.head? = t.statement? := head?_allStatements t h
  have hkind : t.statementKind = (t.allStatements.head?.map key).getD "" := by
    rw [hfirst, statementKind]
    cases t.statement? <;> rfl
  -- what is compared first is `hfirst`; each part follows from the head of the list
  refine ⟨?_, ?_, hfirst, hkind, ?_, ?_, ?_⟩
  · rw [← hfirst, allStatements, head?_filterMap_eq_bind hheld]
  · rw [← hfirst, List.head?_eq_none_iff, allStatements, List.filterMap_eq_nil_iff]
    refine forall₂_congr fun n hn => ?_
    rw [hheld n hn, List.head?_eq_none_iff, isLeaf, List.isEmpty_iff]
  · intro engine text e he
    rw [Engine.output_execute_iff he, hkind]
    cases t.allStatements.head? with
    | none => exact iff_of_false (by decide) nofun
    | some a => simp
  · intro a ha s
    obtain ⟨rest, hrest⟩ := List.head?_eq_some_iff.mp (hfirst.trans ha)
    rw [hrest, Statement.head?_compareEach]
  · intro b hb r a ha hkey
    obtain ⟨rest, hrest⟩ := List.head?_eq_some_iff.mp (hfirst.trans hb)
    obtain ⟨rest', hrest'⟩ := List.head?_eq_some_iff.mp ha
    rw [hrest, hrest', Statement.head?_compareEach, List.find?_cons_of_pos (by simp [hkey])]
    rfl

/-- Three statements, of which the first was left empty. -/
theorem statement?_first_emptied :
    let t := node "stmts" "" [leaf "stmt" "", node "stmt" "" [leaf "DeleteStmt" ""],
      node "stmt" "" [leaf "SelectStmt" ""]]
    t.ListsStatements ∧ t.statements.length = 3 ∧ t.statement? = some (leaf "DeleteStmt" "") ∧
      t.allStatements.head? = t.statement? :=
  ⟨by decide, rfl, rfl, (statement?_first (by decide)).2.2.1⟩

/-- Another node in the list of statements is passed over by the list, and not by the search. -/
example :
    let t := node "stmts" "" [node "raw" "" [node "stmt" "" [leaf "SelectStmt" ""]]]
    t.statements = [] ∧ t.statement? = some (leaf "SelectStmt" "") := ⟨rfl, rfl⟩

end Tree

end QueryGrading
