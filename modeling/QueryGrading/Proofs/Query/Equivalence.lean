import QueryGrading.Proofs.Query.Clause

/-!
# Queries that the comparison takes for equal

Queries are compared by their keys, so the comparison is an equivalence. A query may be rearranged:
its select items, tables, common table expressions and grouping items may stand in another order,
and so may the parts of the outermost conjunction or disjunction of a filter, and the sides of an
inner join may be exchanged. No key sees that (`Select.Rearranged.key_eq`), so the comparison takes
a query and every rearrangement of it for equal (`Select.compare_equal_equivalence`).

The order of joins and of `ORDER BY` items counts (`compare_join` and `compare_order_by` go by
position), and so does the order of the operands of a comparison with `<` or the like: in a filter
only signatures of parts are sorted, and a filter that is no connective has no parts.
-/

namespace QueryGrading

/-! ## 1. Conditions and joins

Everything that is compared has a key, and agreement is equality of keys. That makes it an
equivalence wherever a key is compared. -/

/-- One condition is the other with the parts of its outermost connective in another order; the
connective may stand under negations. -/
inductive Condition.Reordered : Condition → Condition → Prop
  | refl (c : Condition) : Reordered c c
  | and {ps qs : List Condition} (h : ps.Perm qs) : Reordered (.and ps) (.and qs)
  | or {ps qs : List Condition} (h : ps.Perm qs) : Reordered (.or ps) (.or qs)
  | not {p q : Condition} (h : Reordered p q) : Reordered (.not p) (.not q)

/-- Sorted signatures do not show the order of the parts. -/
theorem Condition.Reordered.outline_eq {c d : Condition} (h : c.Reordered d) :
    c.outline = d.outline := by
  induction h with
  | refl c => rfl
  | and h => rw [outline, outline, (sortedSignatures_eq_iff _ _).mpr (h.map signature)]
  | or h => rw [outline, outline, (sortedSignatures_eq_iff _ _).mpr (h.map signature)]
  | not _ ih => rw [outline, outline, ih]

/-- One join is the other, or an inner join with its sides exchanged. -/
inductive TableJoin.Turned : TableJoin → TableJoin → Prop
  | refl (j : TableJoin) : Turned j j
  | swap {j : TableJoin} (h : j.kind = "JOIN_INNER") :
    Turned j { j with left := j.right, right := j.left }

/-- The sides of an inner join are sorted before they are compared. -/
theorem TableJoin.Turned.key_eq {j k : TableJoin} (h : j.Turned k) : j.key = k.key := by
  cases h with
  | refl => rfl
  | swap hkind =>
    have hsides : sorted [j.left.name, j.right.name] = sorted [j.right.name, j.left.name] :=
      (sorted_eq_iff _ _).mpr (.swap _ _ _)
    simp only [key, hkind, if_true, sideNames, hsides]

/-! ## 2. Queries -/

namespace Select

/-- One query is the other with its select items, tables, common table expressions and grouping
items in another order, with sides of inner joins exchanged, and with the parts of its filters in
another order. -/
structure Rearranged (r s : Select) : Prop where
  distinct : r.list.distinct = s.list.distinct
  items : r.list.items.Perm s.list.items
  tables : r.sources.tables.Perm s.sources.tables
  joins : List.Forall₂ TableJoin.Turned r.sources.joins s.sources.joins
  ctes : r.sources.ctes.Perm s.sources.ctes
  filter : Option.Rel Condition.Reordered r.filter s.filter
  grouping : r.groupBy.grouping = s.groupBy.grouping
  groupItems : r.groupBy.items.Perm s.groupBy.items
  having : Option.Rel Condition.Reordered r.having s.having
  orderBy : r.orderBy = s.orderBy

/-- **No key sees a rearrangement.** Each clause is compared by sorted texts or by outlines. -/
theorem Rearranged.key_eq {r s : Select} (h : r.Rearranged s) : r.key = s.key := by
  have hitems : r.list.items = [] ↔ s.list.items = [] := by
    rw [← List.perm_nil, ← List.perm_nil, h.items.congr_left]
  have htables : r.sources.tables = [] ↔ s.sources.tables = [] := by
    rw [← List.perm_nil, ← List.perm_nil, h.tables.congr_left]
  have hnames : sorted (r.sources.tables.map TableRef.name) =
      sorted (s.sources.tables.map TableRef.name) :=
    (sorted_eq_iff _ _).mpr (h.tables.map TableRef.name)
  have hjoins : r.sources.joins.map TableJoin.key = s.sources.joins.map TableJoin.key := by
    rw [← List.forall₂_eq_eq_eq, List.forall₂_map_left_iff, List.forall₂_map_right_iff]
    exact h.joins.imp fun _ _ => TableJoin.Turned.key_eq
  have hctes : sorted r.sources.ctes = sorted s.sources.ctes := (sorted_eq_iff _ _).mpr h.ctes
  -- whether a clause is absent does not depend on its order either
  have hempty : r.groupBy.isEmpty = s.groupBy.isEmpty := by
    rw [GroupBy.isEmpty, GroupBy.isEmpty, h.groupItems.isEmpty_eq, h.grouping]
  have hcondition : ∀ {c d : Option Condition}, Option.Rel Condition.Reordered c d →
      c.map Condition.outline = d.map Condition.outline := by
    intro c d hcd
    cases hcd with
    | none => rfl
    | some hcd => rw [Option.map_some, Option.map_some, hcd.outline_eq]
  rw [key, key, Key.mk.injEq]
  refine ⟨?_, ?_, hcondition h.filter, ?_, hcondition h.having, h.orderBy⟩
  · simp only [SelectList.key?, hitems, h.distinct, textsPerKind_perm h.items]
  · simp only [FromClause.key?, htables, hnames, hjoins, hctes]
  · simp only [GroupBy.key?, hempty, h.grouping, textsPerKind_perm h.groupItems]

/-- **The comparison is an equivalence that does not see a rearrangement.** -/
theorem compare_equal_equivalence :
    Equivalence (fun r s : Select => (r.compare s).equal = true) ∧
      ∀ r s : Select, r.Rearranged s → (r.compare s).equal = true := by
  constructor
  · have hkeys : (fun r s : Select => (r.compare s).equal = true) = fun r s => r.key = s.key :=
      funext₂ fun r s => propext (compare_equal_iff r s)
    rw [hkeys]
    exact eq_equivalence.comap key
  · intro r s h
    exact (compare_equal_iff r s).mpr h.key_eq

/-- A query that has every clause, and the same query with all that may be exchanged exchanged. -/
theorem compare_equal_equivalence_exchanged :
    let staff : TableRef := ⟨"staff", "s"⟩
    let dept : TableRef := ⟨"dept", "d"⟩
    let name : Projection := ⟨.column, "staff.name", ""⟩
    let count : Projection := ⟨.function, "count(*)", ""⟩
    let joined : TableJoin :=
      ⟨"JOIN_INNER", staff, dept, some (.simple "staff.dept" "=" "dept.id"), false, []⟩
    let paid : Condition := .simple "staff.pay" ">" "5"
    let active : Condition := .simple "staff.active" "=" "true"
    let r : Select :=
      { sources := ⟨[staff, dept], [joined], ["a", "b"]⟩
        list := ⟨false, [name, count]⟩
        filter := some (.and [paid, active])
        groupBy := ⟨[], [name, ⟨.column, "dept.id", ""⟩]⟩
        having := some (.not (.or [paid, active]))
        orderBy := [] }
    let s : Select :=
      { sources := ⟨[dept, staff], [{ joined with left := dept, right := staff }], ["b", "a"]⟩
        list := ⟨false, [count, name]⟩
        filter := some (.and [active, paid])
        groupBy := ⟨[], [⟨.column, "dept.id", ""⟩, name]⟩
        having := some (.not (.or [active, paid]))
        orderBy := [] }
    r.Rearranged s ∧ (r.compare s).equal = true := by
  intro staff dept name count joined paid active r s
  have h : r.Rearranged s :=
    { distinct := rfl
      items := .swap _ _ _
      tables := .swap _ _ _
      joins := .cons (.swap rfl) .nil
      ctes := .swap _ _ _
      filter := .some (.and (.swap _ _ _))
      grouping := rfl
      groupItems := .swap _ _ _
      having := .some (.not (.or (.swap _ _ _)))
      orderBy := rfl }
  exact ⟨h, compare_equal_equivalence.2 r s h⟩

end Select

end QueryGrading
