import QueryGrading.Proofs.Query.Constraint

/-!
# Tables that agree

The report on two tables is clean just where they agree (`isClean_compare_iff`): in their names, in
the names of their columns, in what is declared of each column of the reference and the first column
of its name, in their primary keys, unique constraints and signatures of checks up to order, and in
their foreign keys under each set of columns. These are, part by part, what `compare_columns`,
`compare_primary_key`, `compare_foreign_keys`, `compare_uniques` and `compare_checks` ask for.

A table agrees with itself just where no column name is declared in two ways
(`isClean_compare_self_iff`). If no two columns have one name and no two foreign keys are on one set
of columns, nothing of this depends on the order in which a table is written (`compare_reordered`).

The names of constraints, defaults and other options of a table are not extracted and so make no
difference. The laws on foreign keys and checks are those on constraints, where the pairing of each
with its partner is treated.
-/

namespace QueryGrading

open Text (concat)

namespace CreateTable

variable {r s : CreateTable} {report : Report}

/-! ## 1. What is compared

The comparison has six parts, and each part has a condition of its own under which it is clean. -/

/-- The names of the columns agree up to order. -/
@[simp] theorem isClean_compareNames_iff (r s : CreateTable) :
    (compareNames r s report).IsClean ↔
      report.IsClean ∧ (r.columns.map Column.name).Perm (s.columns.map Column.name) := by
  rw [compareNames, ← sorted_eq_iff]
  dsimp only
  split
  · split <;> simp [*]
  · simp [*]

@[simp] theorem isClean_compareType_iff (c d : Column) :
    (compareType c d report).IsClean ↔ report.IsClean ∧ c.type = d.type := by
  unfold compareType
  split <;> simp [*]

@[simp] theorem isClean_compareNotNull_iff (c d : Column) :
    (compareNotNull c d report).IsClean ↔ report.IsClean ∧ c.notNull = d.notNull := by
  unfold compareNotNull
  split <;> simp [*]

/-- A column is compared with the first one of its name, if there is one. -/
theorem isClean_compareColumn_iff (s : CreateTable) (report : Report) (c : Column) :
    (compareColumn s report c).IsClean ↔ report.IsClean ∧
      ∀ d, s.columns.find? (·.name == c.name) = some d →
        c.type = d.type ∧ c.notNull = d.notNull := by
  unfold compareColumn
  cases s.columns.find? (·.name == c.name) with
  | none => simp
  | some d => simp [and_assoc]

/-- The primary keys agree up to order. -/
@[simp] theorem isClean_comparePrimaryKey_iff (r s : CreateTable) :
    (comparePrimaryKey r s report).IsClean ↔
      report.IsClean ∧ r.primaryKey.Perm s.primaryKey := by
  rw [comparePrimaryKey, ← sorted_eq_iff]
  dsimp only
  split
  · split <;> simp [*]
  · next hne => split <;> simp only [Report.not_isClean_failWith, hne, and_false]

/-- Unique constraints are compared as a whole; their columns are in order. -/
theorem uniqueMismatch_eq_empty_iff (n : Nat) (a b : List String) :
    uniqueMismatch n a b = "" ↔ id a = id b := by
  unfold uniqueMismatch
  split <;> simp [*]

/-- Unique constraints agree just where they are the same up to order. -/
theorem isClean_compareUniques_iff (r s : CreateTable) :
    (compareUniques r s report).IsClean ↔ report.IsClean ∧ r.uniques.Perm s.uniques := by
  refine isClean_compareConstraints_iff (.refl []) List.Perm.length_eq fun hlength => ?_
  have hsorted : (sortedRows r.uniques).length = (sortedRows s.uniques).length := by
    rw [(sortedRows_perm _).length_eq, (sortedRows_perm _).length_eq, hlength]
  rw [concat_numbered_zip_eq_empty_iff uniqueMismatch_eq_empty_iff hsorted, List.map_id,
    List.map_id, sortedRows_eq_iff]

/-- What the comparison asks of two tables. -/
@[mk_iff]
structure Agrees (r s : CreateTable) : Prop where
  table : r.table = s.table
  names : (r.columns.map Column.name).Perm (s.columns.map Column.name)
  columns : ∀ c ∈ r.columns, ∀ d, s.columns.find? (·.name == c.name) = some d →
    c.type = d.type ∧ c.notNull = d.notNull
  primaryKey : r.primaryKey.Perm s.primaryKey
  foreignKeys : SameUnderKeys ForeignKey.columnSet ForeignKey.form r.foreignKeys s.foreignKeys
  uniques : r.uniques.Perm s.uniques
  checks : (r.checks.map Condition.signature).Perm (s.checks.map Condition.signature)

/-- **The report on two tables is clean just where they agree.** -/
theorem isClean_compare_iff (r s : CreateTable) : (r.compare s).IsClean ↔ r.Agrees s := by
  have htable : (if r.table = s.table then Report.empty.pass "Table name"
      else Report.empty.failWith "Table name"
        s!"● The table name should be '{r.table}', but your query uses '{s.table}'.\n"
        s!"💡 Change the table name to '{r.table}'.").IsClean ↔ r.table = s.table := by
    split <;> simp [*]
  rw [compare, isClean_compareChecks_iff, isClean_compareUniques_iff,
    isClean_compareForeignKeys_iff, isClean_comparePrimaryKey_iff, compareColumns,
    Report.isClean_foldl_iff (isClean_compareColumn_iff s), isClean_compareNames_iff, htable,
    agrees_iff]
  simp only [and_assoc]

/-! ## 2. A table and itself

A column is looked up by its name, so a name that is declared twice is compared with its first
declaration. -/

/-- Columns of one name have one type, and all or none of them may be null. -/
def Unambiguous (s : CreateTable) : Prop :=
  ∀ c ∈ s.columns, ∀ d ∈ s.columns, c.name = d.name → c.type = d.type ∧ c.notNull = d.notNull

/-- The columns of a table agree with themselves just where no name is declared in two ways. -/
theorem forall_find?_name_iff (s : CreateTable) :
    (∀ c ∈ s.columns, ∀ d, s.columns.find? (·.name == c.name) = some d →
      c.type = d.type ∧ c.notNull = d.notNull) ↔ s.Unambiguous := by
  have hlookup := forall_find?_key_iff Column.name (fun c => (c.type, c.notNull)) s.columns
  simp only [Prod.mk.injEq] at hlookup
  rw [Unambiguous, ← hlookup]
  refine forall₂_congr fun c hc => ?_
  obtain ⟨d, -, hfind, -⟩ := exists_find?_key Column.name hc
  simp [hfind, eq_comm]

/-- **A table agrees with itself just where no column name is declared in two ways.** -/
theorem isClean_compare_self_iff (s : CreateTable) : (s.compare s).IsClean ↔ s.Unambiguous := by
  rw [isClean_compare_iff, ← forall_find?_name_iff]
  exact ⟨Agrees.columns, fun h => ⟨rfl, .refl _, h, .refl _, .refl _ _ _, .refl _, .refl _⟩⟩

/-! ## 3. Tables in another order

All lists of a table may be in another order at once. The order of constraints matters only where a
partner is found by a key that two of them share. -/

/-- One table is the other with its columns, the columns of its key and its constraints in another
order, and with its checks rearranged. -/
structure Reordered (r s : CreateTable) : Prop where
  table : r.table = s.table
  columns : r.columns.Perm s.columns
  primaryKey : r.primaryKey.Perm s.primaryKey
  foreignKeys : r.foreignKeys.Perm s.foreignKeys
  uniques : r.uniques.Perm s.uniques
  checks : Condition.Rearranged r.checks s.checks

/-- Tables are in another order seen from either side. -/
theorem Reordered.symm (h : r.Reordered s) : s.Reordered r where
  table := h.table.symm
  columns := h.columns.symm
  primaryKey := h.primaryKey.symm
  foreignKeys := h.foreignKeys.symm
  uniques := h.uniques.symm
  checks := h.checks.symm

/-- A column is found under its name where no other column has the name. -/
theorem find?_name_of_nodup {cs : List Column} {c : Column} (hnames : (cs.map Column.name).Nodup)
    (hc : c ∈ cs) : cs.find? (·.name == c.name) = some c := by
  obtain ⟨d, hd, hfind, hname⟩ := exists_find?_key Column.name hc
  rw [hfind, List.inj_on_of_nodup_map hnames hd hc hname]

/-- Tables in another order agree if no two columns have one name and no two foreign keys are on one
set of columns. -/
theorem Reordered.agrees (h : r.Reordered s) (hnames : (r.columns.map Column.name).Nodup)
    (hkeys : (r.foreignKeys.map ForeignKey.columnSet).Nodup) : r.Agrees s where
  table := h.table
  names := h.columns.map Column.name
  columns c hc d hd := by
    have hnames' : (s.columns.map Column.name).Nodup :=
      (h.columns.map Column.name).nodup_iff.mp hnames
    rw [find?_name_of_nodup hnames' (h.columns.mem_iff.mp hc)] at hd
    cases hd
    exact ⟨rfl, rfl⟩
  primaryKey := h.primaryKey
  foreignKeys := sameUnderKeys_of_perm h.foreignKeys hkeys
  uniques := h.uniques
  checks := (Condition.sortedSignatures_eq_iff _ _).mp h.checks.sortedSignatures_eq

/-- **The order in which a table is written does not matter**, nor how its checks are written, if no
two columns have one name and no two foreign keys are on one set of columns: either table may be the
reference. -/
theorem compare_reordered (h : r.Reordered s) (hnames : (r.columns.map Column.name).Nodup)
    (hkeys : (r.foreignKeys.map ForeignKey.columnSet).Nodup) :
    ((r.compare s).equal = true ∧ (r.compare s).incorrect = []) ∧
      (s.compare r).equal = true ∧ (s.compare r).incorrect = [] := by
  have hnames' : (s.columns.map Column.name).Nodup :=
    (h.columns.map Column.name).nodup_iff.mp hnames
  have hkeys' : (s.foreignKeys.map ForeignKey.columnSet).Nodup :=
    (h.foreignKeys.map ForeignKey.columnSet).nodup_iff.mp hkeys
  exact ⟨(isClean_compare_iff r s).mpr (h.agrees hnames hkeys),
    (isClean_compare_iff s r).mpr (h.symm.agrees hnames' hkeys')⟩

/-- Everything in a table stands in another order, and a check is rearranged. -/
theorem compare_reordered_book :
    let isbn : Column := ⟨"isbn", "varchar", true⟩
    let price : Column := ⟨"price", "int4", false⟩
    let j : ForeignKey := ⟨["a", "b"], "author", ["x", "y"]⟩
    let k : ForeignKey := ⟨["publisher"], "publisher", []⟩
    let cheap : Condition := .simple "price" "<" "9"
    let r : CreateTable :=
      { table := "book", columns := [isbn, price], primaryKey := ["isbn", "price"],
        foreignKeys := [j, k], uniques := [["a"], ["b", "isbn"]],
        checks := [.and [.simple "5" "<" "price", .simple "a" "=" "b"], cheap] }
    let s : CreateTable :=
      { table := "book", columns := [price, isbn], primaryKey := ["price", "isbn"],
        foreignKeys := [k, j], uniques := [["b", "isbn"], ["a"]],
        checks := [cheap, .and [.simple "b" "=" "a", .simple "price" ">" "5"]] }
    r.Reordered s ∧ (r.columns.map Column.name).Nodup ∧
      (r.foreignKeys.map ForeignKey.columnSet).Nodup ∧
      (r.compare s).equal = true ∧ (s.compare r).incorrect = [] := by
  intro isbn price j k cheap r s
  have hcheck : Condition.Equivalent (.and [.simple "5" "<" "price", .simple "a" "=" "b"])
      (.and [.simple "b" "=" "a", .simple "price" ">" "5"]) :=
    (Condition.Equivalent.forall₂ .insideAnd
      (.cons (.of_step (.turn (by decide) rfl))
        (.cons (.of_step (.swap (by decide))) .nil))).trans
      (.of_step (.permuteAnd (.swap _ _ _)))
  have h : r.Reordered s :=
    { table := rfl
      columns := .swap _ _ _
      primaryKey := .swap _ _ _
      foreignKeys := .swap _ _ _
      uniques := .swap _ _ _
      checks := ⟨[_, cheap], .cons hcheck (.cons (.refl _) .nil), .swap _ _ _⟩ }
  have hnames : (r.columns.map Column.name).Nodup := by decide
  have hne : j.columnSet ≠ k.columnSet :=
    fun heq => absurd ((sorted_eq_iff _ _).mp heq) (by decide)
  have hkeys : (r.foreignKeys.map ForeignKey.columnSet).Nodup := by simpa [r] using hne
  obtain ⟨hrs, hsr⟩ := compare_reordered h hnames hkeys
  exact ⟨h, hnames, hkeys, hrs.1, hsr.2⟩

end CreateTable

end QueryGrading
