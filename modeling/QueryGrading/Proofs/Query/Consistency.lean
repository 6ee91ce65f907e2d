import QueryGrading.Proofs.Query.Pairing
import QueryGrading.Proofs.Query.Presence
import QueryGrading.Proofs.Query.Stable

/-!
# Reports that hold together

A report is consistent if it says that all is equal just where it names no incorrect part. Every way
to add to a report keeps it consistent, so the report on two statements of one kind is, whatever the
kind. The report on two statements of a kind that cannot be graded is not: it says that they are not
equal and names no part. The report on two parse trees is therefore equal just where it names no
incorrect part and every statement of the reference can be graded (`compareAll_equal_iff`).

The ways to add to a report are `correct`, `incorrect`, `hint`, `record_clause` and `merge`, of
which only `incorrect` clears the field `equal`; `select::compare` and `compare_statements` write to
the field themselves. That both ways to add a part keep a report consistent makes this a stable
property (`stable_consistent`). So there is one lemma for each of the eight functions `compare`,
without another look at its branches, and one for `compare_queries`.
-/

namespace QueryGrading

/-! ## 1. One step

Each way to add to a report is shown to keep it consistent. `fail` makes it so by itself: it names a
part and clears the field together. -/

namespace Report

variable {r s : Report}

/-- All is equal just where no part is incorrect. -/
def Consistent (r : Report) : Prop := r.equal = true ↔ r.incorrect = []

@[simp] theorem consistent_empty : empty.Consistent := by simp [Consistent, empty]

@[simp] theorem consistent_pass_iff (part : String) : (r.pass part).Consistent ↔ r.Consistent :=
  Iff.rfl

@[simp] theorem consistent_advise_iff (hints : List String) :
    (r.advise hints).Consistent ↔ r.Consistent :=
  Iff.rfl

@[simp] theorem consistent_fail (part message : String) : (r.fail part message).Consistent := by
  simp [Consistent, fail]

@[simp] theorem consistent_failWith (part message hint : String) :
    (r.failWith part message hint).Consistent :=
  consistent_fail part message

/-- A clause is taken over with its verdict, so it keeps a report consistent. -/
theorem consistent_addClause (h : r.Consistent) (part : String) (v : ClauseVerdict) :
    (r.addClause part v).Consistent := by
  unfold addClause
  cases v.outcome <;> simp [h]

/-- Being consistent is stable: a part that does not match makes a report consistent by itself. -/
theorem stable_consistent : Stable Consistent where
  pass part h := (consistent_pass_iff part).mpr h
  fail part message _ _ _ := (consistent_advise_iff _).mpr (consistent_fail part message)

/-- Reports that are put together are equal just where each of them is. -/
theorem equal_foldl_append_iff : ∀ (reports : List Report) (r : Report),
    (reports.foldl append r).equal = true ↔ r.equal = true ∧ ∀ s ∈ reports, s.equal = true
  | [], r => by simp
  | s :: rest, r => by
    rw [List.foldl_cons, equal_foldl_append_iff rest, append, Bool.and_eq_true,
      List.forall_mem_cons, and_assoc]

/-- The incorrect parts of reports that are put together stand one after another. -/
theorem incorrect_foldl_append : ∀ (reports : List Report) (r : Report),
    (reports.foldl append r).incorrect = r.incorrect ++ reports.flatMap incorrect
  | [], r => (List.append_nil _).symm
  | s :: rest, r => by
    rw [List.foldl_cons, incorrect_foldl_append rest, append, List.append_assoc, List.flatMap_cons]

/-- Reports that are put together name no incorrect part just where none of them does. -/
theorem incorrect_foldl_append_iff (reports : List Report) (r : Report) :
    (reports.foldl append r).incorrect = [] ↔
      r.incorrect = [] ∧ ∀ s ∈ reports, s.incorrect = [] := by
  rw [incorrect_foldl_append, List.append_eq_nil_iff, List.flatMap_eq_nil_iff]

end Report

/-! ## 2. Statements of one kind

What the parts of a comparator keep is known, so only the first part and what may come without a
hint are looked at: a nested query, and the sources of an update. -/

variable {report : Report}

/-- A query is equal just where no clause is incorrect, by definition. -/
theorem Select.consistent_compare (r s : Select) : (r.compare s).Consistent := by
  simp [Report.Consistent, compare]

theorem CreateTable.consistent_compare (r s : CreateTable) : (r.compare s).Consistent :=
  stable_compare r s Report.stable_consistent Report.consistent_empty

theorem Insert.consistent_compare (r s : Insert) : (r.compare s).Consistent := by
  unfold compare
  refine stable_compareSources r s Report.stable_consistent
    (stable_compareColumns r s Report.stable_consistent ?_) fun q q' message _ _ _ => ?_
  · split <;> simp
  · simp

theorem Update.consistent_compare (r s : Update) : (r.compare s).Consistent := by
  unfold compare
  extract_lets target set sources report filter
  have htarget : target.Consistent := by
    unfold target
    split <;> simp
  have hset : set.Consistent := stable_compareSet r s Report.stable_consistent htarget
  have hreport : report.Consistent := by
    unfold report
    split
    · exact hset
    · exact Report.consistent_addClause hset _ _
  split
  · simp [hreport]
  · exact Report.consistent_addClause hreport _ _

theorem Delete.consistent_compare (r s : Delete) : (r.compare s).Consistent :=
  stable_compare r s Report.stable_consistent Report.consistent_empty

theorem Assertion.consistent_compare (r s : Assertion) : (r.compare s).Consistent :=
  stable_compare r s Report.stable_consistent Report.consistent_empty

theorem AlterTable.consistent_compare (r s : AlterTable) : (r.compare s).Consistent :=
  stable_compare r s Report.stable_consistent Report.consistent_empty

theorem View.consistent_compare (r s : View) : (r.compare s).Consistent := by
  unfold compare
  refine stable_compareQuery r s Report.stable_consistent
    (stable_compareColumns r s Report.stable_consistent ?_) fun q q' message _ _ _ => ?_
  · split <;> simp
  · simp

/-! ## 3. All statements of two parse trees

The reports on all pairs are put together. Their fields are read off the list of reports, and a
statement of a kind that cannot be graded is the only one to be not equal without a part. -/

namespace Statement

/-- **The report on two statements of one kind is consistent**, whatever the kind. -/
theorem consistent_compare? {a b : Statement} (h : a.compare? b = some report) :
    report.Consistent := by
  cases a <;> cases b <;> cases h
  · exact Select.consistent_compare _ _
  · exact CreateTable.consistent_compare _ _
  · exact Insert.consistent_compare _ _
  · exact Update.consistent_compare _ _
  · exact Delete.consistent_compare _ _
  · exact Assertion.consistent_compare _ _
  · exact AlterTable.consistent_compare _ _
  · exact View.consistent_compare _ _

/-- Two statements of one key can both be graded, by the report on their kind, or neither can. -/
theorem compareTrees_cases {r s : Tree} (hkey : r.key = s.key) :
    ((ofTree? r).isSome = true ∧ ∃ report kind, report.Consistent ∧
        compareTrees r s = withText kind report) ∨
      ((ofTree? r).isSome = false ∧
        compareTrees r s = .refuse s!"Unsupported statement type: {r.key}\n") := by
  have hs : ofTree? s = (StatementKind.ofKey? r.key).map (ofKind s) := by rw [ofTree?, hkey]
  cases hkind : StatementKind.ofKey? r.key with
  | none =>
    have hr : ofTree? r = none := by rw [ofTree?, hkind, Option.map_none]
    refine .inr ⟨by rw [hr, Option.isSome_none], ?_⟩
    rw [compareTrees, if_neg (not_not.mpr hkey), hr]
  | some kind =>
    have hr : ofTree? r = some (ofKind r kind) := by rw [ofTree?, hkind, Option.map_some]
    rw [hkind, Option.map_some] at hs
    obtain ⟨report, hreport⟩ :
        ∃ report, (ofKind r kind).compare? (ofKind s kind) = some report := by
      cases kind <;> exact ⟨_, rfl⟩
    exact .inl ⟨by rw [hr, Option.isSome_some], report, _, consistent_compare? hreport,
      compareTrees_eq hkey hr hs hreport⟩

/-- The report on a pair of statements is equal just where it names no incorrect part and they can
be graded. -/
theorem compareGoal_equal_iff {r s : Tree} (hkey : r.key = s.key) :
    (compareGoal r s).equal = true ↔
      (compareGoal r s).incorrect = [] ∧ (ofTree? r).isSome = true := by
  change (compareTrees r s).equal = true ↔ (compareTrees r s).incorrect = [] ∧ _
  rcases compareTrees_cases hkey with ⟨hr, report, kind, hreport, heq⟩ | ⟨hr, heq⟩
  · rw [heq, equal_withText, incorrect_withText, and_iff_left hr]
    exact hreport
  · rw [heq, hr]
    simp [Report.refuse]

/-- **All pairs, and what is missing or extra.**  A missing statement and an extra one are incorrect
parts themselves, so only a pair of a kind that cannot be graded is not equal without one. -/
theorem compareEach_equal_iff : ∀ rs ss : List Tree,
    (∀ report ∈ compareEach rs ss, report.equal = true) ↔
      (∀ report ∈ compareEach rs ss, report.incorrect = []) ∧
        ∀ t ∈ rs, (ofTree? t).isSome = true
  | [], [] => by simp [compareEach]
  | [], s :: ss => by simp [compareEach, extra, Report.fail]
  | r :: rest, ss => by
    rw [compareEach]
    split
    · next s others htake =>
      have htaken := CreateTable.of_takeFirst_eq_some htake
      have hkey : r.key = s.key := (beq_iff_eq.mp htaken).symm
      simp only [List.forall_mem_cons]
      rw [compareGoal_equal_iff hkey, compareEach_equal_iff rest others]
      tauto
    · simp [missing, Report.fail]

/-- **The report on two parse trees is equal just where it names no incorrect part and all
statements of the reference can be graded.** -/
theorem compareAll_equal_iff (r s : Tree) :
    (compareAll r s).equal = true ↔
      (compareAll r s).incorrect = [] ∧ ∀ t ∈ r.allStatements, (ofTree? t).isSome = true := by
  rw [compareAll, Report.equal_foldl_append_iff, Report.incorrect_foldl_append_iff,
    compareEach_equal_iff]
  simp [Report.empty]

end Statement

end QueryGrading
