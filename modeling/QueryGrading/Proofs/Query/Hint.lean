import QueryGrading.Proofs.Query.Consistency

/-!
# Hints, and reports that congratulate

A report closes with what to do next, or with a success line if there is no hint. The hints are the
`next_steps` of a result, and `component_report` closes with the success line where that list is
empty, whatever the verdict is. So it matters whether each part that is found incorrect comes with a
call of `hint`.

Almost every comparator makes one for each part that differs (`Report.Advised`): alterations,
assertions, new tables, deletions, and every clause of a query but its first. There are two
exceptions. The expressions of a select list differ without a hint, in `compare_select`. And
`from::compare` has no hints of its own: a query has one for its clause in `CLAUSE_HINTS`, an update
has none for its sources. A nested query hands its hints on, so the first exception is also one of
insertions from a query and of views.

Statements that differ in such a part and in no other are unhinted (`Statement.Unhinted`), and the
report on them closes with the success line like the report on equal statements
(`Statement.congratulates_iff`). That hints and incorrect parts stay together is a stable property
(`stable_advised`), which settles the comparators without an exception; the three kinds with one are
split by whether it applies.
-/

namespace QueryGrading

/-! ## 1. Hints and incorrect parts

That hints and incorrect parts come together is stable, so most of the comparators need no further
look: tables, deletions, assertions and alterations are done with this section. -/

namespace Report

variable {r : Report}

/-- There is a hint just where a part is incorrect. -/
def Advised (r : Report) : Prop := r.hints = [] ↔ r.incorrect = []

/-- An empty report gives no hint and names no part. -/
@[simp] theorem advised_empty : empty.Advised := by simp [Advised, empty]

@[simp] theorem advised_pass_iff (part : String) : (r.pass part).Advised ↔ r.Advised := Iff.rfl

/-- A part that is found incorrect together with a hint. -/
theorem advised_advise_fail (part message : String) {hints : List String} (h : hints ≠ []) :
    ((r.fail part message).advise hints).Advised := by
  simp [Advised, advise, fail, h]

@[simp] theorem advised_failWith (part message hint : String) :
    (r.failWith part message hint).Advised :=
  advised_advise_fail part message (List.cons_ne_nil hint [])

/-- A clause adds its hints. -/
theorem hints_addClause (r : Report) (part : String) (v : ClauseVerdict) :
    (r.addClause part v).hints = r.hints ++ v.hints := by
  unfold Report.addClause
  cases v.outcome <;> rfl

/-- It adds its name if it differs. -/
theorem incorrect_addClause (r : Report) (part : String) (v : ClauseVerdict) :
    (r.addClause part v).incorrect =
      r.incorrect ++ if v.outcome = .incorrect then [part] else [] := by
  unfold Report.addClause
  cases v.outcome <;> simp [advise, pass, fail]

/-- A part that does not match brings its hint with it. -/
theorem stable_advised : Stable Advised where
  pass part h := (advised_pass_iff part).mpr h
  fail part message _ hhints _ := advised_advise_fail part message hhints

end Report

/-! ## 2. Queries

A select list is the one clause that can differ without a hint. So the hints of a query are empty if
no clause differs, or if this one alone does, in its expressions alone. -/

namespace SelectList

/-- The lists differ, but only in their expressions. -/
structure DifferInExpressions (r s : SelectList) : Prop where
  distinct : r.distinct = s.distinct
  columns : textsOf .column r.items = textsOf .column s.items
  functions : textsOf .function r.items = textsOf .function s.items
  expressions : textsOf .expression r.items ≠ textsOf .expression s.items

/-- Expressions that differ are named in the message alone. -/
theorem hints_itemsMismatch?_expression {r s : SelectList} {d : String × List String}
    (h : itemsMismatch? .expression r s = some d) : d.2 = [] := by
  obtain ⟨-, hd⟩ := Option.ite_none_left_eq_some.mp h
  cases hd
  rfl

/-- Columns and functions that differ give a hint. -/
theorem hints_itemsMismatch?_ne_nil {kind : ItemKind} (hkind : kind ≠ .expression)
    {r s : SelectList} {d : String × List String} (h : itemsMismatch? kind r s = some d) :
    d.2 ≠ [] := by
  obtain ⟨hne, hd⟩ := Option.ite_none_left_eq_some.mp h
  intro hnil
  refine leftover_ne_nil_of_sorted_ne hne ?_
  cases kind with
  | expression => exact absurd rfl hkind
  | column | function =>
    cases hd
    simpa [textsOf] using hnil

/-- The hints for one kind of items. -/
theorem forall_hints_eq_nil_iff (kind : ItemKind) (r s : SelectList) :
    (∀ d, itemsMismatch? kind r s = some d → d.2 = []) ↔
      (kind ≠ .expression → textsOf kind r.items = textsOf kind s.items) := by
  rw [← itemsMismatch?_eq_none_iff]
  constructor
  · intro hnil hkind
    cases hd : itemsMismatch? kind r s with
    | none => rfl
    | some d => exact absurd (hnil d hd) (hints_itemsMismatch?_ne_nil hkind hd)
  · intro hnone d hd
    by_cases hkind : kind = .expression
    · subst hkind
      exact hints_itemsMismatch?_expression hd
    · rw [hnone hkind] at hd
      cases hd

theorem hints_compare_eq_nil_iff {r s : SelectList} (h : ¬ (r.items = [] ∧ s.items = [])) :
    (r.compare s).hints = [] ↔
      r.distinct = s.distinct ∧ textsOf .column r.items = textsOf .column s.items ∧
        textsOf .function r.items = textsOf .function s.items := by
  have hsome : (r.items.isEmpty && s.items.isEmpty) = false := by simpa using h
  have hkinds : ((ItemKind.all.filterMap fun kind => itemsMismatch? kind r s).flatMap (·.2)) = [] ↔
      ∀ kind, kind ≠ .expression → textsOf kind r.items = textsOf kind s.items := by
    rw [List.flatMap_eq_nil_iff]
    simp only [List.mem_filterMap, forall_exists_index, and_imp]
    rw [forall_comm]
    refine forall_congr' fun kind => ?_
    rw [← forall_hints_eq_nil_iff]
    have hmem : kind ∈ ItemKind.all := by cases kind <;> decide
    simp [hmem]
  rw [compare, hsome, if_neg Bool.false_ne_true]
  dsimp only
  rw [ClauseVerdict.ofMessage, List.append_eq_nil_iff, hkinds, List.map_eq_nil_iff,
    Option.toList_eq_nil_iff, distinctMismatch?_eq_none_iff]
  refine and_congr_right fun _ => ⟨fun hall => ⟨hall _ (by decide), hall _ (by decide)⟩, ?_⟩
  rintro ⟨hcolumns, hfunctions⟩ kind hkind
  cases kind with
  | column => exact hcolumns
  | function => exact hfunctions
  | expression => exact absurd rfl hkind

/-- A select list that differs gives no hint just where it differs in its expressions alone. -/
theorem differInExpressions_iff (r s : SelectList) :
    r.DifferInExpressions s ↔ ¬ (r.compare s).Agrees ∧ (r.compare s).hints = [] := by
  -- two empty select lists are not compared at all
  by_cases hempty : r.items = [] ∧ s.items = []
  · have habsent : (r.compare s).Agrees := by simp [compare, hempty]
    simp only [habsent, not_true_eq_false, false_and, iff_false]
    intro h
    exact h.expressions (by rw [hempty.1, hempty.2])
  · have hsome : (r.items.isEmpty && s.items.isEmpty) = false := by simpa using hempty
    rw [hints_compare_eq_nil_iff hempty, agrees_compare_iff_of_items hempty, textsPerKind_eq_iff]
    constructor
    · intro h
      exact ⟨fun hagree => h.expressions (hagree.2 _ (by decide)),
        h.distinct, h.columns, h.functions⟩
    · rintro ⟨hdiffer, hdistinct, hcolumns, hfunctions⟩
      refine ⟨hdistinct, hcolumns, hfunctions, fun hexpressions => hdiffer ⟨hdistinct, ?_⟩⟩
      intro kind _
      cases kind <;> assumption

end SelectList

namespace Select

/-- The queries differ in the expressions of their select lists, and in no other clause. -/
def DifferInExpressions (r s : Select) : Prop :=
  r.list.DifferInExpressions s.list ∧ (r.compare s).incorrect = ["SELECT clause"]

/-- The clauses after the select list. -/
def laterEntries (r s : Select) : List ClauseEntry := (clauseEntries r s).tail

theorem clauseEntries_eq (r s : Select) :
    clauseEntries r s = ⟨"SELECT clause", r.list.compare s.list, none⟩ :: laterEntries r s := rfl

/-- Every clause after the select list gives a hint if it differs. -/
theorem hints_laterEntries_ne_nil {r s : Select} {e : ClauseEntry} (h : e ∈ laterEntries r s)
    (hdiffers : ¬ e.verdict.Agrees) : e.hints ≠ [] := by
  simp only [laterEntries, clauseEntries, List.tail_cons, List.mem_cons, List.not_mem_nil,
    or_false] at h
  rcases h with rfl | rfl | rfl | rfl | rfl
  case inr.inl =>
    intro hnil
    have hverdict : (Condition.compareClause "WHERE" r.filter s.filter).hints = [] := by
      simpa [ClauseEntry.hints] using hnil
    exact hdiffers ((Condition.advised_compareClause _ _ _).mp hverdict)
  all_goals simp [ClauseEntry.hints]

theorem forall_laterEntries_iff (r s : Select) :
    (∀ e ∈ laterEntries r s, ¬ e.verdict.Agrees → e.hints = []) ↔
      ∀ e ∈ laterEntries r s, e.verdict.Agrees :=
  forall₂_congr fun _ he =>
    ⟨fun h => by_contra fun hdiffers => hints_laterEntries_ne_nil he hdiffers (h hdiffers),
      fun h hdiffers => absurd h hdiffers⟩

/-- No other clause is called as the select list is. -/
theorem incorrect_compare_eq_singleton_iff (r s : Select) :
    (r.compare s).incorrect = ["SELECT clause"] ↔
      ¬ (r.list.compare s.list).Agrees ∧ ∀ e ∈ laterEntries r s, e.verdict.Agrees := by
  -- so a later clause that differs cannot be what the one name stands for
  have hnames : ∀ e ∈ laterEntries r s, e.name ≠ "SELECT clause" := by
    simp [laterEntries, clauseEntries]
  have hincorrect : (r.compare s).incorrect =
      ((clauseEntries r s).filter (·.verdict.outcome = .incorrect)).map ClauseEntry.name := rfl
  have hlater : (laterEntries r s).filter (·.verdict.outcome = .incorrect) = [] ↔
      ∀ e ∈ laterEntries r s, e.verdict.Agrees := by
    simp [ClauseVerdict.Agrees]
  rw [hincorrect, clauseEntries_eq, ← hlater]
  by_cases hlist : (r.list.compare s.list).outcome = .incorrect
  · simp [hlist, ClauseVerdict.Agrees]
  · have hlist' : (r.list.compare s.list).Agrees := hlist
    simp only [List.filter_cons, hlist, decide_false, Bool.false_eq_true, if_false, hlist',
      not_true_eq_false, false_and, iff_false]
    intro hsingle
    have hmem : "SELECT clause" ∈ ((laterEntries r s).filter
        (·.verdict.outcome = .incorrect)).map ClauseEntry.name := by simp [hsingle]
    obtain ⟨e, he, hname⟩ := List.mem_map.mp hmem
    exact hnames e (List.mem_of_mem_filter he) hname

/-- **A query that differs gives no hint just where it differs in its expressions alone.** -/
theorem hints_compare_eq_nil_iff (r s : Select) :
    (r.compare s).hints = [] ↔
      (r.compare s).equal = true ∨ r.DifferInExpressions s := by
  have hhints : (r.compare s).hints = [] ↔
      ∀ e ∈ clauseEntries r s, ¬ e.verdict.Agrees → e.hints = [] := by
    simp [compare, ClauseVerdict.Agrees, List.flatMap_eq_nil_iff]
  have hequal : (r.compare s).equal = true ↔ ∀ e ∈ clauseEntries r s, e.verdict.Agrees := by
    simp [compare, ClauseVerdict.Agrees]
  rw [hhints, hequal, DifferInExpressions, SelectList.differInExpressions_iff,
    incorrect_compare_eq_singleton_iff, clauseEntries_eq, List.forall_mem_cons,
    List.forall_mem_cons, forall_laterEntries_iff]
  simp only [ClauseEntry.hints, Option.toList_none, List.append_nil]
  tauto

end Select

/-! ## 3. Statements with a part that may give no hint

The two kinds that contain a query pass its hints on, and an update has sources. Each is split by
whether the part that may give no hint differs. -/

variable {report : Report}

/-- A part that takes its hints from a nested query. -/
theorem hints_nested_eq_nil_iff {q q' : Select} (hreport : report.Advised)
    (hdiffer : (q.compare q').equal = false) (part message : String) :
    ((report.fail part message).advise (q.compare q').hints).hints = [] ↔
      ((report.fail part message).advise (q.compare q').hints).incorrect = [part] ∧
        q.DifferInExpressions q' := by
  have hincorrect : ((report.fail part message).advise (q.compare q').hints).incorrect = [part] ↔
      report.incorrect = [] := by
    simp [Report.advise, Report.fail]
  have hhints : ((report.fail part message).advise (q.compare q').hints).hints = [] ↔
      report.hints = [] ∧ (q.compare q').hints = [] := by
    simp [Report.advise, Report.fail]
  have hadvised : report.hints = [] ↔ report.incorrect = [] := hreport
  rw [hincorrect, hhints, hadvised, Select.hints_compare_eq_nil_iff, hdiffer]
  simp

/-- Queries that differ in their expressions are not equal. -/
theorem Select.DifferInExpressions.equal_eq_false {q q' : Select} (h : q.DifferInExpressions q') :
    (q.compare q').equal = false := by
  have hconsistent : (q.compare q').equal = true ↔ (q.compare q').incorrect = [] :=
    Select.consistent_compare q q'
  rw [Bool.eq_false_iff, ne_eq, hconsistent, h.2]
  exact List.cons_ne_nil _ _

namespace Insert

variable (r s : Insert)

/-- The rows come from queries that differ in expressions alone, and nothing else differs. -/
def Unhinted : Prop :=
  (r.compare s).incorrect = ["Inserted values"] ∧
    ∃ q q' : Select, r.source = .query q ∧ s.source = .query q' ∧ q.DifferInExpressions q'

theorem hints_compare_eq_nil_iff :
    (r.compare s).hints = [] ↔ (r.compare s).incorrect = [] ∨ r.Unhinted s := by
  unfold Unhinted compare
  extract_lets target
  have htarget : target.Advised := by
    unfold target
    split <;> simp
  have hcolumns := stable_compareColumns r s Report.stable_advised htarget
  -- only two queries that differ can leave the report without a hint
  by_cases hdiffer : ∃ q q' : Select, r.source = .query q ∧ s.source = .query q' ∧
      (q.compare q').equal = false
  · obtain ⟨q, q', hr, hs, hequal⟩ := hdiffer
    have hnested := hints_nested_eq_nil_iff hcolumns hequal "Inserted values"
      ("● The SELECT feeding the INSERT differs in: " ++ Text.commas (q.compare q').incorrect ++
        ".\n")
    simp only [compareSources, hr, hs, hequal, Bool.false_eq_true, if_false]
    rw [hnested]
    simp [Report.advise, Report.fail]
  · have hadvised := stable_compareSources r s Report.stable_advised hcolumns
      fun q q' _ hr hs hequal => absurd ⟨q, q', hr, hs, hequal⟩ hdiffer
    have hnone : ¬ ∃ q q' : Select, r.source = .query q ∧ s.source = .query q' ∧
        q.DifferInExpressions q' := by
      rintro ⟨q, q', hr, hs, h⟩
      exact hdiffer ⟨q, q', hr, hs, h.equal_eq_false⟩
    rw [or_iff_left fun h => hnone h.2]
    exact hadvised

end Insert

namespace View

variable (r s : View)

/-- The queries of the views differ in expressions alone, and nothing else differs. -/
def Unhinted : Prop :=
  (r.compare s).incorrect = ["View SELECT clause"] ∧
    ∃ q q' : Select, r.query = some q ∧ s.query = some q' ∧ q.DifferInExpressions q'

theorem hints_compare_eq_nil_iff :
    (r.compare s).hints = [] ↔ (r.compare s).incorrect = [] ∨ r.Unhinted s := by
  unfold Unhinted compare
  extract_lets name
  have hname : name.Advised := by
    unfold name
    split <;> simp
  have hcolumns := stable_compareColumns r s Report.stable_advised hname
  -- as for an insertion from a query
  by_cases hdiffer : ∃ q q' : Select, r.query = some q ∧ s.query = some q' ∧
      (q.compare q').equal = false
  · obtain ⟨q, q', hr, hs, hequal⟩ := hdiffer
    have hnested := hints_nested_eq_nil_iff hcolumns hequal "View SELECT clause"
      ("● The SELECT clause in the view definition does not match.\n" ++ (q.compare q').message)
    simp only [compareQuery, hr, hs, hequal, Bool.false_eq_true, if_false]
    rw [hnested]
    simp [Report.advise, Report.fail]
  · have hadvised := stable_compareQuery r s Report.stable_advised hcolumns
      fun q q' _ hr hs hequal => absurd ⟨q, q', hr, hs, hequal⟩ hdiffer
    have hnone : ¬ ∃ q q' : Select, r.query = some q ∧ s.query = some q' ∧
        q.DifferInExpressions q' := by
      rintro ⟨q, q', hr, hs, h⟩
      exact hdiffer ⟨q, q', hr, hs, h.equal_eq_false⟩
    rw [or_iff_left fun h => hnone h.2]
    exact hadvised

end View

namespace Update

variable (r s : Update)

/-- The sources differ, and nothing else. -/
def Unhinted : Prop :=
  ¬ (r.sources.compare s.sources).Agrees ∧ (r.compare s).incorrect = ["FROM clause"]

theorem hints_compare_eq_nil_iff :
    (r.compare s).hints = [] ↔ (r.compare s).incorrect = [] ∨ r.Unhinted s := by
  unfold Unhinted compare
  extract_lets target set sources report filter
  have htarget : target.Advised := by
    unfold target
    split <;> simp
  have hset : set.hints = [] ↔ set.incorrect = [] :=
    stable_compareSet r s Report.stable_advised htarget
  have hfilter : filter.hints = [] ↔ filter.outcome ≠ .incorrect :=
    Condition.advised_compareClause _ _ _
  have hsources : sources.hints = [] := by
    unfold sources FromClause.compare
    split <;> rfl
  -- an absent clause has no hint and is no incorrect part, like one that matches
  have hreport : report.hints = set.hints ∧
      report.incorrect = set.incorrect ++
        if sources.outcome = .incorrect then ["FROM clause"] else [] := by
    unfold report
    split
    · next habsent => simp [habsent]
    · rw [Report.hints_addClause, Report.incorrect_addClause, hsources, List.append_nil]
      exact ⟨rfl, rfl⟩
  generalize hfinal : (if filter.outcome = .absent then report.pass "WHERE clause"
    else report.addClause "WHERE clause" filter) = final
  have hhints : final.hints = report.hints ++ filter.hints ∧
      final.incorrect = report.incorrect ++
        if filter.outcome = .incorrect then ["WHERE clause"] else [] := by
    rw [← hfinal]
    split
    · next habsent => simp [Report.pass, hfilter.mpr, habsent]
    · exact ⟨Report.hints_addClause _ _ _, Report.incorrect_addClause _ _ _⟩
  have hdiffer : ¬ (r.sources.compare s.sources).Agrees ↔ sources.outcome = .incorrect := not_not
  rw [hdiffer, hhints.1, hhints.2, hreport.1, hreport.2, List.append_eq_nil_iff, hset, hfilter]
  generalize set.incorrect = parts
  by_cases hs : sources.outcome = .incorrect <;> by_cases hf : filter.outcome = .incorrect <;>
    cases parts <;> simp [hs, hf]

end Update

/-! ## 4. The success line

The closing line depends on the hints alone, so the sections above decide where it stands. -/

namespace Statement

/-- The two statements differ in a way that gives no hint. -/
def Unhinted : Statement → Statement → Prop
  | select r, select s => r.DifferInExpressions s
  | insert r, insert s => r.Unhinted s
  | update r, update s => r.Unhinted s
  | view r, view s => r.Unhinted s
  | _, _ => False

/-- A report gives no hint just where it says that all is equal, or the statements differ in a way
that gives none. -/
theorem hints_compare?_eq_nil_iff {a b : Statement} (h : a.compare? b = some report) :
    report.hints = [] ↔ report.equal = true ∨ a.Unhinted b := by
  have hconsistent : report.equal = true ↔ report.incorrect = [] := consistent_compare? h
  have hints_iff (hadvised : report.Advised) (hnot : ¬ a.Unhinted b) :
      report.hints = [] ↔ report.equal = true ∨ a.Unhinted b := by
    rw [or_iff_left hnot, hconsistent]
    exact hadvised
  cases a <;> cases b <;> cases h
  · exact Select.hints_compare_eq_nil_iff _ _
  · exact hints_iff (CreateTable.stable_compare _ _ Report.stable_advised Report.advised_empty) id
  · rw [hconsistent]
    exact Insert.hints_compare_eq_nil_iff _ _
  · rw [hconsistent]
    exact Update.hints_compare_eq_nil_iff _ _
  · exact hints_iff (Delete.stable_compare _ _ Report.stable_advised Report.advised_empty) id
  · exact hints_iff (Assertion.stable_compare _ _ Report.stable_advised Report.advised_empty) id
  · exact hints_iff (AlterTable.stable_compare _ _ Report.stable_advised Report.advised_empty) id
  · rw [hconsistent]
    exact View.hints_compare_eq_nil_iff _ _

/-- Statements that differ in such a way are not equal. -/
theorem Unhinted.equal_eq_false {a b : Statement} (h : a.compare? b = some report)
    (hunhinted : a.Unhinted b) : report.equal = false := by
  have hconsistent : report.equal = true ↔ report.incorrect = [] := consistent_compare? h
  have hne : report.incorrect ≠ [] := by
    cases a <;> cases b <;> cases h
    case select.select.refl => simp [hunhinted.2]
    case insert.insert.refl => simp [hunhinted.1]
    case update.update.refl => simp [hunhinted.2]
    case view.view.refl => simp [hunhinted.1]
    all_goals exact hunhinted.elim
  rwa [Bool.eq_false_iff, ne_eq, hconsistent]

/-- What a report says when there is nothing left to do. -/
def successLine (kind : StatementKind) : String :=
  if kind = .select then "Excellent! Your query matches the reference query.\n"
  else "Excellent! Your " ++ kind.text ++ " statement matches the reference.\n"

/-- The report closes with the success line, and not with what to do next. The details further up
may quote the line from the report on a nested query. -/
def Congratulates (kind : StatementKind) (report : Report) : Prop :=
  report.hints = [] ∧ ∃ before, report.message = before ++ successLine kind

/-- The text of the report changes nothing about the hints. -/
theorem hints_withText (kind : StatementKind) (report : Report) :
    (withText kind report).hints = report.hints := by
  unfold withText
  split <;> rfl

theorem exists_append_eq (body : String) {closing line : String} (h : closing = line) :
    ∃ before, body ++ closing = before ++ line :=
  ⟨body, by rw [h]⟩

/-- The report on two queries closes itself, before it is put into the text. -/
theorem exists_message_select {q q' : Select} (h : (q.compare q').hints = []) :
    ∃ before, (q.compare q').message = before ++ successLine .select := by
  have hnil : ((Select.clauseEntries q q').filter (·.verdict.outcome = .incorrect)).flatMap
      Select.ClauseEntry.hints = [] := h
  unfold Select.compare Select.reportText
  dsimp only
  rw [hnil]
  apply exists_append_eq
  exact if_pos rfl

/-- The text for all other kinds closes the report. -/
theorem exists_message_reportText {kind : StatementKind} (hkind : kind ≠ .select)
    (h : report.hints = []) :
    ∃ before, reportText kind report = before ++ successLine kind := by
  have hline : successLine kind =
      "Excellent! Your " ++ kind.text ++ " statement matches the reference.\n" := if_neg hkind
  rw [hline]
  unfold reportText
  rw [h]
  apply exists_append_eq
  exact if_pos rfl

/-- A report on two statements of one kind closes with the success line just where there is no
hint. -/
theorem congratulates_withText_iff {a b : Statement} (h : a.compare? b = some report) :
    Congratulates a.kind (withText a.kind report) ↔ report.hints = [] := by
  rw [Congratulates, hints_withText, and_iff_left_iff_imp]
  intro hnil
  by_cases hkind : a.kind = .select
  · rw [withText, if_pos hkind, hkind]
    cases a <;> cases hkind
    cases b <;> cases h
    exact exists_message_select hnil
  · rw [withText, if_neg hkind]
    exact exists_message_reportText hkind hnil

/-- The keys of one kind are the same, but for the two keys of a view. -/
theorem keys_of_kind {r s : String} {kind : StatementKind} (hne : r ≠ s)
    (hr : StatementKind.ofKey? r = some kind) (hs : StatementKind.ofKey? s = some kind) :
    kind = .view ∧
      (r = "ViewStmt" ∧ s = "CreateViewStmt" ∨ r = "CreateViewStmt" ∧ s = "ViewStmt") := by
  unfold StatementKind.ofKey? at hr hs
  split at hr <;> cases hr <;> split at hs <;> cases hs <;> simp_all

/-- A report on statements of two keys says only what the keys are. -/
theorem not_congratulates_of_key_ne {r s : Tree} {kind : StatementKind} (hkey : r.key ≠ s.key)
    (hr : StatementKind.ofKey? r.key = some kind) (hs : StatementKind.ofKey? s.key = some kind) :
    ¬ Congratulates kind (compareTrees r s) := by
  rintro ⟨-, before, hmessage⟩
  rw [compareTrees, if_pos hkey] at hmessage
  have hsuffix : (successLine kind).toList <:+ (Report.empty.fail "Statement Type"
      s!"The correct statement is a {r.key} but your statement is a {s.key}.\n").message.toList :=
    ⟨before.toList, by rw [hmessage, String.toList_append]⟩
  obtain ⟨rfl, ⟨hview, hview'⟩ | ⟨hview, hview'⟩⟩ := keys_of_kind hkey hr hs
  all_goals
    rw [hview, hview'] at hsuffix
    exact absurd hsuffix (by decide +kernel)

/-- **The success line closes a report just where the statements are equal, or differ in a way that
gives no hint.**  In that case the report says so and still names an incorrect part. -/
theorem congratulates_iff {r s : Tree} {kind : StatementKind}
    (hr : StatementKind.ofKey? r.key = some kind) (hs : StatementKind.ofKey? s.key = some kind) :
    (Congratulates kind (compareTrees r s) ↔ (compareTrees r s).equal = true ∨
      r.key = s.key ∧ (ofKind r kind).Unhinted (ofKind s kind)) ∧
    (r.key = s.key ∧ (ofKind r kind).Unhinted (ofKind s kind) →
      (compareTrees r s).equal = false) := by
  by_cases hkey : r.key = s.key
  · -- statements of one key are of one kind, so they are compared part by part
    obtain ⟨report, hreport⟩ :
        ∃ report, (ofKind r kind).compare? (ofKind s kind) = some report := by
      cases kind <;> exact ⟨_, rfl⟩
    have hkind : (ofKind r kind).kind = kind := by cases kind <;> rfl
    have htrees : compareTrees r s = withText kind report := by
      rw [compareTrees_eq hkey (by rw [ofTree?, hr, Option.map_some])
        (by rw [ofTree?, hs, Option.map_some]) hreport, hkind]
    have hcongratulates : Congratulates kind (withText kind report) ↔ report.hints = [] := by
      simpa only [hkind] using congratulates_withText_iff hreport
    rw [htrees, hcongratulates, equal_withText, and_iff_right hkey]
    exact ⟨hints_compare?_eq_nil_iff hreport, Unhinted.equal_eq_false hreport⟩
  · have hequal : (compareTrees r s).equal = false := by
      rw [compareTrees, if_pos hkey]
      rfl
    refine ⟨iff_of_false (not_congratulates_of_key_ne hkey hr hs) ?_, fun _ => hequal⟩
    rintro (htrue | hsame)
    · exact Bool.false_ne_true (hequal.symm.trans htrue)
    · exact hkey hsame.1

/-- An update of one table from another. -/
def updateFrom (table : String) : Tree :=
  .node "UpdateStmt" ""
    [.node "fromClause" "" [.node "RangeVar" "" [.leaf "relname" table]],
      .node "relation" "" [.leaf "relname" "\"t\""]]

/-- Updates from two tables differ, and the report congratulates. -/
theorem congratulates_iff_update :
    StatementKind.ofKey? (updateFrom "\"u\"").key = some .update ∧
      StatementKind.ofKey? (updateFrom "\"v\"").key = some .update ∧
      Congratulates .update (compareTrees (updateFrom "\"u\"") (updateFrom "\"v\"")) ∧
      (compareTrees (updateFrom "\"u\"") (updateFrom "\"v\"")).equal = false := by
  have hkind (table : String) : StatementKind.ofKey? (updateFrom table).key = some .update := rfl
  have hsources : ((Update.ofTree (updateFrom "\"u\"")).sources.compare
      (Update.ofTree (updateFrom "\"v\"")).sources).outcome = .incorrect := by decide +kernel
  have hunhinted : (ofKind (updateFrom "\"u\"") .update).Unhinted
      (ofKind (updateFrom "\"v\"") .update) :=
    ⟨fun hagrees => hagrees hsources, by decide +kernel⟩
  obtain ⟨hiff, hunequal⟩ := congratulates_iff (hkind "\"u\"") (hkind "\"v\"")
  exact ⟨hkind _, hkind _, hiff.mpr (.inr ⟨rfl, hunhinted⟩), hunequal ⟨rfl, hunhinted⟩⟩

/-- A query for a column with a number added to it. -/
def sumQuery (n : String) : Tree :=
  let integer := Tree.node "A_Const" "" [.node "ival" "" [.leaf "ival" n]]
  let sum := Tree.node "A_Expr" ""
    [.leaf "kind" "\"AEXPR_OP\"", .node "lexpr" "" [column "\"a\""],
      .node "name" "" [.node "String" "" [.leaf "sval" "\"+\""]],
      .node "rexpr" "" [integer]]
  .node "SelectStmt" ""
    [.node "fromClause" "" [.node "RangeVar" "" [.leaf "relname" "\"t\""]],
      .node "targetList" "" [.node "ResTarget" "" [.node "val" "" [sum]]]]

/-- The query for one expression from one table. -/
def sumSelect (text : String) : Select where
  sources := ⟨[⟨"t", ""⟩], [], []⟩
  list := ⟨false, [⟨.expression, text, ""⟩]⟩
  filter := none
  groupBy := .blank
  having := none
  orderBy := []

/-- The sums differ, the select list is named as incorrect, and the report congratulates. -/
theorem congratulates_unequal :
    Congratulates .select (compareTrees (sumQuery "1") (sumQuery "2")) ∧
      (compareTrees (sumQuery "1") (sumQuery "2")).equal = false ∧
      (compareTrees (sumQuery "1") (sumQuery "2")).incorrect = ["SELECT clause"] := by
  have hone : Select.ofTree (sumQuery "1") = sumSelect "(a + 1)" := by cbv
  have htwo : Select.ofTree (sumQuery "2") = sumSelect "(a + 2)" := by cbv
  have hreport : (select (Select.ofTree (sumQuery "1"))).compare?
      (select (Select.ofTree (sumQuery "2"))) =
        some ((sumSelect "(a + 1)").compare (sumSelect "(a + 2)")) := by
    rw [hone, htwo]
    rfl
  have hkey : (sumQuery "1").key = (sumQuery "2").key := rfl
  rw [compareTrees_eq hkey rfl rfl hreport, equal_withText, incorrect_withText]
  exact ⟨(congratulates_withText_iff hreport).mpr (by decide +kernel), by decide +kernel,
    by decide +kernel⟩

end Statement

end QueryGrading
