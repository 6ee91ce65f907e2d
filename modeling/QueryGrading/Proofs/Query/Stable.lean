import QueryGrading.Proofs.Query.Clause
import QueryGrading.Query.Statement

/-!
# What comparators keep

A comparator goes through the parts of two statements and adds each of them to its report: with
`correct` where the part matches, and with `incorrect` and a `hint` where it does not. A property of
reports that both ways keep (`Report.Stable`) is kept by the whole comparator, whatever the
statements are. So the branches of the comparators are gone through once, for all such properties.

Three properties are used: that a report says that all is equal just where it names no incorrect
part, that it gives a hint just where it names one, and that it goes on from another report.

The lemmas cover `compare` of new tables, deletions, assertions and alterations, and the parts of
insertions, updates and views. What a nested query hands on is a hypothesis, as it may be no hint at
all, and so the sources of an update are left out.
-/

namespace QueryGrading

/-! ## 1. Stable properties -/

namespace ClauseVerdict

/-- There is a hint just where the clause differs. -/
def Advised (v : ClauseVerdict) : Prop := v.hints = [] ↔ v.Agrees

/-- A clause that both statements lack gives no hint. -/
@[simp] theorem advised_absent (message : String) : (absent message).Advised :=
  iff_of_true rfl (agrees_absent message)

/-- A verdict made from a message has its hints just where there is something to say. -/
theorem advised_ofMessage_iff (message : String) (hints : List String) :
    (ofMessage message hints).Advised ↔ (hints = [] ↔ message = "") := by
  rw [Advised, agrees_ofMessage_iff, ofMessage]

end ClauseVerdict

/-- Conditions give one hint for each way in which they differ. -/
theorem Condition.advised_compareClause (clause : String) (a b : Option Condition) :
    (compareClause clause a b).Advised := by
  cases a with
  | none => cases b <;> simp [compareClause, ClauseVerdict.advised_ofMessage_iff, toString]
  | some a =>
    cases b with
    | none => simp [compareClause, ClauseVerdict.advised_ofMessage_iff, toString]
    | some b =>
      rw [compareClause]
      cases hm : mismatch? a b with
      | none => simp [ClauseVerdict.advised_ofMessage_iff]
      | some message =>
        have hne : message ≠ "" := fun h => mismatch?_ne_empty a b (by rw [hm, h])
        simp [ClauseVerdict.advised_ofMessage_iff, hne]

namespace Report

/-- A part that matches keeps the property, and so does a part that does not match and comes with a
hint. -/
structure Stable (P : Report → Prop) : Prop where
  pass : ∀ {r : Report} (part : String), P r → P (r.pass part)
  fail : ∀ {r : Report} (part message : String) {hints : List String}, hints ≠ [] → P r →
    P ((r.fail part message).advise hints)

variable {P : Report → Prop} {r : Report}

/-- Where each step keeps a property, all steps do. -/
theorem keeps_foldl {α : Type} {step : Report → α → Report}
    (hstep : ∀ r x, P r → P (step r x)) (xs : List α) (h : P r) : P (xs.foldl step r) :=
  List.foldlRecOn (motive := P) xs step h fun report hreport x _ => hstep report x hreport

/-- No hints change nothing. -/
@[simp] theorem advise_nil (r : Report) : r.advise [] = r := by
  rw [advise, List.append_nil]

namespace Stable

/-- A single hint is one. -/
theorem failWith (hP : Stable P) (part message hint : String) (h : P r) :
    P (r.failWith part message hint) :=
  hP.fail part message (List.cons_ne_nil hint []) h

/-- A clause that gives a hint if it differs. -/
theorem addClause (hP : Stable P) (part : String) {v : ClauseVerdict} (hv : v.Advised) (h : P r) :
    P (r.addClause part v) := by
  have hnil : v.outcome ≠ .incorrect → v.hints = [] := hv.mpr
  unfold Report.addClause
  split
  · next houtcome =>
    rw [hnil (by simp [houtcome]), advise_nil]
    exact h
  · next houtcome =>
    rw [hnil (by simp [houtcome]), advise_nil]
    exact hP.pass part h
  · next houtcome => exact hP.fail part v.message (fun hhints => hv.mp hhints houtcome) h

end Stable

end Report

variable {P : Report → Prop} {report : Report}

/-! ## 2. Tables

A name, the columns, a key and three kinds of constraints are compared one after another. -/

namespace CreateTable

variable (r s : CreateTable)

/-- The names of the columns come first. -/
theorem stable_compareNames (hP : Report.Stable P) (h : P report) :
    P (compareNames r s report) := by
  unfold compareNames
  dsimp only
  split
  · split
    · exact h
    · exact hP.pass _ h
  · next hne =>
    -- something is missing or extra, and is named in a hint
    refine hP.fail _ _ (fun hnil => leftover_ne_nil_of_sorted_ne hne ?_) h
    simpa using hnil

/-- A column is compared by its type and by whether it may be null. -/
theorem stable_compareColumn (hP : Report.Stable P) (c : Column) (h : P report) :
    P (compareColumn s report c) := by
  have htype : ∀ d, P (compareType c d report) := by
    intro d
    unfold compareType
    dsimp only
    split
    · exact hP.pass _ h
    · exact hP.failWith _ _ _ h
  unfold compareColumn
  split
  · exact h
  · unfold compareNotNull
    dsimp only
    split
    · exact hP.pass _ (htype _)
    · exact hP.failWith _ _ _ (htype _)

theorem stable_compareColumns (hP : Report.Stable P) (h : P report) :
    P (compareColumns r s report) :=
  Report.keeps_foldl (fun _ c => stable_compareColumn s hP c) r.columns
    (stable_compareNames r s hP h)

/-- There is one hint, whichever way the keys differ. -/
theorem stable_comparePrimaryKey (hP : Report.Stable P) (h : P report) :
    P (comparePrimaryKey r s report) := by
  unfold comparePrimaryKey
  dsimp only
  split
  · split
    · exact h
    · exact hP.pass _ h
  · split <;> exact hP.failWith _ _ _ h

/-- Foreign keys, unique constraints and checks are compared in one way; there has to be a hint for
each difference. -/
theorem stable_compareConstraints {α : Type} {part noun message : String} {hints : List String}
    {expected found : List α} (hP : Report.Stable P) (hhints : hints = [] → message = "")
    (h : P report) :
    P (compareConstraints part noun expected found (closePart part message hints) report) := by
  unfold compareConstraints
  split
  · split
    · exact h
    · exact hP.failWith _ _ _ h
  · split
    · exact hP.failWith _ _ _ h
    · unfold closePart
      split
      · exact hP.pass _ h
      · next hne => exact hP.fail _ _ (fun hnil => hne (hhints hnil)) h

/-- All that is compared after the columns and the primary key. -/
theorem stable_constraints (hP : Report.Stable P) (h : P report) :
    P (report |> compareForeignKeys r s |> compareUniques r s |> compareChecks r s) := by
  refine stable_compareConstraints hP ?_ (stable_compareConstraints hP ?_
    (stable_compareConstraints hP ?_ h))
  · intro hnil
    rw [List.map_eq_nil_iff] at hnil
    rw [hnil]
    rfl
  · simp
  · simp

theorem stable_compare (hP : Report.Stable P) (hempty : P .empty) : P (r.compare s) := by
  refine stable_constraints r s hP (stable_comparePrimaryKey r s hP
    (stable_compareColumns r s hP ?_))
  split
  · exact hP.pass _ hempty
  · exact hP.failWith _ _ _ hempty

end CreateTable

/-- The operations are compared only if there are as many and of the same kinds. -/
theorem AlterTable.stable_compare (r s : AlterTable) (hP : Report.Stable P) (hempty : P .empty) :
    P (r.compare s) := by
  have hoperation : ∀ (report : Report) (item : Nat × AlterOperation × AlterOperation),
      P report → P (compareOperation report item) := by
    intro report item h
    unfold compareOperation
    dsimp only
    split
    · exact hP.pass _ h
    · exact hP.failWith _ _ _ h
  unfold compare
  extract_lets table counted
  have htable : P table := by
    unfold table
    split
    · exact hP.pass _ hempty
    · exact hP.failWith _ _ _ hempty
  have hcounted : P counted := hP.pass _ htable
  split
  · exact hP.failWith _ _ _ htable
  · split
    · exact hP.failWith _ _ _ hcounted
    · exact Report.keeps_foldl hoperation _ (hP.pass _ hcounted)

/-! ## 3. Rows

The values of an insertion are compared cell by cell, and the assignments of an update one by
one. -/

namespace Insert

variable (r s : Insert)

theorem stable_compareColumns (hP : Report.Stable P) (h : P report) :
    P (compareColumns r s report) := by
  unfold compareColumns
  dsimp only
  split
  · split
    · exact h
    · exact hP.pass _ h
  · next hne =>
    refine hP.fail _ _ (fun hnil => leftover_ne_nil_of_sorted_ne hne ?_) h
    simpa [Select.presentIf] using hnil

/-- A row of another length is not looked into. -/
theorem stable_compareRow (hP : Report.Stable P) (row : Nat × List String × List String)
    (h : P report) : P (compareRow report row) := by
  have hcell : ∀ (r : Report) (cell : Nat × String × String), P r →
      P (compareCell row.1 r cell) := by
    intro r cell hr
    unfold compareCell
    dsimp only
    split
    · exact hr
    · exact hP.failWith _ _ _ hr
  unfold compareRow
  dsimp only
  split
  · unfold failLength
    dsimp only
    split <;> exact hP.failWith _ _ _ h
  · exact Report.keeps_foldl hcell _ h

/-- Neither are rows of which there are more or fewer. -/
theorem stable_compareRows (hP : Report.Stable P) (expected found : List (List String))
    (h : P report) : P (compareRows expected found report) := by
  have hrows := Report.keeps_foldl (fun _ row => stable_compareRow hP row)
    (numbered 1 (expected.zip found)) h
  unfold compareRows
  split
  · exact h
  · split
    · exact hP.failWith _ _ _ h
    · dsimp only
      split
      · exact hP.pass _ hrows
      · exact hrows

/-- Two queries that differ hand their own hints on. -/
theorem stable_compareSources (hP : Report.Stable P) (h : P report)
    (hnested : ∀ q q' message, r.source = .query q → s.source = .query q' →
      (q.compare q').equal = false →
      P ((report.fail "Inserted values" message).advise (q.compare q').hints)) :
    P (compareSources r s report) := by
  unfold compareSources
  split
  · exact stable_compareRows hP _ _ h
  · next q q' hr hs =>
    dsimp only
    split
    · exact hP.pass _ h
    · next hequal => exact hnested q q' _ hr hs (Bool.eq_false_of_not_eq_true hequal)
  · exact hP.pass _ h
  · exact hP.failWith _ _ _ h

end Insert

/-- The number of assignments is compared, and then each assignment of the reference. -/
theorem Update.stable_compareSet (r s : Update) (hP : Report.Stable P) (h : P report) :
    P (compareSet r s report) := by
  have hassigned : ∀ (r : Report) (a : Assigned), P r → P (compareAssigned s r a) := by
    intro r a hr
    unfold compareAssigned
    split
    · exact hP.failWith _ _ _ hr
    · split
      · exact hr
      · exact hP.failWith _ _ _ hr
  unfold compareSet
  extract_lets sameCount counted assigned
  have hcounted : P counted := by
    unfold counted
    split
    · exact h
    · exact hP.failWith _ _ _ h
  have hset : P assigned := Report.keeps_foldl hassigned r.set hcounted
  split
  · exact hP.pass _ hset
  · exact hset

/-- The sources of a deletion have a hint, and so has its filter. -/
theorem Delete.stable_compare (r s : Delete) (hP : Report.Stable P) (hempty : P .empty) :
    P (r.compare s) := by
  unfold compare
  extract_lets target sources report filter
  have htarget : P target := by
    unfold target
    split
    · exact hP.pass _ hempty
    · exact hP.failWith _ _ _ hempty
  have hreport : P report := by
    unfold report
    split
    · exact htarget
    · exact hP.pass _ htarget
    · exact hP.failWith _ _ _ htarget
  split
  · exact hreport
  · exact hP.addClause _ (Condition.advised_compareClause _ _ _) hreport

/-! ## 4. Views and assertions -/

namespace View

variable (r s : View)

theorem stable_compareColumns (hP : Report.Stable P) (h : P report) :
    P (compareColumns r s report) := by
  unfold compareColumns
  split
  · split
    · exact h
    · exact hP.pass _ h
  · exact hP.failWith _ _ _ h

/-- As for an insertion, two queries that differ hand their own hints on. -/
theorem stable_compareQuery (hP : Report.Stable P) (h : P report)
    (hnested : ∀ q q' message, r.query = some q → s.query = some q' →
      (q.compare q').equal = false →
      P ((report.fail "View SELECT clause" message).advise (q.compare q').hints)) :
    P (compareQuery r s report) := by
  unfold compareQuery
  split
  · next q q' hr hs =>
    dsimp only
    split
    · exact hP.pass _ h
    · next hequal => exact hnested q q' _ hr hs (Bool.eq_false_of_not_eq_true hequal)
  · exact h
  · exact hP.failWith _ _ _ h

end View

/-- The condition of an assertion hands its hints on, and there are some if it differs. -/
theorem Assertion.stable_compare (r s : Assertion) (hP : Report.Stable P) (hempty : P .empty) :
    P (r.compare s) := by
  unfold compare
  extract_lets name check
  have hname : P name := by
    unfold name
    split
    · exact hP.pass _ hempty
    · exact hP.failWith _ _ _ hempty
  split
  · next hincorrect =>
    refine hP.fail _ _ (fun hnil => ?_) hname
    exact (Condition.advised_compareClause "CHECK" r.check s.check).mp hnil hincorrect
  · exact hP.pass _ hname

end QueryGrading
