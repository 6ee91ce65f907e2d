import QueryGrading.Proofs.Output.Containment
import QueryGrading.Proofs.Query.Stable

/-!
# Names that are missing or extra

Tables, common table expressions, select items, columns of a new table, of its primary key and of an
insertion are compared by their names in ascending order. Where the lists differ, the message names
what is left of the one and what is left of the other, which is what `sorted_difference` is for
(`leftover` here). Something is left of one of them, because sorted lists of which nothing is left
are equal. So no message on names is empty-handed: each missing and each extra name stands in it, on
a line that says which of the two it is, and there is at least one (`NamesDifference`).

The comparators in question are `from::compare`, `compare_select`, `compare_columns`,
`compare_primary_key` and the comparison of the columns of an insertion. They write the names with
`join_quoted`, or with commas between them, so a name is found in the line as it is.

A report only grows while a statement is compared (`Report.Grows`), so a line once written is in the
report on the whole statement (`leftover_told`).
-/

namespace QueryGrading

open Text (contains commas inQuotes quotedCommas)

/-! ## 1. Texts in texts

A message is a text, and that it names something means that the name stands in it. The lemmas say
how this survives when a message is put together. -/

namespace Text

variable {s t u x : String} {xs : List String}

/-- A text stands in another between what is in front of it and what is behind it. -/
theorem contains_iff : contains s t = true ↔ ∃ before after, s = before ++ t ++ after := by
  rw [contains, hasRun_iff]
  constructor
  · rintro ⟨before, after, h⟩
    refine ⟨.ofList before, .ofList after, ?_⟩
    rw [← String.toList_inj, ← h]
    simp
  · rintro ⟨before, after, rfl⟩
    exact ⟨before.toList, after.toList, by simp⟩

/-- What stands in a text that stands in another stands in that. -/
theorem contains_trans (hst : contains s t = true) (htu : contains t u = true) :
    contains s u = true := by
  rw [contains, hasRun_iff] at *
  exact htu.trans hst

/-- Every text stands in itself. -/
theorem contains_self (s : String) : contains s s = true :=
  contains_iff.mpr ⟨"", "", by simp⟩

theorem contains_append_left (t : String) (h : contains s u = true) :
    contains (s ++ t) u = true :=
  contains_trans (contains_iff.mpr ⟨"", t, by simp⟩) h

theorem contains_append_right (s : String) (h : contains t u = true) :
    contains (s ++ t) u = true :=
  contains_trans (contains_iff.mpr ⟨s, "", by simp⟩) h

/-- Every item of a listing stands in it. -/
theorem contains_commas (h : x ∈ xs) : contains (commas xs) x = true := by
  induction xs with
  | nil => cases h
  | cons y rest ih =>
    rw [commas, join]
    rcases List.mem_cons.mp h with rfl | hrest
    · cases rest with
      | nil => rw [String.intercalate_singleton, contains_self]
      | cons z rest =>
        rw [String.intercalate_cons_cons, String.append_assoc]
        exact contains_append_left _ (contains_self x)
    · rw [String.intercalate_cons_of_ne_nil (List.ne_nil_of_mem hrest)]
      exact contains_append_right _ (ih hrest)

/-- Each of some texts stands in their concatenation. -/
theorem contains_concat (h : x ∈ xs) : contains (concat xs) x = true := by
  induction xs with
  | nil => cases h
  | cons y rest ih =>
    rw [concat, String.join_cons]
    rcases List.mem_cons.mp h with rfl | hrest
    · exact contains_append_left _ (contains_self x)
    · exact contains_append_right _ (ih hrest)

/-- So does every item of a listing in quotes. -/
theorem contains_quotedCommas (h : x ∈ xs) : contains (quotedCommas xs) x = true :=
  contains_trans (contains_commas (List.mem_map_of_mem h)) (contains_iff.mpr ⟨"'", "'", rfl⟩)

end Text

/-! ## 2. Reports grow

A comparator goes on after the part in question. So reports are ordered by what they say, and each
further part only adds to them. -/

namespace Report

/-- One report comes from another by adding to it: what was said stays, in front, and a report that
denied that all is equal still does. -/
structure Grows (r s : Report) : Prop where
  equal : s.equal = true → r.equal = true
  correct : r.correct <+: s.correct
  incorrect : r.incorrect <+: s.incorrect
  hints : r.hints <+: s.hints
  message : r.message.toList <+: s.message.toList

variable {r s u : Report}

theorem Grows.refl (r : Report) : r.Grows r :=
  ⟨id, List.prefix_rfl, List.prefix_rfl, List.prefix_rfl, List.prefix_rfl⟩

/-- To add is to add to what was added. -/
theorem Grows.trans (h : r.Grows s) (h' : s.Grows u) : r.Grows u where
  equal hu := h.equal (h'.equal hu)
  correct := h.correct.trans h'.correct
  incorrect := h.incorrect.trans h'.incorrect
  hints := h.hints.trans h'.hints
  message := h.message.trans h'.message

theorem Grows.pass (h : r.Grows s) (part : String) : r.Grows (s.pass part) :=
  h.trans ⟨id, List.prefix_append _ _, List.prefix_rfl, List.prefix_rfl, List.prefix_rfl⟩

theorem Grows.fail (h : r.Grows s) (part message : String) :
    r.Grows (s.fail part message) := by
  refine h.trans ⟨nofun, List.prefix_rfl, List.prefix_append _ _, List.prefix_rfl, ?_⟩
  rw [Report.fail, String.toList_append]
  exact List.prefix_append _ _

theorem Grows.advise (h : r.Grows s) (hints : List String) : r.Grows (s.advise hints) :=
  h.trans ⟨id, List.prefix_rfl, List.prefix_rfl, List.prefix_append _ _, List.prefix_rfl⟩

/-- To go on from a report is stable, whatever is added to it. -/
theorem stable_grows (r : Report) : Stable r.Grows where
  pass part h := h.pass part
  fail part message _ _ h := (h.fail part message).advise _

/-- What a report has said it still says later on. -/
theorem Grows.contains {text : String} (h : r.Grows s)
    (htext : contains r.message text = true) : contains s.message text = true := by
  refine Text.contains_trans ?_ htext
  rw [Text.contains, hasRun_iff]
  exact h.message.isInfix

end Report

/-! ## 3. Messages on names

Names that are missing and names that are extra have a line each, and a line is there only if it has
a name to give. -/

/-- The line of a message that begins so and lists names. -/
def nameLine (label : String) (list : List String → String) (names : List String) : String :=
  label ++ list names ++ ".\n"

/-- A line lists names: each of them stands in it. -/
def ListsNames (line : List String → String) : Prop :=
  ∀ names, ∀ x ∈ names, contains (line names) x = true

/-- A line lists names if its listing does. -/
theorem lists_nameLine (label : String) {list : List String → String} (h : ListsNames list) :
    ListsNames (nameLine label list) :=
  fun names x hx => Text.contains_append_left _ (Text.contains_append_right _ (h names x hx))

theorem lists_commas : ListsNames commas := fun _ _ => Text.contains_commas

theorem lists_quotedCommas : ListsNames quotedCommas := fun _ _ => Text.contains_quotedCommas

/-- Each of some names stands in the line on them, and the line in the message. -/
def NamesEach (message : String) (line : List String → String) (names : List String) : Prop :=
  ∀ x ∈ names, contains (line names) x = true ∧ contains message (line names) = true

/-- A message names all that is missing and all that is extra among the names found, each in the
line that is meant for it, and there is one name at least. -/
structure NamesDifference (message : String) (missing extra : List String → String)
    (expected found : List String) : Prop where
  missing : NamesEach message missing (leftover expected found)
  extra : NamesEach message extra (leftover found expected)
  exists_name : leftover expected found ≠ [] ∨ leftover found expected ≠ []

section Naming

variable {message message' : String} {line missing extra : List String → String}
  {names expected found xs ys : List String}

/-- A line that lists names tells them, if it is in the message. -/
theorem ListsNames.names_of (h : ListsNames line)
    (hmessage : names ≠ [] → contains message (line names) = true) :
    NamesEach message line names :=
  fun x hx => ⟨h names x hx, hmessage (List.ne_nil_of_mem hx)⟩

/-- A longer message names what it named before. -/
theorem NamesDifference.mono (h : NamesDifference message missing extra expected found)
    (hmessage : contains message' message = true) :
    NamesDifference message' missing extra expected found where
  missing x hx := ⟨(h.missing x hx).1, Text.contains_trans hmessage (h.missing x hx).2⟩
  extra x hx := ⟨(h.extra x hx).1, Text.contains_trans hmessage (h.extra x hx).2⟩
  exists_name := h.exists_name

/-- A message with one line for what is missing and one for what is extra, each of them there if it
has something to list. -/
theorem namesDifference_of_lines (hne : sorted xs ≠ sorted ys)
    (hmissing : NamesEach message missing (leftover (sorted xs) (sorted ys)))
    (hextra : NamesEach message extra (leftover (sorted ys) (sorted xs))) :
    NamesDifference message missing extra (sorted xs) (sorted ys) :=
  ⟨hmissing, hextra, not_and_or.mp (leftover_ne_nil_of_sorted_ne hne)⟩

/-- A line that is left out has nothing to list. -/
theorem names_ite (h : ListsNames line) (names : List String) :
    NamesEach (if names.isEmpty then "" else line names) line names := by
  refine h.names_of fun hne => ?_
  rw [if_neg (by simpa using hne)]
  exact Text.contains_self _

/-- A line of names with commas between them. -/
theorem names_lineOf (label : String) (names : List String) :
    NamesEach (lineOf label names ".\n") (nameLine label commas) names :=
  names_ite (lists_nameLine label lists_commas) names

/-- A line of names in quotes. -/
theorem names_lineOf_inQuotes (label : String) (names : List String) :
    NamesEach (lineOf label (names.map inQuotes) ".\n") (nameLine label quotedCommas) names := by
  rw [lineOf, List.isEmpty_map]
  exact names_ite (lists_nameLine label lists_quotedCommas) names

/-- Text behind the line takes nothing away. -/
theorem NamesEach.append_left (h : NamesEach message line names) (rest : String) :
    NamesEach (message ++ rest) line names :=
  fun x hx => ⟨(h x hx).1, Text.contains_append_left rest (h x hx).2⟩

/-- Text in front of the line takes nothing away. -/
theorem NamesEach.append_right (h : NamesEach message line names) (before : String) :
    NamesEach (before ++ message) line names :=
  fun x hx => ⟨(h x hx).1, Text.contains_append_right before (h x hx).2⟩

end Naming

/-- A verdict that a clause differs, with a message that names the difference. -/
def ClauseVerdict.TellsNames (v : ClauseVerdict) (missing extra : List String → String)
    (expected found : List String) : Prop :=
  v.outcome = .incorrect ∧ NamesDifference v.message missing extra expected found

/-- A report that a part is incorrect, with a message that names the difference. -/
def Report.TellsNames (r : Report) (part : String) (missing extra : List String → String)
    (expected found : List String) : Prop :=
  part ∈ r.incorrect ∧ NamesDifference r.message missing extra expected found

/-- What is told of names is told in the report on the whole statement. -/
theorem Report.Grows.tellsNames {r s : Report} {part : String}
    {missing extra : List String → String} {expected found : List String} (h : r.Grows s)
    (hr : r.TellsNames part missing extra expected found) :
    s.TellsNames part missing extra expected found :=
  ⟨h.incorrect.subset hr.1, hr.2.mono (h.contains (Text.contains_self _))⟩

/-- A part that is added with such a message is told. -/
theorem Report.tellsNames_fail (r : Report) (part : String) {message : String}
    {missing extra : List String → String} {expected found : List String}
    (h : NamesDifference message missing extra expected found) :
    (r.fail part message).TellsNames part missing extra expected found :=
  ⟨List.mem_append_right _ List.mem_cons_self,
    h.mono (Text.contains_append_right _ (Text.contains_self _))⟩

/-! ## 4. Sources and select lists

Each of the three parts has its own wording, and one proof for its line. -/

namespace FromClause

variable {r s : FromClause}

/-- The names of the tables in ascending order. -/
def tableNames (f : FromClause) : List String := sorted (f.tables.map TableRef.name)

/-- The names of the common table expressions in ascending order. -/
def cteNames (f : FromClause) : List String := sorted f.ctes

/-- Sources are compared unless both statements have none. -/
theorem compare_of_tables (h : ¬ (r.tables = [] ∧ s.tables = [])) :
    r.compare s = .ofMessage (tablesMismatch r s ++ joinsMismatch r s ++ ctesMismatch r s) [] := by
  rw [compare, if_neg (by simpa using h)]

/-- The lines on the tables. -/
theorem namesDifference_tablesMismatch (h : r.tableNames ≠ s.tableNames) :
    NamesDifference (tablesMismatch r s) (nameLine "● Missing tables: " quotedCommas)
      (nameLine "● Extra tables: " quotedCommas) r.tableNames s.tableNames := by
  unfold tableNames at *
  unfold tablesMismatch
  dsimp only
  rw [if_neg h]
  refine namesDifference_of_lines h ?_ ?_
  · exact ((names_lineOf_inQuotes _ _).append_right _).append_left _
  · exact (names_lineOf_inQuotes _ _).append_right _

/-- The lines on the common table expressions. -/
theorem namesDifference_ctesMismatch (h : r.cteNames ≠ s.cteNames) :
    NamesDifference (ctesMismatch r s) (nameLine "● Missing CTEs: " commas)
      (nameLine "● Extra CTEs: " commas) r.cteNames s.cteNames := by
  unfold cteNames at *
  unfold ctesMismatch
  dsimp only
  rw [if_neg h]
  refine namesDifference_of_lines h ?_ ?_
  · exact ((names_lineOf _ _).append_right _).append_left _
  · exact (names_lineOf _ _).append_right _

/-- Tables that differ are named. -/
theorem tellsNames_tables (h : r.tableNames ≠ s.tableNames) :
    (r.compare s).TellsNames (nameLine "● Missing tables: " quotedCommas)
      (nameLine "● Extra tables: " quotedCommas) r.tableNames s.tableNames := by
  have htables : ¬ (r.tables = [] ∧ s.tables = []) := by
    rintro ⟨hr, hs⟩
    rw [tableNames, tableNames, hr, hs] at h
    exact h rfl
  constructor
  · by_contra hagrees
    exact h ((agrees_compare_iff_of_tables htables).mp hagrees).1
  · rw [compare_of_tables htables]
    exact (namesDifference_tablesMismatch h).mono
      (Text.contains_append_left _ (Text.contains_append_left _ (Text.contains_self _)))

/-- Common table expressions are compared only beside tables. -/
theorem tellsNames_ctes (hpresent : (r.compare s).outcome ≠ .absent) (h : r.cteNames ≠ s.cteNames) :
    (r.compare s).TellsNames (nameLine "● Missing CTEs: " commas)
      (nameLine "● Extra CTEs: " commas) r.cteNames s.cteNames := by
  have htables : ¬ (r.tables = [] ∧ s.tables = []) := by
    rintro ⟨hr, hs⟩
    rw [compare, hr, hs] at hpresent
    exact hpresent rfl
  constructor
  · by_contra hagrees
    exact h ((agrees_compare_iff_of_tables htables).mp hagrees).2.2
  · rw [compare_of_tables htables]
    exact (namesDifference_ctesMismatch h).mono
      (Text.contains_append_right _ (Text.contains_self _))

end FromClause

/-- How the items of one kind are listed; expressions are not quoted. -/
def ItemKind.listing : ItemKind → List String → String
  | expression => commas
  | _ => quotedCommas

/-- The line on items of one kind. -/
def ItemKind.line (what : String) (kind : ItemKind) : List String → String :=
  nameLine ("● " ++ what ++ " " ++ kind.plural ++ ": ") kind.listing

namespace SelectList

variable {r s : SelectList} {kind : ItemKind}

/-- The message on items of one kind that differ. -/
theorem exists_itemsMismatch? (h : textsOf kind r.items ≠ textsOf kind s.items) :
    ∃ d, itemsMismatch? kind r s = some d ∧ NamesDifference d.1 (kind.line "Missing")
      (kind.line "Extra") (textsOf kind r.items) (textsOf kind s.items) := by
  unfold itemsMismatch?
  dsimp only
  rw [if_neg h]
  cases kind with
  | expression =>
    refine ⟨_, rfl, namesDifference_of_lines h ?_ ?_⟩
    · exact ((names_lineOf _ _).append_right _).append_left _
    · exact (names_lineOf _ _).append_right _
  | column | function =>
    refine ⟨_, rfl, namesDifference_of_lines h ?_ ?_⟩
    · exact ((names_ite (lists_nameLine _ lists_quotedCommas) _).append_right _).append_left _
    · exact (names_ite (lists_nameLine _ lists_quotedCommas) _).append_right _

/-- Items that differ are named. -/
theorem tellsNames_items (h : textsOf kind r.items ≠ textsOf kind s.items) :
    (r.compare s).TellsNames (kind.line "Missing") (kind.line "Extra") (textsOf kind r.items)
      (textsOf kind s.items) := by
  have hitems : ¬ (r.items = [] ∧ s.items = []) := by
    rintro ⟨hr, hs⟩
    rw [hr, hs] at h
    exact h rfl
  have hkind : kind ∈ ItemKind.all := by cases kind <;> decide
  constructor
  · by_contra hagrees
    have htexts := ((agrees_compare_iff_of_items hitems).mp hagrees).2
    exact h ((textsPerKind_eq_iff _ _).mp htexts kind hkind)
  · obtain ⟨d, hd, hnames⟩ := exists_itemsMismatch? h
    refine hnames.mono ?_
    rw [compare, if_neg (by simpa using hitems)]
    exact Text.contains_append_right _ (Text.contains_concat
      (List.mem_map_of_mem (List.mem_filterMap.mpr ⟨kind, hkind, hd⟩)))

end SelectList

/-! ## 5. Columns

New tables and insertions compare the names of columns, each with the same two differences as the
clauses of a query. The key of a table has one more sentence, for a key that should have several
columns and has one. -/

namespace CreateTable

variable {r s : CreateTable}

/-- The names of the columns in ascending order. -/
def columnNames (s : CreateTable) : List String := sorted (s.columns.map Column.name)

/-- The columns of the primary key in ascending order. -/
def keyNames (s : CreateTable) : List String := sorted s.primaryKey

/-- The sentence on a key of one column in the place of one of several. -/
def compositeLine (expected : List String) (only : String) : String :=
  s!"● Your statement defines a primary key only on '{only}', " ++
    s!"but the requirement is a composite primary key on ({commas expected}).\n"

/-- The line on the columns of the primary key. If a key of one column stands for one of several,
the message gives both keys and not their difference. -/
def primaryKeyLine (label : String) (expected found : List String) : List String → String :=
  match found, decide (1 < expected.length) with
  | [only], true => fun _ => compositeLine expected only
  | _, _ => nameLine label commas

/-- Columns that differ are named. -/
theorem tellsNames_compareNames (h : r.columnNames ≠ s.columnNames) (report : Report) :
    (compareNames r s report).TellsNames "Column names"
      (nameLine "● Your CREATE statement is missing these column(s): " commas)
      (nameLine "● Your CREATE statement includes extra column(s): " commas)
      r.columnNames s.columnNames := by
  unfold columnNames at *
  unfold compareNames
  dsimp only
  rw [if_neg h]
  refine report.tellsNames_fail "Column names" (namesDifference_of_lines h ?_ ?_)
  · exact (names_ite (lists_nameLine _ lists_commas) _).append_left _
  · exact (names_ite (lists_nameLine _ lists_commas) _).append_right _

/-- The sentence on both keys names every column of either. -/
theorem namesDifference_compositeLine {expected : List String} {only : String}
    (hne : leftover expected [only] ≠ [] ∨ leftover [only] expected ≠ []) :
    NamesDifference (compositeLine expected only) (fun _ => compositeLine expected only)
      (fun _ => compositeLine expected only) expected [only] where
  missing x hx := by
    have hmem : x ∈ expected := (leftover_sublist expected [only]).subset hx
    have hstands : contains (compositeLine expected only) x = true :=
      Text.contains_append_right _ (Text.contains_append_left _
        (Text.contains_append_right _ (Text.contains_commas hmem)))
    exact ⟨hstands, Text.contains_self _⟩
  extra x hx := by
    have hmem : x ∈ [only] := (leftover_sublist [only] expected).subset hx
    rw [List.mem_singleton.mp hmem]
    have hstands : contains (compositeLine expected only) only = true :=
      Text.contains_append_left _ (Text.contains_append_left _
        (Text.contains_append_right _ (Text.contains_self only)))
    exact ⟨hstands, Text.contains_self _⟩
  exists_name := hne

/-- Columns of the key that differ are named, or both keys are. -/
theorem tellsNames_comparePrimaryKey (h : r.keyNames ≠ s.keyNames) (report : Report) :
    (comparePrimaryKey r s report).TellsNames "Primary key"
      (primaryKeyLine "● Missing primary key column(s): " r.keyNames s.keyNames)
      (primaryKeyLine "● Extra primary key column(s): " r.keyNames s.keyNames)
      r.keyNames s.keyNames := by
  unfold keyNames at *
  have hlines := namesDifference_of_lines h
    ((names_lineOf "● Missing primary key column(s): " _).append_left _)
    ((names_lineOf "● Extra primary key column(s): " _).append_right _)
  have hsome := hlines.exists_name
  unfold comparePrimaryKey
  dsimp only
  rw [if_neg h]
  generalize sorted r.primaryKey = expected at *
  generalize sorted s.primaryKey = found at *
  -- a key of one column is told otherwise than one of none or of several
  rcases found with - | ⟨only, - | ⟨second, rest⟩⟩
  · exact report.tellsNames_fail "Primary key" hlines
  · unfold primaryKeyLine
    cases decide (1 < expected.length) with
    | false => exact report.tellsNames_fail "Primary key" hlines
    | true => exact report.tellsNames_fail "Primary key" (namesDifference_compositeLine hsome)
  · exact report.tellsNames_fail "Primary key" hlines

theorem tellsNames_columns (h : r.columnNames ≠ s.columnNames) :
    (r.compare s).TellsNames "Column names"
      (nameLine "● Your CREATE statement is missing these column(s): " commas)
      (nameLine "● Your CREATE statement includes extra column(s): " commas)
      r.columnNames s.columnNames := by
  unfold compare
  extract_lets report
  have hnames := tellsNames_compareNames h report
  -- the names are compared first, and all later parts go on from there
  have hgrows := Report.stable_grows (compareNames r s report)
  have hcolumns := Report.keeps_foldl (fun _ c => stable_compareColumn s hgrows c) r.columns
    (Report.Grows.refl (compareNames r s report))
  have hkey := stable_comparePrimaryKey r s hgrows hcolumns
  exact (stable_constraints r s hgrows hkey).tellsNames hnames

/-- The report on the whole table still names them. -/
theorem tellsNames_primaryKey (h : r.keyNames ≠ s.keyNames) :
    (r.compare s).TellsNames "Primary key"
      (primaryKeyLine "● Missing primary key column(s): " r.keyNames s.keyNames)
      (primaryKeyLine "● Extra primary key column(s): " r.keyNames s.keyNames)
      r.keyNames s.keyNames := by
  unfold compare
  extract_lets report
  exact (stable_constraints r s (Report.stable_grows _) (.refl _)).tellsNames
    (tellsNames_comparePrimaryKey h _)

end CreateTable

namespace Insert

variable {r s : Insert}

/-- The names of the columns in lower case and ascending order. -/
def columnNames (s : Insert) : List String := sorted (s.columns.map Text.lower)

theorem tellsNames_columns (h : r.columnNames ≠ s.columnNames) :
    (r.compare s).TellsNames "Target columns" (nameLine "● Missing columns: " commas)
      (nameLine "● Extra columns: " commas) r.columnNames s.columnNames := by
  unfold compare
  extract_lets report
  have hsources := stable_compareSources r s (Report.stable_grows (compareColumns r s report))
    (.refl _) fun _ _ message _ _ _ => ((Report.Grows.refl _).fail _ message).advise _
  refine hsources.tellsNames ?_
  unfold columnNames at *
  unfold compareColumns
  dsimp only
  rw [if_neg h]
  refine Report.tellsNames_fail _ "Target columns" (namesDifference_of_lines h ?_ ?_)
  · exact (names_lineOf _ _).append_left _
  · exact (names_lineOf _ _).append_right _

end Insert

/-! ## 6. All comparisons of names

The differences are those of lists of texts, so what is known of `leftover` holds in each place. -/

/-- **No message on names is empty-handed.**  What is left of a list is in its order and has each
text as often as it has more of it than the other list, so as many elements of one list find an
equal one as of the other; and of sorted lists nothing is left on either side just where they are
equal. So wherever names differ, in sources, select lists, new tables and insertions, the report
says that the part is incorrect and names all that is missing and all that is extra, one name at
least. The common table expressions of a query without a table are not compared. -/
theorem leftover_told :
    (∀ a b : List String, (leftover a b).Sublist a ∧
      (∀ x, (leftover a b).count x = a.count x - b.count x) ∧
      a.length - (leftover a b).length = b.length - (leftover b a).length) ∧
    (∀ a b : List String, a.Pairwise (· ≤ ·) → b.Pairwise (· ≤ ·) →
      (leftover a b = [] ∧ leftover b a = [] ↔ a = b)) ∧
    (∀ r s : FromClause,
      (r.tableNames ≠ s.tableNames →
        (r.compare s).TellsNames (nameLine "● Missing tables: " quotedCommas)
          (nameLine "● Extra tables: " quotedCommas) r.tableNames s.tableNames) ∧
      ((r.compare s).outcome ≠ .absent → r.cteNames ≠ s.cteNames →
        (r.compare s).TellsNames (nameLine "● Missing CTEs: " commas)
          (nameLine "● Extra CTEs: " commas) r.cteNames s.cteNames)) ∧
    (∀ (r s : SelectList) (kind : ItemKind),
      textsOf kind r.items ≠ textsOf kind s.items →
        (r.compare s).TellsNames (kind.line "Missing") (kind.line "Extra")
          (textsOf kind r.items) (textsOf kind s.items)) ∧
    (∀ r s : CreateTable,
      (r.columnNames ≠ s.columnNames →
        (r.compare s).TellsNames "Column names"
          (nameLine "● Your CREATE statement is missing these column(s): " commas)
          (nameLine "● Your CREATE statement includes extra column(s): " commas)
          r.columnNames s.columnNames) ∧
      (r.keyNames ≠ s.keyNames →
        (r.compare s).TellsNames "Primary key"
          (CreateTable.primaryKeyLine "● Missing primary key column(s): " r.keyNames s.keyNames)
          (CreateTable.primaryKeyLine "● Extra primary key column(s): " r.keyNames s.keyNames)
          r.keyNames s.keyNames)) ∧
    ∀ r s : Insert, r.columnNames ≠ s.columnNames →
      (r.compare s).TellsNames "Target columns" (nameLine "● Missing columns: " commas)
        (nameLine "● Extra columns: " commas) r.columnNames s.columnNames := by
  -- the first two parts are on lists, the others go comparator by comparator
  refine ⟨?_, ?_, ?_, ?_, ?_, ?_⟩
  · intro a b
    exact ⟨leftover_sublist a b, count_leftover a b, length_sub_leftover a b⟩
  · intro a b
    exact leftover_eq_nil_and_iff_of_sorted
  · intro r s
    exact ⟨FromClause.tellsNames_tables, FromClause.tellsNames_ctes⟩
  · intro r s kind
    exact SelectList.tellsNames_items
  · intro r s
    exact ⟨CreateTable.tellsNames_columns, CreateTable.tellsNames_primaryKey⟩
  · intro r s
    exact Insert.tellsNames_columns

/-- A table that is read once instead of twice, and one name less in each of the other lists. -/
theorem leftover_told_twice :
    let r : FromClause := ⟨[⟨"rivers", "r"⟩, ⟨"cities", "c"⟩, ⟨"cities", "d"⟩], [], ["old"]⟩
    let s : FromClause := ⟨[⟨"cities", ""⟩, ⟨"rivers", ""⟩], [], []⟩
    let items : SelectList := ⟨false, [⟨.function, "count(*)", "n"⟩]⟩
    let noItems : SelectList := ⟨false, []⟩
    let t : CreateTable := ⟨"t", [⟨"a", "int4", true⟩, ⟨"b", "text", true⟩], ["b", "a"], [], [], []⟩
    let u : CreateTable := ⟨"t", [⟨"b", "text", true⟩], ["b"], [], [], []⟩
    let i : Insert := ⟨"t", ["A", "b"], .values [["1", "2"]]⟩
    let j : Insert := ⟨"t", ["a"], .values [["1"]]⟩
    (leftover ["a", "b", "b"] ["b"] = [] ∧ leftover ["b"] ["a", "b", "b"] = [] ↔
        ["a", "b", "b"] = ["b"]) ∧
      leftover r.tableNames s.tableNames = ["cities"] ∧
      (r.compare s).TellsNames (nameLine "● Missing tables: " quotedCommas)
        (nameLine "● Extra tables: " quotedCommas) r.tableNames s.tableNames ∧
      (r.compare s).TellsNames (nameLine "● Missing CTEs: " commas)
        (nameLine "● Extra CTEs: " commas) r.cteNames s.cteNames ∧
      (items.compare noItems).outcome = .incorrect ∧
      "Column names" ∈ (t.compare u).incorrect ∧ "Primary key" ∈ (t.compare u).incorrect ∧
      "Target columns" ∈ (i.compare j).incorrect := by
  intro r s items noItems t u i j
  have htables : r.tableNames ≠ s.tableNames := (sorted_eq_iff _ _).not.mpr (by decide)
  have hctes : r.cteNames ≠ s.cteNames := (sorted_eq_iff _ _).not.mpr (by decide)
  have hitems : textsOf .function items.items ≠ textsOf .function noItems.items :=
    (sorted_eq_iff _ _).not.mpr (by decide)
  have hcolumns : t.columnNames ≠ u.columnNames := (sorted_eq_iff _ _).not.mpr (by decide)
  have hkey : t.keyNames ≠ u.keyNames := (sorted_eq_iff _ _).not.mpr (by decide)
  have htargets : i.columnNames ≠ j.columnNames := (sorted_eq_iff _ _).not.mpr (by decide)
  have hleft : leftover r.tableNames s.tableNames = ["cities"] :=
    List.perm_singleton.mp (leftover_perm (sorted_perm _) (sorted_perm _))
  obtain ⟨-, hsorted, hsources, hlists, hcreate, hinsert⟩ := leftover_told
  have htold := (hsources r s).1 htables
  have hpresent : (r.compare s).outcome ≠ .absent := by
    rw [htold.1]
    decide
  exact ⟨hsorted _ _ (by decide) (by decide), hleft, htold, (hsources r s).2 hpresent hctes,
    (hlists items noItems .function hitems).1, ((hcreate t u).1 hcolumns).1,
    ((hcreate t u).2 hkey).1, (hinsert i j htargets).1⟩

end QueryGrading
