import QueryGrading.Text.Listing

/-!
# Reports

A `ClauseVerdict` is what the comparison of one optional clause says; a `Report` gathers the parts
of a statement that match, those that do not, what to do about them, and the message in which all
this is told.

They are `ClauseComparison` and `ComparisonResult`, with `correct`, `incorrect`, `hint`,
`record_clause` and `merge` as `pass`, `fail`, `advise`, `addClause` and `append`. `refuse` makes a
report unequal without naming a part, which happens to statements of a kind that cannot be graded.
The text that is put together from a report is in `Query.Select` for a query, and in
`Query.Statement` for all other kinds.
-/

namespace QueryGrading

/-! ## 1. One clause -/

/-- How a clause of a submission compares with that of the reference; `absent` if neither has
it. -/
inductive Outcome
  | absent
  | correct
  | incorrect
  deriving DecidableEq, Repr

/-- The verdict on one clause: why it differs, and hints. -/
structure ClauseVerdict where
  outcome : Outcome
  message : String
  hints : List String
  deriving DecidableEq, Repr

namespace ClauseVerdict

/-- Neither statement has the clause. -/
def absent (message : String) : ClauseVerdict := ⟨.absent, message, []⟩

/-- The verdict of a comparison that found these differences; without any the clauses match. -/
def ofMessage (message : String) (hints : List String) : ClauseVerdict :=
  ⟨if message = "" then .correct else .incorrect, message, hints⟩

end ClauseVerdict

/-! ## 2. A statement -/

/-- The comparison of a statement with its reference: the parts that match and those that do not,
hints, and the details in the order in which they were found. -/
structure Report where
  equal : Bool
  correct : List String
  incorrect : List String
  hints : List String
  message : String
  deriving DecidableEq, Repr

namespace Report

/-- Nothing compared yet. -/
def empty : Report := ⟨true, [], [], [], ""⟩

/-- A report that names no part. -/
def refuse (message : String) : Report := { empty with equal := false, message := message }

/-- Adds a part that matches. -/
def pass (r : Report) (part : String) : Report := { r with correct := r.correct ++ [part] }

/-- Adds a part that does not match, and why. -/
def fail (r : Report) (part message : String) : Report :=
  { r with
    equal := false
    incorrect := r.incorrect ++ [part]
    message := r.message ++ message }

/-- Adds hints. -/
def advise (r : Report) (hints : List String) : Report := { r with hints := r.hints ++ hints }

/-- Adds a part that does not match, why, and one hint. -/
def failWith (r : Report) (part message hint : String) : Report :=
  (r.fail part message).advise [hint]

/-- Adds the verdict on a clause; a clause that both statements lack is no part. -/
def addClause (r : Report) (part : String) (verdict : ClauseVerdict) : Report :=
  match verdict.outcome with
  | .absent => r.advise verdict.hints
  | .correct => (r.pass part).advise verdict.hints
  | .incorrect => (r.fail part verdict.message).advise verdict.hints

/-- One report after another; equal if both are. -/
def append (r s : Report) : Report where
  equal := r.equal && s.equal
  correct := r.correct ++ s.correct
  incorrect := r.incorrect ++ s.incorrect
  hints := r.hints ++ s.hints
  message := r.message ++ s.message

end Report

/-! ## 3. Items in messages -/

/-- A line of items, nothing if there are none. -/
def lineOf (before : String) (items : List String) (after : String) : String :=
  if items.isEmpty then "" else before ++ Text.commas items ++ after

/-- Items with their numbers, counted from `first`. -/
def numbered {α : Type} (first : Nat) : List α → List (Nat × α)
  | [] => []
  | x :: rest => (first, x) :: numbered (first + 1) rest

end QueryGrading
