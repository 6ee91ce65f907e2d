import QueryGrading.Query.From

/-!
# Select list and grouping

The items of a select list and of `GROUP BY` are written expressions of three kinds: columns,
functions and other expressions. Both clauses are compared kind by kind, without regard to the order
of the items.

In both, the sorted texts of each kind are compared (`texts_of`). `compare_select` then names what
is missing and what is extra, and looks at DISTINCT besides; `compare_group_by` only says which kind
differs, and looks at the constructs ROLLUP, CUBE and GROUPING SETS. `GroupBy.ofTree` is `extract`
with `add_items`, which goes down into nested grouping sets and keeps the items in one list.
-/

namespace QueryGrading

open Text (commas concat commasAnd quotedCommas)

/-! ## 1. Items -/

/-- The kind of an item. -/
inductive ItemKind
  | column
  | function
  | expression
  deriving DecidableEq, Repr

namespace ItemKind

/-- All kinds in the order of messages. -/
def all : List ItemKind := [column, function, expression]

/-- The kind of an expression. -/
def ofTree (t : Tree) : ItemKind :=
  match t.key with
  | "ColumnRef" => column
  | "FuncCall" => function
  | _ => expression

/-- The noun for several items. -/
def plural : ItemKind → String
  | column => "columns"
  | function => "functions"
  | expression => "expressions"

/-- The noun for several items as a heading. -/
def heading : ItemKind → String
  | column => "Columns"
  | function => "Functions"
  | expression => "Expressions"

end ItemKind

/-- An item: its kind, its written expression, and its alias, empty if it has none. -/
structure Projection where
  kind : ItemKind
  text : String
  shortName : String
  deriving DecidableEq, Repr

/-- The item of an expression. -/
def Projection.ofTree (scope : Scope) (t : Tree) (shortName : String) : Projection :=
  ⟨.ofTree t, t.render scope, shortName⟩

/-- The texts of the items of one kind in ascending order. -/
def textsOf (kind : ItemKind) (items : List Projection) : List String :=
  sorted ((items.filter (·.kind = kind)).map Projection.text)

/-- The texts of all items, those of one kind together. -/
def textsByKind (items : List Projection) : List String :=
  ItemKind.all.flatMap fun kind => (items.filter (·.kind = kind)).map Projection.text

/-! ## 2. The select list -/

/-- The select list. -/
structure SelectList where
  distinct : Bool
  items : List Projection
  deriving DecidableEq, Repr

namespace SelectList

/-- The item of a target; a target without an expression is none. -/
def item? (scope : Scope) (t : Tree) : Option Projection :=
  if t.key = "ResTarget" then (t.wrapped? "val").map fun e => .ofTree scope e (t.nameOf "name")
  else none

/-- The select list of a statement with these sources. -/
def ofTree (sources : FromClause) (t : Tree) : SelectList :=
  ⟨(t.child? "distinctClause").isSome, (t.under "targetList").filterMap (item? sources.scope)⟩

/-- The scope of the aliases of the sources and of the select list. -/
def scope (l : SelectList) (sources : FromClause) : Scope :=
  l.items.foldl (fun scope item => scope.addOutput item.shortName item.text) sources.scope

/-- The select list in words. -/
def describe (l : SelectList) : String :=
  let verb := if l.distinct then "Return distinct data from " else "Return data from "
  match textsByKind l.items with
  | [] => verb ++ "0 columns"
  | [text] => verb ++ "1 column: " ++ text
  | texts => verb ++ s!"{texts.length} columns: " ++ commasAnd texts

/-- How the use of `DISTINCT` differs, and the hint. -/
def distinctMismatch? (r s : SelectList) : Option (String × String) :=
  match r.distinct, s.distinct with
  | true, false =>
    some ("● Missing DISTINCT keyword.\n",
      "💡 Add the DISTINCT keyword to eliminate duplicate rows in your SELECT clause.")
  | false, true =>
    some ("● Unexpected DISTINCT keyword.\n",
      "💡 Remove the DISTINCT keyword from your SELECT clause if duplicates are acceptable.")
  | _, _ => none

/-- How the items of one kind differ, and the hints; expressions are not quoted and give no
hint. -/
def itemsMismatch? (kind : ItemKind) (r s : SelectList) : Option (String × List String) :=
  let expected := textsOf kind r.items
  let found := textsOf kind s.items
  if expected = found then none
  else
    let noun := kind.plural
    let missing := leftover expected found
    let extra := leftover found expected
    let head := s!"\n● Mismatch in selected {noun}.\n"
    match kind with
    | .expression =>
      some (head ++ lineOf "● Missing expressions: " missing ".\n" ++
        lineOf "● Extra expressions: " extra ".\n", [])
    | _ =>
      let lost := quotedCommas missing
      let added := quotedCommas extra
      some (head ++
        (if missing.isEmpty then "" else s!"● Missing {noun}: {lost}.\n") ++
        (if extra.isEmpty then "" else s!"● Extra {noun}: {added}.\n"),
        (if missing.isEmpty then []
          else [s!"💡 Add the missing {noun}: {lost} to your SELECT clause."]) ++
        (if extra.isEmpty then []
          else [s!"💡 Remove the extra {noun}: {added} from your SELECT clause."]))

/-- The verdict on the select list. -/
def compare (r s : SelectList) : ClauseVerdict :=
  if r.items.isEmpty && s.items.isEmpty then .absent "Both queries have no SELECT clause."
  else
    let distinct := (distinctMismatch? r s).toList
    let kinds := ItemKind.all.filterMap fun kind => itemsMismatch? kind r s
    .ofMessage (concat (distinct.map (·.1)) ++ concat (kinds.map (·.1)))
      (distinct.map (·.2) ++ kinds.flatMap (·.2))

end SelectList

/-! ## 3. Grouping -/

/-- A construct around grouping items. -/
inductive GroupingKind
  | sets
  | rollup
  | cube
  deriving DecidableEq, Repr

namespace GroupingKind

/-- The construct that a parse tree names. -/
def ofName? : String → Option GroupingKind
  | "GROUPING_SET_SETS" => some sets
  | "GROUPING SETS" => some sets
  | "GROUPING_SET_ROLLUP" => some rollup
  | "ROLLUP" => some rollup
  | "GROUPING_SET_CUBE" => some cube
  | "CUBE" => some cube
  | _ => none

/-- The construct as it is written. -/
def text : GroupingKind → String
  | sets => "GROUPING SETS"
  | rollup => "ROLLUP"
  | cube => "CUBE"

/-- The line for a construct that only one of two clauses uses. -/
def mismatchLine : GroupingKind → String
  | sets => "\n ● Grouping Sets: Mismatch.\n"
  | rollup => "● Rollup: Mismatch.\n"
  | cube => "● Cube: Mismatch.\n"

end GroupingKind

namespace Tree

/-- The grouping constructs of a list in order, those inside others included. -/
def groupingKinds (t : Tree) : List GroupingKind :=
  t.children.attach.flatMap fun ⟨item, _⟩ =>
    if item.key = "GroupingSet" then
      (GroupingKind.ofName? (item.valueOf "kind")).toList ++
        match _h : item.child? "content" with
        | some content => groupingKinds content
        | none => []
    else []
termination_by t
decreasing_by exact Nat.lt_trans (sizeOf_child? _h) (sizeOf_children ‹_›)

/-- The grouping items of a list in order, those inside grouping constructs included. -/
def groupingItems (t : Tree) : List Tree :=
  t.children.attach.flatMap fun ⟨item, _⟩ =>
    if item.key = "GroupingSet" then
      match _h : item.child? "content" with
      | some content => groupingItems content
      | none => []
    else [item]
termination_by t
decreasing_by exact Nat.lt_trans (sizeOf_child? _h) (sizeOf_children ‹_›)

end Tree

/-- The `GROUP BY` clause: its grouping constructs and its items. -/
structure GroupBy where
  grouping : List GroupingKind
  items : List Projection
  deriving DecidableEq, Repr

namespace GroupBy

/-- No grouping. -/
def blank : GroupBy := ⟨[], []⟩

/-- The grouping of a statement with these sources. -/
def ofTree (sources : FromClause) (t : Tree) : GroupBy :=
  match t.child? "groupClause" with
  | some c => ⟨c.groupingKinds, c.groupingItems.map fun e => .ofTree sources.scope e ""⟩
  | none => blank

/-- There is no grouping. -/
def isEmpty (g : GroupBy) : Bool := g.items.isEmpty && g.grouping.isEmpty

/-- The grouping in words; the first construct is named. -/
def describe (g : GroupBy) : String :=
  let texts := textsByKind g.items
  match g.grouping, texts with
  | kind :: _, _ => "Group the result using " ++ kind.text ++ " on " ++ commasAnd texts
  | [], [] => "No grouping applied."
  | [], [text] => "Group the result by 1 element: " ++ text
  | [], _ => s!"Group the result by {texts.length} elements: " ++ commasAnd texts

/-- The line for a construct, if only one of two clauses uses it. -/
def constructMismatch (kind : GroupingKind) (r s : GroupBy) : String :=
  if r.grouping.contains kind = s.grouping.contains kind then "" else kind.mismatchLine

/-- The line for the items of one kind, if they differ. -/
def itemsMismatch (kind : ItemKind) (r s : GroupBy) : String :=
  if textsOf kind r.items = textsOf kind s.items then ""
  else "● " ++ kind.heading ++ ": Mismatch in GROUP BY " ++ kind.plural ++ ".\n"

/-- The verdict on the grouping. -/
def compare (r s : GroupBy) : ClauseVerdict :=
  match r.isEmpty, s.isEmpty with
  | true, true => .absent "Both queries have no GROUP BY clause."
  | false, true => .ofMessage "GROUP BY clause missing" []
  | true, false => .ofMessage "GROUP BY clause unexpected" []
  | false, false =>
    .ofMessage
      (concat ([.sets, .rollup, .cube].map fun kind => constructMismatch kind r s) ++
        concat (ItemKind.all.map fun kind => itemsMismatch kind r s)) []

end GroupBy

end QueryGrading
