import QueryGrading.Proofs.Query.Presence
import QueryGrading.Proofs.Query.Rearrangement
import QueryGrading.Proofs.Query.Renaming
import QueryGrading.Tree.OfJson

/-!
# Literals on the left of a comparison

`Condition::signature` turns a comparison round if its left operand is a literal, and
`literal_on_left` sees that from the first character of the operand: a digit or an apostrophe. So a
comparison and its mirror image, with the operator of `flipped_operator`, have one signature just
where that character tells the literal from the column (`Condition.signature_turned_iff`).

The operands are the texts that `render` gives to nodes. `constant` writes a literal without its
double quotes (`strip_quotes`) and a number with its sign. Hence the first character tells integers
that are not negative, and other literals only if their own first character is a digit or an
apostrophe (`Tree.mirrored_comparison_iff`): neither a negative number nor a string such as `'abc'`
is taken for a literal.

Section 3 says how a literal is written in a parse tree and what its text is, section 4 what the
node of a comparison is. The shapes are those of the parser's output; literals of other kinds, such
as booleans and bit strings, are not considered.
-/

namespace QueryGrading

namespace Condition

variable {l o o' r : String}

/-! ## 1. First characters

`literal_on_left` looks at the first character of each operand. A digit or an apostrophe on the left
passes for a literal, a letter or an underscore on the right for a name. -/

/-- A comparison is turned round for a left operand that starts with this character. -/
def startsLiteral (c : Char) : Bool := c.isDigit || c == '\''

/-- The characters that start a literal. -/
theorem startsLiteral_iff (c : Char) : startsLiteral c = true ↔ c.isDigit = true ∨ c = '\'' := by
  rw [startsLiteral, Bool.or_eq_true, beq_iff_eq]

/-- The text starts as a literal. -/
def startsAsLiteral (s : String) : Bool := s.toList.head?.any startsLiteral

/-- The text starts as names do. -/
def startsAsName (s : String) : Bool := s.toList.head?.any fun c => Text.isLetter c || c == '_'

/-- Both operands are judged by their first characters. -/
theorem literalOnLeft_eq (l r : String) :
    literalOnLeft l r = (startsAsLiteral l && startsAsName r) := by
  unfold literalOnLeft startsAsLiteral startsAsName
  cases l.toList with
  | nil => rfl
  | cons c cs =>
    cases r.toList with
    | nil => exact (Bool.and_false _).symm
    | cons d ds => rfl

/-- A name does not start as a literal. -/
theorem not_startsAsLiteral_of_name (h : startsAsName r = true) : startsAsLiteral r = false := by
  unfold startsAsName at h
  unfold startsAsLiteral
  cases hr : r.toList with
  | nil => rfl
  | cons c cs =>
    rw [hr] at h
    by_contra hliteral
    simp only [List.head?_cons, Option.any_some, Bool.or_eq_true, beq_iff_eq,
      Bool.not_eq_false] at h hliteral
    have hlt : c.toNat < 65 := toNat_lt_of_literal ((startsLiteral_iff c).mp hliteral)
    have hle : 65 ≤ c.toNat := le_toNat_of_name h
    omega

/-! ## 2. A comparison and its mirror image

A signature is the settled comparison written without gaps. Two comparisons that are mirror images
of each other share it only if they settle to the same one. -/

/-- An operator that is flipped twice is the operator itself. -/
theorem flipped?_symm (h : flipped? o = some o') : flipped? o' = some o := by
  unfold flipped? at h
  split at h <;> simp only [Option.some.injEq, reduceCtorEq] at h <;> subst h <;> rfl

/-- An operator has a character that the one it is flipped to does not have. -/
theorem exists_count_of_flipped (h : flipped? o = some o') :
    ∃ c, o.toList.count c = 1 ∧ o'.toList.count c = 0 := by
  unfold flipped? at h
  split at h <;> simp only [Option.some.injEq, reduceCtorEq] at h <;> subst h
  · exact ⟨'<', by decide, by decide⟩
  · exact ⟨'>', by decide, by decide⟩
  · exact ⟨'<', by decide, by decide⟩
  · exact ⟨'>', by decide, by decide⟩

/-- Written with nothing between the parts, a comparison is never its mirror image: one of the two
has a character more. -/
theorem append_ne_mirrored (l r : String) (h : flipped? o = some o') :
    l ++ o ++ r ≠ r ++ o' ++ l := by
  intro heq
  obtain ⟨c, hone, hzero⟩ := exists_count_of_flipped h
  have hcount := congrArg (fun s => s.toList.count c) heq
  simp only [String.toList_append, List.count_append, hone, hzero] at hcount
  omega

/-- **A comparison and its mirror image have one signature just where one of them is turned
round.** -/
theorem signature_turned_iff (ho : flipped? o = some o') :
    (simple l o r).signature = (simple r o' l).signature ↔
      literalOnLeft l r = true ∨ literalOnLeft r l = true := by
  rw [signature_simple, signature_simple, String.append_right_inj]
  constructor
  · intro htext
    by_contra hneither
    rw [not_or, Bool.not_eq_true, Bool.not_eq_true] at hneither
    obtain ⟨-, hnot, hnot'⟩ := flipped?_eq_some ho
    rw [Comparison.text, Comparison.text, Comparison.settled_of_neither (.inl hneither.1) hnot,
      Comparison.settled_of_neither (.inl hneither.2) hnot'] at htext
    exact append_ne_mirrored l r ho htext
  · rintro (hl | hr)
    · rw [Comparison.text, Comparison.text, Comparison.settled_turn hl ho]
    · rw [Comparison.text, Comparison.text, Comparison.settled_turn hr (flipped?_symm ho)]

end Condition

/-! ## 3. Literals and their text

Which characters begin the text of a literal follows from how a constant is rendered: an integer by
its digits, which may have a sign in front, and a string without its quotes. -/

/-- A literal: an integer, another number by its digits, or a string. -/
inductive Literal
  | integer (n : Int)
  | real (digits : String)
  | string (s : String)

namespace Literal

open Condition (startsLiteral startsLiteral_iff startsAsLiteral)

/-- The node of a constant with a value of this kind. -/
def constantNode (kind : String) (value : List Tree) : Tree :=
  .node "A_Const" "" [.node kind "" value]

/-- The node is that of the literal. Zero and the empty string may be written as nothing. -/
inductive Written : Literal → Tree → Prop
  | integer (n : Int) : Written (.integer n) (constantNode "ival" [.leaf "ival" (toString n)])
  | zero : Written (.integer 0) (constantNode "ival" [])
  | real (digits : String) :
    Written (.real digits) (constantNode "fval" [.leaf "fval" (Json.quote digits)])
  | string (s : String) : Written (.string s) (constantNode "sval" [.leaf "sval" (Json.quote s)])
  | empty : Written (.string "") (constantNode "sval" [])

/-- The literal in the form of an expression: a string has lost its quotes. -/
def form : Literal → String
  | integer n => toString n
  | real digits => Text.withoutQuotes (Json.quote digits)
  | string s => Text.withoutQuotes (Json.quote s)

/-- The literal is taken for one. -/
def Recognized : Literal → Prop
  | integer n => 0 ≤ n
  | real digits => startsAsLiteral digits = true
  | string s => startsAsLiteral s = true

/-- Literals are constants. -/
theorem Written.key {l : Literal} {t : Tree} (h : l.Written t) : t.key = "A_Const" := by
  cases h <;> rfl

/-- The text of an integer is an optional sign before digits. -/
theorem exists_toList_toString (n : Int) :
    ∃ c digits, (toString n).toList = (if 0 ≤ n then [] else ['-']) ++ c :: digits ∧
      ∀ d ∈ c :: digits, d.isDigit = true := by
  have hdigits (k : Nat) : ∃ c digits, k.repr.toList = c :: digits ∧
      ∀ d ∈ c :: digits, d.isDigit = true := by
    obtain ⟨c, digits, heq⟩ := List.exists_cons_of_ne_nil (Nat.toDigits_ne_nil (n := k) (b := 10))
    refine ⟨c, digits, Nat.toList_repr.trans heq, fun d hd => ?_⟩
    exact Nat.isDigit_of_mem_toDigits (by decide) le_rfl (heq ▸ hd)
  rw [Int.toString_eq_repr, Int.repr_eq_if]
  split
  · exact hdigits n.toNat
  · obtain ⟨c, digits, heq, hall⟩ := hdigits (-n).toNat
    exact ⟨c, digits, by rw [String.toList_append, heq]; rfl, hall⟩

/-- The sign of a negative number hides its digits. -/
theorem startsAsLiteral_toString (n : Int) : startsAsLiteral (toString n) = true ↔ 0 ≤ n := by
  obtain ⟨c, digits, htext, hdigits⟩ := exists_toList_toString n
  unfold startsAsLiteral
  rw [htext]
  -- a negative number starts with its sign, which is no digit
  by_cases hn : 0 ≤ n
  · have hc : startsLiteral c = true :=
      (startsLiteral_iff c).mpr (.inl (hdigits c List.mem_cons_self))
    simp [hn, hc]
  · have hsign : startsLiteral '-' = false := by decide
    simp [hn, hsign]

/-- An integer is never written as nothing, even if it is zero. -/
theorem toString_ne_empty (n : Int) : toString n ≠ "" := by
  obtain ⟨c, digits, htext, -⟩ := exists_toList_toString n
  intro hempty
  rw [hempty] at htext
  simp at htext

/-- There is no double quote in the text of an integer. -/
theorem withoutQuotes_toString (n : Int) : Text.withoutQuotes (toString n) = toString n := by
  obtain ⟨c, digits, htext, hdigits⟩ := exists_toList_toString n
  have hkept : ∀ d ∈ (toString n).toList, decide (d ≠ '"') = true := by
    intro d hd
    rw [htext, List.mem_append] at hd
    rw [decide_eq_true_eq]
    rintro rfl
    rcases hd with hsign | hdigit
    · split at hsign <;> simp at hsign
    · exact absurd (hdigits _ hdigit) (by decide)
  rw [Text.withoutQuotes, List.filter_eq_self.mpr hkept, String.ofList_toList]

/-- A character stays as it is, or an escape is written for it. -/
theorem escapeChar_cases (c : Char) :
    (Json.escapeChar c = [c] ∧ c ≠ '"') ∨ ∃ rest, Json.escapeChar c = '\\' :: rest := by
  unfold Json.escapeChar
  split_ifs <;> simp_all

/-- No escape is written for a character that starts a literal. -/
theorem escapeChar_of_startsLiteral {c : Char} (h : startsLiteral c = true) :
    Json.escapeChar c = [c] := by
  have hne (d : Char) (hd : startsLiteral d = false) : c ≠ d := by
    rintro rfl
    rw [hd] at h
    cases h
  have hplain : ¬ c.toNat < 32 := by
    rcases (startsLiteral_iff c).mp h with hdigit | rfl
    · have hle : 48 ≤ c.toNat := (Char.isDigit_iff_toNat.mp hdigit).1
      omega
    · decide
  simp [Json.escapeChar, hne, startsLiteral, hplain]

/-- The text of a character, without double quotes, starts as a literal just where the character
does. -/
theorem exists_filter_escapeChar (c : Char) :
    ∃ d rest, (Json.escapeChar c).filter (· ≠ '"') = d :: rest ∧
      startsLiteral d = startsLiteral c := by
  rcases escapeChar_cases c with ⟨heq, hne⟩ | ⟨rest, heq⟩
  · exact ⟨c, [], by simp [heq, hne], rfl⟩
  · have hc : startsLiteral c = false := by
      by_contra hstart
      rw [Bool.not_eq_false] at hstart
      rw [escapeChar_of_startsLiteral hstart] at heq
      obtain ⟨rfl, -⟩ := List.cons.inj heq
      exact absurd hstart (by decide)
    exact ⟨'\\', rest.filter (· ≠ '"'), by simp [heq], by rw [hc]; decide⟩

/-- The first character of a string is that of a literal just where its text starts as one. -/
theorem startsAsLiteral_withoutQuotes (s : String) :
    startsAsLiteral (Text.withoutQuotes (Json.quote s)) = startsAsLiteral s := by
  have hinner : (Text.withoutQuotes (Json.quote s)).toList =
      (s.toList.flatMap Json.escapeChar).filter (· ≠ '"') := by
    simp [Text.withoutQuotes, Json.quote]
  unfold startsAsLiteral
  rw [hinner]
  cases s.toList with
  | nil => rfl
  | cons c cs =>
    obtain ⟨d, rest, hfilter, hstart⟩ := exists_filter_escapeChar c
    rw [List.flatMap_cons, List.filter_append, hfilter]
    exact hstart

/-- A constant with a value has the text of the value. -/
theorem constant_constantNode {kind v : String} (hkind : kind ∈ Tree.constantKeys) (hv : v ≠ "") :
    (constantNode kind [.leaf kind v]).constant = Text.withoutQuotes v := by
  have hnull : (constantNode kind [.leaf kind v]).isTrue "isnull" = false := by
    have hne : kind ≠ "isnull" := by
      rintro rfl
      exact absurd hkind (by decide)
    simp [Tree.isTrue, Tree.child?, constantNode, hne]
  have hcontains : Tree.constantKeys.contains kind = true := List.contains_iff_mem.mpr hkind
  rw [Tree.constant, hnull]
  simp [constantNode, Tree.leaf, Tree.lastConstant, Tree.lastConstantOf, Tree.constantAt, hkind, hv]

theorem Written.constant {l : Literal} {t : Tree} (h : l.Written t) : t.constant = l.form := by
  have hquote (s : String) : Json.quote s ≠ "" := fun h => by
    simpa [Json.quote] using congrArg String.toList h
  cases h with
  | integer n =>
    rw [constant_constantNode (by decide) (toString_ne_empty n), withoutQuotes_toString, form]
  | zero => decide +kernel
  | real digits => exact constant_constantNode (by decide) (hquote digits)
  | string s => exact constant_constantNode (by decide) (hquote s)
  | empty => decide +kernel

/-- A literal is recognized just where its text starts as one. -/
theorem startsAsLiteral_form_iff (l : Literal) : startsAsLiteral l.form = true ↔ l.Recognized := by
  cases l with
  | integer n => exact startsAsLiteral_toString n
  | real digits => rw [form, startsAsLiteral_withoutQuotes, Recognized]
  | string s => rw [form, startsAsLiteral_withoutQuotes, Recognized]

end Literal

/-! ## 4. Comparisons in a tree

The statement on texts is carried over to the nodes of a tree, by the two functions that read them.
-/

namespace Tree

open Condition (flipped? literalOnLeft startsAsName)

variable {t u left right lit col : Tree} {l : Literal} {name o o' : String}

/-- The node compares two expressions by an operator. -/
structure Compares (t left : Tree) (operator : String) (right : Tree) : Prop where
  key : t.key = "A_Expr"
  kind : t.valueOf "kind" = "AEXPR_OP"
  operator : t.operatorOf "name" = operator
  left : t.wrapped? "lexpr" = some left
  right : t.wrapped? "rexpr" = some right

/-- The node of a comparison by an operator, which is written between quotes. -/
def comparison (left : Tree) (operator : String) (right : Tree) : Tree :=
  .node "A_Expr" ""
    [.leaf "kind" "\"AEXPR_OP\"", .node "lexpr" "" [left],
      .node "name" "" [.node "String" "" [.leaf "sval" operator]], .node "rexpr" "" [right]]

/-- A comparison written as a node is read as that comparison. -/
theorem compares_comparison (left right : Tree) (operator : String) :
    (comparison left operator right).Compares left (Text.withoutQuotes operator) right :=
  ⟨rfl, rfl, rfl, rfl, rfl⟩

/-- The node refers to a column by its name alone. -/
structure NamesColumn (t : Tree) (name : String) : Prop where
  key : t.key = "ColumnRef"
  parts : t.columnParts = [name]

/-- The condition of a comparison has the texts of both operands. -/
theorem condition?_of_compares (scope : Scope) (h : t.Compares left o right) :
    t.condition? scope = some (.simple (left.render scope) o (right.render scope)) := by
  have hnot : t.valueOf "kind" ≠ "AEXPR_NOT" := by
    rw [h.kind]
    decide
  rw [condition?_of_operator scope h.key hnot, operatorCondition?]
  simp only [h.kind, h.operator, leftForm, rightForm, renderWrapped_eq, h.left, h.right]

/-- A column without a table is written by its name, or by what the scope puts in its place. -/
theorem render_of_namesColumn (scope : Scope) (h : t.NamesColumn name) :
    t.render scope = scope.output name := by
  rw [render_eq_form, h.key, columnName, h.parts]
  rfl

/-- A literal is written by its text, whatever the scope. -/
theorem render_of_written (scope : Scope) (h : l.Written t) : t.render scope = l.form := by
  rw [render_eq_form, h.key]
  exact h.constant

/-- **A comparison of a literal with a column and its mirror image have one signature just where the
literal is recognized.**  In a scope that gives the name of the column another meaning, its
expression takes the place of the name. -/
theorem mirrored_comparison_iff (scope : Scope) (hlit : l.Written lit) (hcol : col.NamesColumn name)
    (hname : startsAsName name = true) (ho : flipped? o = some o') (ht : t.Compares lit o col)
    (hu : u.Compares col o' lit) :
    ∃ c d, t.condition? scope = some c ∧ u.condition? scope = some d ∧
      (c.signature = d.signature ↔ literalOnLeft l.form (scope.output name) = true ∨
        literalOnLeft (scope.output name) l.form = true) ∧
      (scope.output name = name → (c.signature = d.signature ↔ l.Recognized)) := by
  have hc := condition?_of_compares scope ht
  have hd := condition?_of_compares scope hu
  rw [render_of_written scope hlit, render_of_namesColumn scope hcol] at hc hd
  refine ⟨_, _, hc, hd, Condition.signature_turned_iff ho, fun hscope => ?_⟩
  rw [Condition.signature_turned_iff ho, hscope, Condition.literalOnLeft_eq,
    Condition.literalOnLeft_eq, Condition.not_startsAsLiteral_of_name hname, hname,
    ← l.startsAsLiteral_form_iff]
  simp

/-- Zero on the left, which is written as nothing, is recognized. -/
theorem mirrored_comparison_iff_zero :
    let zero := Literal.constantNode "ival" []
    let pages := Statement.column "\"pages\""
    (Literal.integer 0).Written zero ∧ pages.NamesColumn "pages" ∧ startsAsName "pages" = true ∧
      flipped? "<" = some ">" ∧ (comparison zero "\"<\"" pages).Compares zero "<" pages ∧
      (comparison pages "\">\"" zero).Compares pages ">" zero ∧
      ∃ c d, (comparison zero "\"<\"" pages).condition? .empty = some c ∧
        (comparison pages "\">\"" zero).condition? .empty = some d ∧ c.signature = d.signature := by
  intro zero pages
  have hzero : (Literal.integer 0).Written zero := .zero
  have hpages : pages.NamesColumn "pages" := ⟨rfl, by decide +kernel⟩
  have hname : startsAsName "pages" = true := by decide +kernel
  have hflip : flipped? "<" = some ">" := rfl
  have hless : (comparison zero "\"<\"" pages).Compares zero "<" pages :=
    compares_comparison zero pages "\"<\""
  have hmore : (comparison pages "\">\"" zero).Compares pages ">" zero :=
    compares_comparison pages zero "\">\""
  obtain ⟨c, d, hc, hd, -, hiff⟩ :=
    mirrored_comparison_iff .empty hzero hpages hname hflip hless hmore
  have hrecognized : (Literal.integer 0).Recognized := le_rfl
  exact ⟨hzero, hpages, hname, hflip, hless, hmore, c, d, hc, hd, (hiff rfl).mpr hrecognized⟩

/-- A negative number is not recognized, and neither is a string that starts with a letter. -/
theorem mirrored_comparison_ne :
    let negative := Literal.constantNode "ival" [.leaf "ival" (toString (-5 : Int))]
    let string := Literal.constantNode "sval" [.leaf "sval" (Json.quote "M")]
    let salary := Statement.column "\"salary\""
    let name := Statement.column "\"name\""
    (Literal.integer (-5)).Written negative ∧ (Literal.string "M").Written string ∧
      salary.NamesColumn "salary" ∧ name.NamesColumn "name" ∧
      ((comparison negative "\"<\"" salary).condition? .empty).map Condition.signature =
        some "SIMPLE:-5<salary" ∧
      ((comparison salary "\">\"" negative).condition? .empty).map Condition.signature =
        some "SIMPLE:salary>-5" ∧
      ((comparison string "\"<=\"" name).condition? .empty).map Condition.signature =
        some "SIMPLE:M<=name" ∧
      ((comparison name "\">=\"" string).condition? .empty).map Condition.signature =
        some "SIMPLE:name>=M" := by
  intro negative string salary name
  have hnegative : (Literal.integer (-5)).Written negative := .integer (-5)
  have hstring : (Literal.string "M").Written string := .string "M"
  have hsalary : salary.NamesColumn "salary" := ⟨rfl, by decide +kernel⟩
  have hname : name.NamesColumn "name" := ⟨rfl, by decide +kernel⟩
  refine ⟨hnegative, hstring, hsalary, hname, ?_, ?_, ?_, ?_⟩
  · rw [condition?_of_compares .empty (compares_comparison negative salary "\"<\""),
      render_of_written .empty hnegative, render_of_namesColumn .empty hsalary]
    decide +kernel
  · rw [condition?_of_compares .empty (compares_comparison salary negative "\">\""),
      render_of_written .empty hnegative, render_of_namesColumn .empty hsalary]
    decide +kernel
  · rw [condition?_of_compares .empty (compares_comparison string name "\"<=\""),
      render_of_written .empty hstring, render_of_namesColumn .empty hname]
    decide +kernel
  · rw [condition?_of_compares .empty (compares_comparison name string "\">=\""),
      render_of_written .empty hstring, render_of_namesColumn .empty hname]
    decide +kernel

end Tree

end QueryGrading
