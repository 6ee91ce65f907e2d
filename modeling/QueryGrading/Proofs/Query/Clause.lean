import QueryGrading.Proofs.Query.Report
import QueryGrading.Proofs.Query.Signature
import QueryGrading.Query.Select

/-!
# What two queries are compared by

Each clause of a query has a key: what is left of it when all is dropped that its comparison does
not see, such as the order of tables and of select items, the sides of an inner join, and the order
of the parts of a conjunction. A clause that counts as absent has no key. Two clauses agree just
where their keys are equal, and so two queries are equal just where all their keys are
(`Select.compare_equal_iff`). In particular no clause differs from itself, whatever names are
repeated in it, and a query has a clean report on itself (`Select.isClean_compare_self`).

The comparisons are `compare_clause` for filters, `compare` and `compare_join` for sources,
`compare_select`, `compare_group_by` and `compare_order_by`. Each builds a message and takes an
empty one for agreement (`from_message`), so each needs two facts: that its message is empty where
the keys are equal, and that no difference is described by an empty text.
-/

namespace QueryGrading

open Text (concat)
open ClauseVerdict (Agrees)

/-! ## 1. Conditions

`compare_nodes` asks for what is different in a fixed order and tells the first difference. Whether
there is one depends on the outline alone. -/

namespace Condition

/-- What is compared of a condition: the operator and the settled form of a simple one, the
signatures of the parts of a conjunction or disjunction in ascending order. -/
inductive Outline
  | simple (operator : String) (settled : Comparison)
  | and (signatures : List String)
  | or (signatures : List String)
  | not (part : Outline)
  deriving DecidableEq

/-- The outline of a condition. -/
def outline : Condition → Outline
  | simple left operator right => .simple operator (Comparison.settled ⟨left, operator, right⟩)
  | and parts => .and (sortedSignatures parts)
  | or parts => .or (sortedSignatures parts)
  | not part => .not part.outline

/-- The difference of two simple conditions is described by some text. -/
theorem simpleMismatch?_ne_empty (l₁ o₁ r₁ l₂ o₂ r₂ : String) :
    simpleMismatch? l₁ o₁ r₁ l₂ o₂ r₂ ≠ some "" := by
  unfold simpleMismatch?
  split
  · simp [toString]
  · intro h
    obtain ⟨-, htext⟩ := Option.ite_none_left_eq_some.mp h
    simp [toString] at htext

/-- Nor is that of two lists of parts. -/
theorem partsMismatch?_ne_empty (kind : String) (ps qs : List Condition) :
    partsMismatch? kind ps qs ≠ some "" := by
  unfold partsMismatch?
  split
  · simp [toString]
  · intro h
    obtain ⟨-, htext⟩ := Option.ite_none_left_eq_some.mp h
    simp [toString] at htext

/-- A difference is never described by an empty text, which would pass for none. -/
theorem mismatch?_ne_empty (a b : Condition) : mismatch? a b ≠ some "" := by
  fun_induction mismatch? a b with
  | case1 l₁ o₁ r₁ l₂ o₂ r₂ => exact simpleMismatch?_ne_empty l₁ o₁ r₁ l₂ o₂ r₂
  | case2 ps qs => exact partsMismatch?_ne_empty "AND" ps qs
  | case3 ps qs => exact partsMismatch?_ne_empty "OR" ps qs
  | case4 p q ih => exact ih
  | case5 a b => simp [toString]

/-- Two conditions match just where they have one outline. -/
theorem mismatch?_eq_none_iff (a b : Condition) :
    mismatch? a b = none ↔ a.outline = b.outline := by
  fun_induction mismatch? a b with
  | case1 l₁ o₁ r₁ l₂ o₂ r₂ =>
    rw [simpleMismatch?_eq_none_iff, outline, outline, Outline.simple.injEq]
  | case2 ps qs => rw [partsMismatch?_eq_none_iff, outline, outline, Outline.and.injEq]
  | case3 ps qs => rw [partsMismatch?_eq_none_iff, outline, outline, Outline.or.injEq]
  | case4 p q ih => rw [ih, outline, outline, Outline.not.injEq]
  | case5 a b hsimple hand hor hnot =>
    -- the outermost connectives differ
    have hkind : a.outline ≠ b.outline := by
      intro heq
      cases a with
      | simple l o r =>
        cases b with
        | simple l' o' r' => exact hsimple _ _ _ _ _ _ rfl rfl
        | _ => cases heq
      | and ps =>
        cases b with
        | and qs => exact hand _ _ rfl rfl
        | _ => cases heq
      | or ps =>
        cases b with
        | or qs => exact hor _ _ rfl rfl
        | _ => cases heq
      | not p =>
        cases b with
        | not q => exact hnot _ _ rfl rfl
        | _ => cases heq
    simp [hkind]

/-- Two filters agree if both are absent, or both are there with one outline. -/
theorem agrees_compareClause_iff (clause : String) (a b : Option Condition) :
    Agrees (compareClause clause a b) ↔ a.map outline = b.map outline := by
  cases a with
  | none => cases b <;> simp [compareClause, toString]
  | some a =>
    cases b with
    | none => simp [compareClause, toString]
    | some b =>
      rw [Option.map_some, Option.map_some, Option.some_inj, ← mismatch?_eq_none_iff, compareClause]
      cases hm : mismatch? a b with
      | none => simp
      | some message =>
        have hne : message ≠ "" := fun h => mismatch?_ne_empty a b (by rw [hm, h])
        simp [hne]

/-- A filter agrees with itself. -/
@[simp] theorem agrees_compareClause_self (clause : String) (c : Option Condition) :
    Agrees (compareClause clause c c) :=
  (agrees_compareClause_iff clause c c).mpr rfl

end Condition

/-! ## 2. Sources

Each list of `from::compare` adds its own text to one message, so the sources agree where all texts
are empty. -/

namespace TableJoin

/-- What is compared of a join; the sides of an inner join are in ascending order. -/
structure Key where
  kind : String
  sides : List String
  signature : Option String
  columns : List String
  isNatural : Bool
  deriving DecidableEq

/-- The key of a join. -/
def key (j : TableJoin) : Key where
  kind := j.kind
  sides := if j.kind = "JOIN_INNER" then j.sideNames else [j.left.name, j.right.name]
  signature := j.condition.map Condition.signature
  columns := j.columns
  isNatural := j.isNatural

/-- Conditions of joins are compared by their signatures. -/
theorem sameCondition_iff (r s : TableJoin) :
    r.sameCondition s = true ↔
      r.condition.map Condition.signature = s.condition.map Condition.signature := by
  unfold sameCondition
  cases r.condition <;> cases s.condition <;> simp

/-- The sides of a join are compared in order or, of an inner join, in ascending order. -/
theorem sidesMismatch_eq_empty_iff (n : Nat) {r s : TableJoin} (h : r.kind = s.kind) :
    sidesMismatch n r s = "" ↔ r.key.sides = s.key.sides := by
  unfold sidesMismatch key
  rw [← h]
  split <;> simp [toString]

/-- Nothing is said of two joins just where they have one key. -/
theorem mismatch_eq_empty_iff (n : Nat) (r s : TableJoin) :
    mismatch n r s = "" ↔ r.key = s.key := by
  unfold mismatch
  split
  · next hkind =>
    -- joins of two kinds are not compared any further
    have hkey : r.key ≠ s.key := fun h => hkind (congrArg Key.kind h)
    simp [hkey, toString]
  · next hkind =>
    have hkind : r.kind = s.kind := not_not.mp hkind
    have hkey : r.key = s.key ↔ r.key.sides = s.key.sides ∧ r.sameCondition s = true ∧
        r.columns = s.columns ∧ r.isNatural = s.isNatural := by
      rw [sameCondition_iff, key, key, Key.mk.injEq]
      exact and_iff_right hkind
    rw [hkey, String.append_eq_empty_iff, String.append_eq_empty_iff,
      sidesMismatch_eq_empty_iff n hkind, and_assoc]
    simp [toString]

end TableJoin

namespace FromClause

/-- What is compared of sources. -/
structure Key where
  tables : List String
  joins : List TableJoin.Key
  ctes : List String
  deriving DecidableEq

/-- The key of sources; they count as absent if there is no table. -/
def key? (f : FromClause) : Option Key :=
  if f.tables = [] then none
  else
    some
      { tables := sorted (f.tables.map TableRef.name)
        joins := f.joins.map TableJoin.key
        ctes := sorted f.ctes }

/-- Nothing is said of tables just where they have the same names. -/
theorem tablesMismatch_eq_empty_iff (r s : FromClause) :
    tablesMismatch r s = "" ↔
      sorted (r.tables.map TableRef.name) = sorted (s.tables.map TableRef.name) := by
  unfold tablesMismatch
  dsimp only
  split <;> simp [*]

/-- Joins are compared position by position, each by its key. -/
theorem joinsMismatch_eq_empty_iff (r s : FromClause) :
    joinsMismatch r s = "" ↔ r.joins.map TableJoin.key = s.joins.map TableJoin.key := by
  unfold joinsMismatch
  split
  · next hlength =>
    have hne : r.joins.map TableJoin.key ≠ s.joins.map TableJoin.key := fun h =>
      hlength (by simpa using congrArg List.length h)
    simp [hne]
  · next hlength =>
    exact concat_numbered_zip_eq_empty_iff TableJoin.mismatch_eq_empty_iff
      (not_not.mp hlength) 1

/-- Of common table expressions the names are compared. -/
theorem ctesMismatch_eq_empty_iff (r s : FromClause) :
    ctesMismatch r s = "" ↔ sorted r.ctes = sorted s.ctes := by
  unfold ctesMismatch
  dsimp only
  split <;> simp [*]

/-- Where there are tables, sources agree if the names of tables, the joins and the names of common
table expressions do. -/
theorem agrees_compare_iff_of_tables {r s : FromClause} (h : ¬ (r.tables = [] ∧ s.tables = [])) :
    Agrees (r.compare s) ↔
      sorted (r.tables.map TableRef.name) = sorted (s.tables.map TableRef.name) ∧
        r.joins.map TableJoin.key = s.joins.map TableJoin.key ∧
        sorted r.ctes = sorted s.ctes := by
  have hsome : (r.tables.isEmpty && s.tables.isEmpty) = false := by simpa using h
  rw [compare, hsome, if_neg Bool.false_ne_true, ClauseVerdict.agrees_ofMessage_iff,
    String.append_eq_empty_iff, String.append_eq_empty_iff, tablesMismatch_eq_empty_iff,
    joinsMismatch_eq_empty_iff, ctesMismatch_eq_empty_iff, and_assoc]

theorem agrees_compare_iff (r s : FromClause) : Agrees (r.compare s) ↔ r.key? = s.key? := by
  have hnil (f : FromClause) :
      sorted (f.tables.map TableRef.name) = sorted [] ↔ f.tables = [] := by
    simp [sorted_eq_iff]
  -- sources without a table are absent, and differ from all that have one
  by_cases hr : r.tables = [] <;> by_cases hs : s.tables = []
  · simp [compare, key?, hr, hs]
  · rw [agrees_compare_iff_of_tables fun h => hs h.2, hr, List.map_nil, eq_comm, hnil]
    simp [key?, hr, hs]
  · rw [agrees_compare_iff_of_tables fun h => hr h.1, hs, List.map_nil, hnil]
    simp [key?, hr, hs]
  · rw [agrees_compare_iff_of_tables fun h => hr h.1]
    simp [key?, hr, hs]

@[simp] theorem agrees_compare_self (f : FromClause) : Agrees (f.compare f) :=
  (agrees_compare_iff f f).mpr rfl

end FromClause

/-! ## 3. Select list, grouping and ordering

The three comparators share the form: sort the texts of both sides, list what is missing and what is
extra. Agreement is therefore equality of sorted texts. An ordering keeps its order, and is compared
item by item. -/

/-- The texts of the items of each kind. -/
def textsPerKind (items : List Projection) : List (List String) :=
  ItemKind.all.map fun kind => textsOf kind items

/-- The texts agree kind by kind. -/
theorem textsPerKind_eq_iff (xs ys : List Projection) :
    textsPerKind xs = textsPerKind ys ↔ ∀ kind ∈ ItemKind.all, textsOf kind xs = textsOf kind ys :=
  List.map_inj_left

/-- Every item is of some kind, so a list that has no item of any kind is empty. -/
theorem textsPerKind_eq_nil_iff (items : List Projection) :
    textsPerKind items = textsPerKind [] ↔ items = [] := by
  constructor
  · intro h
    by_contra hne
    obtain ⟨item, hitem⟩ := List.exists_mem_of_ne_nil items hne
    have hkind : item.kind ∈ ItemKind.all := by cases item.kind <;> decide
    have htexts := (textsPerKind_eq_iff items []).mp h item.kind hkind
    rw [textsOf, textsOf, sorted_eq_iff, List.filter_nil, List.map_nil, List.perm_nil,
      List.map_eq_nil_iff, List.filter_eq_nil_iff] at htexts
    exact htexts item hitem (decide_eq_true rfl)
  · rintro rfl
    rfl

/-- The order of the items does not matter. -/
theorem textsPerKind_perm {xs ys : List Projection} (h : xs.Perm ys) :
    textsPerKind xs = textsPerKind ys :=
  (textsPerKind_eq_iff xs ys).mpr fun _ _ =>
    (sorted_eq_iff _ _).mpr ((h.filter _).map Projection.text)

namespace SelectList

/-- The key of a select list: whether it drops duplicates, and the texts of each kind. A list
without items counts as absent. -/
def key? (l : SelectList) : Option (Bool × List (List String)) :=
  if l.items = [] then none else some (l.distinct, textsPerKind l.items)

/-- Nothing is said of duplicates where both lists drop them or neither does. -/
theorem distinctMismatch?_eq_none_iff (r s : SelectList) :
    distinctMismatch? r s = none ↔ r.distinct = s.distinct := by
  unfold distinctMismatch?
  cases r.distinct <;> cases s.distinct <;> simp

/-- Nothing is said of items of a kind where they have the same texts. -/
theorem itemsMismatch?_eq_none_iff (kind : ItemKind) (r s : SelectList) :
    itemsMismatch? kind r s = none ↔ textsOf kind r.items = textsOf kind s.items := by
  unfold itemsMismatch?
  dsimp only
  split
  · simp [*]
  · cases kind <;> simp [*]

/-- What is said of duplicates is not empty. -/
theorem ne_empty_of_distinctMismatch? {r s : SelectList} {d : String × String}
    (h : distinctMismatch? r s = some d) : d.1 ≠ "" := by
  unfold distinctMismatch? at h
  split at h <;> cases h <;> simp

/-- Nor is what is said of items. -/
theorem ne_empty_of_itemsMismatch? {kind : ItemKind} {r s : SelectList} {d : String × List String}
    (h : itemsMismatch? kind r s = some d) : d.1 ≠ "" := by
  unfold itemsMismatch? at h
  obtain ⟨-, h⟩ := Option.ite_none_left_eq_some.mp h
  dsimp only at h
  cases kind <;> cases h <;> simp [toString]

theorem distinct_agree_iff (r s : SelectList) :
    concat ((distinctMismatch? r s).toList.map (·.1)) = "" ↔ r.distinct = s.distinct := by
  rw [concat_map_eq_empty_iff, ← distinctMismatch?_eq_none_iff]
  cases hd : distinctMismatch? r s with
  | none => simp
  | some d => simp [ne_empty_of_distinctMismatch? hd]

/-- No message is empty, so their text is empty only if there are none. -/
theorem items_agree_iff (r s : SelectList) :
    concat ((ItemKind.all.filterMap fun kind => itemsMismatch? kind r s).map (·.1)) = "" ↔
      textsPerKind r.items = textsPerKind s.items := by
  rw [concat_map_eq_empty_iff, textsPerKind_eq_iff]
  constructor
  · intro hempty kind hkind
    rw [← itemsMismatch?_eq_none_iff]
    cases hd : itemsMismatch? kind r s with
    | none => rfl
    | some d =>
      have hmem : d ∈ ItemKind.all.filterMap fun kind => itemsMismatch? kind r s :=
        List.mem_filterMap.mpr ⟨kind, hkind, hd⟩
      exact absurd (hempty d hmem) (ne_empty_of_itemsMismatch? hd)
  · intro htexts d hd
    obtain ⟨kind, hkind, hsome⟩ := List.mem_filterMap.mp hd
    rw [(itemsMismatch?_eq_none_iff kind r s).mpr (htexts kind hkind)] at hsome
    cases hsome

/-- Lists of which one has items agree in all that they have a key for. -/
theorem agrees_compare_iff_of_items {r s : SelectList} (h : ¬ (r.items = [] ∧ s.items = [])) :
    Agrees (r.compare s) ↔
      r.distinct = s.distinct ∧ textsPerKind r.items = textsPerKind s.items := by
  have hsome : (r.items.isEmpty && s.items.isEmpty) = false := by simpa using h
  rw [compare, hsome, if_neg Bool.false_ne_true]
  dsimp only
  rw [ClauseVerdict.agrees_ofMessage_iff, String.append_eq_empty_iff, distinct_agree_iff,
    items_agree_iff]

theorem agrees_compare_iff (r s : SelectList) : Agrees (r.compare s) ↔ r.key? = s.key? := by
  -- as for sources, an empty list is absent
  by_cases hr : r.items = [] <;> by_cases hs : s.items = []
  · simp [compare, key?, hr, hs]
  · rw [agrees_compare_iff_of_items fun h => hs h.2, hr, eq_comm (b := textsPerKind s.items),
      textsPerKind_eq_nil_iff]
    simp [key?, hr, hs]
  · rw [agrees_compare_iff_of_items fun h => hr h.1, hs, textsPerKind_eq_nil_iff]
    simp [key?, hr, hs]
  · rw [agrees_compare_iff_of_items fun h => hr h.1]
    simp [key?, hr, hs]

@[simp] theorem agrees_compare_self (l : SelectList) : Agrees (l.compare l) :=
  (agrees_compare_iff l l).mpr rfl

end SelectList

namespace GroupBy

/-- The constructs that a grouping may use. -/
def constructs : List GroupingKind := [.sets, .rollup, .cube]

/-- The key of a grouping: which constructs it uses, and the texts of each kind. -/
def key? (g : GroupBy) : Option (List Bool × List (List String)) :=
  if g.isEmpty = true then none
  else some (constructs.map fun kind => g.grouping.contains kind, textsPerKind g.items)

/-- Each construct is used on both sides or on neither. -/
theorem constructMismatch_eq_empty_iff (kind : GroupingKind) (r s : GroupBy) :
    constructMismatch kind r s = "" ↔ r.grouping.contains kind = s.grouping.contains kind := by
  unfold constructMismatch
  cases kind <;> simp [GroupingKind.mismatchLine]

/-- The items of a grouping are compared like those of a select list. -/
theorem itemsMismatch_eq_empty_iff (kind : ItemKind) (r s : GroupBy) :
    itemsMismatch kind r s = "" ↔ textsOf kind r.items = textsOf kind s.items := by
  simp [itemsMismatch]

theorem agrees_compare_iff (r s : GroupBy) : Agrees (r.compare s) ↔ r.key? = s.key? := by
  unfold compare key?
  cases r.isEmpty <;> cases s.isEmpty
  · dsimp only
    rw [ClauseVerdict.agrees_ofMessage_iff, String.append_eq_empty_iff, concat_map_eq_empty_iff,
      concat_map_eq_empty_iff]
    simp only [constructMismatch_eq_empty_iff, itemsMismatch_eq_empty_iff, Bool.false_eq_true,
      if_false, Option.some_inj, Prod.mk.injEq, textsPerKind_eq_iff, List.map_inj_left, constructs]
  all_goals simp

@[simp] theorem agrees_compare_self (g : GroupBy) : Agrees (g.compare g) :=
  (agrees_compare_iff g g).mpr rfl

end GroupBy

/-- Everything in an item of an ordering is compared. -/
theorem OrderItem.mismatch_eq_empty_iff (n : Nat) (r s : OrderItem) :
    mismatch n r s = "" ↔ r = s := by
  cases r
  cases s
  simp [mismatch, toString, and_assoc]

namespace OrderBy

theorem items_agree_iff {r s : OrderBy} (h : r.length = s.length) :
    concat ((numbered 1 (r.zip s)).map fun (n, a, b) => OrderItem.mismatch n a b) = "" ↔ r = s := by
  have hitem : ∀ n a b, OrderItem.mismatch n a b = "" ↔ id a = id b :=
    OrderItem.mismatch_eq_empty_iff
  rw [concat_numbered_zip_eq_empty_iff hitem h 1, List.map_id, List.map_id]

/-- Nothing is dropped from an ordering. -/
theorem agrees_compare_iff (r s : OrderBy) : Agrees (OrderBy.compare r s) ↔ r = s := by
  unfold OrderBy.compare
  split
  · next hempty =>
    rw [Bool.and_eq_true, List.isEmpty_iff, List.isEmpty_iff] at hempty
    simp [hempty.1, hempty.2]
  · rw [ClauseVerdict.agrees_ofMessage_iff, String.append_eq_empty_iff, String.append_eq_empty_iff]
    constructor
    · rintro ⟨⟨hlength, hitems⟩, -⟩
      exact (items_agree_iff (by simpa using hlength)).mp hitems
    · rintro rfl
      simp [(items_agree_iff rfl).mpr]

@[simp] theorem agrees_compare_self (items : OrderBy) : Agrees (OrderBy.compare items items) :=
  (agrees_compare_iff items items).mpr rfl

end OrderBy

/-! ## 4. Queries

The clauses are compared one by one, with no clause looking at another, so the key of a query is
made of the keys of its clauses. -/

namespace Select

/-- The keys of the clauses of a query. -/
structure Key where
  list : Option (Bool × List (List String))
  sources : Option FromClause.Key
  filter : Option Condition.Outline
  groupBy : Option (List Bool × List (List String))
  having : Option Condition.Outline
  orderBy : OrderBy
  deriving DecidableEq

/-- The key of a query. -/
def key (q : Select) : Key where
  list := q.list.key?
  sources := q.sources.key?
  filter := q.filter.map Condition.outline
  groupBy := q.groupBy.key?
  having := q.having.map Condition.outline
  orderBy := q.orderBy

/-- A query gets a clean report just where no clause differs. -/
theorem isClean_compare_iff (r s : Select) :
    (r.compare s).IsClean ↔ ∀ e ∈ clauseEntries r s, e.verdict.Agrees := by
  simp [Report.IsClean, compare, Agrees]

/-- The report on a query names the clauses that differ. -/
theorem mem_incorrect_compare_iff (r s : Select) (name : String) :
    name ∈ (r.compare s).incorrect ↔
      ∃ e ∈ clauseEntries r s, ¬ e.verdict.Agrees ∧ e.name = name := by
  simp [compare, Agrees, and_assoc]

/-- **Two queries are equal just where they have one key.** -/
theorem compare_equal_iff (r s : Select) : (r.compare s).equal = true ↔ r.key = s.key := by
  have hentries : (r.compare s).equal = true ↔ ∀ e ∈ clauseEntries r s, e.verdict.Agrees := by
    simp [compare, Agrees]
  rw [hentries, key, key, Key.mk.injEq, ← SelectList.agrees_compare_iff,
    ← FromClause.agrees_compare_iff, ← Condition.agrees_compareClause_iff "WHERE",
    ← GroupBy.agrees_compare_iff, ← Condition.agrees_compareClause_iff "HAVING",
    ← OrderBy.agrees_compare_iff]
  simp [clauseEntries]

@[simp] theorem isClean_compare_self (q : Select) : (q.compare q).IsClean := by
  rw [isClean_compare_iff]
  simp [clauseEntries]

end Select

end QueryGrading
