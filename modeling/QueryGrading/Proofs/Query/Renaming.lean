import QueryGrading.Proofs.Collection
import QueryGrading.Proofs.Query.Presence

/-!
# Trees with other names for their tables

A query names its tables by aliases, which the qualifiers of its columns refer to. `Tree.Renamed`
relates two trees that differ in these names only: it follows them node by node, down to sources,
columns, constants and nested queries. Whatever is not a name is read from both alike (`Parallel`),
by the same accessors that the extraction uses: `child`, `value_of`, `string_values_of`,
`operator_name`.

The readers of expressions are `column_name`, `function_call`, `render_wrapped` and `render`, with
`resolve_table` for the qualifiers and `resolve_select_alias` for the output aliases, and those of
conditions are `extract_condition` and `extract_operator_expression`. An expression is rendered
alike in two scopes that give the old and the new qualifiers one table (`Renamed.render_eq`), and so
it states one condition (`Renamed.condition?_eq`). Both proofs are by recursion on the tree, and
each case takes one equation of the reader and one lemma on what is read.

`Scope.Alike` asks for agreement on the qualifiers that occur, and not on all names, because a new
name may be the name of a table that the query does not mention. Nested queries, whose names are
their own, are not followed: `render` writes the same word for each of them.
-/

namespace QueryGrading

/-- Two scopes give one table to each of these names, the second scope after renaming, and one
expression to each output alias. -/
structure Scope.Alike (f : String → String) (names : List String) (σ σ' : Scope) : Prop where
  table : ∀ q ∈ names, σ'.table (f q) = σ.table q
  outputs : σ'.outputs = σ.outputs

namespace Scope.Alike

variable {f : String → String} {names names' : List String} {σ σ' : Scope}

/-- Agreement on more names is agreement on fewer. -/
theorem mono (h : Alike f names σ σ') (hsub : names' ⊆ names) : Alike f names' σ σ' :=
  ⟨fun q hq => h.table q (hsub hq), h.outputs⟩

/-- Without the output aliases the scopes still agree. -/
theorem tablesOnly (h : Alike f names σ σ') : Alike f names σ.tablesOnly σ'.tablesOnly :=
  ⟨h.table, rfl⟩

/-- An output alias stands for the same expression on both sides. -/
theorem output (h : Alike f names σ σ') (name : String) : σ'.output name = σ.output name := by
  rw [Scope.output, Scope.output, h.outputs]

end Scope.Alike

namespace Tree

/-! ## 1. Trees that differ in names only

The relation follows how a tree is read: some nodes are read child by child, some as a whole, and
some not at all. Only the first have to agree below, and a node that is read as a whole has to agree
in what is read of it. -/

/-- The keys of sources that stand for a table. -/
def sourceKeys : List String := ["RangeVar", "RangeSubselect", "RangeFunction"]

/-- The keys of parts that have names of their own: nested queries, and aliases, which count as
part of a source only. -/
def privateKeys : List String := ["subselect", "ctequery", "alias"]

/-- The keys of nodes that are not read child by child. -/
def sealedKeys : List String := ["A_Const", "ColumnRef"] ++ privateKeys ++ sourceKeys

/-- The parts of the name of a column with another qualifier, if it is qualified. -/
def mapQualifier (f : String → String) (parts : List String) : List String :=
  match parts.reverse with
  | column :: qualifier :: rest => (column :: f qualifier :: rest).reverse
  | _ => parts

/-- What is read of a constant, a column or a source is the same up to a renaming. -/
structure Restated (f : String → String) (t t' : Tree) : Prop where
  key : t'.key = t.key
  constant : t.key = "A_Const" → t'.constant = t.constant
  column : t.key = "ColumnRef" → t'.columnParts = mapQualifier f t.columnParts
  source : t.key ∈ sourceKeys →
    t'.nameOf "relname" = t.nameOf "relname" ∧ t'.sourceAlias = f t.sourceAlias

/-- The second tree is the first one with the aliases of its sources and the qualifiers of its
columns renamed; parts that have names of their own may be any. (The items of a list are related
under every key, for that is how the bounds of `BETWEEN` are read.) -/
inductive Renamed (f : String → String) : Tree → Tree → Prop
  | whole {t t' : Tree} (hkey : t.key ∈ sealedKeys) (hread : Restated f t t')
    (hitems : List.Forall₂ (Renamed f) (t.under "items") (t'.under "items")) : Renamed f t t'
  | parts {key value : String} {children children' : List Tree} (hkey : key ∉ sealedKeys)
    (hchildren : List.Forall₂ (Renamed f) children children') :
    Renamed f (node key value children) (node key value children')

/-- The qualifier of a column. -/
def qualifier? (t : Tree) : Option String :=
  if t.key = "ColumnRef" then t.columnParts.reverse[1]? else none

mutual
/-- The qualifiers of the columns in a tree, parts that have names of their own left out. -/
def qualifiers : Tree → List String
  | node key value children =>
    (node key value children).qualifier?.toList ++
      qualifiersIn ((privateKeys ++ sourceKeys).contains key) children

/-- The qualifiers in several trees; of trees that are hidden only those in a list of items. -/
def qualifiersIn (hidden : Bool) : List Tree → List String
  | [] => []
  | t :: rest =>
    (if hidden && t.key != "items" then [] else t.qualifiers) ++ qualifiersIn hidden rest
end

variable {f : String → String} {t t' : Tree} {k : String}

/-- What a tree refers to, the list of trees refers to. -/
theorem qualifiers_subset_qualifiersIn {hidden : Bool} {c : Tree}
    (hkey : hidden = true → c.key = "items") :
    ∀ {children : List Tree}, c ∈ children → c.qualifiers ⊆ qualifiersIn hidden children
  | d :: rest, hc => by
    rw [qualifiersIn]
    obtain rfl | hc := List.mem_cons.mp hc
    · have hseen : ¬ (hidden && c.key != "items") = true := by simpa using hkey
      rw [if_neg hseen]
      exact List.subset_append_left _ _
    · exact List.subset_append_of_subset_right _ (qualifiers_subset_qualifiersIn hkey hc)

/-- What is read below a node is found among its qualifiers. -/
theorem qualifiers_child_subset {c : Tree} (hc : c ∈ t.children)
    (hkey : t.key ∈ privateKeys ++ sourceKeys → c.key = "items") :
    c.qualifiers ⊆ t.qualifiers := by
  cases t with
  | node key value children =>
    rw [qualifiers]
    refine List.subset_append_of_subset_right _ (qualifiers_subset_qualifiersIn ?_ hc)
    simpa using hkey

/-- A key that is not sealed is neither private nor that of a source. -/
theorem not_mem_of_not_sealed (hk : k ∉ sealedKeys) : k ∉ privateKeys ++ sourceKeys := by
  unfold sealedKeys at hk
  simp only [List.append_assoc, List.mem_append, not_or] at hk ⊢
  exact hk.2

/-- What is referred to below a key is referred to in the tree. -/
theorem qualifiers_under_subset {c : Tree} (hk : k ∉ sealedKeys) (hc : c ∈ t.under k)
    (hkey : t.key ∈ privateKeys ++ sourceKeys → k = "items") :
    c.qualifiers ⊆ t.qualifiers := by
  unfold under at hc
  cases hd : t.child? k with
  | none => simp [hd] at hc
  | some d =>
    have hdkey : d.key = k := by simpa using List.find?_some hd
    rw [hd] at hc
    refine List.Subset.trans (qualifiers_child_subset hc fun hmem => ?_)
      (qualifiers_child_subset (List.mem_of_find?_eq_some hd) fun hmem => ?_)
    · rw [hdkey] at hmem
      exact absurd hmem (not_mem_of_not_sealed hk)
    · rw [hdkey]
      exact hkey hmem

/-! ## 2. Reading them side by side

For each function that goes down a tree there is a lemma that it finds nothing on either side, or
two nodes that are related again. -/

/-- Two nodes that are read child by child. -/
structure Parallel (f : String → String) (t t' : Tree) : Prop where
  notSealed : t.key ∉ sealedKeys
  key : t'.key = t.key
  value : t'.value = t.value
  children : List.Forall₂ (Renamed f) t.children t'.children

namespace Renamed

/-- Both nodes have one key. -/
theorem key_eq (h : Renamed f t t') : t'.key = t.key := by
  cases h with
  | whole hkey hread hitems => exact hread.key
  | parts hkey hchildren => rfl

/-- Other nodes are read child by child. -/
theorem parallel (h : Renamed f t t') (hkey : t.key ∉ sealedKeys) : Parallel f t t' := by
  cases h with
  | whole hsealed hread hitems => exact absurd hsealed hkey
  | parts hkey hchildren => exact ⟨hkey, rfl, rfl, hchildren⟩

/-- Of a node that is read as a whole the same is read. -/
theorem restated (h : Renamed f t t') (hkey : t.key ∈ sealedKeys) : Restated f t t' := by
  cases h with
  | whole hsealed hread hitems => exact hread
  | parts hkey' hchildren => exact absurd hkey hkey'

end Renamed

namespace Parallel

theorem qualifiers_child (h : Parallel f t t') {c : Tree} (hc : c ∈ t.children) :
    c.qualifiers ⊆ t.qualifiers :=
  qualifiers_child_subset hc fun hmem => absurd hmem (not_mem_of_not_sealed h.notSealed)

theorem qualifiers_subset (h : Parallel f t t') (hk : k ∉ sealedKeys) {c : Tree}
    (hc : c ∈ t.under k) : c.qualifiers ⊆ t.qualifiers :=
  qualifiers_under_subset hk hc fun hmem => absurd hmem (not_mem_of_not_sealed h.notSealed)

/-- A search by key finds nothing in both lists, or two trees that are related. -/
theorem find?_cases (hk : k ∉ sealedKeys) {cs cs' : List Tree}
    (h : List.Forall₂ (Renamed f) cs cs') :
    cs.find? (·.key == k) = none ∧ cs'.find? (·.key == k) = none ∨
      ∃ c c', cs.find? (·.key == k) = some c ∧ cs'.find? (·.key == k) = some c' ∧
        Parallel f c c' := by
  induction h with
  | nil => exact .inl ⟨rfl, rfl⟩
  | @cons c c' rest rest' hc hrest ih =>
    rw [List.find?_cons, List.find?_cons, hc.key_eq]
    cases hck : c.key == k with
    | true =>
      have hkey : c.key = k := by simpa using hck
      exact .inr ⟨c, c', rfl, rfl, hc.parallel (by rwa [hkey])⟩
    | false => exact ih

/-- A step down leads to nothing in both trees or to two nodes that are read child by child. -/
theorem child?_cases (h : Parallel f t t') (hk : k ∉ sealedKeys) :
    t.child? k = none ∧ t'.child? k = none ∨
      ∃ c c', t.child? k = some c ∧ t'.child? k = some c' ∧ Parallel f c c' :=
  find?_cases hk h.children

/-- A path is followed step by step. -/
theorem path?_cons_cons (t : Tree) (k l : String) (rest : List String) :
    t.path? (k :: l :: rest) = (t.child? k).bind (·.path? (l :: rest)) := by
  simp only [path?]
  cases t.child? k <;> rfl

/-- A path leads to nothing in both trees or to two nodes that are read child by child. -/
theorem path?_cases {path : List String} (hpath : ∀ k ∈ path, k ∉ sealedKeys) :
    ∀ {t t' : Tree}, Parallel f t t' →
      t.path? path = none ∧ t'.path? path = none ∨
        ∃ c c', t.path? path = some c ∧ t'.path? path = some c' ∧ Parallel f c c' := by
  induction path with
  | nil => exact fun _ => .inl ⟨rfl, rfl⟩
  | cons k rest ih =>
    intro t t' h
    have hstep := h.child?_cases (hpath k List.mem_cons_self)
    cases rest with
    | nil => exact hstep
    | cons l rest =>
      rw [path?_cons_cons, path?_cons_cons]
      obtain ⟨hc, hc'⟩ | ⟨c, c', hc, hc', hcc'⟩ := hstep
      · rw [hc, hc']
        exact .inl ⟨rfl, rfl⟩
      · rw [hc, hc']
        exact ih (fun k hk => hpath k (List.mem_cons_of_mem _ hk)) hcc'

/-- What stands below a key is related. -/
theorem under (h : Parallel f t t') (hk : k ∉ sealedKeys) :
    List.Forall₂ (Renamed f) (t.under k) (t'.under k) := by
  unfold Tree.under
  obtain ⟨hc, hc'⟩ | ⟨c, c', hc, hc', hcc'⟩ := h.child?_cases hk
  · rw [hc, hc']
    exact .nil
  · rw [hc, hc']
    exact hcc'.children

/-- So is the node that is wrapped in another one. -/
theorem wrapped?_cases (h : Parallel f t t') (hk : k ∉ sealedKeys) :
    t.wrapped? k = none ∧ t'.wrapped? k = none ∨
      ∃ e e', t.wrapped? k = some e ∧ t'.wrapped? k = some e' ∧ Renamed f e e' ∧
        e.qualifiers ⊆ t.qualifiers := by
  have hunder := h.under hk
  have hsub (e : Tree) : e ∈ t.under k → e.qualifiers ⊆ t.qualifiers := h.qualifiers_subset hk
  unfold wrapped?
  generalize t.under k = es, t'.under k = es' at hunder hsub
  cases hunder with
  | nil => exact .inl ⟨rfl, rfl⟩
  | @cons e e' rest rest' he hrest =>
    exact .inr ⟨e, e', rfl, rfl, he, hsub e List.mem_cons_self⟩

/-- A value that is read is the same. -/
theorem valueOf (h : Parallel f t t') (hk : k ∉ sealedKeys) : t'.valueOf k = t.valueOf k := by
  unfold Tree.valueOf
  obtain ⟨hc, hc'⟩ | ⟨c, c', hc, hc', hcc'⟩ := h.child?_cases hk
  · rw [hc, hc']
  · rw [hc, hc']
    simp only [hcc'.value]

theorem nameOf (h : Parallel f t t') (hk : k ∉ sealedKeys) : t'.nameOf k = t.nameOf k := by
  rw [Tree.nameOf, Tree.nameOf, h.valueOf hk]

theorem isTrue (h : Parallel f t t') (hk : k ∉ sealedKeys) : t'.isTrue k = t.isTrue k := by
  unfold Tree.isTrue
  obtain ⟨hc, hc'⟩ | ⟨c, c', hc, hc', hcc'⟩ := h.child?_cases hk
  · rw [hc, hc']
  · rw [hc, hc', Option.any_some, Option.any_some, hcc'.value]

theorem strings (h : Parallel f t t') : t'.strings = t.strings := by
  unfold Tree.strings
  refine filterMap_eq_of_forall₂ h.children fun c _ c' hc => ?_
  rw [hc.key_eq]
  by_cases hkey : c.key = "String"
  · rw [if_pos hkey, if_pos hkey]
    have hcc' : Parallel f c c' := hc.parallel (by rw [hkey]; decide)
    obtain ⟨hs, hs'⟩ | ⟨s, s', hs, hs', hss'⟩ :=
      hcc'.child?_cases (k := "sval") (by decide)
    · rw [hs, hs']
    · rw [hs, hs', Option.map_some, Option.map_some, hss'.value]
  · rw [if_neg hkey, if_neg hkey]

/-- So are the strings below a node. -/
theorem stringsOf (h : Parallel f t t') (hk : k ∉ sealedKeys) :
    t'.stringsOf k = t.stringsOf k := by
  unfold Tree.stringsOf
  obtain ⟨hc, hc'⟩ | ⟨c, c', hc, hc', hcc'⟩ := h.child?_cases hk
  · rw [hc, hc']
  · rw [hc, hc']
    exact hcc'.strings

/-- And the name of an operator. -/
theorem operatorOf (h : Parallel f t t') (hk : k ∉ sealedKeys) :
    t'.operatorOf k = t.operatorOf k := by
  rw [Tree.operatorOf, Tree.operatorOf, h.stringsOf hk]

theorem lastStringAt (h : Parallel f t t') {path : List String}
    (hpath : ∀ k ∈ path, k ∉ sealedKeys) : t'.lastStringAt path = t.lastStringAt path := by
  unfold Tree.lastStringAt
  obtain ⟨hc, hc'⟩ | ⟨c, c', hc, hc', hcc'⟩ := path?_cases hpath h
  · rw [hc, hc']
  · rw [hc, hc']
    simp only [hcc'.strings]

/-- Two calls with the same arguments are written alike. -/
theorem callForm (h : Parallel f t t') (arguments : List String) :
    t'.callForm arguments = t.callForm arguments := by
  unfold Tree.callForm
  rw [h.stringsOf (by decide), h.isTrue (by decide), h.isTrue (by decide)]

theorem listed (h : Parallel f t t') : List.Forall₂ (Renamed f) t.listed t'.listed := by
  unfold Tree.listed
  obtain ⟨hc, hc'⟩ | ⟨c, c', hc, hc', hcc'⟩ := h.child?_cases (k := "items") (by decide)
  · rw [hc, hc']
    exact h.under (by decide)
  · rw [hc, hc']
    exact hcc'.children

end Parallel

/-! ## 3. Expressions

An expression is rendered from its operands, by induction over the first of the two trees. A column
is the only node for which the scopes matter. -/

theorem renderWrapped_eq (scope : Scope) (t : Tree) (k : String) :
    t.renderWrapped scope k =
      match t.wrapped? k with
      | some e => e.render scope
      | none => missingOperand := by
  unfold renderWrapped renderHeld wrapped? under
  cases t.child? k <;> rfl

/-- The form of an expression by those of its operands. -/
theorem render_eq_form (scope : Scope) (t : Tree) :
    t.render scope =
      match t.key with
      | "ColumnRef" => scope.output (t.columnName scope)
      | "FuncCall" => t.callForm (t.renderUnder scope.tablesOnly "args")
      | "A_Const" => t.constant
      | "A_Expr" =>
        "(" ++ t.renderWrapped scope "lexpr" ++ " " ++ t.operatorOf "name" ++ " " ++
          t.renderWrapped scope "rexpr" ++ ")"
      | "TypeCast" =>
        t.renderWrapped scope "arg" ++ "::" ++ t.lastStringAt ["typeName", "names"]
      | "SubLink" => subquery
      | "CollateClause" =>
        t.renderWrapped scope "arg" ++ " COLLATE \"" ++
          Text.join "." (t.stringsOf "collname") ++ "\""
      | "BoolExpr" =>
        "(" ++ Text.join (if t.valueOf "boolop" = "AND_EXPR" then " and " else " or ")
          (t.renderUnder scope "args") ++ ")"
      | "List" => "(" ++ Text.commas (t.renderUnder scope "items") ++ ")"
      | "SetToDefault" => "DEFAULT"
      | _ => unknownExpression := by
  have hunder (scope' : Scope) (k : String) :
      ((t.under k).attach.map fun ⟨e, _⟩ => render scope' e) = t.renderUnder scope' k := by
    simp [renderUnder]
  rw [render]
  simp only [hunder, renderWrapped_eq]
  split
  case h_4 => split <;> split <;> simp [*]
  case h_5 | h_7 => split <;> simp [*]
  all_goals simp only [*]

variable {σ σ' : Scope}

/-- The form of a column depends on its table and not on the alias of it. -/
theorem columnName_eq (hσ : σ.Alike f t.qualifiers σ') (hkey : t.key = "ColumnRef")
    (hparts : t'.columnParts = mapQualifier f t.columnParts) :
    t'.columnName σ' = t.columnName σ := by
  unfold columnName
  rw [hparts, mapQualifier]
  match hrev : t.columnParts.reverse with
  | [] =>
    rw [List.reverse_eq_nil_iff] at hrev
    simp [hrev]
  | [column] =>
    dsimp only
    rw [hrev]
  | column :: qualifier :: rest =>
    have hown : qualifier ∈ t.qualifier?.toList := by simp [qualifier?, hkey, hrev]
    have hmem : qualifier ∈ t.qualifiers := by
      cases t with
      | node key value children => exact List.mem_append_left _ hown
    simp [hσ.table qualifier hmem]

/-- A constant, a column or a source is rendered alike, and so is a part with names of its own. -/
theorem Restated.render_eq (h : Restated f t t') (hsealed : t.key ∈ sealedKeys)
    (hσ : σ.Alike f t.qualifiers σ') : t'.render σ' = t.render σ := by
  rw [render_eq_form, render_eq_form, h.key]
  split
  case h_1 hkey => rw [columnName_eq hσ hkey (h.column hkey), hσ.output]
  case h_3 hkey => exact h.constant hkey
  case h_6 | h_10 | h_11 => rfl
  all_goals
    next hkey =>
    rw [hkey] at hsealed
    exact absurd hsealed (by decide)

namespace Parallel

/-- The operand under a key, if it is rendered alike wherever it is. -/
theorem renderWrapped_eq_of (h : Parallel f t t') (hk : k ∉ sealedKeys)
    (hread : ∀ e, t.wrapped? k = some e → ∀ e', Renamed f e e' →
      e.qualifiers ⊆ t.qualifiers → e'.render σ' = e.render σ) :
    t'.renderWrapped σ' k = t.renderWrapped σ k := by
  rw [renderWrapped_eq, renderWrapped_eq]
  obtain ⟨he, he'⟩ | ⟨e, e', he, he', hee', hsub⟩ := h.wrapped?_cases hk
  · rw [he, he']
  · rw [he, he']
    exact hread e he e' hee' hsub

end Parallel

/-- **An expression is rendered alike after renaming**, in scopes that give the qualifiers one
table. -/
theorem Renamed.render_eq {t t' : Tree} {σ σ' : Scope} (h : Renamed f t t')
    (hσ : σ.Alike f t.qualifiers σ') : t'.render σ' = t.render σ := by
  by_cases hsealed : t.key ∈ sealedKeys
  · exact (h.restated hsealed).render_eq hsealed hσ
  -- all other nodes are read child by child, so each reader sees the same or two related trees
  have hp : Parallel f t t' := h.parallel hsealed
  have hwrapped (k : String) (hk : k ∉ sealedKeys) :
      t'.renderWrapped σ' k = t.renderWrapped σ k :=
    hp.renderWrapped_eq_of hk fun e he e' hee' hsub => hee'.render_eq (hσ.mono hsub)
  have hunder (k : String) (hk : k ∉ sealedKeys) :
      t'.renderUnder σ' k = t.renderUnder σ k :=
    map_eq_of_forall₂ (hp.under hk) fun e he e' hee' =>
      hee'.render_eq (hσ.mono (hp.qualifiers_subset hk he))
  -- the arguments of a function do not see the select list
  have harguments : t'.renderUnder σ'.tablesOnly "args" = t.renderUnder σ.tablesOnly "args" :=
    map_eq_of_forall₂ (hp.under (by decide)) fun e he e' hee' =>
      hee'.render_eq (hσ.tablesOnly.mono (hp.qualifiers_subset (by decide) he))
  rw [render_eq_form, render_eq_form, hp.key]
  split
  case h_1 hkey | h_3 hkey => exact absurd (by rw [hkey]; decide) hsealed
  case h_2 => rw [harguments, hp.callForm]
  case h_4 =>
    rw [hwrapped "lexpr" (by decide), hwrapped "rexpr" (by decide), hp.operatorOf (by decide)]
  case h_5 => rw [hwrapped "arg" (by decide), hp.lastStringAt (by decide)]
  case h_7 => rw [hwrapped "arg" (by decide), hp.stringsOf (by decide)]
  case h_8 => rw [hunder "args" (by decide), hp.valueOf (by decide)]
  case h_9 => rw [hunder "items" (by decide)]
  case h_6 | h_10 | h_11 => rfl
termination_by t
decreasing_by
  all_goals first
    | exact sizeOf_wrapped? he
    | exact sizeOf_under he

/-- Expressions that are related one by one are rendered alike. -/
theorem map_render_eq {es es' : List Tree} {names : List String}
    (h : List.Forall₂ (Renamed f) es es') (hσ : σ.Alike f names σ')
    (hnames : ∀ e ∈ es, e.qualifiers ⊆ names) : es'.map (render σ') = es.map (render σ) :=
  map_eq_of_forall₂ h fun e he _ hee' => hee'.render_eq (hσ.mono (hnames e he))

/-! ## 4. Conditions

Conditions are read from the forms of expressions, so the lemmas of the last section do most of the
work. The induction is needed for connectives. -/

/-- The items of a list are read under any key. -/
theorem Renamed.renderItems_eq (h : Renamed f t t') (hσ : σ.Alike f t.qualifiers σ') :
    t'.renderUnder σ' "items" = t.renderUnder σ "items" := by
  have hitems : List.Forall₂ (Renamed f) (t.under "items") (t'.under "items") := by
    cases h with
    | whole hkey hread hitems => exact hitems
    | parts hkey hchildren =>
      exact Parallel.under ⟨hkey, rfl, rfl, hchildren⟩ (by decide)
  exact map_render_eq hitems hσ fun e he => qualifiers_under_subset (by decide) he fun _ => rfl

namespace Parallel

theorem renderWrapped_eq (h : Parallel f t t') (hσ : σ.Alike f t.qualifiers σ')
    (hk : k ∉ sealedKeys) : t'.renderWrapped σ' k = t.renderWrapped σ k :=
  h.renderWrapped_eq_of hk fun _ _ _ hee' hsub => hee'.render_eq (hσ.mono hsub)

theorem renderListed_eq (h : Parallel f t t') (hσ : σ.Alike f t.qualifiers σ') :
    t'.listed.map (render σ') = t.listed.map (render σ) := by
  refine map_render_eq h.listed hσ fun e he => ?_
  unfold Tree.listed at he
  cases hitems : t.child? "items" with
  | none =>
    rw [hitems] at he
    exact h.qualifiers_subset (by decide) he
  | some c =>
    rw [hitems] at he
    exact h.qualifiers_subset (k := "items") (by decide) (by simpa [Tree.under, hitems] using he)

/-- The right side of `IN`. -/
theorem memberForm_eq (h : Parallel f t t') (hσ : σ.Alike f t.qualifiers σ') :
    t'.memberForm σ' = t.memberForm σ := by
  unfold memberForm rightSide?
  obtain ⟨he, he'⟩ | ⟨e, e', he, he', hee', hsub⟩ := h.wrapped?_cases (k := "rexpr") (by decide)
  · rw [he, he']
  · have hσe : σ.Alike f e.qualifiers σ' := hσ.mono hsub
    rw [he, he']
    dsimp only
    rw [hee'.key_eq]
    by_cases hlist : e.key = "List" ∨ e.key = "A_ArrayExpr"
    · have hp : Parallel f e e' := hee'.parallel (by rcases hlist with h | h <;> rw [h] <;> decide)
      rw [if_pos hlist, if_pos hlist, hp.renderListed_eq hσe]
    · rw [if_neg hlist, if_neg hlist, hee'.render_eq hσe]

/-- The right side of `BETWEEN`. -/
theorem rangeForm_eq (h : Parallel f t t') (hσ : σ.Alike f t.qualifiers σ') :
    t'.rangeForm σ' = t.rangeForm σ := by
  unfold rangeForm rightSide?
  rw [h.renderWrapped_eq hσ (by decide), h.renderWrapped_eq hσ (by decide)]
  obtain ⟨he, he'⟩ | ⟨e, e', he, he', hee', hsub⟩ := h.wrapped?_cases (k := "rexpr") (by decide)
  · rw [he, he']
  · rw [he, he']
    dsimp only
    rw [hee'.renderItems_eq (hσ.mono hsub)]

/-- An operator states one condition before and after renaming. -/
theorem operatorCondition?_eq (h : Parallel f t t') (hσ : σ.Alike f t.qualifiers σ') :
    t'.operatorCondition? σ' = t.operatorCondition? σ := by
  have hleft : t'.leftForm σ' = t.leftForm σ := h.renderWrapped_eq hσ (by decide)
  have hright : t'.rightForm σ' = t.rightForm σ := h.renderWrapped_eq hσ (by decide)
  unfold operatorCondition?
  rw [h.valueOf (by decide), h.operatorOf (by decide), hleft, hright, h.memberForm_eq hσ,
    h.rangeForm_eq hσ]

/-- So does a test for null. -/
theorem nullCondition?_eq (h : Parallel f t t') (hσ : σ.Alike f t.qualifiers σ') :
    t'.nullCondition? σ' = t.nullCondition? σ := by
  unfold nullCondition?
  rw [h.valueOf (by decide), h.renderWrapped_eq hσ (by decide)]

/-- And a subquery, of which only the tested expression is read. -/
theorem subqueryCondition?_eq (h : Parallel f t t') (hσ : σ.Alike f t.qualifiers σ') :
    t'.subqueryCondition? σ' = t.subqueryCondition? σ := by
  have hquantified (quantifier : String) :
      t'.quantifiedOperator quantifier = t.quantifiedOperator quantifier := by
    unfold quantifiedOperator
    rw [h.operatorOf (by decide)]
  unfold subqueryCondition?
  rw [h.valueOf (by decide), h.renderWrapped_eq hσ (by decide), hquantified, hquantified]

end Parallel

/-- **An expression states one condition before and after renaming.** -/
theorem Renamed.condition?_eq {t t' : Tree} (h : Renamed f t t')
    (hσ : σ.Alike f t.qualifiers σ') : t'.condition? σ' = t.condition? σ := by
  obtain hexpr | hbool | hnull | hsub | hother := key_cases t
  · have hp : Parallel f t t' := h.parallel (by rw [hexpr]; decide)
    have hexpr' : t'.key = "A_Expr" := by rw [hp.key, hexpr]
    by_cases hkind : t.valueOf "kind" = "AEXPR_NOT"
    · have hkind' : t'.valueOf "kind" = "AEXPR_NOT" := by rw [hp.valueOf (by decide), hkind]
      rw [condition?_of_negation σ' hexpr' hkind', condition?_of_negation σ hexpr hkind]
      obtain ⟨he, he'⟩ | ⟨e, e', he, he', hee', hsub⟩ :=
        hp.wrapped?_cases (k := "rexpr") (by decide)
      · rw [he, he', Option.bind_none, Option.bind_none]
      · have hsize : sizeOf e < sizeOf t := sizeOf_wrapped? he
        rw [he, he', Option.bind_some, Option.bind_some, hee'.condition?_eq (hσ.mono hsub)]
    · have hkind' : t'.valueOf "kind" ≠ "AEXPR_NOT" := by rwa [hp.valueOf (by decide)]
      rw [condition?_of_operator σ' hexpr' hkind', condition?_of_operator σ hexpr hkind,
        hp.operatorCondition?_eq hσ]
  · have hp : Parallel f t t' := h.parallel (by rw [hbool]; decide)
    have hparts : (t'.under "args").filterMap (condition? σ') =
        (t.under "args").filterMap (condition? σ) :=
      filterMap_eq_of_forall₂ (hp.under (by decide)) fun e he e' hee' =>
        have hsize : sizeOf e < sizeOf t := sizeOf_under he
        hee'.condition?_eq (hσ.mono (hp.qualifiers_subset (by decide) he))
    rw [condition?_of_connective σ' (hp.key.trans hbool), condition?_of_connective σ hbool, hparts,
      hp.valueOf (by decide)]
  · have hp : Parallel f t t' := h.parallel (by rw [hnull]; decide)
    rw [condition?_of_nullTest σ' (hp.key.trans hnull), condition?_of_nullTest σ hnull,
      hp.nullCondition?_eq hσ]
  · have hp : Parallel f t t' := h.parallel (by rw [hsub]; decide)
    rw [condition?_of_subquery σ' (hp.key.trans hsub), condition?_of_subquery σ hsub,
      hp.subqueryCondition?_eq hσ]
  · have hother' : t'.key ∉ ["A_Expr", "BoolExpr", "NullTest", "SubLink"] := by rwa [h.key_eq]
    rw [condition?_of_other σ' hother', condition?_of_other σ hother]
termination_by t

theorem Renamed.conditionOrForm_eq (h : Renamed f t t') (hσ : σ.Alike f t.qualifiers σ') :
    t'.conditionOrForm σ' = t.conditionOrForm σ := by
  unfold conditionOrForm
  rw [h.condition?_eq hσ, h.render_eq hσ]

theorem Parallel.clauseCondition?_eq (h : Parallel f t t') (hσ : σ.Alike f t.qualifiers σ')
    (hk : k ∉ sealedKeys) : t'.clauseCondition? σ' k = t.clauseCondition? σ k := by
  rw [Tree.clauseCondition?_eq, Tree.clauseCondition?_eq]
  obtain ⟨he, he'⟩ | ⟨e, e', he, he', hee', hsub⟩ := h.wrapped?_cases hk
  · rw [he, he', Option.bind_none, Option.bind_none]
  · rw [he, he', Option.bind_some, Option.bind_some, hee'.condition?_eq (hσ.mono hsub)]

end Tree

end QueryGrading
