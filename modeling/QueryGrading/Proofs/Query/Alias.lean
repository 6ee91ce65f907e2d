import QueryGrading.Proofs.Query.RenamedTree

/-!
# Aliases are bound names

The aliases of the tables of a query may be given other names without a difference to its comparison
(`Select.compare_equal_of_renamed`). Sources are read from left to right, and what has been read of
them before and after the renaming stays related (`FromClause.Renamed`) at each step. So the scopes
that the two queries are read in give each qualifier one table, as long as the condition of a join
does not refer to a table that is read later: there the qualifier is still taken for the name of a
table, and the name shows.

The functions are those that read a query: `add_sources`, `add_join` and `table_ref` for its
sources, `scope` for the aliases known so far, and `extract` of the select list, of the grouping and
of `extract_order_by`, each with the lemma that it gives the same for two related trees.
`addJoin_eq` writes `add_join` with its two sides apart, so that the lemma on a join is one on its
sides and one on its condition. Aliases of the select list are not renamed: they are no bound names,
since they decide what `ORDER BY` and conditions mean by a bare name.

What it is for two trees to differ in aliases only is in `Proofs.Query.Renaming`, and how to rename
a tree in `Proofs.Query.RenamedTree`.
-/

namespace QueryGrading

variable {f : String → String}

/-! ## 1. Renamings

A renaming is one function on names for the whole query. What makes it consistent is said once here,
of the tables and of the qualifiers that the columns use. -/

/-- A table under the new alias. -/
def TableRef.rename (f : String → String) (r : TableRef) : TableRef := ⟨r.name, f r.shortName⟩

namespace FromClause

/-- The aliases of the tables, in order. -/
def aliases (F : FromClause) : List String := (F.tables.map TableRef.shortName).filter (· ≠ "")

/-- A renaming of the aliases, beside these qualifiers of columns: it keeps aliases apart, it gives
none the empty name, a new name is no qualifier unless it is an alias itself, and all other names
stay. So aliases may get fresh names, or exchange theirs. -/
structure AliasRenaming (f : String → String) (F : FromClause) (qualifiers : List String) :
    Prop where
  injective : ∀ a ∈ F.aliases, ∀ b ∈ F.aliases, f a = f b → a = b
  nonempty : ∀ a ∈ F.aliases, f a ≠ ""
  fresh : ∀ a ∈ F.aliases, f a ∈ qualifiers → f a ∈ F.aliases
  fixed : ∀ a ∉ F.aliases, f a = a

/-- The tables are the same under new aliases, and no join is told from its counterpart. -/
structure Renamed (f : String → String) (F F' : FromClause) : Prop where
  tables : F'.tables = F.tables.map (TableRef.rename f)
  joins : F'.joins.map TableJoin.key = F.joins.map TableJoin.key

variable {F₀ F F' : FromClause} {qualifiers : List String}

/-- The empty name is no alias. -/
theorem mem_aliases_iff {a : String} :
    a ∈ F.aliases ↔ (∃ r ∈ F.tables, r.shortName = a) ∧ a ≠ "" := by
  simp [aliases]

/-- More tables have more aliases. -/
theorem aliases_subset (h : F.tables <+: F'.tables) : F.aliases ⊆ F'.aliases := fun a ha => by
  rw [mem_aliases_iff] at ha ⊢
  obtain ⟨⟨r, hr, hra⟩, hne⟩ := ha
  exact ⟨⟨r, h.subset hr, hra⟩, hne⟩

namespace AliasRenaming

theorem empty (hf : AliasRenaming f F₀ qualifiers) : f "" = "" :=
  hf.fixed "" fun h => (mem_aliases_iff.mp h).2 rfl

/-- No other alias gets the new name of a qualifier. -/
theorem separates (hf : AliasRenaming f F₀ qualifiers) {q : String} (hq : q ∈ qualifiers) :
    ∀ a ∈ F₀.aliases, f a = f q → a = q := by
  intro a ha heq
  by_cases hmem : q ∈ F₀.aliases
  · exact hf.injective a ha q hmem heq
  · rw [hf.fixed q hmem] at heq
    have hq' : f a ∈ F₀.aliases := hf.fresh a ha (by rwa [heq])
    rw [heq] at hq'
    exact absurd hq' hmem

theorem rename_blank (hf : AliasRenaming f F₀ qualifiers) :
    TableRef.blank.rename f = .blank := by
  simp [TableRef.rename, TableRef.blank, hf.empty]

end AliasRenaming

/-! ## 2. Scopes

A scope is read off the tables in the order in which they come. So the scopes before and after a
renaming are compared table by table. -/

/-- A scope holds the tables with an alias, in the order in which they were read. -/
theorem scope_eq (F : FromClause) :
    F.scope =
      ⟨(F.tables.filter (·.shortName ≠ "")).map fun r => (r.shortName, r.name), []⟩ := by
  have hfold (tables : List TableRef) : ∀ scope : Scope,
      tables.foldl (fun scope t => scope.addTable t.shortName t.name) scope =
        { scope with
          tables := scope.tables ++
            (tables.filter (·.shortName ≠ "")).map fun r => (r.shortName, r.name) } := by
    induction tables with
    | nil => simp
    | cons r rest ih =>
      intro scope
      rw [List.foldl_cons, ih, Scope.addTable]
      by_cases hr : r.shortName = "" <;> simp [hr]
  rw [scope, hfold]
  rfl

/-- The names in a scope are the aliases. -/
@[simp] theorem map_fst_scope (F : FromClause) : F.scope.tables.map Prod.fst = F.aliases := by
  rw [scope_eq, aliases, List.filter_map, List.map_map]
  rfl

/-- The scope after the renaming has the new aliases for the same tables. -/
theorem Renamed.scope_tables (hf : AliasRenaming f F₀ qualifiers) (h : F.Renamed f F')
    (hsub : F.aliases ⊆ F₀.aliases) :
    F'.scope.tables = F.scope.tables.map (Prod.map f id) := by
  have hfilter : (F.tables.map (TableRef.rename f)).filter (·.shortName ≠ "") =
      (F.tables.filter (·.shortName ≠ "")).map (TableRef.rename f) := by
    rw [List.filter_map]
    congr 1
    refine List.filter_congr fun r hr => ?_
    -- a table without an alias gets none
    by_cases hempty : r.shortName = ""
    · simp [TableRef.rename, hempty, hf.empty]
    · have hmem : r.shortName ∈ F.aliases := mem_aliases_iff.mpr ⟨⟨r, hr, rfl⟩, hempty⟩
      simp [TableRef.rename, hempty, hf.nonempty _ (hsub hmem)]
  rw [scope_eq, scope_eq, h.tables, hfilter, List.map_map, List.map_map]
  rfl

/-- The scopes give one table to each qualifier that is no alias, or that is one of the aliases
read so far. -/
theorem Renamed.alike_scope (hf : AliasRenaming f F₀ qualifiers) (h : F.Renamed f F')
    (hsub : F.aliases ⊆ F₀.aliases) {names : List String} (hnames : names ⊆ qualifiers)
    (hknown : ∀ q ∈ names, q ∈ F₀.aliases → q ∈ F.aliases) :
    Scope.Alike f names F.scope F'.scope where
  outputs := by rw [scope_eq, scope_eq]
  table q hq := by
    have hlookup : F'.scope.tables.reverse.lookup (f q) = F.scope.tables.reverse.lookup q := by
      rw [h.scope_tables hf hsub, ← List.map_reverse]
      refine lookup_map_key fun p hp => hf.separates (hnames hq) p.1 (hsub ?_)
      rw [← map_fst_scope]
      exact List.mem_map_of_mem (List.mem_reverse.mp hp)
    rw [Scope.table, Scope.table, hlookup]
    cases hfound : F.scope.tables.reverse.lookup q with
    | some table => rfl
    | none =>
      have habsent : q ∉ F.aliases := by
        rw [← map_fst_scope, List.mem_map]
        rintro ⟨p, hp, rfl⟩
        exact absurd (List.lookup_eq_none_iff.mp hfound p (List.mem_reverse.mpr hp)) (by simp)
      exact hf.fixed q fun hmem => habsent (hknown q hq hmem)

end FromClause

namespace Tree

/-! ## 3. Sources

`add_join` reads the left side, the right side and then the condition, in a scope that has no tables
but those that are read by then. The invariant is that the sources read so far are renamed from each
other; it holds after each side, each join and each item of `fromClause`. -/

variable {t t' : Tree} {F₀ F F' : FromClause} {names : List String}

/-- A table that is read under another alias is the same but for the alias. -/
theorem Renamed.tableRef?_eq (h : Renamed f t t') :
    t'.tableRef? = t.tableRef?.map (TableRef.rename f) := by
  unfold tableRef?
  rw [h.key_eq]
  split
  case h_4 => rfl
  all_goals
    next hkey =>
    have hsource : t.key ∈ sourceKeys := by
      rw [hkey]
      decide
    obtain ⟨hname, halias⟩ := (h.restated (List.mem_append_right _ hsource)).source hsource
    simp [TableRef.rename, hname, halias]

/-- Adds a side of a join, if there is one. -/
def addSide (F : FromClause) (side : Option Tree) : FromClause × TableRef :=
  match side with
  | none => (F, .blank)
  | some e =>
    if e.key = "JoinExpr" then addJoin F e
    else (F.addTable (e.tableRef?.getD .blank), e.tableRef?.getD .blank)

/-- The sources once the left side of a join is read. -/
def afterLeft (F : FromClause) (t : Tree) : FromClause := (addSide F (t.wrapped? "larg")).1

/-- The sources once both sides of a join are read, which its condition sees. -/
def afterSides (F : FromClause) (t : Tree) : FromClause :=
  (addSide (afterLeft F t) (t.wrapped? "rarg")).1

/-- A join that is read after these sources. -/
def joinAfter (F : FromClause) (t : Tree) : TableJoin where
  kind := t.valueOf "jointype"
  left := (addSide F (t.wrapped? "larg")).2
  right := (addSide (afterLeft F t) (t.wrapped? "rarg")).2
  condition := (t.wrapped? "quals").map (conditionOrForm (afterSides F t).scope)
  isNatural := t.valueOf "isNatural" == "true"
  columns := t.stringsOf "usingClause"

/-- A join is added behind its sides, and stands for a table without a name of its own. -/
theorem addJoin_eq (F : FromClause) (t : Tree) :
    addJoin F t =
      ({ afterSides F t with joins := (afterSides F t).joins ++ [joinAfter F t] },
        ⟨nestedJoin, t.sourceAlias⟩) := by
  rw [addJoin]
  split
  next F₁ left hleft =>
  split
  next F₂ right hright =>
  have hleft : addSide F (t.wrapped? "larg") = (F₁, left) := by
    -- a side that is a join is read by the function itself, so the two are compared case by case
    split at hleft
    all_goals
      next hside =>
      rw [hside]
      exact hleft
  have hright : addSide F₁ (t.wrapped? "rarg") = (F₂, right) := by
    split at hright
    all_goals
      next hside =>
      rw [hside]
      exact hright
  simp only [joinAfter, afterSides, afterLeft, hleft, hright]

/-- A side that is a join is read like a join. -/
theorem addSide_of_join {e : Tree} (F : FromClause) (hkey : e.key = "JoinExpr") :
    addSide F (some e) = addJoin F e := by
  rw [addSide, if_pos hkey]

/-- Any other side is a table. -/
theorem addSide_of_table {e : Tree} (F : FromClause) (hkey : e.key ≠ "JoinExpr") :
    addSide F (some e) = (F.addTable (e.tableRef?.getD .blank), e.tableRef?.getD .blank) := by
  rw [addSide, if_neg hkey]

/-- Tables that are read stay. -/
theorem tables_prefix_addSide {side : Option Tree} (F : FromClause)
    (h : ∀ e, side = some e → F.tables <+: (addJoin F e).1.tables) :
    F.tables <+: (addSide F side).1.tables := by
  cases side with
  | none => exact List.prefix_rfl
  | some e =>
    by_cases hkey : e.key = "JoinExpr"
    · rw [addSide_of_join F hkey]
      exact h e rfl
    · rw [addSide_of_table F hkey]
      exact List.prefix_append _ _

/-- Reading a join only adds tables. -/
theorem tables_prefix_addJoin (F : FromClause) (t : Tree) :
    F.tables <+: (addJoin F t).1.tables := by
  have hleft : F.tables <+: (afterLeft F t).tables :=
    tables_prefix_addSide F fun e he => tables_prefix_addJoin F e
  have hright : (afterLeft F t).tables <+: (afterSides F t).tables :=
    tables_prefix_addSide (afterLeft F t) fun e he => tables_prefix_addJoin (afterLeft F t) e
  rw [addJoin_eq]
  exact hleft.trans hright
termination_by t
decreasing_by all_goals exact sizeOf_wrapped? he

/-- Nor does a source take tables away. -/
theorem tables_prefix_addSource (F : FromClause) (t : Tree) :
    F.tables <+: (addSource F t).tables := by
  unfold addSource
  split
  · exact tables_prefix_addJoin F t
  · split
    · exact List.prefix_append _ _
    · exact List.prefix_rfl

/-- Nor do several. -/
theorem tables_prefix_foldl (ts : List Tree) :
    ∀ F : FromClause, F.tables <+: (ts.foldl addSource F).tables := by
  induction ts with
  | nil => exact fun _ => List.prefix_rfl
  | cons t rest ih => exact fun F => (tables_prefix_addSource F t).trans (ih (addSource F t))

/-- The condition of a join uses one of these names as a qualifier only if it is the alias of a
table that is read by then, and so does that of each join inside it. -/
inductive JoinScoped (names : List String) : FromClause → Tree → Prop
  | intro {F : FromClause} {t : Tree}
    (left : ∀ e, t.wrapped? "larg" = some e → e.key = "JoinExpr" → JoinScoped names F e)
    (right : ∀ e, t.wrapped? "rarg" = some e → e.key = "JoinExpr" →
      JoinScoped names (afterLeft F t) e)
    (condition : ∀ e, t.wrapped? "quals" = some e → ∀ q ∈ e.qualifiers, q ∈ names →
      q ∈ (afterSides F t).aliases) :
    JoinScoped names F t

/-- So do the conditions of all joins in a list of sources, read one after another. -/
inductive SourcesScoped (names : List String) : FromClause → List Tree → Prop
  | nil {F : FromClause} : SourcesScoped names F []
  | cons {F : FromClause} {t : Tree} {rest : List Tree}
    (hjoin : t.key = "JoinExpr" → JoinScoped names F t)
    (hrest : SourcesScoped names (addSource F t) rest) : SourcesScoped names F (t :: rest)

variable {qualifiers : List String}

/-- One more table on both sides. -/
theorem renamed_addTable (hf : FromClause.AliasRenaming f F₀ qualifiers) (hF : F.Renamed f F')
    (h : Renamed f t t') :
    (F.addTable (t.tableRef?.getD .blank)).Renamed f (F'.addTable (t'.tableRef?.getD .blank)) where
  tables := by
    rw [h.tableRef?_eq]
    cases t.tableRef? <;> simp [FromClause.addTable, hF.tables, hf.rename_blank]
  joins := hF.joins

/-- The name of a table is not renamed. -/
theorem name_tableRef? (h : Renamed f t t') :
    (t'.tableRef?.getD .blank).name = (t.tableRef?.getD .blank).name := by
  rw [h.tableRef?_eq]
  cases t.tableRef? <;> rfl

/-- A join has no name of its own. -/
@[simp] theorem name_addJoin (F : FromClause) (t : Tree) : (addJoin F t).2.name = nestedJoin := by
  rw [addJoin_eq]

/-- Reading one side of a join on both sides of the renaming leaves the sources related. -/
theorem Parallel.renamed_addSide {k : String} (h : Parallel f t t') (hk : k ∉ sealedKeys)
    (hf : FromClause.AliasRenaming f F₀ qualifiers) (hF : F.Renamed f F')
    (hjoin : ∀ e, t.wrapped? k = some e → e.key = "JoinExpr" → ∀ e', Renamed f e e' →
      e.qualifiers ⊆ t.qualifiers → (addJoin F e).1.Renamed f (addJoin F' e').1) :
    (addSide F (t.wrapped? k)).1.Renamed f (addSide F' (t'.wrapped? k)).1 ∧
      (addSide F' (t'.wrapped? k)).2.name = (addSide F (t.wrapped? k)).2.name := by
  obtain ⟨he, he'⟩ | ⟨e, e', he, he', hee', hsub⟩ := h.wrapped?_cases hk
  · rw [he, he']
    exact ⟨hF, rfl⟩
  · rw [he, he']
    by_cases hkey : e.key = "JoinExpr"
    · have hkey' : e'.key = "JoinExpr" := by rw [hee'.key_eq, hkey]
      rw [addSide_of_join F hkey, addSide_of_join F' hkey', name_addJoin, name_addJoin]
      exact ⟨hjoin e he hkey e' hee' hsub, rfl⟩
    · have hkey' : e'.key ≠ "JoinExpr" := by rwa [hee'.key_eq]
      rw [addSide_of_table F hkey, addSide_of_table F' hkey']
      exact ⟨renamed_addTable hf hF hee', name_tableRef? hee'⟩

/-- The conditions of two joins are equal if the scopes in which they are read give their qualifiers
one table. -/
theorem Parallel.condition_joinAfter (h : Parallel f t t')
    (hscope : ∀ e, t.wrapped? "quals" = some e → e.qualifiers ⊆ t.qualifiers →
      Scope.Alike f e.qualifiers (afterSides F t).scope (afterSides F' t').scope) :
    (joinAfter F' t').condition = (joinAfter F t).condition := by
  unfold joinAfter
  dsimp only
  obtain ⟨he, he'⟩ | ⟨e, e', he, he', hee', hsub⟩ := h.wrapped?_cases (k := "quals") (by decide)
  · rw [he, he', Option.map_none, Option.map_none]
  · rw [he, he', Option.map_some, Option.map_some, hee'.conditionOrForm_eq (hscope e he hsub)]

/-- Two joins have one key if their sides have the same names and their conditions are equal. -/
theorem Parallel.key_joinAfter (h : Parallel f t t')
    (hleft : (joinAfter F' t').left.name = (joinAfter F t).left.name)
    (hright : (joinAfter F' t').right.name = (joinAfter F t).right.name)
    (hcondition : (joinAfter F' t').condition = (joinAfter F t).condition) :
    (joinAfter F' t').key = (joinAfter F t).key := by
  have hkind : (joinAfter F' t').kind = (joinAfter F t).kind := h.valueOf (by decide)
  have hnatural : (joinAfter F' t').isNatural = (joinAfter F t).isNatural := by
    simp only [joinAfter, h.valueOf (k := "isNatural") (by decide)]
  have hcolumns : (joinAfter F' t').columns = (joinAfter F t).columns := h.stringsOf (by decide)
  unfold TableJoin.key TableJoin.sideNames
  rw [hkind, hleft, hright, hcondition, hnatural, hcolumns]

/-- Reading one more join on both sides leaves the sources related. -/
theorem Renamed.addJoin {t t' : Tree} {F F' : FromClause} (h : Renamed f t t')
    (hkey : t.key = "JoinExpr") (hf : FromClause.AliasRenaming f F₀ qualifiers)
    (hF : F.Renamed f F') (hscoped : JoinScoped F₀.aliases F t)
    (hsub : (addJoin F t).1.tables <+: F₀.tables) (hq : t.qualifiers ⊆ qualifiers) :
    (addJoin F t).1.Renamed f (addJoin F' t').1 := by
  have hp : Parallel f t t' := h.parallel (by rw [hkey]; decide)
  obtain ⟨hleftScoped, hrightScoped, hcondition⟩ := hscoped
  have hsides : (afterSides F t).tables <+: F₀.tables := by rwa [addJoin_eq] at hsub
  have hafter : (afterLeft F t).tables <+: (afterSides F t).tables :=
    tables_prefix_addSide _ fun e _ => tables_prefix_addJoin _ e
  -- each side starts from related sources, so the condition is read in scopes that are alike
  obtain ⟨hleft, hleftName⟩ : (afterLeft F t).Renamed f (afterLeft F' t') ∧
      (joinAfter F' t').left.name = (joinAfter F t).left.name :=
    hp.renamed_addSide (k := "larg") (by decide) hf hF
      fun e he hkeyE e' hee' hsubE => hee'.addJoin hkeyE hf hF (hleftScoped e he hkeyE)
        (by simpa [afterLeft, he, addSide_of_join F hkeyE] using hafter.trans hsides)
        (List.Subset.trans hsubE hq)
  obtain ⟨hright, hrightName⟩ : (afterSides F t).Renamed f (afterSides F' t') ∧
      (joinAfter F' t').right.name = (joinAfter F t).right.name :=
    hp.renamed_addSide (k := "rarg") (by decide) hf hleft
      fun e he hkeyE e' hee' hsubE => hee'.addJoin hkeyE hf hleft (hrightScoped e he hkeyE)
        (by simpa [afterSides, he, addSide_of_join _ hkeyE] using hsides)
        (List.Subset.trans hsubE hq)
  have hconditionEq : (joinAfter F' t').condition = (joinAfter F t).condition :=
    hp.condition_joinAfter fun e he hsubE =>
      hright.alike_scope hf (FromClause.aliases_subset hsides) (List.Subset.trans hsubE hq)
        (hcondition e he)
  rw [addJoin_eq, addJoin_eq]
  -- only the list of joins has grown since the right side was read
  refine ⟨hright.tables, ?_⟩
  rw [List.map_append, List.map_append, hright.joins, List.map_singleton, List.map_singleton,
    hp.key_joinAfter hleftName hrightName hconditionEq]
termination_by t
decreasing_by all_goals exact sizeOf_wrapped? he

/-- Reading one more source on both sides leaves the sources related. -/
theorem Renamed.addSource (h : Renamed f t t')
    (hf : FromClause.AliasRenaming f F₀ qualifiers) (hF : F.Renamed f F')
    (hscoped : t.key = "JoinExpr" → JoinScoped F₀.aliases F t)
    (hsub : (addSource F t).tables <+: F₀.tables) (hq : t.qualifiers ⊆ qualifiers) :
    (addSource F t).Renamed f (addSource F' t') := by
  unfold Tree.addSource at hsub ⊢
  by_cases hkey : t.key = "JoinExpr"
  · have hkey' : t'.key = "JoinExpr" := by rw [h.key_eq, hkey]
    rw [if_pos hkey] at hsub
    rw [if_pos hkey, if_pos hkey']
    exact h.addJoin hkey hf hF (hscoped hkey) hsub hq
  · have hkey' : t'.key ≠ "JoinExpr" := by rwa [h.key_eq]
    have htable := renamed_addTable hf hF h
    rw [if_neg hkey, if_neg hkey']
    rw [h.tableRef?_eq] at htable ⊢
    cases ht : t.tableRef? with
    -- what is no table adds nothing on either side
    | none => exact hF
    | some r => simpa [ht] using htable

/-- Reading a list of sources on both sides leaves them related. -/
theorem renamed_foldl_addSource (hf : FromClause.AliasRenaming f F₀ qualifiers) {ts ts' : List Tree}
    (h : List.Forall₂ (Renamed f) ts ts') (hq : ∀ t ∈ ts, t.qualifiers ⊆ qualifiers) :
    ∀ {F F' : FromClause}, F.Renamed f F' → SourcesScoped F₀.aliases F ts →
      (ts.foldl Tree.addSource F).tables <+: F₀.tables →
      (ts.foldl Tree.addSource F).Renamed f (ts'.foldl Tree.addSource F') := by
  induction h with
  | nil => exact fun hF _ _ => hF
  | @cons t t' rest rest' htt' hrest ih =>
    intro F F' hF hscoped hsub
    -- the sources before stay among all that are read
    obtain _ | ⟨hjoin, hrestScoped⟩ := hscoped
    have hstep : (addSource F t).Renamed f (addSource F' t') := htt'.addSource hf hF hjoin
      ((tables_prefix_foldl rest (addSource F t)).trans hsub) (hq t List.mem_cons_self)
    exact ih (fun s hs => hq s (List.mem_cons_of_mem t hs)) hstep hrestScoped hsub

/-! ## 4. Clauses

The other clauses are read in the scope of all tables. Each lemma says that one extractor gives the
same result on both sides. -/

/-- Trees that are related have one key, so those with a certain key are related. -/
theorem forall₂_filter_key (k : String) {ts ts' : List Tree}
    (h : List.Forall₂ (Renamed f) ts ts') :
    List.Forall₂ (Renamed f) (ts.filter (·.key == k)) (ts'.filter (·.key == k)) :=
  List.rel_filter (fun t t' htt' => by dsimp only; rw [htt'.key_eq]) h

namespace Parallel

/-- The sources of two statements are related one by one. -/
theorem forall₂_sourceList (h : Parallel f t t') :
    List.Forall₂ (Renamed f) t.sourceList t'.sourceList := by
  unfold sourceList
  obtain ⟨hc, hc'⟩ | ⟨c, c', hc, hc', hcc'⟩ := h.child?_cases (k := "fromClause") (by decide)
  · rw [hc, hc']
    exact h.under (by decide)
  · rw [hc, hc']
    exact hcc'.children

/-- What a source refers to, the statement refers to. -/
theorem qualifiers_sourceList_subset (h : Parallel f t t') {s : Tree} (hs : s ∈ t.sourceList) :
    s.qualifiers ⊆ t.qualifiers := by
  unfold sourceList at hs
  cases hc : t.child? "fromClause" with
  | none =>
    rw [hc] at hs
    exact h.qualifiers_subset (by decide) hs
  | some c =>
    rw [hc] at hs
    exact h.qualifiers_subset (k := "fromClause") (by decide) (by simpa [Tree.under, hc] using hs)

/-- The names of common table expressions stay. -/
theorem cteNames_eq (h : Parallel f t t') : t'.cteNames = t.cteNames := by
  unfold cteNames
  obtain ⟨hc, hc'⟩ | ⟨c, c', hc, hc', hcc'⟩ :=
    path?_cases (by decide : ∀ k ∈ ["withClause", "ctes"], k ∉ sealedKeys) h
  · rw [hc, hc']
  · rw [hc, hc']
    dsimp only
    refine map_eq_of_forall₂ (forall₂_filter_key _ hcc'.children) fun s hs s' hss' => ?_
    have hkey : s.key = "CommonTableExpr" := by simpa using List.of_mem_filter hs
    exact (hss'.parallel (by rw [hkey]; decide)).valueOf (by decide)

/-- The sources of two queries that differ in the names of tables. -/
theorem renamed_sources (h : Parallel f t t')
    (hf : (FromClause.ofTree t).AliasRenaming f t.qualifiers)
    (hscoped : SourcesScoped (FromClause.ofTree t).aliases .blank t.sourceList) :
    (FromClause.ofTree t).Renamed f (FromClause.ofTree t') := by
  have hblank : FromClause.blank.Renamed f .blank := ⟨rfl, rfl⟩
  have hfold : (t.sourceList.foldl addSource .blank).Renamed f
      (t'.sourceList.foldl addSource .blank) :=
    renamed_foldl_addSource hf h.forall₂_sourceList (fun _ => h.qualifiers_sourceList_subset)
      hblank hscoped List.prefix_rfl
  exact ⟨hfold.tables, hfold.joins⟩

end Parallel

variable {σ σ' : Scope}

/-- An item is read alike. -/
theorem Renamed.projection_eq (h : Renamed f t t') (hσ : σ.Alike f t.qualifiers σ')
    (shortName : String) : Projection.ofTree σ' t' shortName = .ofTree σ t shortName := by
  rw [Projection.ofTree, Projection.ofTree, ItemKind.ofTree, ItemKind.ofTree, h.key_eq,
    h.render_eq hσ]

/-- So is an entry of the select list, if it is one. -/
theorem Renamed.item?_eq (h : Renamed f t t') (hσ : σ.Alike f t.qualifiers σ') :
    SelectList.item? σ' t' = SelectList.item? σ t := by
  unfold SelectList.item?
  rw [h.key_eq]
  by_cases hkey : t.key = "ResTarget"
  · have hp : Parallel f t t' := h.parallel (by rw [hkey]; decide)
    rw [if_pos hkey, if_pos hkey, hp.nameOf (by decide)]
    obtain ⟨he, he'⟩ | ⟨e, e', he, he', hee', hsub⟩ := hp.wrapped?_cases (k := "val") (by decide)
    · rw [he, he', Option.map_none, Option.map_none]
    · rw [he, he', Option.map_some, Option.map_some, hee'.projection_eq (hσ.mono hsub)]
  · rw [if_neg hkey, if_neg hkey]

/-- The constructs of a grouping, gone through without the proofs that its items are smaller. -/
theorem groupingKinds_eq (t : Tree) :
    t.groupingKinds = t.children.flatMap fun item =>
      if item.key = "GroupingSet" then
        (GroupingKind.ofName? (item.valueOf "kind")).toList ++
          ((item.child? "content").map groupingKinds).getD []
      else [] := by
  rw [groupingKinds]
  refine flatMap_attach_of fun item _ => ?_
  dsimp only
  split
  · split <;> simp [*]
  · rfl

/-- And the items of a grouping. -/
theorem groupingItems_eq (t : Tree) :
    t.groupingItems = t.children.flatMap fun item =>
      if item.key = "GroupingSet" then ((item.child? "content").map groupingItems).getD []
      else [item] := by
  rw [groupingItems]
  refine flatMap_attach_of fun item _ => ?_
  dsimp only
  split
  · split <;> simp [*]
  · rfl

/-- The constructs of a grouping stay, by induction over sets that are nested. -/
theorem Parallel.groupingKinds {t t' : Tree} (h : Parallel f t t') :
    t'.groupingKinds = t.groupingKinds := by
  rw [groupingKinds_eq, groupingKinds_eq, List.flatMap_def, List.flatMap_def]
  refine congrArg List.flatten (map_eq_of_forall₂ h.children fun item hitem item' hii' => ?_)
  rw [hii'.key_eq]
  by_cases hkey : item.key = "GroupingSet"
  · have hp : Parallel f item item' := hii'.parallel (by rw [hkey]; decide)
    rw [if_pos hkey, if_pos hkey, hp.valueOf (by decide)]
    obtain ⟨hc, hc'⟩ | ⟨c, c', hc, hc', hcc'⟩ := hp.child?_cases (k := "content") (by decide)
    · rw [hc, hc', Option.map_none]
    · have hsize : sizeOf c < sizeOf t := Nat.lt_trans (sizeOf_child? hc) (sizeOf_children hitem)
      rw [hc, hc', Option.map_some, Option.map_some, hcc'.groupingKinds]
  · rw [if_neg hkey, if_neg hkey]
termination_by t

/-- Its items are related one by one. -/
theorem Parallel.forall₂_groupingItems {t t' : Tree} (h : Parallel f t t')
    (hq : t.qualifiers ⊆ qualifiers) :
    List.Forall₂ (fun e e' => Renamed f e e' ∧ e.qualifiers ⊆ qualifiers)
      t.groupingItems t'.groupingItems := by
  rw [groupingItems_eq, groupingItems_eq]
  refine forall₂_flatMap_of h.children fun item hitem item' hii' => ?_
  have hsub : item.qualifiers ⊆ qualifiers := List.Subset.trans (h.qualifiers_child hitem) hq
  rw [hii'.key_eq]
  by_cases hkey : item.key = "GroupingSet"
  · have hp : Parallel f item item' := hii'.parallel (by rw [hkey]; decide)
    rw [if_pos hkey, if_pos hkey]
    obtain ⟨hc, hc'⟩ | ⟨c, c', hc, hc', hcc'⟩ := hp.child?_cases (k := "content") (by decide)
    · rw [hc, hc']
      exact .nil
    · have hsize : sizeOf c < sizeOf t := Nat.lt_trans (sizeOf_child? hc) (sizeOf_children hitem)
      have hsubC : c.qualifiers ⊆ item.qualifiers :=
        hp.qualifiers_child (List.mem_of_find?_eq_some hc)
      rw [hc, hc', Option.map_some, Option.map_some, Option.getD_some, Option.getD_some]
      exact hcc'.forall₂_groupingItems (List.Subset.trans hsubC hsub)
  · rw [if_neg hkey, if_neg hkey]
    exact .cons ⟨hii', hsub⟩ .nil
termination_by t

namespace Parallel

/-- The select list is read alike in scopes that are alike. -/
theorem selectList_eq {F F' : FromClause} (h : Parallel f t t')
    (hscope : Scope.Alike f t.qualifiers F.scope F'.scope) :
    SelectList.ofTree F' t' = .ofTree F t := by
  have hdistinct : (t'.child? "distinctClause").isSome = (t.child? "distinctClause").isSome := by
    obtain ⟨hc, hc'⟩ | ⟨c, c', hc, hc', -⟩ :=
      h.child?_cases (k := "distinctClause") (by decide)
    · rw [hc, hc']
    · rw [hc, hc', Option.isSome_some, Option.isSome_some]
  rw [SelectList.ofTree, SelectList.ofTree, hdistinct]
  refine congrArg (SelectList.mk _) (filterMap_eq_of_forall₂ (h.under (by decide)) ?_)
  exact fun s hs s' hss' => hss'.item?_eq (hscope.mono (h.qualifiers_subset (by decide) hs))

/-- So is the grouping. -/
theorem groupBy_eq {F F' : FromClause} (h : Parallel f t t')
    (hscope : Scope.Alike f t.qualifiers F.scope F'.scope) :
    GroupBy.ofTree F' t' = .ofTree F t := by
  unfold GroupBy.ofTree
  obtain ⟨hc, hc'⟩ | ⟨c, c', hc, hc', hcc'⟩ := h.child?_cases (k := "groupClause") (by decide)
  · rw [hc, hc']
  · have hsub : c.qualifiers ⊆ t.qualifiers :=
      h.qualifiers_child (List.mem_of_find?_eq_some hc)
    rw [hc, hc']
    dsimp only
    rw [hcc'.groupingKinds]
    refine congrArg (GroupBy.mk _) (map_eq_of_forall₂ (hcc'.forall₂_groupingItems hsub) ?_)
    exact fun e _ e' ⟨hee', he⟩ => hee'.projection_eq (hscope.mono he) ""

/-- An item of an ordering is read alike; one that is a number stands for an item of the select
list. -/
theorem orderItem_eq (h : Parallel f t t') (hσ : σ.Alike f t.qualifiers σ') (l : SelectList) :
    OrderItem.ofTree l σ' t' = OrderItem.ofTree l σ t := by
  have hexpression : OrderItem.expressionOf l σ' t' = OrderItem.expressionOf l σ t := by
    unfold OrderItem.expressionOf
    obtain ⟨he, he'⟩ | ⟨e, e', he, he', hee', hsub⟩ := h.wrapped?_cases (k := "node") (by decide)
    · rw [he, he']
    · rw [he, he']
      dsimp only
      rw [hee'.key_eq]
      by_cases hkey : e.key = "A_Const"
      · have hconstant : e'.constant = e.constant :=
          (hee'.restated (by rw [hkey]; decide)).constant hkey
        rw [if_pos hkey, if_pos hkey, hconstant]
      · rw [if_neg hkey, if_neg hkey, hee'.render_eq (hσ.mono hsub)]
  unfold OrderItem.ofTree OrderItem.directionOf OrderItem.nullsOf
  rw [hexpression, h.valueOf (by decide), h.valueOf (by decide), h.stringsOf (by decide)]

/-- So is the ordering. -/
theorem orderBy_eq (h : Parallel f t t') (hσ : σ.Alike f t.qualifiers σ') (l : SelectList) :
    OrderBy.ofTree l σ' t' = OrderBy.ofTree l σ t := by
  refine map_eq_of_forall₂ (forall₂_filter_key _ (h.under (by decide))) fun s hs s' hss' => ?_
  obtain ⟨hmem, hkey⟩ := List.mem_filter.mp hs
  rw [beq_iff_eq] at hkey
  exact (hss'.parallel (by rw [hkey]; decide)).orderItem_eq
    (hσ.mono (h.qualifiers_subset (by decide) hmem)) l

end Parallel

/-! ## 5. A join under two sets of aliases -/

/-- A node with strings below it. -/
def nameParts (key : String) (parts : List String) : Tree :=
  .node key "" (parts.map fun part => .node "String" "" [.leaf "sval" part])

/-- A column of a source. -/
def qualified (qualifier column : String) : Tree :=
  .node "ColumnRef" "" [nameParts "fields" [qualifier, column]]

/-- A table with an alias. -/
def aliased (table shortName : String) : Tree :=
  .node "RangeVar" "" [.leaf "relname" table, .node "alias" "" [.leaf "aliasname" shortName]]

/-- Employees joined with their departments, under these aliases. -/
def departmentJoin (e d : String) : Tree :=
  .node "JoinExpr" ""
    [.leaf "jointype" "JOIN_INNER", .node "larg" "" [aliased "employees" e],
      .node "rarg" "" [aliased "departments" d],
      .node "quals" "" [.node "A_Expr" ""
        [.leaf "kind" "AEXPR_OP", nameParts "name" ["="],
          .node "lexpr" "" [qualified e "department"], .node "rexpr" "" [qualified d "id"]]]]

/-- The names of employees that have a department. -/
def employees (e d : String) : Tree :=
  .node "SelectStmt" ""
    [.node "targetList" "" [.node "ResTarget" "" [.node "val" "" [qualified e "name"]]],
      .node "fromClause" "" [departmentJoin e d]]

/-- Other names for two aliases. -/
def longAliases (a : String) : String :=
  if a = "e" then "emp" else if a = "d" then "dep" else a

/-- The new names can be written into a tree. -/
theorem isWritable_longAliases : IsWritable longAliases where
  empty := by decide
  star := by decide
  plain name h := by
    unfold longAliases
    split
    · decide
    · split
      · decide
      · exact h

end Tree

/-! ## 6. Queries

With all keys of the clauses equal, so are the keys of the queries. -/

/-- Output aliases name the same expressions. -/
theorem SelectList.alike_scope (l : SelectList) {F F' : FromClause} {names : List String}
    (h : Scope.Alike f names F.scope F'.scope) :
    Scope.Alike f names (l.scope F) (l.scope F') := by
  unfold SelectList.scope
  generalize F.scope = σ, F'.scope = σ' at h
  induction l.items generalizing σ σ' with
  | nil => exact h
  | cons item rest ih =>
    have hitem : Scope.Alike f names (σ.addOutput item.shortName item.text)
        (σ'.addOutput item.shortName item.text) := by
      unfold Scope.addOutput
      split
      · exact h
      · exact ⟨h.table, by rw [h.outputs]⟩
    exact ih _ _ hitem

theorem FromClause.Renamed.key?_eq {F F' : FromClause} (h : F.Renamed f F')
    (hctes : F'.ctes = F.ctes) : F'.key? = F.key? := by
  have hnames : F'.tables.map TableRef.name = F.tables.map TableRef.name := by
    rw [h.tables, List.map_map]
    rfl
  have hnil : F'.tables = [] ↔ F.tables = [] := by rw [h.tables, List.map_eq_nil_iff]
  unfold FromClause.key?
  rw [hnames, h.joins, hctes]
  simp only [hnil]

/-- **Aliases of tables are bound names**: a query is equal to any that only gives its tables other
aliases and its columns the qualifiers that go with them, as long as no condition of a join uses
the alias of a table that is read after it. -/
theorem Select.compare_equal_of_renamed {S S' : Tree} (hkey : S.key = "SelectStmt")
    (hf : (FromClause.ofTree S).AliasRenaming f S.qualifiers) (h : Tree.Renamed f S S')
    (hscoped : Tree.SourcesScoped (FromClause.ofTree S).aliases .blank S.sourceList) :
    ((Select.ofTree S).compare (Select.ofTree S')).equal = true := by
  have hp : Tree.Parallel f S S' := h.parallel (by rw [hkey]; decide)
  have hsources : (FromClause.ofTree S).Renamed f (FromClause.ofTree S') :=
    hp.renamed_sources hf hscoped
  have hscope : Scope.Alike f S.qualifiers (FromClause.ofTree S).scope
      (FromClause.ofTree S').scope :=
    hsources.alike_scope hf (List.Subset.refl _) (List.Subset.refl _) fun _ _ hq => hq
  have hlist : SelectList.ofTree (FromClause.ofTree S') S' = .ofTree (FromClause.ofTree S) S :=
    hp.selectList_eq hscope
  have hfull := (SelectList.ofTree (FromClause.ofTree S) S).alike_scope hscope
  rw [compare_equal_iff]
  unfold Select.ofTree Select.key
  dsimp only
  rw [hlist, hp.clauseCondition?_eq hfull (by decide), hp.clauseCondition?_eq hfull (by decide),
    hp.groupBy_eq hscope, hp.orderBy_eq hfull, hsources.key?_eq hp.cteNames_eq]

/-- Other aliases make no difference to a join. -/
theorem Select.compare_equal_of_renamed_employees :
    let S := Tree.employees "e" "d"
    let S' := S.renamed Tree.longAliases
    S' = Tree.employees "\"emp\"" "\"dep\"" ∧ S.key = "SelectStmt" ∧
      (FromClause.ofTree S).AliasRenaming Tree.longAliases S.qualifiers ∧
      Tree.Renamed Tree.longAliases S S' ∧
      Tree.SourcesScoped (FromClause.ofTree S).aliases .blank S.sourceList ∧
      ((Select.ofTree S).compare (Select.ofTree S')).equal = true := by
  intro S S'
  have haliases : (FromClause.ofTree S).aliases = ["e", "d"] := by cbv
  have hread : (Tree.afterSides .blank (Tree.departmentJoin "e" "d")).aliases = ["e", "d"] := by
    cbv
  have hqualifiers : S.qualifiers = ["e", "e", "d"] := by cbv
  have hf : (FromClause.ofTree S).AliasRenaming Tree.longAliases S.qualifiers := by
    -- the four conditions on a renaming, each on two aliases and three qualifiers
    constructor <;> rw [haliases]
    · decide
    · decide
    · rw [hqualifiers]
      decide
    · intro a ha
      simp only [List.mem_cons, List.not_mem_nil, or_false, not_or] at ha
      simp [Tree.longAliases, ha]
  have h : Tree.Renamed Tree.longAliases S S' :=
    Tree.renamed_renamed Tree.isWritable_longAliases S (by decide)
  have hscoped : Tree.SourcesScoped (FromClause.ofTree S).aliases .blank S.sourceList := by
    refine .cons (fun _ => .intro ?_ ?_ ?_) .nil
    · intro e heq hkey
      cases heq
      exact absurd hkey (by decide)
    · intro e heq hkey
      cases heq
      exact absurd hkey (by decide)
    · intro e _ q _ hq
      rwa [haliases, ← hread] at hq
  exact ⟨by cbv, rfl, hf, h, hscoped, compare_equal_of_renamed rfl hf h hscoped⟩

end QueryGrading
