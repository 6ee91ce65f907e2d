import QueryGrading.Proofs.Query.Constraint

/-!
# Foreign keys that relate the same columns

A foreign key relates each of its columns to the referenced column at the same place, so the order
in which it is written does not matter as long as the two lists keep together (`SameRelation`).
`compare_foreign_keys` looks for a partner, and compares, by the sorted columns of
`ForeignKey::key`, and compares the referenced columns as they are written. So the verdict on two
foreign keys is right where both write their columns in one order. Where they do not, a foreign key
that is taken for correct never relates the same columns, and one that does is never taken for
correct (`foreignKeys_correct_iff`).

The statements are on tables with one foreign key each, where it is plain what is compared with
what; how partners are found among several is the subject of the constraints and their pairing.
-/

namespace QueryGrading

/-! ## 1. The relation of a foreign key -/

namespace ForeignKey

variable {a b : ForeignKey}

/-- The columns that a foreign key relates, place by place. -/
def pairs (k : ForeignKey) : List (String × String) := k.columns.zip k.referenced

/-- Each column has a referenced one, and neither list has a column twice. -/
structure Proper (k : ForeignKey) : Prop where
  length : k.columns.length = k.referenced.length
  columns : k.columns.Nodup
  referenced : k.referenced.Nodup

/-- Two foreign keys are to one table and relate the same columns to the same. -/
def SameRelation (a b : ForeignKey) : Prop :=
  a.table = b.table ∧ ∀ p, p ∈ a.pairs ↔ p ∈ b.pairs

/-- The columns that a foreign key relates are all of its own. -/
theorem Proper.map_fst_pairs (h : a.Proper) : a.pairs.map Prod.fst = a.columns :=
  List.map_fst_zip h.length.le

/-- The columns to which it relates them are all that it references. -/
theorem Proper.map_snd_pairs (h : a.Proper) : a.pairs.map Prod.snd = a.referenced :=
  List.map_snd_zip h.length.ge

/-- Keys that relate the same columns, written in one order, reference the same list. -/
theorem SameRelation.referenced_eq (h : SameRelation a b) (ha : a.Proper) (hb : b.Proper)
    (hcolumns : a.columns = b.columns) : a.referenced = b.referenced := by
  have hpairs : a.pairs = b.pairs := by
    refine eq_of_map_eq Prod.fst (fun p hp => (h.2 p).mp hp) ?_ ?_
    · rw [ha.map_fst_pairs, hb.map_fst_pairs, hcolumns]
    · rw [hb.map_fst_pairs]
      exact hb.columns
  rw [← ha.map_snd_pairs, hpairs, hb.map_snd_pairs]

/-- Keys that relate the same columns, referenced in one order, are on the same list. -/
theorem SameRelation.columns_eq (h : SameRelation a b) (ha : a.Proper) (hb : b.Proper)
    (hreferenced : a.referenced = b.referenced) : a.columns = b.columns := by
  have hpairs : a.pairs = b.pairs := by
    refine eq_of_map_eq Prod.snd (fun p hp => (h.2 p).mp hp) ?_ ?_
    · rw [ha.map_snd_pairs, hb.map_snd_pairs, hreferenced]
    · rw [hb.map_snd_pairs]
      exact hb.referenced
  rw [← ha.map_fst_pairs, hpairs, hb.map_fst_pairs]

end ForeignKey

/-! ## 2. The verdict -/

namespace CreateTable

variable {r s : CreateTable} {report : Report}

/-- The parts on a column are not called as the foreign keys are. -/
theorem keys_mem_correct_compareColumn_iff (s : CreateTable) (report : Report) (c : Column) :
    "Foreign keys" ∈ (compareColumn s report c).correct ↔ "Foreign keys" ∈ report.correct := by
  have htype : "Foreign keys" ≠ s!"Type of '{c.name}'" := fun heq => by
    simpa [toString] using congrArg String.toList heq
  have hnotNull : "Foreign keys" ≠ s!"NOT NULL constraint for '{c.name}'" := fun heq => by
    simpa [toString] using congrArg String.toList heq
  unfold compareColumn
  cases s.columns.find? (·.name == c.name) with
  | none => rfl
  | some d =>
    unfold compareNotNull compareType
    dsimp only
    split <;> split <;> simp [htype, hnotNull]

/-- The comparison of the columns says nothing of foreign keys. -/
theorem keys_mem_correct_compareColumns_iff (r s : CreateTable) :
    "Foreign keys" ∈ (compareColumns r s report).correct ↔ "Foreign keys" ∈ report.correct := by
  rw [compareColumns, Report.mem_correct_foldl_iff (keys_mem_correct_compareColumn_iff s),
    compareNames]
  dsimp only
  split
  · split <;> simp
  · simp

/-- The comparison of the primary keys says nothing of foreign keys. -/
theorem keys_mem_correct_comparePrimaryKey_iff (r s : CreateTable) :
    "Foreign keys" ∈ (comparePrimaryKey r s report).correct ↔ "Foreign keys" ∈ report.correct := by
  unfold comparePrimaryKey
  dsimp only
  split
  · split <;> simp
  · split <;> simp

/-- Foreign keys are a correct part just where there are any and they agree. -/
theorem keys_mem_correct_iff (r s : CreateTable) :
    "Foreign keys" ∈ (r.compare s).correct ↔ r.foreignKeys ≠ [] ∧
      SameUnderKeys ForeignKey.columnSet ForeignKey.form r.foreignKeys s.foreignKeys := by
  have hname : "Foreign keys" ∉ (if r.table = s.table then Report.empty.pass "Table name"
      else Report.empty.failWith "Table name"
        s!"● The table name should be '{r.table}', but your query uses '{s.table}'.\n"
        s!"💡 Change the table name to '{r.table}'.").correct := by
    split <;> simp [Report.empty]
  -- the other comparisons report on parts of other names, so they are peeled off one after another
  rw [compare, compareChecks, mem_correct_compareConstraints_iff, compareUniques,
    mem_correct_compareConstraints_iff, compareForeignKeys, mem_correct_compareConstraints_iff,
    keys_mem_correct_comparePrimaryKey_iff, keys_mem_correct_compareColumns_iff]
  simp only [hname, false_or, true_and, String.reduceEq, false_and, or_false]
  refine and_congr_right fun _ => ⟨fun h => ?_, fun hsame => ?_⟩
  · exact (foreignKeysMismatch_eq_empty_iff h.1).mp h.2
  · exact ⟨hsame.length_eq, (foreignKeysMismatch_eq_empty_iff hsame.length_eq).mpr hsame⟩

/-- One foreign key is taken for another if both are on the same columns, in any order, and
reference the same table and columns, in the same order. -/
theorem key_mem_correct_iff {a b : ForeignKey} (hr : r.foreignKeys = [a])
    (hs : s.foreignKeys = [b]) :
    "Foreign keys" ∈ (r.compare s).correct ↔
      a.table = b.table ∧ a.columns.Perm b.columns ∧ a.referenced = b.referenced := by
  rw [keys_mem_correct_iff, hr, hs, and_iff_right (List.cons_ne_nil a []),
    sameUnderKeys_singleton_iff ForeignKey.columnSet_eq_of_form, ForeignKey.form_eq_iff,
    ForeignKey.columnSet, ForeignKey.columnSet, sorted_eq_iff, and_left_comm]

/-- **When the verdict on two foreign keys is right.**  They are taken for correct if they are on
the same columns, in any order, and reference the same table and columns, in the same order. That is
right if both write their columns in one order. If they do not, keys that relate the same columns
are not taken for correct, and keys that are taken for correct do not relate the same columns. -/
theorem foreignKeys_correct_iff {a b : ForeignKey} (hr : r.foreignKeys = [a])
    (hs : s.foreignKeys = [b]) (ha : a.Proper) (hb : b.Proper) :
    let correct := "Foreign keys" ∈ (r.compare s).correct
    (correct ↔ a.table = b.table ∧ a.columns.Perm b.columns ∧ a.referenced = b.referenced) ∧
      (a.columns = b.columns → (correct ↔ a.SameRelation b)) ∧
      (a.columns ≠ b.columns → ¬ (correct ∧ a.SameRelation b)) := by
  intro correct
  have hcorrect : correct ↔ _ := key_mem_correct_iff hr hs
  -- a proper key is determined by either of its lists and the pairs
  refine ⟨hcorrect, fun hcolumns => ?_, fun hcolumns ⟨hpass, hrelation⟩ => ?_⟩
  · rw [hcorrect]
    constructor
    · rintro ⟨htable, -, hreferenced⟩
      have hpairs : a.pairs = b.pairs := by
        rw [ForeignKey.pairs, ForeignKey.pairs, hcolumns, hreferenced]
      exact ⟨htable, fun p => by rw [hpairs]⟩
    · intro hrelation
      exact ⟨hrelation.1, .of_eq hcolumns, hrelation.referenced_eq ha hb hcolumns⟩
  · exact hcolumns (hrelation.columns_eq ha hb (hcorrect.mp hpass).2.2)

/-- Both keys write their columns in one order, and the referenced columns in two. -/
theorem foreignKeys_correct_iff_sameOrder :
    let a : ForeignKey := ⟨["a", "b"], "u", ["x", "y"]⟩
    let b : ForeignKey := ⟨["a", "b"], "u", ["y", "x"]⟩
    let r : CreateTable := { blank "t" with foreignKeys := [a] }
    let s : CreateTable := { blank "t" with foreignKeys := [b] }
    a.Proper ∧ b.Proper ∧ "Foreign keys" ∉ (r.compare s).correct ∧ ¬ a.SameRelation b := by
  intro a b r s
  have ha : a.Proper := ⟨rfl, by decide, by decide⟩
  have hb : b.Proper := ⟨rfl, by decide, by decide⟩
  obtain ⟨hcorrect, hsame, -⟩ := foreignKeys_correct_iff (r := r) (s := s) rfl rfl ha hb
  have hnot : "Foreign keys" ∉ (r.compare s).correct :=
    fun h => absurd (hcorrect.mp h).2.2 (by decide)
  exact ⟨ha, hb, hnot, fun hrelation => hnot ((hsame rfl).mpr hrelation)⟩

/-- The columns are written in another order: with the referenced ones left as they are, the key
relates other columns and is taken for correct; with those in the new order as well, it relates the
same and is not. -/
theorem foreignKeys_correct_crossed :
    let a : ForeignKey := ⟨["a", "b"], "u", ["x", "y"]⟩
    let b : ForeignKey := ⟨["b", "a"], "u", ["x", "y"]⟩
    let c : ForeignKey := ⟨["b", "a"], "u", ["y", "x"]⟩
    let table : ForeignKey → CreateTable := fun k => { blank "t" with foreignKeys := [k] }
    "Foreign keys" ∈ ((table a).compare (table b)).correct ∧ ¬ a.SameRelation b ∧
      "Foreign keys" ∉ ((table a).compare (table c)).correct ∧ a.SameRelation c := by
  intro a b c table
  have hverdict : ∀ k, "Foreign keys" ∈ ((table a).compare (table k)).correct ↔ _ :=
    fun k => key_mem_correct_iff (a := a) (b := k) rfl rfl
  refine ⟨(hverdict b).mpr ⟨rfl, .swap _ _ _, rfl⟩, fun h => ?_, fun h => ?_, rfl, fun p => ?_⟩
  · exact absurd ((h.2 ("a", "x")).mp (by decide)) (by decide)
  · exact absurd ((hverdict c).mp h).2.2 (by decide)
  · exact (List.Perm.swap ("b", "y") ("a", "x") []).mem_iff

end CreateTable

end QueryGrading
