import QueryGrading.Proofs.Output.Columns

/-!
# When all expected rows are there

`Grid.embeds` takes the first fit for each row, and that is enough: it finds an embedding whenever
there is one (`embeds_iff`), that is, whenever the rows can be given places in ascending order where
they fit (`embeds_iff_exists_places`). Among sorted rows of one length it says that no row is
missing (`embeds_sortedRows_iff`).

A table that holds all expected rows and more never compares as equal. But it counts as holding them
only where both tables put their columns in orders that leave the expected rows among the others:
the further rows take part in ranking the columns. `superset_iff` states this exactly.

The search is `is_sequence_contained`, one walk through the rows of the larger grid with the next
row to be found, and a row fits where `contains_window` finds it in another one without a gap. The
two grids are in canonical order when `compare_rows` asks for it.
-/

namespace QueryGrading

/-! ## 1. Runs

`windows` on a list finds a part that stands without a gap. -/

/-- A run is what stands in the list without a gap. -/
theorem hasRun_iff {α : Type} [BEq α] [LawfulBEq α] {run xs : List α} :
    hasRun run xs = true ↔ run <:+: xs := by
  induction xs with
  | nil => simp [hasRun]
  | cons x rest ih =>
    rw [hasRun, Bool.or_eq_true, ih, List.isPrefixOf_iff_prefix, List.infix_cons_iff]

/-- A run as long as the whole list is the list. -/
theorem hasRun_iff_eq {r s : Row} (h : r.length = s.length) : hasRun r s = true ↔ r = s := by
  rw [hasRun_iff]
  constructor
  · exact fun hi => hi.eq_of_length h
  · rintro rfl
    exact List.infix_refl r

namespace Grid

variable {w : Nat} {a b c : Grid} {r s : Row}

/-! ## 2. The first fit

`is_sequence_contained` takes the first row that fits for each row in turn. It may do so: if a later
one would do, the first one does too, and leaves more behind it. -/

/-- Each row is a run in the row at its place. -/
def FitsIn (a c : Grid) : Prop := List.Forall₂ (fun r s => hasRun r s = true) a c

/-- The first row that fits may be taken: what is left can do without it. -/
theorem exists_sublist_fitsIn_cons (h : hasRun r s = true) :
    (∃ c : Grid, c.Sublist (s :: b) ∧ FitsIn (r :: a) c) ↔
      ∃ c : Grid, c.Sublist b ∧ FitsIn a c := by
  constructor
  · rintro ⟨c, hsub, hfit⟩
    obtain ⟨t, d, -, hrest, rfl⟩ := List.forall₂_cons_left_iff.mp hfit
    exact ⟨d, hsub.tail, hrest⟩
  · rintro ⟨c, hsub, hfit⟩
    exact ⟨s :: c, hsub.cons_cons s, .cons h hfit⟩

/-- **The search finds an embedding whenever there is one.** -/
theorem embeds_iff : ∀ {a b : Grid},
    a.embeds b = true ↔ ∃ c : Grid, c.Sublist b ∧ FitsIn a c
  | [], b => by
    simp only [embeds, true_iff]
    exact ⟨[], List.nil_sublist b, .nil⟩
  | _ :: _, [] => by simp [embeds, FitsIn]
  | r :: a, s :: b => by
    rw [embeds]
    split
    · -- the first fit is taken
      next h => rw [embeds_iff, exists_sublist_fitsIn_cons h]
    · -- the row does not fit here, so no embedding uses this place for it
      next h =>
      rw [embeds_iff]
      constructor
      · rintro ⟨c, hsub, hfit⟩
        exact ⟨c, hsub.cons s, hfit⟩
      · rintro ⟨c, hsub, hfit⟩
        obtain ⟨t, d, hrun, -, rfl⟩ := List.forall₂_cons_left_iff.mp hfit
        rcases List.sublist_cons_iff.mp hsub with hsub | ⟨_, heq, -⟩
        · exact ⟨_, hsub, hfit⟩
        · cases heq
          exact absurd hrun h

/-- Rows are chosen from a grid in their order where their places ascend. -/
theorem exists_sublist_fitsIn_iff : (∃ c : Grid, c.Sublist b ∧ FitsIn a c) ↔
    ∃ place : Fin a.length → Fin b.length,
      StrictMono place ∧ ∀ i, a.get i <:+: b.get (place i) := by
  constructor
  · rintro ⟨c, hsub, hfit⟩
    obtain ⟨hlen, hrun⟩ := List.forall₂_iff_get.mp hfit
    obtain ⟨f, hf⟩ := List.sublist_iff_exists_fin_orderEmbedding_get_eq.mp hsub
    refine ⟨f ∘ Fin.cast hlen, f.strictMono.comp (Fin.cast_strictMono hlen), fun i => ?_⟩
    rw [← hasRun_iff, Function.comp_apply, ← hf]
    exact hrun i i.isLt (hlen ▸ i.isLt)
  · rintro ⟨place, hmono, hrun⟩
    have hlen : (List.ofFn (b.get ∘ place)).length = a.length := List.length_ofFn
    refine ⟨List.ofFn (b.get ∘ place), ?_, ?_⟩
    · have hmono' : StrictMono (place ∘ Fin.cast hlen) := hmono.comp (Fin.cast_strictMono hlen)
      refine List.sublist_iff_exists_fin_orderEmbedding_get_eq.mpr
        ⟨OrderEmbedding.ofStrictMono _ hmono', fun i => ?_⟩
      simp only [List.get_eq_getElem, List.getElem_ofFn, Function.comp_apply,
        OrderEmbedding.coe_ofStrictMono]
      rfl
    · refine List.forall₂_iff_get.mpr ⟨hlen.symm, fun i hi _ => ?_⟩
      simpa [hasRun_iff] using hrun ⟨i, hi⟩

/-- **The first fit never misses an embedding.**  It succeeds just where the rows can be given
places in ascending order, each at a row in which it stands without a gap; an empty row fits
everywhere. -/
theorem embeds_iff_exists_places (a b : Grid) :
    a.embeds b = true ↔ ∃ place : Fin a.length → Fin b.length,
      StrictMono place ∧ ∀ i, a.get i <:+: b.get (place i) := by
  rw [embeds_iff, exists_sublist_fitsIn_iff]

/-- Among rows of one length only a row itself is a run. -/
theorem fitsIn_iff_eq (ha : ∀ r ∈ a, r.length = w) (hc : ∀ r ∈ c, r.length = w) :
    FitsIn a c ↔ a = c := by
  constructor
  · intro h
    induction h with
    | nil => rfl
    | cons hrun _ ih =>
      obtain ⟨hr, ha⟩ := List.forall_mem_cons.mp ha
      obtain ⟨hs, hc⟩ := List.forall_mem_cons.mp hc
      rw [(hasRun_iff_eq (hr.trans hs.symm)).mp hrun, ih ha hc]
  · rintro rfl
    exact List.forall₂_same.mpr fun r _ => (hasRun_iff_eq rfl).mpr rfl

theorem embeds_iff_sublist (ha : ∀ r ∈ a, r.length = w) (hb : ∀ r ∈ b, r.length = w) :
    a.embeds b = true ↔ a.Sublist b := by
  rw [embeds_iff]
  constructor
  · rintro ⟨c, hsub, hfit⟩
    have hc : ∀ r ∈ c, r.length = w := fun r hr => hb r (hsub.subset hr)
    rwa [(fitsIn_iff_eq ha hc).mp hfit]
  · exact fun hsub => ⟨a, hsub, (fitsIn_iff_eq ha ha).mpr rfl⟩

/-- **Among sorted rows of one length, the search asks whether any row is missing.** -/
theorem embeds_sortedRows_iff (ha : ∀ r ∈ a, r.length = w) (hb : ∀ r ∈ b, r.length = w) :
    embeds (sortedRows a) (sortedRows b) = true ↔ a.Subperm b := by
  have hpa := sortedRows_perm a
  have hpb := sortedRows_perm b
  rw [embeds_iff_sublist (fun r hr => ha r (hpa.mem_iff.mp hr))
    (fun r hr => hb r (hpb.mem_iff.mp hr)), ← hpa.subperm_right, ← hpb.subperm_left]
  constructor
  · exact List.Sublist.subperm
  · intro h
    exact List.sublist_of_subperm_of_pairwise h (sortedRows_pairwise a) (sortedRows_pairwise b)

/-! ## 3. More rows than expected

A table with more rows is never equal. Whether it is found to hold the expected ones is a question
of the sorted columns. -/

/-- What a comparison without regard to the order of rows says of a table with more rows: it is not
equal, and it holds the expected rows just where they are among its rows once each table has sorted
its own columns. -/
theorem compare_longer (ha : IsTable w a) (hb : IsTable w b) (hmore : a.length < b.length) :
    (compare false a b).equal = false ∧
      ((compare false a b).subset = true ↔ a.sortColumns.Subperm b.sortColumns) := by
  refine ⟨Bool.eq_false_iff.mpr fun h => ?_, ?_⟩
  · -- equal tables have as many rows
    have hcanon := congrArg List.length ((compare_equal_iff ha hb).mp h)
    rw [ha.length_canonical, hb.length_canonical] at hcanon
    omega
  · have hsubset : (compare false a b).subset = (a.canonical false).isPart (b.canonical false) := by
      rw [compare_eq false ha.rows hb.rows]
      exact congrArg (·.2.1) (verdict_compareCanonical _ _)
    have hca := ha.isTable_canonical false
    have hcb := hb.isTable_canonical false
    rw [hsubset, isPart, ha.length_canonical, hb.length_canonical, hca.width_eq, hcb.width_eq,
      ← embeds_sortedRows_iff ha.isTable_sortColumns.uniform hb.isTable_sortColumns.uniform]
    simp [hmore.le, canonical]

/-- **What is said of a table with all expected rows and more.**  It is not equal. The expected rows
are found just where they are still among its rows once each table has sorted its own columns; so
they are found where one order of the columns sorts both tables. -/
theorem superset_iff (ha : IsTable w a) (hb : ∀ r ∈ b, r.length = w) (hsub : a.Subperm b)
    (hmore : a.length < b.length) :
    (compare false a b).equal = false ∧
      ((compare false a b).subset = true ↔ a.sortColumns.Subperm b.sortColumns) ∧
      (∀ js, a.sortColumns = a.takeColumns js → b.sortColumns = b.takeColumns js →
        (compare false a b).subset = true) := by
  have hb₀ : b ≠ [] := List.length_pos_iff.mp (by omega)
  obtain ⟨hequal, hsubset⟩ := compare_longer ha ⟨hb₀, ha.columns, hb⟩ hmore
  refine ⟨hequal, hsubset, fun js hja hjb => ?_⟩
  rw [hsubset, hja, hjb]
  obtain ⟨c, hperm, hsub⟩ := hsub
  exact ⟨takeColumns js c, takeColumns_perm js hperm, hsub.map _⟩

/-- Both tables exchange their two columns, and so a further row does no harm. -/
theorem superset_iff_exchanged :
    let expected : Grid := [["2", "1"], ["4", "3"]]
    let actual : Grid := [["6", "5"], ["4", "3"], ["2", "1"]]
    IsTable 2 expected ∧ expected.Subperm actual ∧
      expected.sortColumns = expected.takeColumns [1, 0] ∧
      actual.sortColumns = actual.takeColumns [1, 0] ∧
      (compare false expected actual).equal = false ∧
      (compare false expected actual).subset = true := by
  intro expected actual
  have ht : IsTable 2 expected := ⟨by decide, by decide, by decide⟩
  have hsub : expected.Subperm actual := by decide
  have ha : expected.sortColumns = expected.takeColumns [1, 0] := by cbv
  have hb : actual.sortColumns = actual.takeColumns [1, 0] := by cbv
  have h := superset_iff ht (by decide) hsub (by decide)
  exact ⟨ht, hsub, ha, hb, h.1, h.2.2 [1, 0] ha hb⟩

/-- A further row that comes first can rank the columns another way, and then the expected row is
not found. -/
theorem superset_missed :
    IsTable 2 [["1", "2"]] ∧ (∀ r ∈ [["3", "1"], ["1", "2"]], r.length = 2) ∧
    List.Subperm [["1", "2"]] [["3", "1"], ["1", "2"]] ∧
    (compare false [["1", "2"]] [["3", "1"], ["1", "2"]]).verdict = (false, false, 4) :=
  ⟨⟨by decide, by decide, by decide⟩, by decide, by decide, by cbv⟩

end Grid

end QueryGrading
