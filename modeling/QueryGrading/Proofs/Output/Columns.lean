import QueryGrading.Proofs.Output.Comparison

/-!
# Tables up to the order of columns

Sorting the columns of a table is nothing but putting them in some order, the same in every row
(`exists_sortColumns_eq`), and another order undoes it (`exists_takeColumns_eq`). So two tables with
the same canonical form differ in the order of their columns and, unless it counts, of their rows,
and in nothing else: `equal_up_to_columns` states this of `Grid.compare`, in both directions.

The functions meant are `transpose` and `canonicalize`, where the columns are the rows of the
transposed grid, sorted as lists of cells and transposed back, and `compare_rows`, which goes on
with the canonical forms. Rows of different lengths are not transposed; those are in
`Proofs.Output.Conservation`.
-/

namespace QueryGrading

namespace Grid

variable {w w₁ w₂ : Nat} {g a b : Grid} {ordered : Bool} {js ks : List Nat}

/-! ## 1. Columns in another order

A reordering of columns is a list of column numbers, the same for all rows. Such reorderings can be
put together and undone. -/

/-- The grid with its columns in another order: column `i` of the result is column `js[i]`. -/
def takeColumns (js : List Nat) (g : Grid) : Grid := g.map fun r => js.map fun j => r.getD j ""

theorem length_takeColumns (js : List Nat) (g : Grid) : (g.takeColumns js).length = g.length :=
  List.length_map _

theorem takeColumns_perm (js : List Nat) (h : a.Perm b) :
    (a.takeColumns js).Perm (b.takeColumns js) :=
  h.map _

/-- The columns in their own order give the table itself. -/
theorem takeColumns_range (h : ∀ r ∈ g, r.length = w) : g.takeColumns (List.range w) = g := by
  refine (List.map_congr_left fun r hr => ?_).trans (List.map_id g)
  rw [← h r hr]
  exact map_getD_range r ""

/-- Columns of columns are columns of the table itself. -/
theorem takeColumns_takeColumns (h : ∀ k ∈ ks, k < js.length) :
    (g.takeColumns js).takeColumns ks = g.takeColumns (ks.map fun k => js.getD k 0) := by
  rw [takeColumns, takeColumns, takeColumns, List.map_map]
  refine List.map_congr_left fun r _ => ?_
  rw [List.map_map]
  refine List.map_congr_left fun k hk => ?_
  have hlt := h k hk
  simp [List.getD_eq_getElem?_getD, hlt]

/-- Every order of the columns is undone by another one. -/
theorem exists_takeColumns_eq (hjs : js.Perm (List.range w)) :
    ∃ ks, ks.Perm (List.range w) ∧
      ∀ g : Grid, (∀ r ∈ g, r.length = w) → (g.takeColumns js).takeColumns ks = g := by
  have hlen : js.length = w := by simpa using hjs.length_eq
  have hperm : (List.range w).Perm ((List.range w).map fun k => js.getD k 0) := by
    rw [← hlen, map_getD_range, hlen]
    exact hjs.symm
  obtain ⟨ks, hks, heq⟩ := exists_perm_map_eq hperm
  have hlt : ∀ k ∈ ks, k < js.length := fun k hk => hlen ▸ List.mem_range.mp (hks.mem_iff.mp hk)
  refine ⟨ks, hks, fun g hg => ?_⟩
  rw [takeColumns_takeColumns hlt, ← heq, takeColumns_range hg]

theorem IsTable.takeColumns (h : IsTable w g) (hjs : js.Perm (List.range w)) :
    IsTable w (g.takeColumns js) where
  rows := by
    rw [← List.length_pos_iff, length_takeColumns]
    exact h.length_pos
  columns := h.columns
  uniform := by
    intro r hr
    obtain ⟨s, -, rfl⟩ := List.mem_map.mp hr
    simpa using hjs.length_eq

/-! ## 2. Sorting the columns

`canonicalize` transposes a grid, sorts its columns as rows, and transposes it back. On a table this
comes to some reordering of the columns, and a reordering that was made before is not seen. -/

/-- The columns of a table in another order are its columns, permuted. -/
theorem columns_takeColumns_perm (h : IsTable w g) (hjs : js.Perm (List.range w)) :
    (g.takeColumns js).columns.Perm g.columns := by
  have hlen : js.length = w := by simpa using hjs.length_eq
  have hcols : (g.takeColumns js).columns = js.map fun j => g.map fun r => r.getD j "" := by
    rw [(h.takeColumns hjs).columns_eq]
    conv_rhs => rw [← map_getD_range js 0, hlen, List.map_map]
    refine List.map_congr_left fun i hi => ?_
    rw [Grid.takeColumns, List.map_map]
    have hlt : i < js.length := hlen ▸ List.mem_range.mp hi
    simp [List.getD_eq_getElem?_getD, hlt]
  rw [hcols, h.columns_eq]
  exact hjs.map _

/-- Reading off the columns of some columns of a table gives its rows back. -/
theorem columns_columns (h : IsTable w g) (hjs : js.Perm (List.range w)) :
    columns (js.map fun j => g.map fun r => r.getD j "") = g.takeColumns js := by
  have hlen : js.length = w := by simpa using hjs.length_eq
  have ht : IsTable g.length (js.map fun j => g.map fun r => r.getD j "") :=
    { rows := by
        rw [← List.length_pos_iff, List.length_map, hlen]
        exact h.columns
      columns := h.length_pos
      uniform := by simp }
  rw [ht.columns_eq]
  conv_rhs => rw [← map_getD_range g [], Grid.takeColumns, List.map_map]
  refine List.map_congr_left fun i hi => ?_
  rw [List.map_map]
  refine List.map_congr_left fun j _ => ?_
  have hlt := List.mem_range.mp hi
  simp [List.getD_eq_getElem?_getD, hlt]

/-- **Sorting the columns puts them in some order**, the same in every row. -/
theorem exists_sortColumns_eq (h : IsTable w g) :
    ∃ js, js.Perm (List.range w) ∧ g.sortColumns = g.takeColumns js := by
  have hperm := sortedRows_perm g.columns
  rw [h.columns_eq] at hperm
  obtain ⟨js, hjs, hsorted⟩ := exists_perm_map_eq hperm
  refine ⟨js, hjs, ?_⟩
  rw [Grid.sortColumns, if_pos h.isUniform, h.columns_eq, hsorted, columns_columns h hjs]

/-- The order of the columns does not matter to the table with sorted columns. -/
theorem sortColumns_takeColumns (h : IsTable w g) (hjs : js.Perm (List.range w)) :
    (g.takeColumns js).sortColumns = g.sortColumns := by
  rw [Grid.sortColumns, Grid.sortColumns, if_pos h.isUniform, if_pos (h.takeColumns hjs).isUniform,
    (sortedRows_eq_iff _ _).mpr (columns_takeColumns_perm h hjs)]

theorem IsTable.length_sortColumns (h : IsTable w g) : g.sortColumns.length = g.length := by
  obtain ⟨js, -, heq⟩ := exists_sortColumns_eq h
  rw [heq, length_takeColumns]

theorem IsTable.length_canonical (h : IsTable w g) (ordered : Bool) :
    (g.canonical ordered).length = g.length := by
  cases ordered with
  | true => exact h.length_sortColumns
  | false => exact (sortedRows_perm _).length_eq.trans h.length_sortColumns

/-! ## 3. Equal canonical forms

The rows are sorted or kept as they are, so the canonical form is the table up to both orders. -/

/-- The canonical form of a table is the table with its columns in some order, and its rows too
unless their order counts. -/
theorem exists_canonical_perm (h : IsTable w g) (ordered : Bool) :
    ∃ js, js.Perm (List.range w) ∧ (g.canonical ordered).Perm (g.takeColumns js) ∧
      (ordered = true → g.canonical ordered = g.takeColumns js) := by
  obtain ⟨js, hjs, heq⟩ := exists_sortColumns_eq h
  refine ⟨js, hjs, ?_⟩
  rw [← heq]
  cases ordered with
  | true => exact ⟨List.Perm.refl _, fun _ => rfl⟩
  | false => exact ⟨sortedRows_perm _, fun ho => absurd ho (by decide)⟩

/-- Tables of one width with the same canonical form differ in the order of columns and rows
only. -/
theorem exists_takeColumns_perm (ha : IsTable w a) (hb : IsTable w b)
    (h : a.canonical ordered = b.canonical ordered) :
    ∃ js, js.Perm (List.range w) ∧ (a.takeColumns js).Perm b ∧
      (ordered = true → a.takeColumns js = b) := by
  obtain ⟨ja, hja, hpa, hoa⟩ := exists_canonical_perm ha ordered
  obtain ⟨jb, hjb, hpb, hob⟩ := exists_canonical_perm hb ordered
  obtain ⟨ks, hks, hundo⟩ := exists_takeColumns_eq hjb
  have hlen : ja.length = w := by simpa using hja.length_eq
  have hlt : ∀ k ∈ ks, k < ja.length := fun k hk => hlen ▸ List.mem_range.mp (hks.mem_iff.mp hk)
  -- the columns of `a` first in canonical order, then in the order of `b`
  have hcomp : (a.takeColumns ja).takeColumns ks = a.takeColumns (ks.map fun k => ja.getD k 0) :=
    takeColumns_takeColumns hlt
  refine ⟨ks.map fun k => ja.getD k 0, ?_, ?_, fun ho => ?_⟩
  · have hmap := hks.map fun k => ja.getD k 0
    rw [← hlen, map_getD_range] at hmap
    exact hmap.trans hja
  · rw [← hcomp, ← hundo b hb.uniform]
    exact takeColumns_perm ks ((hpa.symm.trans (List.Perm.of_eq h)).trans hpb)
  · rw [← hcomp, ← hundo b hb.uniform, ← hoa ho, ← hob ho, h]

/-! ## 4. When tables compare as equal

With the size fixed by the canonical form, equality can be read in both directions. -/

/-- Equal tables have the same size. -/
theorem width_eq_of_canonical_eq (ha : IsTable w₁ a) (hb : IsTable w₂ b)
    (h : a.canonical ordered = b.canonical ordered) : w₁ = w₂ := by
  have hca := (ha.isTable_canonical ordered).width_eq
  have hcb := (hb.isTable_canonical ordered).width_eq
  rw [← hca, ← hcb, h]

/-- **Equal means equal up to the order of columns and, unless it counts, of rows.**  Two grids
whose rows have one length within each grid compare as equal only if they have as many rows and
columns and the second is the first with its columns, and perhaps its rows, in another order. If
only the columns are in another order, they do compare as equal. -/
theorem equal_up_to_columns (hw₁ : 0 < w₁) (hw₂ : 0 < w₂) (ha : ∀ r ∈ a, r.length = w₁)
    (hb : ∀ r ∈ b, r.length = w₂) :
    (∀ ordered, (compare ordered a b).equal = true →
      a.length = b.length ∧ a.width = b.width ∧
      ∃ js, js.Perm (List.range a.width) ∧ (a.takeColumns js).Perm b ∧
        (ordered = true → a.takeColumns js = b)) ∧
    (∀ js, js.Perm (List.range a.width) → b = a.takeColumns js →
      ∀ ordered, (compare ordered a b).equal = true) := by
  by_cases ha₀ : a = []
  · subst ha₀
    refine ⟨fun ordered h => ?_, fun js _ hjs ordered => ?_⟩
    · match b, h with
      | [], _ => exact ⟨rfl, rfl, [], List.Perm.refl _, List.Perm.refl _, fun _ => rfl⟩
    · rw [hjs]
      rfl
  -- from here on the first grid has a row, and so has the second one
  have hta : IsTable w₁ a := ⟨ha₀, hw₁, ha⟩
  refine ⟨fun ordered h => ?_, fun js hjs hb' ordered => ?_⟩
  · have hb₀ : b ≠ [] := by
      rintro rfl
      match a, ha₀, h with
      | _ :: _, _, h => cases h
    have htb : IsTable w₂ b := ⟨hb₀, hw₂, hb⟩
    have hcanon := (compare_equal_iff hta htb).mp h
    obtain rfl := width_eq_of_canonical_eq hta htb hcanon
    obtain ⟨js, hjs, hperm, heq⟩ := exists_takeColumns_perm hta htb hcanon
    refine ⟨?_, hta.width_eq.trans htb.width_eq.symm, js, hta.width_eq.symm ▸ hjs, hperm, heq⟩
    rw [← length_takeColumns js a, hperm.length_eq]
  · rw [hta.width_eq] at hjs
    -- the other direction: an order of the columns does not show in the canonical form
    subst hb'
    rw [compare_equal_iff hta (hta.takeColumns hjs)]
    simp only [canonical, sortColumns_takeColumns hta hjs]

/-- Two columns change places: the grids are equal even where the order of rows counts. -/
theorem equal_up_to_columns_swapped :
    (compare true [["1", "Ada"], ["2", "Grace"]] [["Ada", "1"], ["Grace", "2"]]).equal = true ∧
    ∃ js, js.Perm (List.range (width [["1", "Ada"], ["2", "Grace"]])) ∧
      takeColumns js [["1", "Ada"], ["2", "Grace"]] = [["Ada", "1"], ["Grace", "2"]] := by
  have h := equal_up_to_columns (a := [["1", "Ada"], ["2", "Grace"]])
    (b := [["Ada", "1"], ["Grace", "2"]]) Nat.two_pos Nat.two_pos (by decide) (by decide)
  have hequal := h.2 [1, 0] (by decide) rfl true
  obtain ⟨-, -, js, hjs, -, htake⟩ := h.1 true hequal
  exact ⟨hequal, js, hjs, htake rfl⟩

end Grid

end QueryGrading
