import QueryGrading.Proofs.Output.Columns
import QueryGrading.Proofs.Output.Overlap

/-!
# What the canonical order keeps

Putting a grid in canonical order moves its columns and its rows and does nothing else: the cells
stay the same, and the rows are the old ones with their columns in one common order
(`exists_canonical_pick`, for rows of any lengths). The exception is a blank grid, one with rows but
not one cell. It has no columns to be put together again, so all its rows are lost
(`IsBlank.canonical_eq`).

A comparison counts cells, and a row without a cell counts nothing. So grids that compare as equal
have as many rows with a cell (`filledRows_eq_of_equal`), and as many rows if they have as many
empty ones. `canonical_keeps_iff` puts both together.

The rows are lost in `transpose`, which takes the number of columns from the first row and makes one
row of each: of no columns it makes no rows, and transposing again does not bring them back.
`canonicalize` transposes twice where all rows have one length, zero included.
-/

namespace QueryGrading

namespace Grid

variable {w : Nat} {g a b : Grid} {r : Row} {js : List Nat} {ordered : Bool}

/-! ## 1. Columns of rows of any lengths

In rows of different lengths a column has no cell in some rows. Moving columns is said so that it
drops nothing there. -/

/-- The cells that each row has in these columns, in this order. -/
def pickColumns (js : List Nat) (g : Grid) : Grid := g.map fun r => js.filterMap (r[·]?)

/-- A row has no cells behind its end. -/
theorem filterMap_getElem?_range (r : Row) {n : Nat} (h : r.length ≤ n) :
    (List.range n).filterMap (r[·]?) = r := by
  obtain ⟨k, rfl⟩ := Nat.exists_eq_add_of_le h
  have hinside : (List.range r.length).filterMap (r[·]?) = r := by
    conv_rhs => rw [← map_getD_range r "", ← List.filterMap_eq_map]
    refine List.filterMap_congr fun j hj => ?_
    have hlt := List.mem_range.mp hj
    simp [List.getD_eq_getElem?_getD, hlt]
  have hbehind : ((List.range k).map (r.length + ·)).filterMap (r[·]?) = [] := by
    rw [List.filterMap_eq_nil_iff]
    intro j hj
    obtain ⟨i, -, rfl⟩ := List.mem_map.mp hj
    exact List.getElem?_eq_none (Nat.le_add_right _ _)
  rw [List.range_add, List.filterMap_append, hinside, hbehind, List.append_nil]

/-- In another order of the columns a row keeps its cells. -/
theorem filterMap_getElem?_perm (hjs : js.Perm (List.range g.width)) (hr : r ∈ g) :
    (js.filterMap (r[·]?)).Perm r := by
  have h := hjs.filterMap (r[·]?)
  rwa [filterMap_getElem?_range r (length_le_width hr)] at h

/-- The columns in their own order give the grid itself. -/
theorem pickColumns_range (g : Grid) : g.pickColumns (List.range g.width) = g := by
  refine (List.map_congr_left fun r hr => ?_).trans (List.map_id g)
  exact filterMap_getElem?_range r (length_le_width hr)

/-- In a table every row has a cell in every column. -/
theorem IsTable.pickColumns_eq (h : IsTable w g) (hjs : js.Perm (List.range w)) :
    g.pickColumns js = g.takeColumns js := by
  refine List.map_congr_left fun r hr => ?_
  rw [← List.filterMap_eq_map]
  refine List.filterMap_congr fun j hj => ?_
  have hlt : j < r.length := h.uniform r hr ▸ List.mem_range.mp (hjs.mem_iff.mp hj)
  simp [List.getD_eq_getElem?_getD, hlt]

/-- Moving columns moves cells inside their rows. -/
theorem flatten_pickColumns_perm (hjs : js.Perm (List.range g.width)) :
    (g.pickColumns js).flatten.Perm g.flatten := by
  have h := List.Perm.flatMap_left g fun r hr => filterMap_getElem?_perm hjs hr
  rwa [List.flatMap_id', List.flatMap_def] at h

/-! ## 2. The canonical order

The canonical order is followed on grids of all three shapes: blank, of one length, and of several.
-/

/-- The grid has rows, but not one cell. -/
def IsBlank (g : Grid) : Prop := g ≠ [] ∧ ∀ r ∈ g, r = []

theorem IsBlank.isUniform (h : g.IsBlank) : g.isUniform = true := by
  obtain ⟨hne, hall⟩ := h
  cases g with
  | nil => exact absurd rfl hne
  | cons row rest =>
    obtain ⟨rfl, hrest⟩ := List.forall_mem_cons.mp hall
    rw [Grid.isUniform, List.all_eq_true]
    intro r hr
    rw [hrest r hr]
    rfl

/-- Rows of one length are none at all, or without a cell, or those of a table. -/
theorem isUniform_cases (h : g.isUniform = true) : g = [] ∨ g.IsBlank ∨ ∃ w, IsTable w g := by
  cases g with
  | nil => exact .inl rfl
  | cons row rest =>
    have hlen : ∀ r ∈ row :: rest, r.length = row.length := by
      rw [List.forall_mem_cons]
      exact ⟨rfl, by simpa [Grid.isUniform] using h⟩
    have hne : row :: rest ≠ [] := List.cons_ne_nil row rest
    rcases Nat.eq_zero_or_pos row.length with hzero | hpos
    · exact .inr (.inl ⟨hne, fun r hr => List.eq_nil_of_length_eq_zero ((hlen r hr).trans hzero)⟩)
    · exact .inr (.inr ⟨row.length, hne, hpos, hlen⟩)

/-- **A blank grid loses its rows**: without columns nothing says how many rows there were. -/
theorem IsBlank.canonical_eq (h : g.IsBlank) (ordered : Bool) : g.canonical ordered = [] := by
  have hcolumns : g.columns = [] := by
    cases g with
    | nil => rfl
    | cons row rest =>
      obtain ⟨rfl, -⟩ := List.forall_mem_cons.mp h.2
      rfl
  have hsorted : g.sortColumns = [] := by
    rw [sortColumns, if_pos h.isUniform, hcolumns, sortedRows, List.mergeSort_nil, columns]
  cases ordered <;> simp [canonical, hsorted, sortedRows]

/-- **Every other grid keeps its rows**, with their columns in one common order, and with their own
columns in place where they have different lengths. -/
theorem exists_sortColumns_pick (h : ¬ g.IsBlank) :
    ∃ js, js.Perm (List.range g.width) ∧ g.sortColumns = g.pickColumns js ∧
      (g.isUniform = false → js = List.range g.width) := by
  by_cases huniform : g.isUniform = true
  · have hno : ∀ js : List Nat, g.isUniform = false → js = List.range g.width := fun js hragged =>
      absurd huniform (by rw [hragged]; exact Bool.false_ne_true)
    rcases isUniform_cases huniform with rfl | hblank | ⟨w, ht⟩
    · refine ⟨[], List.Perm.refl _, ?_, hno []⟩
      rw [sortColumns, if_pos huniform, columns, sortedRows, List.mergeSort_nil, columns]
      rfl
    · exact absurd hblank h
    · obtain ⟨js, hjs, heq⟩ := exists_sortColumns_eq ht
      refine ⟨js, ?_, heq.trans (ht.pickColumns_eq hjs).symm, hno js⟩
      rwa [ht.width_eq]
  · refine ⟨List.range g.width, List.Perm.refl _, ?_, fun _ => rfl⟩
    rw [sortColumns, if_neg huniform, pickColumns_range]

theorem canonical_perm (ordered : Bool) (g : Grid) : (g.canonical ordered).Perm g.sortColumns := by
  cases ordered with
  | true => exact List.Perm.refl _
  | false => exact sortedRows_perm _

theorem exists_canonical_pick (h : ¬ g.IsBlank) (ordered : Bool) :
    ∃ js, js.Perm (List.range g.width) ∧ (g.canonical ordered).Perm (g.pickColumns js) := by
  obtain ⟨js, hjs, heq, -⟩ := exists_sortColumns_pick h
  exact ⟨js, hjs, heq ▸ canonical_perm ordered g⟩

/-- **No cell is lost, and none is invented**, also of a blank grid, which has none. -/
theorem flatten_canonical_perm (ordered : Bool) (g : Grid) :
    (g.canonical ordered).flatten.Perm g.flatten := by
  by_cases h : g.IsBlank
  · rw [h.canonical_eq, List.flatten_nil, List.flatten_eq_nil_iff.mpr h.2]
  · obtain ⟨js, hjs, hperm⟩ := exists_canonical_pick h ordered
    exact hperm.flatten.trans (flatten_pickColumns_perm hjs)

/-- The number of rows is kept just where the grid is not blank. -/
theorem length_canonical_iff (ordered : Bool) (g : Grid) :
    (g.canonical ordered).length = g.length ↔ ¬ g.IsBlank := by
  constructor
  · intro hlen h
    rw [h.canonical_eq, List.length_nil] at hlen
    exact h.1 (List.eq_nil_of_length_eq_zero hlen.symm)
  · intro h
    obtain ⟨js, -, hperm⟩ := exists_canonical_pick h ordered
    rw [hperm.length_eq, pickColumns, List.length_map]

/-! ## 3. Rows with a cell

How many rows have a cell can be read off the overlap of two grids, even where the rows differ in
length. This is what two grids that compare as equal have in common. -/

/-- The number of rows that have a cell. -/
def filledRows (g : Grid) : Nat := g.countP fun r => !r.isEmpty

/-- Every row has a cell or is empty. -/
theorem filledRows_add_count (g : Grid) : g.filledRows + g.count [] = g.length := by
  rw [filledRows, List.count, List.length_eq_countP_add_countP (fun r : Row => !r.isEmpty) (l := g)]
  congr 1
  refine List.countP_congr fun r _ => ?_
  cases r <;> simp

/-- No row has a cell just where all are empty. -/
theorem filledRows_eq_zero_iff : g.filledRows = 0 ↔ ∀ r ∈ g, r = [] := by
  simp [filledRows, List.countP_eq_zero]

/-- The canonical order keeps rows with a cell. -/
theorem filledRows_canonical (ordered : Bool) (g : Grid) :
    (g.canonical ordered).filledRows = g.filledRows := by
  by_cases h : g.IsBlank
  · rw [h.canonical_eq, filledRows_eq_zero_iff.mpr h.2]
    rfl
  · obtain ⟨js, hjs, hperm⟩ := exists_canonical_pick h ordered
    rw [filledRows, hperm.countP_eq, pickColumns, List.countP_map, filledRows]
    refine List.countP_congr fun r hr => ?_
    simp only [Function.comp_apply, (filterMap_getElem?_perm hjs hr).isEmpty_eq]

theorem filledRows_cons (r : Row) (g : Grid) :
    filledRows (r :: g) = filledRows g + if r = [] then 0 else 1 := by
  rw [filledRows, List.countP_cons, filledRows]
  cases r <;> simp

theorem filledRows_append (a b : Grid) : filledRows (a ++ b) = a.filledRows + b.filledRows :=
  List.countP_append

theorem cells_append (a b : Grid) : cells (a ++ b) = a.cells + b.cells := by
  simp [cells, total_eq_sum]

theorem filledRows_eq_zero_of_cells (h : g.cells = 0) : g.filledRows = 0 := by
  rw [filledRows_eq_zero_iff]
  intro r hr
  rw [cells, total_eq_sum, List.sum_eq_zero_iff] at h
  exact List.eq_nil_of_length_eq_zero (h _ (List.mem_map_of_mem hr))

theorem overlapAt_cons (right : Int) (r s : Row) (a b : Grid) :
    overlapAt 0 right (r :: a) (s :: b) = rowOverlap right r s + overlapAt 0 right a b := by
  simp [overlapAt, aligned, total]

/-- Where all cells of a grid agree with others, each of its rows with a cell stands on such a
row. -/
theorem filledRows_le_of_top (right : Int) : ∀ {a b : Grid},
    a.cells ≤ overlapAt 0 right a b → a.filledRows ≤ b.filledRows
  | [], b, _ => Nat.zero_le _
  | r :: a, [], h => by
    have hzero : overlapAt 0 right (r :: a) [] = 0 := by simp [overlapAt, aligned, total]
    rw [filledRows_eq_zero_of_cells (by omega)]
    exact Nat.zero_le _
  | r :: a, s :: b, h => by
    have hcells : cells (r :: a) = r.length + cells a := rfl
    -- a row can only agree in as many cells as both rows have
    have hrow := rowOverlap_le right r s
    have hleft := touching_le_left right r.length s.length
    have hright := touching_le_right right r.length s.length
    have hrest := overlapAt_le_cells 0 right a b
    rw [overlapAt_cons, hcells] at h
    have ih : filledRows a ≤ filledRows b := filledRows_le_of_top right (by omega)
    -- all cells of the row agree, so the row below it has cells if it has
    have hrow : r ≠ [] → s ≠ [] := by
      rw [← List.length_pos_iff, ← List.length_pos_iff]
      omega
    rw [filledRows_cons, filledRows_cons]
    split
    · omega
    · next hr =>
      rw [if_neg (hrow hr)]
      omega

/-- The same at any offset: rows that lie above the other grid have no cell then, and rows of the
other grid above the first only add to it. -/
theorem filledRows_le_of_overlapAt {down right : Int} (h : a.cells ≤ overlapAt down right a b) :
    a.filledRows ≤ b.filledRows := by
  obtain ⟨n, rfl | rfl⟩ := down.eq_nat_or_neg
  · have hmoved : overlapAt n right a b = overlapAt 0 right a (b.drop n) := by
      rw [overlapAt, aligned_natCast, overlapAt, ← Nat.cast_zero, aligned_natCast, List.drop_zero]
    have hle := filledRows_le_of_top right (hmoved ▸ h)
    exact hle.trans (List.drop_sublist n b).countP_le
  · have hmoved : overlapAt (-n) right a b = overlapAt 0 right (a.drop n) b := by
      rw [overlapAt, aligned_neg_natCast, overlapAt, ← Nat.cast_zero, aligned_natCast,
        List.drop_zero]
    -- the rows above the other grid agree nowhere, and yet all cells agree
    have hsplit := cells_append (a.take n) (a.drop n)
    have hdrop := overlapAt_le_cells 0 right (a.drop n) b
    have htake : filledRows (a.take n) = 0 := filledRows_eq_zero_of_cells (by
      rw [List.take_append_drop] at hsplit
      omega)
    have hle := filledRows_le_of_top (a := a.drop n) (b := b) right (by
      rw [List.take_append_drop] at hsplit
      omega)
    rw [← List.take_append_drop n a, filledRows_append, htake]
    omega

/-- Grids that are nowhere apart have as many rows with a cell. -/
theorem filledRows_eq_of_difference (h : difference a b = 0) : a.filledRows = b.filledRows := by
  have hall := difference_add_overlap a b
  have ha := overlap_le_cells a b
  have hb := overlap_le_cells b a
  rw [overlap_comm b a] at hb
  obtain ⟨down, right, heq⟩ := exists_overlapAt_eq a b
  have hleft : a.cells ≤ overlapAt down right a b := by omega
  have hright : b.cells ≤ overlapAt (-down) (-right) b a := by
    rw [overlapAt_neg]
    omega
  exact le_antisymm (filledRows_le_of_overlapAt hleft) (filledRows_le_of_overlapAt hright)

/-- **Grids that compare as equal have as many rows with a cell.** -/
theorem filledRows_eq_of_equal (h : (compare ordered a b).equal = true) :
    a.filledRows = b.filledRows := by
  match a, b, h with
  | [], [], _ => rfl
  | [], _ :: _, h => cases h
  | _ :: _, [], h => cases h
  | r :: a, s :: b, h =>
    have hv := congrArg Prod.fst (verdict_compareCanonical (canonical ordered (r :: a))
      (canonical ordered (s :: b)))
    have hequal : (isPart (canonical ordered (r :: a)) (canonical ordered (s :: b)) &&
        decide (difference (canonical ordered (r :: a)) (canonical ordered (s :: b)) = 0)) = true :=
      hv.symm.trans h
    rw [Bool.and_eq_true, decide_eq_true_eq] at hequal
    rw [← filledRows_canonical ordered (r :: a), ← filledRows_canonical ordered (s :: b)]
    exact filledRows_eq_of_difference hequal.2

/-- Rows without a cell may be as many or as few as they like. -/
theorem compare_equal_iff_of_isBlank (ha : a.IsBlank) (ordered : Bool) (b : Grid) :
    (compare ordered a b).equal = true ↔ b.IsBlank := by
  constructor
  · intro h
    have hfilled := filledRows_eq_of_equal h
    rw [filledRows_eq_zero_iff.mpr ha.2, eq_comm, filledRows_eq_zero_iff] at hfilled
    refine ⟨?_, hfilled⟩
    rintro rfl
    match a, ha.1, h with
    | _ :: _, _, h => cases h
  · intro hb
    rw [compare_eq ordered ha.1 hb.1, ha.canonical_eq, hb.canonical_eq]
    exact congrArg Prod.fst (verdict_compareCanonical_self [])

/-! ## 4. What is kept -/

/-- **What the canonical order keeps.**  It keeps every cell of every grid. It keeps the number of
rows, and leaves the rows as they are up to one order of the columns and one of the rows, just where
the grid is not blank. Grids that compare as equal have as many rows just where they have as many
empty ones; a blank grid is equal to all blank ones, however many rows they have. -/
theorem canonical_keeps_iff (ordered : Bool) (g : Grid) :
    (g.canonical ordered).flatten.Perm g.flatten ∧
    ((g.canonical ordered).length = g.length ↔ ¬ g.IsBlank) ∧
    ((∃ js, js.Perm (List.range g.width) ∧ (g.canonical ordered).Perm (g.pickColumns js)) ↔
      ¬ g.IsBlank) ∧
    (∀ b : Grid, (compare ordered g b).equal = true →
      (g.length = b.length ↔ g.count [] = b.count [])) ∧
    (g.IsBlank → ∀ b : Grid, (compare ordered g b).equal = true ↔ b.IsBlank) := by
  refine ⟨flatten_canonical_perm ordered g, length_canonical_iff ordered g,
    ⟨?_, fun h => exists_canonical_pick h ordered⟩, fun b hequal => ?_,
    fun hg => compare_equal_iff_of_isBlank hg ordered⟩
  · rintro ⟨js, -, hperm⟩
    rw [← length_canonical_iff ordered, hperm.length_eq, pickColumns, List.length_map]
  · have hfilled := filledRows_eq_of_equal hequal
    rw [← filledRows_add_count g, ← filledRows_add_count b]
    omega

/-- A grid without columns comes out without rows, so two rows are taken for one; and an empty row
behind the others is not seen at all. -/
theorem rows_lost :
    canonical true [[], []] = [] ∧ canonical false [[], []] = [] ∧
    (compare true [[], []] [[]]).verdict = (true, true, 0) ∧
    (compare true [["1"]] [["1"], []]).verdict = (true, true, 0) := by
  refine ⟨?_, ?_, ?_, ?_⟩ <;> cbv

end Grid

end QueryGrading
