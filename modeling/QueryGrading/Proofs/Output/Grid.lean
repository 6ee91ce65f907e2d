import QueryGrading.Output.Grid
import QueryGrading.Proofs.Collection

/-!
# Tables and their overlap

A `Table` of width `w` has at least one row and one column, and `w` cells in every row. Sorting
columns and rows leaves a table of the same size (`isTable_canonical`).

When one table is laid over another, the cells that touch form a rectangle, at most as high and as
wide as either table (`touching`, `overlapAt_le`). So more than half of all cells can agree only
where tables of the same size lie right on each other, and then they are equal
(`eq_of_le_overlapAt`).

Two tables are laid over each other by the two outer loops of `max_overlap`, over the offsets of
rows and of columns; the two inner loops count the cells that agree at one offset, here `overlapAt`.
The offsets that are tried are those at which the grids still touch (`mem_offsets_iff`).
-/

namespace QueryGrading

namespace Grid

/-- The grid has at least one row and one column, and `w` cells in every row. -/
structure IsTable (w : Nat) (g : Grid) : Prop where
  rows : g ≠ []
  columns : 0 < w
  uniform : ∀ r ∈ g, r.length = w

variable {w w₁ w₂ : Nat} {g a b : Grid}

/-! ## 1. The size of a table -/

/-- The rows of a table in another order are a table. -/
theorem IsTable.of_perm (h : IsTable w a) (hp : b.Perm a) : IsTable w b where
  rows := fun hb => h.rows (by simpa [hb] using hp)
  columns := h.columns
  uniform := fun r hr => h.uniform r (hp.mem_iff.mp hr)

theorem IsTable.length_pos (h : IsTable w g) : 0 < g.length := List.length_pos_iff.mpr h.rows

theorem IsTable.isUniform (h : IsTable w g) : g.isUniform = true := by
  match g, h with
  | [], _ => rfl
  | row :: rest, h =>
    have hrow := h.uniform row List.mem_cons_self
    simp only [Grid.isUniform, List.all_eq_true, beq_iff_eq]
    intro r hr
    rw [h.uniform r (List.mem_cons_of_mem _ hr), hrow]

/-- A table has as many cells as its size says. -/
theorem IsTable.cells_eq (h : IsTable w g) : g.cells = g.length * w := by
  have hmap : g.map List.length = List.replicate g.length w :=
    List.map_eq_replicate_iff.mpr h.uniform
  rw [Grid.cells, total_eq_sum, hmap, List.sum_replicate_nat]

/-- No row is longer than the width. -/
theorem length_le_width {r : Row} (h : r ∈ g) : r.length ≤ g.width :=
  ((foldl_max_le_iff g.width (g.map List.length) 0).mp le_rfl).2 _ (List.mem_map_of_mem h)

theorem IsTable.width_eq (h : IsTable w g) : g.width = w := by
  refine le_antisymm ((foldl_max_le_iff w _ 0).mpr ⟨Nat.zero_le w, ?_⟩) ?_
  · intro n hn
    obtain ⟨r, hr, rfl⟩ := List.mem_map.mp hn
    exact (h.uniform r hr).le
  · obtain ⟨r, hr⟩ := List.exists_mem_of_ne_nil g h.rows
    rw [← h.uniform r hr]
    exact length_le_width hr

/-! ## 2. The canonical order keeps the size

The lemmas follow `canonicalize` step by step, from the columns to the rows. -/

/-- The columns of a table, read off row by row. -/
theorem IsTable.columns_eq (h : IsTable w g) :
    g.columns = (List.range w).map fun j => g.map fun r => r.getD j "" := by
  match g, h with
  | [], h => exact absurd rfl h.rows
  | row :: rest, h => rw [Grid.columns, h.uniform row List.mem_cons_self]

/-- There are as many columns as the width says. -/
theorem IsTable.length_columns (h : IsTable w g) : g.columns.length = w := by
  simp [h.columns_eq]

/-- The columns of a table are a table. -/
theorem IsTable.isTable_columns (h : IsTable w g) : IsTable g.length g.columns where
  rows := by
    rw [← List.length_pos_iff, h.length_columns]
    exact h.columns
  columns := h.length_pos
  uniform := by simp [h.columns_eq]

theorem isTable_sortedRows (h : IsTable w g) : IsTable w (sortedRows g) :=
  h.of_perm (sortedRows_perm g)

theorem IsTable.isTable_sortColumns (h : IsTable w g) : IsTable w g.sortColumns := by
  have hs := (isTable_sortedRows h.isTable_columns).isTable_columns
  rw [(sortedRows_perm g.columns).length_eq, h.length_columns] at hs
  rwa [Grid.sortColumns, if_pos h.isUniform]

/-- The canonical form of a table is a table of the same size. -/
theorem IsTable.isTable_canonical (h : IsTable w g) (ordered : Bool) :
    IsTable w (g.canonical ordered) := by
  cases ordered with
  | true => exact h.isTable_sortColumns
  | false => exact isTable_sortedRows h.isTable_sortColumns

/-- Without regard to the order of rows, the canonical forms agree exactly when the grids with
sorted columns have the same rows. -/
theorem canonical_eq_iff (a b : Grid) :
    a.canonical false = b.canonical false ↔ a.sortColumns.Perm b.sortColumns :=
  sortedRows_eq_iff _ _

/-! ## 3. The rectangle that touches

At an offset two grids touch in a rectangle, and only cells in it can agree. So the size of the
rectangle bounds the overlap. -/

/-- The number of places where a list of length `m` touches one of length `n` when it is moved by
an offset. -/
def touching (offset : Int) (m n : Nat) : Nat :=
  if offset < 0 then min (m - (-offset).toNat) n else min m (n - offset.toNat)

theorem length_aligned {α : Type} (offset : Int) (xs ys : List α) :
    (aligned offset xs ys).length = touching offset xs.length ys.length := by
  unfold aligned touching
  split <;> simp

theorem mem_of_mem_aligned {α : Type} {offset : Int} {xs ys : List α} {p : α × α}
    (h : p ∈ aligned offset xs ys) : p.1 ∈ xs ∧ p.2 ∈ ys := by
  unfold aligned at h
  split at h
  · have hp := List.of_mem_zip h
    exact ⟨List.mem_of_mem_drop hp.1, hp.2⟩
  · have hp := List.of_mem_zip h
    exact ⟨hp.1, List.mem_of_mem_drop hp.2⟩

/-- Never more places than the one list has. -/
theorem touching_le_left (offset : Int) (m n : Nat) : touching offset m n ≤ m := by
  unfold touching
  split <;> omega

/-- Nor than the other has. -/
theorem touching_le_right (offset : Int) (m n : Nat) : touching offset m n ≤ n := by
  unfold touching
  split <;> omega

theorem eq_zero_of_touching {offset : Int} {n : Nat} (hn : 0 < n) (h : touching offset n n = n) :
    offset = 0 := by
  unfold touching at h
  split at h <;> omega

/-- Cells that agree are at places that touch. -/
theorem rowOverlap_le (offset : Int) (r s : Row) :
    rowOverlap offset r s ≤ touching offset r.length s.length := by
  rw [← length_aligned]
  exact List.countP_le_length

/-- The cells of two grids that agree lie in the rectangle. -/
theorem overlapAt_le (ha : ∀ r ∈ a, r.length = w₁) (hb : ∀ r ∈ b, r.length = w₂)
    (down right : Int) :
    overlapAt down right a b ≤ touching down a.length b.length * touching right w₁ w₂ := by
  rw [overlapAt, ← length_aligned]
  refine total_map_le fun p hp => ?_
  obtain ⟨hr, hs⟩ := mem_of_mem_aligned hp
  have h := rowOverlap_le right p.1 p.2
  rwa [ha _ hr, hb _ hs] at h

/-! ## 4. Grids right on each other

Without an offset each row meets the row at its own place, and a full overlap leaves nothing to
differ. -/

theorem rowOverlap_zero_cons (x y : String) (r s : Row) :
    rowOverlap 0 (x :: r) (y :: s) = rowOverlap 0 r s + if x = y then 1 else 0 := by
  simp [rowOverlap, aligned, List.countP_cons]

theorem overlapAt_zero_cons (r s : Row) (a b : Grid) :
    overlapAt 0 0 (r :: a) (s :: b) = rowOverlap 0 r s + overlapAt 0 0 a b := by
  simp [overlapAt, aligned, total]

/-- A row agrees with itself in all cells. -/
theorem rowOverlap_self : ∀ r : Row, rowOverlap 0 r r = r.length
  | [] => rfl
  | x :: r => by rw [rowOverlap_zero_cons, rowOverlap_self r, if_pos rfl, List.length_cons]

/-- So does a grid. -/
theorem overlapAt_self : ∀ g : Grid, overlapAt 0 0 g g = g.cells
  | [] => rfl
  | r :: g => by
    rw [overlapAt_zero_cons, rowOverlap_self, overlapAt_self g]
    rfl

/-- All cells of a row agree only with the same row. -/
theorem eq_of_rowOverlap_eq : ∀ {r s : Row}, r.length = s.length →
    rowOverlap 0 r s = r.length → r = s
  | [], [], _, _ => rfl
  | x :: r, y :: s, hlen, h => by
    have hle := (rowOverlap_le 0 r s).trans (touching_le_left 0 _ _)
    rw [rowOverlap_zero_cons, List.length_cons] at h
    split at h
    · next hxy =>
      have hrs : r = s := eq_of_rowOverlap_eq (by simpa using hlen) (by omega)
      rw [hxy, hrs]
    · omega

/-- All cells of a grid agree only with the same grid. -/
theorem eq_of_overlapAt_eq : ∀ {a b : Grid}, (∀ r ∈ a, r.length = w) → (∀ r ∈ b, r.length = w) →
    a.length = b.length → overlapAt 0 0 a b = a.length * w → a = b
  | [], [], _, _, _, _ => rfl
  | r :: a, s :: b, ha, hb, hlen, h => by
    obtain ⟨hr, ha⟩ := List.forall_mem_cons.mp ha
    obtain ⟨hs, hb⟩ := List.forall_mem_cons.mp hb
    have hrow : rowOverlap 0 r s ≤ w := hr ▸ (rowOverlap_le 0 r s).trans (touching_le_left 0 _ _)
    have hrest : overlapAt 0 0 a b ≤ a.length * w :=
      (overlapAt_le ha hb 0 0).trans
        (Nat.mul_le_mul (touching_le_left 0 _ _) (touching_le_left 0 _ _))
    rw [overlapAt_zero_cons, List.length_cons, Nat.succ_mul] at h
    have hrs : r = s := eq_of_rowOverlap_eq (hr.trans hs.symm) (by omega)
    have hab : a = b := eq_of_overlapAt_eq ha hb (by simpa using hlen) (by omega)
    rw [hrs, hab]

/-! ## 5. The greatest overlap

`max_overlap` tries the offsets at which the grids touch. The others bring nothing together, so the
greatest value is the greatest of all. -/

/-- The offsets that are tried are those at which two lists of these lengths touch. -/
theorem mem_offsets_iff {offset : Int} {m n : Nat} :
    offset ∈ offsets m n ↔ 1 - (m : Int) ≤ offset ∧ offset < n := by
  simp only [offsets, List.mem_map, List.mem_range, Int.ofNat_eq_natCast]
  constructor
  · rintro ⟨k, hk, rfl⟩
    omega
  · rintro ⟨hlow, hhigh⟩
    exact ⟨(offset + m - 1).toNat, by omega, by omega⟩

/-- Lists that an offset drives apart do not touch, nor do shorter ones. -/
theorem touching_eq_zero {offset : Int} {m m' n n' : Nat} (h : offset ∉ offsets m n) (hm : m' ≤ m)
    (hn : n' ≤ n) : touching offset m' n' = 0 := by
  rw [mem_offsets_iff] at h
  unfold touching
  split <;> omega

/-- **Offsets that are not tried bring no cell onto a cell.**  The rows may have any lengths. -/
theorem overlapAt_eq_zero_of_not_mem {down right : Int}
    (h : down ∉ offsets a.length b.length ∨ right ∉ offsets a.width b.width) :
    overlapAt down right a b = 0 := by
  rcases h with hdown | hright
  · have hlength : (aligned down a b).length = 0 := by
      rw [length_aligned, touching_eq_zero hdown le_rfl le_rfl]
    rw [overlapAt, List.length_eq_zero_iff.mp hlength]
    rfl
  · have hrow : ∀ p ∈ aligned down a b, rowOverlap right p.1 p.2 ≤ 0 := by
      intro p hp
      obtain ⟨hr, hs⟩ := mem_of_mem_aligned hp
      rw [← touching_eq_zero hright (length_le_width hr) (length_le_width hs)]
      exact rowOverlap_le right p.1 p.2
    exact Nat.le_zero.mp (total_map_le hrow)

/-- A bound of the overlap bounds the cells that agree at any offset, also at one that is not
tried. -/
theorem overlap_le_iff (a b : Grid) (k : Nat) :
    overlap a b ≤ k ↔ ∀ down right, overlapAt down right a b ≤ k := by
  rw [overlap, foldl_max_le_iff]
  simp only [Nat.zero_le, true_and, List.mem_flatMap, List.mem_map]
  constructor
  · intro h down right
    by_cases hd : down ∈ offsets a.length b.length
    · by_cases hr : right ∈ offsets a.width b.width
      · exact h _ ⟨down, hd, right, hr, rfl⟩
      · rw [overlapAt_eq_zero_of_not_mem (.inr hr)]
        exact Nat.zero_le k
    · rw [overlapAt_eq_zero_of_not_mem (.inl hd)]
      exact Nat.zero_le k
  · rintro h n ⟨down, -, right, -, rfl⟩
    exact h down right

/-- The greatest overlap is at least that at any offset. -/
theorem overlapAt_le_overlap (down right : Int) (a b : Grid) :
    overlapAt down right a b ≤ overlap a b :=
  (overlap_le_iff a b _).mp le_rfl down right

/-- Every grid covers itself, also one with rows of different lengths. -/
theorem cells_le_overlap (g : Grid) : g.cells ≤ overlap g g := by
  rw [← overlapAt_self]
  exact overlapAt_le_overlap 0 0 g g

/-- A product of two factors is reached by smaller ones only if none is smaller. -/
theorem eq_and_eq_of_mul_le {p q n k : Nat} (hn : 0 < n) (hk : 0 < k) (hp : p ≤ n) (hq : q ≤ k)
    (h : n * k ≤ p * q) : p = n ∧ q = k := by
  constructor
  · refine le_antisymm hp (Nat.le_of_not_lt fun hlt => ?_)
    have := Nat.mul_lt_mul_of_lt_of_le hlt hq hk
    omega
  · refine le_antisymm hq (Nat.le_of_not_lt fun hlt => ?_)
    have := Nat.mul_lt_mul_of_le_of_lt hp hlt hn
    omega

/-- **More than half of all cells agree only where equal tables lie on each other.** -/
theorem eq_of_le_overlapAt (ha : IsTable w₁ a) (hb : IsTable w₂ b) {down right : Int}
    (h : a.cells + b.cells ≤ 2 * overlapAt down right a b) : a = b := by
  rw [ha.cells_eq, hb.cells_eq] at h
  have hle := overlapAt_le ha.uniform hb.uniform down right
  have hp₁ := touching_le_left down a.length b.length
  have hp₂ := touching_le_right down a.length b.length
  have hq₁ := touching_le_left right w₁ w₂
  have hq₂ := touching_le_right right w₁ w₂
  have h₁ := Nat.mul_le_mul hp₁ hq₁
  have h₂ := Nat.mul_le_mul hp₂ hq₂
  -- the rectangle that touches is as large as either table
  obtain ⟨hpa, hqa⟩ := eq_and_eq_of_mul_le ha.length_pos ha.columns hp₁ hq₁ (by omega)
  obtain ⟨hpb, hqb⟩ := eq_and_eq_of_mul_le hb.length_pos hb.columns hp₂ hq₂ (by omega)
  have hlen : a.length = b.length := hpa.symm.trans hpb
  obtain rfl : w₁ = w₂ := hqa.symm.trans hqb
  rw [hpa, hqa] at hle
  rw [← hlen] at hpa h
  -- two equal rectangles that touch in full lie right on each other
  obtain rfl := eq_zero_of_touching ha.length_pos hpa
  obtain rfl := eq_zero_of_touching ha.columns hqa
  exact eq_of_overlapAt_eq ha.uniform hb.uniform hlen (by omega)

end Grid

end QueryGrading
