import QueryGrading.Proofs.Output.Comparison

/-!
# The greatest overlap

Laying one grid over another, so many rows down and so many columns to the right, brings some of its
cells onto equal ones. `landing` is the set of their places, for any two grids and any offset, and
`overlapAt` counts it (`ncard_landing`).

Only the offsets by which the grids still touch are tried, reckoned by the longest rows where the
rows have different lengths. No other offset brings a cell onto a cell
(`overlapAt_eq_zero_of_not_mem`), so the greatest overlap is the greatest of all
(`isGreatest_overlap`). An offset and its opposite bring the same cells together, so the overlap is
symmetric, and with it the number of cells left unmatched (`overlap_greatest_and_symmetric`).

The overlap is the result of `max_overlap`, which looks up each cell of the first grid at its place
in the second one; `compare_rows` takes twice this number from the number of all cells, which never
goes below zero.
-/

namespace QueryGrading

open Finset (range)

namespace Grid

variable {a b : Grid} {r s : Row} {down right : Int}

/-! ## 1. Places of a list

The loops of `max_overlap` go over the part that two lists share at an offset. To count it, both
lists are given places, also in front of the first and behind the last one, where nothing stands. -/

section Places

variable {α : Type} {x : α} {xs ys : List α}

/-- The element at a place, counted from zero; there is none in front of the list or behind it. -/
def place? (xs : List α) : Int → Option α
  | .ofNat i => xs[i]?
  | .negSucc _ => none

@[simp] theorem place?_natCast (xs : List α) (i : Nat) : place? xs i = xs[i]? := rfl

theorem aligned_natCast (n : Nat) (xs ys : List α) :
    aligned (n : Int) xs ys = xs.zip (ys.drop n) := by
  rw [aligned, if_neg (by omega), Int.toNat_natCast]

theorem aligned_neg_natCast (n : Nat) (xs ys : List α) :
    aligned (-(n : Int)) xs ys = (xs.drop n).zip ys := by
  cases n with
  | zero => rfl
  | succ n => rw [aligned, if_pos (by omega), neg_neg, Int.toNat_natCast]

/-- The first element of a list that is moved by an offset stands beside what is there at this place
of the other list, and the further ones beside the further ones. -/
theorem aligned_cons (offset : Int) (x : α) (xs ys : List α) :
    aligned offset (x :: xs) ys =
      ((place? ys offset).map fun y => (x, y)).toList ++ aligned (offset + 1) xs ys := by
  cases offset with
  | ofNat n =>
    have hnext : Int.ofNat n + 1 = ((n + 1 : Nat) : Int) := rfl
    rw [hnext, Int.ofNat_eq_natCast, aligned_natCast, aligned_natCast, place?_natCast]
    by_cases hn : n < ys.length
    · rw [List.drop_eq_getElem_cons hn, List.getElem?_eq_getElem hn]
      rfl
    · rw [List.drop_eq_nil_of_le (by omega), List.drop_eq_nil_of_le (by omega),
        List.getElem?_eq_none (by omega)]
      simp
  | negSucc n =>
    have hoffset : Int.negSucc n = -((n + 1 : Nat) : Int) := rfl
    have hnext : Int.negSucc n + 1 = -(n : Int) := by omega
    have hplace : place? ys (Int.negSucc n) = none := rfl
    rw [hplace, hnext, hoffset, aligned_neg_natCast, aligned_neg_natCast, List.drop_succ_cons]
    rfl

/-- An offset and its opposite bring the same elements together. -/
theorem aligned_neg (offset : Int) (xs ys : List α) :
    aligned (-offset) ys xs = (aligned offset xs ys).map Prod.swap := by
  obtain ⟨n, rfl | rfl⟩ := offset.eq_nat_or_neg
  · rw [aligned_neg_natCast, aligned_natCast, List.zip_swap]
  · rw [neg_neg, aligned_neg_natCast, aligned_natCast, List.zip_swap]

theorem aligned_nil (offset : Int) (ys : List α) : aligned offset [] ys = [] := by
  obtain ⟨n, rfl | rfl⟩ := offset.eq_nat_or_neg
  · rw [aligned_natCast, List.zip_nil_left]
  · rw [aligned_neg_natCast, List.drop_nil, List.zip_nil_left]

/-- What two elements count for together, if both are there. -/
def together (f : α → α → Nat) : Option α → Option α → Nat
  | some x, some y => f x y
  | _, _ => 0

@[simp] theorem together_none (f : α → α → Nat) (x : Option α) : together f x none = 0 := by
  cases x <;> rfl

theorem total_aligned_cons (f : α → α → Nat) (offset : Int) (x : α) (xs ys : List α) :
    total ((aligned offset (x :: xs) ys).map fun (x, y) => f x y) =
      together f (some x) (place? ys offset) +
        total ((aligned (offset + 1) xs ys).map fun (x, y) => f x y) := by
  rw [aligned_cons, List.map_append, total_eq_sum, List.sum_append, ← total_eq_sum, ← total_eq_sum]
  cases place? ys offset <;> rfl

/-- **Counting along two lists place by place.**  The bound may lie behind the end of the list. -/
theorem total_aligned (f : α → α → Nat) {xs : List α} {n : Nat} (hn : xs.length ≤ n) (offset : Int)
    (ys : List α) :
    total ((aligned offset xs ys).map fun (x, y) => f x y) =
      ∑ i ∈ range n, together f xs[i]? (place? ys (i + offset)) := by
  induction xs generalizing n offset with
  | nil =>
    rw [aligned_nil, Finset.sum_eq_zero fun i _ => by rw [List.getElem?_nil]; rfl]
    rfl
  | cons x xs ih =>
    obtain ⟨m, rfl⟩ : ∃ m, n = m + 1 := Nat.exists_eq_add_one.mpr (Nat.zero_lt_of_lt hn)
    have hm : xs.length ≤ m := Nat.le_of_succ_le_succ hn
    -- one element less of the list that is moved is one step more of the offset
    rw [total_aligned_cons, ih hm, Finset.sum_range_succ', add_comm]
    congr 1
    · refine Finset.sum_congr rfl fun i _ => ?_
      have hplace : ((i + 1 : Nat) : Int) + offset = i + (offset + 1) := by omega
      rw [hplace, List.getElem?_cons_succ]
    · rw [Nat.cast_zero, zero_add, List.getElem?_cons_zero]

end Places

/-! ## 2. Cells that land on equal ones

The count of the two nested loops is turned into the size of a set of places. -/

/-- The cell at a row and a column, counted from zero, if the grid has one there. -/
def cell? (g : Grid) (row column : Int) : Option String :=
  (place? g row).bind fun r => place? r column

/-- The places of the cells that an offset brings onto equal cells of another grid. -/
def landing (down right : Int) (a b : Grid) : Set (Nat × Nat) :=
  {p | ∃ x, a.cell? p.1 p.2 = some x ∧ b.cell? (p.1 + down) (p.2 + right) = some x}

/-- Two cells count one if both are there and they are equal. -/
def hit : Option String → Option String → Nat := together fun x y => if x = y then 1 else 0

/-- Two places count for one just where both have a cell and the cells are equal. -/
theorem hit_eq_one_iff (c d : Option String) : hit c d = 1 ↔ ∃ x, c = some x ∧ d = some x := by
  cases c with
  | none => simp [hit, together]
  | some x =>
    cases d with
    | none => simp [hit, together]
    | some y => simp [hit, together, eq_comm]

theorem hit_eq_ite (c d : Option String) : hit c d = if hit c d = 1 then 1 else 0 := by
  rcases c with _ | x
  · rfl
  · rcases d with _ | y
    · rfl
    · by_cases hxy : x = y <;> simp [hit, together, hxy]

/-- The cells of a row that agree, counted pair by pair. -/
theorem rowOverlap_eq_total (right : Int) (r s : Row) :
    rowOverlap right r s =
      total ((aligned right r s).map fun (x, y) => if x = y then 1 else 0) := by
  rw [rowOverlap]
  induction aligned right r s with
  | nil => rfl
  | cons p rest ih =>
    rw [List.countP_cons, ih, List.map_cons, total, add_comm]
    simp

/-- The cells of a row that land on equal ones, column by column. -/
theorem rowOverlap_eq_sum {n : Nat} (hn : r.length ≤ n) (right : Int) (s : Row) :
    rowOverlap right r s = ∑ j ∈ range n, hit r[j]? (place? s (j + right)) := by
  rw [rowOverlap_eq_total, total_aligned (fun x y => if x = y then 1 else 0) hn]
  rfl

/-- The cells of a grid that land on equal ones, place by place. -/
theorem overlapAt_eq_sum (down right : Int) (a b : Grid) :
    overlapAt down right a b = ∑ i ∈ range a.length, ∑ j ∈ range a.width,
      hit (a.cell? i j) (b.cell? (i + down) (j + right)) := by
  rw [overlapAt, total_aligned (rowOverlap right) le_rfl]
  refine Finset.sum_congr rfl fun i _ => ?_
  have hcell : ∀ j : Nat, a.cell? i j = a[i]?.bind fun r => r[j]? := fun j => rfl
  simp only [hcell]
  cases hr : a[i]? with
  | none => exact (Finset.sum_eq_zero fun j _ => rfl).symm
  | some r =>
    have hwidth : r.length ≤ a.width := length_le_width (List.mem_of_getElem? hr)
    simp only [cell?, Option.bind_some]
    cases place? b (i + down) with
    | none => simp [hit]
    | some s => exact rowOverlap_eq_sum hwidth right s

/-- A place with a cell lies in the box of rows and columns. -/
theorem lt_of_cell? {i j : Nat} {x : String} (h : a.cell? i j = some x) :
    i < a.length ∧ j < a.width := by
  obtain ⟨r, hr, hx⟩ := Option.bind_eq_some_iff.mp h
  obtain ⟨hi, rfl⟩ := List.getElem?_eq_some_iff.mp hr
  obtain ⟨hj, -⟩ := List.getElem?_eq_some_iff.mp hx
  exact ⟨hi, hj.trans_le (length_le_width (List.getElem_mem hi))⟩

/-- **The overlap at an offset is the number of cells that land on equal ones.** -/
theorem ncard_landing (down right : Int) (a b : Grid) :
    (landing down right a b).ncard = overlapAt down right a b := by
  have hbox : landing down right a b =
      ↑{p ∈ range a.length ×ˢ range a.width |
        hit (a.cell? p.1 p.2) (b.cell? (p.1 + down) (p.2 + right)) = 1} := by
    ext ⟨i, j⟩
    simp only [landing, Set.mem_ofPred_eq, Finset.coe_filter, Finset.mem_product, Finset.mem_range,
      hit_eq_one_iff]
    constructor
    · rintro ⟨x, ha, hb⟩
      exact ⟨lt_of_cell? ha, x, ha, hb⟩
    · rintro ⟨-, hx⟩
      exact hx
  rw [hbox, Set.ncard_coe_finset, Finset.card_filter, Finset.sum_product, overlapAt_eq_sum]
  refine Finset.sum_congr rfl fun i _ => Finset.sum_congr rfl fun j _ => ?_
  exact (hit_eq_ite _ _).symm

/-! ## 3. The greatest overlap -/

/-- Some offset reaches the greatest overlap, if only because the overlap is zero everywhere. -/
theorem exists_overlapAt_eq (a b : Grid) :
    ∃ down right, overlapAt down right a b = overlap a b := by
  -- were the greatest value not attained, one less would be a bound
  by_contra hnone
  push Not at hnone
  have hlt : ∀ down right, overlapAt down right a b < overlap a b := fun down right =>
    lt_of_le_of_ne (overlapAt_le_overlap down right a b) (hnone down right)
  have hpos := hlt 0 0
  have hle : overlap a b ≤ overlap a b - 1 :=
    (overlap_le_iff a b _).mpr fun down right => Nat.le_sub_one_of_lt (hlt down right)
  omega

/-- **The overlap is the greatest of all**, not only of the offsets that are tried. -/
theorem isGreatest_overlap (a b : Grid) :
    IsGreatest {n | ∃ down right : Int, n = (landing down right a b).ncard} (overlap a b) := by
  simp only [ncard_landing]
  constructor
  · obtain ⟨down, right, heq⟩ := exists_overlapAt_eq a b
    exact ⟨down, right, heq.symm⟩
  · rintro n ⟨down, right, rfl⟩
    exact overlapAt_le_overlap down right a b

/-! ## 4. Symmetry and bounds

To move one grid against the other is to move the other the opposite way. This gives symmetry, and
each cell is counted once, which gives the bound. -/

/-- Two rows agree alike from either side. -/
theorem rowOverlap_neg (right : Int) (r s : Row) :
    rowOverlap (-right) s r = rowOverlap right r s := by
  rw [rowOverlap, rowOverlap, aligned_neg, List.countP_map]
  refine List.countP_congr fun p _ => ?_
  simp only [Function.comp_apply, Prod.fst_swap, Prod.snd_swap, beq_iff_eq]
  exact eq_comm

/-- An offset and its opposite bring the same cells together. -/
theorem overlapAt_neg (down right : Int) (a b : Grid) :
    overlapAt (-down) (-right) b a = overlapAt down right a b := by
  rw [overlapAt, overlapAt, aligned_neg, List.map_map]
  congr 1
  refine List.map_congr_left fun p _ => ?_
  exact rowOverlap_neg right p.1 p.2

/-- The overlap is symmetric. -/
theorem overlap_comm (a b : Grid) : overlap a b = overlap b a := by
  have hle : ∀ a b : Grid, overlap a b ≤ overlap b a := by
    intro a b
    obtain ⟨down, right, heq⟩ := exists_overlapAt_eq a b
    rw [← heq, ← overlapAt_neg]
    exact overlapAt_le_overlap (-down) (-right) b a
  exact le_antisymm (hle a b) (hle b a)

/-- Every cell is counted once at most. -/
theorem overlapAt_le_cells (down right : Int) (a b : Grid) :
    overlapAt down right a b ≤ a.cells := by
  induction a generalizing down with
  | nil =>
    rw [overlapAt, aligned_nil]
    exact Nat.zero_le _
  | cons r a ih =>
    have hrow : together (rowOverlap right) (some r) (place? b down) ≤ r.length := by
      cases place? b down with
      | none => exact Nat.zero_le _
      | some s => exact (rowOverlap_le right r s).trans (touching_le_left right _ _)
    have hcells : cells (r :: a) = r.length + cells a := rfl
    rw [overlapAt, total_aligned_cons, hcells]
    exact Nat.add_le_add hrow (ih (down + 1))

/-- So the overlap is at most the number of cells. -/
theorem overlap_le_cells (a b : Grid) : overlap a b ≤ a.cells := by
  obtain ⟨down, right, heq⟩ := exists_overlapAt_eq a b
  rw [← heq]
  exact overlapAt_le_cells down right a b

/-- The cells that are left unmatched and twice those that are matched are all cells of both
grids. -/
theorem difference_add_overlap (a b : Grid) :
    difference a b + 2 * overlap a b = a.cells + b.cells := by
  have ha := overlap_le_cells a b
  have hb := overlap_le_cells b a
  rw [overlap_comm b a] at hb
  unfold difference
  omega

/-- What is left unmatched does not depend on which grid comes first. -/
theorem difference_comm (a b : Grid) : difference a b = difference b a := by
  rw [difference, difference, overlap_comm, Nat.add_comm]

theorem difference_compare_comm (ordered : Bool) (a b : Grid) :
    (compare ordered a b).difference = (compare ordered b a).difference := by
  have hcanonical : ∀ a b : Grid, (compareCanonical a b).difference = difference a b := fun a b =>
    congrArg (·.2.2) (verdict_compareCanonical a b)
  cases a with
  | nil =>
    cases b with
    | nil => rfl
    | cons s b => exact Nat.add_comm _ _
  | cons r a =>
    cases b with
    | nil => exact Nat.add_comm _ _
    | cons s b =>
      rw [compare_eq ordered (List.cons_ne_nil r a) (List.cons_ne_nil s b),
        compare_eq ordered (List.cons_ne_nil s b) (List.cons_ne_nil r a), hcanonical, hcanonical,
        difference_comm]

/-- **The overlap is the greatest number of cells that any offset brings onto equal ones**, for all
grids and all offsets. It is symmetric and at most the number of cells of either grid; so what is
left unmatched is never less than nothing, and it is the same whichever grid is expected. -/
theorem overlap_greatest_and_symmetric (a b : Grid) :
    IsGreatest {n | ∃ down right : Int, n = (landing down right a b).ncard} (overlap a b) ∧
      overlap a b = overlap b a ∧ overlap a b ≤ a.cells ∧ overlap a b ≤ b.cells ∧
      ∀ ordered,
        2 * overlap (a.canonical ordered) (b.canonical ordered) ≤
          (a.canonical ordered).cells + (b.canonical ordered).cells ∧
        (compare ordered a b).difference = (compare ordered b a).difference := by
  refine ⟨isGreatest_overlap a b, overlap_comm a b, overlap_le_cells a b, ?_,
    fun ordered => ⟨?_, ?_⟩⟩
  · rw [overlap_comm]
    exact overlap_le_cells b a
  · rw [← difference_add_overlap]
    exact Nat.le_add_left _ _
  · exact difference_compare_comm ordered a b

example : overlap [["7"], ["1", "2"]] [["0", "1", "2"], [], ["7"]] = 2 := by decide +kernel

end Grid

end QueryGrading
