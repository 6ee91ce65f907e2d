import Mathlib
import QueryGrading.Repair.EditDistance

/-!
# What an edit script turns into what

The table of scripts has a row for every beginning of the source and a cell for every beginning of
the target. The last cell of a row is the script to the whole target, so the table gives the script
between two lists of words from those between lists that are one word shorter
(`EditScript.between_concat_concat`), and what every cell keeps holds of all scripts
(`EditScript.concat_induction`). In particular the steps of a script spell source and target, and a
step replaces a word by another one: the script between two lists of words turns the one into the
other (`EditScript.between_turns`).

`word_edit_distance` keeps the distances only and walks back through them; here the cells hold
scripts. That the walk gives the same script is shown where scripts are shown to be shortest. All
proofs about scripts go by the one induction over both lists at their ends, which is how the table
is filled.
-/

namespace QueryGrading

namespace WordEdit

/-- The words of the source that a step spells. -/
def source : WordEdit → List String
  | keep word => [word]
  | delete word => [word]
  | insert _ => []
  | replace source _ => [source]

/-- The words of the target that a step spells. -/
def target : WordEdit → List String
  | keep word => [word]
  | delete _ => []
  | insert word => [word]
  | replace _ target => [target]

end WordEdit

namespace EditScript

/-! ## 1. One script

A script spells two lists of words: what it keeps, replaces and deletes is the source, and what it
keeps, replaces and inserts is the target. -/

/-- A script turns one list of words into another. -/
structure Turns (s : EditScript) (xs ys : List String) : Prop where
  source : s.steps.flatMap WordEdit.source = xs
  target : s.steps.flatMap WordEdit.target = ys
  ne : ∀ x y, .replace x y ∈ s.steps → x ≠ y

variable {script above left diagonal : EditScript} {xs ys : List String} {x y : String}

theorem turns_nil : Turns ⟨0, []⟩ [] [] := ⟨rfl, rfl, by simp [steps]⟩

theorem steps_cons (distance : Nat) (edit : WordEdit) (reversed : List WordEdit) :
    steps ⟨distance, edit :: reversed⟩ = reversed.reverse ++ [edit] :=
  List.reverse_cons

/-- A step more spells one word more. -/
theorem Turns.cons (h : script.Turns xs ys) (distance : Nat) (edit : WordEdit)
    (hne : ∀ x y, edit = .replace x y → x ≠ y) :
    Turns ⟨distance, edit :: script.reversed⟩ (xs ++ edit.source) (ys ++ edit.target) where
  source := by
    rw [steps_cons, List.flatMap_append, List.flatMap_singleton, ← h.source, steps]
  target := by
    rw [steps_cons, List.flatMap_append, List.flatMap_singleton, ← h.target, steps]
  ne x y hmem := by
    rw [steps_cons, List.mem_append, List.mem_singleton] at hmem
    rcases hmem with hmem | heq
    · exact h.ne x y hmem
    · exact hne x y heq.symm

/-- Whichever way the cell is filled, its script turns the one beginning into the other. -/
theorem turns_cell (habove : above.Turns xs (ys ++ [y])) (hleft : left.Turns (xs ++ [x]) ys)
    (hdiagonal : diagonal.Turns xs ys) :
    (cell above left diagonal x y).Turns (xs ++ [x]) (ys ++ [y]) := by
  unfold cell
  extract_lets distance
  split
  · simpa [WordEdit.source, WordEdit.target] using
      habove.cons distance (.delete x) (by simp)
  · split
    · simpa [WordEdit.source, WordEdit.target] using
        hleft.cons distance (.insert y) (by simp)
    · split
      · next heq =>
        subst heq
        exact hdiagonal.cons distance (.keep x) (by simp)
      · next hne =>
        refine hdiagonal.cons distance (.replace x y) fun a b hab => ?_
        cases hab
        exact hne

/-! ## 2. The rows of the table

The table of scripts is filled row by row, and a cell depends on three cells around it. A longer
target only adds a cell to each row, so each cell is the script of its own two beginnings. -/

/-- The row of a beginning of the source. -/
def row (source target : List String) : List EditScript :=
  source.foldl (nextRow target) (firstRow ⟨0, []⟩ target)

/-- One more word of the source makes a new row from the last one. -/
theorem row_concat (source target : List String) (x : String) :
    row (source ++ [x]) target = nextRow target (row source target) x := by
  rw [row, List.foldl_concat, row]

/-- The last cell of a row is the script to the whole target. -/
theorem getLastD_row (source target : List String) :
    (row source target).getLastD ⟨0, []⟩ = between source target := rfl

theorem length_firstRow (script : EditScript) (target : List String) :
    (firstRow script target).length = target.length + 1 := by
  induction target generalizing script with
  | nil => rfl
  | cons t target ih => rw [firstRow, List.length_cons, ih, List.length_cons]

theorem length_rowAfter {target : List String} {cells : List EditScript}
    (h : cells.length = target.length) (x : String) (diagonal left : EditScript) :
    (rowAfter x diagonal left target cells).length = target.length := by
  induction target generalizing cells diagonal left with
  | nil =>
    rw [List.length_nil, List.length_eq_zero_iff] at h
    subst h
    rfl
  | cons t target ih =>
    obtain ⟨above, cells, rfl⟩ := List.exists_cons_of_length_eq_add_one h
    rw [rowAfter, List.length_cons, ih (by simpa using h), List.length_cons]

/-- A row has a cell for every beginning of the target, the empty one included. -/
theorem length_row (source target : List String) :
    (row source target).length = target.length + 1 := by
  induction source using List.reverseRecOn with
  | nil => exact length_firstRow _ target
  | append_singleton source x ih =>
    obtain ⟨first, cells, hrow⟩ := List.exists_cons_of_length_eq_add_one ih
    rw [hrow, List.length_cons, Nat.add_right_cancel_iff] at ih
    rw [row_concat, hrow, nextRow, List.length_cons, length_rowAfter ih]

/-- One more word of the target adds a cell to the first row. -/
theorem firstRow_concat (script : EditScript) (target : List String) (y : String) :
    firstRow script (target ++ [y]) =
      firstRow script target ++ [((firstRow script target).getLastD script).more (.insert y)] := by
  induction target generalizing script with
  | nil => rfl
  | cons t target ih =>
    rw [List.cons_append, firstRow, ih, firstRow, List.cons_append, List.getLastD_cons]
    congr 3
    cases target <;> rfl

/-- One more word of the target adds one cell to a row, and leaves the others as they are. -/
theorem rowAfter_concat {target : List String} {cells : List EditScript}
    (h : cells.length = target.length) (x y : String) (diagonal left above : EditScript) :
    rowAfter x diagonal left (target ++ [y]) (cells ++ [above]) =
      rowAfter x diagonal left target cells ++
        [cell above ((rowAfter x diagonal left target cells).getLastD left)
          (cells.getLastD diagonal) x y] := by
  induction target generalizing cells diagonal left with
  | nil =>
    rw [List.length_nil, List.length_eq_zero_iff] at h
    subst h
    rfl
  | cons t target ih =>
    obtain ⟨c, cells, rfl⟩ := List.exists_cons_of_length_eq_add_one h
    rw [List.cons_append, List.cons_append, rowAfter, ih (by simpa using h), rowAfter,
      List.cons_append, List.getLastD_cons, List.getLastD_cons]

/-- And to every other row. -/
theorem nextRow_concat {target : List String} {cells : List EditScript}
    (h : cells.length = target.length + 1) (x y : String) (above : EditScript) :
    nextRow (target ++ [y]) (cells ++ [above]) x =
      nextRow target cells x ++
        [cell above ((nextRow target cells x).getLastD ⟨0, []⟩) (cells.getLastD ⟨0, []⟩) x y] := by
  obtain ⟨first, cells, rfl⟩ := List.exists_cons_of_length_eq_add_one h
  rw [List.cons_append, nextRow, rowAfter_concat (by simpa using h), nextRow, List.cons_append,
    List.getLastD_cons, List.getLastD_cons]

/-! ## 3. Scripts from shorter ones

Together the lemmas are an induction principle for the cells of the table. Whatever is to be shown
of scripts is shown for one cell, from the three that it is made of. -/

/-- So a longer target only adds a cell, whatever the source. -/
theorem exists_row_target_concat (source target : List String) (y : String) :
    ∃ s, row source (target ++ [y]) = row source target ++ [s] := by
  induction source using List.reverseRecOn with
  | nil => exact ⟨_, firstRow_concat _ target y⟩
  | append_singleton source x ih =>
    obtain ⟨above, h⟩ := ih
    rw [row_concat, h, nextRow_concat (length_row source target), ← row_concat]
    exact ⟨_, rfl⟩

/-- The rows of a longer target have one cell more. -/
theorem row_target_concat (source target : List String) (y : String) :
    row source (target ++ [y]) = row source target ++ [between source (target ++ [y])] := by
  obtain ⟨s, h⟩ := exists_row_target_concat source target y
  have hlast : between source (target ++ [y]) = s := by
    rw [← getLastD_row, h, List.getLastD_concat]
  rw [h, hlast]

/-- From the empty list every word is inserted. -/
theorem between_nil_concat (ys : List String) (y : String) :
    between [] (ys ++ [y]) = (between [] ys).more (.insert y) := by
  have hrow : row [] (ys ++ [y]) = row [] ys ++ [((row [] ys).getLastD ⟨0, []⟩).more (.insert y)] :=
    firstRow_concat _ ys y
  rw [← getLastD_row, hrow, List.getLastD_concat, getLastD_row]

/-- To the empty list every word is deleted. -/
theorem between_concat_nil (xs : List String) (x : String) :
    between (xs ++ [x]) [] = (between xs []).more (.delete x) := by
  obtain ⟨s, hrow⟩ := List.length_eq_one_iff.mp (length_row xs [])
  rw [← getLastD_row, ← getLastD_row, row_concat, hrow]
  rfl

/-- **The script of two lists follows from three shorter ones.** -/
theorem between_concat_concat (xs ys : List String) (x y : String) :
    between (xs ++ [x]) (ys ++ [y]) =
      cell (between xs (ys ++ [y])) (between (xs ++ [x]) ys) (between xs ys) x y := by
  have hrow : row (xs ++ [x]) (ys ++ [y]) = row (xs ++ [x]) ys ++
      [cell (between xs (ys ++ [y])) (between (xs ++ [x]) ys) (between xs ys) x y] := by
    rw [row_concat, row_target_concat, nextRow_concat (length_row xs ys), ← row_concat,
      getLastD_row, getLastD_row]
  rw [← getLastD_row, hrow, List.getLastD_concat]

/-- **What every cell of the table keeps holds of the script between any two lists.** -/
theorem concat_induction {motive : List String → List String → EditScript → Prop}
    (nil : motive [] [] ⟨0, []⟩)
    (insert : ∀ ys y s, motive [] ys s → motive [] (ys ++ [y]) (s.more (.insert y)))
    (delete : ∀ xs x s, motive xs [] s → motive (xs ++ [x]) [] (s.more (.delete x)))
    (cell : ∀ xs x ys y above left diagonal, motive xs (ys ++ [y]) above →
      motive (xs ++ [x]) ys left → motive xs ys diagonal →
        motive (xs ++ [x]) (ys ++ [y]) (cell above left diagonal x y))
    (source target : List String) : motive source target (between source target) := by
  induction source using List.reverseRecOn generalizing target with
  | nil =>
    induction target using List.reverseRecOn with
    | nil => exact nil
    | append_singleton ys y ih =>
      rw [between_nil_concat]
      exact insert ys y _ ih
  | append_singleton xs x ihsource =>
    induction target using List.reverseRecOn with
    | nil =>
      rw [between_concat_nil]
      exact delete xs x _ (ihsource [])
    | append_singleton ys y ihtarget =>
      rw [between_concat_concat]
      exact cell xs x ys y _ _ _ (ihsource (ys ++ [y])) ihtarget (ihsource ys)

/-- **The script between two lists of words turns the one into the other.** -/
theorem between_turns (source target : List String) :
    (between source target).Turns source target := by
  induction source, target using concat_induction with
  | nil => exact turns_nil
  | insert ys y s ih => exact ih.cons _ (.insert y) (by simp)
  | delete xs x s ih => exact ih.cons _ (.delete x) (by simp)
  | cell xs x ys y above left diagonal habove hleft hdiagonal =>
    exact turns_cell habove hleft hdiagonal

end EditScript

end QueryGrading
