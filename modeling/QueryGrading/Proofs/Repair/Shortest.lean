import QueryGrading.Proofs.Repair.Alignment
import QueryGrading.Proofs.Repair.Script
import QueryGrading.Repair.TraceBack

/-!
# Shortest scripts

The distance of the script between two lists of words is the least number of words that have to be
deleted, inserted or replaced to turn the one into the other, and the script has that many steps
besides those that keep a word. Its steps need not be stored: the walk back through the table of
distances (`EditScript.traceBack?`) finds the same ones, and never leaves the table. All this
together is `EditScript.between_shortest`.

The source function is `word_edit_distance`, of which `EditScript.between` is the table with the
steps in its cells, and `traceBack?` the second loop. Nothing is said here of the use that a repair
makes of the script; that is in `Proofs.Repair.Substitution`.
-/

namespace QueryGrading

/-- A step that does not keep its word. -/
def WordEdit.isChange : WordEdit → Bool
  | keep _ => false
  | _ => true

namespace EditScript

variable {above left diagonal : EditScript} {source target xs ys : List String} {x y : String}
  {i j : Nat}

/-! ## 1. The distance

The distances of the scripts fill the table that the source fills, and are least costs of alignments
for the same reason. -/

/-- The distance of a cell follows from the three cells around it. -/
theorem distance_cell (above left diagonal : EditScript) (x y : String) :
    (cell above left diagonal x y).distance =
      if x = y then diagonal.distance
      else min (min (above.distance + 1) (left.distance + 1)) (diagonal.distance + 1) := by
  unfold cell
  extract_lets distance
  change _ = distance
  split
  · rfl
  · split
    · rfl
    · split <;> rfl

/-- The last step of a cell is read off the distances, in the order in which the walk asks. -/
theorem reversed_cell (above left diagonal : EditScript) (x y : String) :
    (cell above left diagonal x y).reversed =
      if (cell above left diagonal x y).distance = above.distance + 1 then
        .delete x :: above.reversed
      else if (cell above left diagonal x y).distance = left.distance + 1 then
        .insert y :: left.reversed
      else (if x = y then .keep x else .replace x y) :: diagonal.reversed := by
  rw [distance_cell]
  unfold cell
  extract_lets distance
  change _ = if distance = above.distance + 1 then _ else if distance = left.distance + 1 then _
    else _
  split
  · rfl
  · split
    · rfl
    · split <;> rfl

/-- **The distance of a script is the least cost of an alignment of its words**, where each change
costs one. -/
theorem leastCost_between (source target : List String) :
    EditCosts.unit.LeastCost source target (between source target).distance := by
  induction source, target using concat_induction with
  | nil => exact EditCosts.leastCost_nil
  | insert ys y s ih => exact ih.insert y
  | delete xs x s ih => exact ih.delete x
  | cell xs x ys y above left diagonal habove hleft hdiagonal =>
    rw [distance_cell]
    exact habove.cell hleft hdiagonal

/-- A script changes as many words as its distance says. -/
def IsCounted (s : EditScript) : Prop := s.reversed.countP WordEdit.isChange = s.distance

/-- A cell counts its changes if the three cells around it do. -/
theorem isCounted_cell (habove : above.IsCounted) (hleft : left.IsCounted)
    (hdiagonal : diagonal.IsCounted) : (cell above left diagonal x y).IsCounted := by
  have hdistance := distance_cell above left diagonal x y
  unfold IsCounted at habove hleft hdiagonal ⊢
  rw [reversed_cell]
  split
  · next heq => rw [List.countP_cons, habove, heq]; rfl
  · next hup =>
    split
    · next heq => rw [List.countP_cons, hleft, heq]; rfl
    · next hside =>
      split at hdistance
      · next hxy =>
        rw [if_pos hxy, List.countP_cons, hdiagonal, hdistance]
        rfl
      · next hxy =>
        -- neither of the other two cells explains the distance
        have hlast : (cell above left diagonal x y).distance = diagonal.distance + 1 := by omega
        rw [if_neg hxy, List.countP_cons, hdiagonal, hlast]
        rfl

/-- Every script counts its changes. -/
theorem isCounted_between (source target : List String) : (between source target).IsCounted := by
  induction source, target using concat_induction with
  | nil => rfl
  | insert ys y s ih =>
    rw [IsCounted, more, List.countP_cons, ih]
    rfl
  | delete xs x s ih =>
    rw [IsCounted, more, List.countP_cons, ih]
    rfl
  | cell xs x ys y above left diagonal habove hleft hdiagonal =>
    exact isCounted_cell habove hleft hdiagonal

/-! ## 2. The walk back

The source walks back from the last cell and asks at each which neighbour it came from. At every
cell it visits, the step it finds is the last step of the script that was kept there. -/

theorem getElem?_row (source : List String) (h : j ≤ target.length) :
    (row source target)[j]? = some (between source (target.take j)) := by
  induction target using List.reverseRecOn with
  | nil =>
    obtain rfl : j = 0 := Nat.le_zero.mp h
    obtain ⟨s, hrow⟩ := List.length_eq_one_iff.mp (length_row source [])
    rw [List.take_nil, ← getLastD_row, hrow]
    rfl
  | append_singleton target y ih =>
    have hlength := length_row source target
    rw [row_target_concat]
    rcases Nat.le_or_eq_of_le_succ (by simpa using h) with hj | rfl
    · rw [List.getElem?_append_left (by omega), ih hj, List.take_append_of_le_length hj]
    · rw [List.getElem?_append_right (by omega), hlength, Nat.sub_self,
        List.take_of_length_le (by simp)]
      rfl

/-- **The table holds the distances of all beginnings.** -/
theorem distanceAt?_eq (hi : i ≤ source.length) (hj : j ≤ target.length) :
    distanceAt? source target i j = some (between (source.take i) (target.take j)).distance := by
  have hrow : (distances source target)[i]? =
      some ((row (source.take i) target).map (·.distance)) := by
    rw [distances, List.getElem?_map, List.getElem?_scanl, if_pos hi]
    rfl
  have hcell : ((row (source.take i) target).map (·.distance))[j]? =
      some (between (source.take i) (target.take j)).distance := by
    rw [List.getElem?_map, getElem?_row _ hj]
    rfl
  simp [distanceAt?, hrow, hcell]

/-- **The walk back reads the script of every cell**, so it never leaves the table. -/
theorem traceBack?_eq {source target : List String} {i j : Nat} (hi : i ≤ source.length)
    (hj : j ≤ target.length) :
    traceBack? source target i j =
      some (between (source.take i) (target.take j)).reversed := by
  match i, j with
  | 0, 0 => rw [traceBack?]; rfl
  -- at the edges of the table there is one way back
  | i + 1, 0 =>
    have hback := traceBack?_eq (i := i) (Nat.le_of_succ_le hi) hj
    have hhere := distanceAt?_eq hi hj
    have habove := distanceAt?_eq (Nat.le_of_succ_le hi) hj
    rw [List.take_succ_eq_append_getElem hi, List.take_zero, between_concat_nil] at hhere ⊢
    rw [traceBack?, hhere, habove, hback, List.getElem?_eq_getElem hi]
    simp [more]
  | 0, j + 1 =>
    have hback := traceBack?_eq (j := j) hi (Nat.le_of_succ_le hj)
    have hhere := distanceAt?_eq hi hj
    have hleft := distanceAt?_eq hi (Nat.le_of_succ_le hj)
    rw [List.take_succ_eq_append_getElem hj, List.take_zero, between_nil_concat] at hhere ⊢
    rw [traceBack?, hhere, hleft, hback, List.getElem?_eq_getElem hj]
    simp [more]
  -- inside the walk asks for the cell above, then for the one on the left
  | i + 1, j + 1 =>
    have hup := traceBack?_eq (i := i) (Nat.le_of_succ_le hi) hj
    have hside := traceBack?_eq (j := j) hi (Nat.le_of_succ_le hj)
    have hboth := traceBack?_eq (i := i) (j := j) (Nat.le_of_succ_le hi) (Nat.le_of_succ_le hj)
    have hhere := distanceAt?_eq hi hj
    have habove := distanceAt?_eq (Nat.le_of_succ_le hi) hj
    have hleft := distanceAt?_eq hi (Nat.le_of_succ_le hj)
    rw [traceBack?, hhere, habove, hleft, hup, hside, hboth, List.getElem?_eq_getElem hi,
      List.getElem?_eq_getElem hj]
    rw [List.take_succ_eq_append_getElem hi, List.take_succ_eq_append_getElem hj,
      between_concat_concat, reversed_cell]
    simp only [Option.bind_eq_bind, Option.bind_some, Option.pure_def]
    split
    · rfl
    · split <;> rfl
termination_by i + j

/-! ## 3. All together -/

/-- **The script between two lists of words is a shortest one, and the walk back through the table
of distances finds it.**  Its distance is the least number of changes that turn the one list into
the other, its steps spell both of them, a step that replaces a word replaces it by another one, and
as many steps as the distance says do not keep their word. -/
theorem between_shortest (source target : List String) :
    let script := between source target
    traceBack? source target source.length target.length = some script.reversed ∧
      IsLeast {n | EditCosts.unit.Aligns source target n} script.distance ∧
      script.steps.flatMap WordEdit.source = source ∧
      script.steps.flatMap WordEdit.target = target ∧
      (∀ x y, .replace x y ∈ script.steps → x ≠ y) ∧
      script.steps.countP WordEdit.isChange = script.distance := by
  intro script
  have hwalk := traceBack?_eq (Nat.le_refl source.length) (Nat.le_refl target.length)
  rw [List.take_length, List.take_length] at hwalk
  have hturns : script.Turns source target := between_turns source target
  have hcounted : script.IsCounted := isCounted_between source target
  refine ⟨hwalk, leastCost_between source target, hturns.source, hturns.target, hturns.ne, ?_⟩
  rw [steps, List.countP_reverse]
  exact hcounted

end EditScript

end QueryGrading
