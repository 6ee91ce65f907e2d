import QueryGrading.Proofs.Query.Consistency
import QueryGrading.Proofs.Query.RowChange

/-!
# Insertions that are found equal

The rows of an insertion are compared by place, in `compare_rows`, after `rows_in_order` has put the
cells of the submission in the order of the reference's columns. What a row means is the value that
it gives to each column, by the first place of the column's name (`assigned?`). A row of the
submission does what is expected (`Fulfils`) if it is as long as the row of the reference and gives
every column an accepted value.

Insertions that are found equal have as many rows, and a row does what is expected if it is compared
by its columns (`Aligned`): both statements write the columns alike, or every column of the
reference is found and the row is exactly as long as the columns. The condition is needed
(`fulfils_of_equal_compare`). A longer row loses its surplus cells in `rows_in_order`, before its
length is looked at. And where a column is not found, rows are compared by place although the
columns stand in another order: the lists of columns are compared by their lower case, places are
found by `eq_ignore_ascii_case`, and these differ on letters outside ASCII.

Only rows of values are treated here; that an insertion from a query is compared by the comparator
of queries needs no alignment.
-/

namespace QueryGrading

namespace Insert

variable {columns order row : List String} {name : String}

/-! ## 1. The values of a row

A row is read as a function of the columns, which is what an insertion means. -/

/-- The value that a row gives to a column: the one at the first place of the column's name. -/
def assigned? (columns row : List String) (name : String) : Option String :=
  (place? columns name).bind (row[·]?)

/-- Every name of a list is the name of a column. -/
def Finds (columns order : List String) : Prop :=
  ∀ name ∈ order, (place? columns name).isSome = true

instance : Decidable (Finds columns order) :=
  inferInstanceAs (Decidable (∀ name ∈ order, (place? columns name).isSome = true))

/-- A column is looked up by its name, whatever the case of its letters. -/
theorem place?_congr {a b : String} (h : Text.sameName a b = true) :
    place? columns a = place? columns b := by
  have hname : Text.asciiLower a = Text.asciiLower b := beq_iff_eq.mp h
  simp only [place?, Text.sameName, hname]

/-- At the place of a name stands the name, up to case. -/
theorem exists_of_place?_eq_some {i : Nat} (h : place? columns name = some i) :
    ∃ own, columns[i]? = some own ∧ Text.sameName own name = true := by
  obtain ⟨hi, hown, -⟩ := List.findIdx?_eq_some_iff_getElem.mp h
  exact ⟨columns[i], List.getElem?_eq_getElem hi, hown⟩

/-- The place of a name is one of the places of the columns. -/
theorem lt_length_of_place?_eq_some {i : Nat} (h : place? columns name = some i) :
    i < columns.length := by
  obtain ⟨hi, -⟩ := List.findIdx?_eq_some_iff_getElem.mp h
  exact hi

/-- All columns are found among themselves. -/
theorem finds_self (columns : List String) : Finds columns columns := by
  intro name hname
  rw [place?, List.findIdx?_isSome, List.any_eq_true]
  exact ⟨name, hname, Text.sameName_self name⟩

/-- A row that is long enough gives a value to each of its columns. -/
theorem exists_assigned? (hrow : columns.length ≤ row.length)
    (h : (place? columns name).isSome = true) :
    ∃ value, assigned? columns row name = some value := by
  obtain ⟨i, hi⟩ := Option.isSome_iff_exists.mp h
  have hlt : i < row.length := (lt_length_of_place?_eq_some hi).trans_le hrow
  exact ⟨row[i], by rw [assigned?, hi, Option.bind_some, List.getElem?_eq_getElem hlt]⟩

/-! ## 2. Rows in another order

`rows_in_order` takes for each column of the reference the cell at the place of its name. A name
that is not found makes it return the rows as they are. -/

/-- One row with its cells in the order of other columns. -/
def cellsInOrder (columns order row : List String) : List String :=
  if columns.isEmpty || columns == order then row
  else
    match order.mapM (place? columns) with
    | none => row
    | some places => places.filterMap (row[·]?)

/-- All rows are put in order alike. -/
theorem rowsInOrder_eq_map (columns order : List String) (rows : List (List String)) :
    rowsInOrder columns order rows = rows.map (cellsInOrder columns order) := by
  unfold rowsInOrder cellsInOrder
  split
  · rw [List.map_id']
  · cases order.mapM (place? columns) <;> simp

/-- Columns that are written alike leave a row as it is. -/
@[simp] theorem cellsInOrder_self (columns row : List String) :
    cellsInOrder columns columns row = row := by
  simp [cellsInOrder]

/-- A row stays as it is if one of the names is not found. -/
theorem cellsInOrder_of_not_finds (h : ¬ Finds columns order) :
    cellsInOrder columns order row = row := by
  unfold cellsInOrder
  split
  · rfl
  · split
    · rfl
    · next places hplaces =>
      refine absurd (fun name hname => ?_) h
      obtain ⟨i, hi⟩ := List.getElem?_of_mem hname
      obtain ⟨place, -, hplace⟩ := exists_getElem?_of_forall₂ (mapM_eq_some_iff.mp hplaces) hi
      rw [hplace, Option.isSome_some]

/-- The cells at given places, if the row has all of them. -/
theorem forall₂_assigned?_of_places {places : List Nat} (hrow : columns.length ≤ row.length)
    (h : List.Forall₂ (fun name place => place? columns name = some place) order places) :
    List.Forall₂ (fun name value => assigned? columns row name = some value) order
      (places.filterMap (row[·]?)) := by
  induction h with
  | nil => exact .nil
  | @cons name place order places hplace hrest ih =>
    have hlt : place < row.length := (lt_length_of_place?_eq_some hplace).trans_le hrow
    have hcell : row[place]? = some row[place] := List.getElem?_eq_getElem hlt
    rw [List.filterMap_cons_some hcell]
    exact .cons (by rw [assigned?, hplace, Option.bind_some, hcell]) ih

/-- **A row that is long enough is put in order by its columns**: one cell for each name, with the
value that the row gives to it.  What the row has beyond its columns is gone. -/
theorem forall₂_cellsInOrder (hfinds : Finds columns order) (hne : columns ≠ order)
    (hrow : columns.length ≤ row.length) :
    List.Forall₂ (fun name value => assigned? columns row name = some value) order
      (cellsInOrder columns order row) := by
  obtain ⟨places, hplaces⟩ := exists_mapM_eq_some hfinds
  have hnil : columns ≠ [] := by
    rintro rfl
    refine hne (List.eq_nil_iff_forall_not_mem.mpr fun name hname => ?_).symm
    exact Bool.false_ne_true (hfinds name hname)
  rw [cellsInOrder, if_neg (by simp [hnil, hne]), hplaces]
  exact forall₂_assigned?_of_places hrow (mapM_eq_some_iff.mp hplaces)

/-! ## 3. One row

Whether a row that is accepted cell by cell does what the reference does depends on whether it had
one value for each column before it was put in order. -/

/-- A row does what the row of the reference does: it is as long, and gives every column of the
reference an accepted value. -/
structure Fulfils (order columns expected found : List String) : Prop where
  length_eq : found.length = expected.length
  accepts : ∀ name ∈ order, ∀ value, assigned? order expected name = some value →
    ∃ given, assigned? columns found name = some given ∧ Accepts value given

/-- A row is compared by its columns: they are written as in the reference, or they are all found
and the row has one value for each. -/
def Aligned (order columns row : List String) : Prop :=
  columns = order ∨ Finds columns order ∧ row.length = columns.length

instance : Decidable (Aligned order columns row) :=
  inferInstanceAs (Decidable (columns = order ∨ Finds columns order ∧ row.length = columns.length))

/-- An aligned row keeps its length, and at the place of a column stands what it gives to it. -/
theorem Aligned.cellsInOrder_spec (h : Aligned order columns row)
    (hlength : order.length = columns.length) :
    (cellsInOrder columns order row).length = row.length ∧
      ∀ name i, place? order name = some i →
        (cellsInOrder columns order row)[i]? = assigned? columns row name := by
  by_cases hsame : columns = order
  · subst hsame
    rw [cellsInOrder_self]
    exact ⟨rfl, fun name i hi => by rw [assigned?, hi, Option.bind_some]⟩
  · obtain ⟨hfinds, hrow⟩ := h.resolve_left hsame
    have hcells := forall₂_cellsInOrder hfinds hsame hrow.ge
    refine ⟨by rw [← hcells.length_eq, hlength, hrow], fun name i hi => ?_⟩
    obtain ⟨own, hown, hname⟩ := exists_of_place?_eq_some hi
    obtain ⟨value, hvalue, hassigned⟩ := exists_getElem?_of_forall₂ hcells hown
    rw [hvalue, ← hassigned, assigned?, assigned?, place?_congr hname]

/-- A row that is aligned and accepted cell by cell does what is expected. -/
theorem fulfils_of_accepts {expected : List String} (haligned : Aligned order columns row)
    (hlength : order.length = columns.length)
    (h : List.Forall₂ Accepts expected (cellsInOrder columns order row)) :
    Fulfils order columns expected row := by
  obtain ⟨hcells, hvalues⟩ := haligned.cellsInOrder_spec hlength
  refine ⟨by rw [h.length_eq, hcells], fun name _ value hvalue => ?_⟩
  obtain ⟨i, hi, hcell⟩ := Option.bind_eq_some_iff.mp hvalue
  obtain ⟨given, hgiven, haccepts⟩ := exists_getElem?_of_forall₂ h hcell
  exact ⟨given, by rw [← hvalues name i hi, hgiven], haccepts⟩

/-- A row that is not aligned, and not too short, is accepted for a row that it does not fulfil: its
surplus is gone, or it says nothing of a column that is not found. -/
theorem exists_accepted_not_fulfils (haligned : ¬ Aligned order columns row)
    (hlength : order.length = columns.length) (hrow : columns.length ≤ row.length) :
    ∃ expected, List.Forall₂ Accepts expected (cellsInOrder columns order row) ∧
      ¬ Fulfils order columns expected row := by
  have hself : List.Forall₂ Accepts (cellsInOrder columns order row)
      (cellsInOrder columns order row) :=
    List.forall₂_same.mpr fun _ _ => .inr rfl
  obtain ⟨hne, hsurplus⟩ := not_or.mp haligned
  refine ⟨_, hself, fun h => ?_⟩
  by_cases hfinds : Finds columns order
  · have hcells := (forall₂_cellsInOrder hfinds hne hrow).length_eq
    exact hsurplus ⟨hfinds, by rw [h.length_eq, ← hcells, hlength]⟩
  · rw [cellsInOrder_of_not_finds hfinds] at h
    obtain ⟨name, hname, habsent⟩ : ∃ name ∈ order, place? columns name = none := by
      simpa [Finds] using hfinds
    obtain ⟨value, hvalue⟩ := exists_assigned? (hlength ▸ hrow) (finds_self order name hname)
    obtain ⟨given, hgiven, -⟩ := h.accepts name hname value hvalue
    rw [assigned?, habsent] at hgiven
    cases hgiven

/-! ## 4. The whole statement -/

variable {r s : Insert} {expected found : List (List String)}

/-- **Insertions of values are equal just where they agree in their tables, in the names of their
columns, and row by row**, with the rows of the submission in the order of the reference. -/
theorem equal_compare_iff (hr : r.source = .values expected) (hs : s.source = .values found) :
    (r.compare s).equal = true ↔
      Text.sameName r.table s.table = true ∧
        (r.columns.map Text.lower).Perm (s.columns.map Text.lower) ∧
          List.Forall₂ (fun e f => List.Forall₂ Accepts e (cellsInOrder s.columns r.columns f))
            expected found := by
  have hclean : (r.compare s).IsClean ↔ (r.compare s).equal = true :=
    and_iff_left_of_imp (consistent_compare r s).mp
  rw [← hclean, compare, compareSources, hr, hs]
  dsimp only
  rw [isClean_compareRows_iff, isClean_compareColumns_iff, rowsInOrder_eq_map, rowsInOrder_eq_map,
    List.forall₂_map_right_iff, and_assoc]
  simp only [cellsInOrder_self, List.forall₂_map_left_iff]
  split <;> simp [*]

/-- **What two equal insertions have in common.**  They have as many rows, and each aligned row of
the submission does what the row at its place in the reference does.  No row that is not aligned may
be trusted, unless it is shorter than its columns: there is a row of a reference that it is equal to
without doing the same. -/
theorem fulfils_of_equal_compare (hr : r.source = .values expected) (hs : s.source = .values found)
    (hequal : (r.compare s).equal = true) :
    expected.length = found.length ∧
      (∀ p ∈ expected.zip found,
        Aligned r.columns s.columns p.2 → Fulfils r.columns s.columns p.1 p.2) ∧
      ∀ row : List String, s.columns.length ≤ row.length → ¬ Aligned r.columns s.columns row →
        ∃ other : List String,
          ({ r with source := .values [other] }.compare
            { s with source := .values [row] }).equal = true ∧
          ¬ Fulfils r.columns s.columns other row := by
  obtain ⟨htable, hcolumns, hrows⟩ := (equal_compare_iff hr hs).mp hequal
  have hlength : r.columns.length = s.columns.length := by simpa using hcolumns.length_eq
  refine ⟨hrows.length_eq, fun p hp haligned => ?_, fun row hrow haligned => ?_⟩
  · exact fulfils_of_accepts haligned hlength (List.forall₂_zip hrows hp)
  · obtain ⟨other, haccepts, hnot⟩ := exists_accepted_not_fulfils haligned hlength hrow
    exact ⟨other, (equal_compare_iff rfl rfl).mpr ⟨htable, hcolumns, .cons haccepts .nil⟩, hnot⟩

/-- Two columns are swapped, together with their values. -/
theorem fulfils_of_equal_compare_swapped :
    let r : Insert := ⟨"employees", ["id", "name"], .values [["1", "Ann"], ["2", anyValue]]⟩
    let s : Insert := ⟨"employees", ["name", "id"], .values [["Ann", "1"], ["Bob", "2"]]⟩
    (r.compare s).equal = true ∧ Fulfils r.columns s.columns ["2", anyValue] ["Bob", "2"] := by
  intro r s
  have hann : cellsInOrder ["name", "id"] ["id", "name"] ["Ann", "1"] = ["1", "Ann"] := by
    decide +kernel
  have hbob : cellsInOrder ["name", "id"] ["id", "name"] ["Bob", "2"] = ["2", "Bob"] := by
    decide +kernel
  have hequal : (r.compare s).equal = true := by
    refine (equal_compare_iff rfl rfl).mpr ⟨by decide +kernel, .swap _ _ _, ?_⟩
    simp [r, s, hann, hbob, Accepts]
  have haligned : Aligned r.columns s.columns ["Bob", "2"] := by decide +kernel
  obtain ⟨-, hfulfils, -⟩ := fulfils_of_equal_compare (r := r) (s := s) rfl rfl hequal
  exact ⟨hequal, hfulfils (["2", anyValue], ["Bob", "2"]) (by decide) haligned⟩

/-- The same columns with a value too many: the statements are equal. -/
theorem equal_compare_surplus :
    let r : Insert := ⟨"employees", ["id", "name"], .values [["1", "Ann"]]⟩
    let s : Insert := ⟨"employees", ["name", "id"], .values [["Ann", "1", "Bob"]]⟩
    (r.compare s).equal = true ∧
      ¬ Fulfils r.columns s.columns ["1", "Ann"] ["Ann", "1", "Bob"] := by
  intro r s
  have hcells : cellsInOrder ["name", "id"] ["id", "name"] ["Ann", "1", "Bob"] = ["1", "Ann"] := by
    decide +kernel
  have hequal : (r.compare s).equal = true := by
    refine (equal_compare_iff rfl rfl).mpr ⟨by decide +kernel, .swap _ _ _, ?_⟩
    simp [r, s, hcells, Accepts]
  exact ⟨hequal, fun h => absurd h.length_eq (by decide)⟩

end Insert

end QueryGrading
