import QueryGrading.Proofs.Query.Insertion

/-!
# Insertions with their columns in another order

An insertion says the same when its columns stand in another order and the values of every row
follow them (`Insert.rearranged`). If no two columns have one name, the comparison finds this, and
either statement may be the reference (`compare_rearranged`).

Two searches have to agree for that. The lists of columns are lower-cased and sorted; the values are
moved by the first place of a name, up to the case of ASCII letters (`rows_in_order`). What carries
the second one is the list of pairs of a column and its value: a row gives a column just the value
that it is paired with (`assigned?_of_mem_zip`), and a rearrangement permutes these pairs and
nothing else (`zip_pick_perm`). So a row that was moved is moved back (`cellsInOrder_eq_of_perm`).

Rows that have more or fewer values than there are columns are in `Proofs.Query.Insertion`.
-/

namespace QueryGrading

namespace Insert

variable {columns order row cells : List String} {js : List Nat}

/-! ## 1. Pairs of a column and its value -/

/-- No two columns have one name, up to the case of ASCII letters. -/
def DistinctNames (columns : List String) : Prop := (columns.map Text.asciiLower).Nodup

instance : Decidable (DistinctNames columns) :=
  inferInstanceAs (Decidable (columns.map Text.asciiLower).Nodup)

theorem DistinctNames.of_perm {columns' : List String} (h : DistinctNames columns)
    (hperm : columns.Perm columns') : DistinctNames columns' :=
  (hperm.map Text.asciiLower).nodup_iff.mp h

/-- Where the names are distinct, the first place of a name is the one where it stands. -/
theorem place?_of_distinctNames (h : DistinctNames columns) {i : Nat} {name : String}
    (hi : columns[i]? = some name) : place? columns name = some i := by
  obtain ⟨hlt, rfl⟩ := List.getElem?_eq_some_iff.mp hi
  rw [place?, List.findIdx?_eq_some_iff_getElem]
  refine ⟨hlt, Text.sameName_self _, ?_⟩
  -- an earlier place would be that of a second column of this name
  intro j hj hsame
  have hfirst : j < (columns.map Text.asciiLower).length := by simpa using hj.trans hlt
  have hsecond : i < (columns.map Text.asciiLower).length := by simpa using hlt
  have hname : (columns.map Text.asciiLower)[j] = (columns.map Text.asciiLower)[i] := by
    simpa using beq_iff_eq.mp hsame
  exact absurd ((List.Nodup.getElem_inj_iff h).mp hname) hj.ne

/-- A row gives a column the value that it is paired with. -/
theorem assigned?_of_mem_zip (h : DistinctNames columns) {name value : String}
    (hmem : (name, value) ∈ columns.zip row) : assigned? columns row name = some value := by
  obtain ⟨i, hi⟩ := List.getElem?_of_mem hmem
  obtain ⟨hname, hvalue⟩ := List.getElem?_zip_eq_some.mp hi
  rw [assigned?, place?_of_distinctNames h hname, Option.bind_some, hvalue]

/-- Columns and values that are pairs of a statement are the values that it gives. -/
theorem forall₂_assigned?_of_zip (h : DistinctNames columns) (hcells : cells.length = order.length)
    (hsubset : order.zip cells ⊆ columns.zip row) :
    List.Forall₂ (fun name value => assigned? columns row name = some value) order cells := by
  rw [List.forall₂_iff_zip]
  refine ⟨hcells.symm, ?_⟩
  intro name value hmem
  exact assigned?_of_mem_zip h (hsubset hmem)

/-- **A row is put in another order by its pairs**: any list of columns and values that has the same
pairs is what comes out. -/
theorem cellsInOrder_eq_of_perm (h : DistinctNames columns) (hrow : row.length = columns.length)
    (hcells : cells.length = order.length) (hperm : (order.zip cells).Perm (columns.zip row)) :
    cellsInOrder columns order row = cells := by
  have hwanted := forall₂_assigned?_of_zip h hcells hperm.subset
  have hplaced : List.Forall₂ (fun name value => assigned? columns row name = some value) order
      (cellsInOrder columns order row) := by
    by_cases hsame : columns = order
    · subst hsame
      rw [cellsInOrder_self]
      exact forall₂_assigned?_of_zip h hrow (List.Subset.refl _)
    · refine forall₂_cellsInOrder ?_ hsame hrow.ge
      intro name hname
      obtain ⟨i, hi⟩ := List.getElem?_of_mem hname
      obtain ⟨value, -, hvalue⟩ := exists_getElem?_of_forall₂ hwanted hi
      obtain ⟨place, hplace, -⟩ := Option.bind_eq_some_iff.mp hvalue
      rw [hplace, Option.isSome_some]
  refine List.right_unique_forall₂' ?_ hplaced hwanted
  intro name value value' hvalue hvalue'
  exact Option.some.inj (hvalue.symm.trans hvalue')

/-! ## 2. Another order -/

/-- A list in another order: element `i` of the result is element `js[i]`. -/
def pick (js : List Nat) (xs : List String) : List String := js.map fun j => xs.getD j ""

/-- The statement with its columns in another order, and the values of every row with them. -/
def rearranged (js : List Nat) (s : Insert) : Insert where
  table := s.table
  columns := pick js s.columns
  source :=
    match s.source with
    | .values rows => .values (rows.map (pick js))
    | other => other

theorem length_pick (hjs : js.Perm (List.range columns.length)) (xs : List String) :
    (pick js xs).length = columns.length := by
  rw [pick, List.length_map, hjs.length_eq, List.length_range]

/-- A list in another order has the same elements. -/
theorem pick_perm (hjs : js.Perm (List.range columns.length)) :
    (pick js columns).Perm columns := by
  conv_rhs => rw [← map_getD_range columns ""]
  exact hjs.map _

/-- Columns and values that are rearranged alike stay in pairs. -/
theorem zip_pick_perm (hjs : js.Perm (List.range columns.length))
    (hrow : row.length = columns.length) :
    ((pick js columns).zip (pick js row)).Perm (columns.zip row) := by
  have hzip (ks : List Nat) : (pick ks columns).zip (pick ks row) =
      ks.map fun k => (columns.getD k "", row.getD k "") :=
    List.zip_map'
  have hpairs : columns.zip row =
      (List.range columns.length).map fun k => (columns.getD k "", row.getD k "") := by
    rw [← hzip, pick, pick, map_getD_range, ← hrow, map_getD_range]
  rw [hzip, hpairs]
  exact hjs.map _

/-! ## 3. Both directions -/

variable {s : Insert} {rows : List (List String)}

/-- Two statements are equal if their columns are the same in any order, and every row of the second
one, put in the order of the first, is the row there. -/
theorem compare_of_moved {a b : Insert} {f g : List String → List String}
    (ha : a.source = .values (rows.map f)) (hb : b.source = .values (rows.map g))
    (htable : a.table = b.table) (hcolumns : a.columns.Perm b.columns)
    (hmoved : ∀ row ∈ rows, cellsInOrder b.columns a.columns (g row) = f row) :
    (a.compare b).equal = true ∧ (a.compare b).incorrect = [] := by
  have hname : Text.sameName a.table b.table = true := by
    rw [htable]
    exact Text.sameName_self b.table
  have hcells : List.Forall₂
      (fun e found => List.Forall₂ Accepts e (cellsInOrder b.columns a.columns found))
      (rows.map f) (rows.map g) := by
    rw [List.forall₂_map_left_iff, List.forall₂_map_right_iff, List.forall₂_same]
    intro row hrow
    rw [hmoved row hrow, List.forall₂_same]
    exact fun cell _ => .inr rfl
  have hequal : (a.compare b).equal = true :=
    (equal_compare_iff ha hb).mpr ⟨hname, hcolumns.map Text.lower, hcells⟩
  exact ⟨hequal, (consistent_compare a b).mp hequal⟩

/-- **The order of the columns does not matter**, if no two of them have one name and every row has
one value for each: the statement with its columns in another order, and the values of every row
with them, is equal to it without an incorrect part. Either statement may be the reference. -/
theorem compare_rearranged (hvalues : s.source = .values rows) (hnames : DistinctNames s.columns)
    (hrows : ∀ row ∈ rows, row.length = s.columns.length)
    (hjs : js.Perm (List.range s.columns.length)) :
    ((s.compare (s.rearranged js)).equal = true ∧ (s.compare (s.rearranged js)).incorrect = []) ∧
      ((s.rearranged js).compare s).equal = true ∧
        ((s.rearranged js).compare s).incorrect = [] := by
  have hkept : s.source = .values (rows.map id) := by rw [hvalues, List.map_id]
  have hmoved : (s.rearranged js).source = .values (rows.map (pick js)) := by
    rw [rearranged, hvalues]
  have hcolumns : (pick js s.columns).Perm s.columns := pick_perm hjs
  have hlength : ∀ xs, (pick js xs).length = s.columns.length := length_pick hjs
  constructor
  · refine compare_of_moved hkept hmoved rfl hcolumns.symm ?_
    intro row hrow
    refine cellsInOrder_eq_of_perm (hnames.of_perm hcolumns.symm) ?_ (hrows row hrow) ?_
    · exact (hlength row).trans (hlength s.columns).symm
    · exact (zip_pick_perm hjs (hrows row hrow)).symm
  · refine compare_of_moved hmoved hkept rfl hcolumns ?_
    intro row hrow
    refine cellsInOrder_eq_of_perm hnames (hrows row hrow) ?_ (zip_pick_perm hjs (hrows row hrow))
    exact (hlength row).trans (hlength s.columns).symm

/-- Three columns and two rows are turned round. -/
theorem compare_rearranged_cycle :
    let s : Insert :=
      ⟨"employees", ["id", "Name", "pay"], .values [["1", "Ann", "9"], ["2", anyValue, "8"]]⟩
    let t : Insert :=
      ⟨"employees", ["pay", "id", "Name"], .values [["9", "1", "Ann"], ["8", "2", anyValue]]⟩
    DistinctNames s.columns ∧ [2, 0, 1].Perm (List.range s.columns.length) ∧
      s.rearranged [2, 0, 1] = t ∧ (s.compare t).equal = true ∧ (t.compare s).incorrect = [] := by
  intro s t
  have hnames : DistinctNames s.columns := by decide +kernel
  have hjs : [2, 0, 1].Perm (List.range s.columns.length) := by decide
  have ht : s.rearranged [2, 0, 1] = t := rfl
  obtain ⟨hst, hts⟩ := compare_rearranged (s := s) rfl hnames (by decide) hjs
  exact ⟨hnames, hjs, ht, ht ▸ hst.1, ht ▸ hts.2⟩

end Insert

end QueryGrading
