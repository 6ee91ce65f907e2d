import QueryGrading.Proofs.Collection
import QueryGrading.Proofs.Tree.Table
import QueryGrading.Tree.WriteOnce

/-!
# The distance table is ready when it is read

`Tree.distance` starts from a table of zeros, and a look-up outside an array gives a default.
Neither matters. The same computation without defaults (`forestCell?`, `forestRow?`,
`fillKeyRoots?`, `fillSubtrees?`) has a result, and that is the table of the running functions
(`fillSubtrees?_eq`). Cell by cell the two agree (`forestCell?_eq`); that every cell is written
before it is read, and only once, is the work of the order of the key roots (`covered_before`,
`not_covered_before`).

So `tree_edit_distance` neither indexes out of range nor subtracts below zero, and a zero of the
table that it starts with is never read. The key roots of `Indexed::new` are those of the running
functions (`keyRootsByLeaf?_eq`). That the distance is the least cost of a mapping is in
`Proofs.Tree.Distance`.
-/

namespace QueryGrading

namespace Tree

/-! ## 1. One step

The tables without defaults have cells that may be blank, and every look-up may fail. They are
related to the tables with defaults: what is written in the one is what the other holds. -/

variable {a b : List Tree} {k l k' l' i j n y : Nat} {p q : Postorder} {rows S : Table}
  {row : Array Nat} {T : OnceTable} {P Q : Nat → Nat → Prop}

namespace Table

/-- The table has `m` rows of `n` numbers. -/
structure Shape (S : Table) (m n : Nat) : Prop where
  rows : S.size = m
  columns : ∀ i < m, (S.getD i #[]).size = n

variable {m : Nat}

/-- Inside the table a look-up gives what is there. -/
theorem Shape.read?_eq (h : S.Shape m n) (hi : i < m) (hj : j < n) :
    S.read? i j = some (S.get i j) := by
  have hrow : i < S.size := by rwa [h.rows]
  have hcell : j < (S.getD i #[]).size := by rwa [h.columns i hi]
  rw [read?, getElem?_eq_some_getD hrow #[], Option.bind_eq_bind, Option.bind_some, get,
    getElem?_eq_some_getD hcell 0]

/-- A number that is written keeps the shape. -/
theorem Shape.set (h : S.Shape m n) (hi : i < m) (j x : Nat) : (S.set i j x).Shape m n where
  rows := by rw [Table.set, Array.size_modify, h.rows]
  columns := by
    intro i' hi'
    rw [getD_set]
    split
    · rw [Array.size_setIfInBounds, h.columns i hi]
    · exact h.columns i' hi'

/-- So does a row of the right length that is added. -/
theorem Shape.push (h : S.Shape m n) (hrow : row.size = n) : Shape (S.push row) (m + 1) n where
  rows := by rw [Array.size_push, h.rows]
  columns := by
    intro i hi
    rw [getD_push, h.rows]
    split
    · exact hrow
    · exact h.columns i (by omega)

end Table

/-- The written cells of `T` are those of `P`, and hold what they hold in `S`; what was read of `T`
is what its cells hold. -/
structure Mirrors (a b : List Tree) (T : OnceTable) (S : Table) (P : Nat → Nat → Prop) : Prop where
  rows : T.rows = a.length
  columns : T.columns = b.length
  shape : S.Shape a.length b.length
  cells : ∀ i j n, i < a.length → j < b.length → (T.cell i j = some n ↔ P i j ∧ S.get i j = n)
  reads : ∀ r ∈ T.reads, T.cell r.1 r.2.1 = some r.2.2

/-- Which cells are covered may be said in another way. -/
theorem Mirrors.congr (h : Mirrors a b T S P)
    (hPQ : ∀ i j, i < a.length → j < b.length → (P i j ↔ Q i j)) : Mirrors a b T S Q :=
  { h with cells := fun i j n hi hj => by rw [h.cells i j n hi hj, hPQ i j hi hj] }

/-- A cell that is covered was written, so it can be read. -/
theorem Mirrors.read (h : Mirrors a b T S P) (hi : i < a.length) (hj : j < b.length) (hP : P i j) :
    ∃ T', T.read? i j = some (S.get i j, T') ∧ Mirrors a b T' S P := by
  have hcell : T.cell i j = some (S.get i j) := (h.cells i j _ hi hj).mpr ⟨hP, rfl⟩
  refine ⟨{ T with reads := (i, j, S.get i j) :: T.reads }, ?_, { h with reads := ?_ }⟩
  · simp [OnceTable.read?, h.rows, h.columns, hi, hj, hcell]
  · intro r hr
    rcases List.mem_cons.mp hr with rfl | hr
    · exact hcell
    · exact h.reads r hr

/-- A new cell changes none that was read. -/
theorem Mirrors.write (h : Mirrors a b T S P) (hi : i < a.length) (hj : j < b.length)
    (hP : ¬ P i j) (x : Nat) :
    ∃ T', T.write? i j x = some T' ∧
      Mirrors a b T' (S.set i j x) fun i' j' => P i' j' ∨ (i' = i ∧ j' = j) := by
  have hnone : T.cell i j = none := by
    refine Option.eq_none_iff_forall_ne_some.mpr fun n hn => hP ((h.cells i j n hi hj).mp hn).1
  have hcolumn : j < (S.getD i #[]).size := by rwa [h.shape.columns i hi]
  refine ⟨{ T with cell := fun i' j' => if i' = i ∧ j' = j then some x else T.cell i' j' }, ?_,
    h.rows, h.columns, h.shape.set hi j x, fun i' j' n hi' hj' => ?_, fun r hr => ?_⟩
  · simp [OnceTable.write?, h.rows, h.columns, hi, hj, hnone]
  · rw [Table.get_set hcolumn]
    by_cases he : i' = i ∧ j' = j
    · simp [he]
    · simp [he, h.cells i' j' n hi' hj']
  · have hread := h.reads r hr
    have hne : ¬ (r.1 = i ∧ r.2.1 = j) := by
      rintro ⟨he, he'⟩
      rw [he, he', hnone] at hread
      exact Option.some_ne_none _ hread.symm
    exact (if_neg hne).trans hread

/-- Both arrays have an entry for each node. -/
theorem Postorder.Lists.getElem?_leftmost (h : p.Lists a) (hi : i < a.length) :
    p.leftmost[i]? = some (leftEnd a i) := by
  rw [← Array.getElem?_toList, h.leftmost]
  simp [hi]

theorem Postorder.Lists.getElem?_labels (h : p.Lists a) (hi : i < a.length) :
    p.labels[i]? = some (p.label i) := by
  have hlt : i < p.labels.size := by
    have := h.count_eq
    rw [count] at this
    omega
  exact getElem?_eq_some_getD hlt _

/-- One cell without defaults: everything that is read is there, and the cell of two subtrees that
begin where the forests begin is new. -/
theorem forestCell?_eq (hA : Block a l k) (hB : Block b l' k') (hp : p.Lists a) (hq : q.Lists b)
    (hi : l ≤ i) (hik : i ≤ k) (hj : l' ≤ j) (hjk : j ≤ k') (hy : j + 1 = l' + y) (hyn : y < n)
    (hrows : rows.Shape (i - l + 1) n) (hrow : row.size = y) (hT : Mirrors a b T S P)
    (hbefore : ¬ BeginAt a b l l' i j → P i j) (hfresh : BeginAt a b l l' i j → ¬ P i j) :
    ∃ T', forestCell? p q l l' i rows (row, T) y
        = some ((forestCell p q l l' i rows (row, S) y).1, T') ∧
      (forestCell p q l l' i rows (row, S) y).1.size = y + 1 ∧
      Mirrors a b T' (forestCell p q l l' i rows (row, S) y).2
        fun i' j' => P i' j' ∨ (i' = i ∧ j' = j ∧ BeginAt a b l l' i j) := by
  have hia : i < a.length := by have := hA.bound; omega
  have hjb : j < b.length := by have := hB.bound; omega
  have hnum : l' + y - 1 = j := by omega
  have hleaf := hA.begins i hi hik
  have hleaf' := hB.begins j hj hjk
  have hle := leftEnd_le a i
  have hle' := leftEnd_le b j
  have hcell : row[y - 1]? = some (row.getD (y - 1) 0) := getElem?_eq_some_getD (by omega) 0
  simp only [forestCell?, forestCell, Nat.psub_eq_sub (show 1 ≤ l' + y by omega), hnum,
    Nat.psub_eq_sub hi, Nat.psub_eq_sub (show 1 ≤ y by omega), hp.getElem?_leftmost hia,
    hq.getElem?_leftmost hjb, hp.leftmostOf_eq hia, hq.leftmostOf_eq hjb,
    hrows.read?_eq (show i - l < i - l + 1 by omega) hyn, hcell, Option.bind_eq_bind,
    Option.bind_some, Option.pure_def]
  -- a match is read from the neighbour on the diagonal, or from the table of subtrees
  by_cases hbegin : leftEnd a i = l ∧ leftEnd b j = l'
  · obtain ⟨T', hwrite, hT'⟩ := hT.write hia hjb (hfresh hbegin)
      (min (min (rows.get (i - l) y + 1) (row.getD (y - 1) 0 + 1))
        (rows.get (i - l) (y - 1) + relabelCost (p.label i) (q.label j)))
    simp only [if_pos hbegin, hrows.read?_eq (show i - l < i - l + 1 by omega)
      (show y - 1 < n by omega), hp.getElem?_labels hia, hq.getElem?_labels hjb, Option.bind_some,
      hwrite]
    refine ⟨T', rfl, by rw [Array.size_push, hrow], hT'.congr fun i' j' _ _ => ?_⟩
    exact or_congr_right ⟨fun h => ⟨h.1, h.2, hbegin⟩, fun h => ⟨h.1, h.2.1⟩⟩
  · obtain ⟨T', hread, hT'⟩ := hT.read hia hjb (hbefore hbegin)
    simp only [if_neg hbegin, Nat.psub_eq_sub hleaf, Nat.psub_eq_sub hleaf',
      hrows.read?_eq (show leftEnd a i - l < i - l + 1 by omega)
      (show leftEnd b j - l' < n by omega), Option.bind_some, hread]
    refine ⟨T', rfl, by rw [Array.size_push, hrow], hT'.congr fun i' j' _ _ => ?_⟩
    exact ⟨Or.inl, fun h => h.resolve_right fun h => hbegin h.2.2⟩

/-! ## 2. One pair of key roots

The two loops of a pair of key roots are followed in step. -/

/-- One row without defaults. -/
theorem forestRow?_eq (hA : Block a l k) (hB : Block b l' k') (hp : p.Lists a) (hq : q.Lists b)
    (hi : l ≤ i) (hik : i ≤ k) (hn : l' + n = k' + 1) (hrows : rows.Shape (i - l + 1) (n + 1))
    (hT : Mirrors a b T S P)
    (hbefore : ∀ j, l' ≤ j → j ≤ k' → ¬ BeginAt a b l l' i j → P i j)
    (hfresh : ∀ j, l' ≤ j → j ≤ k' → BeginAt a b l l' i j → ¬ P i j) :
    ∃ T', forestRow? p q l l' n (rows, T) i
        = some ((forestRow p q l l' n (rows, S) i).1, T') ∧
      (forestRow p q l l' n (rows, S) i).1.Shape (i + 1 - l + 1) (n + 1) ∧
      Mirrors a b T' (forestRow p q l l' n (rows, S) i).2
        fun i' j' => P i' j' ∨ (i' = i ∧ j' ≤ k' ∧ BeginAt a b l l' i' j') := by
  have hloop := foldlM_range'_simulation
    (f := forestCell p q l l' i rows) (g := forestCell? p q l l' i rows)
    (fun y plain strict => plain.1 = strict.1 ∧ plain.1.size = y ∧ Mirrors a b strict.2 plain.2
      fun i' j' => P i' j' ∨ (i' = i ∧ j' + 1 < l' + y ∧ BeginAt a b l l' i' j'))
    n 1 (b := (#[i - l + 1], S)) (c := (#[i - l + 1], T))
    ⟨rfl, rfl, hT.congr fun i' j' _ _ => ?_⟩ ?_
  · -- after the last cell the row is added to the others
    obtain ⟨⟨row, T'⟩, hloop, hsame, hsize, hT'⟩ := hloop
    refine ⟨T', ?_, ?_, hT'.congr fun i' j' _ _ => ?_⟩
    · simp only [forestRow?, forestRow, Nat.psub_eq_sub hi, Option.bind_eq_bind, Option.bind_some,
        hloop, Option.pure_def]
      rw [hsame]
    · rw [show i + 1 - l = i - l + 1 by omega]
      exact hrows.push (by rw [hsize, Nat.add_comm])
    · refine or_congr_right ⟨fun h => ⟨h.1, by omega, h.2.2⟩, fun h => ⟨h.1, by omega, h.2.2⟩⟩
  · -- no node below the first column begins where the forest begins
    refine ⟨Or.inl, fun h => h.resolve_right fun h => ?_⟩
    have := leftEnd_le b j'
    have := h.2.2.2
    omega
  · -- one cell: what is covered now was covered before, or it is the new one
    rintro y ⟨row, S'⟩ ⟨row', T'⟩ hy hlt ⟨rfl, hsize, hT'⟩
    obtain ⟨T'', hcell, hsize', hT''⟩ := forestCell?_eq (j := l' + y - 1) hA hB hp hq hi hik
      (by omega) (by omega) (by omega) (by omega) hrows hsize hT'
      (fun hne => Or.inl (hbefore _ (by omega) (by omega) hne))
      (fun hb h => h.elim (hfresh _ (by omega) (by omega) hb) fun h => by omega)
    refine ⟨_, hcell, rfl, hsize', hT''.congr fun i' j' _ _ => ?_⟩
    rw [or_assoc]
    refine or_congr_right ⟨?_, ?_⟩
    · rintro (h | ⟨rfl, rfl, hb⟩)
      · exact ⟨h.1, by omega, h.2.2⟩
      · exact ⟨rfl, by omega, hb⟩
    · rintro ⟨hi', hj', hb⟩
      rcases Nat.lt_or_ge (j' + 1) (l' + y) with hlt' | hge
      · exact Or.inl ⟨hi', hlt', hb⟩
      · obtain rfl : j' = l' + y - 1 := by omega
        exact Or.inr ⟨hi', rfl, hi' ▸ hb⟩

/-- Two key roots without defaults. -/
theorem fillKeyRoots?_eq (hA : Block a (leftEnd a k) k) (hB : Block b (leftEnd b k') k')
    (hp : p.Lists a) (hq : q.Lists b) (hT : Mirrors a b T S P)
    (hbefore : ∀ i j, leftEnd a k ≤ i → i ≤ k → leftEnd b k' ≤ j → j ≤ k' →
      ¬ BeginAt a b (leftEnd a k) (leftEnd b k') i j → P i j)
    (hfresh : ∀ i j, leftEnd a k ≤ i → i ≤ k → leftEnd b k' ≤ j → j ≤ k' →
      BeginAt a b (leftEnd a k) (leftEnd b k') i j → ¬ P i j) :
    ∃ T', fillKeyRoots? p q T (k, k') = some T' ∧
      Mirrors a b T' (fillKeyRoots p q S k k') fun i j =>
        P i j ∨ (i ≤ k ∧ j ≤ k' ∧ BeginAt a b (leftEnd a k) (leftEnd b k') i j) := by
  have hle := leftEnd_le a k
  have hle' := leftEnd_le b k'
  have hheight : k + 1 - leftEnd a k = k - leftEnd a k + 1 := by omega
  have hwidth : k' + 1 - leftEnd b k' = k' - leftEnd b k' + 1 := by omega
  have htop : Table.Shape #[(List.range (k' - leftEnd b k' + 1 + 1)).toArray]
      (leftEnd a k - leftEnd a k + 1) (k' - leftEnd b k' + 1 + 1) := by
    refine ⟨by simp, fun x hx => ?_⟩
    obtain rfl : x = 0 := by omega
    simp
  have hloop := foldlM_range'_simulation
    (f := forestRow p q (leftEnd a k) (leftEnd b k') (k' - leftEnd b k' + 1))
    (g := forestRow? p q (leftEnd a k) (leftEnd b k') (k' - leftEnd b k' + 1))
    (fun i plain strict => plain.1 = strict.1 ∧
      plain.1.Shape (i - leftEnd a k + 1) (k' - leftEnd b k' + 1 + 1) ∧
      Mirrors a b strict.2 plain.2 fun i' j' =>
        P i' j' ∨ (i' < i ∧ j' ≤ k' ∧ BeginAt a b (leftEnd a k) (leftEnd b k') i' j'))
    (k - leftEnd a k + 1) (leftEnd a k)
    (b := (#[(List.range (k' - leftEnd b k' + 1 + 1)).toArray], S))
    (c := (#[(List.range (k' - leftEnd b k' + 1 + 1)).toArray], T))
    ⟨rfl, htop, hT.congr fun i' j' _ _ => ?_⟩ ?_
  · -- after the last row all pairs of nodes that begin with the key roots are covered
    obtain ⟨⟨rows, T'⟩, hloop, -, -, hT'⟩ := hloop
    refine ⟨T', ?_, ?_⟩
    · simp only [fillKeyRoots?, hp.getElem?_leftmost hA.bound, hq.getElem?_leftmost hB.bound,
        Nat.psub_eq_sub hle, Nat.psub_eq_sub hle', Option.bind_eq_bind, Option.bind_some, hloop,
        Option.pure_def]
    · rw [fillKeyRoots, hp.leftmostOf_eq hA.bound, hq.leftmostOf_eq hB.bound, hheight, hwidth]
      refine hT'.congr fun i' j' _ _ => or_congr_right ⟨fun h => ⟨by omega, h.2⟩, fun h => ?_⟩
      exact ⟨by omega, h.2⟩
  · refine ⟨Or.inl, fun h => h.resolve_right fun h => ?_⟩
    have := leftEnd_le a i'
    have := h.2.2.1
    omega
  · -- one row: the nodes of the new row are those numbered `i`
    rintro i ⟨rows, S'⟩ ⟨rows', T'⟩ hi hlt ⟨rfl, hshape, hT'⟩
    obtain ⟨T'', hrow, hshape', hT''⟩ := forestRow?_eq hA hB hp hq hi (by omega) (by omega) hshape
      hT' (fun j hj hjk hne => Or.inl (hbefore i j hi (by omega) hj hjk hne))
      (fun j hj hjk hb h => h.elim (hfresh i j hi (by omega) hj hjk hb) fun h => by omega)
    refine ⟨_, hrow, rfl, hshape', hT''.congr fun i' j' _ _ => ?_⟩
    rw [or_assoc]
    refine or_congr_right ⟨?_, ?_⟩
    · rintro (h | ⟨rfl, h⟩)
      · exact ⟨by omega, h.2⟩
      · exact ⟨by omega, h⟩
    · rintro ⟨hi', hj', hb⟩
      rcases Nat.lt_or_ge i' i with hlt' | hge
      · exact Or.inl ⟨hlt', hj', hb⟩
      · exact Or.inr ⟨by omega, hj', hb⟩

/-! ## 3. All pairs of key roots

Which cells are written at a given time is known from the pairs of key roots that are done. So a
cell that is read was written, and a cell that is written is not written again. -/

/-- Some pair of key roots begins where nodes `i` and `j` begin. -/
def Covered (a b : List Tree) (pairs : List (Nat × Nat)) (i j : Nat) : Prop :=
  ∃ pair ∈ pairs, BeginAt a b (leftEnd a pair.1) (leftEnd b pair.2) i j

variable {f g : List Tree} {before after : List (Nat × Nat)}

/-- The two nested loops are one loop over the pairs. -/
theorem fillSubtrees_eq_foldl (p q : Postorder) (S : Table) :
    fillSubtrees p q S
      = (keyRootPairs p q).foldl (fun S pair => fillKeyRoots p q S pair.1 pair.2) S := by
  simp only [fillSubtrees, keyRootPairs, List.product, List.foldl_flatMap, List.foldl_map,
    Array.foldl_toList]

/-- The pairs are in lexicographic order. -/
theorem pairwise_keyRootPairs (hK : p.keyRoots.toList = Postorder.lastNodes false a)
    (hL : q.keyRoots.toList = Postorder.lastNodes false b) :
    (keyRootPairs p q).Pairwise fun x y => x.1 < y.1 ∨ (x.1 = y.1 ∧ x.2 < y.2) := by
  rw [keyRootPairs, hK, hL, List.product, List.pairwise_flatMap]
  constructor
  · intro i _
    rw [List.pairwise_map]
    exact (pairwise_lastNodes false b).imp fun h => Or.inr ⟨rfl, h⟩
  · refine (pairwise_lastNodes false a).imp fun h x hx y hy => Or.inl ?_
    obtain ⟨_, -, rfl⟩ := List.mem_map.mp hx
    obtain ⟨_, -, rfl⟩ := List.mem_map.mp hy
    exact h

section Pairs

variable (hK : p.keyRoots.toList = Postorder.lastNodes false (forestNodes f))
  (hL : q.keyRoots.toList = Postorder.lastNodes false (forestNodes g))
  (hpairs : keyRootPairs p q = before ++ (k, k') :: after)

include hK hL

/-- The pairs are all pairs of a key root of one tree and one of the other. -/
theorem mem_keyRootPairs : (i, j) ∈ keyRootPairs p q ↔
    i ∈ Postorder.lastNodes false (forestNodes f) ∧
      j ∈ Postorder.lastNodes false (forestNodes g) := by
  rw [keyRootPairs, hK, hL, List.pair_mem_product]

include hpairs

theorem mem_lastNodes_of_keyRootPairs : k ∈ Postorder.lastNodes false (forestNodes f) ∧
    k' ∈ Postorder.lastNodes false (forestNodes g) := by
  rw [← mem_keyRootPairs hK hL, hpairs]
  exact List.mem_append_right _ List.mem_cons_self

/-- What a pair of key roots reads of other subtrees was covered before: the key roots of both are
no later, and one of them is another. -/
theorem covered_before (hi : leftEnd (forestNodes f) k ≤ i) (hik : i ≤ k)
    (hj : leftEnd (forestNodes g) k' ≤ j) (hjk : j ≤ k')
    (hne : ¬ BeginAt (forestNodes f) (forestNodes g) (leftEnd (forestNodes f) k)
      (leftEnd (forestNodes g) k') i j) :
    Covered (forestNodes f) (forestNodes g) before i j := by
  obtain ⟨hk, hk'⟩ := mem_lastNodes_of_keyRootPairs hK hL hpairs
  have hlen := (mem_lastNodes.mp hk).1
  have hlen' := (mem_lastNodes.mp hk').1
  obtain ⟨r, hr, he⟩ := exists_lastNode (show i < (forestNodes f).length by omega)
  obtain ⟨r', hr', he'⟩ := exists_lastNode (show j < (forestNodes g).length by omega)
  have hrk := le_of_leftEnd_eq hk hr hi hik he
  have hrk' := le_of_leftEnd_eq hk' hr' hj hjk he'
  have hmem : (r, r') ∈ keyRootPairs p q := (mem_keyRootPairs hK hL).mpr ⟨hr, hr'⟩
  have hsorted := pairwise_keyRootPairs hK hL
  rw [hpairs] at hmem hsorted
  -- the pair of key roots with which `i` and `j` begin is not the present one, nor behind it
  rcases List.mem_append.mp hmem with hmem | hmem
  · exact ⟨_, hmem, he.symm, he'.symm⟩
  · rcases List.mem_cons.mp hmem with heq | hmem
    · obtain ⟨rfl, rfl⟩ := Prod.mk.inj heq
      exact absurd ⟨he.symm, he'.symm⟩ hne
    · have := (List.pairwise_cons.mp (List.pairwise_append.mp hsorted).2.1).1 _ hmem
      omega

/-- What a pair of key roots writes was not covered before. -/
theorem not_covered_before
    (hbegin : BeginAt (forestNodes f) (forestNodes g) (leftEnd (forestNodes f) k)
      (leftEnd (forestNodes g) k') i j) :
    ¬ Covered (forestNodes f) (forestNodes g) before i j := by
  rintro ⟨⟨r, r'⟩, hmem, he, he'⟩
  obtain ⟨hk, hk'⟩ := mem_lastNodes_of_keyRootPairs hK hL hpairs
  have hsorted := pairwise_keyRootPairs hK hL
  have hr : (r, r') ∈ keyRootPairs p q := hpairs ▸ List.mem_append_left _ hmem
  obtain ⟨hr, hr'⟩ := (mem_keyRootPairs hK hL).mp hr
  rw [hpairs] at hsorted
  have hlt := (List.pairwise_append.mp hsorted).2.2 _ hmem _ List.mem_cons_self
  -- two key roots that begin at the same node are one
  rcases hlt with hlt | ⟨-, hlt⟩
  · exact (mem_lastNodes.mp hr).2 k (mem_lastNodes.mp hk).1 hlt (hbegin.1.symm.trans he)
  · exact (mem_lastNodes.mp hr').2 k' (mem_lastNodes.mp hk').1 hlt (hbegin.2.symm.trans he')

/-- One more pair of key roots covers what begins with it. -/
theorem covered_append_iff (hi : i < (forestNodes f).length) (hj : j < (forestNodes g).length) :
    Covered (forestNodes f) (forestNodes g) (before ++ [(k, k')]) i j ↔
      Covered (forestNodes f) (forestNodes g) before i j ∨ (i ≤ k ∧ j ≤ k' ∧
        BeginAt (forestNodes f) (forestNodes g) (leftEnd (forestNodes f) k)
          (leftEnd (forestNodes g) k') i j) := by
  obtain ⟨hk, hk'⟩ := mem_lastNodes_of_keyRootPairs hK hL hpairs
  constructor
  · rintro ⟨pair, hmem, hbegin⟩
    rcases List.mem_append.mp hmem with hmem | hmem
    · exact Or.inl ⟨pair, hmem, hbegin⟩
    · obtain rfl := List.mem_singleton.mp hmem
      refine Or.inr ⟨?_, ?_, hbegin⟩
      · by_contra hlt
        exact (mem_lastNodes.mp hk).2 i hi (by omega) hbegin.1
      · by_contra hlt
        exact (mem_lastNodes.mp hk').2 j hj (by omega) hbegin.2
  · rintro (⟨pair, hmem, hbegin⟩ | ⟨-, -, hbegin⟩)
    · exact ⟨pair, List.mem_append_left _ hmem, hbegin⟩
    · exact ⟨(k, k'), List.mem_append_right _ (List.mem_singleton_self _), hbegin⟩

end Pairs

/-- At first no cell is written and none is covered. -/
theorem agrees_blank (hS : S.Shape a.length b.length) :
    Mirrors a b (OnceTable.blank a.length b.length) S (Covered a b []) where
  rows := rfl
  columns := rfl
  shape := hS
  cells := by simp [OnceTable.blank, Covered]
  reads := by simp [OnceTable.blank]

/-- All pairs without defaults: every cell is written. -/
theorem fillSubtrees?_eq (hp : p.Lists (forestNodes f)) (hq : q.Lists (forestNodes g))
    (hK : p.keyRoots.toList = Postorder.lastNodes false (forestNodes f))
    (hL : q.keyRoots.toList = Postorder.lastNodes false (forestNodes g))
    (hS : S.Shape (forestNodes f).length (forestNodes g).length) :
    ∃ T, fillSubtrees? p q = some T ∧
      Mirrors (forestNodes f) (forestNodes g) T (fillSubtrees p q S) fun _ _ => True := by
  rw [fillSubtrees?, fillSubtrees_eq_foldl, hp.count_eq, hq.count_eq]
  have hloop := foldlM_simulation (f := fun S pair => fillKeyRoots p q S pair.1 pair.2)
    (g := fillKeyRoots? p q) (fun pairs S T => Mirrors (forestNodes f) (forestNodes g) T S
      (Covered (forestNodes f) (forestNodes g) pairs)) (keyRootPairs p q) [] (agrees_blank hS) ?_
  · -- every node begins with some key root, so in the end all cells are covered
    obtain ⟨T, hT, hagrees⟩ := hloop
    refine ⟨T, hT, hagrees.congr fun i j hi hj => iff_true_intro ?_⟩
    obtain ⟨r, hr, he⟩ := exists_lastNode hi
    obtain ⟨r', hr', he'⟩ := exists_lastNode hj
    exact ⟨(r, r'), (mem_keyRootPairs hK hL).mpr ⟨hr, hr'⟩, he.symm, he'.symm⟩
  · -- the present pair reads what is covered already and writes what is not
    rintro before ⟨k, k'⟩ after S T hpairs hT
    obtain ⟨hk, hk'⟩ := mem_lastNodes_of_keyRootPairs hK hL hpairs
    obtain ⟨T', hfill, hT'⟩ := fillKeyRoots?_eq (block_forestNodes (mem_lastNodes.mp hk).1)
      (block_forestNodes (mem_lastNodes.mp hk').1) hp hq hT
      (fun i j => covered_before hK hL hpairs)
      (fun i j _ _ _ _ => not_covered_before hK hL hpairs)
    refine ⟨T', hfill, hT'.congr fun i j hi hj => ?_⟩
    exact (covered_append_iff hK hL hpairs hi hj).symm

/-! ## 4. The key roots, leaf by leaf

The source finds the key roots by noting, for each leftmost leaf, the last node that begins there.
-/

/-- What the table of last nodes holds when the first `n` nodes are noted. -/
structure IsLast (a : List Tree) (n : Nat) (last : Array (Option Nat)) : Prop where
  size : last.size = a.length
  cells : ∀ l < a.length, ∀ i, last[l]? = some (some i) ↔
    i < n ∧ leftEnd a i = l ∧ ∀ j < n, i < j → leftEnd a j ≠ l

variable {last : Array (Option Nat)}

/-- A node takes the place of the nodes noted before that begin where it begins. -/
theorem noteLast?_eq (hp : p.Lists a) (h : IsLast a n last) (hn : n < a.length) :
    ∃ last', noteLast? p.leftmost last n = some last' ∧ IsLast a (n + 1) last' := by
  have hlt : leftEnd a n < last.size := by
    have := leftEnd_le a n
    rw [h.size]
    omega
  refine ⟨last.setIfInBounds (leftEnd a n) (some n), ?_, ?_, fun l hl i => ?_⟩
  · simp [noteLast?, hp.getElem?_leftmost hn, hlt]
  · rw [Array.size_setIfInBounds, h.size]
  · rw [Array.getElem?_setIfInBounds]
    split
    · next he =>
      constructor
      · intro hi
        obtain rfl : n = i := by simpa using hi
        exact ⟨by omega, he, fun j hj hij => by omega⟩
      · rintro ⟨hi, -, hlast⟩
        have : i = n := by
          by_contra hne
          exact hlast n (by omega) (by omega) he
        rw [this]
    · next he =>
      rw [h.cells l hl i]
      constructor
      · rintro ⟨hi, hleft, hlast⟩
        refine ⟨by omega, hleft, fun j hj hij => ?_⟩
        rcases Nat.lt_succ_iff_lt_or_eq.mp hj with hj | rfl
        · exact hlast j hj hij
        · exact he
      · rintro ⟨hi, hleft, hlast⟩
        refine ⟨?_, hleft, fun j hj hij => hlast j (by omega) hij⟩
        rcases Nat.lt_succ_iff_lt_or_eq.mp hi with hi | rfl
        · exact hi
        · exact absurd hleft he

/-- In the end the last nodes are noted, and no others. -/
theorem IsLast.mem_iff (h : IsLast a a.length last) :
    some i ∈ last.toList ↔ i ∈ Postorder.lastNodes false a := by
  rw [mem_lastNodes, List.mem_iff_getElem?]
  simp only [Array.getElem?_toList]
  constructor
  · rintro ⟨l, hl⟩
    have hlt : l < a.length := h.size ▸ (Array.getElem?_eq_some_iff.mp hl).1
    obtain ⟨hi, rfl, hlast⟩ := (h.cells l hlt i).mp hl
    exact ⟨hi, hlast⟩
  · rintro ⟨hi, hlast⟩
    have hlt : leftEnd a i < a.length := by
      have := leftEnd_le a i
      omega
    exact ⟨leftEnd a i, (h.cells _ hlt i).mpr ⟨hi, rfl, hlast⟩⟩

/-- No node is the last to begin at two leaves. -/
theorem IsLast.nodup (h : IsLast a a.length last) : last.toList.reduceOption.Nodup := by
  rw [List.reduceOption, List.nodup_iff_pairwise_ne, List.pairwise_filterMap,
    List.pairwise_iff_getElem]
  intro l l' hl hl' hlt i hi j hj hij
  rw [Array.length_toList, h.size] at hl hl'
  have hi' : last[l]? = some (some i) := by simpa [Array.getElem?_eq_getElem (h.size ▸ hl)] using hi
  have hj' : last[l']? = some (some j) := by
    simpa [Array.getElem?_eq_getElem (h.size ▸ hl')] using hj
  have := ((h.cells l hl i).mp hi').2.1
  have := ((h.cells l' hl' j).mp hj').2.1
  subst hij
  omega

/-- The table of last nodes gives the key roots. -/
theorem keyRootsByLeaf?_eq (hp : p.Lists a) :
    keyRootsByLeaf? p.leftmost = some (Postorder.lastNodes false a) := by
  have hsize : p.leftmost.size = a.length := by
    rw [← Array.length_toList, hp.leftmost, List.length_map, List.length_range]
  have hloop := foldlM_range'_simulation (f := fun _ _ => ()) (g := noteLast? p.leftmost)
    (fun n _ last => IsLast a n last) a.length 0 (b := ())
    (c := Array.replicate a.length none) ⟨by simp, fun l hl i => by simp [hl]⟩
    fun i _ last _ hi h => noteLast?_eq hp h (by omega)
  obtain ⟨last, hloop, hlast⟩ := hloop
  rw [Nat.zero_add] at hlast
  have hperm : last.toList.reduceOption.mergeSort.Perm (Postorder.lastNodes false a) := by
    refine (List.mergeSort_perm _ _).trans ?_
    rw [List.perm_ext_iff_of_nodup hlast.nodup ((pairwise_lastNodes false a).imp Nat.ne_of_lt)]
    intro i
    rw [List.reduceOption_mem_iff, hlast.mem_iff]
  have heq := hperm.eq_of_pairwise (fun i j _ _ => Nat.le_antisymm)
    (mergeSort_pairwise (fun _ _ => decide_eq_true_iff) _)
    ((pairwise_lastNodes false a).imp Nat.le_of_lt)
  simp only [keyRootsByLeaf?, hsize, hloop, Option.bind_eq_bind, Option.bind_some, Option.pure_def]
  rw [heq]

/-! ## 5. The distance

What the table holds in the end does not depend on what it held at first, since every cell is
written. -/

theorem Covers.shape (h : Covers a b S P) : S.Shape a.length b.length := ⟨h.rows, h.columns⟩

theorem Table.Shape.covers (h : S.Shape a.length b.length) : Covers a b S fun _ _ => False where
  rows := h.rows
  columns := h.columns
  cells := fun _ _ _ _ _ _ h => h.elim

/-- What the table of two trees held at first does not matter. -/
theorem covers_fillSubtrees (s t : Tree) (hS : S.Shape s.size t.size) :
    Covers s.nodes t.nodes (fillSubtrees (Postorder.ofTree s) (Postorder.ofTree t) S)
      fun _ _ => True := by
  have hp := Postorder.lists_ofTree s
  have hq := Postorder.lists_ofTree t
  have hK := Postorder.keyRoots_ofTree s
  have hL := Postorder.keyRoots_ofTree t
  rw [← length_nodes, ← length_nodes] at hS
  rw [← forestNodes_singleton] at hp hq hK hL hS ⊢
  rw [← forestNodes_singleton t] at hS ⊢
  exact fillSubtrees_spec hp hq hK hL hS.covers

/-- The table of two trees without defaults is that of `distance`. -/
theorem exists_fillSubtrees? (s t : Tree) :
    ∃ T, fillSubtrees? (Postorder.ofTree s) (Postorder.ofTree t) = some T ∧
      Mirrors s.nodes t.nodes T (fillSubtrees (Postorder.ofTree s) (Postorder.ofTree t)
        (Table.filled s.size t.size 0)) fun _ _ => True := by
  have hp := Postorder.lists_ofTree s
  have hq := Postorder.lists_ofTree t
  have hK := Postorder.keyRoots_ofTree s
  have hL := Postorder.keyRoots_ofTree t
  have hS := (covers_filled s.nodes t.nodes).shape
  rw [← length_nodes s, ← length_nodes t]
  rw [← forestNodes_singleton] at hp hq hK hL hS ⊢
  rw [← forestNodes_singleton t] at hS ⊢
  exact fillSubtrees?_eq hp hq hK hL hS

/-- **Every distance of two subtrees is in the table before it is read, and stays.**  Without
defaults the key roots, the table and the distance come out as they do with them. No number that was
read is another in the end, and the table then holds, for every node of one tree and every node of
the other, the distance of their subtrees by the recursion on the last roots of forests, whatever it
held at first. -/
theorem distance_reads_final (s t : Tree) :
    keyRootsByLeaf? (Postorder.ofTree s).leftmost = some (Postorder.ofTree s).keyRoots.toList ∧
    ∃ T, distanceOnce? s t = some (s.distance t, T) ∧
      (∀ i j n, (i, j, n) ∈ T.reads → T.cell i j = some n) ∧
      ∀ i j u v, s.nodes[i]? = some u → t.nodes[j]? = some v →
        T.cell i j = some (forestDistance [u] [v]) ∧
        ∀ S : Table, S.Shape s.size t.size →
          (fillSubtrees (Postorder.ofTree s) (Postorder.ofTree t) S).get i j
            = forestDistance [u] [v] := by
  have hcount : ∀ t : Tree, (Postorder.ofTree t).count = t.size := fun t => by
    rw [(Postorder.lists_ofTree t).count_eq, length_nodes]
  have hlast : ∀ t : Tree, t.size - 1 < t.nodes.length := fun t => by
    have := size_pos t
    rw [length_nodes]
    omega
  obtain ⟨T, hT, hmirrors⟩ := exists_fillSubtrees? s t
  obtain ⟨T', hread, hmirrors'⟩ := hmirrors.read (hlast s) (hlast t) trivial
  refine ⟨?_, T', ?_, fun i j n hn => hmirrors'.reads _ hn, fun i j u v hu hv => ?_⟩
  · rw [Postorder.keyRoots_ofTree, keyRootsByLeaf?_eq (Postorder.lists_ofTree s)]
  · rw [distance, hcount, hcount]
    simp only [distanceOnce?, hT, hcount, Nat.psub_eq_sub (size_pos s),
      Nat.psub_eq_sub (size_pos t), Option.bind_eq_bind, Option.bind_some]
    exact hread
  · have hi := (List.getElem?_eq_some_iff.mp hu).1
    have hj := (List.getElem?_eq_some_iff.mp hv).1
    refine ⟨?_, fun S hS => (covers_fillSubtrees s t hS).cells i u j v hu hv trivial⟩
    have hfilled := (covers_filled s.nodes t.nodes).shape
    rw [length_nodes, length_nodes] at hfilled
    rw [hmirrors'.cells i j _ hi hj]
    exact ⟨trivial, (covers_fillSubtrees s t hfilled).cells i u j v hu hv trivial⟩

/-- The second leaf is compared with `b` for the first pair of key roots, and that is read for the
second; then the roots are read. -/
example :
    let leaf (key : String) := node key "" []
    (distanceOnce? (node "a" "" [leaf "b", leaf "c"]) (leaf "b")).map
      (fun r => (r.1, r.2.reads)) = some (2, [(2, 0, 2), (1, 0, 1)]) := by
  decide +kernel

end Tree

end QueryGrading
