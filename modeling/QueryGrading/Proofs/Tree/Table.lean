import QueryGrading.Proofs.Loop
import QueryGrading.Proofs.Tree.Block

/-!
# The distance table

The table of `Tree.distance` computes `forestDistance` (`distance_eq`). `Covers` says for which
pairs of nodes the table of the subtrees, `tree_dist` in the source, is right. One cell, one row and
one pair of key roots only ever add pairs to these (`forestCell_spec`, `forestRow_spec`,
`fillKeyRoots_spec`), and the order of the key roots has every pair done before it is read
(`fillSubtrees_spec`).

Each of the four loops has its invariant: the cells of a row that are filled, the rows of the forest
table, the second key roots that are done, and the first. All four are stated by what is covered, so
what a step needs of the table is that the pairs it reads are covered already.

Here the table starts from zeros, and what is not covered is not spoken of. That no such cell is
ever read is a theorem on the same computation without defaults.
-/

namespace QueryGrading

namespace Tree

variable {a b : List Tree} {k l k' l' i j y : Nat} {t u : Tree}

/-! ## 1. Reading and writing a table

Tables are arrays of rows, and a look-up outside of them gives zero. The lemmas say what a look-up
gives after a write. -/

namespace Table

variable {S : Table} {n : Nat}

/-- A row of a table in which a cell was written. -/
theorem getD_set (S : Table) (i j n i' : Nat) :
    (S.set i j n).getD i' #[] =
      if i' = i then (S.getD i #[]).setIfInBounds j n else S.getD i' #[] := by
  simp only [set, Array.getD_eq_getD_getElem?, Array.getElem?_modify]
  by_cases h : i' = i
  · subst h
    simp only [if_pos]
    cases S[i']? <;> simp
  · rw [if_neg (Ne.symm h), if_neg h]

/-- A cell of a table in which a cell was written. -/
theorem get_set (hj : j < (S.getD i #[]).size) (i' j' : Nat) :
    (S.set i j n).get i' j' = if i' = i ∧ j' = j then n else S.get i' j' := by
  rw [get, getD_set]
  by_cases hi : i' = i
  · rw [if_pos hi, getD_setIfInBounds _ hj, hi, get]
    simp
  · rw [if_neg hi, if_neg (fun h => hi h.1), get]

/-- A cell of a table to which a row was added. -/
theorem get_push (rows : Table) (row : Array Nat) (x y : Nat) :
    Table.get (rows.push row) x y = if x = rows.size then row.getD y 0 else rows.get x y := by
  rw [get, getD_push, get]
  split <;> rfl

end Table

/-! ## 2. What the table of the subtrees holds -/

/-- The table has a cell for every two nodes, and these cells hold the distance of the two
subtrees wherever `P` says so. -/
structure Covers (a b : List Tree) (S : Table) (P : Nat → Nat → Prop) : Prop where
  rows : S.size = a.length
  columns : ∀ i < a.length, (S.getD i #[]).size = b.length
  cells : ∀ i t j u, a[i]? = some t → b[j]? = some u → P i j → S.get i j = forestDistance [t] [u]

variable {S : Table} {P Q : Nat → Nat → Prop} {n : Nat}

/-- What covers more pairs covers fewer. -/
theorem Covers.mono (h : Covers a b S P)
    (hPQ : ∀ i j, i < a.length → j < b.length → Q i j → P i j) : Covers a b S Q where
  rows := h.rows
  columns := h.columns
  cells := fun i t j u ht hu hQ => h.cells i t j u ht hu
    (hPQ i j (List.getElem?_eq_some_iff.mp ht).1 (List.getElem?_eq_some_iff.mp hu).1 hQ)

/-- Writing the distance of two subtrees covers their pair. -/
theorem Covers.set (h : Covers a b S P) (ht : a[i]? = some t) (hu : b[j]? = some u)
    (hn : n = forestDistance [t] [u]) :
    Covers a b (S.set i j n) fun i' j' => P i' j' ∨ (i' = i ∧ j' = j) := by
  have hi := (List.getElem?_eq_some_iff.mp ht).1
  have hj := (List.getElem?_eq_some_iff.mp hu).1
  refine ⟨?_, fun i' hi' => ?_, fun i' t' j' u' ht' hu' hP => ?_⟩
  · rw [Table.set, Array.size_modify, h.rows]
  · rw [Table.getD_set]
    split
    · rw [Array.size_setIfInBounds, h.columns i hi]
    · exact h.columns i' hi'
  · rw [Table.get_set (by rw [h.columns i hi]; exact hj)]
    split
    · next he =>
      obtain ⟨rfl, rfl⟩ := he
      rw [ht, Option.some.injEq] at ht'
      rw [hu, Option.some.injEq] at hu'
      rw [hn, ht', hu']
    · next he => exact h.cells i' t' j' u' ht' hu' (hP.resolve_right he)

/-! ## 3. One pair of key roots

For two key roots a table of forests is filled from the recursion on last roots. Where both forests
are subtrees, the cell goes into the table of subtrees as well, and where one is not, the match is
read from there. -/

/-- The first `n` cells of the row for the forest up to node `i`. -/
structure IsRow (a b : List Tree) (l l' i n : Nat) (row : Array Nat) : Prop where
  size : row.size = n
  cells : ∀ y < n, row.getD y 0 = blockDistance a b l l' i (l' + y)

/-- The rows of the forests up to node `i`, each with `n` cells. -/
structure IsRows (a b : List Tree) (l l' i n : Nat) (rows : Table) : Prop where
  size : rows.size = i - l + 1
  cells : ∀ x y, l + x ≤ i → y < n → rows.get x y = blockDistance a b l l' (l + x) (l' + y)

/-- Both subtrees begin where the forests begin. -/
def BeginAt (a b : List Tree) (l l' i j : Nat) : Prop := leftEnd a i = l ∧ leftEnd b j = l'

variable {p q : Postorder} {row : Array Nat} {rows : Table}

/-- One more cell of a row. -/
theorem IsRow.push (h : IsRow a b l l' i n row) {d : Nat}
    (hd : d = blockDistance a b l l' i (l' + n)) : IsRow a b l l' i (n + 1) (row.push d) where
  size := by rw [Array.size_push, h.size]
  cells := by
    intro y hy
    rw [getD_push, h.size]
    split
    · next he => rw [hd, he]
    · exact h.cells y (by omega)

/-- One more row. -/
theorem IsRows.push (h : IsRows a b l l' i n rows) (hi : l ≤ i)
    (hrow : IsRow a b l l' (i + 1) n row) : IsRows a b l l' (i + 1) n (rows.push row) where
  size := by
    rw [Array.size_push, h.size]
    omega
  cells := by
    intro x y hx hy
    rw [Table.get_push, h.size]
    split
    · next he =>
      rw [hrow.cells y hy, he]
      congr 1
      omega
    · exact h.cells x y (by omega) hy

/-- One cell of the forest table: deletion and insertion are read from the neighbours, and the
match from this table or from that of the subtrees. -/
theorem forestCell_spec (hA : Block a l k) (hB : Block b l' k') (hp : p.Lists a) (hq : q.Lists b)
    (hi : l ≤ i) (hik : i ≤ k) (hj : l' ≤ j) (hjk : j ≤ k') (hy : j + 1 = l' + y) (hyn : y < n)
    (hrows : IsRows a b l l' i n rows) (hrow : IsRow a b l l' (i + 1) y row)
    (hS : Covers a b S P) (hbefore : ¬ BeginAt a b l l' i j → P i j) :
    IsRow a b l l' (i + 1) (y + 1) (forestCell p q l l' i rows (row, S) y).1 ∧
      Covers a b (forestCell p q l l' i rows (row, S) y).2
        fun i' j' => P i' j' ∨ (i' = i ∧ j' = j ∧ BeginAt a b l l' i j) := by
  obtain ⟨t, ht⟩ : ∃ t, a[i]? = some t :=
    ⟨_, List.getElem?_eq_getElem (by have := hA.bound; omega)⟩
  obtain ⟨u, hu⟩ : ∃ u, b[j]? = some u :=
    ⟨_, List.getElem?_eq_getElem (by have := hB.bound; omega)⟩
  have hleft : p.leftmostOf i = leftEnd a i := hp.leftmostOf_eq (List.getElem?_eq_some_iff.mp ht).1
  have hleft' : q.leftmostOf j = leftEnd b j := hq.leftmostOf_eq (List.getElem?_eq_some_iff.mp hu).1
  have hnum : l' + y - 1 = j := by omega
  have hread : ∀ {i₀ j₀ : Nat}, l ≤ i₀ → i₀ ≤ i → l' ≤ j₀ → j₀ ≤ j + 1 →
      rows.get (i₀ - l) (j₀ - l') = blockDistance a b l l' i₀ j₀ := by
    intro i₀ j₀ hl hle hl' hle'
    rw [hrows.cells _ _ (by omega) (by omega), Nat.add_sub_cancel' hl, Nat.add_sub_cancel' hl']
  have hdelete : rows.get (i - l) y = blockDistance a b l l' i (j + 1) := by
    rw [← hread hi (Nat.le_refl i) (by omega) (Nat.le_refl _), hy, Nat.add_sub_cancel_left]
  have hinsert : row.getD (y - 1) 0 = blockDistance a b l l' (i + 1) j := by
    rw [hrow.cells _ (by omega), show l' + (y - 1) = j by omega]
  simp only [forestCell, hnum, hleft, hleft', hdelete, hinsert]
  split
  · -- both subtrees are the whole forests, so their distance is written
    next hbegin =>
    have hrelabel : rows.get (i - l) (y - 1) = blockDistance a b l l' i j := by
      rw [← hread hi (Nat.le_refl i) hj (by omega), show y - 1 = j - l' by omega]
    obtain ⟨htree, hcell⟩ :=
      hA.blockDistance_trees hB hi hik hj hjk ht hu hbegin.1 hbegin.2
    rw [hrelabel, hp.label_eq ht, hq.label_eq hu, ← hcell, hy]
    rw [hy] at htree
    refine ⟨hrow.push rfl, (hS.set ht hu htree).mono fun i' j' _ _ hP => ?_⟩
    exact hP.imp_right fun h => ⟨h.1, h.2.1⟩
  · -- one of them is not, so its distance was covered before
    next hbegin =>
    have hkeep := hread (hA.begins i hi hik) (leftEnd_le a i) (hB.begins j hj hjk)
      (Nat.le_succ_of_le (leftEnd_le b j))
    rw [hkeep, hS.cells i t j u ht hu (hbefore hbegin),
      ← hA.blockDistance_succ hB hi hik hj hjk ht hu, hy]
    exact ⟨hrow.push rfl, hS.mono fun i' j' _ _ hP => hP.resolve_right fun h => hbegin h.2.2⟩

/-- One row: all cells of node `i`. -/
theorem forestRow_spec (hA : Block a l k) (hB : Block b l' k') (hp : p.Lists a) (hq : q.Lists b)
    (hi : l ≤ i) (hik : i ≤ k) (hn : l' + n = k' + 1)
    (hrows : IsRows a b l l' i (n + 1) rows) (hS : Covers a b S P)
    (hbefore : ∀ j, l' ≤ j → j ≤ k' → ¬ BeginAt a b l l' i j → P i j) :
    IsRows a b l l' (i + 1) (n + 1) (forestRow p q l l' n (rows, S) i).1 ∧
      Covers a b (forestRow p q l l' n (rows, S) i).2
        fun i' j' => P i' j' ∨ (i' = i ∧ j' ≤ k' ∧ BeginAt a b l l' i' j') := by
  have hfirst : IsRow a b l l' (i + 1) 1 #[i - l + 1] := by
    refine ⟨rfl, fun y hy => ?_⟩
    obtain rfl : y = 0 := by omega
    have hsize := hA.sizes_forest (i - l + 1) (by omega)
    rw [show l + (i - l + 1) = i + 1 by omega] at hsize
    rw [Nat.add_zero l', blockDistance, forest_of_le (Nat.le_refl l'), forestDistance_nil_right,
      hsize]
    rfl
  have hloop := foldl_range'_induction (f := forestCell p q l l' i rows)
    (fun y state => IsRow a b l l' (i + 1) y state.1 ∧ Covers a b state.2
      fun i' j' => P i' j' ∨ (i' = i ∧ j' + 1 < l' + y ∧ BeginAt a b l l' i' j'))
    n 1 (b := (#[i - l + 1], S)) ⟨hfirst, hS.mono fun i' j' _ _ hP => ?_⟩ ?_
  · obtain ⟨hrow, hT⟩ := hloop
    rw [Nat.add_comm 1 n] at hrow
    refine ⟨hrows.push hi hrow, hT.mono fun i' j' _ _ hP => hP.imp_right fun h => ?_⟩
    exact ⟨h.1, by omega, h.2.2⟩
  · -- no node below the first column begins where the forest begins
    refine hP.resolve_right fun h => ?_
    have := leftEnd_le b j'
    have := h.2.2.2
    omega
  · rintro y ⟨row, T⟩ hy hlt ⟨hrow, hT⟩
    obtain ⟨hrow', hT'⟩ := forestCell_spec (j := l' + y - 1) hA hB hp hq hi hik (by omega)
      (by omega) (by omega) (by omega) hrows hrow hT
      (fun hne => Or.inl (hbefore _ (by omega) (by omega) hne))
    refine ⟨hrow', hT'.mono fun i' j' _ _ hP => ?_⟩
    rcases hP with hP | ⟨rfl, hj', hb⟩
    · exact Or.inl (Or.inl hP)
    · rcases Nat.lt_or_ge (j' + 1) (l' + y) with hlt' | hge
      · exact Or.inl (Or.inr ⟨rfl, hlt', hb⟩)
      · obtain rfl : j' = l' + y - 1 := by omega
        exact Or.inr ⟨rfl, rfl, hb⟩

/-- Two key roots: all rows of the first. -/
theorem fillKeyRoots_spec (hA : Block a (leftEnd a k) k) (hB : Block b (leftEnd b k') k')
    (hp : p.Lists a) (hq : q.Lists b) (hS : Covers a b S P)
    (hbefore : ∀ i j, leftEnd a k ≤ i → i ≤ k → leftEnd b k' ≤ j → j ≤ k' →
      ¬ BeginAt a b (leftEnd a k) (leftEnd b k') i j → P i j) :
    Covers a b (fillKeyRoots p q S k k') fun i j =>
      P i j ∨ (i ≤ k ∧ j ≤ k' ∧ BeginAt a b (leftEnd a k) (leftEnd b k') i j) := by
  have hle := leftEnd_le a k
  have hle' := leftEnd_le b k'
  have htop : IsRows a b (leftEnd a k) (leftEnd b k') (leftEnd a k) (k' + 1 - leftEnd b k' + 1)
      #[(List.range (k' + 1 - leftEnd b k' + 1)).toArray] := by
    refine ⟨by simp, fun x y hx hy => ?_⟩
    obtain rfl : x = 0 := by omega
    rw [Nat.add_zero (leftEnd a k), blockDistance, forest_of_le (Nat.le_refl _),
      forestDistance_nil_left, hB.sizes_forest y (by omega)]
    simp [Table.get, hy]
  have hloop := foldl_range'_induction
    (f := forestRow p q (leftEnd a k) (leftEnd b k') (k' + 1 - leftEnd b k'))
    (fun i state => IsRows a b (leftEnd a k) (leftEnd b k') i (k' + 1 - leftEnd b k' + 1) state.1 ∧
      Covers a b state.2 fun i' j' =>
        P i' j' ∨ (i' < i ∧ j' ≤ k' ∧ BeginAt a b (leftEnd a k) (leftEnd b k') i' j'))
    (k + 1 - leftEnd a k) (leftEnd a k)
    (b := (#[(List.range (k' + 1 - leftEnd b k' + 1)).toArray], S))
    ⟨htop, hS.mono fun i' j' _ _ hP => ?_⟩ ?_
  · rw [fillKeyRoots, hp.leftmostOf_eq hA.bound, hq.leftmostOf_eq hB.bound]
    refine hloop.2.mono fun i' j' _ _ hP => hP.imp_right fun h => ?_
    exact ⟨by omega, h.2⟩
  · refine hP.resolve_right fun h => ?_
    have := leftEnd_le a i'
    have := h.2.2.1
    omega
  · rintro i ⟨rows, T⟩ hi hlt ⟨hrows, hT⟩
    obtain ⟨hrows', hT'⟩ := forestRow_spec hA hB hp hq hi (by omega) (by omega) hrows hT
      (fun j hj hjk hne => Or.inl (hbefore i j hi (by omega) hj hjk hne))
    refine ⟨hrows', hT'.mono fun i' j' _ _ hP => ?_⟩
    rcases hP with hP | ⟨hi', hj', hb⟩
    · exact Or.inl (Or.inl hP)
    · rcases Nat.lt_or_ge i' i with hlt' | hge
      · exact Or.inl (Or.inr ⟨hlt', hj', hb⟩)
      · exact Or.inr ⟨by omega, hj', hb⟩

/-! ## 4. All key roots

The key roots come in ascending order, so a pair that is needed was done before. The invariant of
both loops says which pairs of nodes are done. -/

/-- One of the first `n` key roots begins where node `i` begins. -/
def Before (K : Array Nat) (a : List Tree) (n i : Nat) : Prop :=
  ∃ m < n, ∃ k, K[m]? = some k ∧ leftEnd a k = leftEnd a i

variable {K : Array Nat} {f g : List Tree}

/-- One more key root is done. -/
theorem before_succ_iff (hk : K[n]? = some k) :
    Before K a (n + 1) i ↔ Before K a n i ∨ leftEnd a k = leftEnd a i := by
  constructor
  · rintro ⟨m, hm, k₀, hk₀, he⟩
    rcases Nat.lt_or_ge m n with hlt | hge
    · exact Or.inl ⟨m, hlt, k₀, hk₀, he⟩
    · obtain rfl : m = n := by omega
      obtain rfl : k = k₀ := Option.some.inj (hk.symm.trans hk₀)
      exact Or.inr he
  · rintro (⟨m, hm, h⟩ | he)
    · exact ⟨m, by omega, h⟩
    · exact ⟨n, by omega, k, hk, he⟩

theorem mem_lastNodes_of_getElem? (hK : K.toList = Postorder.lastNodes false a)
    (hk : K[n]? = some k) : k ∈ Postorder.lastNodes false a := by
  rw [← hK, Array.mem_toList_iff]
  exact Array.mem_of_getElem? hk

/-- Key roots are in ascending order, so a smaller one comes before. -/
theorem before_of_lt (hK : K.toList = Postorder.lastNodes false a) (hk : K[n]? = some k)
    {k₀ : Nat} (hk₀ : k₀ ∈ Postorder.lastNodes false a) (hlt : k₀ < k)
    (he : leftEnd a k₀ = leftEnd a i) : Before K a n i := by
  have hsorted := pairwise_lastNodes false a
  rw [← hK, List.mem_iff_getElem?] at hk₀
  obtain ⟨m, hm⟩ := hk₀
  rw [Array.getElem?_toList] at hm
  refine ⟨m, ?_, k₀, hm, he⟩
  by_contra hge
  rcases Nat.lt_or_ge n m with hnm | hmn
  · obtain ⟨hn', rfl⟩ := Array.getElem?_eq_some_iff.mp hk
    obtain ⟨hm', rfl⟩ := Array.getElem?_eq_some_iff.mp hm
    rw [← hK] at hsorted
    have := List.pairwise_iff_getElem.mp hsorted n m (by simpa using hn') (by simpa using hm') hnm
    simp only [Array.getElem_toList] at this
    omega
  · obtain rfl : m = n := by omega
    have := Option.some.inj (hk.symm.trans hm)
    omega

/-- When all key roots are done, every node begins with one of them. -/
theorem before_size (hK : K.toList = Postorder.lastNodes false a) (hi : i < a.length) :
    Before K a K.size i := by
  obtain ⟨k, hk, he⟩ := exists_lastNode hi
  rw [← hK, List.mem_iff_getElem?] at hk
  obtain ⟨m, hm⟩ := hk
  rw [Array.getElem?_toList] at hm
  exact ⟨m, (Array.getElem?_eq_some_iff.mp hm).1, k, hm, he⟩

/-- A node below a key root begins where the key root begins or where an earlier one does. -/
theorem leftEnd_eq_or_before (hK : K.toList = Postorder.lastNodes false (forestNodes f))
    (hk : K[n]? = some k) (hi : leftEnd (forestNodes f) k ≤ i) (hik : i ≤ k) :
    leftEnd (forestNodes f) i = leftEnd (forestNodes f) k ∨ Before K (forestNodes f) n i := by
  have hmem := mem_lastNodes_of_getElem? hK hk
  have hlen := (mem_lastNodes.mp hmem).1
  obtain ⟨k₀, hk₀, he⟩ := exists_lastNode (show i < (forestNodes f).length by omega)
  rcases Nat.lt_or_eq_of_le (le_of_leftEnd_eq hmem hk₀ hi hik he) with hlt | rfl
  · exact Or.inr (before_of_lt hK hk hk₀ hlt he)
  · exact Or.inl he.symm

/-- **The table of the subtrees holds their distances.**  The outer loop has done all nodes that
begin where a key root before the current one begins, and the inner loop, for nodes that begin
with the current key root, those of the second tree. What a pair of key roots reads of other
subtrees is then in the table (`leftEnd_eq_or_before`). -/
theorem fillSubtrees_spec (hp : p.Lists (forestNodes f)) (hq : q.Lists (forestNodes g))
    (hK : p.keyRoots.toList = Postorder.lastNodes false (forestNodes f))
    (hL : q.keyRoots.toList = Postorder.lastNodes false (forestNodes g))
    (hS : Covers (forestNodes f) (forestNodes g) S fun _ _ => False) :
    Covers (forestNodes f) (forestNodes g) (fillSubtrees p q S) fun _ _ => True := by
  refine (Array.foldl_induction
    (fun n T => Covers (forestNodes f) (forestNodes g) T fun i _ =>
      Before p.keyRoots (forestNodes f) n i) ?_ ?_).mono fun i j hi _ _ => before_size hK hi
  · exact hS.mono fun i j _ _ ⟨m, hm, _⟩ => absurd hm (Nat.not_lt_zero m)
  · intro n T hT
    have hk : p.keyRoots[n.1]? = some p.keyRoots[n] := Array.getElem?_eq_getElem n.2
    have hkmem := mem_lastNodes_of_getElem? hK hk
    refine (Array.foldl_induction
      (fun m T => Covers (forestNodes f) (forestNodes g) T fun i j =>
        Before p.keyRoots (forestNodes f) n i ∨
          leftEnd (forestNodes f) p.keyRoots[n] = leftEnd (forestNodes f) i ∧
            Before q.keyRoots (forestNodes g) m j) ?_ ?_).mono fun i j _ hj h => ?_
    · refine hT.mono fun i j _ _ h => h.resolve_right ?_
      rintro ⟨-, m, hm, -⟩
      exact Nat.not_lt_zero m hm
    · intro m T hT
      have hl : q.keyRoots[m.1]? = some q.keyRoots[m] := Array.getElem?_eq_getElem m.2
      have hlmem := mem_lastNodes_of_getElem? hL hl
      refine (fillKeyRoots_spec (block_forestNodes (mem_lastNodes.mp hkmem).1)
        (block_forestNodes (mem_lastNodes.mp hlmem).1) hp hq hT ?_).mono fun i j hi hj h => ?_
      · intro i j hi hik hj hjl hne
        rcases leftEnd_eq_or_before hK hk hi hik with he | hbefore
        · rcases leftEnd_eq_or_before hL hl hj hjl with he' | hbefore'
          · exact absurd ⟨he, he'⟩ hne
          · exact Or.inr ⟨he.symm, hbefore'⟩
        · exact Or.inl hbefore
      · rcases h with h | ⟨he, h⟩
        · exact Or.inl (Or.inl h)
        · rcases (before_succ_iff hl).mp h with h | he'
          · exact Or.inl (Or.inr ⟨he, h⟩)
          · refine Or.inr ⟨?_, ?_, he.symm, he'.symm⟩
            · by_contra hlt
              exact (mem_lastNodes.mp hkmem).2 i hi (by omega) he.symm
            · by_contra hlt
              exact (mem_lastNodes.mp hlmem).2 j hj (by omega) he'.symm
    · rcases (before_succ_iff hk).mp h with h | he
      · exact Or.inl h
      · exact Or.inr ⟨he, before_size hL hj⟩

/-- A table of zeros covers nothing. -/
theorem covers_filled (a b : List Tree) :
    Covers a b (Table.filled a.length b.length 0) fun _ _ => False where
  rows := by simp [Table.filled]
  columns := by
    intro i hi
    simp [Table.filled, Array.getD_eq_getD_getElem?, hi]
  cells := fun _ _ _ _ _ _ h => h.elim

/-- **The table computes the recursion.** -/
theorem distance_eq (s t : Tree) : s.distance t = forestDistance [s] [t] := by
  have hp := Postorder.lists_ofTree s
  have hq := Postorder.lists_ofTree t
  have hK := Postorder.keyRoots_ofTree s
  have hL := Postorder.keyRoots_ofTree t
  rw [← forestNodes_singleton] at hp hq hK hL
  have hroot : ∀ t : Tree, (forestNodes [t])[(forestNodes [t]).length - 1]? = some t := by
    intro t
    rw [forestNodes_singleton, nodes_eq]
    simp
  have h := fillSubtrees_spec hp hq hK hL (covers_filled _ _)
  rw [distance, hp.count_eq, hq.count_eq]
  exact h.cells _ _ _ _ (hroot s) (hroot t) trivial

end Tree

end QueryGrading
