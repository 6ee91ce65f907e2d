import Mathlib
import QueryGrading.Collection

/-!
# Laws of the list operations

Texts are ordered linearly, and so are rows, as words over texts. So sorting picks one list out of
all lists with the same elements: two lists sort to the same list exactly when one is a permutation
of the other (`mergeSort_eq_iff`). All comparisons of the program that forget an order rest on this,
of names (`sorted`), of rows and of columns (`sortedRows`).

What `sorted_difference` leaves is the difference of two multisets, in the order of the first list
(`coe_leftover`, `leftover_sublist`), whether or not the lists are sorted. The sums and greatest
elements that grids are measured by are bounded term by term. A search for the least of what a
partial function makes of a list ends at the earliest element with the least key
(`argmin_filterMap_eq_some_iff`), which is what a loop computes that replaces its best candidate by
a strictly better one only.

Lists whose elements are related pairwise are read alike if related elements are
(`map_eq_of_forall₂`), and a traversal that may fail relates its results to the elements
(`mapM_eq_some_iff`). These are for statements about two trees or two batches that correspond node
by node or statement by statement.
-/

namespace QueryGrading

/-! ## 1. Sums and greatest elements -/

theorem total_eq_sum : ∀ ns : List Nat, total ns = ns.sum
  | [] => rfl
  | n :: rest => by rw [total, total_eq_sum rest, List.sum_cons]

theorem total_map_le {α : Type} {f : α → Nat} {k : Nat} {xs : List α} (h : ∀ x ∈ xs, f x ≤ k) :
    total (xs.map f) ≤ xs.length * k := by
  rw [total_eq_sum]
  simpa using List.sum_le_card_nsmul (xs.map f) k (by simpa using h)

theorem foldl_max_le_iff {α : Type} [LinearOrder α] (k : α) : ∀ (ns : List α) (m : α),
    ns.foldl max m ≤ k ↔ m ≤ k ∧ ∀ n ∈ ns, n ≤ k
  | [], m => by simp
  | n :: rest, m => by
    rw [List.foldl_cons, foldl_max_le_iff k rest]
    simp [and_assoc]

/-! ## 2. Sorted lists

Sorting is a permutation, and two lists sort alike just where they are permutations of each other.
The definitions of the model sort texts and rows of texts, so both are cases of `mergeSort_eq_iff`.
-/

section MergeSort

variable {α : Type} [LinearOrder α] {before : α → α → Bool}

/-- A list sorted by a test of `≤` is ascending. -/
theorem mergeSort_pairwise (h : ∀ a b, before a b = true ↔ a ≤ b) (xs : List α) :
    (xs.mergeSort before).Pairwise fun a b => a ≤ b := by
  have hsorted : (xs.mergeSort before).Pairwise fun a b => before a b = true := by
    refine List.pairwise_mergeSort ?_ ?_ xs
    · intro a b c hab hbc
      rw [h] at hab hbc ⊢
      exact hab.trans hbc
    · intro a b
      rw [Bool.or_eq_true, h, h]
      exact le_total a b
  exact hsorted.imp (h _ _).mp

/-- **Sorting forgets the order and nothing else.** -/
theorem mergeSort_eq_iff (h : ∀ a b, before a b = true ↔ a ≤ b) (xs ys : List α) :
    xs.mergeSort before = ys.mergeSort before ↔ xs.Perm ys := by
  have hx : (xs.mergeSort before).Perm xs := List.mergeSort_perm _ _
  have hy : (ys.mergeSort before).Perm ys := List.mergeSort_perm _ _
  constructor
  · intro heq
    rw [heq] at hx
    exact hx.symm.trans hy
  · intro hperm
    -- both are ascending with the same elements, and there is only one such list
    have hsorted : (xs.mergeSort before).Perm (ys.mergeSort before) :=
      (hx.trans hperm).trans hy.symm
    exact hsorted.eq_of_pairwise (fun a b _ _ => le_antisymm) (mergeSort_pairwise h xs)
      (mergeSort_pairwise h ys)

end MergeSort

theorem sorted_perm (xs : List String) : (sorted xs).Perm xs := List.mergeSort_perm _ _

theorem sorted_pairwise (xs : List String) : (sorted xs).Pairwise (· ≤ ·) :=
  mergeSort_pairwise (fun _ _ => decide_eq_true_iff) xs

theorem sorted_eq_iff (xs ys : List String) : sorted xs = sorted ys ↔ xs.Perm ys :=
  mergeSort_eq_iff (fun _ _ => decide_eq_true_iff) xs ys

theorem rowLess_iff (a b : List String) : rowLess a b = true ↔ a < b := by
  simp [rowLess, ← List.lex_lt]

theorem not_rowLess_iff (a b : List String) : (!rowLess b a) = true ↔ a ≤ b := by
  rw [Bool.not_eq_true', ← Bool.not_eq_true, rowLess_iff, not_lt]

theorem sortedRows_perm (xs : List (List String)) : (sortedRows xs).Perm xs :=
  List.mergeSort_perm _ _

theorem sortedRows_pairwise (xs : List (List String)) :
    (sortedRows xs).Pairwise fun a b => a ≤ b :=
  mergeSort_pairwise not_rowLess_iff xs

theorem sortedRows_eq_iff (xs ys : List (List String)) :
    sortedRows xs = sortedRows ys ↔ xs.Perm ys :=
  mergeSort_eq_iff not_rowLess_iff xs ys

/-! ## 3. What is left of a list

`sorted_difference` takes each element of the one list out of the other. That is the difference of
lists as the library has it, and its laws carry over. -/

section Leftover

variable {α : Type} [DecidableEq α] {xs ys xs' ys' : List α}

theorem leftover_eq_diff : ∀ xs pool : List α, leftover xs pool = xs.diff pool
  | [], pool => by rw [leftover, List.nil_diff]
  | x :: xs, pool => by
    rw [leftover, List.cons_diff, leftover_eq_diff xs, leftover_eq_diff xs]
    simp

/-- What is left of a list is the difference of multisets. -/
theorem coe_leftover (xs ys : List α) : (leftover xs ys : Multiset α) = (xs : Multiset α) - ys := by
  rw [leftover_eq_diff, Multiset.coe_sub]

theorem count_leftover (xs ys : List α) (x : α) :
    (leftover xs ys).count x = xs.count x - ys.count x := by
  rw [leftover_eq_diff, List.count_diff]

theorem leftover_sublist (xs ys : List α) : (leftover xs ys).Sublist xs := by
  rw [leftover_eq_diff]
  exact List.diff_sublist xs ys

theorem leftover_eq_nil_iff (xs ys : List α) : leftover xs ys = [] ↔ xs.Subperm ys := by
  rw [← Multiset.coe_eq_zero, coe_leftover, tsub_eq_zero_iff_le, Multiset.coe_le]

/-- Lists of which nothing is left of either hold the same elements equally often. -/
theorem leftover_eq_nil_and_iff (xs ys : List α) :
    leftover xs ys = [] ∧ leftover ys xs = [] ↔ xs.Perm ys := by
  rw [leftover_eq_nil_iff, leftover_eq_nil_iff]
  constructor
  · rintro ⟨hle, hge⟩
    exact hle.antisymm hge
  · intro hperm
    exact ⟨hperm.subperm, hperm.symm.subperm⟩

/-- The two differences of two lists differ in length as the lists do. -/
theorem length_leftover_add (xs ys : List α) :
    (leftover xs ys).length + ys.length = (leftover ys xs).length + xs.length := by
  -- both sides are the union of the two multisets
  have hunion : (xs : Multiset α) - ys + ys = (ys : Multiset α) - xs + xs := by
    rw [← Multiset.union_def, ← Multiset.union_def, Multiset.union_comm]
  have hcard := congrArg Multiset.card hunion
  rwa [← coe_leftover, ← coe_leftover, Multiset.card_add, Multiset.card_add, Multiset.coe_card,
    Multiset.coe_card, Multiset.coe_card, Multiset.coe_card] at hcard

/-- As many elements of one list find an equal one as of the other. -/
theorem length_sub_leftover (xs ys : List α) :
    xs.length - (leftover xs ys).length = ys.length - (leftover ys xs).length := by
  have hxs := (leftover_sublist xs ys).length_le
  have hys := (leftover_sublist ys xs).length_le
  have hadd := length_leftover_add xs ys
  omega

/-- The order of neither list matters for what is left. -/
theorem leftover_perm (hx : xs.Perm xs') (hy : ys.Perm ys') :
    (leftover xs ys).Perm (leftover xs' ys') := by
  rw [← Multiset.coe_eq_coe, coe_leftover, coe_leftover, Multiset.coe_eq_coe.mpr hx,
    Multiset.coe_eq_coe.mpr hy]

end Leftover

/-- Sorted lists of which nothing is left are equal. -/
theorem leftover_eq_nil_and_iff_of_sorted {a b : List String} (ha : a.Pairwise (· ≤ ·))
    (hb : b.Pairwise (· ≤ ·)) : leftover a b = [] ∧ leftover b a = [] ↔ a = b := by
  rw [leftover_eq_nil_and_iff]
  constructor
  · intro hperm
    exact hperm.eq_of_pairwise (fun _ _ _ _ => le_antisymm) ha hb
  · rintro rfl
    exact .refl a

/-- Of two lists that sort differently something is left, of the one or of the other. -/
theorem leftover_ne_nil_of_sorted_ne {xs ys : List String} (h : sorted xs ≠ sorted ys) :
    ¬ (leftover (sorted xs) (sorted ys) = [] ∧ leftover (sorted ys) (sorted xs) = []) := fun hnil =>
  h ((leftover_eq_nil_and_iff_of_sorted (sorted_pairwise xs) (sorted_pairwise ys)).mp hnil)

/-! ## 4. Values and their positions -/

/-- A permutation of the values of a function is the values at a permutation. -/
theorem exists_perm_map_eq {α β : Type} {f : α → β} {ys : List β} {xs : List α}
    (h : ys.Perm (xs.map f)) : ∃ zs : List α, zs.Perm xs ∧ ys = zs.map f := by
  have hcomp := List.eq_map_comp_perm f
  obtain ⟨zs, hys, hzs⟩ := (congrFun (congrFun hcomp ys) xs).mpr h
  exact ⟨zs, hzs, hys⟩

theorem map_getD_range {α : Type} (xs : List α) (d : α) :
    (List.range xs.length).map (fun i => xs.getD i d) = xs := by
  refine List.ext_getElem (by simp) fun i hi _ => ?_
  have hlt : i < xs.length := by simpa using hi
  simp [List.getD_eq_getElem?_getD, hlt]

/-! ## 5. Looking up by key

The source looks things up with `iter().find` on a name. With several elements of one name it is the
first that counts, and the lemmas say what then has to be asked of the others. -/

section Lookup

variable {α β κ : Type} [DecidableEq κ] (key : α → κ)

/-- A search by the key of an element finds one with this key, perhaps an earlier one. -/
theorem exists_find?_key {a : α} {xs : List α} (h : a ∈ xs) :
    ∃ b ∈ xs, xs.find? (fun x => key x == key a) = some b ∧ key b = key a := by
  have hsome : (xs.find? fun x => key x == key a).isSome :=
    List.find?_isSome.mpr ⟨a, h, beq_self_eq_true (key a)⟩
  obtain ⟨b, hb⟩ := Option.isSome_iff_exists.mp hsome
  exact ⟨b, List.mem_of_find?_eq_some hb, hb, by simpa using List.find?_some hb⟩

/-- Every element that is looked up by its key has the value of the element found, just where
elements of one key have one value. -/
theorem forall_find?_key_iff (f : α → β) (xs : List α) :
    (∀ a ∈ xs, (xs.find? fun x => key x == key a).map f = some (f a)) ↔
      ∀ a ∈ xs, ∀ b ∈ xs, key a = key b → f a = f b := by
  constructor
  · intro h a ha b hb hkey
    have hfound := h a ha
    rw [hkey, h b hb] at hfound
    exact (Option.some.inj hfound).symm
  · intro h a ha
    obtain ⟨b, hb, hfind, hkey⟩ := exists_find?_key key ha
    rw [hfind, Option.map_some, h b hb a ha hkey]

/-- Values are found under new keys as they were under the old ones, if no other key gets the new
name of the one that is looked up. -/
theorem lookup_map_key {f : κ → κ} {k : κ} :
    ∀ {l : List (κ × β)}, (∀ p ∈ l, f p.1 = f k → p.1 = k) →
      (l.map (Prod.map f id)).lookup (f k) = l.lookup k
  | [], _ => rfl
  | (a, b) :: rest, h => by
    have ih := lookup_map_key fun p hp => h p (List.mem_cons_of_mem _ hp)
    by_cases heq : k = a
    · subst heq
      simp
    · -- only here is it needed that no other key gets the new name of `k`
      have hne : f k ≠ f a := fun hfk => heq (h (a, b) List.mem_cons_self hfk.symm).symm
      rw [List.map_cons, Prod.map_apply, List.lookup_cons, List.lookup_cons, beq_false_of_ne hne,
        beq_false_of_ne heq]
      exact ih

end Lookup

/-! ## 6. The earliest of the least

Several searches of the source keep the best so far and replace it only by something better. They
are `List.argmin` of a filtered list, and what they find is said by a split of the list. -/

section Earliest

variable {α β : Type} {f : α → Option β} {key : β → Nat} {xs : List α} {ys : List β} {b : β}

/-- What a partial function makes of the earliest of the elements to which it gives the least
key. -/
def EarliestLeast (f : α → Option β) (key : β → Nat) (xs : List α) (b : β) : Prop :=
  ∃ before a after, xs = before ++ a :: after ∧ f a = some b ∧
    (∀ x ∈ before, ∀ y ∈ f x, key b < key y) ∧ ∀ x ∈ after, ∀ y ∈ f x, key b ≤ key y

/-- The least element, and the first of several: strictly less than all before it, at most all after
it. -/
theorem argmin_eq_some_iff_split :
    ys.argmin key = some b ↔
      ∃ before after, ys = before ++ b :: after ∧ (∀ y ∈ before, key b < key y) ∧
        ∀ y ∈ after, key b ≤ key y := by
  constructor
  · intro h
    induction ys with
    | nil => cases h
    | cons y rest ih =>
      rw [List.argmin_cons] at h
      cases hrest : rest.argmin key with
      | none =>
        rw [hrest] at h
        cases h
        rw [List.argmin_eq_none.mp hrest]
        exact ⟨[], [], rfl, nofun, nofun⟩
      | some c =>
        rw [hrest] at h
        dsimp only at h
        split at h
        · next hlt =>
          cases h
          obtain ⟨before, after, rfl, hbefore, hafter⟩ := ih hrest
          refine ⟨y :: before, after, rfl, ?_, hafter⟩
          exact List.forall_mem_cons.mpr ⟨hlt, hbefore⟩
        · next hle =>
          cases h
          refine ⟨[], rest, rfl, nofun, fun z hz => ?_⟩
          exact (Nat.le_of_not_lt hle).trans (List.le_of_mem_argmin hz hrest)
  · rintro ⟨before, after, rfl, hbefore, hafter⟩
    induction before with
    | nil =>
      rw [List.nil_append, List.argmin_cons]
      cases hrest : after.argmin key with
      | none => rfl
      | some c => exact if_neg (Nat.not_lt.mpr (hafter c (List.argmin_mem hrest)))
    | cons y before ih =>
      rw [List.forall_mem_cons] at hbefore
      rw [List.cons_append, List.argmin_cons, ih hbefore.2]
      exact if_pos hbefore.1

/-- **The least element of what a partial function makes of a list** is what it makes of the
earliest of the elements to which it gives the least key. -/
theorem argmin_filterMap_eq_some_iff :
    (xs.filterMap f).argmin key = some b ↔ EarliestLeast f key xs b := by
  rw [argmin_eq_some_iff_split]
  constructor
  · rintro ⟨ys, zs, hsplit, hys, hzs⟩
    obtain ⟨before, rest, rfl, rfl, hrest⟩ := List.filterMap_eq_append_iff.mp hsplit
    obtain ⟨skipped, a, after, rfl, hskipped, ha, rfl⟩ := List.filterMap_eq_cons_iff.mp hrest
    refine ⟨before ++ skipped, a, after, by simp, ha, fun x hx y hy => ?_, fun x hx y hy => ?_⟩
    · rcases List.mem_append.mp hx with hx | hx
      · exact hys y (List.mem_filterMap.mpr ⟨x, hx, hy⟩)
      · rw [hskipped x hx] at hy
        cases hy
    · exact hzs y (List.mem_filterMap.mpr ⟨x, hx, hy⟩)
  · rintro ⟨before, a, after, rfl, ha, hbefore, hafter⟩
    refine ⟨before.filterMap f, after.filterMap f, ?_, fun y hy => ?_, fun y hy => ?_⟩
    · rw [List.filterMap_append, List.filterMap_cons_some ha]
    · obtain ⟨x, hx, hxy⟩ := List.mem_filterMap.mp hy
      exact hbefore x hx y hxy
    · obtain ⟨x, hx, hxy⟩ := List.mem_filterMap.mp hy
      exact hafter x hx y hxy

theorem argmin_filterMap_eq_none_iff :
    (xs.filterMap f).argmin key = none ↔ ∀ x ∈ xs, f x = none := by
  rw [List.argmin_eq_none, List.filterMap_eq_nil_iff]

end Earliest

/-! ## 7. Lists related element by element

Two lists that are gone through side by side: what each pair of elements has in common, the lists
have. -/

section Related

variable {α β γ δ : Type} {R : α → β → Prop} {xs : List α} {ys : List β}

/-- Lists that are related element by element are mapped to the same list. -/
theorem map_eq_of_forall₂ {g : α → γ} {g' : β → γ} (h : List.Forall₂ R xs ys)
    (hread : ∀ x ∈ xs, ∀ y, R x y → g' y = g x) : ys.map g' = xs.map g := by
  induction h with
  | nil => rfl
  | @cons x y xs ys hxy hrest ih =>
    rw [List.map_cons, List.map_cons, hread x List.mem_cons_self y hxy,
      ih fun x hx => hread x (List.mem_cons_of_mem _ hx)]

theorem filterMap_eq_of_forall₂ {g : α → Option γ} {g' : β → Option γ} (h : List.Forall₂ R xs ys)
    (hread : ∀ x ∈ xs, ∀ y, R x y → g' y = g x) : ys.filterMap g' = xs.filterMap g := by
  have hmap : (ys.map g').filterMap id = (xs.map g).filterMap id := by
    rw [map_eq_of_forall₂ h hread]
  simpa [List.filterMap_map] using hmap

theorem forall₂_flatMap_of {Q : γ → δ → Prop} {g : α → List γ} {g' : β → List δ}
    (h : List.Forall₂ R xs ys) (hread : ∀ x ∈ xs, ∀ y, R x y → List.Forall₂ Q (g x) (g' y)) :
    List.Forall₂ Q (xs.flatMap g) (ys.flatMap g') := by
  induction h with
  | nil => exact .nil
  | @cons x y xs ys hxy hrest ih =>
    rw [List.flatMap_cons, List.flatMap_cons]
    exact List.rel_append (hread x List.mem_cons_self y hxy)
      (ih fun x hx => hread x (List.mem_cons_of_mem _ hx))

/-- Elements at one place are related. -/
theorem exists_getElem?_of_forall₂ (h : List.Forall₂ R xs ys) {i : Nat} {x : α}
    (hx : xs[i]? = some x) : ∃ y, ys[i]? = some y ∧ R x y := by
  obtain ⟨hi, rfl⟩ := List.getElem?_eq_some_iff.mp hx
  exact ⟨_, List.getElem?_eq_getElem (h.length_eq ▸ hi), h.get hi (h.length_eq ▸ hi)⟩

/-- A traversal that may fail gives the list of the results, one for each element. -/
theorem mapM_eq_some_iff {f : α → Option β} :
    xs.mapM f = some ys ↔ List.Forall₂ (fun x y => f x = some y) xs ys := by
  induction xs generalizing ys with
  | nil => simp [eq_comm]
  | cons x xs ih =>
    cases hx : f x with
    | none => cases ys <;> simp [List.mapM_cons, hx]
    | some y => cases ys <;> cases hrest : xs.mapM f <;>
        simp [List.mapM_cons, hx, hrest, ← ih]

theorem exists_mapM_eq_some {f : α → Option β} : ∀ {xs : List α},
    (∀ x ∈ xs, (f x).isSome = true) → ∃ ys, xs.mapM f = some ys
  | [], _ => ⟨[], rfl⟩
  | x :: xs, h => by
    obtain ⟨y, hy⟩ := Option.isSome_iff_exists.mp (h x List.mem_cons_self)
    obtain ⟨ys, hys⟩ := exists_mapM_eq_some fun z hz => h z (List.mem_cons_of_mem x hz)
    exact ⟨y :: ys, by simp [List.mapM_cons, hy, hys]⟩

end Related

/-- Lists with the same elements are the same if a key that no two elements share comes in the same
order. -/
theorem eq_of_map_eq {α κ : Type} (key : α → κ) {xs ys : List α} (hsubset : ∀ x ∈ xs, x ∈ ys)
    (hmap : xs.map key = ys.map key) (hkeys : (ys.map key).Nodup) : xs = ys := by
  have hlength : xs.length = ys.length := by simpa using congrArg List.length hmap
  refine List.ext_getElem hlength fun i hi hi' => ?_
  have hkey : key xs[i] = key ys[i] := by
    have := congrArg (·[i]?) hmap
    simpa [hi, hi'] using this
  exact List.inj_on_of_nodup_map hkeys (hsubset _ (List.getElem_mem hi)) (List.getElem_mem hi') hkey

/-- A list that is gone through with the proofs that its elements are in it. -/
theorem flatMap_attach_of {α β : Type} {xs : List α} {g : {x // x ∈ xs} → List β} {g' : α → List β}
    (h : ∀ x hx, g ⟨x, hx⟩ = g' x) : xs.attach.flatMap g = xs.flatMap g' := by
  conv_rhs => rw [← List.attach_map_subtype_val xs, List.flatMap_map]
  congr 1
  funext ⟨x, hx⟩
  exact h x hx

end QueryGrading
