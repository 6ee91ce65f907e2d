import Mathlib
import QueryGrading.Repair.EditDistance

/-!
# Least costs of alignments

An alignment reads two lists from left to right. It passes over an element of the source, at the
cost of a deletion, or over an element of the target, at the cost of an insertion, or it pairs two
elements, at no cost if they are equal and at the cost of a replacement if not (`Aligns`). This is
what a cost means, before any table: `edit_distance_with` and `word_edit_distance` are both shown to
give the least cost of an alignment, of characters and of words.

The least cost of two beginnings follows from those of the beginnings that are one element shorter
(`LeastCost.cell`). Two equal elements need not be compared with any other move, whatever the costs,
and that is why the tables look at the diagonal alone there.

One alignment after another makes one alignment (`Aligns.trans`), which gives the triangle
inequality, and an alignment read backwards makes one of the target with the source (`Aligns.flip`),
which gives the symmetry.
-/

namespace QueryGrading

namespace EditCosts

section Alignment

variable {α : Type} [DecidableEq α]

/-! ## 1. Alignments

An alignment goes through both lists from the left, and passes over an element of either or pairs
two. The costs of the three steps are any numbers. The table of distances is filled towards the end
of the lists, so it is the last step that is looked at. -/

/-- Two lists can be aligned at this total cost. -/
inductive Aligns (costs : EditCosts) : List α → List α → Nat → Prop
  | nil : Aligns costs [] [] 0
  | delete {xs ys : List α} {n : Nat} (x : α) (h : Aligns costs xs ys n) :
    Aligns costs (xs ++ [x]) ys (n + costs.delete)
  | insert {xs ys : List α} {n : Nat} (y : α) (h : Aligns costs xs ys n) :
    Aligns costs xs (ys ++ [y]) (n + costs.insert)
  | pair {xs ys : List α} {n : Nat} (x y : α) (h : Aligns costs xs ys n) :
    Aligns costs (xs ++ [x]) (ys ++ [y]) (n + if x = y then 0 else costs.replace)

/-- The costs of the way back. -/
def flip (costs : EditCosts) : EditCosts := ⟨costs.delete, costs.insert, costs.replace⟩

variable {costs : EditCosts} {xs ys zs : List α} {x y : α} {n m : Nat}

/-- An alignment can be read as one of the target with the source. -/
theorem Aligns.flip (h : costs.Aligns xs ys n) : costs.flip.Aligns ys xs n := by
  induction h with
  | nil => exact .nil
  | delete x _ ih => exact .insert x ih
  | insert y _ ih => exact .delete y ih
  | pair x y _ ih =>
    rw [if_congr (eq_comm (a := x) (b := y)) rfl rfl]
    exact .pair y x ih

/-- How an alignment ends. -/
theorem Aligns.cases_end (h : costs.Aligns xs ys n) :
    (xs = [] ∧ ys = [] ∧ n = 0) ∨
      (∃ as a m, xs = as ++ [a] ∧ costs.Aligns as ys m ∧ n = m + costs.delete) ∨
      (∃ bs b m, ys = bs ++ [b] ∧ costs.Aligns xs bs m ∧ n = m + costs.insert) ∨
      ∃ as a bs b m, xs = as ++ [a] ∧ ys = bs ++ [b] ∧ costs.Aligns as bs m ∧
        n = m + if a = b then 0 else costs.replace := by
  cases h with
  | nil => exact .inl ⟨rfl, rfl, rfl⟩
  | delete x h => exact .inr (.inl ⟨_, x, _, rfl, h, rfl⟩)
  | insert y h => exact .inr (.inr (.inl ⟨_, y, _, rfl, h, rfl⟩))
  | pair x y h => exact .inr (.inr (.inr ⟨_, x, _, y, _, rfl, rfl, h, rfl⟩))

/-- An alignment with the empty list ends with a deletion. -/
theorem Aligns.of_nil_right (h : costs.Aligns (xs ++ [x]) [] n) :
    ∃ m, costs.Aligns xs [] m ∧ n = m + costs.delete := by
  rcases h.cases_end with ⟨hnil, -⟩ | ⟨as, a, m, heq, has, hn⟩ | ⟨bs, b, m, heq, -⟩ |
    ⟨as, a, bs, b, m, -, heq, -⟩
  · exact absurd hnil (by simp)
  · obtain ⟨rfl, rfl⟩ := List.append_singleton_inj.mp heq
    exact ⟨m, has, hn⟩
  · exact absurd heq (by simp)
  · exact absurd heq (by simp)

/-- An alignment of two lists that are not empty ends in one of three ways. -/
theorem Aligns.of_concat (h : costs.Aligns (xs ++ [x]) (ys ++ [y]) n) :
    (∃ m, costs.Aligns xs (ys ++ [y]) m ∧ n = m + costs.delete) ∨
      (∃ m, costs.Aligns (xs ++ [x]) ys m ∧ n = m + costs.insert) ∨
      ∃ m, costs.Aligns xs ys m ∧ n = m + if x = y then 0 else costs.replace := by
  rcases h.cases_end with ⟨hnil, -⟩ | ⟨as, a, m, heq, has, hn⟩ | ⟨bs, b, m, heq, hbs, hn⟩ |
    ⟨as, a, bs, b, m, heq, heq', hab, hn⟩
  · exact absurd hnil (by simp)
  · obtain ⟨rfl, rfl⟩ := List.append_singleton_inj.mp heq
    exact .inl ⟨m, has, hn⟩
  · obtain ⟨rfl, rfl⟩ := List.append_singleton_inj.mp heq
    exact .inr (.inl ⟨m, hbs, hn⟩)
  · obtain ⟨rfl, rfl⟩ := List.append_singleton_inj.mp heq
    obtain ⟨rfl, rfl⟩ := List.append_singleton_inj.mp heq'
    exact .inr (.inr ⟨m, hab, hn⟩)

/-- Without its last element a target is aligned at the cost of one deletion more at most: what was
paired with that element is passed over. -/
theorem Aligns.dropLast_target {ts : List α} (h : costs.Aligns xs ts n) :
    ∀ {ys : List α} {y : α}, ts = ys ++ [y] →
      ∃ m ≤ n + costs.delete, costs.Aligns xs ys m := by
  induction h with
  | nil => exact fun heq => absurd heq (by simp)
  | delete x _ ih =>
    intro ys y heq
    obtain ⟨m, hm, halign⟩ := ih heq
    exact ⟨m + costs.delete, Nat.add_le_add_right hm _, .delete x halign⟩
  | insert y h _ =>
    intro ys y heq
    obtain ⟨rfl, rfl⟩ := List.append_singleton_inj.mp heq
    exact ⟨_, by omega, h⟩
  | pair x y h _ =>
    intro ys y heq
    obtain ⟨rfl, rfl⟩ := List.append_singleton_inj.mp heq
    exact ⟨_, by omega, .delete x h⟩

/-- The same of the source, by reading the alignment the other way. -/
theorem Aligns.dropLast_source (h : costs.Aligns (xs ++ [x]) ys n) :
    ∃ m ≤ n + costs.insert, costs.Aligns xs ys m := by
  obtain ⟨m, hm, halign⟩ := h.flip.dropLast_target rfl
  exact ⟨m, hm, halign.flip⟩

/-! ## 2. The least cost

`LeastCost.cell` is the equation by which a cell of the table is filled. Where the last elements are
equal only the neighbour on the diagonal is read, so the other two must be shown not to lead to
less. -/

/-- The least cost of an alignment of two lists. -/
def LeastCost (costs : EditCosts) (xs ys : List α) (n : Nat) : Prop :=
  IsLeast {m | costs.Aligns xs ys m} n

variable {above left diagonal : Nat}

/-- Two empty lists cost nothing. -/
theorem leastCost_nil : costs.LeastCost ([] : List α) [] 0 := ⟨.nil, fun _ _ => Nat.zero_le _⟩

/-- Against the empty list every element is deleted. -/
theorem LeastCost.delete (h : costs.LeastCost xs [] n) (x : α) :
    costs.LeastCost (xs ++ [x]) [] (n + costs.delete) := by
  refine ⟨.delete x h.1, fun k hk => ?_⟩
  obtain ⟨m, hm, rfl⟩ := Aligns.of_nil_right hk
  exact Nat.add_le_add_right (h.2 hm) _

/-- The least cost of the way back has the costs exchanged. -/
theorem LeastCost.flip (h : costs.LeastCost xs ys n) : costs.flip.LeastCost ys xs n :=
  ⟨h.1.flip, fun _ hm => h.2 (Aligns.flip hm)⟩

/-- From the empty list every element is inserted. -/
theorem LeastCost.insert (h : costs.LeastCost [] ys n) (y : α) :
    costs.LeastCost [] (ys ++ [y]) (n + costs.insert) :=
  (h.flip.delete y).flip

/-- **The least cost of two beginnings**, from those without the last element of the source, of the
target, and of both. Two equal elements are paired: to pass over one of them saves nothing. -/
theorem LeastCost.cell (habove : costs.LeastCost xs (ys ++ [y]) above)
    (hleft : costs.LeastCost (xs ++ [x]) ys left) (hdiagonal : costs.LeastCost xs ys diagonal) :
    costs.LeastCost (xs ++ [x]) (ys ++ [y])
      (if x = y then diagonal
      else min (min (above + costs.delete) (left + costs.insert)) (diagonal + costs.replace)) := by
  -- an alignment ends in one of three ways, so its cost is at least one of the three sums
  have hlower : ∀ n, costs.Aligns (xs ++ [x]) (ys ++ [y]) n →
      above + costs.delete ≤ n ∨ left + costs.insert ≤ n ∨
        diagonal + (if x = y then 0 else costs.replace) ≤ n := by
    intro n h
    rcases h.of_concat with ⟨m, hm, rfl⟩ | ⟨m, hm, rfl⟩ | ⟨m, hm, rfl⟩
    · exact .inl (Nat.add_le_add_right (habove.2 hm) _)
    · exact .inr (.inl (Nat.add_le_add_right (hleft.2 hm) _))
    · exact .inr (.inr (Nat.add_le_add_right (hdiagonal.2 hm) _))
  by_cases hxy : x = y
  · subst hxy
    -- what is paired with `y` is passed over instead, at the cost of one deletion
    have hskip : diagonal ≤ above + costs.delete := by
      obtain ⟨m, hm, halign⟩ := habove.1.dropLast_target rfl
      exact (hdiagonal.2 halign).trans hm
    -- and the same on the other side
    have hskip' : diagonal ≤ left + costs.insert := by
      obtain ⟨m, hm, halign⟩ := hleft.1.dropLast_source
      exact (hdiagonal.2 halign).trans hm
    have hpair : costs.Aligns (xs ++ [x]) (ys ++ [x]) diagonal := by
      simpa using Aligns.pair x x hdiagonal.1
    rw [if_pos rfl]
    refine ⟨hpair, fun n h => ?_⟩
    rcases hlower n h with hn | hn | hn
    · exact hskip.trans hn
    · exact hskip'.trans hn
    · simpa using hn
  · have hpair : costs.Aligns (xs ++ [x]) (ys ++ [y]) (diagonal + costs.replace) := by
      simpa [hxy] using Aligns.pair x y hdiagonal.1
    rw [if_neg hxy]
    refine ⟨?_, fun n h => ?_⟩
    · rcases min_choice (min (above + costs.delete) (left + costs.insert))
        (diagonal + costs.replace) with heq | heq
      · rcases min_choice (above + costs.delete) (left + costs.insert) with heq' | heq'
        · rw [heq, heq']
          exact .delete x habove.1
        · rw [heq, heq']
          exact .insert y hleft.1
      · rw [heq]
        exact hpair
    · have hn := hlower n h
      rw [if_neg hxy] at hn
      rw [min_le_iff, min_le_iff, or_assoc]
      exact hn

/-! ## 3. One alignment after another

The triangle inequality needs alignments that are put together. -/

/-- A list is aligned with itself at no cost. -/
theorem aligns_self (costs : EditCosts) (xs : List α) : costs.Aligns xs xs 0 := by
  induction xs using List.reverseRecOn with
  | nil => exact .nil
  | append_singleton xs x ih => simpa using Aligns.pair x x ih

/-- Any two lists are aligned if all of the source is passed over, and all of the target. -/
theorem aligns_all (costs : EditCosts) (xs ys : List α) :
    costs.Aligns xs ys (xs.length * costs.delete + ys.length * costs.insert) := by
  induction ys using List.reverseRecOn with
  | nil =>
    induction xs using List.reverseRecOn with
    | nil => simpa using Aligns.nil
    | append_singleton xs x ih => simpa [Nat.succ_mul] using Aligns.delete x ih
  | append_singleton ys y ih => simpa [Nat.succ_mul, Nat.add_assoc] using Aligns.insert y ih

/-- **An alignment of a list with a second one and an alignment of the second with a third make an
alignment of the first with the third**, at no greater cost. An element of the second list that both
pair makes one pair of two; one that the first inserts and the second deletes is left out. -/
theorem Aligns.trans (h : costs.Aligns xs ys n) (h' : costs.Aligns ys zs m) :
    ∃ k ≤ n + m, costs.Aligns xs zs k := by
  induction h generalizing zs m with
  | nil => exact ⟨m, Nat.le_add_left m 0, h'⟩
  | @delete xs ys n x _ ih =>
    obtain ⟨k, hk, halign⟩ := ih h'
    exact ⟨k + costs.delete, by omega, .delete x halign⟩
  | @insert xs ys n y h ih =>
    -- what the second alignment does before it comes to `y` is done first
    induction zs using List.reverseRecOn generalizing m with
    | nil =>
      obtain ⟨m', halign, rfl⟩ := h'.of_nil_right
      obtain ⟨k, hk, hxz⟩ := ih halign
      exact ⟨k, by omega, hxz⟩
    | append_singleton zs z ihz =>
      rcases h'.of_concat with ⟨m', halign, rfl⟩ | ⟨m', halign, rfl⟩ | ⟨m', halign, rfl⟩
      · obtain ⟨k, hk, hxz⟩ := ih halign
        exact ⟨k, by omega, hxz⟩
      · obtain ⟨k, hk, hxz⟩ := ihz halign
        exact ⟨k + costs.insert, by omega, .insert z hxz⟩
      · obtain ⟨k, hk, hxz⟩ := ih halign
        exact ⟨k + costs.insert, by omega, .insert z hxz⟩
  | @pair xs ys n x y h ih =>
    induction zs using List.reverseRecOn generalizing m with
    | nil =>
      obtain ⟨m', halign, rfl⟩ := h'.of_nil_right
      obtain ⟨k, hk, hxz⟩ := ih halign
      exact ⟨k + costs.delete, by omega, .delete x hxz⟩
    | append_singleton zs z ihz =>
      rcases h'.of_concat with ⟨m', halign, rfl⟩ | ⟨m', halign, rfl⟩ | ⟨m', halign, rfl⟩
      · obtain ⟨k, hk, hxz⟩ := ih halign
        exact ⟨k + costs.delete, by omega, .delete x hxz⟩
      · obtain ⟨k, hk, hxz⟩ := ihz halign
        exact ⟨k + costs.insert, by omega, .insert z hxz⟩
      · obtain ⟨k, hk, hxz⟩ := ih halign
        refine ⟨k + if x = z then 0 else costs.replace, ?_, .pair x z hxz⟩
        -- a pair of two different elements comes from at least one such pair
        by_cases hxy : x = y
        · subst hxy
          omega
        · rw [if_neg hxy]
          split <;> omega

/-- Where each change costs one, the lengths differ by the number of changes at most. -/
theorem Aligns.length_le (h : unit.Aligns xs ys n) : ys.length ≤ xs.length + n := by
  induction h with
  | nil => exact Nat.zero_le _
  | delete x _ ih =>
    rw [List.length_append, List.length_singleton]
    omega
  | insert y _ ih =>
    rw [List.length_append, List.length_singleton]
    exact Nat.succ_le_succ ih
  | pair x y _ ih =>
    rw [List.length_append, List.length_append, List.length_singleton, List.length_singleton]
    omega

/-- Where each change costs one, only a list and itself are aligned at no cost. -/
theorem Aligns.eq_of_zero (h : unit.Aligns xs ys n) (hn : n = 0) : xs = ys := by
  induction h with
  | nil => rfl
  | delete x _ _ => exact absurd hn (Nat.succ_ne_zero _)
  | insert y _ _ => exact absurd hn (Nat.succ_ne_zero _)
  | pair x y _ ih =>
    obtain ⟨hzero, hcost⟩ := Nat.add_eq_zero_iff.mp hn
    have hxy : x = y := by
      by_contra hne
      rw [if_neg hne] at hcost
      exact absurd hcost Nat.one_ne_zero
    rw [ih hzero, hxy]

end Alignment

end EditCosts

end QueryGrading
