import QueryGrading.Output.Slots
import QueryGrading.Proofs.Output.Comparison

/-!
# Changes as multisets

`compare_changes` matches the changes that a statement made with the expected ones by a walk over a
pool of slots (`Slots.takeAll`). After any number of expected changes the slots hold the multiset
difference of the actual changes and those expected so far (`held_takeAll`), so the walk finds what
is left of each list beside the other, whichever of several equal changes it takes.

`Change.compare_as_multisets` says what a comparison reports: the two differences, in the order of
the lists, with the message and hint of `missing_feedback` or `extra_feedback` for each change in
them. What these two say of a change is left to `Change.missing` and `Change.extra`, which are not
looked into here. Rows are compared in another way, see `Proofs.Output.Comparison`.
-/

namespace QueryGrading

/-! ## 1. Slots that are emptied

The invariant of the walk over the slots: what the slots hold, as a multiset, is what was in them
less what was found so far. -/

namespace Slots

theorem held_ofChanges (cs : List Change) : (ofChanges cs).held = cs := by
  rw [held, ofChanges, List.reduceOption, List.filterMap_map]
  exact List.filterMap_some

@[simp] theorem held_none_cons (pool : Slots) : held (none :: pool) = held pool :=
  List.reduceOption_cons_of_none pool

@[simp] theorem held_some_cons (c : Change) (pool : Slots) :
    held (some c :: pool) = c :: held pool :=
  List.reduceOption_cons_of_some c pool

/-- **One step.**  A change is found just where a slot holds it, and then the slots hold one of it
less. -/
theorem held_take? (c : Change) (pool : Slots) :
    (take? c pool).map held = if c ∈ pool.held then some (pool.held.erase c) else none := by
  induction pool with
  | nil => rfl
  | cons slot rest ih =>
    cases slot with
    | none =>
      have hcomp : held ∘ (none :: ·) = held := funext held_none_cons
      rw [take?, if_neg (by simp), Option.map_map, held_none_cons, hcomp, ih]
    | some d =>
      have hcomp : held ∘ (some d :: ·) = (d :: ·) ∘ held := funext (held_some_cons d)
      rw [take?, held_some_cons]
      -- a full slot in front is emptied, or it stays and the search goes on behind it
      by_cases hdc : d = c
      · subst hdc
        rw [if_pos rfl, if_pos List.mem_cons_self, List.erase_cons_head, Option.map_some,
          held_none_cons]
      · rw [if_neg (by simpa using hdc), Option.map_map, hcomp, ← Option.map_map, ih,
          List.erase_cons_tail (by simpa using hdc)]
        by_cases hmem : c ∈ held rest
        · rw [if_pos hmem, if_pos (List.mem_cons_of_mem d hmem), Option.map_some]
        · rw [if_neg hmem, if_neg (by simpa [Ne.symm hdc] using hmem), Option.map_none]

/-- **The whole walk.**  It misses what is left of the changes beside those in the slots, and leaves
the multiset difference in the slots. -/
theorem held_takeAll (cs : List Change) (pool : Slots) :
    (takeAll cs pool).1 = leftover cs pool.held ∧ (takeAll cs pool).2.held = pool.held.diff cs := by
  induction cs generalizing pool with
  | nil => exact ⟨rfl, (List.diff_nil _).symm⟩
  | cons c rest ih =>
    have hstep := held_take? c pool
    rw [takeAll, leftover, List.diff_cons]
    cases htake : take? c pool with
    | some pool' =>
      rw [htake, Option.map_some] at hstep
      have hmem : c ∈ pool.held := by
        by_contra hmem
        rw [if_neg hmem] at hstep
        cases hstep
      rw [if_pos hmem, Option.some.injEq] at hstep
      rw [if_pos (List.contains_iff_mem.mpr hmem), ← hstep]
      exact ih pool'
    | none =>
      rw [htake, Option.map_none] at hstep
      have hmem : c ∉ pool.held := by
        intro hmem
        rw [if_pos hmem] at hstep
        cases hstep
      rw [if_neg (by simpa using hmem), List.erase_of_not_mem hmem]
      exact ⟨congrArg (c :: ·) (ih pool).1, (ih pool).2⟩

end Slots

/-! ## 2. The report on two lists of changes

Two walks make the report, one for what is missing and one for what is too much. With both known as
differences, the verdict is a statement on multisets. -/

namespace Change

/-- The multiset difference of two lists of changes, in the order of the first one. -/
structure Difference (xs ys rest : List Change) : Prop where
  order : rest.Sublist xs
  elements : (rest : Multiset Change) = (xs : Multiset Change) - ys

variable {expected actual : List Change}

theorem difference_leftover (xs ys : List Change) : Difference xs ys (leftover xs ys) where
  order := leftover_sublist xs ys
  elements := coe_leftover xs ys

/-- The verdict sees the sizes of the two differences and nothing else. -/
theorem verdict_compare (expected actual : List Change) :
    (compare expected actual).verdict =
      (decide (expected.Perm actual), decide (expected.Subperm actual),
        (leftover expected actual).length + (leftover actual expected).length) := by
  have hequal : ((leftover expected actual).isEmpty && (leftover actual expected).isEmpty)
      = decide (expected.Perm actual) := by
    rw [Bool.eq_iff_iff, Bool.and_eq_true, List.isEmpty_iff, List.isEmpty_iff, decide_eq_true_eq,
      leftover_eq_nil_and_iff]
  have hsubset : (leftover expected actual).isEmpty = decide (expected.Subperm actual) := by
    rw [Bool.eq_iff_iff, List.isEmpty_iff, decide_eq_true_eq, leftover_eq_nil_iff]
  rw [← hequal, ← hsubset]
  rfl

theorem verdict_compare_perm {expected' actual' : List Change} (he : expected'.Perm expected)
    (ha : actual'.Perm actual) :
    (compare expected' actual').verdict = (compare expected actual).verdict := by
  have hgone := (leftover_perm he ha).length_eq
  have hspare := (leftover_perm ha he).length_eq
  have hequal : expected'.Perm actual' ↔ expected.Perm actual :=
    ⟨fun h => he.symm.trans (h.trans ha), fun h => he.trans (h.trans ha.symm)⟩
  have hsubset : expected'.Subperm actual' ↔ expected.Subperm actual := by
    rw [he.subperm_right, ha.subperm_left]
  simp only [verdict_compare, hgone, hspare, hequal, hsubset]

/-- First the messages on what is missing, then those on what is too much. -/
theorem messages_compare (expected actual : List Change) :
    (compare expected actual).messages = (leftover expected actual).map (fun c => c.missing.1) ++
      (leftover actual expected).map (fun c => c.extra.1) := by
  simp only [compare, List.map_append, List.map_map]
  rfl

theorem hints_compare (expected actual : List Change) :
    (compare expected actual).hints = (leftover expected actual).map (fun c => c.missing.2) ++
      (leftover actual expected).map (fun c => c.extra.2) := by
  simp only [compare, List.map_append, List.map_map]
  rfl

/-- **Changes are compared as multisets.**  What is missing is the difference of the expected
changes and the actual ones, and what is too much is the difference the other way round, each in the
order of its list and as the walk over the slots finds it. Every change in a difference has a
message and a hint. The lists are equal if one is a permutation of the other, all is there if the
expected changes are among the actual ones with their multiplicities, and the order of either list
makes no difference to the verdict. -/
theorem compare_as_multisets (expected actual : List Change) :
    let report := compare expected actual
    ∃ gone spare slots,
      Slots.takeAll expected (Slots.ofChanges actual) = (gone, slots) ∧ slots.held = spare ∧
      Difference expected actual gone ∧ Difference actual expected spare ∧
      report.messages = gone.map (fun c => c.missing.1) ++ spare.map (fun c => c.extra.1) ∧
      report.hints = gone.map (fun c => c.missing.2) ++ spare.map (fun c => c.extra.2) ∧
      (report.equal = true ↔ expected.Perm actual) ∧
      (report.subset = true ↔ expected.Subperm actual) ∧
      report.difference = gone.length + spare.length ∧
      report.messages.length = report.difference ∧ report.hints.length = report.difference ∧
      expected.length - gone.length = actual.length - spare.length ∧
      ∀ expected' actual', expected'.Perm expected → actual'.Perm actual →
        (compare expected' actual').verdict = report.verdict := by
  intro report
  -- the walk over the slots and the two differences come to the same
  obtain ⟨hgone, hspare⟩ := Slots.held_takeAll expected (Slots.ofChanges actual)
  rw [Slots.held_ofChanges] at hgone hspare
  rw [← leftover_eq_diff] at hspare
  have hverdict : report.verdict = _ := verdict_compare expected actual
  have hequal : report.equal = decide (expected.Perm actual) := congrArg (·.1) hverdict
  have hsubset : report.subset = decide (expected.Subperm actual) := congrArg (·.2.1) hverdict
  have hmessages : report.messages = _ := messages_compare expected actual
  have hhints : report.hints = _ := hints_compare expected actual
  refine ⟨leftover expected actual, leftover actual expected,
    (Slots.takeAll expected (Slots.ofChanges actual)).2, Prod.ext hgone rfl, hspare,
    difference_leftover expected actual, difference_leftover actual expected, hmessages, hhints,
    ?_, ?_, rfl, ?_, ?_, length_sub_leftover expected actual, ?_⟩
  · rw [hequal, decide_eq_true_eq]
  · rw [hsubset, decide_eq_true_eq]
  · rw [hmessages, List.length_append, List.length_map, List.length_map]
    rfl
  · rw [hhints, List.length_append, List.length_map, List.length_map]
    rfl
  · intro expected' actual' he ha
    exact verdict_compare_perm he ha

/-- One row is expected twice and inserted once, and another one is deleted: of the two equal
changes one is missing, in whichever order the actual changes come. -/
theorem compare_as_multisets_repeated :
    let row : Change := ⟨"book", "added", "1, 'Dune'"⟩
    let other : Change := ⟨"book", "removed", "2, 'Emma'"⟩
    List.Perm [row, row] [row, row] ∧ List.Perm [other, row] [row, other] ∧
      (compare [row, row] [row, other]).messages =
        ["❌ You did not insert this row into 'book': 1, 'Dune'.",
          "⚠️ You deleted a row from 'book' that shouldn’t have been removed: 2, 'Emma'."] ∧
      (compare [row, row] [other, row]).verdict = (false, false, 2) := by
  intro row other
  have hexpected : List.Perm [row, row] [row, row] := List.Perm.refl _
  have hactual : List.Perm [other, row] [row, other] := List.Perm.swap row other []
  obtain ⟨gone, spare, slots, hwalk, hheld, -, -, hmessages, -, -, -, -, -, -, -, hperm⟩ :=
    compare_as_multisets [row, row] [row, other]
  have htake :
      Slots.takeAll [row, row] (Slots.ofChanges [row, other]) = ([row], [none, some other]) := by
    decide +kernel
  obtain ⟨rfl, rfl⟩ := Prod.mk.inj (hwalk.symm.trans htake)
  obtain rfl : [other] = spare := hheld
  refine ⟨hexpected, hactual, hmessages.trans (by decide +kernel), ?_⟩
  exact (hperm _ _ hexpected hactual).trans (by decide +kernel)

end Change

end QueryGrading
