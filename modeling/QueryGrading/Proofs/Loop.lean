/-!
# Laws of loops over tables

What a counted loop keeps from round to round it has kept at its end, when a loop whose rounds may
fail does not, and what an array holds after one write.

The loops meant are those over the cells of a table in `tree_edit_distance` and
`word_edit_distance`, and those over the spans of a text in `replace_words` and `remove_word`. There
an index out of range would stop the program; `foldlM_range'_simulation` and `foldlM_simulation` say
when none of a loop's rounds does, by following a loop that has defaults instead.
-/

namespace QueryGrading

/-- What every round of a counted loop keeps, the loop keeps. -/
theorem foldl_range'_induction {β : Type} {f : β → Nat → β} (inv : Nat → β → Prop) (n s : Nat)
    {b : β} (h : inv s b)
    (hstep : ∀ i b, s ≤ i → i < s + n → inv i b → inv (i + 1) (f b i)) :
    inv (s + n) ((List.range' s n).foldl f b) := by
  induction n generalizing s b with
  | zero => exact h
  | succ n ih =>
    rw [List.range'_succ, List.foldl_cons, ← Nat.succ_add_eq_add_succ]
    refine ih (s + 1) (hstep s b (Nat.le_refl s) (by omega) h) ?_
    exact fun i b hi hlt => hstep i b (by omega) (by omega)

/-- A counted loop whose rounds may fail does not fail where its rounds follow those of a loop that
cannot. -/
theorem foldlM_range'_simulation {β γ : Type} {f : β → Nat → β} {g : γ → Nat → Option γ}
    (sim : Nat → β → γ → Prop) (n s : Nat) {b : β} {c : γ} (h : sim s b c)
    (hstep : ∀ i b c, s ≤ i → i < s + n → sim i b c → ∃ c', g c i = some c' ∧
      sim (i + 1) (f b i) c') :
    ∃ c', (List.range' s n).foldlM g c = some c' ∧
      sim (s + n) ((List.range' s n).foldl f b) c' := by
  induction n generalizing s b c with
  | zero => exact ⟨c, rfl, h⟩
  | succ n ih =>
    obtain ⟨c₁, hc₁, h₁⟩ := hstep s b c (Nat.le_refl s) (by omega) h
    obtain ⟨c', hc', h'⟩ := ih (s + 1) h₁ fun i b c hi hlt => hstep i b c (by omega) (by omega)
    refine ⟨c', ?_, ?_⟩
    · rw [List.range'_succ, List.foldlM_cons, hc₁]
      exact hc'
    · rw [List.range'_succ, List.foldl_cons, ← Nat.succ_add_eq_add_succ]
      exact h'

/-- The same for a loop over a list; what relates the two may depend on what lies behind. -/
theorem foldlM_simulation {α β γ : Type} {f : β → α → β} {g : γ → α → Option γ}
    (sim : List α → β → γ → Prop) (xs pre : List α) {b : β} {c : γ} (h : sim pre b c)
    (hstep : ∀ before x after b c, pre ++ xs = before ++ x :: after → sim before b c →
      ∃ c', g c x = some c' ∧ sim (before ++ [x]) (f b x) c') :
    ∃ c', xs.foldlM g c = some c' ∧ sim (pre ++ xs) (xs.foldl f b) c' := by
  induction xs generalizing pre b c with
  | nil => exact ⟨c, rfl, by rwa [List.append_nil]⟩
  | cons x xs ih =>
    obtain ⟨c₁, hc₁, h₁⟩ := hstep pre x xs b c rfl h
    rw [List.append_cons] at hstep
    obtain ⟨c', hc', h'⟩ := ih (pre ++ [x]) h₁ hstep
    refine ⟨c', ?_, ?_⟩
    · rw [List.foldlM_cons, hc₁]
      exact hc'
    · rwa [List.foldl_cons, List.append_cons]

theorem getElem?_eq_some_getD {α : Type} {xs : Array α} {i : Nat} (h : i < xs.size) (d : α) :
    xs[i]? = some (xs.getD i d) := by
  rw [Array.getD_eq_getD_getElem?, Array.getElem?_eq_getElem h, Option.getD_some]

/-- What an array holds with one more entry, outside of its bounds too. -/
theorem getD_push {α : Type} (xs : Array α) (x d : α) (i : Nat) :
    (xs.push x).getD i d = if i = xs.size then x else xs.getD i d := by
  rw [Array.getD_eq_getD_getElem?, Array.getElem?_push, Array.getD_eq_getD_getElem?]
  split <;> rfl

/-- What an array holds after a write inside of its bounds. -/
theorem getD_setIfInBounds {α : Type} (xs : Array α) {j : Nat} (h : j < xs.size) (x d : α)
    (i : Nat) : (xs.setIfInBounds j x).getD i d = if i = j then x else xs.getD i d := by
  rw [Array.getD_eq_getD_getElem?, Array.getElem?_setIfInBounds, Array.getD_eq_getD_getElem?,
    if_pos h]
  simp only [eq_comm (a := j)]
  split <;> rfl

end QueryGrading
