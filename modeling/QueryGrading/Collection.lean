/-!
# Operations on lists

Names and rows are compared without regard to order by sorting them and by taking one list away from
the other. `leftover` is `sorted_difference`: of each element one is taken away for every equal one
of the other list, and the rest keeps its order, whether or not the list is sorted. `sorted` and
`sortedRows` are the sorts of texts and of rows, by code points as the sorts of the library are, and
stable, which cannot be seen on equal texts.

`hasRun` is what the search of a text for a part of it comes to (`contains`), and what
`contains_window` does with a row of cells. `total` is the sum of an iterator of numbers.
-/

namespace QueryGrading

/-! ## 1. Order and difference -/

/-- Texts in ascending order of code points. -/
def sorted (xs : List String) : List String := xs.mergeSort (fun a b => decide (a ≤ b))

/-- A row comes before another: at the first place where they differ it has the lesser text, or it
ends. -/
def rowLess (a b : List String) : Bool := List.lex a b fun x y => decide (x < y)

/-- Rows of texts in ascending order. -/
def sortedRows (xs : List (List String)) : List (List String) :=
  xs.mergeSort (fun a b => !rowLess b a)

/-- What is left of a list when each element of `pool` has taken one equal element away. -/
def leftover {α : Type} [BEq α] : List α → List α → List α
  | [], _ => []
  | x :: xs, pool =>
    if pool.contains x then leftover xs (pool.erase x) else x :: leftover xs pool

/-! ## 2. Runs -/

/-- `run` stands somewhere in a list, without a gap. -/
def hasRun {α : Type} [BEq α] (run : List α) : List α → Bool
  | [] => run.isEmpty
  | x :: rest => run.isPrefixOf (x :: rest) || hasRun run rest

/-! ## 3. Sums -/

/-- The sum of a list of numbers. -/
def total : List Nat → Nat
  | [] => 0
  | n :: rest => n + total rest

end QueryGrading
