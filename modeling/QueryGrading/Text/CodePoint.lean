/-!
# Sets of code points

A property of characters is a list of ascending inclusive ranges, and membership walks the list
until the ranges pass the character. A function on characters is a list of runs that shift every
`step`-th code point by one amount. The tables in the modules beside this one are of these two
forms, and were made for one version of Unicode.
-/

namespace QueryGrading.Text

/-- Membership in a list of ascending inclusive ranges; stops at the first range above `n`. -/
def inRanges (n : Nat) : List (Nat × Nat) → Bool
  | [] => false
  | (low, high) :: rest =>
    if n < low then false else if n ≤ high then true else inRanges n rest

/-- `first`, `first + step`, … `last`: the code points that one case rule shifts by `shift`. -/
structure CaseRun where
  first : Nat
  last : Nat
  step : Nat
  shift : Int

/-- The run covers this code point. -/
def CaseRun.covers (r : CaseRun) (n : Nat) : Bool :=
  r.first ≤ n && n ≤ r.last && (n - r.first) % r.step == 0

/-- The image of a code point under the first run that covers it, else the point itself. -/
def shiftBy (runs : List CaseRun) (n : Nat) : Nat :=
  match runs.find? (·.covers n) with
  | some r => (Int.ofNat n + r.shift).toNat
  | none => n

end QueryGrading.Text
