import QueryGrading.Repair.EditDistance
import QueryGrading.Repair.Keyword
import QueryGrading.Repair.Words

/-!
# Repairs of statements that do not parse

`Repair.fromReference?` keeps the reserved words of a reference and takes the names of the
submission; `Repair.withKeywords?` replaces words that are nearly reserved by the reserved words.
Whether a repair is accepted is for a parser to say.

They are `repair_from_reference`, `closest_keyword` and `repair_with_keywords`. A name of the
reference that is replaced is replaced in the whole text so far, including what earlier steps have
written. A reserved word is near if the distance is at most 2 and the normalized distance at most
0.27, which is compared here as the fraction 27/100: no quotient of numbers of this size lies
between it and its nearest binary number.
-/

namespace QueryGrading

/-! ## 1. By a reference -/

/-- A repaired text: what its changes to reserved words cost, and how many words apart the
submission and the reference are. -/
structure Repair where
  text : String
  cost : Nat
  distance : Nat
  deriving DecidableEq, Repr

namespace Repair

/-- One step of the script from the submission to the reference, applied to the text of the
reference and to the cost. A name that the submission lacks is removed, and one that it has in
place of another takes that place. -/
def applyEdit (state : String × Nat) (edit : WordEdit) : String × Nat :=
  let (text, cost) := state
  match edit with
  | .keep _ => (text, cost)
  | .delete word => (text, cost + word.length)
  | .insert word =>
    if isKeyword word then (text, cost + word.length) else (Text.removeWord word text, cost)
  | .replace source target =>
    if isKeyword target then (text, cost + editDistance source target)
    else if Text.sameNames source target then (text, cost)
    else (Text.replaceWords (· == target) source text, cost)

/-- The repair of a submission by a reference, unless it costs more than the threshold. Both are
normalized texts. -/
def fromReference? (submission reference : String) (threshold : Nat) : Option Repair :=
  let script := EditScript.between (Text.words submission) (Text.words reference)
  let (text, cost) := script.steps.foldl applyEdit (reference, 0)
  if threshold < cost then none else some ⟨text, cost, script.distance⟩

/-! ## 2. By the reserved words -/

/-- A reserved word is near enough to an upper-case word: at most two changes, and a normalized
distance of at most 0.27. -/
def isNear (word keyword : String) (d : Nat) : Bool :=
  d ≤ 2 && 200 * d ≤ 27 * (word.length + keyword.length + d)

/-- The nearest reserved word of those that are near enough; the earliest of equally near ones. -/
def nearest? (word : String) : Option (Nat × String) → List String → Option (Nat × String)
  | best, [] => best
  | best, keyword :: rest =>
    let d := editDistance word keyword
    let better := isNear word keyword d &&
      match best with
      | some (least, _) => d < least
      | none => true
    nearest? word (if better then some (d, keyword) else best) rest

/-- The reserved word that a word is corrected to. -/
def closestKeyword? (word : String) : Option String :=
  (nearest? (Text.asciiUpper word) none keywords).map (·.2)

/-- The corrections of the words that are not reserved: the word in upper case and the reserved
word, once for each word. -/
def corrections : List String → List (String × String)
  | [] => []
  | word :: rest =>
    let others := corrections rest
    if isKeyword word then others
    else
      match closestKeyword? word with
      | some keyword =>
        let upper := Text.asciiUpper word
        (upper, keyword) :: others.filter (·.1 ≠ upper)
      | none => others

/-- The repair of a text by its corrections, if there are any. -/
def withKeywords? (s : String) : Option String :=
  match corrections (Text.words s) with
  | [] => none
  | pairs =>
    some (Text.trim (pairs.foldl (fun text (upper, keyword) =>
      Text.replaceWords (Text.sameName · upper) keyword text) s))

end Repair

end QueryGrading
