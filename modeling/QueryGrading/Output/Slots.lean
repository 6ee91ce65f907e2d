import Mathlib.Data.List.ReduceOption
import QueryGrading.Output.Change

/-!
# Slots that are emptied

`compare_changes` matches the expected changes with the actual ones in a `pool` of slots. Each slot
holds one of the actual changes at first, every expected change empties the first slot that holds
one like it, and what no slot holds is missing; the changes that are still in their slots in the end
are extra. `Change.compare` takes the two multiset differences instead. Here is the pool.
-/

namespace QueryGrading

/-- A row of slots, each with a change in it or empty. -/
abbrev Slots := List (Option Change)

namespace Slots

/-- A slot for each change. -/
def ofChanges (cs : List Change) : Slots := cs.map some

/-- The changes that are still in their slots, in their order. -/
def held (pool : Slots) : List Change := pool.reduceOption

/-- Empties the first slot with this change; nothing if there is none. -/
def take? (c : Change) : Slots → Option Slots
  | [] => none
  | slot :: rest =>
    if slot = some c then some (none :: rest) else (take? c rest).map (slot :: ·)

/-- Takes some changes out of their slots, one after another: the changes for which there was no
slot, and the slots in the end. -/
def takeAll : List Change → Slots → List Change × Slots
  | [], pool => ([], pool)
  | c :: rest, pool =>
    match take? c pool with
    | some pool => takeAll rest pool
    | none =>
      let (missing, pool) := takeAll rest pool
      (c :: missing, pool)

end Slots

end QueryGrading
