import QueryGrading.Decimal.Binary64

/-!
# The shortest decimal that reads back

`shortest x` is the decimal with the fewest digits among those nearer to `x` than to any other
number with 53 binary digits; of two such decimals it is the nearer one, and of two equally near
ones the even one. All numbers in the records of a run are written by it, and the texts of real
numbers in parse trees and in the cells of rows.

The digits are searched from few to many, on exact fractions. There are faster ways to find them,
and all find the same decimal, as it is fixed by these three conditions.
-/

namespace QueryGrading.Decimal

/-! ## 1. Digits and their place -/

/-- `digits · 10^exponent`, where the last digit of `digits` is not zero unless all are. -/
structure Scientific where
  digits : Nat
  exponent : Int
  deriving DecidableEq, Repr

/-- `n · 10^e / d` as a fraction of natural numbers. -/
def scaleTen (n d : Nat) (e : Int) : Nat × Nat :=
  if 0 ≤ e then (n * Nat.pow 10 e.toNat, d) else (n, d * Nat.pow 10 (-e).toNat)

/-- The count of decimal digits. -/
def digitCount (n : Nat) : Nat := (Nat.repr n).length

/-- The exponent `e` with `10^e ≤ n / d < 10^(e+1)`. -/
def leadingExponent (n d : Nat) : Int :=
  if d ≤ n then Int.ofNat (digitCount (n / d)) - 1
  else
    let k := digitCount (d / n)
    if d = n * Nat.pow 10 (k - 1) then 1 - Int.ofNat k else -Int.ofNat k

/-- Without the zeros at the end of the digits; `fuel` bounds their number. -/
def stripZeros : Nat → Scientific → Scientific
  | 0, s => s
  | fuel + 1, s =>
    if s.digits ≠ 0 ∧ s.digits % 10 = 0 then stripZeros fuel ⟨s.digits / 10, s.exponent + 1⟩ else s

/-! ## 2. The interval of decimals that read back -/

/-- `c · 10^place` is nearer to `x` than to any other number: the comparison is made in quarters
of the unit `2^x.exponent`, and the ends count when the mantissa is even. -/
def readsBack (x : Binary64) (place : Int) (c : Nat) : Bool :=
  let (cn, cd) := scaleTen c 1 place
  let (n, d) := scaleDown (4 * cn) cd x.exponent
  let middle := 4 * x.mantissa
  let below := if x.mantissa = Nat.pow 2 52 ∧ Binary64.minExponent < x.exponent then 1 else 2
  let low := (middle - below) * d
  let high := (middle + 2) * d
  if x.mantissa % 2 = 0 then low ≤ n && n ≤ high else low < n && n < high

/-- The better of the two decimals next to `x` with the last digit at `place`, if one reads
back. -/
def onGrid? (x : Binary64) (place : Int) : Option Nat :=
  let (vn, vd) := x.magnitude
  let (n, d) := scaleTen vn vd (-place)
  let low := n / d
  match readsBack x place low, readsBack x place (low + 1) with
  | true, true => some (roundHalfEven n d)
  | true, false => some low
  | false, true => some (low + 1)
  | false, false => none

/-- The first grid with a hit, of those with `count`, `count + 1`, … digits. -/
def firstHit (x : Binary64) (lead : Int) : Nat → Nat → Scientific
  | 0, count => ⟨(onGrid? x (lead + 1 - Int.ofNat count)).getD 0, lead + 1 - Int.ofNat count⟩
  | fuel + 1, count =>
    match onGrid? x (lead + 1 - Int.ofNat count) with
    | some c => ⟨c, lead + 1 - Int.ofNat count⟩
    | none => firstHit x lead fuel (count + 1)

/-- The shortest decimal for the magnitude of `x`. -/
def shortest (x : Binary64) : Scientific :=
  if x.mantissa = 0 then ⟨0, 0⟩
  else
    let (n, d) := x.magnitude
    stripZeros 20 (firstHit x (leadingExponent n d) 17 1)

end QueryGrading.Decimal
