/-!
# Numbers with 53 binary digits

`Binary64` holds a sign, a mantissa below `2^53` and an exponent of two. `ofRatio?` is the nearest
such number to a fraction, a tie going to the even mantissa; the products and quotients of the
program are rounded by it.

Marks, levels moved to the unit interval, shares of parts and normalized distances are numbers of
this kind in the program, and so are the numbers of a JSON text that are no integers. Here they are
computed exactly as fractions, and rounded where a number is read, printed or added up. Infinities
and what is no number are left out: `ofRatio?` has no result beyond the greatest number, and no
division by zero is made.
-/

namespace QueryGrading.Decimal

/-! ## 1. Rounding a quotient -/

/-- The integer nearest to `n / d`; a half goes to the even neighbour. -/
def roundHalfEven (n d : Nat) : Nat :=
  let low := n / d
  let twice := 2 * (n % d)
  if twice < d then low
  else if d < twice then low + 1
  else low + low % 2

/-- `n / d / 2^e` as a fraction of natural numbers. -/
def scaleDown (n d : Nat) (e : Int) : Nat × Nat :=
  if 0 ≤ e then (n, d * Nat.pow 2 e.toNat) else (n * Nat.pow 2 (-e).toNat, d)

/-! ## 2. The numbers -/

/-- `± mantissa · 2^exponent`. -/
structure Binary64 where
  negative : Bool
  mantissa : Nat
  exponent : Int
  deriving DecidableEq, Repr

namespace Binary64

/-- The least exponent of two. -/
def minExponent : Int := -1074

/-- The greatest exponent of two. -/
def maxExponent : Int := 971

/-- Zero with a sign. -/
def zero (negative : Bool) : Binary64 := ⟨negative, 0, minExponent⟩

/-- The number nearest to `± n / d`, or nothing when that is beyond the greatest. -/
def ofRatio? (negative : Bool) (n d : Nat) : Option Binary64 :=
  if n = 0 then some (zero negative)
  else
    let guess : Int := Int.ofNat n.log2 - Int.ofNat d.log2 - 53
    let (gn, gd) := scaleDown n d guess
    let normal := if gn / gd < Nat.pow 2 53 then guess else guess + 1
    let e := max normal minExponent
    let (en, ed) := scaleDown n d e
    let m := roundHalfEven en ed
    let (m, e) := if m = Nat.pow 2 53 then (Nat.pow 2 52, e + 1) else (m, e)
    if maxExponent < e then none else some ⟨negative, m, e⟩

/-- The magnitude as a fraction of natural numbers. -/
def magnitude (x : Binary64) : Nat × Nat :=
  if 0 ≤ x.exponent then (x.mantissa * Nat.pow 2 x.exponent.toNat, 1)
  else (x.mantissa, Nat.pow 2 (-x.exponent).toNat)

/-- The exact value. -/
def toRat (x : Binary64) : Rat :=
  let (n, d) := x.magnitude
  let q : Rat := mkRat (Int.ofNat n) d
  if x.negative then -q else q

/-- The rounded product, without sign. -/
def mul? (x y : Binary64) : Option Binary64 :=
  let (a, b) := x.magnitude
  let (c, d) := y.magnitude
  ofRatio? false (a * c) (b * d)

/-- The rounded quotient, without sign. -/
def div? (x y : Binary64) : Option Binary64 :=
  let (a, b) := x.magnitude
  let (c, d) := y.magnitude
  ofRatio? false (a * d) (b * c)

/-- The number nearest to a fraction; zero stands for one that is too great. -/
def ofRat (q : Rat) : Binary64 :=
  (ofRatio? (decide (q < 0)) q.num.natAbs q.den).getD (zero false)

end Binary64

/-- A fraction moved to the nearest number with 53 binary digits. -/
def nearest (q : Rat) : Rat := (Binary64.ofRat q).toRat

end QueryGrading.Decimal
