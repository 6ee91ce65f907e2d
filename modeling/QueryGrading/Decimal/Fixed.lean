import QueryGrading.Decimal.Binary64

/-!
# Decimals with a fixed number of places

`fixed k q` writes `k` digits after the point, as a format with `.2` does for grades in the
overview, and for the values in the scale that `matrix` prints. The fraction is first moved to the
nearest binary number, because the marks of the program are kept as such, and the exact value of
that number is rounded, a half going to the even digit.
-/

namespace QueryGrading.Decimal

/-- A numeral with zeros in front up to the given width. -/
def padded (width n : Nat) : String :=
  let digits := Nat.repr n
  String.ofList (List.replicate (width - digits.length) '0') ++ digits

/-- An exact fraction with `places` digits after the point. -/
def fixedExact (places : Nat) (q : Rat) : String :=
  let unit := Nat.pow 10 places
  let n := roundHalfEven (q.num.natAbs * unit) q.den
  let sign := if q < 0 then "-" else ""
  if places = 0 then sign ++ Nat.repr n
  else sign ++ Nat.repr (n / unit) ++ "." ++ padded places (n % unit)

/-- A mark with `places` digits after the point. -/
def fixed (places : Nat) (q : Rat) : String := fixedExact places (nearest q)

end QueryGrading.Decimal
