/-!
# Decimal numerals

`Numeral.read` reads a natural number below a bound, digit by digit. The first fault is reported: a
character that is no digit, or a number that has grown too large. So numbers are read from settings,
and the positions that ORDER BY may hold; the bound is that of 64 bits there.
-/

namespace QueryGrading

/-- Why a text is no numeral. -/
inductive NumeralFault
  | empty
  | badDigit
  | tooLarge
  deriving DecidableEq, Repr

/-- The wording of a fault. -/
def NumeralFault.message : NumeralFault → String
  | .empty => "cannot parse integer from empty string"
  | .badDigit => "invalid digit found in string"
  | .tooLarge => "number too large to fit in target type"

namespace Numeral

/-- Reads digits after the value of those before them. -/
def readDigits (bound value : Nat) : List Char → Except NumeralFault Nat
  | [] => .ok value
  | c :: rest =>
    if !c.isDigit then .error .badDigit
    else
      let value := value * 10 + (c.toNat - '0'.toNat)
      if value < bound then readDigits bound value rest else .error .tooLarge

/-- Reads a number below the bound. A plus sign may stand in front of the digits. -/
def read (bound : Nat) (s : String) : Except NumeralFault Nat :=
  match s.toList with
  | [] => .error .empty
  | ['+'] => .error .badDigit
  | '+' :: digits => readDigits bound 0 digits
  | digits => readDigits bound 0 digits

end Numeral

end QueryGrading
