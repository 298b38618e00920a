import ChartScript.Number.Numeral

/-!
# Written integers

An integer is written as an optional sign and decimal digits, which single underscores may divide.
At most 4300 digits are read, leading zeros included.
-/

set_option autoImplicit false

namespace ChartScript
namespace Number

open Text (isDigit natOfDigits)

/-- The greatest number of digits of a written integer. -/
def maxIntegerDigits : Nat := 4300

/-- The integer that a text denotes. -/
def integer? (t : Text) : Option Int :=
  let (sign, rest) := Numeral.takeSign t
  let groups := rest.splitOn (CodePoint.char '_')
  let digits := groups.flatten
  if groups.all (fun group => !group.isEmpty && group.all isDigit) &&
      digits.length ≤ maxIntegerDigits then
    some (if Numeral.isMinus sign then -(natOfDigits digits : Int) else natOfDigits digits)
  else none

end Number
end ChartScript
