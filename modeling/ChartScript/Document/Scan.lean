import ChartScript.Text.Basic

/-!
# Scanning documents

Small readers that the document formats share.  Each reads something at the start of a text and
gives back the rest.
-/

set_option autoImplicit false

namespace ChartScript
namespace Scan

/-- The rest of a text after `word`. -/
def after? (word : String) (cs : Text) : Option (Text) :=
  if (Text.ofString word).isPrefixOf cs then some (cs.drop word.length) else none

/-- Whether `c` is an ASCII digit. -/
def isAsciiDigit (c : CodePoint) : Bool := c.isIn Char.isDigit

/-- The value of a hexadecimal digit. -/
def hexValue? (c : CodePoint) : Option Nat :=
  if 0x30 ≤ c.code ∧ c.code ≤ 0x39 then some (c.code - 0x30)
  else if 0x61 ≤ c.code ∧ c.code ≤ 0x66 then some (c.code - 0x61 + 10)
  else if 0x41 ≤ c.code ∧ c.code ≤ 0x46 then some (c.code - 0x41 + 10)
  else none

/-- The number written with the next `count` hexadecimal digits, and the rest. -/
def hexNumber? : Nat → Nat → Text → Option (Nat × Text)
  | 0, acc, rest => some (acc, rest)
  | count + 1, acc, c :: rest => do hexNumber? count (16 * acc + (← hexValue? c)) rest
  | _ + 1, _, [] => none

end Scan
end ChartScript
