import ChartScript.Number.Numeral
import ChartScript.Text.Quoted

/-!
# The number at the start of a text

Numeric options read the longest numeral at the start of their value.  A value that starts with no
numeral counts as zero, and so does a numeral too large for a finite binary64 number.  Blanks before
the numeral are allowed, except the separators U+001C to U+001F, which make it unreadable.
-/

set_option autoImplicit false

namespace ChartScript

/-- A numeral that cannot be read because of the blanks before it. -/
structure UnreadableNumber where
  text : Text
  deriving DecidableEq, Repr

/-- The fault in words. -/
def UnreadableNumber.message (f : UnreadableNumber) : String :=
  "could not convert string to float: " ++ Text.quoted f.text

/-- Whether `c` is one of the separators U+001C to U+001F. -/
def isSeparatorControl (c : CodePoint) : Bool := 0x1C ≤ c.code && c.code ≤ 0x1F

/-- The number at the start of a text. -/
def leadingNumber (value : Text) : Except UnreadableNumber Binary64 :=
  match Numeral.scan? value with
  | none => .ok 0
  | some n =>
    if n.blanks.any isSeparatorControl then .error ⟨n.text⟩
    else .ok (if n.toBinary64.isFinite then n.toBinary64 else 0)

/-- Whether a text starts with a numeral. -/
def startsWithNumeral (value : Text) : Bool := (Numeral.scan? value).isSome

end ChartScript
