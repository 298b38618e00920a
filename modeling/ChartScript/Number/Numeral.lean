import ChartScript.Number.Binary64
import ChartScript.Text.Blank
import ChartScript.Text.Digit

/-!
# Decimal numerals

A numeral is a run of blanks, an optional sign, decimal digits with an optional point and optional
further digits, or a point followed by digits, and an optional exponent: `e` or `E`, an optional
sign and at least one digit.

* `Numeral` holds the parts of a numeral as they are written; `Numeral.text` puts them together.
* `Numeral.scan?` reads the longest numeral at the start of a text.
* `Numeral.toBinary64` is the binary64 number nearest to what a numeral denotes.
-/

set_option autoImplicit false

namespace ChartScript

open Text (isBlank isDigit natOfDigits)

/-- The exponent part of a numeral: its letter, its sign if there is one, and its digits. -/
structure Exponent where
  letter : CodePoint
  sign : Text
  digits : Text
  deriving DecidableEq, Repr

/-- The parts of a numeral as they are written.  `sign` is empty or one sign. -/
structure Numeral where
  blanks : Text
  sign : Text
  whole : Text
  point : Bool
  fraction : Text
  exponent : Option Exponent
  deriving DecidableEq, Repr

namespace Numeral

/-- An exponent as it is written. -/
def exponentText (e : Exponent) : Text := e.letter :: e.sign ++ e.digits

/-- A numeral as it is written. -/
def text (n : Numeral) : Text :=
  n.blanks ++ n.sign ++ n.whole ++ (if n.point then "." else "") ++ n.fraction ++
    (n.exponent.map exponentText).getD []

/-! ## Reading -/

/-- The sign at the start of a text, if there is one, and the rest. -/
def takeSign : Text → Text × Text
  | '+' :: rest => ("+", rest)
  | '-' :: rest => ("-", rest)
  | rest => ([], rest)

/-- The exponent at the start of a text. -/
def scanExponent? : Text → Option Exponent
  | [] => none
  | letter :: rest =>
    if letter = 'e' ∨ letter = 'E' then
      let (sign, rest) := takeSign rest
      let digits := rest.takeWhile isDigit
      if digits.isEmpty then none else some ⟨letter, sign, digits⟩
    else none

/-- The digits, point and further digits at the start of a text, and the rest. -/
def scanMantissa? (cs : Text) : Option ((Text × Bool × Text) × Text) :=
  let whole := cs.takeWhile isDigit
  match cs.dropWhile isDigit with
  | '.' :: rest =>
    let fraction := rest.takeWhile isDigit
    if whole.isEmpty && fraction.isEmpty then none
    else some ((whole, true, fraction), rest.dropWhile isDigit)
  | rest => if whole.isEmpty then none else some ((whole, false, []), rest)

/-- The longest numeral at the start of a text. -/
def scan? (cs : Text) : Option Numeral := do
  let blanks := cs.takeWhile isBlank
  let (sign, rest) := takeSign (cs.dropWhile isBlank)
  let ((whole, point, fraction), rest) ← scanMantissa? rest
  some ⟨blanks, sign, whole, point, fraction, scanExponent? rest⟩

/-! ## Value -/

/-- Whether a sign is the minus sign. -/
def isMinus (sign : Text) : Bool := sign == "-"

/-- The integer that an exponent denotes. -/
def exponentValue (e : Exponent) : Int :=
  if isMinus e.sign then -(natOfDigits e.digits : Int) else natOfDigits e.digits

/-- The digits of a numeral, as one natural number. -/
def coefficient (n : Numeral) : Nat := natOfDigits (n.whole ++ n.fraction)

/-- The power of ten that belongs to the last digit of a numeral. -/
def scale (n : Numeral) : Int := (n.exponent.map exponentValue).getD 0 - n.fraction.length

/-- The number nearest to `coefficient * 10 ^ scale`.  A decimal of magnitude `10 ^ 400` or more is
infinite and one below `10 ^ -400` is zero, so no larger power of ten is ever formed. -/
def nearest (negative : Bool) (coefficient : Nat) (scale : Int) : Binary64 :=
  let size := (Number.digitCount coefficient : Int) + scale
  if coefficient = 0 then Binary64.signedZero negative
  else if 400 < size then .infinite negative
  else if size < -400 then Binary64.signedZero negative
  else
    match scale with
    | .ofNat k => Binary64.ofRatio negative (coefficient * Nat.pow 10 k) 1
    | .negSucc k => Binary64.ofRatio negative coefficient (Nat.pow 10 (k + 1))

/-- The binary64 number nearest to what the numeral denotes. -/
def toBinary64 (n : Numeral) : Binary64 := nearest (isMinus n.sign) n.coefficient n.scale

end Numeral

/-- The binary64 number that a word denotes: a numeral, or the name of an infinity or of the
undefined number. -/
def Binary64.ofText? (t : Text) : Option Binary64 :=
  let (sign, rest) := Numeral.takeSign t
  if rest = "inf" then some (.infinite (Numeral.isMinus sign))
  else if rest = "nan" then some .undefined
  else
    match Numeral.scan? t with
    | some n => if n.text.length = t.length then some n.toBinary64 else none
    | none => none

end ChartScript
