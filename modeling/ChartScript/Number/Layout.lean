import ChartScript.Number.Numeral

/-!
# Numbers as text

A finite number is written by its significant decimal digits, in positional form while the exponent
of the leading digit is moderate and with an explicit exponent otherwise.

* `Layout` holds the decisions of such a format; `Layout.text` writes digits accordingly.
* `Binary64.shortText` is the format of the script: at most 15 significant digits, correctly
  rounded, without trailing zeros.
* `Binary64.exactText` is the format of configuration values: the fewest digits that read back as
  the same number, and of those the nearest, with a decimal point or an exponent always present.
-/

set_option autoImplicit false

namespace ChartScript

/-- The decisions of a number format. -/
structure Layout where
  /-- From this exponent of the leading digit on, an exponent is written. -/
  positionalBelow : Int
  /-- Whether an integer in positional form ends in `.0`. -/
  showsPoint : Bool

namespace Layout

/-- Drops the zeros at the end of a row of digits. -/
def dropZeros (digits : List Char) : List Char := (digits.reverse.dropWhile (· == '0')).reverse

/-- A point and the digits after it, if there are any. -/
def fractionText (digits : List Char) : List Char :=
  if digits.isEmpty then [] else '.' :: digits

/-- An exponent with its sign and at least two digits. -/
def exponentText (e : Int) : List Char :=
  let digits := Nat.toDigits 10 e.natAbs
  'e' :: (if e < 0 then '-' else '+') :: List.replicate (2 - digits.length) '0' ++ digits

/-- Digits in positional form, the first of them at `10 ^ e`. -/
def positional (layout : Layout) (digits : List Char) (e : Int) : List Char :=
  match e with
  | .ofNat k =>
    let whole := digits.take (k + 1)
    let fraction := digits.drop (k + 1)
    whole ++ List.replicate (k + 1 - whole.length) '0' ++
      (if fraction.isEmpty && layout.showsPoint then ['.', '0'] else fractionText fraction)
  | .negSucc k => '0' :: '.' :: List.replicate k '0' ++ digits

/-- A positive decimal: `digits` without trailing zeros, the first of them at `10 ^ e`. -/
def text (layout : Layout) (digits : List Char) (e : Int) : List Char :=
  let digits := dropZeros digits
  if -4 ≤ e ∧ e < layout.positionalBelow then layout.positional digits e
  else digits.take 1 ++ fractionText (digits.drop 1) ++ exponentText e

end Layout

namespace Binary64

/-- The text of a number, given the text of its magnitude when that is positive and the text of
zero. -/
def textWith (positive : Magnitude → List Char) (zeroText : List Char) : Binary64 → String
  | .undefined => "nan"
  | .infinite negative => if negative then "-inf" else "inf"
  | .finite negative m =>
    let magnitude := if m.units = 0 then zeroText else positive m
    String.ofList (if negative then '-' :: magnitude else magnitude)

/-! ## At most fifteen digits -/

/-- The script writes numbers with 15 digits at most, positionally below `10 ^ 15`. -/
def shortLayout : Layout := ⟨15, false⟩

/-- A number with at most 15 significant digits. -/
def shortText : Binary64 → String :=
  textWith (fun m =>
    let d := Number.significant 15 m.units oneUnits
    shortLayout.text (Nat.toDigits 10 d.digits) d.exponent) ['0']

/-! ## The fewest digits that read back -/

/-- Configuration values are written positionally below `10 ^ 16`, with a point. -/
def exactLayout : Layout := ⟨16, true⟩

/-- The least decimal with `p` digits above `s`. -/
def nextAbove (p : Nat) (s : Number.Scientific) : Number.Scientific :=
  if s.digits + 1 = Nat.pow 10 p then ⟨Nat.pow 10 (p - 1), s.exponent + 1⟩
  else ⟨s.digits + 1, s.exponent⟩

/-- Whether a decimal with `p` digits reads back as the magnitude `m`. -/
def readsBack (m : Magnitude) (p : Nat) (s : Number.Scientific) : Bool :=
  Numeral.nearest false s.digits (s.exponent - (p - 1 : Nat)) == .finite false m

/-- The fewest digits that read back as `m`, tried from `p` digits on.  The nearest decimal is tried
first.  A magnitude is never closer to the one above it than to the one below, so when the nearest
decimal fails only the next one above can succeed.  Seventeen digits always read back. -/
def fewestDigits (m : Magnitude) : Nat → Nat → Number.Scientific
  | 0, p => Number.significant p m.units oneUnits
  | left + 1, p =>
    let near := Number.significant p m.units oneUnits
    if readsBack m p near then near
    else if readsBack m p (nextAbove p near) then nextAbove p near
    else fewestDigits m left (p + 1)

/-- A number with the fewest digits that read back. -/
def exactText : Binary64 → String :=
  textWith (fun m =>
    let s := fewestDigits m 16 1
    exactLayout.text (Nat.toDigits 10 s.digits) s.exponent) ['0', '.', '0']

end Binary64
end ChartScript
