import ChartScript.Text.Basic

/-!
# Decimal digits

The decimal digits of the Unicode standard come in blocks of ten consecutive code points, from the
digit zero to the digit nine of one script.  `digitZeros` lists the zeros.

* `digitValue?` is the value of a digit, `isDigit` the class of the digits.
* `natOfDigits` reads a row of digits, most significant first.
-/

set_option autoImplicit false

namespace ChartScript
namespace Text

/-- The code points of the digits zero, in increasing order. -/
def digitZeros : List Nat :=
  [0x30, 0x660, 0x6F0, 0x7C0, 0x966, 0x9E6, 0xA66, 0xAE6, 0xB66, 0xBE6, 0xC66, 0xCE6, 0xD66,
    0xDE6, 0xE50, 0xED0, 0xF20, 0x1040, 0x1090, 0x17E0, 0x1810, 0x1946, 0x19D0, 0x1A80, 0x1A90,
    0x1B50, 0x1BB0, 0x1C40, 0x1C50, 0xA620, 0xA8D0, 0xA900, 0xA9D0, 0xA9F0, 0xAA50, 0xABF0,
    0xFF10, 0x104A0, 0x10D30, 0x11066, 0x110F0, 0x11136, 0x111D0, 0x112F0, 0x11450, 0x114D0,
    0x11650, 0x116C0, 0x11730, 0x118E0, 0x11950, 0x11C50, 0x11D50, 0x11DA0, 0x16A60, 0x16AC0,
    0x16B50, 0x1D7CE, 0x1D7D8, 0x1D7E2, 0x1D7EC, 0x1D7F6, 0x1E140, 0x1E2F0, 0x1E950, 0x1FBF0]

/-- The value of a decimal digit. -/
def digitValue? (c : CodePoint) : Option Nat :=
  (digitZeros.find? fun first => first ≤ c.code && c.code ≤ first + 9).map (c.code - ·)

/-- Whether `c` is a decimal digit. -/
def isDigit (c : CodePoint) : Bool := (digitValue? c).isSome

/-- The number that a row of digits denotes, most significant first. -/
def natOfDigits (digits : Text) : Nat :=
  digits.foldl (fun n c => 10 * n + (digitValue? c).getD 0) 0

theorem digitValue?_lt_ten {c : CodePoint} {v : Nat} (h : digitValue? c = some v) : v < 10 := by
  rw [digitValue?, Option.map_eq_some_iff] at h
  obtain ⟨first, hfirst, rfl⟩ := h
  have := List.find?_some hfirst
  simp only [Bool.and_eq_true, decide_eq_true_eq] at this
  omega

/-- The ASCII digits denote their usual values. -/
example : (ofString "0123456789").map digitValue? = (List.range 10).map some := by decide

end Text
end ChartScript
