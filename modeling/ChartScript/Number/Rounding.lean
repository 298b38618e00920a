/-!
# Rounding quotients

Exact rounding of a quotient of natural numbers, and of a positive quotient to a given number of
significant decimal digits.  A half goes to the even neighbour in both.

* `roundDiv n d` is `n / d` rounded to a natural number.
* `digitCount n` is the number of decimal digits of `n`, none for zero.
* `decimalExponent n d` is the exponent of the leading decimal digit of `n / d`.
* `significant p n d` is `n / d` rounded to `p` significant digits.
-/

set_option autoImplicit false

namespace ChartScript
namespace Number

/-- `n / d` rounded to the nearest natural number, a half to the even neighbour. -/
def roundDiv (n d : Nat) : Nat :=
  let q := n / d
  let r := n % d
  if 2 * r < d then q
  else if 2 * r = d then q + q % 2
  else q + 1

theorem le_roundDiv (n d : Nat) : n / d ≤ roundDiv n d := by
  simp only [roundDiv]
  split
  · exact Nat.le_refl _
  · split <;> omega

theorem roundDiv_le (n d : Nat) : roundDiv n d ≤ n / d + 1 := by
  simp only [roundDiv]
  split
  · omega
  · split
    · have := Nat.mod_lt (n / d) (y := 2) (by omega)
      omega
    · omega

/-- The number of decimal digits of `n`; zero has none. -/
def digitCount (n : Nat) : Nat :=
  if n = 0 then 0 else digitCount (n / 10) + 1
  termination_by n
  decreasing_by omega

/-- The exponent of the leading decimal digit of the positive quotient `n / d`. -/
def decimalExponent (n d : Nat) : Int :=
  if d ≤ n then (digitCount (n / d) : Int) - 1 else -(digitCount ((d - 1) / n) : Int)

/-- A decimal with `p` significant digits: the digits, as a number of `p` digits, and the exponent
of the first of them. -/
structure Scientific where
  digits : Nat
  exponent : Int
  deriving DecidableEq, Repr

/-- The quotient `n / d` in units of `10 ^ e`, as a quotient again. -/
def inUnits (e : Int) (n d : Nat) : Nat × Nat :=
  match e with
  | .ofNat k => (n, d * Nat.pow 10 k)
  | .negSucc k => (n * Nat.pow 10 (k + 1), d)

/-- The positive quotient `n / d` rounded to `p` significant digits. -/
def significant (p n d : Nat) : Scientific :=
  let e := decimalExponent n d
  let (n', d') := inUnits (e - (p - 1 : Nat)) n d
  let digits := roundDiv n' d'
  if digits = Nat.pow 10 p then ⟨Nat.pow 10 (p - 1), e + 1⟩ else ⟨digits, e⟩

end Number
end ChartScript
