import ChartScript.Number.Rounding

/-!
# Binary64 numbers

The numbers of the chart style are binary64 numbers: a sign and a magnitude, or an infinity, or the
undefined number.  A magnitude is a natural number of units `2 ^ -1074`, the least positive
magnitude, and every binary64 magnitude is such a number; so the arithmetic here is exact
arithmetic on natural numbers followed by one rounding.

* `Representable` says which numbers of units are magnitudes: those with at most 53 significant
  binary digits below the overflow limit.
* `roundUnits` rounds a quotient of units to the nearest number of units with at most 53
  significant digits, a half to the even neighbour (`representable_roundUnits`).
* `ofRatio`, `add` and `mul` are exact results so rounded; from `limitUnits` on the result is
  infinite.
-/

set_option autoImplicit false

namespace ChartScript

/-- The power of two with exponent `k`. -/
def twoPow (k : Nat) : Nat := Nat.pow 2 k

theorem twoPow_pos (k : Nat) : 0 < twoPow k := Nat.two_pow_pos k

/-- The number of units from which on a magnitude is infinite, `2 ^ 1024`. -/
def limitUnits : Nat := twoPow 2098

/-- The number of units in one. -/
def oneUnits : Nat := twoPow 1074

/-- The numbers of units that a finite binary64 number can have: at most 53 significant binary
digits, and below the limit. -/
def Representable (units : Nat) : Prop :=
  units < limitUnits ∧ ∃ significand shift : Nat, significand < twoPow 53 ∧
    units = significand * twoPow shift

/-- A finite magnitude, in units of `2 ^ -1074`. -/
structure Magnitude where
  units : Nat
  representable : Representable units

/-- The integer part of a magnitude. -/
def Magnitude.wholePart (m : Magnitude) : Nat := m.units / oneUnits

instance : DecidableEq Magnitude := fun a b =>
  if h : a.units = b.units then
    isTrue (by cases a; cases b; cases h; rfl)
  else isFalse fun hab => h (congrArg Magnitude.units hab)

/-- A binary64 number. -/
inductive Binary64 where
  | finite (negative : Bool) (magnitude : Magnitude)
  | infinite (negative : Bool)
  | undefined
  deriving DecidableEq

namespace Binary64

/-! ## Rounding -/

/-- The quotient `n / d`, in units, rounded to at most 53 significant binary digits. -/
def roundUnits (n d : Nat) : Nat :=
  let shift := (n / d).log2 + 1 - 53
  Number.roundDiv n (d * twoPow shift) * twoPow shift

/-- The rounded quotient before it is scaled back has at most 53 digits, or is `2 ^ 53`. -/
theorem roundDiv_shifted_le (n d : Nat) :
    Number.roundDiv n (d * twoPow ((n / d).log2 + 1 - 53)) ≤ twoPow 53 := by
  simp only [twoPow, Nat.pow_eq]
  refine Nat.le_trans (Number.roundDiv_le _ _) ?_
  rw [← Nat.div_div_eq_div_mul]
  have hlt : n / d < 2 ^ ((n / d).log2 + 1) := Nat.lt_log2_self
  have hle : 2 ^ ((n / d).log2 + 1) ≤ 2 ^ 53 * 2 ^ ((n / d).log2 + 1 - 53) := by
    rw [← Nat.pow_add]
    exact Nat.pow_le_pow_right (by decide) (by omega)
  have : n / d / 2 ^ ((n / d).log2 + 1 - 53) < 2 ^ 53 :=
    (Nat.div_lt_iff_lt_mul (Nat.two_pow_pos _)).2 (Nat.lt_of_lt_of_le hlt hle)
  omega

/-- A rounded quotient below the limit is a magnitude. -/
theorem representable_roundUnits {n d : Nat} (h : roundUnits n d < limitUnits) :
    Representable (roundUnits n d) := by
  refine ⟨h, ?_⟩
  rcases Nat.lt_or_eq_of_le (roundDiv_shifted_le n d) with hlt | heq
  · exact ⟨_, _, hlt, rfl⟩
  · refine ⟨twoPow 52, (n / d).log2 + 1 - 53 + 1, by decide, ?_⟩
    rw [roundUnits, heq]
    simp only [twoPow, Nat.pow_eq]
    rw [Nat.pow_succ 2 52, Nat.pow_succ 2 (_ - 53), Nat.mul_assoc, Nat.mul_comm 2]

/-- The number of magnitude `n / d` units, rounded. -/
def ofUnits (negative : Bool) (n d : Nat) : Binary64 :=
  if h : roundUnits n d < limitUnits then
    .finite negative ⟨roundUnits n d, representable_roundUnits h⟩
  else .infinite negative

/-- The number of magnitude `n / d`, rounded. -/
def ofRatio (negative : Bool) (n d : Nat) : Binary64 := ofUnits negative (n * oneUnits) d

theorem representable_zero : Representable 0 :=
  ⟨twoPow_pos 2098, 0, 0, twoPow_pos 53, rfl⟩

/-- The zero of the given sign. -/
def signedZero (negative : Bool) : Binary64 := .finite negative ⟨0, representable_zero⟩

instance : OfNat Binary64 0 := ⟨signedZero false⟩

/-- The number nearest to a natural number. -/
def ofNat (n : Nat) : Binary64 := ofRatio false n 1

/-! ## Arithmetic -/

/-- The absolute value. -/
def abs : Binary64 → Binary64
  | .finite _ m => .finite false m
  | .infinite _ => .infinite false
  | .undefined => .undefined

/-- Whether the number is one of the two zeros. -/
def isZero : Binary64 → Bool
  | .finite _ m => m.units == 0
  | _ => false

/-- Whether the number is finite. -/
def isFinite : Binary64 → Bool
  | .finite .. => true
  | _ => false

/-- A magnitude with its sign, as an integer number of units. -/
def signedUnits (negative : Bool) (m : Magnitude) : Int :=
  if negative then -(m.units : Int) else m.units

/-- The product, rounded. -/
def mul : Binary64 → Binary64 → Binary64
  | .finite s a, .finite t b => ofUnits (s != t) (a.units * b.units) oneUnits
  | .infinite s, .finite t b => if b.units = 0 then .undefined else .infinite (s != t)
  | .finite s a, .infinite t => if a.units = 0 then .undefined else .infinite (s != t)
  | .infinite s, .infinite t => .infinite (s != t)
  | .undefined, _ => .undefined
  | _, .undefined => .undefined

/-- The sum, rounded.  A sum of zero is negative only when both parts are. -/
def add : Binary64 → Binary64 → Binary64
  | .finite s a, .finite t b =>
    let sum := signedUnits s a + signedUnits t b
    if sum = 0 then signedZero (s && t) else ofUnits (decide (sum < 0)) sum.natAbs 1
  | .infinite s, .finite .. => .infinite s
  | .finite .., .infinite t => .infinite t
  | .infinite s, .infinite t => if s = t then .infinite s else .undefined
  | .undefined, _ => .undefined
  | _, .undefined => .undefined

instance : Mul Binary64 := ⟨mul⟩

instance : Add Binary64 := ⟨add⟩

/-! ## The interchange format -/

/-- The 64 bits of the number, as a natural number. -/
def bits (x : Binary64) : Nat :=
  let sign (negative : Bool) : Nat := if negative then twoPow 63 else 0
  match x with
  | .undefined => 0x7FF8000000000000
  | .infinite negative => sign negative + 0x7FF0000000000000
  | .finite negative m =>
    if m.units < twoPow 52 then sign negative + m.units
    else
      let shift := m.units.log2 - 52
      sign negative + (shift + 1) * twoPow 52 + (m.units / twoPow shift - twoPow 52)

/-- The 64 bits of the number as sixteen hexadecimal digits. -/
def bitsText (x : Binary64) : String :=
  let digits := Nat.toDigits 16 x.bits
  String.ofList (List.replicate (16 - digits.length) '0' ++ digits)

end Binary64
end ChartScript
