import ChartScript.Proofs.NumericStyle
import ChartScript.Proofs.RoundingBounds
import Mathlib.Tactic.Ring

/-!
# When the gap between bars is odd

Clusters are centred on odd gaps only.  So one is added to a gap whose integer part is even, and one
would think that it is odd then.  It is not always, for two reasons.  The sum is rounded, and the
next number up may be two on; and the integer part is that towards zero, for which minus one half
and one half are even both.

The numbers concerned are found by going through the ways in which one is added: to a positive
number, where only rounding can go wrong, and to a negative one, where the sum can also be smaller
than one in magnitude.  Everything is in units of the smallest binary digit, where numbers are
natural numbers and an integer part is a quotient, so parity is arithmetic and rounding is
`roundUnits`.  `Binary64.IsLeftEven` states the answer in rational numbers again, as a user would
check it: the last number below one, the numbers between minus one and zero, except for those so
close to zero that one more is rounded to one, and the numbers from `2 ^ 53` on in either direction,
where odd numbers end.  The two directions are not alike, as one more than `-2 ^ 53` is still odd.

`IsZeroOrOdd` counts zero as good, since a gap of zero is left as it is.  It does not count numbers
that are not finite; none can arise, but that is a theorem and not a convention.
`isZeroOrOdd_barGap_iff` is about the gap that the whole phase leaves, whatever other options are
given, by `Proofs.NumericStyle`.
-/

set_option autoImplicit false

namespace ChartScript
namespace Binary64

/-! ## Adding one -/

theorem finite_add_finite (s t : Bool) (a b : Magnitude) :
    Binary64.finite s a + .finite t b =
      if signedUnits s a + signedUnits t b = 0 then signedZero (s && t)
      else ofUnits (decide (signedUnits s a + signedUnits t b < 0))
        (signedUnits s a + signedUnits t b).natAbs 1 := by
  change add (.finite s a) (.finite t b) = _
  rw [add]

theorem oneUnits_le_twoPow {k : Nat} (h : 1074 ≤ k) : oneUnits ≤ twoPow k := by
  rw [oneUnits_eq]
  exact twoPow_le_twoPow h

theorem signedUnits_false (m : Magnitude) : signedUnits false m = m.units := rfl

theorem signedUnits_true (m : Magnitude) : signedUnits true m = -(m.units : Int) := rfl

theorem exists_ofNat_one : ∃ one : Magnitude, ofNat 1 = .finite false one ∧ one.units = oneUnits :=
  ⟨⟨oneUnits, representable_oneUnits⟩, ofNat_one, by dsimp only⟩

theorem positive_add_one (m : Magnitude) :
    Binary64.finite false m + ofNat 1 = ofUnits false (m.units + oneUnits) 1 := by
  obtain ⟨one, hone, hunits⟩ := exists_ofNat_one
  have hpos := oneUnits_pos
  have habs : ((m.units : Int) + oneUnits).natAbs = m.units + oneUnits := by omega
  rw [hone, finite_add_finite, signedUnits_false, signedUnits_false, hunits, if_neg (by omega),
    decide_eq_false (by omega), habs]

theorem negative_add_one_of_lt {m : Magnitude} (h : m.units < oneUnits) :
    Binary64.finite true m + ofNat 1 = ofUnits false (oneUnits - m.units) 1 := by
  obtain ⟨one, hone, hunits⟩ := exists_ofNat_one
  have habs : (-(m.units : Int) + oneUnits).natAbs = oneUnits - m.units := by omega
  rw [hone, finite_add_finite, signedUnits_true, signedUnits_false, hunits, if_neg (by omega),
    decide_eq_false (by omega), habs]

theorem negative_add_one_of_gt {m : Magnitude} (h : oneUnits < m.units) :
    Binary64.finite true m + ofNat 1 = ofUnits true (m.units - oneUnits) 1 := by
  obtain ⟨one, hone, hunits⟩ := exists_ofNat_one
  have habs : (-(m.units : Int) + oneUnits).natAbs = m.units - oneUnits := by omega
  rw [hone, finite_add_finite, signedUnits_true, signedUnits_false, hunits, if_neg (by omega),
    decide_eq_true (by omega), habs]

/-! ## Odd integer parts -/

/-- Whether a number is zero or has an odd integer part. -/
def IsZeroOrOdd : Binary64 → Prop
  | .finite _ m => m.units = 0 ∨ m.wholePart % 2 = 1
  | _ => False

theorem isZeroOrOdd_ofUnits_iff {negative : Bool} {s : Nat} (hs : 0 < s) :
    IsZeroOrOdd (ofUnits negative s 1) ↔
      roundUnits s 1 < limitUnits ∧ roundUnits s 1 / oneUnits % 2 = 1 := by
  have hpos := roundUnits_pos hs
  rw [ofUnits]
  split
  · next hlt =>
    simp only [IsZeroOrOdd, Magnitude.wholePart, hlt, true_and]
    omega
  · next hlt => simp [IsZeroOrOdd, hlt]

theorem isZeroOrOdd_ofUnits_of_representable {negative : Bool} {s : Nat} (hs : Representable s) :
    IsZeroOrOdd (ofUnits negative s 1) ↔ s = 0 ∨ s / oneUnits % 2 = 1 := by
  have hofUnits := ofUnits_of_representable negative hs Nat.one_pos
  rw [Nat.mul_one] at hofUnits
  rw [hofUnits]
  rfl

theorem mod_two_of_dvd {u : Nat} (h : twoPow 1075 ∣ u) : u / oneUnits % 2 = 0 := by
  obtain ⟨q, hq⟩ := h
  rw [hq, twoPow_succ 1074, ← oneUnits_eq, Nat.mul_assoc, Nat.mul_div_cancel_left _ oneUnits_pos,
    Nat.mul_mod_right]

/-- From `2 ^ 53` on the last digit of a magnitude is worth two at least. -/
theorem twoPow_dvd_of_large {u : Nat} (hu : Representable u) (h : twoPow 1127 ≤ u) :
    twoPow 1075 ∣ u := by
  have hlog : 1127 ≤ u.log2 := (twoPow_le_iff ((twoPow_pos 1127).trans_le h).ne').mp h
  exact (twoPow_dvd_twoPow (by omega)).trans (twoPow_dvd_of_representable hu)

/-- From `2 ^ 53` on every number is even. -/
theorem not_isZeroOrOdd_of_large {negative : Bool} {s : Nat} (h : twoPow 1127 ≤ s) :
    ¬IsZeroOrOdd (ofUnits negative s 1) := by
  rw [isZeroOrOdd_ofUnits_iff ((twoPow_pos 1127).trans_le h)]
  rintro ⟨-, hodd⟩
  rw [mod_two_of_dvd (twoPow_dvd_roundUnits h)] at hodd
  exact absurd hodd (by decide)

/-! ## Sums that are exact -/

section Exact

variable {u : Nat} (hu : Representable u) (hlow : oneUnits ≤ u)

include hu hlow

/-- If the last digit of a magnitude is worth one at most, the magnitude and one are multiples of
what it is worth. -/
theorem exists_twoPow_dvd (hhigh : u ≤ twoPow 1127) :
    ∃ k ≤ 1074, twoPow k ∣ u ∧ twoPow k ∣ oneUnits ∧ u ≤ twoPow (53 + k) ∧
      (u < twoPow 1127 → u < twoPow (53 + k)) := by
  have hne : u ≠ 0 := fun hzero => by
    have := oneUnits_pos
    omega
  by_cases hlt : u < twoPow 1127
  · have hlog : 1074 ≤ u.log2 := (twoPow_le_iff hne).mp (oneUnits_eq ▸ hlow)
    have hlog' := (lt_twoPow_iff hne).mp hlt
    have hdvd := twoPow_dvd_of_representable hu
    have hsize : u < twoPow (u.log2 + 1) := Nat.lt_log2_self
    rw [show u.log2 + 1 - 53 = u.log2 - 52 by omega] at hdvd
    rw [show u.log2 + 1 = 53 + (u.log2 - 52) by omega] at hsize
    refine ⟨u.log2 - 52, by omega, hdvd, ?_, hsize.le, fun _ => hsize⟩
    rw [oneUnits_eq]
    exact twoPow_dvd_twoPow (by omega)
  · have hdvd : twoPow 1074 ∣ u := by
      rw [Nat.le_antisymm hhigh (Nat.le_of_not_lt hlt)]
      exact twoPow_dvd_twoPow (by omega)
    refine ⟨1074, le_rfl, hdvd, ?_, hhigh.trans (twoPow_le_twoPow (by omega)),
      fun h => absurd h hlt⟩
    rw [oneUnits_eq]

theorem representable_sub_one (hhigh : u ≤ twoPow 1127) : Representable (u - oneUnits) := by
  obtain ⟨k, hk, hdvd, hone, hle, -⟩ := exists_twoPow_dvd hu hlow hhigh
  have hpos := oneUnits_pos
  exact representable_of_dvd (Nat.dvd_sub hdvd hone) (by omega) (by omega)

theorem representable_add_one (hhigh : u < twoPow 1127) (heven : u / oneUnits % 2 = 0) :
    Representable (u + oneUnits) := by
  obtain ⟨k, hk, hdvd, hone, -, hsize⟩ := exists_twoPow_dvd hu hlow hhigh.le
  have hlt := hsize hhigh
  refine representable_of_dvd (Nat.dvd_add hdvd hone) ?_ (by omega)
  -- the bound is an even number of ones, so one more than an even number is below it
  have hexponent : 1074 < 53 + k := by
    by_contra hle
    have := twoPow_le_twoPow (Nat.le_of_not_lt hle)
    rw [← oneUnits_eq] at this
    omega
  obtain ⟨e, he⟩ : ∃ e, 53 + k = e + 1 + 1074 := ⟨53 + k - 1075, by omega⟩
  rw [he, twoPow_add, ← oneUnits_eq, twoPow_succ] at hlt ⊢
  have hwhole : u / oneUnits < twoPow e * 2 := (Nat.div_lt_iff_lt_mul oneUnits_pos).mpr hlt
  calc u + oneUnits
      < (u / oneUnits + 1) * oneUnits + oneUnits := by
        have := Nat.lt_div_mul_add oneUnits_pos (a := u)
        rw [Nat.succ_mul]
        omega
    _ = (u / oneUnits + 2) * oneUnits := by ring
    _ ≤ twoPow e * 2 * oneUnits := Nat.mul_le_mul_right _ (by omega)

end Exact

/-! ## One more than an even number -/

/-- Two multiples that differ do so by the divisor at least. -/
theorem add_le_of_dvd {d a b : Nat} (ha : d ∣ a) (hb : d ∣ b) (h : a < b) : a + d ≤ b := by
  by_contra hlt
  exact Nat.not_le_of_lt h (Nat.le_of_lt_add_of_dvd (Nat.lt_of_not_le hlt) hb ha)

/-- Of the magnitudes below one, only the last comes as close to it. -/
theorem add_twoPow_eq_oneUnits {u : Nat} (hu : Representable u) (hlt : u < oneUnits)
    (hnear : oneUnits ≤ u + twoPow 1021) : u + twoPow 1021 = oneUnits := by
  have hhalf : twoPow 1073 * 2 = oneUnits := by rw [oneUnits_eq, ← twoPow_succ]
  have hdigit : twoPow 1021 < twoPow 1073 := twoPow_lt_twoPow (by omega)
  have hlog : 1073 ≤ u.log2 := (twoPow_le_iff (by omega)).mp (by omega)
  have hdvd : twoPow 1021 ∣ u :=
    (twoPow_dvd_twoPow (by omega)).trans (twoPow_dvd_of_representable hu)
  have hone : twoPow 1021 ∣ oneUnits := by
    rw [oneUnits_eq]
    exact twoPow_dvd_twoPow (by omega)
  exact Nat.le_antisymm (add_le_of_dvd hdvd hone hlt) hnear

theorem isZeroOrOdd_positive_add_one {m : Magnitude} (heven : m.wholePart % 2 = 0) :
    IsZeroOrOdd (.finite false m + ofNat 1) ↔
      m.units + twoPow 1021 ≠ oneUnits ∧ m.units < twoPow 1127 := by
  have hpos := oneUnits_pos
  have hhalf := twoPow_pos 1021
  have htwo : twoPow 1075 = oneUnits * 2 := by rw [oneUnits_eq, ← twoPow_succ]
  rw [positive_add_one]
  by_cases hsmall : m.units < oneUnits
  · -- the sum is rounded to a number from one to two
    have hlarge : m.units < twoPow 1127 := hsmall.trans_le (oneUnits_le_twoPow (by omega))
    have hbetween := roundUnits_between (s := m.units + oneUnits) (k := 1074)
      (by omega) (by rw [← oneUnits_eq]; omega) (by rw [twoPow_succ, ← oneUnits_eq]; omega)
    simp only [Nat.reduceAdd, Nat.reduceSub, htwo, ← oneUnits_eq] at hbetween
    obtain ⟨hlow, hhigh, htop⟩ := hbetween
    have hfinite : roundUnits (m.units + oneUnits) 1 < limitUnits :=
      hhigh.trans_lt (htwo ▸ twoPow_lt_twoPow (by omega))
    rw [isZeroOrOdd_ofUnits_iff (by omega), and_iff_right hfinite, and_iff_left hlarge]
    constructor
    · intro hodd hnear
      rw [htop.mpr (by omega), Nat.mul_div_cancel_left _ hpos] at hodd
      exact absurd hodd (by decide)
    · intro hnear
      have hne : roundUnits (m.units + oneUnits) 1 ≠ oneUnits * 2 := fun heq =>
        hnear (add_twoPow_eq_oneUnits m.representable hsmall (by have := htop.mp heq; omega))
      rw [Nat.div_eq_of_lt_le (k := 1) (by omega) (by omega)]
  · by_cases hlarge : m.units < twoPow 1127
    · have hexact := representable_add_one m.representable (Nat.le_of_not_lt hsmall) hlarge heven
      rw [isZeroOrOdd_ofUnits_of_representable hexact, Nat.add_div_right _ hpos]
      rw [Magnitude.wholePart] at heven
      omega
    · refine iff_of_false (not_isZeroOrOdd_of_large ?_) fun h => hlarge h.2
      omega

theorem isZeroOrOdd_negative_add_one {m : Magnitude} (hzero : m.units ≠ 0)
    (heven : m.wholePart % 2 = 0) :
    IsZeroOrOdd (.finite true m + ofNat 1) ↔
      (m.units ≤ twoPow 1020 ∨ oneUnits ≤ m.units) ∧ m.units ≤ twoPow 1127 := by
  have hpos := oneUnits_pos
  have hhalf : twoPow 1073 * 2 = oneUnits := by rw [oneUnits_eq, ← twoPow_succ]
  by_cases hsmall : m.units < oneUnits
  · -- the sum is rounded to a number up to one
    have hlarge : m.units ≤ twoPow 1127 := hsmall.le.trans (oneUnits_le_twoPow (by omega))
    have hle : roundUnits (oneUnits - m.units) 1 ≤ oneUnits ∧
        (roundUnits (oneUnits - m.units) 1 = oneUnits ↔ m.units ≤ twoPow 1020) := by
      have hquarter : twoPow 1020 < twoPow 1073 := twoPow_lt_twoPow (by omega)
      by_cases hlow : twoPow 1073 ≤ oneUnits - m.units
      · have hbetween := roundUnits_between (s := oneUnits - m.units) (k := 1073)
          (by omega) hlow (by rw [twoPow_succ, hhalf]; omega)
        simp only [Nat.reduceAdd, Nat.reduceSub, ← oneUnits_eq] at hbetween
        refine ⟨hbetween.2.1, hbetween.2.2.trans ?_⟩
        omega
      · have := roundUnits_le (Nat.lt_of_not_le hlow)
        omega
    have hfinite : roundUnits (oneUnits - m.units) 1 < limitUnits :=
      hle.1.trans_lt (oneUnits_eq ▸ twoPow_lt_twoPow (by omega))
    rw [negative_add_one_of_lt hsmall, isZeroOrOdd_ofUnits_iff (by omega), and_iff_right hfinite,
      and_iff_left hlarge, or_iff_left (by omega), ← hle.2]
    constructor
    · intro hodd
      by_contra hne
      rw [Nat.div_eq_of_lt (by omega)] at hodd
      exact absurd hodd (by decide)
    · intro heq
      rw [heq, Nat.div_self hpos]
  · have hne : m.units ≠ oneUnits := by
      intro heq
      rw [Magnitude.wholePart, heq, Nat.div_self hpos] at heven
      exact absurd heven (by decide)
    have hlow : oneUnits ≤ m.units := Nat.le_of_not_lt hsmall
    rw [negative_add_one_of_gt (by omega)]
    by_cases hlarge : m.units ≤ twoPow 1127
    · have hexact := representable_sub_one m.representable hlow hlarge
      have hwhole := Nat.add_div_right (m.units - oneUnits) hpos
      rw [Nat.sub_add_cancel hlow] at hwhole
      rw [Magnitude.wholePart] at heven
      rw [isZeroOrOdd_ofUnits_of_representable hexact]
      omega
    · refine iff_of_false (not_isZeroOrOdd_of_large ?_) fun h => hlarge h.2
      -- from there on magnitudes are even numbers, so the next one is two away
      have hdvd := twoPow_dvd_of_large m.representable (Nat.le_of_not_le hlarge)
      have hnext := add_le_of_dvd (twoPow_dvd_twoPow (by omega)) hdvd (Nat.lt_of_not_le hlarge)
      have htwo : oneUnits ≤ twoPow 1075 := oneUnits_le_twoPow (by omega)
      omega

/-! ## Exact values -/

theorem toRat_positive (m : Magnitude) : toRat (.finite false m) = m.units / oneUnits := by
  rw [toRat, signedUnits_false, Int.cast_natCast]

theorem toRat_negative (m : Magnitude) : toRat (.finite true m) = -(m.units / oneUnits) := by
  rw [toRat, signedUnits_true, Int.cast_neg, Int.cast_natCast, neg_div]

/-- The numbers whose gap is left with an even integer part.  One more than the last number below
one is rounded to two, one more than a number between minus one and zero is less than one, and a
large number has no odd neighbour. -/
def IsLeftEven (x : ℚ) : Prop :=
  x = 1 - 1 / 2 ^ 53 ∨ (-1 < x ∧ x < -(1 / 2 ^ 54)) ∨ 2 ^ 53 ≤ x ∨ x < -2 ^ 53

theorem isLeftEven_div_iff {u one digit large : ℚ} (hu : 0 ≤ u) (hone : 0 < one)
    (hdigit : one = 2 ^ 53 * digit) (hlarge : large = 2 ^ 53 * one) :
    IsLeftEven (u / one) ↔ u + digit = one ∨ large ≤ u := by
  have hnonneg : 0 ≤ u / one := div_nonneg hu hone.le
  have hnear : u / one = 1 - 1 / 2 ^ 53 ↔ u + digit = one := by
    rw [div_eq_iff hone.ne', hdigit]
    constructor <;> intro h <;> linarith
  have hfar : 2 ^ 53 ≤ u / one ↔ large ≤ u := by rw [le_div_iff₀ hone, hlarge]
  rw [IsLeftEven, hnear, hfar]
  constructor
  · rintro (h | ⟨-, h⟩ | h | h)
    · exact .inl h
    · linarith
    · exact .inr h
    · linarith
  · rintro (h | h)
    · exact .inl h
    · exact .inr (.inr (.inl h))

theorem isLeftEven_neg_div_iff {u one half large : ℚ} (hu : 0 ≤ u) (hone : 0 < one)
    (hhalf : one = 2 ^ 54 * half) (hlarge : large = 2 ^ 53 * one) :
    IsLeftEven (-(u / one)) ↔ (half < u ∧ u < one) ∨ large < u := by
  have hnonneg : 0 ≤ u / one := div_nonneg hu hone.le
  have habove : -1 < -(u / one) ↔ u < one := by rw [neg_lt_neg_iff, div_lt_one hone]
  have hbelow : -(u / one) < -(1 / 2 ^ 54) ↔ half < u := by
    rw [neg_lt_neg_iff, lt_div_iff₀ hone, hhalf]
    constructor <;> intro h <;> linarith
  have hfar : -(u / one) < -2 ^ 53 ↔ large < u := by
    rw [neg_lt_neg_iff, lt_div_iff₀ hone, hlarge]
  rw [IsLeftEven, habove, hbelow, hfar]
  constructor
  · rintro (h | h | h | h)
    · norm_num at h
      linarith
    · exact .inl h.symm
    · linarith
    · exact .inr h
  · rintro (h | h)
    · exact .inr (.inl h.symm)
    · exact .inr (.inr (.inr h))

theorem cast_large : (twoPow 1127 : ℚ) = 2 ^ 53 * oneUnits := by
  rw [oneUnits_eq]
  exact cast_twoPow_add 53 1074

theorem isLeftEven_positive_iff {m : Magnitude} :
    IsLeftEven (toRat (.finite false m)) ↔
      m.units + twoPow 1021 = oneUnits ∨ twoPow 1127 ≤ m.units := by
  have hdigit : (oneUnits : ℚ) = 2 ^ 53 * twoPow 1021 := by
    rw [oneUnits_eq]
    exact cast_twoPow_add 53 1021
  rw [toRat_positive, isLeftEven_div_iff (Nat.cast_nonneg _) cast_oneUnits_pos hdigit cast_large,
    ← Nat.cast_add, Nat.cast_inj, Nat.cast_le]

theorem isLeftEven_negative_iff {m : Magnitude} :
    IsLeftEven (toRat (.finite true m)) ↔
      (twoPow 1020 < m.units ∧ m.units < oneUnits) ∨ twoPow 1127 < m.units := by
  have hhalf : (oneUnits : ℚ) = 2 ^ 54 * twoPow 1020 := by
    rw [oneUnits_eq]
    exact cast_twoPow_add 54 1020
  rw [toRat_negative, isLeftEven_neg_div_iff (Nat.cast_nonneg _) cast_oneUnits_pos hhalf cast_large,
    Nat.cast_lt, Nat.cast_lt, Nat.cast_lt]

/-- A number with an odd integer part is too small for its oddness to get lost. -/
theorem lt_of_odd_wholePart {m : Magnitude} (hodd : m.wholePart % 2 = 1) :
    oneUnits ≤ m.units ∧ m.units < twoPow 1127 := by
  constructor
  · by_contra hlt
    rw [Magnitude.wholePart, Nat.div_eq_of_lt (Nat.lt_of_not_le hlt)] at hodd
    exact absurd hodd (by decide)
  · by_contra hle
    rw [Magnitude.wholePart,
      mod_two_of_dvd (twoPow_dvd_of_large m.representable (Nat.le_of_not_lt hle))] at hodd
    exact absurd hodd (by decide)

end Binary64

open Binary64 (IsZeroOrOdd IsLeftEven)

/-- The gap that a style starts with, multiplied by a number, is zero or odd unless the number is
one of those for which it is left even. -/
theorem exists_multiplyGap_isZeroOrOdd_iff (negative : Bool) (m : Magnitude) :
    ∃ gap, multiplyGap (.ofNat 1) (.finite negative m) = .ok gap ∧
      (IsZeroOrOdd gap ↔ ¬IsLeftEven (Binary64.toRat (.finite negative m))) := by
  have hsmall : twoPow 1020 < oneUnits := by
    rw [Binary64.oneUnits_eq]
    exact Binary64.twoPow_lt_twoPow (by omega)
  have hdigit := twoPow_pos 1021
  have hdigit' : twoPow 1021 < oneUnits := by
    rw [Binary64.oneUnits_eq]
    exact Binary64.twoPow_lt_twoPow (by omega)
  have hlarge := twoPow_pos 1127
  rw [multiplyGap, Binary64.one_mul_finite]
  dsimp only
  split
  · next h =>
    refine ⟨_, rfl, ?_⟩
    cases negative with
    | false =>
      rw [Binary64.isZeroOrOdd_positive_add_one h.2, Binary64.isLeftEven_positive_iff]
      omega
    | true =>
      rw [Binary64.isZeroOrOdd_negative_add_one h.1 h.2, Binary64.isLeftEven_negative_iff]
      omega
  · next h =>
    refine ⟨_, rfl, iff_of_true (by rw [IsZeroOrOdd]; omega) fun heven => ?_⟩
    -- zero is small, and an odd number is neither below one nor large
    have hrange : m.units = 0 ∨ oneUnits ≤ m.units ∧ m.units < twoPow 1127 := by
      by_cases hzero : m.units = 0
      · exact .inl hzero
      · exact .inr (Binary64.lt_of_odd_wholePart (by omega))
    cases negative with
    | false =>
      rw [Binary64.isLeftEven_positive_iff] at heven
      omega
    | true =>
      rw [Binary64.isLeftEven_negative_iff] at heven
      omega

/-- **When the gap between bars is zero or odd.**  Whatever other options are given, the gap that
the `init` phase leaves is zero or has an odd integer part exactly if the number that was given is
not one of these: the last number below one, the numbers above minus one and below `-2 ^ -54`, and
the numbers from `2 ^ 53` on and below `-2 ^ 53`. -/
theorem isZeroOrOdd_barGap_iff {store : Store} {value : Text} {number : Binary64}
    (hvalue : store.settings .gapFactor = some value)
    (hnumber : leadingNumber value = .ok number) :
    IsZeroOrOdd (Pass.run {} (store.assignments .init)).style.barGap ↔
      ¬IsLeftEven number.toRat := by
  obtain ⟨negative, m, rfl⟩ : ∃ negative m, number = .finite negative m := by
    rcases leadingNumber_cases value with ⟨-, fault, hfault⟩ | ⟨-, negative, m, hfinite⟩
    · exact absurd (hfault.symm.trans hnumber) (by simp)
    · exact ⟨negative, m, Except.ok.inj (hnumber.symm.trans hfinite)⟩
  obtain ⟨gap, hgap, hodd⟩ := exists_multiplyGap_isZeroOrOdd_iff negative m
  rw [Pass.barGap_run_init hvalue hnumber hgap]
  exact hodd

/-- Minus one half becomes a gap of one half, which is even, and two becomes three. -/
theorem isZeroOrOdd_barGap_minusHalf :
    let style (line : Text) :=
      (Pass.run {} ((Description.ofLines [line]).store.assignments .init)).style
    ¬IsZeroOrOdd (style "intra_space_mul=-0.5").barGap ∧
      IsZeroOrOdd (style "intra_space_mul=2").barGap := by
  intro style
  have hgiven : (Description.ofLines ["intra_space_mul=-0.5"]).store.settings .gapFactor =
      some "-0.5" := by decide +kernel
  have hhalf : leadingNumber "-0.5" =
      .ok (.finite true ⟨twoPow 1073, Binary64.representable_twoPow (by omega)⟩) := by
    decide +kernel
  have hgiven' : (Description.ofLines ["intra_space_mul=2"]).store.settings .gapFactor =
      some "2" := by decide +kernel
  have htwo : leadingNumber "2" =
      .ok (.finite false ⟨twoPow 1075, Binary64.representable_twoPow (by omega)⟩) := by
    decide +kernel
  constructor
  · have hlow : twoPow 1020 < twoPow 1073 := Binary64.twoPow_lt_twoPow (by omega)
    have hhigh : twoPow 1073 < twoPow 1074 := Binary64.twoPow_lt_twoPow (by omega)
    rw [isZeroOrOdd_barGap_iff hgiven hhalf, not_not, Binary64.isLeftEven_negative_iff,
      Binary64.oneUnits_eq]
    dsimp only
    omega
  · rw [isZeroOrOdd_barGap_iff hgiven' htwo, Binary64.isLeftEven_positive_iff]
    have hone : oneUnits ≤ twoPow 1075 := Binary64.oneUnits_le_twoPow (by omega)
    have hdigit := twoPow_pos 1021
    have hlarge : twoPow 1075 < twoPow 1127 := Binary64.twoPow_lt_twoPow (by omega)
    dsimp only
    omega

end ChartScript
