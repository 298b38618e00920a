import ChartScript.Number.Binary64

/-!
# Exact results are not rounded

Every operation on binary64 numbers is an exact operation on numbers of units, followed by one
rounding.  Rounding cuts a number of units off at a power of two that depends on its size.  That an
exact result is left alone is therefore not a property of rounding to a fixed place: one has to see
that the place chosen for a number is never above the last digit that the number has.

A `Magnitude` carries the proof that its units are representable, so this is a statement about what
the type already guarantees, and no bound on the size has to be assumed.
`roundUnits_of_representable` is the statement; a quotient that comes out as a magnitude is that
magnitude, and one times a finite number is the number.  The last is what the options need: a gap
starts as one and is multiplied, so it is the number that was given, not a rounding of it.
-/

set_option autoImplicit false

namespace ChartScript

/-- A quotient without a remainder is not rounded. -/
theorem Number.roundDiv_of_dvd {n d : Nat} (hd : 0 < d) (h : d ∣ n) : roundDiv n d = n / d := by
  rw [roundDiv, Nat.mod_eq_zero_of_dvd h, Nat.mul_zero]
  exact if_pos hd

/-- The last of 53 digits of a magnitude is worth no more than what all its units are multiples
of. -/
theorem twoPow_dvd_of_representable {u : Nat} (h : Representable u) :
    twoPow (u.log2 + 1 - 53) ∣ u := by
  obtain ⟨-, significand, shift, hsignificand, rfl⟩ := h
  simp only [twoPow, Nat.pow_eq] at *
  have hbound : (significand * 2 ^ shift).log2 + 1 - 53 ≤ shift := by
    by_cases hzero : significand * 2 ^ shift = 0
    · rw [hzero, Nat.log2_zero]
      omega
    · have hlt : significand * 2 ^ shift < 2 ^ (53 + shift) := by
        rw [Nat.pow_add]
        exact Nat.mul_lt_mul_of_pos_right hsignificand (Nat.two_pow_pos shift)
      have := (Nat.log2_lt hzero).mpr hlt
      omega
  exact Nat.dvd_trans (Nat.pow_dvd_pow 2 hbound) (Nat.dvd_mul_left _ _)

namespace Binary64

/-- A magnitude is its own rounding. -/
theorem roundUnits_of_representable {u d : Nat} (hu : Representable u) (hd : 0 < d) :
    roundUnits (u * d) d = u := by
  have hdvd := twoPow_dvd_of_representable hu
  have hexact : d * twoPow (u.log2 + 1 - 53) ∣ u * d := by
    rw [Nat.mul_comm u]
    exact Nat.mul_dvd_mul_left d hdvd
  rw [roundUnits, Nat.mul_div_cancel u hd,
    Number.roundDiv_of_dvd (Nat.mul_pos hd (twoPow_pos _)) hexact, Nat.mul_comm u,
    Nat.mul_div_mul_left _ _ hd, Nat.div_mul_cancel hdvd]

theorem ofUnits_of_representable (negative : Bool) {u d : Nat} (hu : Representable u)
    (hd : 0 < d) : ofUnits negative (u * d) d = .finite negative ⟨u, hu⟩ := by
  have hround := roundUnits_of_representable hu hd
  have hlt : roundUnits (u * d) d < limitUnits := by
    rw [hround]
    exact hu.1
  rw [ofUnits, dif_pos hlt]
  simp only [hround]

theorem twoPow_lt_twoPow {j k : Nat} (h : j < k) : twoPow j < twoPow k :=
  Nat.pow_lt_pow_right Nat.one_lt_two h

theorem representable_twoPow {k : Nat} (h : k < 2098) : Representable (twoPow k) :=
  ⟨twoPow_lt_twoPow h, 1, k, by decide, (Nat.one_mul _).symm⟩

theorem representable_oneUnits : Representable oneUnits := representable_twoPow (by decide)

theorem ofNat_one : ofNat 1 = .finite false ⟨oneUnits, representable_oneUnits⟩ := by
  rw [ofNat, ofRatio, Nat.mul_comm 1 oneUnits,
    ofUnits_of_representable false representable_oneUnits Nat.one_pos]

theorem finite_mul_finite (s t : Bool) (a b : Magnitude) :
    Binary64.finite s a * .finite t b = ofUnits (s != t) (a.units * b.units) oneUnits := by
  change mul (.finite s a) (.finite t b) = _
  rw [mul]

/-- One times a finite number is the number. -/
theorem one_mul_finite (negative : Bool) (m : Magnitude) :
    ofNat 1 * .finite negative m = .finite negative m := by
  have hone : 0 < oneUnits := twoPow_pos 1074
  rw [ofNat_one, finite_mul_finite, Bool.false_bne, Nat.mul_comm oneUnits m.units,
    ofUnits_of_representable negative m.representable hone]

end Binary64
end ChartScript
