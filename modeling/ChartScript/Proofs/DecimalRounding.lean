import ChartScript.Number.Numeral
import ChartScript.Proofs.RoundingBounds
import Mathlib.Algebra.Order.Field.Power
import Mathlib.Data.Nat.Log

/-!
# Decimals that survive two roundings

A decimal is rounded to 53 binary digits when it is read, and to a number of decimal digits when it
is written.  Neither rounding is exact, and in general the two together give another decimal.  But
if the decimal has no more digits than are written, it is one of those that the second rounding may
choose, and if the first rounding is fine enough there is no other within reach: then the second
takes the first back.

Everything is said about quotients of natural numbers and compared in the rationals.  The code works
with numerators and denominators too, so no statement about real numbers or about errors of binary
arithmetic is needed; a rounding error is one inequality between rationals.

The delicate case is next to a power of ten.  A decimal that is a power of ten can be read as a
number just below it, which has one digit less before its point, so that the second rounding works
with another exponent than the decimal has.  `Number.significant_eq_of_close` treats both sides of
the power, with one hypothesis on the relative error, and its conclusion names the coefficient and
the exponent: it is the carry to the next power that has to come out right.

`Numeral.exists_nearest_eq` supplies that error for decimals of moderate size.  The bounds on the
size are generous but there must be some, since beyond them a decimal is rounded to infinity or to a
number with fewer than 53 digits.
-/

set_option autoImplicit false

namespace ChartScript
namespace Number

/-! ## The size of a quotient -/

theorem digitCount_eq {n : Nat} (hn : n ≠ 0) : digitCount n = Nat.log 10 n + 1 := by
  induction n using Nat.strongRecOn with
  | ind n ih =>
    rw [digitCount, if_neg hn]
    by_cases hsmall : n < 10
    · rw [Nat.div_eq_of_lt hsmall, digitCount, if_pos rfl, Nat.log_of_lt hsmall]
    · have hlarge : 10 ≤ n := Nat.le_of_not_lt hsmall
      rw [ih (n / 10) (by omega) (by omega), Nat.log_of_one_lt_of_le (by decide) hlarge]

variable {n d : Nat} {e : Int}

/-- A quotient lies between the power of ten of its exponent and the next one. -/
theorem zpow_decimalExponent (hn : 0 < n) (hd : 0 < d) :
    (10 : ℚ) ^ decimalExponent n d ≤ n / d ∧ (n : ℚ) / d < 10 ^ (decimalExponent n d + 1) := by
  have hpos : (0 : ℚ) < d := Nat.cast_pos.mpr hd
  rw [decimalExponent, le_div_iff₀ hpos, div_lt_iff₀ hpos]
  split
  · next hle =>
    have hne : n / d ≠ 0 := (Nat.div_pos hle hd).ne'
    have hlow := (Nat.le_div_iff_mul_le hd).mp (Nat.pow_log_le_self 10 hne)
    have hhigh : n < 10 ^ (Nat.log 10 (n / d) + 1) * d :=
      (Nat.div_lt_iff_lt_mul hd).mp (Nat.lt_pow_succ_log_self (by decide) _)
    rw [digitCount_eq hne, Nat.cast_add_one, add_sub_cancel_right, ← Nat.cast_add_one, zpow_natCast,
      zpow_natCast]
    exact ⟨by exact_mod_cast hlow, by exact_mod_cast hhigh⟩
  · next hlt =>
    have hne : (d - 1) / n ≠ 0 := (Nat.div_pos (by omega) hn).ne'
    have hhigh := (Nat.le_div_iff_mul_le hn).mp (Nat.pow_log_le_self 10 hne)
    have hlow : d - 1 < 10 ^ (Nat.log 10 ((d - 1) / n) + 1) * n :=
      (Nat.div_lt_iff_lt_mul hn).mp (Nat.lt_pow_succ_log_self (by decide) _)
    rw [digitCount_eq hne, Nat.cast_add_one, neg_add, neg_add_cancel_right, ← neg_add,
      ← Nat.cast_add_one, zpow_neg, zpow_neg, zpow_natCast, zpow_natCast,
      inv_mul_le_iff₀ (by positivity), lt_inv_mul_iff₀ (by positivity)]
    constructor
    · have : d ≤ 10 ^ (Nat.log 10 ((d - 1) / n) + 1) * n := by omega
      exact_mod_cast this
    · have : 10 ^ Nat.log 10 ((d - 1) / n) * n < d := by omega
      exact_mod_cast this

theorem decimalExponent_eq (hd : 0 < d) (hlow : (10 : ℚ) ^ e ≤ n / d)
    (hhigh : (n : ℚ) / d < 10 ^ (e + 1)) : decimalExponent n d = e := by
  have hn : 0 < n := by
    refine Nat.pos_of_ne_zero fun hzero => ?_
    have hpos : (0 : ℚ) < 10 ^ e := by positivity
    rw [hzero, Nat.cast_zero, zero_div] at hlow
    linarith
  obtain ⟨hlow', hhigh'⟩ := zpow_decimalExponent hn hd
  have hle := (zpow_lt_zpow_iff_right₀ (by norm_num)).mp (hlow.trans_lt hhigh')
  have hge := (zpow_lt_zpow_iff_right₀ (by norm_num)).mp (hlow'.trans_lt hhigh)
  omega

/-! ## Rounding to digits -/

theorem inUnits_spec (e : Int) (n : Nat) (hd : 0 < d) :
    0 < (inUnits e n d).2 ∧ ((inUnits e n d).1 : ℚ) / (inUnits e n d).2 = n / d / 10 ^ e := by
  cases e with
  | ofNat k =>
    refine ⟨Nat.mul_pos hd (Nat.pow_pos (by decide)), ?_⟩
    rw [inUnits, Int.ofNat_eq_natCast, zpow_natCast, Nat.pow_eq, Nat.cast_mul, Nat.cast_pow,
      div_div]
    rfl
  | negSucc k =>
    refine ⟨hd, ?_⟩
    rw [inUnits, zpow_negSucc, Nat.pow_eq, Nat.cast_mul, Nat.cast_pow, div_inv_eq_mul,
      mul_div_right_comm]
    rfl

theorem roundDiv_inUnits {k : Nat} (hd : 0 < d) (h : |(n : ℚ) / d / 10 ^ e - k| < 1 / 2) :
    roundDiv (inUnits e n d).1 (inUnits e n d).2 = k := by
  obtain ⟨hpos, hquotient⟩ := inUnits_spec e n hd
  exact roundDiv_eq_of_abs_sub_lt hpos (by rwa [hquotient])

theorem significant_eq {q : Nat} :
    significant (q + 1) n d =
      let digits := roundDiv (inUnits (decimalExponent n d - q) n d).1
        (inUnits (decimalExponent n d - q) n d).2
      if digits = 10 ^ (q + 1) then ⟨10 ^ q, decimalExponent n d + 1⟩
      else ⟨digits, decimalExponent n d⟩ := rfl

/-- A quotient close to a decimal with `q + 1` digits is rounded to it.  Next to a power of ten the
quotient may have one digit less before its point, and then it is rounded up to the power. -/
theorem significant_eq_of_close {q k : Nat} {ε : ℚ} (hd : 0 < d) (hlow : 10 ^ q ≤ k)
    (hhigh : k < 10 ^ (q + 1)) (hε : ε * 10 ^ (q + 1) < 1 / 2)
    (hclose : |(n : ℚ) / d / 10 ^ (e - q) - k| ≤ ε * k) :
    significant (q + 1) n d = ⟨k, e⟩ := by
  have hunit : (0 : ℚ) < 10 ^ (e - q) := by positivity
  have hten : (1 : ℚ) ≤ 10 ^ q := one_le_pow₀ (by norm_num)
  have hlow' : (10 ^ q : ℚ) ≤ k := by exact_mod_cast hlow
  have hhigh' : (k + 1 : ℚ) ≤ 10 ^ q * 10 := by exact_mod_cast hhigh
  have hpower : (10 : ℚ) ^ q * 10 ^ (e - q) = 10 ^ e := by
    rw [← zpow_natCast, ← zpow_add₀ (by norm_num), add_sub_cancel]
  have hnext : (10 : ℚ) ^ (e + 1) = 10 ^ e * 10 := zpow_add_one₀ (by norm_num) e
  have hlast : (10 : ℚ) ^ (e - 1) = 10 ^ e / 10 := zpow_sub_one₀ (by norm_num) e
  rw [pow_succ] at hε
  have hεpos : 0 ≤ ε := nonneg_of_mul_nonneg_left ((abs_nonneg _).trans hclose) (by linarith)
  have hεk : ε * k ≤ ε * (10 ^ q * 10) := mul_le_mul_of_nonneg_left (by linarith) hεpos
  obtain ⟨hfrom, hto⟩ := abs_le.mp hclose
  have hbelow : (n : ℚ) / d < 10 ^ (e + 1) := by
    rw [hnext, ← hpower, mul_right_comm, ← div_lt_iff₀ hunit]
    linarith
  by_cases hfull : (10 : ℚ) ^ q ≤ n / d / 10 ^ (e - q)
  · have hexponent : decimalExponent n d = e := by
      refine decimalExponent_eq hd ?_ hbelow
      rwa [← hpower, ← le_div_iff₀ hunit]
    rw [significant_eq, hexponent, roundDiv_inUnits hd (hclose.trans_lt (by linarith))]
    exact if_neg hhigh.ne
  · obtain rfl : k = 10 ^ q := by
      have hlt : (k : ℚ) < 10 ^ q + 1 := by linarith
      have : k < 10 ^ q + 1 := by exact_mod_cast hlt
      omega
    have hexponent : decimalExponent n d = e - 1 := by
      refine decimalExponent_eq hd ?_ ?_
      · rw [hlast, ← hpower, mul_div_right_comm, ← le_div_iff₀ hunit]
        linarith
      · rw [sub_add_cancel, ← hpower, ← div_lt_iff₀ hunit]
        exact lt_of_not_ge hfull
    have hten' : |(n : ℚ) / d / 10 ^ (e - 1 - q) - (10 ^ (q + 1) : Nat)| < 1 / 2 := by
      have hunit' : (10 : ℚ) ^ (e - 1 - q) = 10 ^ (e - q) / 10 := by
        rw [sub_right_comm]
        exact zpow_sub_one₀ (by norm_num) _
      rw [hunit', div_div_eq_mul_div, mul_div_right_comm, pow_succ, Nat.cast_mul, Nat.cast_ofNat,
        ← sub_mul, abs_mul, Nat.abs_ofNat]
      rw [Nat.cast_pow, Nat.cast_ofNat] at hclose ⊢
      linarith
    rw [significant_eq, hexponent, roundDiv_inUnits hd hten']
    dsimp only
    rw [if_pos rfl, sub_add_cancel]

end Number

/-! ## Reading decimals of moderate size -/

namespace Binary64

/-- A quotient that is neither too small for 53 digits nor too large is rounded to a finite number
close to it. -/
theorem exists_ofRatio_eq (negative : Bool) {n d : Nat} (hd : 0 < d)
    (hlow : 1 ≤ (n : ℚ) / d * 2 ^ 1022) (hhigh : (n : ℚ) / d < 2 ^ 1023) :
    ∃ m : Magnitude, ofRatio negative n d = .finite negative m ∧
      |(m.units : ℚ) / oneUnits - n / d| ≤ n / d / 2 ^ 53 := by
  have hpos : (0 : ℚ) < d := Nat.cast_pos.mpr hd
  have hone := cast_oneUnits_pos
  have hfull : twoPow 52 ≤ n * oneUnits / d := by
    have hunits : (oneUnits : ℚ) = 2 ^ 1022 * twoPow 52 := by
      rw [oneUnits_eq]
      exact cast_twoPow_add 1022 52
    have hdigit : (0 : ℚ) ≤ twoPow 52 := Nat.cast_nonneg _
    rw [Nat.le_div_iff_mul_le hd, ← Nat.cast_le (α := ℚ), Nat.cast_mul, Nat.cast_mul, hunits]
    rw [div_mul_eq_mul_div, le_div_iff₀ hpos, one_mul] at hlow
    rw [mul_comm, ← mul_assoc]
    exact mul_le_mul_of_nonneg_right hlow hdigit
  have herror := abs_roundUnits_sub_le hd hfull
  rw [Nat.cast_mul, mul_div_right_comm] at herror
  have hlimit : roundUnits (n * oneUnits) d < limitUnits := by
    have hunits : (limitUnits : ℚ) = 2 ^ 1023 * 2 * oneUnits := by
      rw [limitUnits, oneUnits_eq, ← pow_succ]
      exact cast_twoPow_add 1024 1074
    have hscaled := mul_lt_mul_of_pos_right hhigh hone
    have hnonneg : 0 ≤ (n : ℚ) / d * oneUnits :=
      mul_nonneg (div_nonneg (Nat.cast_nonneg n) hpos.le) hone.le
    rw [← Nat.cast_lt (α := ℚ), hunits]
    generalize (2 : ℚ) ^ 1023 = large at hscaled ⊢
    have := (abs_le.mp herror).2
    linarith
  refine ⟨⟨_, representable_roundUnits hlimit⟩, by rw [ofRatio, ofUnits, dif_pos hlimit], ?_⟩
  dsimp only
  rw [abs_sub_le_iff_mul hone, div_mul_cancel₀ _ hone.ne',
    ← mul_div_right_comm ((n : ℚ) / d)]
  exact herror

end Binary64

namespace Numeral

/-- The magnitude of a decimal lies between powers of ten that its number of digits gives. -/
theorem zpow_digitCount {c : Nat} (hc : c ≠ 0) (s : Int) :
    (10 : ℚ) ^ (Number.digitCount c + s - 1) ≤ c * 10 ^ s ∧
      (c : ℚ) * 10 ^ s < 10 ^ (Number.digitCount c + s) := by
  have hunit : (0 : ℚ) < 10 ^ s := by positivity
  have hlow : (10 ^ Nat.log 10 c : ℚ) ≤ c := by exact_mod_cast Nat.pow_log_le_self 10 hc
  have hhigh : (c : ℚ) < 10 ^ (Nat.log 10 c + 1) := by
    exact_mod_cast Nat.lt_pow_succ_log_self (by decide) c
  rw [Number.digitCount_eq hc, add_sub_right_comm, zpow_add₀ (by norm_num),
    zpow_add₀ (by norm_num) _ s, zpow_natCast, Nat.cast_add_one, add_sub_cancel_right, zpow_natCast]
  exact ⟨mul_le_mul_of_nonneg_right hlow hunit.le, mul_lt_mul_of_pos_right hhigh hunit⟩

theorem ten_pow_lt_two_pow : (10 : ℚ) ^ 290 < 2 ^ 1022 :=
  calc (10 : ℚ) ^ 290 ≤ 10 ^ (3 * 97) := pow_le_pow_right₀ (by norm_num) (by decide)
    _ = (10 ^ 3) ^ 97 := pow_mul _ _ _
    _ ≤ (2 ^ 10) ^ 97 := pow_le_pow_left₀ (by norm_num) (by norm_num) _
    _ = 2 ^ (10 * 97) := (pow_mul _ _ _).symm
    _ < 2 ^ 1022 := pow_lt_pow_right₀ (by norm_num) (by decide)

/-- The number nearest to a decimal of moderate size is finite and close to it. -/
theorem exists_nearest_eq (negative : Bool) {c : Nat} {s : Int}
    (hlow : (10 : ℚ) ^ (-290 : Int) ≤ c * 10 ^ s) (hhigh : (c : ℚ) * 10 ^ s ≤ 10 ^ (290 : Int)) :
    ∃ m : Magnitude, nearest negative c s = .finite negative m ∧
      |(m.units : ℚ) / oneUnits - c * 10 ^ s| ≤ c * 10 ^ s / 2 ^ 53 := by
  have hc : c ≠ 0 := by
    rintro rfl
    have hpos : (0 : ℚ) < 10 ^ (-290 : Int) := zpow_pos (by norm_num) _
    rw [Nat.cast_zero, zero_mul] at hlow
    linarith
  obtain ⟨hfrom, hto⟩ := zpow_digitCount hc s
  have hmost := (zpow_le_zpow_iff_right₀ (by norm_num)).mp (hfrom.trans hhigh)
  have hleast := (zpow_lt_zpow_iff_right₀ (by norm_num)).mp (hlow.trans_lt hto)
  rw [nearest.eq_def]
  dsimp only
  rw [if_neg hc, if_neg (by omega), if_neg (by omega)]
  rw [zpow_neg, zpow_ofNat, inv_le_iff_one_le_mul₀ (by positivity)] at hlow
  rw [zpow_ofNat] at hhigh
  have hten := ten_pow_lt_two_pow
  have hpos : (0 : ℚ) < c * 10 ^ s := by positivity
  have hscaled : 1 ≤ (c : ℚ) * 10 ^ s * 2 ^ 1022 :=
    hlow.trans (mul_le_mul_of_nonneg_left hten.le hpos.le)
  have hbelow : (c : ℚ) * 10 ^ s < 2 ^ 1023 :=
    (hhigh.trans_lt hten).trans (pow_lt_pow_right₀ (by norm_num) (by decide))
  cases s with
  | ofNat k =>
    have hquotient : ((c * Nat.pow 10 k : Nat) : ℚ) / (1 : Nat) = c * 10 ^ (Int.ofNat k) := by
      rw [Nat.cast_one, div_one, Nat.cast_mul, Nat.pow_eq, Nat.cast_pow, Int.ofNat_eq_natCast,
        zpow_natCast]
      rfl
    rw [← hquotient] at hscaled hbelow ⊢
    exact Binary64.exists_ofRatio_eq negative Nat.one_pos hscaled hbelow
  | negSucc k =>
    have hquotient : (c : ℚ) / (Nat.pow 10 (k + 1) : Nat) = c * 10 ^ (Int.negSucc k) := by
      rw [Nat.pow_eq, Nat.cast_pow, zpow_negSucc, div_eq_mul_inv]
      rfl
    rw [← hquotient] at hscaled hbelow ⊢
    exact Binary64.exists_ofRatio_eq negative (Nat.pow_pos (by decide)) hscaled hbelow

end Numeral
end ChartScript
