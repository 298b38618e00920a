import ChartScript.Proofs.Rounding
import Mathlib.Algebra.Order.Field.Basic
import Mathlib.Data.Nat.Cast.Order.Field
import Mathlib.Tactic.Linarith

/-!
# How far rounding goes

A rounded quotient is a nearest one, and a half goes to the even neighbour.  `Number.roundDiv` is
defined by a remainder and a comparison, and `Number.roundDiv_eq_iff` restates it as what it is for:
a natural number is the rounded quotient exactly when it is within half of it, and even if the
distance is a half.  Everything else is derived from this, in rational numbers.

Rounding to 53 binary digits is rounding to a natural number at a place that depends on the size of
the quotient, so an error bound needs the size first.  `Binary64.roundUnits_between` says that
rounding does not go across powers of two, which fixes the place, and then
`Binary64.abs_roundUnits_sub_le` bounds the error relative to the quotient by `2 ^ -53`.  The bound
holds only for quotients that have all 53 digits; below that numbers get coarser, and the hypothesis
says so.

`Binary64.toRat` is the exact value of a number.  It is defined for numbers that are not finite too,
as zero, since a partial function would put a case distinction into every statement; where it
matters, finiteness is stated.
-/

set_option autoImplicit false

namespace ChartScript

/-- The exact value of a finite number; other numbers have none. -/
def Binary64.toRat : Binary64 → ℚ
  | .finite negative m => Binary64.signedUnits negative m / oneUnits
  | _ => 0

/-! ## Rounding to a natural number -/

namespace Number

/-- A quotient is rounded to `k` when `k` is within a half of it, an odd `k` within less. -/
theorem roundDiv_eq_iff {n d k : Nat} (hd : 0 < d) :
    roundDiv n d = k ↔ 2 * (k * d) ≤ 2 * n + d ∧ 2 * n ≤ 2 * (k * d) + d ∧
      (k % 2 = 1 → 2 * (k * d) ≠ 2 * n + d ∧ 2 * n ≠ 2 * (k * d) + d) := by
  have hn : n / d * d + n % d = n := Nat.div_add_mod' n d
  have hr : n % d < d := Nat.mod_lt n hd
  have hnext : (n / d + 1) * d = n / d * d + d := Nat.succ_mul _ _
  -- only the two neighbours of the quotient can be within a half
  have hnear : 2 * (k * d) ≤ 2 * n + d → 2 * n ≤ 2 * (k * d) + d →
      k = n / d ∨ k = n / d + 1 := by
    intro hlow hhigh
    have hle : k ≤ n / d + 1 := by
      by_contra hlt
      have := Nat.mul_le_mul_right d (show n / d + 2 ≤ k by omega)
      rw [Nat.add_mul] at this
      omega
    have hge : n / d ≤ k := by
      by_contra hlt
      have := Nat.mul_le_mul_right d (show k + 1 ≤ n / d by omega)
      rw [Nat.succ_mul] at this
      omega
    omega
  rw [roundDiv]
  constructor
  · split
    · rintro rfl
      omega
    · split
      · rcases Nat.mod_two_eq_zero_or_one (n / d) with heven | hodd
        · rw [heven, Nat.add_zero]
          rintro rfl
          omega
        · rw [hodd]
          rintro rfl
          omega
      · rintro rfl
        omega
  · rintro ⟨hlow, hhigh, hodd⟩
    rcases hnear hlow hhigh with rfl | rfl
    · split
      · rfl
      · split
        · omega
        · omega
    · split
      · omega
      · split
        · omega
        · rfl

variable {n d : Nat} (hd : 0 < d)

include hd

/-- Rounding moves a quotient by a half at most. -/
theorem abs_roundDiv_sub_le : |(roundDiv n d : ℚ) - n / d| ≤ 1 / 2 := by
  obtain ⟨hlow, hhigh, -⟩ := (roundDiv_eq_iff hd (k := roundDiv n d)).mp rfl
  have hpos : (0 : ℚ) < d := Nat.cast_pos.mpr hd
  have hn : (n : ℚ) / d * d = n := div_mul_cancel₀ _ hpos.ne'
  have hlow' : (2 * (roundDiv n d * d) : ℚ) ≤ 2 * n + d := by exact_mod_cast hlow
  have hhigh' : (2 * n : ℚ) ≤ 2 * (roundDiv n d * d) + d := by exact_mod_cast hhigh
  rw [abs_sub_le_iff, sub_le_iff_le_add, sub_le_iff_le_add]
  constructor
  · refine le_of_mul_le_mul_right ?_ hpos
    linarith
  · refine le_of_mul_le_mul_right ?_ hpos
    linarith

/-- A quotient is rounded to what is closer to it than a half. -/
theorem roundDiv_eq_of_abs_sub_lt {k : Nat} (h : |(n : ℚ) / d - k| < 1 / 2) :
    roundDiv n d = k := by
  have hpos : (0 : ℚ) < d := Nat.cast_pos.mpr hd
  have hn : (n : ℚ) / d * d = n := div_mul_cancel₀ _ hpos.ne'
  rw [abs_sub_lt_iff, sub_lt_iff_lt_add, sub_lt_iff_lt_add] at h
  have hhigh := mul_lt_mul_of_pos_right h.1 hpos
  have hlow := mul_lt_mul_of_pos_right h.2 hpos
  have hhigh' : 2 * n < 2 * (k * d) + d := by
    have : (2 * n : ℚ) < 2 * (k * d) + d := by linarith
    exact_mod_cast this
  have hlow' : 2 * (k * d) < 2 * n + d := by
    have : (2 * (k * d) : ℚ) < 2 * n + d := by linarith
    exact_mod_cast this
  exact (roundDiv_eq_iff hd).mpr ⟨hlow'.le, hhigh'.le, fun _ => ⟨hlow'.ne, hhigh'.ne⟩⟩

end Number

/-! ## Rounding to 53 digits -/

theorem twoPow_add (j k : Nat) : twoPow (j + k) = twoPow j * twoPow k := Nat.pow_add 2 j k

theorem twoPow_succ (k : Nat) : twoPow (k + 1) = twoPow k * 2 := Nat.pow_succ 2 k

theorem cast_twoPow_add (j k : Nat) : (twoPow (j + k) : ℚ) = 2 ^ j * twoPow k := by
  rw [twoPow_add, Nat.cast_mul]
  congr 1
  exact Nat.cast_pow 2 j

theorem twoPow_dvd_twoPow {j k : Nat} (h : j ≤ k) : twoPow j ∣ twoPow k := Nat.pow_dvd_pow 2 h

theorem twoPow_le_twoPow {j k : Nat} (h : j ≤ k) : twoPow j ≤ twoPow k :=
  Nat.pow_le_pow_right Nat.two_pos h

theorem twoPow_le_iff {u k : Nat} (h : u ≠ 0) : twoPow k ≤ u ↔ k ≤ u.log2 := (Nat.le_log2 h).symm

theorem lt_twoPow_iff {u k : Nat} (h : u ≠ 0) : u < twoPow k ↔ u.log2 < k := (Nat.log2_lt h).symm

/-- A number of units with not too many digits before the last that counts is a magnitude. -/
theorem representable_of_dvd {u k : Nat} (hdvd : twoPow k ∣ u) (hlt : u < twoPow (53 + k))
    (hk : 53 + k ≤ 2098) : Representable u := by
  obtain ⟨significand, rfl⟩ := hdvd
  refine ⟨hlt.trans_le (twoPow_le_twoPow hk), significand, k, ?_, Nat.mul_comm _ _⟩
  rw [twoPow_add, Nat.mul_comm (twoPow 53)] at hlt
  exact Nat.lt_of_mul_lt_mul_left hlt

namespace Binary64

theorem oneUnits_eq : oneUnits = twoPow 1074 := by rw [oneUnits]

theorem oneUnits_pos : 0 < oneUnits := twoPow_pos 1074

theorem cast_oneUnits_pos : (0 : ℚ) < oneUnits := Nat.cast_pos.mpr oneUnits_pos

/-- The last of 53 digits of a rounded number is worth a power of two that depends on its size. -/
theorem twoPow_dvd_roundUnits {s k : Nat} (h : twoPow (k + 52) ≤ s) :
    twoPow k ∣ roundUnits s 1 := by
  have hne : s ≠ 0 := fun hzero => by
    have := twoPow_pos (k + 52)
    omega
  have hlog : k + 52 ≤ (s / 1).log2 := by
    rw [Nat.div_one]
    exact (twoPow_le_iff hne).mp h
  rw [roundUnits]
  exact Dvd.dvd.mul_left (twoPow_dvd_twoPow (by omega)) _

theorem roundUnits_pos {s : Nat} (h : 0 < s) : 0 < roundUnits s 1 := by
  have hlog : twoPow s.log2 ≤ s := Nat.log2_self_le (by omega)
  have hshift : twoPow (s.log2 + 1 - 53) ≤ s := (twoPow_le_twoPow (by omega)).trans hlog
  rw [roundUnits, Nat.div_one, Nat.one_mul]
  refine Nat.mul_pos ?_ (twoPow_pos _)
  exact (Nat.div_pos hshift (twoPow_pos _)).trans_le (Number.le_roundDiv _ _)

/-- Numbers between two powers of two stay between them, and the upper one is reached from half a
last digit below it on. -/
theorem roundUnits_between {s k : Nat} (hk : 53 ≤ k) (hlow : twoPow k ≤ s)
    (hhigh : s < twoPow (k + 1)) :
    twoPow k ≤ roundUnits s 1 ∧ roundUnits s 1 ≤ twoPow (k + 1) ∧
      (roundUnits s 1 = twoPow (k + 1) ↔ twoPow (k + 1) ≤ s + twoPow (k - 53)) := by
  have hne : s ≠ 0 := fun hzero => by
    have := twoPow_pos k
    omega
  have hlog : s.log2 = k := (Nat.log2_eq_iff hne).mpr ⟨hlow, hhigh⟩
  obtain ⟨half, rfl⟩ : ∃ half, k = 53 + half := ⟨k - 53, by omega⟩
  have hdigit := twoPow_succ half
  have hlower : twoPow (53 + half) = twoPow 52 * twoPow (half + 1) := by
    rw [← twoPow_add]
    congr 1
    omega
  have hupper : twoPow (53 + half + 1) = twoPow 53 * twoPow (half + 1) := by
    rw [← twoPow_add, Nat.add_assoc]
  have hround : roundUnits s 1 = Number.roundDiv s (twoPow (half + 1)) * twoPow (half + 1) := by
    rw [roundUnits, Nat.div_one, hlog, Nat.one_mul, show 53 + half + 1 - 53 = half + 1 by omega]
  have hle : Number.roundDiv s (twoPow (half + 1)) ≤ twoPow 53 := by
    have := roundDiv_shifted_le s 1
    rwa [Nat.div_one, hlog, Nat.one_mul, show 53 + half + 1 - 53 = half + 1 by omega] at this
  have hpos := twoPow_pos (half + 1)
  rw [hround, show 53 + half - 53 = half by omega]
  refine ⟨?_, ?_, ?_⟩
  · rw [hlower] at hlow ⊢
    refine Nat.mul_le_mul_right _ (le_trans ?_ (Number.le_roundDiv _ _))
    exact (Nat.le_div_iff_mul_le hpos).mpr hlow
  · rw [hupper]
    exact Nat.mul_le_mul_right _ hle
  · rw [hupper, Nat.mul_left_inj hpos.ne', Number.roundDiv_eq_iff hpos]
    rw [hupper] at hhigh
    have heven : twoPow 53 % 2 = 0 := by decide
    omega

/-- No rounding goes beyond the next power of two. -/
theorem roundUnits_le {s k : Nat} (h : s < twoPow k) : roundUnits s 1 ≤ twoPow k := by
  by_cases hsmall : s < twoPow 53
  · have hself := roundUnits_of_representable
      (representable_of_dvd (k := 0) (Nat.one_dvd s) hsmall (by decide)) Nat.one_pos
    rw [Nat.mul_one] at hself
    exact hself.trans_le h.le
  · have hne : s ≠ 0 := fun hzero => hsmall (hzero ▸ twoPow_pos 53)
    have hlog : 53 ≤ s.log2 := (twoPow_le_iff hne).mp (Nat.le_of_not_lt hsmall)
    have hlt : s.log2 < k := (lt_twoPow_iff hne).mp h
    obtain ⟨-, hle, -⟩ := roundUnits_between hlog (Nat.log2_self_le hne) Nat.lt_log2_self
    exact hle.trans (twoPow_le_twoPow hlt)

theorem abs_sub_le_iff_mul {a b r c : ℚ} (hc : 0 < c) :
    |a - b| ≤ r ↔ |a * c - b * c| ≤ r * c := by
  rw [← sub_mul, abs_mul, abs_of_pos hc, mul_le_mul_iff_of_pos_right hc]

/-- A quotient that has all 53 digits is moved by no more than its part `2 ^ -53`. -/
theorem abs_roundUnits_sub_le {n d : Nat} (hd : 0 < d) (h : twoPow 52 ≤ n / d) :
    |(roundUnits n d : ℚ) - n / d| ≤ n / d / 2 ^ 53 := by
  have hne : n / d ≠ 0 := fun hzero => by
    have := twoPow_pos 52
    omega
  have hlog : 52 ≤ (n / d).log2 := (twoPow_le_iff hne).mp h
  obtain ⟨shift, hshift⟩ : ∃ shift, (n / d).log2 = 52 + shift := ⟨(n / d).log2 - 52, by omega⟩
  have hround : roundUnits n d = Number.roundDiv n (d * twoPow shift) * twoPow shift := by
    rw [roundUnits, hshift, show 52 + shift + 1 - 53 = shift by omega]
  have hdigit : (0 : ℚ) < twoPow shift := Nat.cast_pos.mpr (twoPow_pos shift)
  -- the last digit is worth at most `2 ^ -52` of the quotient
  have hsize : 2 ^ 52 * (twoPow shift : ℚ) ≤ n / d := by
    rw [← cast_twoPow_add, ← hshift]
    have hle : twoPow (n / d).log2 ≤ n / d := (twoPow_le_iff hne).mpr le_rfl
    exact (Nat.cast_le.mpr hle).trans Nat.cast_div_le
  have herror := Number.abs_roundDiv_sub_le (n := n) (Nat.mul_pos hd (twoPow_pos shift))
  rw [Nat.cast_mul, ← div_div, abs_sub_le_iff_mul hdigit, div_mul_cancel₀ _ hdigit.ne',
    ← Nat.cast_mul, ← hround] at herror
  linarith

end Binary64
end ChartScript
