import ChartScript.Proofs.DecimalRounding
import ChartScript.Proofs.DecimalText
import ChartScript.Proofs.NumericStyle

/-!
# Short decimals are written as they are read

The angle of the labels is read as the nearest binary64 number and written with at most 15 digits.
One would like the script to have the angle that was given.  It does for decimals that have no more
digits, and are neither huge nor tiny; 15 is the largest number of digits for which this can be
said, as with 16 the numbers are too far apart in places.

`Numeral.significantDigits` counts the digits of a numeral without the zeros at either end.  It is
defined on the text and not on the value, since that is where an author counts them, and zeros have
to be dropped at both ends because `0.50` has one digit to be written.

The pieces are in other files: reading is close (`Proofs.DecimalRounding`), a close quotient is
rounded back (there too), and a decimal is written as a numeral that denotes it
(`Proofs.DecimalText`).  `Binary64.exists_shortText_eq` puts them together, and here the two
roundings meet: 53 binary digits are more than 15 decimal ones by just enough for the error of the
first to be below half a unit of the second.

`rotation_short_decimal` says it of a script.  The sign is lost, on purpose, since labels are
rotated by a magnitude; so the value compared is the absolute one.  The line of the script is named
by its place because the defaults come first and in a fixed order.
-/

set_option autoImplicit false

namespace ChartScript

open Text (natOfDigits)

namespace Numeral

/-- The digits of a numeral without the zeros at either end. -/
def significantDigits (n : Numeral) : Text :=
  ((n.whole ++ n.fraction).dropWhile Text.isZero).rdropWhile Text.isZero

theorem exists_coefficient_eq (n : Numeral) :
    ∃ zeros, n.coefficient = natOfDigits n.significantDigits * 10 ^ zeros := by
  rw [coefficient, significantDigits]
  generalize n.whole ++ n.fraction = digits
  have hfront : natOfDigits (digits.takeWhile Text.isZero) = 0 :=
    Text.natOfDigits_of_isZero forall_mem_takeWhile
  have hbehind : natOfDigits ((digits.dropWhile Text.isZero).rtakeWhile Text.isZero) = 0 :=
    Text.natOfDigits_of_isZero fun _ => List.mem_rtakeWhile_imp
  have hdrop := Text.natOfDigits_append (digits.takeWhile Text.isZero)
    (digits.dropWhile Text.isZero)
  rw [List.takeWhile_append_dropWhile, hfront, Nat.zero_mul, Nat.zero_add] at hdrop
  generalize digits.dropWhile Text.isZero = kept at hbehind hdrop ⊢
  have hend := Text.natOfDigits_append (kept.rdropWhile Text.isZero)
    (kept.rtakeWhile Text.isZero)
  rw [List.rdropWhile_append_rtakeWhile, hbehind, Nat.add_zero] at hend
  exact ⟨_, hdrop.trans hend⟩

theorem abs_toRat (n : Numeral) : |n.toRat| = n.coefficient * 10 ^ n.scale := by
  have hnonneg : (0 : ℚ) ≤ n.coefficient * 10 ^ n.scale := by positivity
  rw [toRat]
  split
  · rw [abs_neg, abs_of_nonneg hnonneg]
  · rw [abs_of_nonneg hnonneg]

end Numeral

namespace Number

/-- A decimal with `q + 1` digits at most is one with as many exactly. -/
theorem exists_scientific {c q : Nat} (hc : c ≠ 0) (hlt : c < 10 ^ (q + 1)) (s : Int) :
    ∃ (k : Nat) (e : Int), 10 ^ q ≤ k ∧ k < 10 ^ (q + 1) ∧
      (c : ℚ) * 10 ^ s = k * 10 ^ (e - q) := by
  have hlog : Nat.log 10 c ≤ q := Nat.lt_succ_iff.mp (Nat.log_lt_of_lt_pow hc hlt)
  obtain ⟨fill, rfl⟩ : ∃ fill, q = Nat.log 10 c + fill := ⟨q - Nat.log 10 c, by omega⟩
  refine ⟨c * 10 ^ fill, s + Nat.log 10 c, ?_, ?_, ?_⟩
  · rw [pow_add]
    exact Nat.mul_le_mul_right _ (Nat.pow_log_le_self 10 hc)
  · rw [add_right_comm, pow_add]
    exact Nat.mul_lt_mul_of_pos_right (Nat.lt_pow_succ_log_self (by decide) c) (by positivity)
  · rw [Numeral.cast_mul_ten_pow]
    congr 2
    omega

end Number

namespace Binary64

/-- A number close to a positive one is not zero. -/
theorem units_ne_zero_of_close {m : Magnitude} {x : ℚ} (hx : 0 < x)
    (hclose : |(m.units : ℚ) / oneUnits - x| ≤ x / 2 ^ 53) : m.units ≠ 0 := by
  intro hzero
  rw [hzero, Nat.cast_zero, zero_div, zero_sub, abs_neg, abs_of_pos hx] at hclose
  linarith

/-- A number close to a decimal with 15 digits is written as that decimal. -/
theorem exists_shortText_eq {m : Magnitude} {k : Nat} {e : Int} (hlow : 10 ^ 14 ≤ k)
    (hhigh : k < 10 ^ 15)
    (hclose : |(m.units : ℚ) / oneUnits - k * 10 ^ (e - 14)| ≤ k * 10 ^ (e - 14) / 2 ^ 53) :
    ∃ n : Numeral, n.IsPlain ∧ n.toRat = k * 10 ^ (e - 14) ∧
      Text.ofString (shortText (.finite false m)) = n.text := by
  have hpositive : 0 < k := (Nat.pow_pos (by decide)).trans_le hlow
  have hunit : (0 : ℚ) < 10 ^ (e - 14) := by positivity
  have hunits : m.units ≠ 0 :=
    units_ne_zero_of_close (mul_pos (Nat.cast_pos.mpr hpositive) hunit) hclose
  have hsignificant : Number.significant 15 m.units oneUnits = ⟨k, e⟩ := by
    have hfine : (1 / 2 ^ 53 : ℚ) * 10 ^ (14 + 1) < 1 / 2 := by norm_num
    refine Number.significant_eq_of_close oneUnits_pos hlow hhigh hfine ?_
    rw [Nat.cast_ofNat, abs_sub_le_iff_mul hunit, div_mul_cancel₀ _ hunit.ne']
    linarith
  have hlength : (Nat.toDigits 10 k).length = 15 := by
    have hmost := (Nat.length_toDigits_le_iff (b := 10) (k := 15) (by decide) (by decide)).mpr hhigh
    have hleast : ¬(Nat.toDigits 10 k).length ≤ 14 := fun hle => by
      have := (Nat.length_toDigits_le_iff (b := 10) (k := 14) (by decide) (by decide)).mp hle
      omega
    omega
  obtain ⟨n, hplain, htext, htoRat⟩ :=
    Layout.exists_isPlain_text_eq (rfl : shortLayout.showsPoint = false) hpositive.ne' e
  refine ⟨n, hplain, ?_, ?_⟩
  · rw [htoRat, hlength, show e + 1 - (15 : Nat) = e - 14 by omega]
  · rw [htext, shortText, textWith]
    dsimp only
    rw [if_neg hunits, hsignificant, if_neg (by decide), Text.ofString, String.toList_ofList]

end Binary64

/-- A numeral with at most 15 significant digits, of moderate size, is read as a number that is
written as a numeral of the same magnitude. -/
theorem Numeral.exists_toBinary64_eq {n : Numeral} (hdigits : n.significantDigits.length ≤ 15)
    (hlow : (10 : ℚ) ^ (-290 : Int) ≤ |n.toRat|) (hhigh : |n.toRat| ≤ 10 ^ (290 : Int)) :
    ∃ m : Magnitude, n.toBinary64 = .finite (isMinus n.sign) m ∧ m.units ≠ 0 ∧
      ∃ written : Numeral, written.IsPlain ∧ written.toRat = |n.toRat| ∧
        Text.ofString (Binary64.shortText (.finite false m)) = written.text := by
  have hpositive : 0 < |n.toRat| := (zpow_pos (by norm_num) _).trans_le hlow
  obtain ⟨zeros, hcoefficient⟩ := n.exists_coefficient_eq
  have hshort : |n.toRat| =
      natOfDigits n.significantDigits * 10 ^ (zeros + n.scale) := by
    rw [abs_toRat, hcoefficient, cast_mul_ten_pow]
  have hne : natOfDigits n.significantDigits ≠ 0 := by
    intro hzero
    rw [hshort, hzero, Nat.cast_zero, zero_mul] at hpositive
    exact lt_irrefl _ hpositive
  have hlt : natOfDigits n.significantDigits < 10 ^ (14 + 1) :=
    (Text.natOfDigits_lt _).trans_le (Nat.pow_le_pow_right (by decide) hdigits)
  obtain ⟨k, e, hleast, hmost, hdecimal⟩ := Number.exists_scientific hne hlt (zeros + n.scale)
  rw [abs_toRat] at hlow hhigh
  obtain ⟨m, hnearest, hclose⟩ := exists_nearest_eq (isMinus n.sign) hlow hhigh
  rw [← abs_toRat] at hclose
  refine ⟨m, hnearest, Binary64.units_ne_zero_of_close hpositive hclose, ?_⟩
  rw [hshort, hdecimal] at hclose ⊢
  exact Binary64.exists_shortText_eq hleast hmost hclose

/-! ## The angle of the labels -/

theorem Chart.getElem?_defaults_three {c : Chart} (h : c.style.xTicsRotation.isZero = false) :
    c.defaults[3]? =
      some (Text.ofString "set xtics rotate by " ++ Text.ofString c.style.xTicsRotation.shortText ++
        Text.ofString " right") := by
  rw [defaults, h]
  rfl

/-- **Short decimals pass through.**  Let an angle be given by a numeral with at most 15 significant
digits, of a magnitude from `10 ^ -290` to `10 ^ 290`.  It is read without a fault, and what is
written for it is a numeral that denotes its magnitude exactly, without zeros at the end of the
fraction.  This is the angle in the fourth line, which rotates the labels, of every script with that
option. -/
theorem rotation_short_decimal {n : Numeral} (hn : n.WellFormed) (hblanks : n.blanks = [])
    (hdigits : n.significantDigits.length ≤ 15) (hlow : (10 : ℚ) ^ (-290 : Int) ≤ |n.toRat|)
    (hhigh : |n.toRat| ≤ 10 ^ (290 : Int)) :
    ∃ angle : Numeral, angle.IsPlain ∧ angle.toRat = |n.toRat| ∧
      (∃ number, leadingNumber n.text = .ok number ∧
        Text.ofString number.abs.shortText = angle.text) ∧
      ∀ (lines : List Text) (options : CompileOptions) (compiled : Compiled),
        lastValue .rotateBy (lines ++ options.extra) = some n.text →
        compile lines options = .ok compiled →
        compiled.script.config[3]? =
          some (Text.ofString "set xtics rotate by " ++ angle.text ++ Text.ofString " right") := by
  obtain ⟨m, hbinary, hunits, angle, hplain, hvalue, htext⟩ :=
    Numeral.exists_toBinary64_eq hdigits hlow hhigh
  have hnumber : leadingNumber n.text = .ok (.finite (Numeral.isMinus n.sign) m) := by
    rw [leadingNumber, hn.scan?_text]
    dsimp only
    rw [hblanks, hbinary]
    rfl
  refine ⟨angle, hplain, hvalue, ⟨_, hnumber, htext⟩, fun lines options compiled hlast h => ?_⟩
  obtain ⟨script, hscript, rfl⟩ := compile_eq_ok_iff.mp h
  obtain ⟨initial, final, data, hinitial, hfinal, -, rfl⟩ :=
    Description.script_eq_ok_iff.mp hscript
  have hrotation : initial.xTicsRotation = .finite false m :=
    Description.xTicsRotation_initialStyle ((Description.settings_ofLines _ _).trans hlast) hnumber
      hinitial
  have hzero : initial.xTicsRotation.isZero = false := by
    rw [hrotation, Binary64.isZero, beq_eq_false_iff_ne]
    exact hunits
  have hdefaults := Chart.getElem?_defaults_three
    (c := (Description.ofLines (lines ++ options.extra)).chart initial) hzero
  show ((Description.ofLines (lines ++ options.extra)).configLines initial)[3]? = _
  rw [Description.configLines, Pass.lines_init, List.nil_append,
    List.getElem?_append_left (List.getElem?_eq_some_iff.mp hdefaults).1, hdefaults, ← htext,
    ← hrotation]
  rfl

/-- A small negative angle with a zero too many: the sign and the zero go, the value stays. -/
theorem rotation_short_decimal_small :
    let n : Numeral := ⟨[], "-", "1", true, "50", some ⟨'e', "-", "7"⟩⟩
    let lines : List Text := ["rotateby=-1.50e-7", "a 1"]
    n.WellFormed ∧ n.text = Text.ofString "-1.50e-7" ∧ n.significantDigits = Text.ofString "15" ∧
      ∃ angle : Numeral, angle.IsPlain ∧ angle.toRat = |n.toRat| ∧
        angle.text = Text.ofString "1.5e-07" ∧
        ∃ compiled, compile lines {} = .ok compiled ∧
          compiled.script.config[3]? =
            some (Text.ofString "set xtics rotate by 1.5e-07 right") := by
  intro n lines
  have hscan : Numeral.scan? n.text = some n := by decide
  obtain ⟨hn, -⟩ := Numeral.wellFormed_of_scan? hscan
  have habs : |n.toRat| = 150 * 10 ^ (-9 : Int) := by
    rw [Numeral.abs_toRat, show n.coefficient = 150 by decide, show n.scale = -9 by decide,
      Nat.cast_ofNat]
  have hunit : (0 : ℚ) < 10 ^ (-9 : Int) := by positivity
  have hlow : (10 : ℚ) ^ (-290 : Int) ≤ |n.toRat| := by
    have hle : (10 : ℚ) ^ (-290 : Int) ≤ 10 ^ (-9 : Int) :=
      zpow_le_zpow_right₀ (by norm_num) (by decide)
    rw [habs]
    linarith
  have hhigh : |n.toRat| ≤ 10 ^ (290 : Int) := by
    rw [habs]
    exact le_trans (by norm_num) (one_le_zpow₀ (by norm_num) (by decide) : (1 : ℚ) ≤ _)
  obtain ⟨angle, hplain, hvalue, ⟨number, hnumber, htext⟩, hscript⟩ :=
    rotation_short_decimal hn rfl (by decide) hlow hhigh
  have hwritten : (leadingNumber n.text).map (fun x => Text.ofString x.abs.shortText) =
      .ok (Text.ofString "1.5e-07") := by decide +kernel
  rw [hnumber, Except.map, htext] at hwritten
  obtain ⟨compiled, hcompiled⟩ : ∃ compiled, compile lines {} = .ok compiled :=
    exists_eq_ok_of_isOk (by decide +kernel)
  have hline := hscript lines {} compiled (by decide +kernel) hcompiled
  rw [Except.ok.inj hwritten] at hline
  exact ⟨hn, by decide, by decide, angle, hplain, hvalue, Except.ok.inj hwritten, compiled,
    hcompiled, hline⟩

end ChartScript
