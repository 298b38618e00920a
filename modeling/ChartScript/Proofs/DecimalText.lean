import ChartScript.Number.Layout
import ChartScript.Proofs.NumeralGrammar
import ChartScript.Proofs.TitlePieces
import Mathlib.Algebra.Field.Rat
import Mathlib.Data.Rat.Cast.Defs

/-!
# The text of a decimal

A format writes a decimal positionally or with an exponent, drops the zeros at the end of the
fraction, and drops the point if nothing is behind it.  To read the text back one has to know that
it is a numeral and what it denotes; how it came about no longer matters then.  So there is one
result for all ways of writing, `Layout.exists_isPlain_text_eq`: the text of a decimal is a plain
numeral that denotes it.

`Numeral.toRat` gives the denotation as a rational number, exactly, with no rounding involved.  This
separates the two things that can be wrong with a written number, its text and its value, and leaves
rounding to the files that are about it.

`Numeral.IsPlain` says more than that a text is a numeral: no blanks and no sign in front, a digit
behind the point if there is one, no zeros at the end of the fraction.  The denotation does not need
it, but equality of texts does.  Two plain numerals may still differ, as one has an exponent and the
other does not, so users of this file compare digits and values and not texts.
-/

set_option autoImplicit false

namespace ChartScript

open Text (digitValue? isDigit natOfDigits)

/-! ## Zeros -/

namespace Text

/-- Whether `c` is a digit zero. -/
def isZero (c : CodePoint) : Bool := digitValue? c == some 0

theorem natOfDigits_append (first second : Text) :
    natOfDigits (first ++ second) =
      natOfDigits first * 10 ^ second.length + natOfDigits second := by
  induction first with
  | nil => simp [natOfDigits]
  | cons c first ih =>
    rw [List.cons_append, natOfDigits_cons, natOfDigits_cons, ih, List.length_append, pow_add]
    ring

theorem natOfDigits_append_replicate (digits : Text) (zeros : Nat) :
    natOfDigits (digits ++ List.replicate zeros (CodePoint.char '0')) =
      natOfDigits digits * 10 ^ zeros := by
  have hzeros := Number.natOfDigits_zeros_append zeros []
  rw [List.append_nil] at hzeros
  rw [natOfDigits_append, hzeros, List.length_replicate]
  rfl

theorem natOfDigits_of_isZero {zeros : Text} (h : ∀ c ∈ zeros, isZero c = true) :
    natOfDigits zeros = 0 := by
  induction zeros with
  | nil => rfl
  | cons c zeros ih =>
    obtain ⟨hc, hzeros⟩ := List.forall_mem_cons.mp h
    rw [natOfDigits_cons, beq_iff_eq.mp hc, ih hzeros]
    simp

end Text

namespace Numeral

/-! ## What a numeral denotes -/

theorem cast_mul_ten_pow (c k : Nat) (e : Int) :
    ((c * 10 ^ k : Nat) : ℚ) * 10 ^ e = c * 10 ^ (k + e) := by
  rw [Nat.cast_mul, Nat.cast_pow, mul_assoc, ← zpow_natCast, Nat.cast_ofNat,
    ← zpow_add₀ (by norm_num)]

/-- The rational number that a numeral denotes. -/
def toRat (n : Numeral) : ℚ :=
  if isMinus n.sign then -(n.coefficient * 10 ^ n.scale) else n.coefficient * 10 ^ n.scale

/-- A numeral without blanks and without a sign, whose fraction has a digit if there is a point and
does not end in a zero. -/
structure IsPlain (n : Numeral) : Prop where
  wellFormed : n.WellFormed
  blanks : n.blanks = []
  sign : n.sign = []
  point : n.point = true → n.fraction ≠ []
  fraction : ∀ c ∈ n.fraction.getLast?, Text.isZero c = false

end Numeral

namespace Layout

/-! ## Parts of a text -/

/-- The numeral with the given digits before the point and after it, and the given exponent. -/
def numeral (whole fraction : List Char) (exponent : Option Exponent) : Numeral :=
  ⟨[], [], Text.ofChars whole, !fraction.isEmpty, Text.ofChars fraction, exponent⟩

variable {whole fraction : List Char} {exponent : Option Exponent}

theorem text_numeral :
    (numeral whole fraction exponent).text =
      Text.ofChars (whole ++ fractionText fraction) ++
        (exponent.map Numeral.exponentText).getD [] := by
  cases fraction with
  | nil => simp [numeral, Numeral.text, fractionText, Text.ofChars, Text.ofString]
  | cons c fraction => simp [numeral, Numeral.text, fractionText, Text.ofChars, Text.ofString]

theorem toRat_numeral :
    (numeral whole fraction exponent).toRat =
      natOfDigits (Text.ofChars (whole ++ fraction)) *
        10 ^ ((exponent.map Numeral.exponentValue).getD 0 - fraction.length) := by
  have hminus : Numeral.isMinus (numeral whole fraction exponent).sign = false := rfl
  rw [Numeral.toRat, hminus, if_neg (by decide), Numeral.coefficient, Numeral.scale, numeral]
  simp only [Text.ofChars, List.map_append, List.length_map]

theorem isDigit_of_mem_ofChars {digits : List Char} (h : ∀ c ∈ digits, c.isDigit = true) :
    ∀ c ∈ Text.ofChars digits, isDigit c = true := by
  intro c hc
  obtain ⟨d, hd, rfl⟩ := List.mem_map.mp hc
  exact Text.isDigit_eq_true_iff.mpr ⟨_, Number.digitValue?_char (h d hd)⟩

theorem isZero_char {c : Char} (h : c.isDigit = true) (hc : c ≠ '0') :
    Text.isZero (CodePoint.char c) = false := by
  have hlow : 0x30 ≤ c.toNat := (Char.isDigit_iff_toNat.mp h).1
  have hne : c.toNat ≠ 0x30 := fun heq => hc (Char.toNat_inj.mp heq)
  have hsub : c.toNat - 0x30 ≠ 0 := by omega
  rw [Text.isZero, Number.digitValue?_char h, beq_eq_false_iff_ne]
  simpa using hsub

theorem isPlain_numeral (hwhole : whole ≠ []) (hdigit : ∀ c ∈ whole ++ fraction, c.isDigit = true)
    (hlast : fraction.getLast? ≠ some '0') (hexponent : ∀ e ∈ exponent, e.WellFormed) :
    (numeral whole fraction exponent).IsPlain := by
  obtain ⟨hwholeDigit, hfractionDigit⟩ := List.forall_mem_append.mp hdigit
  refine ⟨⟨by simp [numeral], .none, isDigit_of_mem_ofChars hwholeDigit,
    isDigit_of_mem_ofChars hfractionDigit, .inl ?_, ?_, hexponent⟩, rfl, rfl, ?_, ?_⟩
  · simpa [numeral, Text.ofChars] using hwhole
  · simp [numeral, Text.ofChars]
  · simp [numeral, Text.ofChars]
  · intro c hc
    change c ∈ (fraction.map CodePoint.char).getLast? at hc
    rw [List.getLast?_map] at hc
    obtain ⟨d, hd, rfl⟩ := Option.mem_map.mp hc
    refine isZero_char (hfractionDigit d (List.mem_of_getLast? hd)) ?_
    rintro rfl
    exact hlast hd

/-! ## Positional texts and exponents -/

/-- The exponent that is written for `e`. -/
def writtenExponent (e : Int) : Exponent where
  letter := 'e'
  sign := if e < 0 then "-" else "+"
  digits := Text.ofChars (List.replicate (2 - (Nat.toDigits 10 e.natAbs).length) '0' ++
    Nat.toDigits 10 e.natAbs)

theorem exponentText_writtenExponent (e : Int) :
    Numeral.exponentText (writtenExponent e) = Text.ofChars (exponentText e) := by
  rw [exponentText, Numeral.exponentText, writtenExponent]
  by_cases he : e < 0
  · simp [he, Text.ofChars, Text.ofString]
  · simp [he, Text.ofChars, Text.ofString]

theorem isDigit_of_mem_toDigits {n : Nat} : ∀ c ∈ Nat.toDigits 10 n, c.isDigit = true :=
  fun _ hc => Nat.isDigit_of_mem_toDigits (by decide) (by decide) hc

theorem isDigit_of_mem_replicate {k : Nat} : ∀ c ∈ List.replicate k '0', c.isDigit = true := by
  intro c hc
  rw [List.eq_of_mem_replicate hc]
  decide

theorem wellFormed_writtenExponent (e : Int) : (writtenExponent e).WellFormed := by
  refine ⟨.inl rfl, ?_, ?_, ?_⟩
  · rw [writtenExponent]
    dsimp only
    split
    · exact .minus
    · exact .plus
  · simp [writtenExponent, Text.ofChars]
  · exact isDigit_of_mem_ofChars (List.forall_mem_append.mpr
      ⟨isDigit_of_mem_replicate, isDigit_of_mem_toDigits⟩)

theorem exponentValue_writtenExponent (e : Int) :
    Numeral.exponentValue (writtenExponent e) = e := by
  have hdigits : natOfDigits (writtenExponent e).digits = e.natAbs := by
    rw [writtenExponent, Text.ofChars, List.map_append, List.map_replicate,
      Number.natOfDigits_zeros_append]
    exact Number.natOfDigits_toDigits _
  rw [Numeral.exponentValue, hdigits, writtenExponent]
  by_cases he : e < 0
  · have hminus : Numeral.isMinus "-" = true := by decide
    simp only [he, if_true, hminus]
    omega
  · have hminus : Numeral.isMinus "+" = false := by decide
    simp only [he, if_false, hminus, Bool.false_eq_true]
    omega

variable {layout : Layout} {digits : List Char}

section

variable (hne : digits ≠ []) (hdigit : ∀ c ∈ digits, c.isDigit = true)
  (hlast : digits.getLast? ≠ some '0')

include hne hdigit hlast

/-- Digits that do not end in a zero are written positionally as a plain numeral. -/
theorem exists_positional_eq (hpoint : layout.showsPoint = false) (e : Int) :
    ∃ n : Numeral, n.IsPlain ∧ n.text = Text.ofChars (layout.positional digits e) ∧
      n.toRat = natOfDigits (Text.ofChars digits) * 10 ^ (e + 1 - digits.length) := by
  have hpositive : 0 < digits.length := List.length_pos_iff.mpr hne
  cases e with
  | ofNat k =>
    refine ⟨numeral (digits.take (k + 1) ++
      List.replicate (k + 1 - (digits.take (k + 1)).length) '0') (digits.drop (k + 1)) none,
      isPlain_numeral ?_ ?_ ?_ (by simp), ?_, ?_⟩
    · simp [hne]
    · intro c hc
      rw [List.append_assoc, List.mem_append, List.mem_append] at hc
      rcases hc with hc | hc | hc
      · exact hdigit c (List.mem_of_mem_take hc)
      · exact isDigit_of_mem_replicate c hc
      · exact hdigit c (List.mem_of_mem_drop hc)
    · rw [List.getLast?_drop]
      split
      · simp
      · exact hlast
    · rw [text_numeral, positional, hpoint, Bool.and_false, if_neg (by decide)]
      exact List.append_nil _
    · rw [toRat_numeral]
      by_cases hshort : digits.length ≤ k + 1
      · -- zeros fill the places up to the point
        rw [List.take_of_length_le hshort, List.drop_eq_nil_of_le hshort, List.append_nil,
          Text.ofChars, List.map_append, List.map_replicate, Text.natOfDigits_append_replicate,
          Numeral.cast_mul_ten_pow]
        congr 2
        simp
        omega
      · have hlength : (digits.take (k + 1)).length = k + 1 := by
          rw [List.length_take]
          omega
        rw [hlength, Nat.sub_self, List.replicate_zero, List.append_nil, List.take_append_drop]
        congr 2
        simp
        omega
  | negSucc k =>
    refine ⟨numeral ['0'] (List.replicate k '0' ++ digits) none,
      isPlain_numeral (by simp) ?_ ?_ (by simp), ?_, ?_⟩
    · intro c hc
      rw [List.mem_append, List.mem_append, List.mem_singleton] at hc
      rcases hc with rfl | hc | hc
      · decide
      · exact isDigit_of_mem_replicate c hc
      · exact hdigit c hc
    · rwa [List.getLast?_append_of_ne_nil _ hne]
    · rw [text_numeral, positional, fractionText, if_neg (by simp [hne])]
      exact List.append_nil _
    · have hzeros : ['0'] ++ (List.replicate k '0' ++ digits) =
          List.replicate (k + 1) '0' ++ digits := rfl
      rw [toRat_numeral, hzeros, Text.ofChars, List.map_append, List.map_replicate,
        Number.natOfDigits_zeros_append]
      congr 2
      simp
      omega

/-- Digits that do not end in a zero are written with an exponent as a plain numeral. -/
theorem exists_exponent_eq (e : Int) :
    ∃ n : Numeral, n.IsPlain ∧
      n.text = Text.ofChars (digits.take 1 ++ fractionText (digits.drop 1) ++ exponentText e) ∧
      n.toRat = natOfDigits (Text.ofChars digits) * 10 ^ (e + 1 - digits.length) := by
  have hpositive : 0 < digits.length := List.length_pos_iff.mpr hne
  refine ⟨numeral (digits.take 1) (digits.drop 1) (some (writtenExponent e)),
    isPlain_numeral (by simp [hne]) ?_ ?_ ?_, ?_, ?_⟩
  · rwa [List.take_append_drop]
  · rw [List.getLast?_drop]
    split
    · simp
    · exact hlast
  · rintro _ ⟨⟩
    exact wellFormed_writtenExponent e
  · rw [text_numeral, Option.map_some, Option.getD_some, exponentText_writtenExponent]
    exact List.map_append.symm
  · rw [toRat_numeral, List.take_append_drop, Option.map_some, Option.getD_some,
      exponentValue_writtenExponent, List.length_drop]
    congr 2
    omega

end

/-! ## Decimals -/

theorem dropZeros_eq (digits : List Char) : dropZeros digits = digits.rdropWhile (· == '0') := rfl

/-- The text of a decimal is a plain numeral that denotes it. -/
theorem exists_isPlain_text_eq (hpoint : layout.showsPoint = false) {k : Nat} (hk : k ≠ 0)
    (e : Int) :
    ∃ n : Numeral, n.IsPlain ∧ n.text = Text.ofChars (layout.text (Nat.toDigits 10 k) e) ∧
      n.toRat = k * 10 ^ (e + 1 - (Nat.toDigits 10 k).length) := by
  obtain ⟨zeros, hzeros⟩ := exists_eq_rdropWhile_append (p := (· == '0')) (a := '0') (by simp)
    (Nat.toDigits 10 k)
  have hlast := getLast?_rdropWhile_ne (p := (· == '0')) (beq_self_eq_true '0') (Nat.toDigits 10 k)
  have hvalue := Number.natOfDigits_toDigits k
  have hdigit := isDigit_of_mem_toDigits (n := k)
  rw [text, dropZeros_eq]
  generalize (Nat.toDigits 10 k).rdropWhile (· == '0') = digits at hzeros hlast ⊢
  rw [hzeros, List.forall_mem_append] at hdigit
  rw [hzeros, Text.ofChars, List.map_append, List.map_replicate, ← Text.ofChars,
    Text.natOfDigits_append_replicate] at hvalue
  have hne : digits ≠ [] := by
    rintro rfl
    exact hk (hvalue.symm.trans (Nat.zero_mul _))
  -- the zeros that are dropped count in the place of the last digit
  have hscale : (natOfDigits (Text.ofChars digits) : ℚ) * 10 ^ (e + 1 - digits.length) =
      k * 10 ^ (e + 1 - (Nat.toDigits 10 k).length) := by
    rw [hzeros, List.length_append, List.length_replicate, ← hvalue, Numeral.cast_mul_ten_pow]
    congr 2
    omega
  rw [← hscale]
  split
  · exact exists_positional_eq hne hdigit.1 hlast hpoint e
  · exact exists_exponent_eq hne hdigit.1 hlast e

end Layout
end ChartScript
