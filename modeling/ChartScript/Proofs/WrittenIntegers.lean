import ChartScript.Number.Integer
import ChartScript.Proofs.Words
import Mathlib.Algebra.Order.Ring.Nat
import Mathlib.Data.List.Induction
import Mathlib.Tactic.Ring

/-!
# Which texts are integers

`Number.integer?`  takes an optional sign off a text, cuts the rest at underscores and looks at the
pieces.  That a piece must not be empty is how it rules out an underscore at an end or beside
another one; the rule itself, single underscores between two digits, is nowhere to be seen.  This
file says by a grammar which texts are integers, and what they denote.

`Number.Digits text count n` is the grammar of rows of digits.  It keeps the number of digits along
with the value for two reasons.  The value of a digit depends on how many come after it, so the
count is what makes the value definable from the left; and there is a bound on the number of digits,
which counts digits and not characters.  `Number.IsInteger text z` adds the sign and the bound.

`Number.integer?_eq_some_iff` is proved by relating the grammar to the pieces, since cutting and the
grammar see a text from different sides: one from the underscores, the other from the front.  An
underscore in front makes the first piece empty and a digit in front makes it longer, and by these
two facts the induction goes through.

Digits are those of any script that Unicode has, and so the grammar is about their values.
`Number.digits_decimal` says that the usual decimal notation, with any zeros in front, is such a
row.
-/

set_option autoImplicit false

namespace ChartScript

/-! ## The value of a row of digits -/

namespace Text

theorem isDigit_eq_true_iff {c : CodePoint} :
    isDigit c = true ↔ ∃ v, digitValue? c = some v := by
  rw [isDigit, Option.isSome_iff_exists]

theorem natOfDigits_append_singleton (digits : Text) (c : CodePoint) :
    natOfDigits (digits ++ [c]) = 10 * natOfDigits digits + (digitValue? c).getD 0 := by
  rw [natOfDigits, List.foldl_append]
  rfl

/-- The first digit counts as often as the digits behind it say. -/
theorem natOfDigits_cons (c : CodePoint) (digits : Text) :
    natOfDigits (c :: digits) =
      (digitValue? c).getD 0 * 10 ^ digits.length + natOfDigits digits := by
  induction digits using List.reverseRecOn with
  | nil => simp [natOfDigits]
  | append_singleton digits d ih =>
    rw [← List.cons_append, natOfDigits_append_singleton, ih, natOfDigits_append_singleton,
      List.length_append, List.length_singleton, pow_succ]
    ring

theorem natOfDigits_lt (digits : Text) : natOfDigits digits < 10 ^ digits.length := by
  induction digits using List.reverseRecOn with
  | nil => decide
  | append_singleton digits c ih =>
    have hc : (digitValue? c).getD 0 < 10 := by
      cases h : digitValue? c with
      | none => decide
      | some v => exact digitValue?_lt_ten h
    rw [natOfDigits_append_singleton, List.length_append, List.length_singleton, pow_succ]
    omega

end Text

namespace Number

open Text (digitValue? isDigit natOfDigits)

/-! ## Rows of digits with underscores -/

/-- `Digits text count n` says that `text` writes `n` with `count` digits.  A single underscore may
stand between two digits. -/
inductive Digits : Text → Nat → Nat → Prop
  | one {c : CodePoint} {v : Nat} (hc : digitValue? c = some v) : Digits [c] 1 v
  | cons {c : CodePoint} {t : Text} {v count n : Nat} (hc : digitValue? c = some v)
      (ht : Digits t count n) : Digits (c :: t) (count + 1) (v * 10 ^ count + n)
  | divided {c : CodePoint} {t : Text} {v count n : Nat} (hc : digitValue? c = some v)
      (ht : Digits t count n) :
      Digits (c :: CodePoint.char '_' :: t) (count + 1) (v * 10 ^ count + n)

/-- The digits between underscores. -/
def groups (t : Text) : List Text := t.splitOn (CodePoint.char '_')

/-- A group of digits: there is one at least, and nothing else. -/
def IsGroup (g : Text) : Prop := g ≠ [] ∧ ∀ c ∈ g, isDigit c = true

theorem ne_underscore_of_isDigit {c : CodePoint} (h : isDigit c = true) :
    c ≠ CodePoint.char '_' := by
  rintro rfl
  exact absurd h (by decide)

theorem groups_underscore (t : Text) : groups (CodePoint.char '_' :: t) = [] :: groups t := by
  rw [groups, List.splitOn_cons_eq_if_modifyHead, if_pos (beq_self_eq_true _)]
  rfl

/-- Anything else belongs to the first group. -/
theorem exists_groups_cons {c : CodePoint} (hc : c ≠ CodePoint.char '_') (t : Text) :
    ∃ g gs, groups t = g :: gs ∧ groups (c :: t) = (c :: g) :: gs := by
  obtain ⟨g, gs, hgs⟩ := List.exists_cons_of_ne_nil (List.splitOn_ne_nil (CodePoint.char '_') t)
  refine ⟨g, gs, hgs, ?_⟩
  rw [groups, List.splitOn_cons_eq_if_modifyHead, if_neg (by simpa using hc), hgs]
  rfl

theorem groups_divided {c : CodePoint} (hc : c ≠ CodePoint.char '_') (t : Text) :
    groups (c :: CodePoint.char '_' :: t) = [c] :: groups t := by
  obtain ⟨g, gs, ht, hct⟩ := exists_groups_cons hc (CodePoint.char '_' :: t)
  rw [groups_underscore] at ht
  obtain ⟨rfl, rfl⟩ := List.cons.inj ht
  exact hct

/-- What a row of digits is written with. -/
theorem Digits.groups_eq {t : Text} {count n : Nat} (h : Digits t count n) :
    (∀ g ∈ groups t, IsGroup g) ∧ (groups t).flatten.length = count ∧
      natOfDigits (groups t).flatten = n := by
  have hfirst : ∀ {c : CodePoint} {v : Nat}, digitValue? c = some v → isDigit c = true :=
    fun hc => Text.isDigit_eq_true_iff.mpr ⟨_, hc⟩
  induction h with
  | @one c v hc =>
    obtain ⟨g, gs, hnil, hgroups⟩ := exists_groups_cons (ne_underscore_of_isDigit (hfirst hc)) []
    obtain ⟨rfl, rfl⟩ := List.cons.inj (hnil.symm.trans rfl : g :: gs = [[]])
    rw [hgroups]
    refine ⟨?_, rfl, ?_⟩
    · simp [IsGroup, hfirst hc]
    · simp [natOfDigits, hc]
  | @cons c t v count n hc ht ih =>
    obtain ⟨hall, hlength, hvalue⟩ := ih
    obtain ⟨g, gs, hgs, hgroups⟩ := exists_groups_cons (ne_underscore_of_isDigit (hfirst hc)) t
    rw [hgs] at hall hlength hvalue
    rw [hgroups, List.flatten_cons, List.cons_append, ← List.flatten_cons]
    refine ⟨?_, ?_, ?_⟩
    · rw [List.forall_mem_cons] at hall ⊢
      refine ⟨⟨by simp, ?_⟩, hall.2⟩
      simpa [hfirst hc] using hall.1.2
    · rw [List.length_cons, hlength]
    · rw [Text.natOfDigits_cons, hc, hlength, hvalue]
      rfl
  | @divided c t v count n hc ht ih =>
    obtain ⟨hall, hlength, hvalue⟩ := ih
    rw [groups_divided (ne_underscore_of_isDigit (hfirst hc)), List.flatten_cons,
      List.singleton_append]
    refine ⟨?_, ?_, ?_⟩
    · rw [List.forall_mem_cons]
      exact ⟨by simp [IsGroup, hfirst hc], hall⟩
    · rw [List.length_cons, hlength]
    · rw [Text.natOfDigits_cons, hc, hlength, hvalue]
      rfl

/-- The first character in front of groups of digits is a digit. -/
theorem digitValue?_of_forall_isGroup {c : CodePoint} {t : Text}
    (h : ∀ g ∈ groups (c :: t), IsGroup g) : ∃ v, digitValue? c = some v := by
  have hc : c ≠ CodePoint.char '_' := by
    rintro rfl
    rw [groups_underscore] at h
    exact (h [] (by simp)).1 rfl
  obtain ⟨g, gs, -, hgroups⟩ := exists_groups_cons hc t
  rw [hgroups] at h
  exact Text.isDigit_eq_true_iff.mp ((h (c :: g) (by simp)).2 c (by simp))

/-- Groups of digits are a row of digits. -/
theorem exists_digits_of_forall_isGroup {t : Text} (h : ∀ g ∈ groups t, IsGroup g) :
    ∃ count n, Digits t count n := by
  -- an underscore is taken in with the digit before it, so the step may go back by two
  induction t using List.twoStepInduction with
  | nil => exact absurd rfl (h [] (by simp [groups])).1
  | singleton c =>
    obtain ⟨v, hc⟩ := digitValue?_of_forall_isGroup h
    exact ⟨_, _, .one hc⟩
  | cons_cons c d t ih ih' =>
    obtain ⟨v, hc⟩ := digitValue?_of_forall_isGroup h
    have hne := ne_underscore_of_isDigit (Text.isDigit_eq_true_iff.mpr ⟨v, hc⟩)
    by_cases hd : d = CodePoint.char '_'
    · subst hd
      rw [groups_divided hne, List.forall_mem_cons] at h
      obtain ⟨count, n, ht⟩ := ih h.2
      exact ⟨_, _, .divided hc ht⟩
    · obtain ⟨g, gs, hgs, hgroups⟩ := exists_groups_cons hne (d :: t)
      obtain ⟨g', gs', -, hgs'⟩ := exists_groups_cons hd t
      obtain ⟨rfl, rfl⟩ := List.cons.inj (hgs.symm.trans hgs')
      rw [hgroups, List.forall_mem_cons] at h
      have hrest : ∀ g ∈ groups (d :: t), IsGroup g := by
        rw [hgs, List.forall_mem_cons]
        exact ⟨⟨by simp, fun x hx => h.1.2 x (List.mem_cons_of_mem c hx)⟩, h.2⟩
      obtain ⟨count, n, ht⟩ := ih' d hrest
      exact ⟨_, _, .cons hc ht⟩

theorem digits_iff {t : Text} {count n : Nat} :
    Digits t count n ↔ (∀ g ∈ groups t, IsGroup g) ∧ (groups t).flatten.length = count ∧
      natOfDigits (groups t).flatten = n := by
  refine ⟨Digits.groups_eq, ?_⟩
  rintro ⟨hall, rfl, rfl⟩
  obtain ⟨count, n, h⟩ := exists_digits_of_forall_isGroup hall
  obtain ⟨-, hcount, hvalue⟩ := h.groups_eq
  rwa [hcount, hvalue]

theorem Digits.isWord {t : Text} {count n : Nat} (h : Digits t count n) : t.IsWord := by
  have hdigit : ∀ {c : CodePoint} {v : Nat}, Text.digitValue? c = some v →
      Text.isBlank c = false :=
    fun hc => Text.isBlank_of_isDigit (Text.isDigit_eq_true_iff.mpr ⟨_, hc⟩)
  induction h with
  | one hc => exact ⟨by simp, by simpa using hdigit hc⟩
  | cons hc _ ih => exact ⟨by simp, List.forall_mem_cons.mpr ⟨hdigit hc, ih.not_blank⟩⟩
  | divided hc _ ih =>
    exact ⟨by simp, List.forall_mem_cons.mpr
      ⟨hdigit hc, List.forall_mem_cons.mpr ⟨by decide, ih.not_blank⟩⟩⟩

/-! ## Integers -/

/-- `IsInteger text z` says that `text` writes the integer `z`: an optional sign and a row of not
too many digits. -/
inductive IsInteger : Text → Int → Prop
  | unsigned {t : Text} {count n : Nat} (h : Digits t count n)
      (hcount : count ≤ maxIntegerDigits) : IsInteger t n
  | plus {t : Text} {count n : Nat} (h : Digits t count n)
      (hcount : count ≤ maxIntegerDigits) : IsInteger (CodePoint.char '+' :: t) n
  | minus {t : Text} {count n : Nat} (h : Digits t count n)
      (hcount : count ≤ maxIntegerDigits) : IsInteger (CodePoint.char '-' :: t) (-n)

/-- The integer behind a sign. -/
theorem integer?_of_takeSign {t sign rest : Text} (h : Numeral.takeSign t = (sign, rest))
    {z : Int} :
    integer? t = some z ↔ ∃ count n, Digits rest count n ∧ count ≤ maxIntegerDigits ∧
      z = if Numeral.isMinus sign then -(n : Int) else n := by
  have hall : ((groups rest).all fun g => !g.isEmpty && g.all isDigit) = true ↔
      ∀ g ∈ groups rest, IsGroup g := by
    simp [IsGroup]
  rw [integer?, h]
  dsimp only
  rw [← groups]
  constructor
  · intro hsome
    split at hsome
    · next hok =>
      rw [Bool.and_eq_true, hall, decide_eq_true_eq] at hok
      exact ⟨_, _, digits_iff.mpr ⟨hok.1, rfl, rfl⟩, hok.2, (Option.some.inj hsome).symm⟩
    · exact absurd hsome (by simp)
  · rintro ⟨count, n, hdigits, hcount, rfl⟩
    obtain ⟨hgroups, rfl, rfl⟩ := digits_iff.mp hdigits
    rw [if_pos]
    rw [Bool.and_eq_true, hall, decide_eq_true_eq]
    exact ⟨hgroups, hcount⟩

theorem Digits.takeSign_eq {t : Text} {count n : Nat} (h : Digits t count n) :
    Numeral.takeSign t = ([], t) := by
  have hfirst : ∃ c rest, t = c :: rest ∧ isDigit c = true := by
    cases h with
    | one hc => exact ⟨_, _, rfl, Text.isDigit_eq_true_iff.mpr ⟨_, hc⟩⟩
    | cons hc => exact ⟨_, _, rfl, Text.isDigit_eq_true_iff.mpr ⟨_, hc⟩⟩
    | divided hc => exact ⟨_, _, rfl, Text.isDigit_eq_true_iff.mpr ⟨_, hc⟩⟩
  obtain ⟨c, rest, rfl, hc⟩ := hfirst
  unfold Numeral.takeSign
  split
  · next heq =>
    obtain ⟨rfl, -⟩ := List.cons.inj heq
    exact absurd hc (by decide)
  · next heq =>
    obtain ⟨rfl, -⟩ := List.cons.inj heq
    exact absurd hc (by decide)
  · rfl

/-- Reading accepts exactly the texts that write an integer. -/
theorem integer?_eq_some_iff {t : Text} {z : Int} : integer? t = some z ↔ IsInteger t z := by
  constructor
  · intro h
    obtain ⟨sign, rest, hsign⟩ : ∃ sign rest, Numeral.takeSign t = (sign, rest) := ⟨_, _, rfl⟩
    obtain ⟨count, n, hdigits, hcount, rfl⟩ := (integer?_of_takeSign hsign).mp h
    unfold Numeral.takeSign at hsign
    split at hsign
    · obtain ⟨rfl, rfl⟩ := Prod.mk.inj hsign
      exact .plus hdigits hcount
    · obtain ⟨rfl, rfl⟩ := Prod.mk.inj hsign
      exact .minus hdigits hcount
    · obtain ⟨rfl, rfl⟩ := Prod.mk.inj hsign
      exact .unsigned hdigits hcount
  · intro h
    cases h with
    | unsigned h hcount =>
      exact (integer?_of_takeSign h.takeSign_eq).mpr ⟨_, _, h, hcount, rfl⟩
    | plus h hcount => exact (integer?_of_takeSign rfl).mpr ⟨_, _, h, hcount, rfl⟩
    | minus h hcount => exact (integer?_of_takeSign rfl).mpr ⟨_, _, h, hcount, rfl⟩

/-- An integer is one word. -/
theorem IsInteger.isWord {t : Text} {z : Int} (h : IsInteger t z) : t.IsWord := by
  cases h with
  | unsigned h => exact h.isWord
  | plus h => exact ⟨by simp, List.forall_mem_cons.mpr ⟨by decide, h.isWord.not_blank⟩⟩
  | minus h => exact ⟨by simp, List.forall_mem_cons.mpr ⟨by decide, h.isWord.not_blank⟩⟩

/-! ## Decimal notation -/

theorem digits_of_forall_isDigit {t : Text} (hne : t ≠ []) (h : ∀ c ∈ t, isDigit c = true) :
    Digits t t.length (natOfDigits t) := by
  induction t with
  | nil => exact absurd rfl hne
  | cons c t ih =>
    rw [List.forall_mem_cons] at h
    obtain ⟨v, hc⟩ := Text.isDigit_eq_true_iff.mp h.1
    rw [Text.natOfDigits_cons, hc]
    cases t with
    | nil => simpa [natOfDigits] using Digits.one hc
    | cons d t => exact .cons hc (ih (by simp) h.2)

theorem natOfDigits_toDigits (n : Nat) : natOfDigits (Text.ofChars (Nat.toDigits 10 n)) = n := by
  have hdigit : ∀ d < 10, (digitValue? (CodePoint.char d.digitChar)).getD 0 = d := by decide
  induction n using Nat.strongRecOn with
  | ind n ih =>
    rw [Nat.toDigits_eq_if (by decide)]
    split
    · next hlt => simpa [natOfDigits, Text.ofChars] using hdigit n hlt
    · next hge =>
      rw [Text.ofChars, List.map_append, ← Text.ofChars]
      rw [List.map_singleton, Text.natOfDigits_append_singleton, ih (n / 10) (by omega),
        hdigit (n % 10) (Nat.mod_lt n (by decide))]
      omega

/-- The decimal notation of a number denotes it. -/
theorem natOfDigits_toString (n : Nat) : natOfDigits (Text.ofString (toString n)) = n := by
  rw [Nat.toString_eq_ofList_toDigits, Text.ofString, String.toList_ofList]
  exact natOfDigits_toDigits n

theorem natOfDigits_zeros_append (zeros : Nat) (t : Text) :
    natOfDigits (List.replicate zeros (CodePoint.char '0') ++ t) = natOfDigits t := by
  induction zeros with
  | zero => rfl
  | succ zeros ih =>
    have hzero : (digitValue? (CodePoint.char '0')).getD 0 = 0 := by decide
    rw [List.replicate_succ, List.cons_append, Text.natOfDigits_cons, hzero, ih, Nat.zero_mul,
      Nat.zero_add]

/-- An ASCII digit has its usual value. -/
theorem digitValue?_char {c : Char} (h : c.isDigit = true) :
    digitValue? (CodePoint.char c) = some (c.toNat - 0x30) := by
  obtain ⟨hlow, hhigh⟩ := Char.isDigit_iff_toNat.mp h
  rw [digitValue?, Text.digitZeros, List.find?_cons_of_pos]
  · rfl
  · rw [Bool.and_eq_true]
    exact ⟨decide_eq_true hlow, decide_eq_true hhigh⟩

theorem isDigit_of_mem_toString {n : Nat} {c : CodePoint}
    (hc : c ∈ Text.ofString (toString n)) : isDigit c = true := by
  have hascii := Text.isIn_isDigit_of_mem_toString hc
  obtain ⟨d, -, rfl⟩ := List.mem_map.mp hc
  exact Text.isDigit_eq_true_iff.mpr ⟨_, digitValue?_char hascii⟩

/-- Zeros in front of the decimal notation of a number change nothing. -/
theorem digits_decimal (zeros n : Nat) :
    Digits (List.replicate zeros (CodePoint.char '0') ++ Text.ofString (toString n))
      (zeros + (toString n).length) n := by
  have hdigits : ∀ c ∈ List.replicate zeros (CodePoint.char '0') ++ Text.ofString (toString n),
      isDigit c = true := by
    intro c hc
    rcases List.mem_append.mp hc with hc | hc
    · rw [List.eq_of_mem_replicate hc]
      decide
    · exact isDigit_of_mem_toString hc
  have h := digits_of_forall_isDigit
    (List.append_ne_nil_of_right_ne_nil _ (Text.ofString_toString_ne_nil n)) hdigits
  rwa [natOfDigits_zeros_append, natOfDigits_toString, List.length_append, List.length_replicate,
    Text.ofString, Text.ofChars, List.length_map, String.length_toList] at h

/-! ## The number of digits -/

theorem digitCount_le {count n : Nat} (h : n < 10 ^ count) : digitCount n ≤ count := by
  induction count generalizing n with
  | zero =>
    rw [digitCount, if_pos (by simpa using h)]
  | succ count ih =>
    rw [digitCount]
    split
    · omega
    · have := ih (n := n / 10) (by rw [pow_succ] at h; omega)
      omega

/-- A written integer has no more digits than were written. -/
theorem IsInteger.digitCount_natAbs_le {t : Text} {z : Int} (h : IsInteger t z) :
    digitCount z.natAbs ≤ maxIntegerDigits := by
  have hdigits : ∀ {t : Text} {count n : Nat}, Digits t count n → count ≤ maxIntegerDigits →
      digitCount n ≤ maxIntegerDigits := by
    intro t count n h hcount
    obtain ⟨-, rfl, rfl⟩ := h.groups_eq
    exact (digitCount_le (Text.natOfDigits_lt _)).trans hcount
  cases h with
  | unsigned h hcount => exact hdigits h hcount
  | plus h hcount => exact hdigits h hcount
  | minus h hcount =>
    rw [Int.natAbs_neg]
    exact hdigits h hcount

end Number
end ChartScript
