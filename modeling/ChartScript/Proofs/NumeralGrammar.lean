import ChartScript.Number.Leading
import ChartScript.Proofs.WrittenIntegers

/-!
# Which texts are numerals, and which numeral is read

The numeral at the start of a text is read part by part, each as long as it goes: blanks, a sign,
digits, a point, digits, an exponent.  Reading greedily is right only if no part can take what a
later part needs.  It does not follow from the parts: an `e` behind a mantissa starts an exponent
only if digits come, so a reader that took the `e` at once would read less than there is, or fail.

`Numeral.IsNumeral` is the grammar, on texts and without a reader.  `Numeral.WellFormed` says the
same of the parts of a numeral, which is the form that proofs about reading need, and
`Numeral.isNumeral_iff` that the two agree; a text is a numeral in one way only, but nothing here
depends on it.

That reading finds the longest numeral is shown in two steps.  A numeral alone is read back as it
was written (`WellFormed.scan?_text`).  With anything behind it, no less is read
(`WellFormed.exists_scan?_append`): what is behind can extend a part, or bring a part that was not
there, but never take one away.  This is proved part by part, each time with what follows as an
arbitrary text, so a part that is added to the grammar adds one case.

`IsLongest` is the statement for users: a numeral at the start that no other numeral there is longer
than.  A value with no numeral at its start is read as zero, which is stated as well, since options
rely on it.
-/

set_option autoImplicit false

namespace ChartScript

open Text (isBlank isDigit)
open Number (IsGroup)

namespace Numeral

/-! ## The grammar -/

/-- An optional sign. -/
inductive IsSign : Text → Prop
  | none : IsSign []
  | plus : IsSign "+"
  | minus : IsSign "-"

/-- Digits with an optional point and optional further digits, or a point followed by digits. -/
inductive IsMantissa : Text → Prop
  | whole {digits : Text} (h : IsGroup digits) : IsMantissa digits
  | point {digits fraction : Text} (h : IsGroup digits)
      (hfraction : ∀ c ∈ fraction, isDigit c = true) :
      IsMantissa (digits ++ CodePoint.char '.' :: fraction)
  | fraction {digits : Text} (h : IsGroup digits) : IsMantissa (CodePoint.char '.' :: digits)

/-- An optional exponent: `e` or `E`, an optional sign and at least one digit. -/
inductive IsExponent : Text → Prop
  | none : IsExponent []
  | some {letter : CodePoint} {sign digits : Text}
      (hletter : letter = CodePoint.char 'e' ∨ letter = CodePoint.char 'E') (hsign : IsSign sign)
      (hdigits : IsGroup digits) : IsExponent (letter :: sign ++ digits)

/-- The texts that are numerals. -/
inductive IsNumeral : Text → Prop
  | mk {blanks sign mantissa exponent : Text} (hblanks : ∀ c ∈ blanks, isBlank c = true)
      (hsign : IsSign sign) (hmantissa : IsMantissa mantissa) (hexponent : IsExponent exponent) :
      IsNumeral (blanks ++ sign ++ mantissa ++ exponent)

end Numeral

/-! ## Parts of numerals -/

/-- The parts of an exponent are as the grammar wants them. -/
structure Exponent.WellFormed (e : Exponent) : Prop where
  letter : e.letter = CodePoint.char 'e' ∨ e.letter = CodePoint.char 'E'
  sign : Numeral.IsSign e.sign
  digits : IsGroup e.digits

/-- The parts of a numeral are as the grammar wants them. -/
structure Numeral.WellFormed (n : Numeral) : Prop where
  blanks : ∀ c ∈ n.blanks, isBlank c = true
  sign : Numeral.IsSign n.sign
  whole : ∀ c ∈ n.whole, isDigit c = true
  fraction : ∀ c ∈ n.fraction, isDigit c = true
  hasDigit : n.whole ≠ [] ∨ n.fraction ≠ []
  point : n.point = false → n.fraction = []
  exponent : ∀ e ∈ n.exponent, e.WellFormed

namespace Numeral

/-- The mantissa of a numeral as it is written. -/
def mantissaText (n : Numeral) : Text := n.whole ++ (if n.point then "." else "") ++ n.fraction

/-- The exponent of a numeral as it is written, empty where there is none. -/
def exponentPart (n : Numeral) : Text := (n.exponent.map exponentText).getD []

theorem text_eq (n : Numeral) :
    n.text = n.blanks ++ (n.sign ++ (n.mantissaText ++ n.exponentPart)) := by
  simp only [text, mantissaText, exponentPart, List.append_assoc]

/-- A mantissa has a point or consists of whole digits alone. -/
theorem WellFormed.mantissa_cases {n : Numeral} (h : n.WellFormed) :
    (n.point = false ∧ n.fraction = [] ∧ IsGroup n.whole ∧ n.mantissaText = n.whole) ∨
      (n.point = true ∧ n.mantissaText = n.whole ++ CodePoint.char '.' :: n.fraction) := by
  rw [mantissaText]
  cases hpoint : n.point with
  | false =>
    have hfraction := h.point hpoint
    have hwhole : n.whole ≠ [] := h.hasDigit.resolve_right fun hne => hne hfraction
    exact .inl ⟨rfl, hfraction, ⟨hwhole, h.whole⟩, by simp [hfraction, Text.ofString, Text.ofChars]⟩
  | true => exact .inr ⟨rfl, by simp [Text.ofString, Text.ofChars]⟩

theorem WellFormed.isMantissa {n : Numeral} (h : n.WellFormed) : IsMantissa n.mantissaText := by
  rcases h.mantissa_cases with ⟨-, -, hgroup, htext⟩ | ⟨-, htext⟩
  · rw [htext]
    exact .whole hgroup
  · rw [htext]
    by_cases hwhole : n.whole = []
    · have hfraction : n.fraction ≠ [] := h.hasDigit.resolve_left fun hne => hne hwhole
      rw [hwhole]
      exact .fraction ⟨hfraction, h.fraction⟩
    · exact .point ⟨hwhole, h.whole⟩ h.fraction

theorem WellFormed.isExponent {n : Numeral} (h : n.WellFormed) : IsExponent n.exponentPart := by
  rw [exponentPart]
  cases hexponent : n.exponent with
  | none => exact .none
  | some e =>
    obtain ⟨hletter, hsign, hdigits⟩ := h.exponent e hexponent
    exact .some hletter hsign hdigits

theorem exists_parts_of_isMantissa {mantissa : Text} (h : IsMantissa mantissa) :
    ∃ (whole fraction : Text) (point : Bool),
      mantissa = whole ++ (if point then "." else "") ++ fraction ∧
      (∀ c ∈ whole, isDigit c = true) ∧ (∀ c ∈ fraction, isDigit c = true) ∧
      (whole ≠ [] ∨ fraction ≠ []) ∧ (point = false → fraction = []) := by
  cases h with
  | whole h =>
    exact ⟨mantissa, [], false, by simp [Text.ofString, Text.ofChars], h.2, by simp, .inl h.1,
      by simp⟩
  | @point digits fraction h hfraction =>
    exact ⟨digits, fraction, true, by simp [Text.ofString, Text.ofChars], h.2, hfraction, .inl h.1,
      by simp⟩
  | @fraction digits h =>
    exact ⟨[], digits, true, rfl, by simp, h.2, .inr h.1, by simp⟩

/-- A text is a numeral when it can be put together from parts. -/
theorem isNumeral_iff {t : Text} : IsNumeral t ↔ ∃ n : Numeral, n.WellFormed ∧ n.text = t := by
  constructor
  · rintro ⟨hblanks, hsign, hmantissa, hexponent⟩
    obtain ⟨whole, fraction, point, rfl, hwhole, hfraction, hdigit, hpoint⟩ :=
      exists_parts_of_isMantissa hmantissa
    cases hexponent with
    | none =>
      exact ⟨⟨_, _, whole, point, fraction, none⟩, ⟨hblanks, hsign, hwhole, hfraction, hdigit,
        hpoint, by simp⟩, by simp [text]⟩
    | @some letter sign' digits hletter hsign' hdigits =>
      refine ⟨⟨_, _, whole, point, fraction, some ⟨letter, sign', digits⟩⟩, ⟨hblanks, hsign, hwhole,
        hfraction, hdigit, hpoint, ?_⟩, by simp [text, exponentText]⟩
      rintro e ⟨⟩
      exact ⟨hletter, hsign', hdigits⟩
  · rintro ⟨n, h, rfl⟩
    have hnumeral := IsNumeral.mk h.blanks h.sign h.isMantissa h.isExponent
    rwa [List.append_assoc, List.append_assoc, ← text_eq] at hnumeral

/-! ## Reading parts -/

theorem forall_mem_takeWhile {p : CodePoint → Bool} {t : Text} :
    ∀ c ∈ t.takeWhile p, p c = true :=
  List.all_eq_true.mp List.all_takeWhile

theorem takeSign_append {sign t : Text} (hsign : IsSign sign)
    (ht : ∀ c ∈ t.head?, c ≠ CodePoint.char '+' ∧ c ≠ CodePoint.char '-') :
    takeSign (sign ++ t) = (sign, t) := by
  cases hsign with
  | plus => rfl
  | minus => rfl
  | none =>
    rw [List.nil_append]
    unfold takeSign
    split
    · exact absurd rfl (ht _ rfl).1
    · exact absurd rfl (ht _ rfl).2
    · rfl

/-- A sign that is taken off is one. -/
theorem isSign_of_takeSign {t sign rest : Text} (h : takeSign t = (sign, rest)) :
    IsSign sign ∧ t = sign ++ rest := by
  unfold takeSign at h
  split at h
  · cases h
    exact ⟨.plus, rfl⟩
  · cases h
    exact ⟨.minus, rfl⟩
  · cases h
    exact ⟨.none, rfl⟩

/-- Behind the blanks and the sign, the mantissa is read and then the exponent. -/
theorem scan?_eq {t sign rest : Text} (h : takeSign (t.dropWhile isBlank) = (sign, rest)) :
    scan? t = (scanMantissa? rest).map fun parts =>
      ⟨t.takeWhile isBlank, sign, parts.1.1, parts.1.2.1, parts.1.2.2, scanExponent? parts.2⟩ := by
  rw [scan?, h]
  dsimp only
  cases scanMantissa? rest with
  | none => rfl
  | some parts => rfl

/-- A mantissa starts with a digit or a point. -/
theorem IsMantissa.exists_cons {mantissa : Text} (h : IsMantissa mantissa) :
    ∃ c rest, mantissa = c :: rest ∧ (isDigit c = true ∨ c = CodePoint.char '.') := by
  have hgroup : ∀ {digits : Text}, IsGroup digits →
      ∃ c rest, digits = c :: rest ∧ isDigit c = true := by
    rintro digits ⟨hne, hdigits⟩
    obtain ⟨c, rest, rfl⟩ := List.exists_cons_of_ne_nil hne
    exact ⟨c, rest, rfl, hdigits c (by simp)⟩
  cases h with
  | whole h =>
    obtain ⟨c, rest, rfl, hc⟩ := hgroup h
    exact ⟨c, rest, rfl, .inl hc⟩
  | point h =>
    obtain ⟨c, rest, rfl, hc⟩ := hgroup h
    exact ⟨c, _, rfl, .inl hc⟩
  | fraction h => exact ⟨_, _, rfl, .inr rfl⟩

/-- Blanks and a sign are read up to where the mantissa starts. -/
theorem scan?_append {blanks sign t : Text} (hblanks : ∀ c ∈ blanks, isBlank c = true)
    (hsign : IsSign sign)
    (ht : ∃ c rest, t = c :: rest ∧ (isDigit c = true ∨ c = CodePoint.char '.')) :
    scan? (blanks ++ (sign ++ t)) = (scanMantissa? t).map fun parts =>
      ⟨blanks, sign, parts.1.1, parts.1.2.1, parts.1.2.2, scanExponent? parts.2⟩ := by
  obtain ⟨c, rest, rfl, hc⟩ := ht
  have hnosign : ∀ d ∈ (c :: rest).head?, d ≠ CodePoint.char '+' ∧ d ≠ CodePoint.char '-' := by
    rintro d ⟨⟩
    constructor
    · rintro rfl
      exact absurd hc (by decide)
    · rintro rfl
      exact absurd hc (by decide)
  have hnoblank : ∃ d more, sign ++ c :: rest = d :: more ∧ ¬isBlank d = true := by
    cases hsign with
    | none =>
      refine ⟨c, rest, rfl, ?_⟩
      rcases hc with hc | rfl
      · simp [Text.isBlank_of_isDigit hc]
      · decide
    | plus => exact ⟨_, _, rfl, by decide⟩
    | minus => exact ⟨_, _, rfl, by decide⟩
  obtain ⟨d, more, hd, hblank⟩ := hnoblank
  have htake : (blanks ++ (sign ++ c :: rest)).takeWhile isBlank = blanks := by
    rw [List.takeWhile_append_of_pos hblanks, hd, List.takeWhile_cons_of_neg hblank,
      List.append_nil]
  have hdrop : (blanks ++ (sign ++ c :: rest)).dropWhile isBlank = sign ++ c :: rest := by
    rw [List.dropWhile_append_of_pos hblanks, hd, List.dropWhile_cons_of_neg hblank]
  rw [scan?_eq (by rw [hdrop, takeSign_append hsign hnosign]), htake]

theorem scanMantissa?_point {whole fraction : Text} (hwhole : ∀ c ∈ whole, isDigit c = true)
    (hfraction : ∀ c ∈ fraction, isDigit c = true) (hne : whole ≠ [] ∨ fraction ≠ [])
    (rest : Text) :
    scanMantissa? (whole ++ CodePoint.char '.' :: (fraction ++ rest)) =
      some ((whole, true, fraction ++ rest.takeWhile isDigit), rest.dropWhile isDigit) := by
  have hpoint : ¬isDigit (CodePoint.char '.') = true := by decide
  rw [scanMantissa?, List.takeWhile_append_of_pos hwhole, List.dropWhile_append_of_pos hwhole,
    List.takeWhile_cons_of_neg hpoint, List.dropWhile_cons_of_neg hpoint, List.append_nil,
    ← List.takeWhile_append_of_pos hfraction, ← List.dropWhile_append_of_pos hfraction]
  refine if_neg ?_
  rw [List.takeWhile_append_of_pos hfraction]
  rw [Bool.and_eq_true, List.isEmpty_iff, List.isEmpty_iff, List.append_eq_nil_iff]
  exact fun h => hne.elim (fun hw => hw h.1) fun hf => hf h.2.1

theorem scanMantissa?_whole {whole : Text} (hwhole : IsGroup whole) {rest : Text}
    (hrest : ∀ c ∈ rest.head?, isDigit c = false ∧ c ≠ CodePoint.char '.') :
    scanMantissa? (whole ++ rest) = some ((whole, false, []), rest) := by
  have hends : rest.takeWhile isDigit = [] ∧ rest.dropWhile isDigit = rest := by
    cases rest with
    | nil => exact ⟨rfl, rfl⟩
    | cons c rest => simp [(hrest c rfl).1]
  rw [scanMantissa?, List.takeWhile_append_of_pos hwhole.2, List.dropWhile_append_of_pos hwhole.2,
    hends.1, hends.2, List.append_nil]
  dsimp only
  split
  · exact absurd rfl (hrest _ rfl).2
  · rw [if_neg (by simpa using hwhole.1)]

/-- Digits are read with all digits behind them, whatever follows. -/
theorem exists_scanMantissa?_append {whole : Text} (hwhole : IsGroup whole) (rest : Text) :
    ∃ point fraction behind, scanMantissa? (whole ++ rest) =
      some ((whole ++ rest.takeWhile isDigit, point, fraction), behind) := by
  have hne : (whole ++ rest.takeWhile isDigit).isEmpty = false := by simp [hwhole.1]
  rw [scanMantissa?, List.takeWhile_append_of_pos hwhole.2, hne]
  dsimp only
  split
  · exact ⟨_, _, _, rfl⟩
  · exact ⟨_, _, _, rfl⟩

theorem scanExponent?_append {e : Exponent} (he : e.WellFormed) (rest : Text) :
    scanExponent? (exponentText e ++ rest) =
      some { e with digits := e.digits ++ rest.takeWhile isDigit } := by
  have hnosign : ∀ c ∈ (e.digits ++ rest).head?,
      c ≠ CodePoint.char '+' ∧ c ≠ CodePoint.char '-' := by
    obtain ⟨c, more, hc⟩ := List.exists_cons_of_ne_nil he.digits.1
    rw [hc, List.cons_append]
    rintro d ⟨⟩
    have hdigit := he.digits.2 c (by simp [hc])
    constructor
    · rintro rfl
      exact absurd hdigit (by decide)
    · rintro rfl
      exact absurd hdigit (by decide)
  rw [exponentText, List.cons_append, List.cons_append, scanExponent?, if_pos he.letter,
    List.append_assoc, takeSign_append he.sign hnosign]
  dsimp only
  rw [List.takeWhile_append_of_pos he.digits.2, if_neg (by simp [he.digits.1])]

theorem wellFormed_of_scanExponent? {t : Text} {e : Exponent} (h : scanExponent? t = some e) :
    e.WellFormed ∧ exponentText e <+: t := by
  cases t with
  | nil => exact absurd h (by simp [scanExponent?])
  | cons letter rest =>
    rw [scanExponent?] at h
    split at h
    · next hletter =>
      obtain ⟨sign, behind, htake⟩ : ∃ sign behind, takeSign rest = (sign, behind) := ⟨_, _, rfl⟩
      obtain ⟨hsign, rfl⟩ := isSign_of_takeSign htake
      rw [htake] at h
      dsimp only at h
      split at h
      · exact absurd h (by simp)
      · next hdigits =>
        cases h
        refine ⟨⟨hletter, hsign, by simpa using hdigits, forall_mem_takeWhile⟩, ?_⟩
        rw [exponentText, List.cons_append, List.cons_prefix_cons]
        exact ⟨rfl, (List.prefix_append_right_inj sign).mpr (List.takeWhile_prefix isDigit)⟩
    · exact absurd h (by simp)

theorem wellFormed_of_scanMantissa? {t whole fraction rest : Text} {point : Bool}
    (h : scanMantissa? t = some ((whole, point, fraction), rest)) :
    t = whole ++ (if point then "." else "") ++ fraction ++ rest ∧
      (∀ c ∈ whole, isDigit c = true) ∧ (∀ c ∈ fraction, isDigit c = true) ∧
      (whole ≠ [] ∨ fraction ≠ []) ∧ (point = false → fraction = []) := by
  have ht := List.takeWhile_append_dropWhile (p := isDigit) (l := t)
  rw [scanMantissa?] at h
  dsimp only at h
  split at h
  · next behind hbehind =>
    split at h
    · exact absurd h (by simp)
    · next hne =>
      cases h
      rw [hbehind] at ht
      refine ⟨?_, forall_mem_takeWhile, forall_mem_takeWhile, ?_, by simp⟩
      · rw [List.append_assoc, List.takeWhile_append_dropWhile, List.append_assoc]
        exact ht.symm
      · rwa [Bool.and_eq_true, List.isEmpty_iff, List.isEmpty_iff, not_and_or] at hne
  · split at h
    · exact absurd h (by simp)
    · next hne =>
      cases h
      refine ⟨?_, forall_mem_takeWhile, by simp, .inl (by simpa using hne), by simp⟩
      simp [Text.ofString, Text.ofChars, ht]

/-- What is read is a numeral at the start of the text. -/
theorem wellFormed_of_scan? {t : Text} {n : Numeral} (h : scan? t = some n) :
    n.WellFormed ∧ n.text <+: t := by
  obtain ⟨sign, rest, htake⟩ : ∃ sign rest, takeSign (t.dropWhile isBlank) = (sign, rest) :=
    ⟨_, _, rfl⟩
  obtain ⟨hsign, hdrop⟩ := isSign_of_takeSign htake
  rw [scan?_eq htake, Option.map_eq_some_iff] at h
  obtain ⟨⟨⟨whole, point, fraction⟩, behind⟩, hmantissa, rfl⟩ := h
  obtain ⟨hrest, hwhole, hfraction, hdigit, hpoint⟩ := wellFormed_of_scanMantissa? hmantissa
  refine ⟨⟨forall_mem_takeWhile, hsign, hwhole, hfraction, hdigit, hpoint,
    fun e he => (wellFormed_of_scanExponent? he).1⟩, ?_⟩
  have hexponent : ((scanExponent? behind).map exponentText).getD [] <+: behind := by
    cases he : scanExponent? behind with
    | none => exact List.nil_prefix
    | some e => exact (wellFormed_of_scanExponent? he).2
  obtain ⟨more, hmore⟩ := hexponent
  refine ⟨more, Eq.trans ?_ (List.takeWhile_append_dropWhile (p := isBlank) (l := t))⟩
  rw [hdrop, hrest, text_eq]
  simp only [mantissaText, exponentPart, List.append_assoc, hmore]

/-! ## Reading numerals back -/

namespace WellFormed

variable {n : Numeral} (h : n.WellFormed)

include h

theorem scan?_append (behind : Text) :
    scan? (n.blanks ++ (n.sign ++ (n.mantissaText ++ behind))) =
      (scanMantissa? (n.mantissaText ++ behind)).map fun parts =>
        ⟨n.blanks, n.sign, parts.1.1, parts.1.2.1, parts.1.2.2, scanExponent? parts.2⟩ := by
  obtain ⟨c, rest, hmantissa, hc⟩ := h.isMantissa.exists_cons
  exact Numeral.scan?_append h.blanks h.sign ⟨c, rest ++ behind, by rw [hmantissa]; rfl, hc⟩

/-- A mantissa ends where neither a digit nor a point follows. -/
theorem scanMantissa?_append {behind : Text}
    (hbehind : ∀ c ∈ behind.head?, isDigit c = false ∧ c ≠ CodePoint.char '.') :
    scanMantissa? (n.mantissaText ++ behind) =
      some ((n.whole, n.point, n.fraction), behind) := by
  rcases h.mantissa_cases with ⟨hpoint, hfraction, hgroup, htext⟩ | ⟨hpoint, htext⟩
  · rw [htext, hpoint, hfraction, scanMantissa?_whole hgroup hbehind]
  · have hends : behind.takeWhile isDigit = [] ∧ behind.dropWhile isDigit = behind := by
      cases behind with
      | nil => exact ⟨rfl, rfl⟩
      | cons c rest => simp [(hbehind c rfl).1]
    rw [htext, hpoint, List.append_assoc, List.cons_append,
      scanMantissa?_point h.whole h.fraction h.hasDigit, hends.1, hends.2, List.append_nil]

/-- With anything behind a mantissa, no less than the mantissa is read. -/
theorem exists_scanMantissa?_append (behind : Text) :
    ∃ whole point fraction rest,
      scanMantissa? (n.mantissaText ++ behind) = some ((whole, point, fraction), rest) ∧
        n.mantissaText.length ≤
          (whole ++ (if point then "." else "") ++ fraction : Text).length := by
  rcases h.mantissa_cases with ⟨-, -, hgroup, htext⟩ | ⟨-, htext⟩
  · obtain ⟨point, fraction, rest, hscan⟩ := Numeral.exists_scanMantissa?_append hgroup behind
    rw [htext]
    refine ⟨_, point, fraction, rest, hscan, ?_⟩
    simp only [List.length_append]
    omega
  · rw [htext, List.append_assoc, List.cons_append]
    refine ⟨_, true, _, _, scanMantissa?_point h.whole h.fraction h.hasDigit behind, ?_⟩
    simp only [List.length_append, List.length_cons, if_true, Text.ofString, Text.ofChars,
      List.length_map]
    simp
    omega

theorem head?_exponentPart :
    ∀ c ∈ n.exponentPart.head?, isDigit c = false ∧ c ≠ CodePoint.char '.' := by
  intro c hc
  rw [exponentPart] at hc
  cases hexponent : n.exponent with
  | none => exact absurd hc (by simp [hexponent])
  | some e =>
    obtain rfl : e.letter = c := by simpa [hexponent, exponentText] using hc
    rcases (h.exponent e hexponent).letter with hletter | hletter
    · rw [hletter]
      decide
    · rw [hletter]
      decide

theorem scanExponent?_exponentPart : scanExponent? n.exponentPart = n.exponent := by
  rw [exponentPart]
  cases hexponent : n.exponent with
  | none => rfl
  | some e => simpa using scanExponent?_append (h.exponent e hexponent) []

/-- A numeral is read back as it was written. -/
theorem scan?_text : scan? n.text = some n := by
  rw [text_eq, h.scan?_append, h.scanMantissa?_append h.head?_exponentPart, Option.map_some,
    h.scanExponent?_exponentPart]

/-- With anything behind a numeral, no less than the numeral is read. -/
theorem exists_scan?_append (behind : Text) :
    ∃ n', scan? (n.text ++ behind) = some n' ∧ n.text.length ≤ n'.text.length := by
  have htext : n.text ++ behind =
      n.blanks ++ (n.sign ++ (n.mantissaText ++ (n.exponentPart ++ behind))) := by
    simp only [text_eq, List.append_assoc]
  rw [htext, h.scan?_append]
  cases hexponent : n.exponent with
  | none =>
    -- the mantissa may go on, and an exponent may follow
    obtain ⟨whole, point, fraction, rest, hscan, hlength⟩ :=
      h.exists_scanMantissa?_append (n.exponentPart ++ behind)
    refine ⟨_, by rw [hscan]; rfl, ?_⟩
    have hnone : n.exponentPart = [] := by rw [exponentPart, hexponent]; rfl
    simp only [text_eq, hnone, List.append_nil, List.length_append]
    simp only [mantissaText, List.length_append] at hlength ⊢
    omega
  | some e =>
    -- the mantissa ends at the letter, and only the digits of the exponent may go on
    have he := h.exponent e hexponent
    have hpart : n.exponentPart = exponentText e := by rw [exponentPart, hexponent]; rfl
    have hhead : ∀ c ∈ (n.exponentPart ++ behind).head?,
        isDigit c = false ∧ c ≠ CodePoint.char '.' := by
      have := h.head?_exponentPart
      rw [hpart] at this ⊢
      exact this
    refine ⟨_, by rw [h.scanMantissa?_append hhead]; rfl, ?_⟩
    simp only [text_eq, hpart, scanExponent?_append he, List.length_append]
    simp only [mantissaText, exponentPart, exponentText, List.length_append, Option.map_some,
      Option.getD_some, List.length_cons]
    omega

/-- Behind its blanks a numeral holds no blank. -/
theorem isBlank_of_mem {c : CodePoint} (hc : c ∈ n.sign ++ (n.mantissaText ++ n.exponentPart)) :
    isBlank c = false := by
  have hsign : ∀ {sign : Text}, IsSign sign → ∀ d ∈ sign, isBlank d = false := by
    rintro sign hsign
    cases hsign with
    | none => simp
    | plus => decide
    | minus => decide
  have hdigits : ∀ {digits : Text}, (∀ d ∈ digits, isDigit d = true) →
      ∀ d ∈ digits, isBlank d = false :=
    fun hall d hd => Text.isBlank_of_isDigit (hall d hd)
  rcases List.mem_append.mp hc with hc | hc
  · exact hsign h.sign c hc
  rcases List.mem_append.mp hc with hc | hc
  · rcases h.mantissa_cases with ⟨-, -, hgroup, htext⟩ | ⟨-, htext⟩
    · exact hdigits hgroup.2 c (htext ▸ hc)
    · rw [htext, List.mem_append, List.mem_cons] at hc
      rcases hc with hc | rfl | hc
      · exact hdigits h.whole c hc
      · decide
      · exact hdigits h.fraction c hc
  · rw [exponentPart] at hc
    cases hexponent : n.exponent with
    | none => exact absurd hc (by simp [hexponent])
    | some e =>
      have he := h.exponent e hexponent
      rw [hexponent, Option.map_some, Option.getD_some, exponentText, List.cons_append,
        List.mem_cons, List.mem_append] at hc
      rcases hc with rfl | hc | hc
      · rcases he.letter with hletter | hletter
        · rw [hletter]
          decide
        · rw [hletter]
          decide
      · exact hsign he.sign c hc
      · exact hdigits he.digits.2 c hc

/-- A numeral is none of the names that also denote numbers. -/
theorem ofText?_text : Binary64.ofText? n.text = some n.toBinary64 := by
  have hscan := h.scan?_text
  have hsome : (scan? n.text).isSome = true := by rw [hscan]; rfl
  obtain ⟨sign, rest, htake⟩ : ∃ sign rest, takeSign n.text = (sign, rest) := ⟨_, _, rfl⟩
  obtain ⟨hsign, htext⟩ := isSign_of_takeSign htake
  have hname : ∀ name : Text, name = "inf" ∨ name = "nan" → rest ≠ name := by
    rintro name hname rfl
    rw [htext] at hsome
    rcases hname with rfl | rfl <;> cases hsign <;> exact absurd hsome (by decide)
  rw [Binary64.ofText?, htake]
  dsimp only
  rw [if_neg (hname _ (.inl rfl)), if_neg (hname _ (.inr rfl)), hscan]
  exact if_pos rfl

end WellFormed

/-! ## The longest numeral -/

/-- Whether `t` is the longest numeral at the start of `value`. -/
structure IsLongest (t value : Text) : Prop where
  isPrefix : t <+: value
  isNumeral : IsNumeral t
  longest : ∀ other, other <+: value → IsNumeral other → other.length ≤ t.length

/-- Some numeral is read where one starts, and no shorter one. -/
theorem exists_scan?_of_isNumeral {t value : Text} (hstart : t <+: value) (ht : IsNumeral t) :
    ∃ n, scan? value = some n ∧ t.length ≤ n.text.length := by
  obtain ⟨n, h, rfl⟩ := isNumeral_iff.mp ht
  obtain ⟨behind, rfl⟩ := hstart
  exact h.exists_scan?_append behind

theorem isLongest_iff {t value : Text} :
    IsLongest t value ↔ ∃ n, scan? value = some n ∧ n.text = t := by
  constructor
  · rintro ⟨hstart, hnumeral, hlongest⟩
    obtain ⟨n, hscan, hlength⟩ := exists_scan?_of_isNumeral hstart hnumeral
    obtain ⟨hn, hread⟩ := wellFormed_of_scan? hscan
    have hle := hlongest n.text hread (isNumeral_iff.mpr ⟨n, hn, rfl⟩)
    refine ⟨n, hscan, ?_⟩
    exact (List.prefix_of_prefix_length_le hread hstart hle).eq_of_length (le_antisymm hle hlength)
  · rintro ⟨n, hscan, rfl⟩
    obtain ⟨hn, hread⟩ := wellFormed_of_scan? hscan
    refine ⟨hread, isNumeral_iff.mpr ⟨n, hn, rfl⟩, fun other hstart hnumeral => ?_⟩
    obtain ⟨n', hscan', hlength⟩ := exists_scan?_of_isNumeral hstart hnumeral
    rw [hscan] at hscan'
    cases hscan'
    exact hlength

theorem scan?_eq_none_iff {value : Text} :
    scan? value = none ↔ ∀ t, t <+: value → ¬IsNumeral t := by
  constructor
  · intro hnone t hstart hnumeral
    obtain ⟨n, hscan, -⟩ := exists_scan?_of_isNumeral hstart hnumeral
    exact absurd (hnone.symm.trans hscan) (by simp)
  · intro hnone
    cases hscan : scan? value with
    | none => rfl
    | some n =>
      obtain ⟨hn, hread⟩ := wellFormed_of_scan? hscan
      exact absurd (isNumeral_iff.mpr ⟨n, hn, rfl⟩) (hnone n.text hread)

end Numeral

open Numeral (IsNumeral IsLongest)

theorem isBlank_of_isSeparatorControl {c : CodePoint} (h : isSeparatorControl c = true) :
    isBlank c = true := by
  rw [isSeparatorControl, Bool.and_eq_true, decide_eq_true_iff, decide_eq_true_iff] at h
  rw [isBlank, Text.CodeRanges.contains_iff]
  exact ⟨(0x1C, 0x20), by decide, h.1, by omega⟩

/-- What a numeral is converted to, anything being behind it. -/
theorem leadingNumber_of_scan? {value : Text} {n : Numeral} (hscan : Numeral.scan? value = some n) :
    leadingNumber value =
      if n.text.any isSeparatorControl then .error ⟨n.text⟩
      else .ok (if n.toBinary64.isFinite then n.toBinary64 else 0) := by
  obtain ⟨h, -⟩ := Numeral.wellFormed_of_scan? hscan
  have hany : n.text.any isSeparatorControl = n.blanks.any isSeparatorControl := by
    rw [Numeral.text_eq, List.any_append, Bool.or_eq_left_iff_imp]
    intro hbehind
    obtain ⟨c, hc, hseparator⟩ := List.any_eq_true.mp hbehind
    have hblank := h.isBlank_of_mem hc
    rw [isBlank_of_isSeparatorControl hseparator] at hblank
    exact absurd hblank (by decide)
  rw [leadingNumber, hscan, hany]

/-- **Numbers are read as far as they go.**  The numeral that is read at the start of a value is the
longest there is, and none is read only where none starts; then the value counts as zero.  The
numeral is converted as a text of its own, and rejected as a whole if a separator stands before it;
so the number depends on nothing that follows. -/
theorem leadingNumber_longest (value : Text) :
    (∀ t, IsLongest t value ↔ (Numeral.scan? value).map Numeral.text = some t) ∧
    (startsWithNumeral value = false ↔ ∀ t, t <+: value → ¬IsNumeral t) ∧
    (startsWithNumeral value = false → leadingNumber value = .ok 0) ∧
    (∀ t, IsLongest t value → ∃ number, Binary64.ofText? t = some number ∧
      leadingNumber value =
        if t.any isSeparatorControl then .error ⟨t⟩
        else .ok (if number.isFinite then number else 0)) ∧
    ∀ t value', IsLongest t value → IsLongest t value' →
      leadingNumber value' = leadingNumber value := by
  have hconvert : ∀ {t value : Text}, IsLongest t value → ∃ number,
      Binary64.ofText? t = some number ∧ leadingNumber value =
        if t.any isSeparatorControl then .error ⟨t⟩
        else .ok (if number.isFinite then number else 0) := by
    intro t value ht
    obtain ⟨n, hscan, rfl⟩ := Numeral.isLongest_iff.mp ht
    exact ⟨n.toBinary64, (Numeral.wellFormed_of_scan? hscan).1.ofText?_text,
      leadingNumber_of_scan? hscan⟩
  have hnone : startsWithNumeral value = false ↔ Numeral.scan? value = none := by
    rw [startsWithNumeral, Option.isSome_eq_false_iff, Option.isNone_iff_eq_none]
  refine ⟨fun t => ?_, hnone.trans Numeral.scan?_eq_none_iff, fun h => ?_, fun t => hconvert, ?_⟩
  · rw [Numeral.isLongest_iff, Option.map_eq_some_iff]
  · rw [leadingNumber, hnone.mp h]
  · intro t value' ht ht'
    obtain ⟨number, hnumber, hvalue⟩ := hconvert ht
    obtain ⟨number', hnumber', hvalue'⟩ := hconvert ht'
    obtain rfl : number = number' := Option.some.inj (hnumber.symm.trans hnumber')
    rw [hvalue, hvalue']

/-- An exponent without a digit is left out, with its sign, and a point without a digit starts no
numeral. -/
theorem leadingNumber_longest_danglingExponent :
    let value : Text := "\t-12.5e+x"
    let numeral : Text := "\t-12.5"
    IsLongest numeral value ∧ IsLongest numeral numeral ∧
      leadingNumber value = leadingNumber numeral ∧
      (∃ number, Binary64.ofText? numeral = some number ∧
        leadingNumber value = .ok (if number.isFinite then number else 0)) ∧
      ∀ t, t <+: Text.ofString ".e5" → ¬IsNumeral t := by
  intro value numeral
  obtain ⟨hlongest, -, -, hconvert, hsame⟩ := leadingNumber_longest value
  have hvalue : IsLongest numeral value := (hlongest numeral).mpr (by decide)
  have hself : IsLongest numeral numeral :=
    ((leadingNumber_longest numeral).1 numeral).mpr (by decide)
  refine ⟨hvalue, hself, (hsame numeral numeral hvalue hself).symm, ?_,
    (leadingNumber_longest ".e5").2.1.mp (by decide)⟩
  obtain ⟨number, hnumber, hread⟩ := hconvert numeral hvalue
  exact ⟨number, hnumber, hread⟩

end ChartScript
