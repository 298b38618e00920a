import ChartScript.Compile
import ChartScript.Proofs.WordRows
import ChartScript.Proofs.WrittenIntegers
import Mathlib.Data.List.GetD

/-!
# Column selectors and what they select

A column selector is a word: `last`, or an integer that is positive.  Two things about it are easy
to get wrong by one, which texts are accepted and which word of a line is meant, and this file
states both without the code that does them.

Acceptance is stated by `Column.Names`, a relation between a word and the index that it stands for.
It is built on the grammar of written integers and not on the function that reads them: a selector
may have a sign, zeros in front and underscores, all of which `Number.IsInteger` knows, and a
statement by `Number.integer?`  would say only that the reader agrees with itself.
`Column.parse_eq_ok_iff` is an equivalence, so that a text is refused exactly when it is no selector
with blanks around it; the refusal is stated with the message that comes of it.

What a selector selects is stated on the words of a line.  The index counts them from one, as a user
sees them, while the values of a row start behind the label; the label is the first word, so an
index of one can only give the missing value.  For this a line has to *have* words in one way only,
and `Text.Spells` says which.  A line whose label starts with a quote is left out, because its label
may be several words and nothing can be counted on it.
-/

set_option autoImplicit false

namespace ChartScript

open Number (IsInteger maxIntegerDigits)

namespace Column

/-! ## Reading a selector -/

/-- `Names word index` says that `word` is a selector: `last`, which has no index, or a positive
integer, which is the index. -/
inductive Names : Text → Option Nat → Prop
  | last : Names lastWord none
  | index {word : Text} {n : Nat} (hword : IsInteger word n) (hn : 1 ≤ n) : Names word (some n)

theorem Names.isWord {word : Text} {index : Option Nat} (h : Names word index) : word.IsWord := by
  cases h with
  | last => decide
  | index hword => exact hword.isWord

/-- A trimmed text is read as what it names. -/
theorem parse_eq_ok_iff_names {value : Text} {column : Column} :
    parse value = .ok column ↔ column.text = value.strip ∧ Names value.strip column.index := by
  have hlast : Number.integer? (Text.ofString lastWord) = none := by decide
  obtain ⟨text, index⟩ := column
  rw [parse]
  dsimp only
  generalize value.strip = word
  constructor
  · intro h
    split at h
    · next hword =>
      cases h
      exact ⟨rfl, hword ▸ .last⟩
    · split at h
      · cases h
      · next z hz =>
        split at h
        · cases h
        · next hpos =>
          cases h
          refine ⟨rfl, .index ?_ (by omega)⟩
          rw [Int.toNat_of_nonneg (by omega)]
          exact Number.integer?_eq_some_iff.mp hz
  · rintro ⟨rfl, hnames⟩
    cases hnames with
    | last => exact if_pos rfl
    | index hword hn =>
      have hz := Number.integer?_eq_some_iff.mpr hword
      have hne : text ≠ Text.ofString lastWord := by
        rintro rfl
        rw [hlast] at hz
        cases hz
      rw [if_neg hne, hz]
      dsimp only
      rw [if_neg (by omega), Int.toNat_natCast]

/-- Reading accepts exactly the selectors, with blanks around them. -/
theorem parse_eq_ok_iff {value : Text} {column : Column} :
    parse value = .ok column ↔
      ∃ before after, value = before ++ (column.text ++ after) ∧
        (∀ c ∈ before, Text.isBlank c = true) ∧ (∀ c ∈ after, Text.isBlank c = true) ∧
        Names column.text column.index := by
  rw [parse_eq_ok_iff_names]
  constructor
  · rintro ⟨htext, hnames⟩
    obtain ⟨before, after, hvalue, hbefore, hafter⟩ := Text.exists_eq_append_strip value
    rw [← htext] at hvalue hnames
    exact ⟨before, after, hvalue, hbefore, hafter, hnames⟩
  · rintro ⟨before, after, rfl, hbefore, hafter, hnames⟩
    have hword := hnames.isWord.not_blank
    rw [Text.strip_padded (fun c hc => hword c (List.mem_of_mem_head? hc))
      (fun c hc => hword c (List.mem_of_getLast? hc)) hbefore hafter]
    exact ⟨rfl, hnames⟩

/-- Any other text is reported. -/
theorem exists_report_of_parse_ne_ok {value : Text} (h : ∀ column, parse value ≠ .ok column) :
    ∃ fault report, parse value = .error fault ∧
      (CompileFault.option (.column value fault)).report? = some report ∧
      report.category = .config ∧
      report.message = "Invalid column= value '" ++ value ++ "'" := by
  cases hparse : parse value with
  | ok column => exact absurd hparse (h column)
  | error fault => exact ⟨fault, _, rfl, rfl, rfl, rfl⟩

/-- The decimal notation of a positive number is its selector, also with zeros and a plus sign in
front of it. -/
theorem names_decimal {n zeros : Nat} (hn : 1 ≤ n) (hlimit : n < 10 ^ maxIntegerDigits)
    (hzeros : zeros ≤ maxIntegerDigits - (toString n).length) {sign : Text}
    (hsign : sign = [] ∨ sign = "+") :
    Names (sign ++ (List.replicate zeros (CodePoint.char '0') ++ Text.ofString (toString n)))
      (some n) := by
  have hlength : (toString n).length ≤ maxIntegerDigits := by
    rw [Nat.toString_eq_ofList_toDigits, String.length_ofList]
    exact (Nat.length_toDigits_le_iff (by decide) (by decide)).mpr hlimit
  have hcount : zeros + (toString n).length ≤ maxIntegerDigits := by omega
  have hdigits := Number.digits_decimal zeros n
  refine .index ?_ hn
  rcases hsign with rfl | rfl
  · exact .unsigned hdigits hcount
  · exact .plus hdigits hcount

/-! ## Selecting a word -/

/-- The index counts the words of a line from one.  The label, the first of them, is not
selected. -/
theorem select_index (text : Text) (n : Nat) (label : Text) (values : List Text) :
    (mk text (some n)).select values =
      if 2 ≤ n ∧ n ≤ (label :: values).length then (label :: values).getD (n - 1) missing
      else missing := by
  rw [select]
  dsimp only
  by_cases hn : 2 ≤ n
  · obtain ⟨m, rfl⟩ := Nat.exists_eq_add_of_le' hn
    rw [if_neg (by omega), List.length_cons]
    by_cases hm : m < values.length
    · rw [if_pos (by omega)]
      rfl
    · rw [if_neg (by omega)]
      exact List.getD_eq_default _ _ (Nat.le_of_not_lt hm)
  · rw [if_pos (by omega), if_neg (fun h => hn h.1)]

theorem select_last (text : Text) (label : Text) (values : List Text) :
    (mk text none).select values =
      if 2 ≤ (label :: values).length then (label :: values).getLastD missing else missing := by
  rw [select]
  cases values with
  | nil => rfl
  | cons value values =>
    rw [if_pos (by simp), List.getLastD_cons, List.getLastD_cons, List.getLastD_cons]

/-- A trimmed line that does not start with a quote is a row of words, in one way only, and the
first of them is the label. -/
theorem exists_spells_read {line : Text} (hne : line ≠ []) (hstrip : line.strip = line)
    (hquote : line.head? ≠ some (CodePoint.char '"')) :
    ∃ label values, Text.Spells line (label :: values) ∧
      (∀ tokens, Text.Spells line tokens → tokens = label :: values) ∧
      (Row.read line).values = values := by
  obtain ⟨c, rest, rfl⟩ := List.exists_cons_of_ne_nil hne
  have hc : Text.isBlank c = false := Text.isBlank_of_strip_eq_cons hstrip
  have hspells : Text.Spells (c :: rest) (Text.words (c :: rest)) :=
    Text.spells_words hne (fun x hx => Option.some.inj hx ▸ hc)
      (hstrip ▸ Text.isBlank_getLast?_strip (c :: rest))
  obtain ⟨label, values, hwords⟩ := List.exists_cons_of_ne_nil (Text.words_cons_ne_nil hc rest)
  refine ⟨label, values, hwords ▸ hspells, fun tokens h => ?_, ?_⟩
  · rw [← Text.words_of_spells h, hwords]
  · rw [Row.read_of_head?_ne hquote, hwords]
    rfl

/-- **Selectors are read and resolved exactly.**  A text is read when it is a selector with blanks
around it, and reported otherwise; a positive number is a selector in decimal notation, with a plus
sign and zeros in front of it as long as there are not too many digits.  On a line of words an index
counts the words from one, but what it selects is never the label. -/
theorem selectors_read_and_resolved :
    (∀ value column, parse value = .ok column ↔
      ∃ before after, value = before ++ (column.text ++ after) ∧
        (∀ c ∈ before, Text.isBlank c = true) ∧ (∀ c ∈ after, Text.isBlank c = true) ∧
        Names column.text column.index) ∧
    (∀ value, (∀ column, parse value ≠ .ok column) →
      ∃ fault report, parse value = .error fault ∧
        (CompileFault.option (.column value fault)).report? = some report ∧
        report.category = .config ∧
        report.message = "Invalid column= value '" ++ value ++ "'") ∧
    (∀ (n zeros : Nat) (before sign after : Text), 1 ≤ n → n < 10 ^ maxIntegerDigits →
      zeros ≤ maxIntegerDigits - (toString n).length → sign = [] ∨ sign = "+" →
      (∀ c ∈ before, Text.isBlank c = true) → (∀ c ∈ after, Text.isBlank c = true) →
      ∃ column, column.index = some n ∧ parse (before ++ (sign ++
        (List.replicate zeros (CodePoint.char '0') ++ Text.ofString (toString n)) ++ after)) =
          .ok column) ∧
    ∀ line : Text, line ≠ [] → line.strip = line → line.head? ≠ some (CodePoint.char '"') →
      ∃ tokens, Text.Spells line tokens ∧ (∀ others, Text.Spells line others → others = tokens) ∧
        ∀ text,
          (∀ n, (mk text (some n)).select (Row.read line).values =
            if 2 ≤ n ∧ n ≤ tokens.length then tokens.getD (n - 1) missing else missing) ∧
          (mk text none).select (Row.read line).values =
            if 2 ≤ tokens.length then tokens.getLastD missing else missing := by
  refine ⟨fun _ _ => parse_eq_ok_iff, fun _ => exists_report_of_parse_ne_ok, ?_, ?_⟩
  · intro n zeros before sign after hn hlimit hzeros hsign hbefore hafter
    exact ⟨⟨_, some n⟩, rfl, parse_eq_ok_iff.mpr
      ⟨before, after, rfl, hbefore, hafter, names_decimal hn hlimit hzeros hsign⟩⟩
  · intro line hne hstrip hquote
    obtain ⟨label, values, hspells, hunique, hvalues⟩ := exists_spells_read hne hstrip hquote
    refine ⟨label :: values, hspells, hunique, fun text => ⟨fun n => ?_, ?_⟩⟩
    · rw [hvalues, select_index text n label]
    · rw [hvalues, select_last text label]

/-- At the selector 12 with a tab, a sign and zeros in front of it, at the selector 0, and at a line
of three words. -/
theorem selectors_read_and_resolved_twelve :
    (∃ column, column.index = some 12 ∧ parse "\t+0012 " = .ok column) ∧
    (∃ fault report, parse "0" = .error fault ∧
      (CompileFault.option (.column "0" fault)).report? = some report ∧
      report.category = .config ∧
      report.message = "Invalid column= value '" ++ "0" ++ "'") ∧
    ∃ tokens, Text.Spells "age\t37  9" tokens ∧
      (∀ others, Text.Spells "age\t37  9" others → others = tokens) ∧
      ∀ text,
        (∀ n, (mk text (some n)).select (Row.read "age\t37  9").values =
          if 2 ≤ n ∧ n ≤ tokens.length then tokens.getD (n - 1) missing else missing) ∧
        (mk text none).select (Row.read "age\t37  9").values =
          if 2 ≤ tokens.length then tokens.getLastD missing else missing := by
  obtain ⟨-, hreport, hdecimal, hline⟩ := selectors_read_and_resolved
  refine ⟨?_, hreport "0" ?_, hline "age\t37  9" (by decide) (by decide) (by decide)⟩
  · have hlimit : 12 < 10 ^ maxIntegerDigits :=
      calc
        12 < 10 ^ 2 := by decide
        _ ≤ 10 ^ maxIntegerDigits := Nat.pow_le_pow_right (by decide) (by decide)
    exact hdecimal 12 2 "\t" "+" " " (by decide) hlimit (by decide) (by decide) (by decide)
      (by decide)
  · intro column h
    have hzero : parse "0" = .error .notPositive := by decide
    rw [hzero] at h
    cases h

end Column
end ChartScript
