import ChartScript.Proofs.DataBlock

/-!
# Rows paired with their errors

`Dataset.pairedLines` walks over the entries of the table and takes an error row off a list whenever
it comes to a row.  Which error row that is depends on all that was consumed before, and a row for
which none is left is a failure.  This file says what is written for each entry without the list
that is used up.

`WrittenPaired` does so: with the entries in front of an entry given, the number of rows among them
is the number of its error row.  Marks of sets are no rows and take nothing off the list, so the
number is counted in the whole bucket and not in the set.  A relation is used and not a function,
because it has to say nothing about a row whose error row does not exist, and the failure of
`pairedLines` is not to be imitated by a default.

That failure cannot happen in a compilation: the numbers of rows are compared first.  Hence
`pairedLines_writtenPaired` has the hypothesis that there are enough error rows, and
`finalize_of_errorBars_ne_nil` discharges it from the comparison; the only failure it has left is
the one that is reported.

`Alternates` is the form of a line: values and errors take turns, an error that is missing is
written as the missing value, and errors beyond the values are dropped.  `SameErrors` follows from
it.  It relates error rows that differ only in what no line shows, which are their labels and the
errors beyond the values, and the theorem says that the data block does not tell them apart.
-/

set_option autoImplicit false

namespace ChartScript
namespace Dataset

/-! ## Values and errors in turn -/

/-- Every value is followed by its error, or by the missing value where there is none. -/
structure Alternates (values errors tokens : List Text) : Prop where
  length_eq : tokens.length = 2 * values.length
  value : ∀ j, tokens[2 * j]? = values[j]?
  error : ∀ j < values.length, tokens[2 * j + 1]? = some (errors.getD j missing)

theorem alternates_interleave (values errors : List Text) :
    Alternates values errors (interleave values errors) := by
  induction values generalizing errors with
  | nil => exact ⟨rfl, fun _ => rfl, fun _ hj => absurd hj (Nat.not_lt_zero _)⟩
  | cons value values ih =>
    have ih := ih errors.tail
    refine ⟨?_, fun j => ?_, fun j hj => ?_⟩
    · rw [interleave, List.length_cons, List.length_cons, ih.length_eq, List.length_cons]
      omega
    · cases j with
      | zero => rfl
      | succ j =>
        rw [interleave, Nat.mul_succ, List.getElem?_cons_succ, List.getElem?_cons_succ,
          List.getElem?_cons_succ]
        exact ih.value j
    · cases j with
      | zero => cases errors <;> rfl
      | succ j =>
        have herror : errors.tail.getD j missing = errors.getD (j + 1) missing := by
          cases errors <;> rfl
        rw [interleave, Nat.mul_succ, List.getElem?_cons_succ, List.getElem?_cons_succ, ← herror]
        exact ih.error j (Nat.lt_of_succ_lt_succ hj)

/-- Only the errors of values count. -/
theorem Alternates.unique {values errors errors' tokens tokens' : List Text}
    (h : Alternates values errors tokens) (h' : Alternates values errors' tokens')
    (herrors : ∀ j < values.length, errors'.getD j missing = errors.getD j missing) :
    tokens' = tokens := by
  refine List.ext_getElem? fun i => ?_
  obtain ⟨j, rfl | rfl⟩ : ∃ j, i = 2 * j ∨ i = 2 * j + 1 := ⟨i / 2, by omega⟩
  · rw [h.value, h'.value]
  · by_cases hj : j < values.length
    · rw [h.error j hj, h'.error j hj, herrors j hj]
    · have hlength := h.length_eq
      have hlength' := h'.length_eq
      rw [List.getElem?_eq_none (by omega), List.getElem?_eq_none (by omega)]

/-! ## Entry by entry -/

/-- What is written for an entry of the table that has others in front of it: two empty lines for
the mark of a set, and a row with the errors of the row that has its number. -/
inductive WrittenPaired (errors : List Row) (before : List Entry) : Entry → List Text → Prop
  | row {r error : Row} {tokens : List Text}
      (herror : errors[(before.filterMap Entry.row?).length]? = some error)
      (h : Alternates r.values error.values tokens) :
      WrittenPaired errors before (.row r) [(Row.mk r.label tokens).render]
  | set : WrittenPaired errors before .set separator
  | group : WrittenPaired errors before .group []

/-- Entries behind others take the error rows that those leave. -/
theorem pairedLines_append {before : List Entry} {errors : List Row} {lines : List Text}
    (h : pairedLines before errors = .ok lines) (rest : List Entry) :
    pairedLines (before ++ rest) errors =
      (pairedLines rest (errors.drop (before.filterMap Entry.row?).length)).map (lines ++ ·) := by
  fun_induction pairedLines before errors generalizing lines with
  | case1 errors =>
    obtain rfl := Except.ok.inj h
    exact (congrFun Except.map_id _).symm
  | case2 => exact absurd h (by simp)
  | case3 r before error errors ih =>
    obtain ⟨later, hlater, rfl⟩ := exists_of_map_eq_ok h
    have hdrop : (error :: errors).drop ((Entry.row r :: before).filterMap Entry.row?).length =
        errors.drop (before.filterMap Entry.row?).length := rfl
    rw [List.cons_append, pairedLines, ih hlater, hdrop]
    cases pairedLines rest _ <;> rfl
  | case4 before errors ih =>
    obtain ⟨later, hlater, rfl⟩ := exists_of_map_eq_ok h
    rw [List.cons_append, pairedLines, ih hlater, List.filterMap_cons_none rfl]
    cases pairedLines rest _ <;> rfl
  | case5 before errors ih => exact ih h

/-- An entry is written as it should be as long as there is an error row for it. -/
theorem exists_writtenPaired {errors : List Row} {before : List Entry} {e : Entry}
    (h : ((before ++ [e]).filterMap Entry.row?).length ≤ errors.length) :
    ∃ written, WrittenPaired errors before e written ∧
      pairedLines [e] (errors.drop (before.filterMap Entry.row?).length) = .ok written := by
  cases e with
  | set => exact ⟨separator, .set, rfl⟩
  | group => exact ⟨[], .group, rfl⟩
  | row r =>
    rw [List.filterMap_append, List.length_append] at h
    have hlt : (before.filterMap Entry.row?).length < errors.length := h
    rw [List.drop_eq_getElem_cons hlt]
    exact ⟨_, .row (List.getElem?_eq_getElem hlt) (alternates_interleave _ _), rfl⟩

/-- Lines for each entry, in order, that are written as they should be. -/
def AreWrittenPaired (errors : List Row) (entries : List Entry) (lines : List (List Text)) : Prop :=
  lines.length = entries.length ∧
    ∀ before e rest, entries = before ++ e :: rest →
      ∃ written, lines[before.length]? = some written ∧ WrittenPaired errors before e written

theorem pairedLines_writtenPaired {errors : List Row} {entries : List Entry}
    (h : (entries.filterMap Entry.row?).length ≤ errors.length) :
    ∃ lines, AreWrittenPaired errors entries lines ∧
      pairedLines entries errors = .ok lines.flatten := by
  induction entries using List.reverseRecOn with
  | nil => exact ⟨[], ⟨rfl, fun before e rest hsplit => by simp at hsplit⟩, rfl⟩
  | append_singleton entries last ih =>
    have hearlier : (entries.filterMap Entry.row?).length ≤ errors.length := by
      rw [List.filterMap_append, List.length_append] at h
      omega
    obtain ⟨lines, ⟨hlength, hlines⟩, heq⟩ := ih hearlier
    obtain ⟨written, hlast, hwritten⟩ := exists_writtenPaired h
    refine ⟨lines ++ [written], ⟨by simp [hlength], fun before e rest hsplit => ?_⟩, ?_⟩
    · rcases append_singleton_eq_append_cons_iff.mp hsplit with ⟨rest', -, hentries⟩ | ⟨rfl, rfl, -⟩
      · obtain ⟨old, hold, hpaired⟩ := hlines before e rest' hentries
        refine ⟨old, ?_, hpaired⟩
        rw [List.getElem?_append_left (List.getElem?_eq_some_iff.mp hold).1, hold]
      · exact ⟨written, by rw [← hlength, List.getElem?_concat_length], hlast⟩
    · rw [pairedLines_append heq, hwritten, List.flatten_append, List.flatten_singleton]
      rfl

/-- What is written follows from the values and their errors. -/
theorem WrittenPaired.unique {errors errors' : List Row} {before : List Entry} {e : Entry}
    {written written' : List Text} (h : WrittenPaired errors before e written)
    (h' : WrittenPaired errors' before e written')
    (herrors : ∀ r error error', e = .row r →
      errors[(before.filterMap Entry.row?).length]? = some error →
      errors'[(before.filterMap Entry.row?).length]? = some error' →
        ∀ j < r.values.length, error'.values.getD j missing = error.values.getD j missing) :
    written' = written := by
  cases h with
  | set => cases h'; rfl
  | group => cases h'; rfl
  | row herror htokens =>
    cases h' with
    | row herror' htokens' =>
      rw [htokens.unique htokens' (herrors _ _ _ rfl herror herror')]

/-! ## Finalization -/

/-- Error rows that are read in the same way: for each row of the table, the errors of its
values are the same. -/
def SameErrors (rows errors errors' : List Row) : Prop :=
  errors'.length = errors.length ∧
    ∀ (i : Nat) (r error error' : Row), rows[i]? = some r → errors[i]? = some error →
      errors'[i]? = some error' →
        ∀ j < r.values.length, error'.values.getD j missing = error.values.getD j missing

theorem AreWrittenPaired.unique {entries : List Entry} {errors errors' : List Row}
    {lines lines' : List (List Text)} (h : AreWrittenPaired errors entries lines)
    (h' : AreWrittenPaired errors' entries lines')
    (hsame : SameErrors (entries.filterMap Entry.row?) errors errors') : lines' = lines := by
  refine List.ext_getElem (h'.1.trans h.1.symm) fun i hi' hi => ?_
  have hlt : i < entries.length := h.1 ▸ hi
  have hsplit : entries = entries.take i ++ entries[i] :: entries.drop (i + 1) := by
    rw [← List.drop_eq_getElem_cons hlt, List.take_append_drop]
  have hlength : (entries.take i).length = i := List.length_take_of_le (Nat.le_of_lt hlt)
  obtain ⟨written, hwritten, hpaired⟩ := h.2 _ _ _ hsplit
  obtain ⟨written', hwritten', hpaired'⟩ := h'.2 _ _ _ hsplit
  rw [hlength, List.getElem?_eq_getElem hi, Option.some.injEq] at hwritten
  rw [hlength, List.getElem?_eq_getElem hi', Option.some.injEq] at hwritten'
  rw [hwritten, hwritten']
  refine hpaired.unique hpaired' fun r error error' hr herror herror' => ?_
  refine hsame.2 _ r error error' ?_ herror herror'
  -- the number of rows in front of a row is its number among the rows
  rw [hr] at hsplit
  have hrows : entries.filterMap Entry.row? = (entries.take i).filterMap Entry.row? ++
      r :: (entries.drop (i + 1)).filterMap Entry.row? := by
    conv_lhs => rw [hsplit, List.filterMap_append]
    rfl
  rw [hrows, List.getElem?_append_right (Nat.le_refl _), Nat.sub_self]
  rfl

/-- **Error bars.**  With errors and no entries of the multi mode there is a data block exactly when
there are as many error rows as rows of the table.  It holds the lines of each entry of the table in
order, every value with the error of the row that has the same number.  Nothing else of the error
rows counts: their labels, the errors behind the last value and the marks between them. -/
theorem finalize_of_errorBars_ne_nil {d : Dataset} (hmulti : d.multi = [])
    (herrors : d.errorBars ≠ []) (groupCount : Int) (column : Option Column) :
    (∀ fault, d.finalize groupCount column = .error fault ↔
      (d.rows .table).length ≠ (d.rows .errorBars).length ∧
        fault = .unpaired ⟨(d.rows .table).length, (d.rows .errorBars).length⟩) ∧
    ((d.rows .table).length = (d.rows .errorBars).length →
      ∃ lines, AreWrittenPaired (d.rows .errorBars) d.table lines ∧
        d.finalize groupCount column = .ok lines.flatten) ∧
    ∀ d' : Dataset, d'.multi = [] → d'.errorBars ≠ [] → d'.table = d.table →
      SameErrors (d.rows .table) (d.rows .errorBars) (d'.rows .errorBars) →
        d'.finalize groupCount column = d.finalize groupCount column := by
  have hlayout : d.layout = .paired := (layout_eq_paired_iff d).mpr ⟨hmulti, herrors⟩
  refine ⟨fun fault => ?_, fun hlength => ?_, fun d' hmulti' herrors' htable hsame => ?_⟩
  · rw [finalize_toNat, finalize_eq_error_iff, and_iff_right hlayout]
  · obtain ⟨lines, hlines, heq⟩ := pairedLines_writtenPaired (Nat.le_of_eq hlength)
    refine ⟨lines, hlines, ?_⟩
    rw [finalize_of_errorBars hmulti herrors, if_pos hlength]
    exact heq
  · have hrows : d'.rows .table = d.rows .table := congrArg (List.filterMap Entry.row?) htable
    rw [finalize_of_errorBars hmulti herrors, finalize_of_errorBars hmulti' herrors', hrows,
      hsame.1, htable]
    split
    · next hlength =>
      obtain ⟨lines, hlines, heq⟩ := pairedLines_writtenPaired (Nat.le_of_eq hlength)
      obtain ⟨lines', hlines', heq'⟩ :=
        pairedLines_writtenPaired (Nat.le_of_eq (hlength.trans hsame.1.symm))
      show pairedLines (d.bucket .table) _ = pairedLines (d.bucket .table) _
      rw [heq, heq', hlines.unique hlines' hsame]
    · rfl

/-- A row with fewer errors than values, one with more, and marks in both buckets: the label and the
surplus of an error row and the marks between the errors make no difference. -/
theorem finalize_of_errorBars_ne_nil_uneven :
    let d : Dataset :=
      { table := [.row ⟨"a", ["1", "2"]⟩, .set, .group, .row ⟨"b", ["3"]⟩],
        errorBars := [.set, .row ⟨"x", ["0.1"]⟩, .group, .row ⟨"y", ["0.3", "0.4"]⟩] }
    let plain : Dataset :=
      { d with errorBars := [.row ⟨"a", ["0.1"]⟩, .row ⟨"b", ["0.3"]⟩] }
    let lines : List Text := ["a 1 0.1 2 -", "", "", "b 3 0.3"]
    (d.multi = [] ∧ d.errorBars ≠ []) ∧ d.finalize 0 none = .ok lines ∧
      SameErrors (d.rows .table) (d.rows .errorBars) (plain.rows .errorBars) ∧
      plain.finalize 0 none = .ok lines ∧
      { d with errorBars := [Entry.set] }.finalize 0 none = .error (.unpaired ⟨2, 0⟩) := by
  intro d plain lines
  have hlines : d.finalize 0 none = .ok lines := by decide +kernel
  have hsame : SameErrors (d.rows .table) (d.rows .errorBars) (plain.rows .errorBars) := by
    refine ⟨by decide, fun i r error error' hr herror herror' => ?_⟩
    match i with
    | 0 => cases hr; cases herror; cases herror'; decide
    | 1 => cases hr; cases herror; cases herror'; decide
    | i + 2 => cases hr
  obtain ⟨-, -, hsameLines⟩ := finalize_of_errorBars_ne_nil (d := d) rfl (by decide) 0 none
  obtain ⟨hfault, -, -⟩ := finalize_of_errorBars_ne_nil
    (d := { d with errorBars := [Entry.set] }) rfl (by decide) 0 none
  exact ⟨⟨rfl, by decide⟩, hlines, hsame,
    (hsameLines plain rfl (by decide) rfl hsame).trans hlines,
    (hfault (.unpaired ⟨2, 0⟩)).mpr (by decide)⟩

end Dataset
end ChartScript
