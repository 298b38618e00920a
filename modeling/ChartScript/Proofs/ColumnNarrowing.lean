import ChartScript.Proofs.DatasetRun
import ChartScript.Proofs.RowRoundTrip

/-!
# Selecting a column early or late

The value of a row that is charted is selected when the data is laid out, by `Dataset.chartedValue`.
It can as well be selected when the row is read, by `Column.narrow`, which leaves the label and the
selected value of a row.  The two agree on a row by definition.  What is not obvious is that they
agree on *lines*, for the narrowed row has to be written and read again, and writing a row can
change what it is read as.

Writing is harmless for labels that are words.  It is not for labels that start with a quote: the
end of such a label is found by looking for the next quote, and a narrowed row has fewer values in
which to find it.  Hence `Row.read_render_narrow` goes through the forms of labels in
`Row.IsReadable`, and uses that values are only taken away and that the missing value, which may
come in, holds no quote.

The other half is about steps.  `Dataset.step_narrow` says that one narrowed step does to the
narrowed data what the step does to the data; by induction a run of narrowed steps leaves the
narrowed data, and the matrix of narrowed rows without a selector is the matrix of the rows with it.
The invariant that carries the induction is `OnlyMulti`: nothing but the multi mode was used.  It
cannot be dropped, because a selector has no effect on the rows of a table, whereas narrowing them
does.
-/

set_option autoImplicit false

namespace ChartScript

/-! ## Narrowed rows -/

namespace Column

@[simp]
theorem label_narrow (column : Option Column) (r : Row) : (narrow column r).label = r.label := by
  cases column <;> rfl

/-- What holds of the missing value and of all values of a row holds of those left in it. -/
theorem forall_mem_values_narrow {P : Text → Prop} (hmissing : P missing) {r : Row}
    (hvalues : ∀ value ∈ r.values, P value) (column : Option Column) :
    ∀ value ∈ (narrow column r).values, P value := by
  cases column with
  | none => exact hvalues
  | some column =>
    have hselected : P (column.select r.values) :=
      Dataset.chartedValue_of_forall hmissing hvalues (some column)
    simpa [narrow] using hselected

end Column

namespace Row

theorem IsLabel.isBlank_head? {label : Text} (h : IsLabel label) :
    ∀ c ∈ label.head?, Text.isBlank c = false := by
  intro c hc
  cases h with
  | plain hlabel => exact hlabel.isWord.not_blank c (List.mem_of_mem_head? hc)
  | quoted =>
    obtain rfl : CodePoint.char '"' = c := Option.some.inj hc
    decide
  | doubled hword => exact hword.not_blank c (List.mem_of_mem_head? hc)
  | unclosed hword => exact hword.not_blank c (List.mem_of_mem_head? hc)

theorem head?_render {r : Row} (h : r.label ≠ []) : r.render.head? = r.label.head? := by
  obtain ⟨c, rest, hc⟩ := List.exists_cons_of_ne_nil h
  rw [show r.render = r.label ++ (mk [] r.values).render from render_eq_append _ _, hc]
  rfl

/-- A row that a line can be read as is read back from its line. -/
theorem IsReadable.read_render {r : Row} (h : r.IsReadable) : read r.render = r := by
  have hstrip : r.render.strip = r.render := by
    refine Text.strip_of_ends ?_ h.isBlank_getLast?_render
    rw [head?_render h.isLabel.ne_nil]
    exact h.isLabel.isBlank_head?
  obtain ⟨-, -, hread⟩ := Line.ofStripped_eq_row_iff.mp (Line.read_render_of_isReadable h)
  rw [hstrip] at hread
  exact hread.symm

/-- So is a row of words without a quote at the front of the label, which may be the start of a
line of any kind. -/
theorem read_render_of_head?_ne {r : Row} (hlabel : r.label.IsWord)
    (hhead : r.label.head? ≠ some (CodePoint.char '"'))
    (hvalues : ∀ value ∈ r.values, value.IsWord) : read r.render = r := by
  have hwords : r.render.words = r.label :: r.values :=
    Text.words_join (List.forall_mem_cons.mpr ⟨hlabel, hvalues⟩)
  rw [← head?_render hlabel.ne_nil] at hhead
  rw [read_of_head?_ne hhead, hwords]
  rfl

/-- A narrowed row is read back from its line. -/
theorem read_render_narrow {line : Text} (hne : line ≠ []) (hstrip : line.strip = line)
    (hline : CodePoint.char '\n' ∉ line) (column : Option Column) :
    read (Column.narrow column (read line)).render = Column.narrow column (read line) := by
  obtain ⟨c, rest, rfl⟩ := List.exists_cons_of_ne_nil hne
  by_cases hc : c = CodePoint.char '"'
  · subst hc
    have hreadable := isReadable_read_quote fun h => hline (List.mem_cons_of_mem _ h)
    refine IsReadable.read_render ⟨?_, ?_⟩
    · rw [Column.label_narrow]
      exact hreadable.isLabel
    · rw [Column.label_narrow]
      exact Column.forall_mem_values_narrow (suits_missing _) hreadable.suits column
  · -- the label is the first word, and that starts as the line does
    have hquote : (c :: rest).head? ≠ some (CodePoint.char '"') := fun h => hc (Option.some.inj h)
    obtain ⟨word, more, hparts, hword, -, hwords⟩ :=
      Text.exists_eq_word_append (Text.isBlank_of_strip_eq_cons hstrip) rest
    obtain ⟨x, word, rfl⟩ := List.exists_cons_of_ne_nil hword.ne_nil
    have hlabel : (read (c :: rest)).label = x :: word := by
      rw [read_of_head?_ne hquote, hwords]
      rfl
    refine read_render_of_head?_ne ?_ ?_ ?_
    · rw [Column.label_narrow, hlabel]
      exact hword
    · rw [Column.label_narrow, hlabel, ← (List.cons.inj hparts).1]
      exact hquote
    · exact Column.forall_mem_values_narrow Text.isWord_missing
        (fun _ => isWord_of_mem_values_read) column

end Row

namespace Dataset

/-! ## The matrix -/

/-- An entry with its row narrowed. -/
def narrowEntry (column : Option Column) : Entry → Entry
  | .row r => .row (Column.narrow column r)
  | e => e

theorem chartedValue_narrow (column : Option Column) (r : Row) :
    chartedValue none (Column.narrow column r) = chartedValue column r := by
  cases column <;> rfl

/-- The loop makes the same progress with rows and a selector as with narrowed rows and none. -/
theorem multiLines_map_narrow (groupCount : Nat) (column : Option Column) (entries : List Entry)
    (p : Progress) :
    multiLines groupCount none p (entries.map (narrowEntry column)) =
      multiLines groupCount column p entries := by
  induction entries generalizing p with
  | nil => rfl
  | cons e entries ih =>
    cases e with
    | row r =>
      rw [List.map_cons, narrowEntry, multiLines, multiLines, chartedValue_narrow,
        Column.label_narrow, ih]
    | group => exact ih _
    | set =>
      rw [List.map_cons, multiLines, ← ih]
      rfl

/-! ## Steps in the multi mode -/

namespace Step

/-- The steps in the multi mode.  A line has something on it, no blanks around that, and stays on
one line. -/
def IsMulti : Step → Prop
  | .mode m => m = .multi
  | .row line => line ≠ [] ∧ line.strip = line ∧ CodePoint.char '\n' ∉ line
  | .set _ => True

instance : (s : Step) → Decidable s.IsMulti
  | .mode m => inferInstanceAs (Decidable (m = .multi))
  | .row line => inferInstanceAs (Decidable (line ≠ [] ∧ line.strip = line ∧ _))
  | .set _ => inferInstanceAs (Decidable True)

/-- The step with the line of the narrowed row in the place of its line. -/
def narrow (column : Option Column) : Step → Step
  | .row line => .row (Column.narrow column (Row.read line)).render
  | s => s

end Step

/-- A dataset that nothing but the multi mode was used in. -/
structure OnlyMulti (d : Dataset) : Prop where
  mode : d.mode = .multi
  table : d.table = []
  errorBars : d.errorBars = []

/-- A dataset with the rows of the multi mode narrowed. -/
def narrowed (column : Option Column) (d : Dataset) : Dataset :=
  { d with multi := d.multi.map (narrowEntry column) }

theorem OnlyMulti.step {d : Dataset} (h : d.OnlyMulti) {s : Step} (hs : s.IsMulti) :
    (d.step s).OnlyMulti := by
  have hmode : (d.step s).mode = .multi := by
    rw [mode_step, h.mode]
    cases s with
    | mode m => exact hs
    | row | set => rfl
  have hadded : ∀ m ≠ Mode.multi, d.added s.toLine m = [] := by
    intro m hm
    cases s with
    | mode m' => exact if_neg fun hmulti => hm hmulti.2.1
    | row line => exact if_neg fun hactive : d.mode = m => hm (hactive.symm.trans h.mode)
    | set title =>
      exact if_neg fun hactive : d.setTitles ≠ [] ∧ d.mode = m => hm (hactive.2.symm.trans h.mode)
  have hbucket : ∀ m ≠ Mode.multi, (d.step s).bucket m = d.bucket m := by
    intro m hm
    rw [bucket_step, hadded m hm, List.append_nil]
  exact ⟨hmode, (hbucket .table (by decide)).trans h.table,
    (hbucket .errorBars (by decide)).trans h.errorBars⟩

/-- A narrowed step does to the narrowed data what the step does to the data. -/
theorem step_narrow (column : Option Column) {d : Dataset} (h : d.mode = .multi) {s : Step}
    (hs : s.IsMulti) : (d.narrowed column).step (s.narrow column) = (d.step s).narrowed column := by
  cases s with
  | mode m =>
    by_cases hne : d.multi = [] <;> simp [Step.narrow, step, switchMode, narrowed, hne, push,
      narrowEntry, apply_ite]
  | row line =>
    obtain ⟨hne, hstrip, hline⟩ := hs
    have hread := Row.read_render_narrow hne hstrip hline column
    simp [Step.narrow, step, addRow, narrowed, h, push, narrowEntry, hread]
  | set title =>
    by_cases hne : d.setTitles = [] <;> simp [Step.narrow, step, beginSet, narrowed, hne, push,
      narrowEntry, h]

/-- What steps in the multi mode lead to, with narrowed lines and without. -/
theorem run_narrow (column : Option Column) {steps : List Step} (h : ∀ s ∈ steps, s.IsMulti) :
    (run .multi steps).OnlyMulti ∧
      run .multi (steps.map (Step.narrow column)) = (run .multi steps).narrowed column := by
  induction steps using List.reverseRecOn with
  | nil => exact ⟨⟨rfl, rfl, rfl⟩, rfl⟩
  | append_singleton steps s ih =>
    obtain ⟨honly, hrun⟩ := ih fun t ht => h t (List.mem_append_left _ ht)
    have hs : s.IsMulti := h s (by simp)
    rw [List.map_append, List.map_singleton, run_append_singleton, run_append_singleton, hrun]
    exact ⟨honly.step hs, step_narrow column honly.mode hs⟩

/-! ## The data block -/

/-- Data of the multi mode alone always has lines. -/
theorem OnlyMulti.finalize_eq {d : Dataset} (h : d.OnlyMulti) (groupCount : Int)
    (column : Option Column) :
    d.finalize groupCount column =
      .ok (if d.multi ≠ [] then multiLines groupCount.toNat column {} d.multi else []) := by
  by_cases hmulti : d.multi = []
  · rw [finalize_of_table hmulti h.errorBars, h.table, if_neg (by simp [hmulti])]
    rfl
  · rw [finalize_of_multi hmulti, if_pos hmulti]

/-- **Selecting a column commutes with the layout.**  Take any steps in the multi mode, and in the
place of each line the line of its row with the selected value alone.  Laid out without a selector
this gives the data block that the steps themselves give with the selector. -/
theorem finalize_run_narrow (column : Option Column) {steps : List Step}
    (h : ∀ s ∈ steps, s.IsMulti) (groupCount : Int) :
    ∃ lines, (run .multi steps).finalize groupCount column = .ok lines ∧
      (run .multi (steps.map (Step.narrow column))).finalize groupCount none = .ok lines := by
  obtain ⟨honly, hrun⟩ := run_narrow column h
  have honly' : ((run .multi steps).narrowed column).OnlyMulti :=
    ⟨honly.mode, honly.table, honly.errorBars⟩
  refine ⟨_, honly.finalize_eq groupCount column, ?_⟩
  rw [hrun, honly'.finalize_eq]
  simp only [narrowed, multiLines_map_narrow, ne_eq, List.map_eq_nil_iff]

/-- Labels that are quoted, not closed, empty quotes and the start of a comment, a row without
values, two groups and two sets. -/
theorem finalize_run_narrow_quotes :
    let column : Column := ⟨"3", some 3⟩
    let steps : List Step := [.row "\"a  b\"c  1", .row "\"open x 2", .mode .multi,
      .row "\"\" y\" 3", .set "S", .row "#d", .set "T", .row "\"a  b\" 4 5 6"]
    let narrow : List Step := [.row "\"a  b\" 1", .row "\"open 2", .mode .multi, .row "\"\" 3",
      .set "S", .row "#d -", .set "T", .row "\"a  b\" 5"]
    let lines : List Text := ["\"a  b\" 1 -", "\"open 2 -", "\"\" - 3", "#d - -", "", "",
      "\"a  b\" 5 -", "\"open - -", "\"\" - -", "#d - -", "", ""]
    (run .multi steps).finalize 2 (some column) = .ok lines ∧
      (run .multi narrow).finalize 2 none = .ok lines := by
  intro column steps narrow lines
  have hsteps : steps.map (Step.narrow (some column)) = narrow := by decide +kernel
  have hlines : (run .multi steps).finalize 2 (some column) = .ok lines := by decide +kernel
  have hmulti : ∀ s ∈ steps, s.IsMulti := by decide +kernel
  obtain ⟨lines', hwith, hwithout⟩ := finalize_run_narrow (some column) hmulti 2
  rw [hsteps] at hwithout
  rw [Except.ok.inj (hlines.symm.trans hwith)]
  exact ⟨hwith, hwithout⟩

end Dataset
end ChartScript
