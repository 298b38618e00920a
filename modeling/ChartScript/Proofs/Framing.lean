import ChartScript.Proofs.MarksAsData
import ChartScript.Proofs.Matrix
import ChartScript.Proofs.PlotAgreement

/-!
# Is the data block read as it was written?

The data of a script stands between a start line and an end line.  The plotting program takes the
lines behind the start line, up to the first that equals the end line, for the data, and what comes
after for commands.  Nothing in the data is quoted, so a line of data that equals the end line ends
the data early, and the rest of it is run as commands.  This file says exactly when that happens.

`Script.IsFramed` is stated from the text of the script, as the plotting program sees it: cut at
line feeds, with the start line behind the lines of the commands, then the data up to the first end
line, then the plot command.  Cutting at line feeds is what the reader does, so the entries of a
script do not count as lines by themselves, and a command that holds a line feed is several.
`Script.isFramed_iff` reduces all this to one condition for data lines without a line feed: none of
them equals the end line.

A data line is written from a row, and could equal the end line only as a label without values.
`Dataset.writtenRows` lists the rows that a data block is written from, in every layout.  They are
not the rows that were collected: a matrix makes its own, with a value for every group, and paired
rows get errors.  So what is known of the texts in collected rows is carried over by
`writtenRows_forall`, a statement for an arbitrary property of texts, used once for line feeds and
once for words; and `WrittenBare` says which collected rows end up without values.  In a matrix that
depends on the number of groups only, and elsewhere on the row.
-/

set_option autoImplicit false

namespace ChartScript

theorem mem_of_mem_intercalate {α : Type} {between : List α} {parts : List (List α)} {a : α}
    (h : a ∈ between.intercalate parts) : a ∈ between ∨ ∃ part ∈ parts, a ∈ part := by
  induction parts with
  | nil => exact absurd h (by simp)
  | cons part parts ih =>
    cases parts with
    | nil => exact Or.inr ⟨part, by simp, by simpa using h⟩
    | cons next parts =>
      rw [List.intercalate_cons_cons, List.append_assoc] at h
      rcases List.mem_append.mp h with hpart | hrest
      · exact Or.inr ⟨part, by simp, hpart⟩
      · rcases List.mem_append.mp hrest with hbetween | hlater
        · exact Or.inl hbetween
        · refine (ih hlater).imp_right ?_
          rintro ⟨other, hother, ha⟩
          exact ⟨other, List.mem_cons_of_mem part hother, ha⟩

/-! ## Reading a script -/

namespace Script

/-- The lines of a script as it is written. -/
def textLines (s : Script) : List Text := s.text.splitOn (CodePoint.char '\n')

/-- The lines in front of the start line. -/
def preamble (s : Script) : List Text :=
  (s.config ++ s.backend).flatMap (·.splitOn (CodePoint.char '\n'))

/-- The lines behind the start line. -/
def behindStart (s : Script) : List Text := s.textLines.drop (s.preamble.length + 1)

/-- The data as it is read. -/
def dataRead (s : Script) : List Text :=
  s.behindStart.takeWhile (· ≠ Text.ofString dataEnd)

/-- The commands that are read behind the data. -/
def commandsRead (s : Script) : Text :=
  Text.join "\n" ((s.behindStart.dropWhile (· ≠ Text.ofString dataEnd)).drop 1)

/-- A script that is read as it was written. -/
structure IsFramed (s : Script) : Prop where
  start : s.textLines[s.preamble.length]? = some (Text.ofString dataStart)
  data : s.dataRead = s.data
  plot : s.commandsRead = s.plot ++ Text.ofString "\n"

/-- Entries that are each ended by a line feed are the lines of the entries. -/
theorem splitOn_join_append {entries : List Text} (hne : entries ≠ []) :
    (Text.join "\n" entries ++ Text.ofString "\n").splitOn (CodePoint.char '\n') =
      entries.flatMap (·.splitOn (CodePoint.char '\n')) ++ [[]] := by
  induction entries with
  | nil => exact absurd rfl hne
  | cons entry entries ih =>
    cases entries with
    | nil =>
      rw [Text.join, List.intercalate_singleton, List.flatMap_singleton]
      exact List.splitOn_append_cons_self entry []
    | cons next entries =>
      have hjoin : Text.join "\n" (entry :: next :: entries) ++ Text.ofString "\n" =
          entry ++ CodePoint.char '\n' ::
            (Text.join "\n" (next :: entries) ++ Text.ofString "\n") := by
        rw [Text.join, List.intercalate_cons_cons, List.append_assoc, List.append_assoc]
        rfl
      rw [hjoin, List.splitOn_append_cons_self, ih (by simp), ← List.append_assoc,
        ← List.flatMap_cons]

theorem flatMap_splitOn_of_notMem {lines : List Text}
    (h : ∀ line ∈ lines, CodePoint.char '\n' ∉ line) :
    lines.flatMap (·.splitOn (CodePoint.char '\n')) = lines := by
  induction lines with
  | nil => rfl
  | cons line lines ih =>
    rw [List.flatMap_cons, List.splitOn_eq_singleton (h line (by simp)),
      ih fun l hl => h l (by simp [hl]), List.singleton_append]

section OneLineEach

variable {s : Script} (h : ∀ line ∈ s.data, CodePoint.char '\n' ∉ line)

include h

/-- The lines of a script whose data lines are one line each. -/
theorem textLines_eq :
    s.textLines = s.preamble ++ Text.ofString dataStart ::
      (s.data ++ Text.ofString dataEnd :: (s.plot.splitOn (CodePoint.char '\n') ++ [[]])) := by
  have hne : s.entries ≠ [] := by simp [entries]
  have hstart : (Text.ofString dataStart).splitOn (CodePoint.char '\n') =
      [Text.ofString dataStart] := List.splitOn_eq_singleton (by decide)
  have hend : (Text.ofString dataEnd).splitOn (CodePoint.char '\n') = [Text.ofString dataEnd] :=
    List.splitOn_eq_singleton (by decide)
  rw [textLines, text, splitOn_join_append hne, entries]
  simp only [List.flatMap_append, List.flatMap_cons, List.flatMap_nil, hstart, hend,
    flatMap_splitOn_of_notMem h, preamble, List.append_assoc, List.cons_append, List.nil_append]

theorem behindStart_eq :
    s.behindStart =
      s.data ++ Text.ofString dataEnd :: (s.plot.splitOn (CodePoint.char '\n') ++ [[]]) := by
  rw [behindStart, textLines_eq h, List.drop_append]
  simp

/-- **When a script is read as it was written.**  Exactly when no data line equals the end line. -/
theorem isFramed_iff : s.IsFramed ↔ Text.ofString dataEnd ∉ s.data := by
  constructor
  · intro hframed hmem
    rw [← hframed.data] at hmem
    have hread := List.all_eq_true.mp List.all_takeWhile _ hmem
    exact of_decide_eq_true hread rfl
  · intro hnot
    have hall : ∀ line ∈ s.data, decide (line ≠ Text.ofString dataEnd) = true := by
      intro line hline
      exact decide_eq_true fun heq => hnot (heq ▸ hline)
    refine ⟨?_, ?_, ?_⟩
    · rw [textLines_eq h, List.getElem?_append_right (Nat.le_refl _), Nat.sub_self,
        List.getElem?_cons_zero]
    · rw [dataRead, behindStart_eq h, List.takeWhile_append_of_pos hall,
        List.takeWhile_cons_of_neg (by simp), List.append_nil]
    · rw [commandsRead, behindStart_eq h, List.dropWhile_append_of_pos hall,
        List.dropWhile_cons_of_neg (by simp), List.drop_succ_cons, List.drop_zero]
      have hsplit : (s.plot ++ Text.ofString "\n").splitOn (CodePoint.char '\n') =
          s.plot.splitOn (CodePoint.char '\n') ++ [[]] := List.splitOn_append_cons_self s.plot []
      rw [← hsplit]
      exact List.intercalate_splitOn _

end OneLineEach

end Script

/-! ## The texts of a row -/

namespace Row

theorem notMem_render {c : CodePoint} (hc : c ≠ CodePoint.char ' ') {r : Row}
    (h : r.Forall (c ∉ ·)) : c ∉ r.render := by
  intro hmem
  rcases mem_of_mem_intercalate hmem with hspace | ⟨text, htext, hin⟩
  · exact hc (List.mem_singleton.mp hspace)
  · rcases List.mem_cons.mp htext with rfl | hvalue
    · exact h.1 hin
    · exact h.2 text hvalue hin

/-- A row is written as a text without a space only when it has no values. -/
theorem render_eq_iff {r : Row} {t : Text} (ht : CodePoint.char ' ' ∉ t) :
    r.render = t ↔ r = ⟨t, []⟩ := by
  obtain ⟨label, values⟩ := r
  cases values with
  | nil => simp [render, Text.join]
  | cons value values =>
    refine iff_of_false (fun heq => ht ?_) (by simp)
    rw [← heq, render, Text.join, List.intercalate_cons_cons]
    exact List.mem_append_left _ (List.mem_append_right _ (List.mem_singleton.mpr rfl))

end Row

/-! ## The rows of a data block -/

namespace Dataset

/-- The rows of the values, each paired with the row of its errors. -/
def pairedRows (rows errors : List Row) : List Row :=
  (rows.zip errors).map fun (r, error) => ⟨r.label, interleave r.values error.values⟩

/-- The rows that the lines of a data block are written from. -/
def writtenRows (d : Dataset) (groupCount : Nat) (column : Option Column) : List Row :=
  match d.layout with
  | .table => d.rows .table
  | .paired => pairedRows (d.rows .table) (d.rows .errorBars)
  | .matrix =>
    let parts := d.multi.splitOn .set
    (List.range parts.length).flatMap fun s =>
      matrixRows groupCount column (labelsThrough parts s) (parts.getD s [])

theorem nonEmptyLines_pairedLines {entries : List Entry} {errors : List Row} {lines : List Text}
    (h : pairedLines entries errors = .ok lines) :
    nonEmptyLines lines =
      nonEmptyLines ((pairedRows (entries.filterMap Entry.row?) errors).map Row.render) := by
  fun_induction pairedLines entries errors generalizing lines with
  | case1 =>
    obtain rfl := Except.ok.inj h
    rfl
  | case2 => exact absurd h (by simp)
  | case3 r entries error errors ih =>
    obtain ⟨rest, hrest, rfl⟩ := exists_of_map_eq_ok h
    have hcons := nonEmptyLines_append [(Row.mk r.label (interleave r.values error.values)).render]
    rw [← List.singleton_append, hcons, ih hrest, ← hcons]
    rfl
  | case4 entries errors ih =>
    obtain ⟨rest, hrest, rfl⟩ := exists_of_map_eq_ok h
    rw [nonEmptyLines_append, ih hrest]
    rfl
  | case5 entries errors ih => exact ih h

section Finalize

variable {d : Dataset} {groupCount : Nat} {column : Option Column} {data : List Text}
  (hdata : d.finalize groupCount column = .ok data)

include hdata

/-- The lines of a data block are its rows as they are written, in order, and empty lines. -/
theorem nonEmptyLines_finalize :
    nonEmptyLines data = nonEmptyLines ((d.writtenRows groupCount column).map Row.render) := by
  rw [finalize_eq_ok_iff, laidOut] at hdata
  obtain ⟨hlength, rfl⟩ := hdata
  rw [writtenRows]
  cases hl : d.layout with
  | table => exact filter_tableLines d.table
  | paired =>
    obtain ⟨lines, hlines⟩ := exists_pairedLines_eq_ok (Nat.le_of_eq (hlength hl))
    dsimp only
    rw [show pairedLines d.table _ = .ok lines from hlines]
    exact nonEmptyLines_pairedLines hlines
  | matrix =>
    have hseparator : separator.filter (fun line => !line.isEmpty) = [] := rfl
    simp only [multiLines_eq, List.map_flatMap, nonEmptyLines, List.filter_flatMap,
      List.filter_append, hseparator, List.append_nil]

theorem mem_finalize_iff {line : Text} (hne : line ≠ []) :
    line ∈ data ↔ line ∈ (d.writtenRows groupCount column).map Row.render := by
  have h : line ∈ nonEmptyLines data ↔
      line ∈ nonEmptyLines ((d.writtenRows groupCount column).map Row.render) := by
    rw [nonEmptyLines_finalize hdata]
  rwa [mem_nonEmptyLines_iff, mem_nonEmptyLines_iff, and_iff_left hne, and_iff_left hne] at h

end Finalize

/-! ## What the written rows are made of -/

theorem mem_rows_iff {d : Dataset} {m : Mode} {r : Row} :
    r ∈ d.rows m ↔ Entry.row r ∈ d.bucket m := mem_filterMap_row?_iff

/-- The sets together have the labels of all rows. -/
theorem exists_mem_labelsThrough_iff {entries : List Entry} {label : Text} :
    (∃ s < (entries.splitOn .set).length, label ∈ labelsThrough (entries.splitOn .set) s) ↔
      ∃ r, Entry.row r ∈ entries ∧ r.label = label := by
  constructor
  · rintro ⟨s, -, hlabel⟩
    obtain ⟨part, hpart, hin⟩ := List.mem_flatMap.mp (List.mem_eraseDups.mp hlabel)
    obtain ⟨r, hr, heq⟩ := mem_labelsOf_iff.mp hin
    exact ⟨r, (forall_mem_of_mem_splitOnP (List.mem_of_mem_take hpart) _ hr).2, heq⟩
  · rintro ⟨r, hr, heq⟩
    -- the last set has the labels of all sets before it, so it does not matter where the row is
    have hpos : 0 < (entries.splitOn .set).length :=
      List.length_pos_iff.mpr (List.splitOn_ne_nil _ _)
    refine ⟨(entries.splitOn .set).length - 1, by omega, ?_⟩
    rw [labelsThrough, Nat.sub_add_cancel hpos, List.take_length, List.mem_eraseDups,
      List.mem_flatMap]
    have hjoin : [Entry.set].intercalate (entries.splitOn .set) = entries :=
      List.intercalate_splitOn _
    rw [← hjoin] at hr
    rcases mem_of_mem_intercalate hr with hset | ⟨part, hpart, hin⟩
    · exact absurd hset (by simp)
    · exact ⟨part, hpart, mem_labelsOf_iff.mpr ⟨r, hin, heq⟩⟩

section Forall

variable {P : Text → Prop} (hmissing : P missing)

include hmissing

theorem interleave_forall {values errors : List Text} (hvalues : ∀ value ∈ values, P value)
    (herrors : ∀ error ∈ errors, P error) : ∀ text ∈ interleave values errors, P text := by
  induction values generalizing errors with
  | nil => simp [interleave]
  | cons value values ih =>
    have hhead : P (errors.headD missing) := by
      cases errors with
      | nil => exact hmissing
      | cons error errors => exact herrors error (by simp)
    have htail := ih (fun v hv => hvalues v (by simp [hv]))
      fun e he => herrors e (List.mem_of_mem_tail he)
    rw [interleave, List.forall_mem_cons, List.forall_mem_cons]
    exact ⟨hvalues value (by simp), hhead, htail⟩

theorem pairedRows_forall {rows errors : List Row} (hrows : ∀ r ∈ rows, r.Forall P)
    (herrors : ∀ r ∈ errors, r.Forall P) : ∀ r ∈ pairedRows rows errors, r.Forall P := by
  intro written hwritten
  obtain ⟨⟨r, error⟩, hpair, rfl⟩ := List.mem_map.mp hwritten
  obtain ⟨hlabel, hvalues⟩ := hrows r (List.of_mem_zip hpair).1
  exact ⟨hlabel, interleave_forall hmissing hvalues (herrors error (List.of_mem_zip hpair).2).2⟩

/-- Every text of a data block is one of the rows that were collected, or the missing value. -/
theorem writtenRows_forall {d : Dataset} (h : ∀ m, ∀ r ∈ d.rows m, r.Forall P) (groupCount : Nat)
    (column : Option Column) : ∀ r ∈ d.writtenRows groupCount column, r.Forall P := by
  rw [writtenRows]
  cases d.layout with
  | table => exact h .table
  | paired => exact pairedRows_forall hmissing (h .table) (h .errorBars)
  | matrix =>
    intro r hr
    obtain ⟨s, hs, hr⟩ := List.mem_flatMap.mp hr
    obtain ⟨label, hlabel, rfl⟩ := List.mem_map.mp hr
    constructor
    · obtain ⟨r, hmem, rfl⟩ :=
        exists_mem_labelsThrough_iff.mp ⟨s, List.mem_range.mp hs, hlabel⟩
      exact (h .multi r (mem_rows_iff.mpr hmem)).1
    · intro value hvalue
      obtain ⟨g, -, rfl⟩ := List.mem_map.mp hvalue
      refine cellIn_of_forall hmissing (fun r hr _ => ?_) column g
      exact (h .multi r (mem_rows_iff.mpr (mem_of_mem_getD_splitOn hr))).2

end Forall

/-! ## Rows without values -/

/-- Whether a row is written without values: in a matrix when there are no groups, elsewhere when
it has none. -/
def WrittenBare (d : Dataset) (groupCount : Nat) (r : Row) : Prop :=
  if d.layout = .matrix then groupCount = 0 else r.values = []

theorem bare_mem_pairedRows_iff {label : Text} {rows errors : List Row}
    (h : rows.length ≤ errors.length) :
    ⟨label, []⟩ ∈ pairedRows rows errors ↔ ⟨label, []⟩ ∈ rows := by
  induction rows generalizing errors with
  | nil => rfl
  | cons r rows ih =>
    obtain ⟨error, errors, rfl⟩ := List.exists_cons_of_length_pos (Nat.lt_of_lt_of_le (by simp) h)
    rw [pairedRows, List.zip_cons_cons, List.map_cons, List.mem_cons, List.mem_cons, ← pairedRows,
      ih (Nat.le_of_succ_le_succ h)]
    refine or_congr_left ?_
    obtain ⟨rlabel, values⟩ := r
    cases values <;> simp [interleave]

theorem bare_mem_matrixRows_iff {label : Text} (groupCount : Nat) (column : Option Column)
    (labels : List Text) (part : List Entry) :
    ⟨label, []⟩ ∈ matrixRows groupCount column labels part ↔ label ∈ labels ∧ groupCount = 0 := by
  cases groupCount <;> simp [matrixRows]

theorem exists_bare_iff {rows : List Row} {label : Text} :
    ⟨label, []⟩ ∈ rows ↔ ∃ r ∈ rows, r.label = label ∧ r.values = [] := by
  constructor
  · intro h
    exact ⟨_, h, rfl, rfl⟩
  · rintro ⟨⟨rlabel, values⟩, hr, rfl, rfl⟩
    exact hr

theorem bare_mem_writtenRows_iff {d : Dataset} {groupCount : Nat} {column : Option Column}
    {data : List Text} (hdata : d.finalize groupCount column = .ok data) {label : Text} :
    ⟨label, []⟩ ∈ d.writtenRows groupCount column ↔
      ∃ r ∈ d.rows d.layout.mode, r.label = label ∧ d.WrittenBare groupCount r := by
  have hlength := (finalize_eq_ok_iff.mp hdata).1
  simp only [writtenRows, WrittenBare]
  cases hl : d.layout with
  | table => exact exists_bare_iff
  | paired => exact (bare_mem_pairedRows_iff (Nat.le_of_eq (hlength hl))).trans exists_bare_iff
  | matrix =>
    simp only [List.mem_flatMap, List.mem_range, bare_mem_matrixRows_iff, if_true, ← and_assoc,
      exists_and_right]
    rw [exists_mem_labelsThrough_iff]
    exact and_congr_left fun _ => exists_congr fun r => and_congr_left fun _ =>
      (mem_rows_iff (m := .multi)).symm

end Dataset

/-! ## The data block of a text -/

/-- What no line holds is in no line of the data block, the space between values and the missing
value apart. -/
theorem notMem_of_mem_finalize {lines : List Text} {c : CodePoint}
    (hspace : c ≠ CodePoint.char ' ') (hmissing : c ∉ missing) (hlines : ∀ line ∈ lines, c ∉ line)
    {groupCount : Nat} {column : Option Column} {data : List Text}
    (hdata : (Description.ofLines lines).dataset.finalize groupCount column = .ok data) :
    ∀ line ∈ data, c ∉ line := by
  have hrows : ∀ m, ∀ r ∈ (Description.ofLines lines).dataset.rows m, r.Forall (c ∉ ·) := by
    intro m r hr
    obtain ⟨pre, line, post, rfl, hread, -⟩ :=
      Description.row_mem_bucket_ofLines.mp (Dataset.mem_rows_iff.mp hr)
    obtain ⟨hlabel, hvalues⟩ := Line.subset_of_read_eq_row hread
    have hline : c ∉ line := hlines line (by simp)
    exact ⟨fun hc => hline (hlabel hc), fun value hvalue hc => hline (hvalues value hvalue hc)⟩
  intro line hline
  by_cases hne : line = []
  · simp [hne]
  · rw [Dataset.mem_finalize_iff hdata hne] at hline
    obtain ⟨r, hr, rfl⟩ := List.mem_map.mp hline
    have hr := Dataset.writtenRows_forall hmissing hrows groupCount column r hr
    exact Row.notMem_render hspace hr

/-- **When the data of a text is read as it was written.**  No data line has a line feed, so the
data is read as it was written exactly when no data line equals the end line.  One does when a row
has it for its label and is written without values. -/
theorem data_framed_iff {text : Text} {options : CompileOptions} {compiled : Compiled}
    (hextra : options.extra = []) (h : compileText text options = .ok compiled) :
    let d := Description.ofLines text.splitLines
    (∃ style : Style, compiled.script.plot = (d.chart style).plotCommand ∧
      d.dataset.finalize d.resolvedGrouping.groupCount style.column = .ok compiled.script.data) ∧
    (∀ line ∈ compiled.script.data, CodePoint.char '\n' ∉ line) ∧
    (compiled.script.IsFramed ↔ Text.ofString Script.dataEnd ∉ compiled.script.data) ∧
    (Text.ofString Script.dataEnd ∈ compiled.script.data ↔
      ∃ r ∈ d.dataset.rows d.dataset.layout.mode, r.label = Text.ofString Script.dataEnd ∧
        d.dataset.WrittenBare d.resolvedGrouping.groupCount r) := by
  intro d
  obtain ⟨script, hscript, rfl⟩ := compile_eq_ok_iff.mp h
  rw [hextra, List.append_nil] at hscript
  obtain ⟨initial, final, data, -, -, hdata, rfl⟩ := Description.script_eq_ok_iff.mp hscript
  have hbreak : ∀ line ∈ text.splitLines, CodePoint.char '\n' ∉ line := by
    intro line hline hc
    exact absurd (Text.isLineBreak_of_mem_linesFrom (by simp) line hline _ hc) (by decide)
  have hnewline : ∀ line ∈ data, CodePoint.char '\n' ∉ line :=
    notMem_of_mem_finalize (by decide) (by decide) hbreak hdata
  refine ⟨⟨final, rfl, hdata⟩, hnewline, Script.isFramed_iff hnewline, ?_⟩
  show _ ∈ data ↔ _
  rw [Dataset.mem_finalize_iff hdata (by decide), List.mem_map]
  simp only [Row.render_eq_iff (t := Text.ofString Script.dataEnd) (by decide), exists_eq_right]
  exact Dataset.bare_mem_writtenRows_iff hdata

/-- A row of a table that has the end line for its label and no value: the data ends there for the
reader, and the row behind it is taken for a command. -/
theorem data_cut_at_bare_label :
    let text : Text := "=table\na 1\nEOD\nb 2\n"
    ∃ compiled, compileText text {} = .ok compiled ∧
      compiled.script.data = [Text.ofString "a 1", Text.ofString "EOD", Text.ofString "b 2"] ∧
      compiled.script.dataRead = [Text.ofString "a 1"] ∧ ¬compiled.script.IsFramed := by
  intro text
  obtain ⟨compiled, hcompiled⟩ : ∃ compiled, compileText text {} = .ok compiled :=
    exists_eq_ok_of_isOk (by decide)
  have hdata : compiled.script.data =
      [Text.ofString "a 1", Text.ofString "EOD", Text.ofString "b 2"] := by
    have hmap : (compileText text {}).map (·.script.data) =
        .ok [Text.ofString "a 1", Text.ofString "EOD", Text.ofString "b 2"] := by decide
    rw [hcompiled] at hmap
    exact Except.ok.inj hmap
  obtain ⟨-, hnewline, hframed, hmem⟩ := data_framed_iff rfl hcompiled
  have hread : compiled.script.dataRead = [Text.ofString "a 1"] := by
    rw [Script.dataRead, Script.behindStart_eq hnewline, hdata]
    rfl
  refine ⟨compiled, hcompiled, hdata, hread, fun h => hframed.mp h ?_⟩
  exact hmem.mpr ⟨⟨Text.ofString "EOD", []⟩, by decide, rfl, rfl⟩

end ChartScript
