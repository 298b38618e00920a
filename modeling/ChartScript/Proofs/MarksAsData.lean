import ChartScript.Proofs.DataBlock
import ChartScript.Proofs.DatasetRun

/-!
# Do only rows count as data?

The layout of a data block depends on whether the buckets of the multi mode and of the error bars
hold anything.  What they hold is rows, but also the marks of sets that were started while their
mode was active.  So a mark without any row is taken for data: a chart of which all rows are rows of
a table can lose them, because somebody started a set in another mode.

This file says exactly when.  The conditions are on the steps that were taken, by `StartsLaterSet`,
and not on buckets, for it is the order of steps that an author controls.  The first set leaves no
mark and so does no harm in any mode, which is why the condition is about later sets.

What happens then differs by mode, and both cases are stated as outcomes and not as the absence of
the good one.  In the multi mode the layout becomes a matrix with no labels, and all rows vanish
without a report.  Among the error bars every row lacks its errors, and there is a report about it,
as long as there is a row.

`nonEmptyLines` is there to compare lines with rows.  Separators of sets are empty lines, and where
they stand is the subject of `Proofs.DataBlock`; with them filtered out, a table is the lines of its
rows.
-/

set_option autoImplicit false

namespace ChartScript
namespace Dataset

/-- The lines that are not empty. -/
def nonEmptyLines (lines : List Text) : List Text := lines.filter fun line => !line.isEmpty

theorem nonEmptyLines_eq_nil {lines : List Text} (h : ∀ line ∈ lines, line = []) :
    nonEmptyLines lines = [] := by
  refine List.filter_eq_nil_iff.mpr fun line hline => ?_
  simp [h line hline]

theorem nonEmptyLines_append (lines more : List Text) :
    nonEmptyLines (lines ++ more) = nonEmptyLines lines ++ nonEmptyLines more :=
  List.filter_append lines more

theorem mem_nonEmptyLines_iff {lines : List Text} {line : Text} :
    line ∈ nonEmptyLines lines ↔ line ∈ lines ∧ line ≠ [] := by
  rw [nonEmptyLines, List.mem_filter]
  simp

/-! ## Layouts without rows -/

/-- The rows of a table, in order, are the lines of its data block that are not empty. -/
theorem filter_tableLines (entries : List Entry) :
    nonEmptyLines (entries.flatMap tableLines) =
      nonEmptyLines ((entries.filterMap Entry.row?).map Row.render) := by
  induction entries with
  | nil => rfl
  | cons e entries ih =>
    rw [List.flatMap_cons, nonEmptyLines_append, ih]
    cases e with
    | row r => exact (nonEmptyLines_append [r.render] _).symm
    | set => rfl
    | group => rfl

/-- Entries without rows make a matrix without rows. -/
theorem eq_nil_of_mem_multiLines {groupCount : Nat} {column : Option Column} {entries : List Entry}
    (h : entries.filterMap Entry.row? = []) (cells : List Cell) (group : Nat) {line : Text}
    (hline : line ∈ multiLines groupCount column ⟨[], cells, group⟩ entries) : line = [] := by
  induction entries generalizing cells group with
  | nil => exact eq_nil_of_mem_separator hline
  | cons e entries ih =>
    cases e with
    | row r => exact absurd h (by simp [Entry.row?])
    | group => exact ih h cells (group + 1) hline
    | set =>
      rw [multiLines, List.mem_append] at hline
      rcases hline with hseparator | hrest
      · exact eq_nil_of_mem_separator hseparator
      · exact ih h [] 0 hrest

/-! ## The data block of each layout -/

section Layout

variable {d : Dataset} (groupCount : Int) (column : Option Column)

theorem finalize_of_layout_eq_table (h : d.layout = .table) :
    ∃ lines, d.finalize groupCount column = .ok lines ∧
      nonEmptyLines lines = nonEmptyLines ((d.rows .table).map Row.render) := by
  refine ⟨_, ?_, filter_tableLines d.table⟩
  rw [finalize_toNat, finalize_eq_ok_iff, laidOut, h]
  exact ⟨fun hpaired => absurd hpaired (by simp), rfl⟩

/-- A matrix of marks alone has no rows. -/
theorem finalize_of_layout_eq_matrix (h : d.layout = .matrix) (hrows : d.rows .multi = []) :
    ∃ lines, d.finalize groupCount column = .ok lines ∧ nonEmptyLines lines = [] := by
  refine ⟨multiLines groupCount.toNat column {} d.multi, ?_, ?_⟩
  · rw [finalize_toNat, finalize_eq_ok_iff, laidOut, h]
    exact ⟨fun hpaired => absurd hpaired (by simp), rfl⟩
  · exact nonEmptyLines_eq_nil fun line hline => eq_nil_of_mem_multiLines hrows [] 0 hline

/-- Rows cannot be paired with errors when there are only marks among the errors. -/
theorem finalize_of_layout_eq_paired (h : d.layout = .paired) (hrows : d.rows .table ≠ [])
    (herrors : d.rows .errorBars = []) :
    d.finalize groupCount column = .error (.unpaired ⟨(d.rows .table).length, 0⟩) := by
  rw [finalize_toNat, finalize_eq_error_iff, herrors]
  exact ⟨⟨h, by simpa using hrows⟩, rfl⟩

end Layout

/-! ## Layouts after steps -/

section Run

variable (initial : Mode) (steps : List Step)

theorem hasErrorBars_run_iff :
    (run initial steps).hasErrorBars = true ↔ MakesBucket initial steps .errorBars := by
  rw [← bucket_run_ne_nil_iff, hasErrorBars]
  simp [bucket]

theorem layout_run_eq_matrix_iff :
    (run initial steps).layout = .matrix ↔ MakesBucket initial steps .multi := by
  rw [layout_eq_matrix_iff, ← bucket_run_ne_nil_iff]
  rfl

theorem layout_run_eq_paired_iff :
    (run initial steps).layout = .paired ↔
      ¬MakesBucket initial steps .multi ∧ MakesBucket initial steps .errorBars := by
  rw [layout_eq_paired_iff, ← bucket_run_ne_nil_iff, ← bucket_run_ne_nil_iff, not_not]
  rfl

theorem layout_run_eq_table_iff :
    (run initial steps).layout = .table ↔
      ¬MakesBucket initial steps .multi ∧ ¬MakesBucket initial steps .errorBars := by
  rw [layout_eq_table_iff, ← bucket_run_ne_nil_iff, ← bucket_run_ne_nil_iff, not_not, not_not]
  rfl

/-- **Rows and marks as data.**  There are error bars when a row was added among them, but also when
a set that is not the first was started there, and the layout is a matrix when either was done in
the multi mode.  Now let all rows be rows of a table.  If no later set was started in another mode,
the lines of the data block that are not empty are the rows, in order.  If one was started in the
multi mode, no row is left.  If one was started among the error bars and none in the multi mode,
there is no data block, as long as there is a row. -/
theorem finalize_run_conditions (groupCount : Int) (column : Option Column) :
    let d := run initial steps
    let later := StartsLaterSet initial steps
    (d.hasErrorBars = true ↔ linesIn initial steps .errorBars ≠ [] ∨ later .errorBars) ∧
    (d.layout = .matrix ↔ linesIn initial steps .multi ≠ [] ∨ later .multi) ∧
    (linesIn initial steps .multi = [] → linesIn initial steps .errorBars = [] →
      (¬later .multi → ¬later .errorBars → ∃ lines, d.finalize groupCount column = .ok lines ∧
        nonEmptyLines lines =
          nonEmptyLines ((linesIn initial steps .table).map fun line => (Row.read line).render)) ∧
      (later .multi → ∃ lines, d.finalize groupCount column = .ok lines ∧
        nonEmptyLines lines = []) ∧
      (¬later .multi → later .errorBars → linesIn initial steps .table ≠ [] →
        d.finalize groupCount column =
          .error (.unpaired ⟨(linesIn initial steps .table).length, 0⟩))) := by
  intro d later
  refine ⟨hasErrorBars_run_iff initial steps, layout_run_eq_matrix_iff initial steps,
    fun hmulti herrors => ?_⟩
  have hmarks : ∀ m, linesIn initial steps m = [] →
      (MakesBucket initial steps m ↔ later m) := fun m hm => or_iff_right (not_not.mpr hm)
  have hrows : ∀ m, d.rows m = (linesIn initial steps m).map Row.read := rows_run initial steps
  refine ⟨fun hlater hlater' => ?_, fun hlater => ?_, fun hlater hlater' htable => ?_⟩
  · have hlayout : d.layout = .table := by
      rw [layout_run_eq_table_iff, hmarks _ hmulti, hmarks _ herrors]
      exact ⟨hlater, hlater'⟩
    have hblock := finalize_of_layout_eq_table groupCount column hlayout
    rwa [hrows, List.map_map] at hblock
  · have hlayout : d.layout = .matrix := by
      rw [layout_run_eq_matrix_iff, hmarks _ hmulti]
      exact hlater
    exact finalize_of_layout_eq_matrix groupCount column hlayout (by rw [hrows, hmulti]; rfl)
  · have hlayout : d.layout = .paired := by
      rw [layout_run_eq_paired_iff, hmarks _ hmulti, hmarks _ herrors]
      exact ⟨hlater, hlater'⟩
    have hblock := finalize_of_layout_eq_paired groupCount column hlayout
      (by simpa [hrows] using htable) (by rw [hrows, herrors]; rfl)
    rwa [hrows, List.length_map] at hblock

end Run

/-- Two sets that are started before the table: the row of the table is in no line of the data
block.  Two sets that are started behind the table, among the error bars: errors are missed though
none were given. -/
theorem rows_lost_to_marks :
    let before : List Step := [.set "A", .set "B", .mode .table, .row "a 1"]
    let behind : List Step := [.mode .table, .row "a 1", .mode .errorBars, .set "A", .set "B"]
    (linesIn .multi before .multi = [] ∧ linesIn .multi before .errorBars = [] ∧
      linesIn .multi before .table = [Text.ofString "a 1"] ∧ (run .multi before).layout = .matrix ∧
      ∃ lines, (run .multi before).finalize 1 none = .ok lines ∧ nonEmptyLines lines = []) ∧
    (linesIn .multi behind .multi = [] ∧ linesIn .multi behind .errorBars = [] ∧
      (run .multi behind).hasErrorBars = true ∧
      (run .multi behind).finalize 1 none = .error (.unpaired ⟨1, 0⟩)) := by
  intro before behind
  obtain ⟨-, hmatrix, hbefore⟩ := finalize_run_conditions .multi before 1 none
  obtain ⟨herror, -, hbehind⟩ := finalize_run_conditions .multi behind 1 none
  refine ⟨⟨by decide, by decide, by decide, hmatrix.mpr (by decide), ?_⟩,
    ⟨by decide, by decide, herror.mpr (by decide), ?_⟩⟩
  · exact (hbefore (by decide) (by decide)).2.1 (by decide)
  · exact (hbehind (by decide) (by decide)).2.2 (by decide) (by decide) (by decide)

end Dataset
end ChartScript
