import ChartScript.Proofs.Compilation
import ChartScript.Proofs.GroupedRows
import Mathlib.Data.List.FinRange

/-!
# One table of values, written in two ways

A table with a value for every label and group can be written row by row in the table mode or group
by group in the multi mode, and it should not matter which.  But the two go through different code:
the table mode passes its rows through, and the multi mode has to find them again.

`ValueTable` is the common object, and both texts are functions of it (`rowLines` and
`columnLines`).  It is indexed by its numbers of rows and groups, with values given by a function on
indices, so that a table is rectangular by its type and no hypothesis about lengths is needed.
Labels are injective, as in the multi mode two rows with one label are one row; the table mode would
not mind.

The multi mode finds the rows again for two reasons, and these are the lemmas.  `labelsOf_columns`
says that it sees the labels in the order of the rows: each group names all of them, and the first
group alone decides.  `cellIn_columns` says that it finds the value of a label in the group where it
was written.

`compile_columnLines` compares whole scripts, and states the one difference that is there: in the
multi mode two empty lines end a set, also the last one.  Everything else of the scripts is equal,
field by field, by one equation between them.
-/

set_option autoImplicit false

namespace ChartScript

/-- A table with a value for every label and group. -/
structure ValueTable (rowCount groupCount : Nat) where
  label : Fin rowCount → Text
  value : Fin rowCount → Fin groupCount → Text
  label_isPlain : ∀ i, Line.IsPlainLabel (label i)
  label_injective : Function.Injective label
  value_isWord : ∀ i g, (value i g).IsWord

namespace ValueTable

variable {rowCount groupCount : Nat} (t : ValueTable rowCount groupCount)

/-- The labels, in order. -/
def labels : List Text := List.ofFn t.label

/-- The rows: a label with its values in all groups. -/
def rows : List Row := List.ofFn fun i => ⟨t.label i, List.ofFn (t.value i)⟩

/-- The rows of a group: the labels with their values in the group. -/
def groupRows (g : Fin groupCount) : List Row := List.ofFn fun i => ⟨t.label i, [t.value i g]⟩

/-- The table row by row. -/
def rowLines : List Text := "=table" :: t.rows.map Row.render

/-- The table group by group. -/
def columnLines : List Text :=
  List.intercalate ["=multi"] <|
    List.ofFn fun g => List.ofFn fun i => Line.rowLine (t.label i) (t.value i g)

/-! ## What the lines say -/

theorem map_read_rowLines (hgroups : 0 < groupCount) :
    t.rowLines.map Line.read = .mode .table :: t.rows.map Line.row := by
  have hmode : Line.read "=table" = .mode .table := by decide
  rw [rowLines, List.map_cons, hmode, List.map_map]
  refine congrArg (Line.mode .table :: ·) (List.map_congr_left fun r hr => ?_)
  obtain ⟨i, rfl⟩ := List.mem_ofFn.mp hr
  refine Line.read_render (t.label_isPlain i) ?_ fun value hvalue => ?_
  · rw [← List.length_pos_iff, List.length_ofFn]
    exact hgroups
  · obtain ⟨g, rfl⟩ := List.mem_ofFn.mp hvalue
    exact t.value_isWord i g

theorem map_read_columnLines :
    t.columnLines.map Line.read = Dataset.groupLines (List.ofFn t.groupRows) := by
  have hmark : Line.read "=multi" = .mode .multi := by decide
  have hread : ∀ i g, Line.read (Line.rowLine (t.label i) (t.value i g)) =
      .row ⟨t.label i, [t.value i g]⟩ :=
    fun i g => Line.read_rowLine (t.label_isPlain i) (t.value_isWord i g)
  rw [columnLines, map_intercalate, Dataset.groupLines]
  simp [hmark, groupRows, List.map_ofFn, Function.comp_def, hread]

theorem isStructural_of_mem_rowLines (hgroups : 0 < groupCount) :
    ∀ line ∈ t.rowLines.map Line.read, line.isStructural = true := by
  intro line hline
  rw [t.map_read_rowLines hgroups] at hline
  rcases List.mem_cons.mp hline with rfl | hrow
  · rfl
  · obtain ⟨r, -, rfl⟩ := List.mem_map.mp hrow
    rfl

theorem isStructural_of_mem_columnLines :
    ∀ line ∈ t.columnLines.map Line.read, line.isStructural = true := by
  rw [t.map_read_columnLines]
  exact fun line => Dataset.isStructural_of_mem_groupLines

/-! ## The data -/

/-- Row by row the data is laid out as it is. -/
theorem dataset_rowLines (hgroups : 0 < groupCount) :
    (t.rowLines.map Line.read).foldl Dataset.takeIn {} =
      { mode := .table, table := t.rows.map Entry.row } := by
  rw [t.map_read_rowLines hgroups]
  exact Dataset.foldl_takeIn_tableRows t.rows

/-- Group by group there is a mark between each two groups. -/
theorem dataset_columnLines (hrows : 0 < rowCount) :
    (t.columnLines.map Line.read).foldl Dataset.takeIn {} =
      Dataset.ofMulti (Dataset.groupEntries (List.ofFn t.groupRows)) [] := by
  rw [t.map_read_columnLines]
  refine (Dataset.foldl_takeIn_groupLines [] [] fun rows hmem => ?_).trans (by simp)
  obtain ⟨g, rfl⟩ := List.mem_ofFn.mp hmem
  rw [← List.length_pos_iff, groupRows, List.length_ofFn]
  exact hrows

theorem finalize_rowLines :
    ({ mode := .table, table := t.rows.map Entry.row } : Dataset).finalize groupCount none =
      .ok (t.rows.map Row.render) :=
  Dataset.finalize_ofTable t.rows groupCount

/-! ## The matrix of the groups -/

theorem nodup_labels : t.labels.Nodup := List.nodup_ofFn.mpr t.label_injective

theorem map_label_groupRows (g : Fin groupCount) : (t.groupRows g).map Row.label = t.labels := by
  rw [groupRows, List.map_ofFn]
  rfl

/-- Every group names all labels, so none comes in after the first group. -/
theorem labelsOf_columns (hgroups : 0 < groupCount) :
    (Dataset.labelsOf (Dataset.groupEntries (List.ofFn t.groupRows))).eraseDups = t.labels := by
  obtain ⟨m, rfl⟩ := Nat.exists_eq_succ_of_ne_zero hgroups.ne'
  have hrest :
      (List.ofFn fun g : Fin m => t.groupRows g.succ).flatten.map Row.label ⊆ t.labels := by
    intro label hlabel
    rw [List.map_flatten, List.mem_flatten] at hlabel
    obtain ⟨labels, hmem, hlabel⟩ := hlabel
    obtain ⟨rows, hrows, rfl⟩ := List.mem_map.mp hmem
    obtain ⟨g, rfl⟩ := List.mem_ofFn.mp hrows
    rwa [map_label_groupRows] at hlabel
  rw [Dataset.labelsOf_groupEntries, List.ofFn_succ, List.flatten_cons, List.map_append,
    map_label_groupRows, eraseDups_append_of_subset hrest, eraseDups_of_nodup t.nodup_labels]

/-- Of the rows of a group just one has a label. -/
theorem lastWith_groupRows (i : Fin rowCount) (g : Fin groupCount) :
    Dataset.lastWith (t.label i) (t.groupRows g) = some ⟨t.label i, [t.value i g]⟩ := by
  have hone : (List.finRange rowCount).filter (fun j => t.label j = t.label i) = [i] := by
    simp only [t.label_injective.eq_iff]
    rw [List.filter_eq, List.count_eq_one_of_mem (List.nodup_finRange rowCount)
      (List.mem_finRange i), List.replicate_one]
  rw [Dataset.lastWith, groupRows, List.ofFn_eq_map, List.filter_map]
  exact congrArg (fun js => (js.map fun j => Row.mk (t.label j) [t.value j g]).getLast?) hone

/-- The multi mode finds a value in the group where it was written. -/
theorem cellIn_columns (i : Fin rowCount) (g : Fin groupCount) :
    Dataset.cellIn none (Dataset.groupEntries (List.ofFn t.groupRows)) (t.label i) g =
      t.value i g := by
  have hne : List.ofFn t.groupRows ≠ [] := by
    rw [← List.length_pos_iff, List.length_ofFn]
    exact g.pos
  have hrows : (List.ofFn t.groupRows).getD g [] = t.groupRows g := by
    simp
  rw [Dataset.cellIn, Dataset.groupRows_groupEntries hne, hrows, lastWith_groupRows]
  rfl

/-- So it finds the rows of the table. -/
theorem matrixRows_columns :
    Dataset.matrixRows groupCount none t.labels
      (Dataset.groupEntries (List.ofFn t.groupRows)) = t.rows := by
  rw [Dataset.matrixRows, labels, rows, List.map_ofFn]
  refine congrArg List.ofFn (funext fun i => ?_)
  have hvalues : (List.range groupCount).map (Dataset.cellIn none
      (Dataset.groupEntries (List.ofFn t.groupRows)) (t.label i)) = List.ofFn (t.value i) := by
    refine List.ext_getElem (by simp) fun g hg _ => ?_
    have hlt : g < groupCount := by simpa using hg
    simpa using t.cellIn_columns i ⟨g, hlt⟩
  show Row.mk _ _ = _
  rw [hvalues]

theorem finalize_columnLines (hrows : 0 < rowCount) (hgroups : 0 < groupCount) :
    (Dataset.ofMulti (Dataset.groupEntries (List.ofFn t.groupRows)) []).finalize groupCount none =
      .ok (t.rows.map Row.render ++ Dataset.separator) := by
  have hlines := Dataset.multiLines_of_set_notMem groupCount none
    (Dataset.set_notMem_groupEntries (List.ofFn t.groupRows))
  rw [t.labelsOf_columns hgroups, matrixRows_columns] at hlines
  have hne : Dataset.groupEntries (List.ofFn t.groupRows) ≠ [] := by
    intro hnil
    have hlabels := t.labelsOf_columns hgroups
    rw [hnil] at hlabels
    exact absurd (congrArg List.length hlabels) (by simp [Dataset.labelsOf, labels]; omega)
  rw [← hlines]
  exact Dataset.finalize_of_multi hne _ _

/-- **Both ways to write a table compile to the same script.**  Behind the same grouping, the rows
of the table and its groups give scripts that differ in the two empty lines at the end of the data
alone. -/
theorem compile_columnLines (hrows : 0 < rowCount) (hgroups : 0 < groupCount) {first : Text}
    {g : Grouping} (hfirst : Line.read first = .grouping g) (hcount : g.groupCount = groupCount)
    (backend : List Text) (sourceName : Option Text) :
    ∃ byRow byColumn : Compiled,
      compile (first :: t.rowLines) { backend, sourceName } = .ok byRow ∧
      compile (first :: t.columnLines) { backend, sourceName } = .ok byColumn ∧
      byRow.script.data = t.rows.map Row.render ∧
      byColumn = { byRow with
        script := { byRow.script with data := byRow.script.data ++ Dataset.separator } } := by
  subst hcount
  have hrowData := t.finalize_rowLines
  have hcolumnData := t.finalize_columnLines hrows hgroups
  refine ⟨_, _, compile_grouping_cons hfirst (t.isStructural_of_mem_rowLines hgroups)
      (t.dataset_rowLines hgroups) hrowData backend sourceName,
    compile_grouping_cons hfirst t.isStructural_of_mem_columnLines
      (t.dataset_columnLines hrows) hcolumnData backend sourceName, rfl, rfl⟩

/-- Two labels in three groups. -/
def ageAndHeight : ValueTable 2 3 where
  label i := (["age", "height"] : List Text).getD i ""
  value i g := (([["37", "9", "22"], ["17", "12", "20"]] : List (List Text)).getD i []).getD g ""
  label_isPlain := by decide
  label_injective := by unfold Function.Injective; decide
  value_isWord := by decide

theorem compile_columnLines_ageAndHeight :
    let byRow : List Text := ["=cluster;A;B;C", "=table", "age 37 9 22", "height 17 12 20"]
    let byColumn : List Text := ["=cluster;A;B;C", "age 37", "height 17", "=multi", "age 9",
      "height 12", "=multi", "age 22", "height 20"]
    ∃ table columns : Compiled, compile byRow {} = .ok table ∧ compile byColumn {} = .ok columns ∧
      table.script.data = ["age 37 9 22", "height 17 12 20"] ∧
      columns.script = { table.script with
        data := ["age 37 9 22", "height 17 12 20", "", ""] } := by
  intro byRow byColumn
  have hrow : ("=cluster;A;B;C" : Text) :: ageAndHeight.rowLines = byRow := by decide
  have hcolumn : ("=cluster;A;B;C" : Text) :: ageAndHeight.columnLines = byColumn := by decide
  have hdata : ageAndHeight.rows.map Row.render = ["age 37 9 22", "height 17 12 20"] := by decide
  have hread : Line.read "=cluster;A;B;C" =
      .grouping ⟨.cluster, some ["A", "B", "C"], some ";"⟩ := by decide
  obtain ⟨table, columns, htable, hcolumns, hrows, rfl⟩ :=
    ageAndHeight.compile_columnLines (by decide) (by decide) hread rfl [] none
  rw [hdata] at hrows
  refine ⟨table, _, hrow ▸ htable, hcolumn ▸ hcolumns, hrows, ?_⟩
  dsimp only
  rw [hrows]
  rfl

end ValueTable
end ChartScript
