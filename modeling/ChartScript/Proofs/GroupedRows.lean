import ChartScript.Proofs.Matrix

/-!
# Rows in groups

Groups of rows are written with the directive of the multi mode between two of them, and collected
with a mark in its place.  Both are the same intercalation, of lines in one case and of entries in
the other, and `foldl_takeIn_groupLines` says that collecting takes the one to the other.

It is no mere map over the lines.  A directive leaves a mark only if there is something in front to
be separated, so the statement is about groups that are not empty; and the dataset that the lines
are added to matters in one bit, whether its bucket is empty.  To have this bit in the open the
lemmas speak of `Dataset.ofMulti entries titles`, a dataset of which the bucket is an argument.

In the other direction the matrix layout looks for the rows of a group by counting marks.
`groupRows_groupEntries` says that it finds the rows of the group again, which is what makes the
entries of groups as good as the groups, and the files on whole charts need nothing else about
marks.  `Dataset.ofTable` is the same convenience for rows that are no groups.
-/

set_option autoImplicit false

namespace ChartScript

theorem map_intercalate {α β : Type} (f : α → β) (between : List α) (parts : List (List α)) :
    (between.intercalate parts).map f = (between.map f).intercalate (parts.map (·.map f)) := by
  induction parts with
  | nil => rfl
  | cons part parts ih =>
    cases parts with
    | nil => simp
    | cons next parts => simp_all [List.intercalate_cons_cons]

namespace Dataset

/-- The lines of groups of rows, with the directive of the multi mode between two groups. -/
def groupLines (groups : List (List Row)) : List Line :=
  List.intercalate [.mode .multi] (groups.map (·.map Line.row))

/-- The entries of groups of rows, with a mark between two groups. -/
def groupEntries (groups : List (List Row)) : List Entry :=
  List.intercalate [.group] (groups.map (·.map Entry.row))

theorem groupLines_cons_cons (rows next : List Row) (groups : List (List Row)) :
    groupLines (rows :: next :: groups) =
      rows.map Line.row ++ .mode .multi :: groupLines (next :: groups) := by
  rw [groupLines, List.map_cons, List.map_cons, List.intercalate_cons_cons, List.append_assoc]
  rfl

theorem groupEntries_cons_cons (rows next : List Row) (groups : List (List Row)) :
    groupEntries (rows :: next :: groups) =
      rows.map Entry.row ++ .group :: groupEntries (next :: groups) := by
  rw [groupEntries, List.map_cons, List.map_cons, List.intercalate_cons_cons, List.append_assoc]
  rfl

/-- A dataset that has never left the multi mode. -/
def ofMulti (entries : List Entry) (setTitles : List Text) : Dataset :=
  { multi := entries, setTitles }

/-- The directive of the multi mode leaves a mark once there is an entry. -/
theorem takeIn_mode_ofMulti {entries : List Entry} (hne : entries ≠ []) (titles : List Text) :
    (ofMulti entries titles).takeIn (.mode .multi) = ofMulti (entries ++ [.group]) titles := by
  show (ofMulti entries titles).switchMode .multi = _
  rw [switchMode, if_pos ⟨rfl, hne⟩]
  rfl

/-- A set leaves a mark unless it is the first. -/
theorem takeIn_newSet_ofMulti (entries : List Entry) (titles : List Text) (title : Text) :
    (ofMulti entries titles).takeIn (.newSet title) =
      ofMulti (entries ++ if titles = [] then [] else [.set]) (titles ++ [title]) := by
  show (ofMulti entries titles).beginSet title = _
  rw [beginSet]
  by_cases h : titles = []
  · simp [ofMulti, h]
  · simp [ofMulti, push, h]

/-- Adds entries to the end of the bucket of a mode. -/
def pushAll (d : Dataset) (mode : Mode) (entries : List Entry) : Dataset :=
  match mode with
  | .table => { d with table := d.table ++ entries }
  | .multi => { d with multi := d.multi ++ entries }
  | .errorBars => { d with errorBars := d.errorBars ++ entries }

/-- Rows are added to the active mode. -/
theorem foldl_takeIn_rows (d : Dataset) (rows : List Row) :
    (rows.map Line.row).foldl takeIn d = d.pushAll d.mode (rows.map Entry.row) := by
  induction rows generalizing d with
  | nil => cases hm : d.mode <;> simp [pushAll]
  | cons r rows ih =>
    have hstep : d.takeIn (.row r) = d.push d.mode (.row r) := rfl
    rw [List.map_cons, List.foldl_cons, hstep, ih, mode_push]
    cases d.mode <;> simp [pushAll, push]

/-- A table that is all there is. -/
def ofTable (rows : List Row) : Dataset := { mode := .table, table := rows.map Entry.row }

theorem foldl_takeIn_tableRows (rows : List Row) :
    (Line.mode .table :: rows.map Line.row).foldl takeIn {} = ofTable rows :=
  foldl_takeIn_rows { mode := .table } rows

/-- A table is laid out as its rows. -/
theorem finalize_ofTable (rows : List Row) (groupCount : Nat) :
    (ofTable rows).finalize groupCount none = .ok (rows.map Row.render) := by
  refine finalize_eq_ok_iff.mpr ⟨fun h => ?_, ?_⟩
  · exact absurd ((layout_eq_paired_iff _).mp h).2 (by simp [ofTable])
  · show _ = (rows.map Entry.row).flatMap tableLines
    rw [List.flatMap_map]
    exact List.map_eq_flatMap

theorem foldl_takeIn_groupLines (entries : List Entry) (titles : List Text)
    {groups : List (List Row)} (hgroups : ∀ rows ∈ groups, rows ≠ []) :
    (groupLines groups).foldl takeIn (ofMulti entries titles) =
      ofMulti (entries ++ groupEntries groups) titles := by
  induction groups generalizing entries with
  | nil => simp [groupLines, groupEntries]
  | cons rows groups ih =>
    have hne : entries ++ rows.map Entry.row ≠ [] := by simp [hgroups rows]
    have hrows : (rows.map Line.row).foldl takeIn (ofMulti entries titles) =
        ofMulti (entries ++ rows.map Entry.row) titles := foldl_takeIn_rows _ rows
    have htail := ih (entries ++ rows.map Entry.row ++ [.group])
      fun q hq => hgroups q (List.mem_cons_of_mem rows hq)
    cases groups with
    | nil => simpa [groupLines, groupEntries] using hrows
    | cons next groups =>
      rw [groupLines_cons_cons, groupEntries_cons_cons, List.foldl_append, hrows,
        List.foldl_cons, takeIn_mode_ofMulti hne, htail]
      simp

theorem isStructural_of_mem_groupLines {groups : List (List Row)} {line : Line}
    (h : line ∈ groupLines groups) : line.isStructural = true := by
  induction groups with
  | nil => exact absurd h (by simp [groupLines])
  | cons rows groups ih =>
    have hrow : line ∈ rows.map Line.row → line.isStructural = true := by
      intro hmem
      obtain ⟨r, -, rfl⟩ := List.mem_map.mp hmem
      rfl
    cases groups with
    | nil => exact hrow (by simpa [groupLines] using h)
    | cons next groups =>
      rw [groupLines_cons_cons, List.mem_append, List.mem_cons] at h
      rcases h with hmem | rfl | hmem
      · exact hrow hmem
      · rfl
      · exact ih hmem

/-! ## Reading entries back -/

theorem set_notMem_groupEntries (groups : List (List Row)) : Entry.set ∉ groupEntries groups := by
  induction groups with
  | nil => simp [groupEntries]
  | cons rows groups ih =>
    cases groups with
    | nil => simp [groupEntries]
    | cons next groups =>
      rw [groupEntries_cons_cons]
      simp [ih]

theorem labelsOf_groupEntries (groups : List (List Row)) :
    labelsOf (groupEntries groups) = groups.flatten.map Row.label := by
  have hrows : ∀ rows : List Row, (rows.map Entry.row).filterMap Entry.row? = rows := by
    intro rows
    simp [List.filterMap_map, Function.comp_def, Entry.row?]
  induction groups with
  | nil => rfl
  | cons rows groups ih =>
    cases groups with
    | nil => simp [labelsOf, groupEntries, hrows]
    | cons next groups =>
      rw [labelsOf] at ih
      rw [labelsOf, groupEntries_cons_cons, List.filterMap_append, hrows, List.map_append,
        List.filterMap_cons_none rfl, ih]
      simp

/-- The rows of a group are found between its marks. -/
theorem groupRows_groupEntries {groups : List (List Row)} (hne : groups ≠ []) (group : Nat) :
    groupRows (groupEntries groups) group = groups.getD group [] := by
  have hfree : ∀ entries ∈ groups.map (·.map Entry.row), Entry.group ∉ entries := by
    intro entries hentries
    obtain ⟨rows, -, rfl⟩ := List.mem_map.mp hentries
    simp
  rw [groupRows, groupEntries, List.splitOn_intercalate _ hfree (by simpa using hne)]
  rw [List.getD_eq_getElem?_getD, List.getElem?_map, List.getD_eq_getElem?_getD]
  cases groups[group]? with
  | none => rfl
  | some rows => simp [List.filterMap_map, Function.comp_def, Entry.row?]

end Dataset
end ChartScript
