import ChartScript.Proofs.Compilation
import ChartScript.Proofs.GroupedRows
import ChartScript.Proofs.PlotTerms

/-!
# From a grouped chart to its script

`GroupedChart` is a chart as its author thinks of it: titles for the groups and, set by set, the
labels and values of every group.  `GroupedChart.lines` writes it down in the multi mode, and
`compile_lines` says what script comes out: a block of data for every set, with the groups in the
columns from the second on, and plot terms that name just these blocks and columns.  It is the
program from one end to the other on the inputs that it was made for.

The structure holds what makes such a chart one that *can* be written down.  A label must be a word
that does not start a line of another kind, a value a word; no title of a group may hold the
delimiter, and the last of them may not be empty or end in a blank, which would get lost at the end
of the line; the title of a set stays on one line.  These are fields and not hypotheses, so that a
chart is good once it is built and the theorem has nothing to assume.  What is *not* required is as
important: a label may occur twice in a group, then the last value counts, and a group need not name
the labels of another, then its cells are missing.  `ClusterSet.cell` says so without a matrix.

The proof follows the way of the lines, and each station is a lemma about any chart.  Every line is
read as what it was written for; the rows add up to groups with a mark between two of them, and the
groups to sets likewise; the matrix has the values of each group in the column of the group; the
data block has a matrix for every set.  A label that only an earlier set used still gets a row in a
later one, hence `labelsThrough`: bars of the same label have to stand at the same place in all
sets.
-/

set_option autoImplicit false

namespace ChartScript

/-! ## Charts -/

/-- A label and its value. -/
structure Datum where
  label : Text
  value : Text
  isPlain : Line.IsPlainLabel label
  isWord : value.IsWord

namespace Datum

/-- The row of a label and its value. -/
def row (x : Datum) : Row := ⟨x.label, [x.value]⟩

/-- The line of a label and its value. -/
def line (x : Datum) : Text := Line.rowLine x.label x.value

theorem read_line (x : Datum) : Line.read x.line = .row x.row :=
  Line.read_rowLine x.isPlain x.isWord

end Datum

/-- A set of `groupCount` groups.  A label may occur more than once in a group. -/
structure ClusterSet (groupCount : Nat) where
  title : Text
  groups : List (List Datum)
  length_groups : groups.length = groupCount
  group_ne_nil : ∀ group ∈ groups, group ≠ []
  title_on_one_line : CodePoint.char '\n' ∉ title
  title_trimmed : ∀ c ∈ title.getLast?, Text.isBlank c = false

namespace ClusterSet

variable {groupCount : Nat}

/-- The rows of a set, group by group. -/
def rows (set : ClusterSet groupCount) : List (List Row) := set.groups.map (·.map Datum.row)

/-- The entries of a set. -/
def entries (set : ClusterSet groupCount) : List Entry := Dataset.groupEntries set.rows

/-- The lines of a set. -/
def lines (set : ClusterSet groupCount) : List Text :=
  Line.setLine set.title :: List.intercalate ["=multi"] (set.groups.map (·.map Datum.line))

/-- What the lines of a set say. -/
def readings (set : ClusterSet groupCount) : List Line :=
  .newSet set.title :: Dataset.groupLines set.rows

/-- All labels of a set, in order and as often as they occur. -/
def labels (set : ClusterSet groupCount) : List Text := set.groups.flatten.map Datum.label

/-- The value of a label in a group: the last one that the group gives it, or the missing value. -/
def cell (set : ClusterSet groupCount) (group : Nat) (label : Text) : Text :=
  (((set.groups.getD group []).filter fun x => x.label = label).getLast?.map Datum.value).getD
    missing

theorem rows_ne_nil (set : ClusterSet groupCount) : ∀ rows ∈ set.rows, rows ≠ [] := by
  intro rows hrows
  obtain ⟨group, hgroup, rfl⟩ := List.mem_map.mp hrows
  simpa using set.group_ne_nil group hgroup

theorem entries_ne_nil (set : ClusterSet groupCount) (hpos : 0 < groupCount) :
    set.entries ≠ [] := by
  rw [entries, Dataset.groupEntries, rows]
  cases hgroups : set.groups with
  | nil =>
    have hlength := set.length_groups
    rw [hgroups, List.length_nil] at hlength
    omega
  | cons group groups =>
    refine intercalate_cons_ne_nil _ ?_ _
    simpa using set.group_ne_nil group (by simp [hgroups])

theorem map_read_lines (set : ClusterSet groupCount) : set.lines.map Line.read = set.readings := by
  have hmark : Line.read "=multi" = .mode .multi := by decide
  rw [lines, List.map_cons, Line.read_setLine set.title_on_one_line set.title_trimmed,
    map_intercalate, readings, Dataset.groupLines, rows]
  simp [hmark, Function.comp_def, Datum.read_line]

theorem labelsOf_entries (set : ClusterSet groupCount) :
    Dataset.labelsOf set.entries = set.labels := by
  rw [entries, Dataset.labelsOf_groupEntries, rows, ← List.map_flatten, List.map_map]
  rfl

/-- The matrix has the values of a set. -/
theorem cellIn_entries (set : ClusterSet groupCount) (hpos : 0 < groupCount) (label : Text)
    (group : Nat) : Dataset.cellIn none set.entries label group = set.cell group label := by
  have hne : set.rows ≠ [] := by
    rw [← List.length_pos_iff, rows, List.length_map, set.length_groups]
    exact hpos
  have hrows : set.rows.getD group [] = (set.groups.getD group []).map Datum.row := by
    rw [rows, List.getD_eq_getElem?_getD, List.getElem?_map, List.getD_eq_getElem?_getD]
    cases set.groups[group]? <;> rfl
  rw [Dataset.cellIn, entries, Dataset.groupRows_groupEntries hne, hrows, Dataset.lastWith,
    List.filter_map, List.getLast?_map, Option.map_map]
  rfl

theorem isWord_cell (set : ClusterSet groupCount) (group : Nat) (label : Text) :
    (set.cell group label).IsWord := by
  rw [cell]
  cases ((set.groups.getD group []).filter fun x => decide (x.label = label)).getLast? with
  | none => exact Text.isWord_missing
  | some x => exact x.isWord

theorem isWord_of_mem_labels {set : ClusterSet groupCount} {label : Text} (h : label ∈ set.labels) :
    label.IsWord := by
  obtain ⟨x, -, rfl⟩ := List.mem_map.mp h
  exact x.isPlain.isWord

/-- Sets add up: their entries with a mark between two sets, and their titles. -/
theorem foldl_takeIn_readings {sets : List (ClusterSet groupCount)} (hne : sets ≠ [])
    (before : List Entry) (titles : List Text) :
    (sets.flatMap readings).foldl Dataset.takeIn (Dataset.ofMulti before titles) =
      Dataset.ofMulti
        (before ++ (if titles = [] then [] else [.set]) ++ [.set].intercalate (sets.map entries))
        (titles ++ sets.map title) := by
  induction sets generalizing before titles with
  | nil => exact absurd rfl hne
  | cons set sets ih =>
    rw [List.flatMap_cons, List.foldl_append, readings, List.foldl_cons,
      Dataset.takeIn_newSet_ofMulti, Dataset.foldl_takeIn_groupLines _ _ set.rows_ne_nil]
    cases sets with
    | nil => simp [entries]
    | cons next sets =>
      rw [ih (by simp)]
      simp [entries, List.intercalate_cons_cons]

end ClusterSet

/-- A chart with titles for its groups, and a delimiter to write them with. -/
structure GroupedChart where
  kind : GroupingKind
  delimiter : CodePoint
  titles : List Text
  sets : List (ClusterSet titles.length)
  sets_ne_nil : sets ≠ []
  titles_ne_nil : titles ≠ []
  last_ne_nil : ∀ title ∈ titles.getLast?, title ≠ []
  last_trimmed : ∀ title ∈ titles.getLast?, ∀ c ∈ title.getLast?, Text.isBlank c = false
  delimiter_visible : Text.isBlank delimiter = false
  delimiter_free : ∀ title ∈ titles, delimiter ∉ title

namespace GroupedChart

/-- The lines of a chart: the grouping and then the sets. -/
def lines (c : GroupedChart) : List Text :=
  Line.groupingLine c.kind c.delimiter c.titles :: c.sets.flatMap ClusterSet.lines

/-- The grouping of a chart. -/
def grouping (c : GroupedChart) : Grouping := ⟨c.kind, some c.titles, some [c.delimiter]⟩

/-- The labels of the sets up to and with one, each once and in the order of their first
occurrence. -/
def labelsThrough (c : GroupedChart) (set : Nat) : List Text :=
  ((c.sets.take (set + 1)).flatMap ClusterSet.labels).eraseDups

/-- The first line of a chart is read as its grouping. -/
theorem read_first (c : GroupedChart) :
    Line.read (Line.groupingLine c.kind c.delimiter c.titles) = .grouping c.grouping := by
  refine Line.read_groupingLine c.kind c.delimiter_visible c.delimiter_free fun last hlast => ?_
  obtain ⟨x, hx⟩ := Option.ne_none_iff_exists'.mp
    (mt List.getLast?_eq_none_iff.mp (c.last_ne_nil last hlast))
  exact ⟨x, hx, c.last_trimmed last hlast x hx⟩

/-- Every other line is read as what it was written for. -/
theorem map_read_sets (c : GroupedChart) :
    (c.sets.flatMap ClusterSet.lines).map Line.read = c.sets.flatMap ClusterSet.readings := by
  rw [List.map_flatMap]
  simp only [ClusterSet.map_read_lines]

theorem isStructural_of_mem_readings {c : GroupedChart} {line : Line}
    (h : line ∈ c.sets.flatMap ClusterSet.readings) : line.isStructural = true := by
  obtain ⟨set, -, hline⟩ := List.mem_flatMap.mp h
  rcases List.mem_cons.mp hline with rfl | hrows
  · rfl
  · exact Dataset.isStructural_of_mem_groupLines hrows

theorem isStructural_of_mem_lines {c : GroupedChart} :
    ∀ line ∈ (c.sets.flatMap ClusterSet.lines).map Line.read, line.isStructural = true := by
  rw [map_read_sets]
  exact fun line => isStructural_of_mem_readings

theorem store_lines (c : GroupedChart) : (Description.ofLines c.lines).store = {} :=
  Description.store_ofLines_grouping_cons c.read_first isStructural_of_mem_lines

/-- The rows of a chart add up to the entries of its sets. -/
theorem dataset_sets (c : GroupedChart) :
    ((c.sets.flatMap ClusterSet.lines).map Line.read).foldl Dataset.takeIn {} =
      Dataset.ofMulti ([.set].intercalate (c.sets.map ClusterSet.entries))
        (c.sets.map ClusterSet.title) := by
  rw [map_read_sets]
  exact (ClusterSet.foldl_takeIn_readings c.sets_ne_nil [] []).trans (by simp)

/-! ## Compilation -/

/-- What the plot command of a chart is written from. -/
def chart (c : GroupedChart) : Chart :=
  { style := { keyInvert := c.kind.invertsKey }, grouping := c.grouping
    setTitles := c.sets.map ClusterSet.title }

theorem setCount_chart (c : GroupedChart) : c.chart.setCount = c.sets.length := by
  simp [chart, Chart.setCount, c.sets_ne_nil]

theorem header_chart (c : GroupedChart) {s : Nat} {set : ClusterSet c.titles.length}
    (h : c.sets[s]? = some set) : c.chart.header s = .header (some set.title) none := by
  simp [chart, Chart.header, h]

theorem groupTerm_chart (c : GroupedChart) (s : Nat) {g : Nat} {title : Text}
    (h : c.titles[g]? = some title) :
    c.chart.groupTerm s g = .group (g == 0) s (2 + g) none true
      (if s + 1 = c.sets.length then title else "") (g + 1) := by
  have htitle : c.chart.grouping.title g = title := by
    simp [chart, grouping, Grouping.title, h]
  rw [Chart.groupTerm, htitle, setCount_chart]
  simp [chart, Chart.groupColumn, Chart.columnStep, Style.lineType]

theorem intercalate_entries_ne_nil (c : GroupedChart) :
    [Entry.set].intercalate (c.sets.map ClusterSet.entries) ≠ [] := by
  obtain ⟨set, sets, hsets⟩ := List.exists_cons_of_ne_nil c.sets_ne_nil
  rw [hsets]
  exact intercalate_cons_ne_nil _ (set.entries_ne_nil (List.length_pos_iff.mpr c.titles_ne_nil)) _

/-- The chart compiles, with the entries of its sets as a matrix. -/
theorem script_lines (c : GroupedChart) (backend : List Text) :
    ∃ script, (Description.ofLines c.lines).script backend = .ok script ∧
      script.data = Dataset.multiLines c.titles.length none {}
        ([.set].intercalate (c.sets.map ClusterSet.entries)) ∧
      script.plot = c.chart.plotCommand := by
  have hdata : (Dataset.ofMulti ([.set].intercalate (c.sets.map ClusterSet.entries))
      (c.sets.map ClusterSet.title)).finalize c.grouping.groupCount none =
        .ok (Dataset.multiLines c.titles.length none {}
          ([.set].intercalate (c.sets.map ClusterSet.entries))) :=
    Dataset.finalize_of_multi c.intercalate_entries_ne_nil _ _
  obtain ⟨script, hscript, hcompiled⟩ := compile_eq_ok_iff.mp <|
    compile_grouping_cons c.read_first isStructural_of_mem_lines c.dataset_sets hdata backend none
  rw [List.append_nil] at hscript
  obtain rfl := (Compiled.mk.inj hcompiled).1
  exact ⟨_, hscript, rfl, rfl⟩

/-! ## Blocks -/

theorem labelsThrough_entries (c : GroupedChart) (s : Nat) :
    Dataset.labelsThrough (c.sets.map ClusterSet.entries) s = c.labelsThrough s := by
  rw [Dataset.labelsThrough, ← List.map_take, List.flatMap_map]
  simp only [ClusterSet.labelsOf_entries]
  rfl

theorem isWord_of_mem_labelsThrough {c : GroupedChart} {s : Nat} {label : Text}
    (h : label ∈ c.labelsThrough s) : label.IsWord := by
  obtain ⟨set, -, hlabel⟩ := List.mem_flatMap.mp (List.mem_eraseDups.mp h)
  exact ClusterSet.isWord_of_mem_labels hlabel

/-- The data block has a block for every set, with the rows of its matrix. -/
theorem blocks_multiLines (c : GroupedChart) :
    Dataset.blocks (Dataset.multiLines c.titles.length none {}
        ([.set].intercalate (c.sets.map ClusterSet.entries))) =
      (List.range c.sets.length).map fun s =>
        (Dataset.matrixRows c.titles.length none (c.labelsThrough s)
          ((c.sets.map ClusterSet.entries).getD s [])).map Row.render := by
  have hparts : ∀ part ∈ c.sets.map ClusterSet.entries, Entry.set ∉ part := by
    intro part hpart
    obtain ⟨set, -, rfl⟩ := List.mem_map.mp hpart
    exact Dataset.set_notMem_groupEntries set.rows
  rw [Dataset.multiLines_intercalate _ _ (by simpa using c.sets_ne_nil) hparts, List.length_map]
  simp only [labelsThrough_entries]
  rw [← List.flatMap_map _ (· ++ Dataset.separator), Dataset.blocks_flatMap]
  intro part hpart line hline
  obtain ⟨s, -, rfl⟩ := List.mem_map.mp hpart
  obtain ⟨row, hrow, rfl⟩ := List.mem_map.mp hline
  obtain ⟨label, hlabel, rfl⟩ := List.mem_map.mp hrow
  exact Row.render_ne_nil (isWord_of_mem_labelsThrough hlabel).ne_nil _

/-- The rows of a set's matrix, word by word. -/
theorem words_matrixRows (c : GroupedChart) (s : Nat) (set : ClusterSet c.titles.length) :
    ((Dataset.matrixRows c.titles.length none (c.labelsThrough s) set.entries).map Row.render).map
        Text.words =
      (c.labelsThrough s).map fun label =>
        label :: (List.range c.titles.length).map fun g => set.cell g label := by
  have hpos : 0 < c.titles.length := List.length_pos_iff.mpr c.titles_ne_nil
  rw [Dataset.matrixRows, List.map_map, List.map_map]
  refine List.map_congr_left fun label hlabel => ?_
  show Text.words (Row.mk label _).render = _
  rw [Row.render, Text.words_join]
  · exact congrArg (label :: ·) (List.map_congr_left fun g _ => set.cellIn_entries hpos label g)
  · intro w hw
    rcases List.mem_cons.mp hw with rfl | hvalue
    · exact isWord_of_mem_labelsThrough hlabel
    · obtain ⟨g, -, rfl⟩ := List.mem_map.mp hvalue
      rw [set.cellIn_entries hpos]
      exact set.isWord_cell g label

/-- **Charts compile to their data.**  The script has a block for every set.  A block has a row for
every label of the sets so far, and the values of group `g` are in its column `2 + g`.  The plot
command has a header for every set, and behind it a term for each group that names the block of the
set and the column of the group; only at the last set does it give the titles of the groups. -/
theorem compile_lines (c : GroupedChart) (backend : List Text) (sourceName : Option Text) :
    ∃ (compiled : Compiled) (terms : List Term),
      compile c.lines { backend, sourceName } = .ok compiled ∧ compiled.ignored = [] ∧
      compiled.script.plot =
        "plot\t" ++ Text.join Chart.termSeparator (terms.map Term.text) ∧
      (Dataset.blocks compiled.script.data).length = c.sets.length ∧
      terms.length = c.sets.length * (c.titles.length + 1) ∧
      ∀ s set, c.sets[s]? = some set →
        (∃ block, (Dataset.blocks compiled.script.data)[s]? = some block ∧
          block.map Text.words = (c.labelsThrough s).map fun label =>
            label :: (List.range c.titles.length).map fun g => set.cell g label) ∧
        terms[s * (c.titles.length + 1)]? = some (.header (some set.title) none) ∧
        ∀ g title, c.titles[g]? = some title →
          terms[s * (c.titles.length + 1) + 1 + g]? = some (.group (g == 0) s (2 + g) none true
            (if s + 1 = c.sets.length then title else "") (g + 1)) := by
  obtain ⟨script, hscript, hdata, hplot⟩ := c.script_lines backend
  have hcompile : compile c.lines { backend, sourceName } = .ok ⟨script, []⟩ := by
    refine compile_eq_ok_iff.mpr ⟨script, ?_, ?_⟩
    · rw [List.append_nil]
      exact hscript
    · rw [List.append_nil, c.store_lines]
      simp [Store.ignored, Ignored.sortByName]
  have hblocks := c.blocks_multiLines
  rw [← hdata] at hblocks
  refine ⟨⟨script, []⟩, c.chart.terms, hcompile, rfl, hplot, ?_, ?_, fun s set hset => ⟨?_, ?_, ?_⟩⟩
  · rw [hblocks, List.length_map, List.length_range]
  · rw [c.chart.length_terms, c.setCount_chart]
    rfl
  · obtain ⟨hs, -⟩ := List.getElem?_eq_some_iff.mp hset
    refine ⟨_, ?_, c.words_matrixRows s set⟩
    rw [hblocks, List.getElem?_map, List.getElem?_range hs, Option.map_some,
      List.getD_eq_getElem?_getD, List.getElem?_map, hset]
    rfl
  · obtain ⟨hs, -⟩ := List.getElem?_eq_some_iff.mp hset
    rw [← c.header_chart hset]
    exact c.chart.terms_header (by rwa [c.setCount_chart])
  · intro g title htitle
    obtain ⟨hs, -⟩ := List.getElem?_eq_some_iff.mp hset
    obtain ⟨hg, -⟩ := List.getElem?_eq_some_iff.mp htitle
    rw [← c.groupTerm_chart s htitle]
    exact c.chart.terms_group (by rwa [c.setCount_chart]) hg

/-- Two groups in two sets: `x` is given twice in the first group, and the second set brings in the
label `z`. -/
def twoSets : GroupedChart where
  kind := .cluster
  delimiter := .char ';'
  titles := ["A", "B"]
  sets :=
    [{ title := "P"
       groups := [[⟨"x", "1", by decide, by decide⟩, ⟨"x", "2", by decide, by decide⟩],
         [⟨"y", "3", by decide, by decide⟩]]
       length_groups := rfl
       group_ne_nil := by simp
       title_on_one_line := by decide
       title_trimmed := by decide },
     { title := "S"
       groups := [[⟨"z", "4", by decide, by decide⟩], [⟨"x", "5", by decide, by decide⟩]]
       length_groups := rfl
       group_ne_nil := by simp
       title_on_one_line := by decide
       title_trimmed := by decide }]
  sets_ne_nil := by simp
  titles_ne_nil := by simp
  last_ne_nil := by decide
  last_trimmed := by decide
  delimiter_visible := by decide
  delimiter_free := by decide

theorem compile_lines_twoSets :
    let lines : List Text := ["=cluster;A;B", "multimulti=P", "x 1", "x 2", "=multi", "y 3",
      "multimulti=S", "z 4", "=multi", "x 5"]
    ∃ (compiled : Compiled) (terms : List Term), compile lines {} = .ok compiled ∧
      compiled.script.plot = "plot\t" ++ Text.join Chart.termSeparator (terms.map Term.text) ∧
      (∃ first, (Dataset.blocks compiled.script.data)[0]? = some first ∧
        first.map Text.words = ([["x", "2", "-"], ["y", "-", "3"]] : List (List Text))) ∧
      (∃ second, (Dataset.blocks compiled.script.data)[1]? = some second ∧
        second.map Text.words =
          ([["x", "-", "5"], ["y", "-", "-"], ["z", "4", "-"]] : List (List Text))) ∧
      terms[2]? = some (.group false 0 3 none true "" 2) ∧
      terms[5]? = some (.group false 1 3 none true "B" 2) := by
  intro lines
  have hlines : twoSets.lines = lines := by decide
  obtain ⟨compiled, terms, hcompile, -, hplot, -, -, hsets⟩ := twoSets.compile_lines [] none
  obtain ⟨⟨first, hfirst, hrows⟩, -, hterms⟩ := hsets 0 _ rfl
  obtain ⟨⟨second, hsecond, hrows'⟩, -, hterms'⟩ := hsets 1 _ rfl
  refine ⟨compiled, terms, hlines ▸ hcompile, hplot, ⟨first, hfirst, hrows.trans ?_⟩,
    ⟨second, hsecond, hrows'.trans ?_⟩, hterms 1 "B" rfl, hterms' 1 "B" rfl⟩
  · decide
  · decide

end GroupedChart
end ChartScript
