import ChartScript.Proofs.DataBlock

/-!
# The matrix layout without the loop

`Dataset.multiLines` reads the entries of the multi mode one after the other and keeps the labels
seen so far, the cells of the current set and the number of the current group.  A mark of a set
writes the matrix and clears the cells, but not the labels.  Since the state is written out and
cleared as the loop goes, what it holds at the end says little about the lines; the natural unit is
a set.

So the entries are cut at the marks of sets, and each part at the marks of groups.  `cellIn` is the
value of a label in a group of a part: that of the last row of the group that has the label.
`cellValue_foldl` says that the loop finds it, and `labels_foldl` that the labels are those of all
rows so far, each once and in the order of their first occurrence.  Both are about the loop within
one part, from any state that the parts before have left, because the labels are shared by all parts
and the cells by none.

`multiLines_intercalate` does the induction over parts, and `multiLines_eq` states it for the
entries as they are.  A matrix is given by `matrixRows`, a function of the labels and of one part.
Everything else that is known about matrices (their size, what moves a value to the right, when a
value is missing) is proved of that function, with no state in sight.
-/

set_option autoImplicit false

namespace ChartScript

theorem eraseDups_of_nodup {α : Type} [BEq α] [LawfulBEq α] {l : List α} (h : l.Nodup) :
    l.eraseDups = l := by
  induction l with
  | nil => rfl
  | cons a l ih =>
    obtain ⟨ha, hl⟩ := List.nodup_cons.mp h
    have hkeep : (l.filter fun b => !b == a) = l := by
      refine List.filter_eq_self.mpr fun b hb => ?_
      have hne : b ≠ a := fun heq => ha (heq ▸ hb)
      simp [hne]
    rw [List.eraseDups_cons, hkeep, ih hl]

/-- What is in front already adds nothing. -/
theorem eraseDups_append_of_subset {α : Type} [BEq α] [LawfulBEq α] {l m : List α} (h : m ⊆ l) :
    (l ++ m).eraseDups = l.eraseDups := by
  have hnone : m.removeAll l = [] := by
    rw [List.removeAll, List.filter_eq_nil_iff]
    intro a ha
    simp [h ha]
  rw [List.eraseDups_append, hnone, List.eraseDups_nil, List.append_nil]

namespace Dataset

/-! ## The loop, entry by entry -/

/-- The progress after a row or the mark of a group. -/
def Progress.step (column : Option Column) (p : Progress) : Entry → Progress
  | .row r =>
    ⟨if p.labels.contains r.label then p.labels else p.labels ++ [r.label],
      ⟨r.label, p.group, chartedValue column r⟩ :: p.cells, p.group⟩
  | .group => { p with group := p.group + 1 }
  | .set => p

/-- Entries other than the marks of sets only make progress. -/
theorem multiLines_append (groupCount : Nat) (column : Option Column) {part : List Entry}
    (hpart : Entry.set ∉ part) (p : Progress) (rest : List Entry) :
    multiLines groupCount column p (part ++ rest) =
      multiLines groupCount column (part.foldl (Progress.step column) p) rest := by
  induction part generalizing p with
  | nil => rfl
  | cons e part ih =>
    have htail : Entry.set ∉ part := fun h => hpart (List.mem_cons_of_mem e h)
    cases e with
    | set => exact absurd List.mem_cons_self hpart
    | row r => exact ih htail _
    | group => exact ih htail _

/-! ## Labels -/

theorem mem_filterMap_row?_iff {entries : List Entry} {r : Row} :
    r ∈ entries.filterMap Entry.row? ↔ Entry.row r ∈ entries := by
  have hrow : ∀ e : Entry, e.row? = some r ↔ e = .row r := by
    intro e
    cases e <;> simp [Entry.row?]
  simp [List.mem_filterMap, hrow]

theorem set_notMem_of_mem_splitOn {entries part : List Entry} (h : part ∈ entries.splitOn .set) :
    Entry.set ∉ part := by
  intro hset
  exact absurd (forall_mem_of_mem_splitOnP h _ hset).1 (by simp)

theorem mem_of_mem_getD_splitOn {entries : List Entry} {mark e : Entry} {i : Nat}
    (h : e ∈ (entries.splitOn mark).getD i []) : e ∈ entries := by
  rw [List.getD_eq_getElem?_getD] at h
  cases hpiece : (entries.splitOn mark)[i]? with
  | none => exact absurd h (by simp [hpiece])
  | some piece =>
    rw [hpiece, Option.getD_some] at h
    exact (forall_mem_of_mem_splitOnP (List.mem_of_getElem? hpiece) e h).2

/-- The labels of the rows among entries, in order. -/
def labelsOf (entries : List Entry) : List Text := (entries.filterMap Entry.row?).map Row.label

theorem mem_labelsOf_iff {entries : List Entry} {label : Text} :
    label ∈ labelsOf entries ↔ ∃ r, Entry.row r ∈ entries ∧ r.label = label := by
  rw [labelsOf, List.mem_map]
  exact exists_congr fun r => and_congr_left fun _ => mem_filterMap_row?_iff

/-- Labels are kept once each, in the order of their first occurrence. -/
theorem labels_foldl (column : Option Column) (part : List Entry) (p : Progress) {seen : List Text}
    (hp : p.labels = seen.eraseDups) :
    (part.foldl (Progress.step column) p).labels = (seen ++ labelsOf part).eraseDups := by
  induction part generalizing p seen with
  | nil => simpa [labelsOf] using hp
  | cons e part ih =>
    cases e with
    | row r =>
      have hstep : (p.step column (.row r)).labels = (seen ++ [r.label]).eraseDups := by
        have hmem : r.label ∈ seen.eraseDups ↔ r.label ∈ seen := List.mem_eraseDups
        by_cases h : r.label ∈ seen
        · simp [Progress.step, hp, hmem, h, List.eraseDups_append, List.removeAll]
        · simp [Progress.step, hp, hmem, h, List.eraseDups_append, List.removeAll,
            List.eraseDups_cons]
      rw [List.foldl_cons, ih _ hstep]
      simp [labelsOf, Entry.row?]
    | group => exact ih _ hp
    | set => exact ih _ hp

/-! ## Cells -/

/-- The rows of a group of a set: those with as many marks of groups before them. -/
def groupRows (part : List Entry) (group : Nat) : List Row :=
  ((part.splitOn .group).getD group []).filterMap Entry.row?

/-- The last of the rows that have a label. -/
def lastWith (label : Text) (rows : List Row) : Option Row :=
  (rows.filter fun r => r.label = label).getLast?

/-- The value of a label in a group of a set. -/
def cellIn (column : Option Column) (part : List Entry) (label : Text) (group : Nat) : Text :=
  ((lastWith label (groupRows part group)).map (chartedValue column)).getD missing

/-- A row of a group is among the entries of the set. -/
theorem row_mem_of_mem_groupRows {part : List Entry} {group : Nat} {r : Row}
    (h : r ∈ groupRows part group) : Entry.row r ∈ part :=
  mem_of_mem_getD_splitOn (mem_filterMap_row?_iff.mp h)

/-- What holds of the missing value and of all values of a row holds of the one that is charted. -/
theorem chartedValue_of_forall {P : Text → Prop} (hmissing : P missing) {r : Row}
    (hvalues : ∀ value ∈ r.values, P value) (column : Option Column) :
    P (chartedValue column r) := by
  cases column with
  | none =>
    rw [chartedValue]
    cases hr : r.values with
    | nil => exact hmissing
    | cons value values => exact hvalues value (by simp [hr])
  | some column =>
    rw [chartedValue, Column.select]
    split
    · rw [List.getLastD_eq_getLast?]
      cases hlast : r.values.getLast? with
      | none => exact hmissing
      | some value => exact hvalues value (List.mem_of_getLast? hlast)
    · next n hn =>
      split
      · exact hmissing
      · rw [List.getD_eq_getElem?_getD]
        cases hvalue : r.values[n - 2]? with
        | none => exact hmissing
        | some value => exact hvalues value (List.mem_of_getElem? hvalue)

/-- So it holds of every value of the matrix: what stands there for a label is a value of a row with
that label, if it is not missing. -/
theorem cellIn_of_forall {P : Text → Prop} (hmissing : P missing) {part : List Entry} {label : Text}
    (hpart : ∀ r, Entry.row r ∈ part → r.label = label → ∀ value ∈ r.values, P value)
    (column : Option Column) (group : Nat) : P (cellIn column part label group) := by
  rw [cellIn]
  cases hlast : lastWith label (groupRows part group) with
  | none => exact hmissing
  | some r =>
    obtain ⟨hmem, hlabel⟩ := List.mem_filter.mp (List.mem_of_getLast? hlast)
    have hvalues := hpart r (row_mem_of_mem_groupRows hmem) (by simpa using hlabel)
    exact chartedValue_of_forall hmissing hvalues column

theorem lastWith_cons (label : Text) (r : Row) (rows : List Row) :
    lastWith label (r :: rows) =
      (lastWith label rows).or (if r.label = label then some r else none) := by
  rw [lastWith, List.filter_cons]
  by_cases h : r.label = label
  · simp only [h, decide_true, if_true, List.getLast?_cons, lastWith]
    cases (rows.filter fun r => decide (r.label = label)).getLast? <;> rfl
  · simp [h, lastWith]

theorem groupRows_nil (group : Nat) : groupRows [] group = [] := by
  cases group <;> rfl

theorem groupRows_group_zero (part : List Entry) : groupRows (.group :: part) 0 = [] := by
  simp [groupRows, List.splitOn_cons_eq_if_modifyHead]

theorem groupRows_group_succ (part : List Entry) (group : Nat) :
    groupRows (.group :: part) (group + 1) = groupRows part group := by
  simp [groupRows, List.splitOn_cons_eq_if_modifyHead]

theorem groupRows_row_zero (r : Row) (part : List Entry) :
    groupRows (.row r :: part) 0 = r :: groupRows part 0 := by
  obtain ⟨first, more, h⟩ := List.exists_cons_of_ne_nil (List.splitOn_ne_nil Entry.group part)
  simp [groupRows, List.splitOn_cons_eq_if_modifyHead, h, Entry.row?]

theorem groupRows_row_succ (r : Row) (part : List Entry) (group : Nat) :
    groupRows (.row r :: part) (group + 1) = groupRows part (group + 1) := by
  obtain ⟨first, more, h⟩ := List.exists_cons_of_ne_nil (List.splitOn_ne_nil Entry.group part)
  simp [groupRows, List.splitOn_cons_eq_if_modifyHead, h]

theorem cellValue_cons (cell : Cell) (cells : List Cell) (label : Text) (group : Nat) :
    cellValue (cell :: cells) label group =
      if cell.label = label ∧ cell.group = group then cell.value
      else cellValue cells label group := by
  rw [cellValue, List.find?_cons]
  by_cases h : cell.label = label ∧ cell.group = group
  · simp [h.1, h.2]
  · have hbeq : (cell.label == label && cell.group == group) = false := by simpa using h
    rw [hbeq, if_neg h]
    rfl

/-- Groups that are over keep their values. -/
theorem cellValue_foldl_of_lt (column : Option Column) {part : List Entry}
    (hpart : Entry.set ∉ part) (p : Progress) (label : Text) {group : Nat} (h : group < p.group) :
    cellValue (part.foldl (Progress.step column) p).cells label group =
      cellValue p.cells label group := by
  induction part generalizing p with
  | nil => rfl
  | cons e part ih =>
    have htail : Entry.set ∉ part := fun h => hpart (List.mem_cons_of_mem e h)
    rw [List.foldl_cons]
    cases e with
    | set => exact absurd List.mem_cons_self hpart
    | group => exact ih htail _ (Nat.lt_succ_of_lt h)
    | row r =>
      have hother : ¬(r.label = label ∧ p.group = group) := fun hc => absurd hc.2 (by omega)
      rw [ih htail (p.step column (.row r)) h, Progress.step, cellValue_cons, if_neg hother]

/-- The loop finds the last row of each group that has a label, and falls back on the cells that
were there before. -/
theorem cellValue_foldl (column : Option Column) {part : List Entry} (hpart : Entry.set ∉ part)
    (p : Progress) (label : Text) (group : Nat) :
    cellValue (part.foldl (Progress.step column) p).cells label (p.group + group) =
      ((lastWith label (groupRows part group)).map (chartedValue column)).getD
        (cellValue p.cells label (p.group + group)) := by
  induction part generalizing p group with
  | nil => rw [groupRows_nil]; rfl
  | cons e part ih =>
    have htail : Entry.set ∉ part := fun h => hpart (List.mem_cons_of_mem e h)
    rw [List.foldl_cons]
    cases e with
    | set => exact absurd List.mem_cons_self hpart
    | group =>
      cases group with
      | zero =>
        -- the group is over before its first row, so later entries do not touch its cells
        rw [groupRows_group_zero]
        exact cellValue_foldl_of_lt column htail _ label (Nat.lt_succ_self p.group)
      | succ group =>
        have h := ih htail (p.step column .group) group
        rw [groupRows_group_succ, ← Nat.add_assoc, Nat.add_right_comm]
        exact h
    | row r =>
      have h := ih htail (p.step column (.row r)) group
      rw [Progress.step, cellValue_cons] at h
      cases group with
      | zero =>
        rw [groupRows_row_zero, lastWith_cons]
        refine h.trans ?_
        cases lastWith label (groupRows part 0) with
        | some last => rfl
        | none => by_cases hr : r.label = label <;> simp [hr]
      | succ group =>
        rw [groupRows_row_succ]
        refine h.trans ?_
        rw [if_neg fun hc => absurd hc.2 (by dsimp only; omega)]

/-! ## Sets one after the other -/

/-- The rows of a set: one for each label, with a value for each group. -/
def matrixRows (groupCount : Nat) (column : Option Column) (labels : List Text)
    (part : List Entry) : List Row :=
  labels.map fun label => ⟨label, (List.range groupCount).map (cellIn column part label)⟩

/-- The labels of the rows up to and with a set, each once. -/
def labelsThrough (parts : List (List Entry)) (set : Nat) : List Text :=
  ((parts.take (set + 1)).flatMap labelsOf).eraseDups

/-- The loop comes to the end of a set with the rows of the set. -/
theorem matrixLines_foldl (groupCount : Nat) (column : Option Column) {part : List Entry}
    (hpart : Entry.set ∉ part) (seen : List Text) :
    let p := part.foldl (Progress.step column) { labels := seen.eraseDups }
    matrixLines groupCount p.labels p.cells =
      (matrixRows groupCount column (seen ++ labelsOf part).eraseDups part).map Row.render ++
        separator := by
  intro p
  have hlabels : p.labels = (seen ++ labelsOf part).eraseDups := labels_foldl column part _ rfl
  have hcells : ∀ label, cellValue p.cells label = cellIn column part label := by
    intro label
    funext group
    have h := cellValue_foldl column hpart { labels := seen.eraseDups } label group
    rwa [Nat.zero_add] at h
  simp only [matrixLines, matrixRows, hlabels, hcells, List.map_map, Function.comp_def]

/-- The lines of a single set. -/
theorem multiLines_of_set_notMem (groupCount : Nat) (column : Option Column) {part : List Entry}
    (hpart : Entry.set ∉ part) :
    multiLines groupCount column {} part =
      (matrixRows groupCount column (labelsOf part).eraseDups part).map Row.render ++
        separator := by
  have happend := multiLines_append groupCount column hpart {} []
  rw [List.append_nil] at happend
  rw [happend, multiLines]
  exact matrixLines_foldl groupCount column hpart []

/-- The lines with the labels of earlier sets known. -/
theorem multiLines_intercalate_of_seen (groupCount : Nat) (column : Option Column)
    {parts : List (List Entry)} (hne : parts ≠ []) (hparts : ∀ part ∈ parts, Entry.set ∉ part)
    (seen : List Text) :
    multiLines groupCount column { labels := seen.eraseDups } ([Entry.set].intercalate parts) =
      (List.range parts.length).flatMap fun s =>
        (matrixRows groupCount column (seen ++ (parts.take (s + 1)).flatMap labelsOf).eraseDups
          (parts.getD s [])).map Row.render ++ separator := by
  induction parts generalizing seen with
  | nil => exact absurd rfl hne
  | cons part parts ih =>
    have hpart : Entry.set ∉ part := hparts part List.mem_cons_self
    have hlines := matrixLines_foldl groupCount column hpart seen
    cases parts with
    | nil =>
      have happend := multiLines_append groupCount column hpart { labels := seen.eraseDups } []
      rw [List.append_nil] at happend
      rw [List.intercalate_singleton, happend, multiLines, hlines]
      simp
    | cons next parts =>
      have hlabels := labels_foldl column part { labels := seen.eraseDups } rfl
      have hrest := ih (by simp) (fun q hq => hparts q (List.mem_cons_of_mem part hq))
        (seen ++ labelsOf part)
      rw [List.intercalate_cons_cons, List.append_assoc, multiLines_append _ _ hpart,
        List.singleton_append, multiLines, hlines, hlabels, hrest, List.length_cons (a := part),
        List.range_succ_eq_map, List.flatMap_cons, List.flatMap_map]
      simp

/-- **The lines of the matrix layout.**  Entries that marks divide into sets are written as a matrix
for each set. -/
theorem multiLines_intercalate (groupCount : Nat) (column : Option Column)
    {parts : List (List Entry)} (hne : parts ≠ []) (hparts : ∀ part ∈ parts, Entry.set ∉ part) :
    multiLines groupCount column {} ([Entry.set].intercalate parts) =
      (List.range parts.length).flatMap fun s =>
        (matrixRows groupCount column (labelsThrough parts s) (parts.getD s [])).map Row.render ++
          separator :=
  multiLines_intercalate_of_seen groupCount column hne hparts []

/-- So any entries are written as a matrix for each part between marks of sets. -/
theorem multiLines_eq (groupCount : Nat) (column : Option Column) (entries : List Entry) :
    multiLines groupCount column {} entries =
      (List.range (entries.splitOn .set).length).flatMap fun s =>
        (matrixRows groupCount column (labelsThrough (entries.splitOn .set) s)
          ((entries.splitOn .set).getD s [])).map Row.render ++ separator := by
  have hlines := multiLines_intercalate groupCount column
    (List.splitOn_ne_nil Entry.set entries) fun _ => set_notMem_of_mem_splitOn
  rwa [List.intercalate_splitOn] at hlines

end Dataset
end ChartScript
