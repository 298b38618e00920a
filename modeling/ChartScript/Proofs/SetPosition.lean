import ChartScript.Proofs.GroupedRows

/-!
# Does a set depend on its place?

The directive of the multi mode ends a group, and leaves a mark for that once there is anything to
end.  Whether there is anything is asked of the whole bucket and not of the current set.  So a
directive in front of all rows of a set counts for nothing when the set is the first, and ends an
empty group when it is a later one: moving a set within a file can change its block.

To show the effect, and nothing besides, the same lines are given for two sets.  The lines may be
any rows and directives of the multi mode.  `leadingMarks` counts the directives in front of all
rows and `entriesOf` is what remains of the lines without them; the first set is these entries and
the second the same with that many marks in front (`foldl_takeIn_of_nil` and
`foldl_takeIn_of_ne_nil`, one for each answer to the question whether the bucket is empty).

What marks in front do to a matrix is a statement about `matrixRows` alone: values move to the
right, missing ones come in from the left, and what does not fit is lost (`Row.moveRight`).  The
blocks are compared as lines.  Since lines could agree by accident where rows do not, values have to
be words for this, and they are, because they come from lines.  `finalize_set_twice` is then an
equivalence: the blocks are the same exactly when there is no such directive, or no value to be
seen.
-/

set_option autoImplicit false

namespace ChartScript

namespace Line

/-- Whether a line is the directive of the multi mode. -/
def isMark : Line → Bool
  | .mode .multi => true
  | _ => false

/-- Whether a line is a row or the directive of the multi mode. -/
def isMulti : Line → Bool
  | .row _ => true
  | line => line.isMark

/-- The entry of a row, and the mark of any other line. -/
def entry : Line → Entry
  | .row r => .row r
  | _ => .group

theorem eq_mode_of_isMark {line : Line} (h : line.isMark = true) : line = .mode .multi := by
  unfold isMark at h
  split at h
  · rfl
  · exact absurd h (by simp)

theorem eq_row_or_isMark {line : Line} (h : line.isMulti = true) :
    (∃ r, line = .row r) ∨ line.isMark = true := by
  unfold isMulti at h
  split at h
  · exact Or.inl ⟨_, rfl⟩
  · exact Or.inr h

theorem isStructural_of_isMulti {line : Line} (h : line.isMulti = true) :
    line.isStructural = true := by
  rcases eq_row_or_isMark h with ⟨r, rfl⟩ | hmark
  · rfl
  · rw [eq_mode_of_isMark hmark]
    rfl

/-- The entries of lines are marks, as many as there are directives in front, and what the other
lines make. -/
theorem map_entry_eq (lines : List Line) :
    lines.map entry = List.replicate (lines.takeWhile isMark).length .group ++
      (lines.dropWhile isMark).map entry := by
  induction lines with
  | nil => rfl
  | cons line lines ih =>
    cases hmark : line.isMark with
    | false => simp [hmark]
    | true =>
      have hentry : line.entry = .group := by rw [eq_mode_of_isMark hmark]; rfl
      simp [hmark, hentry, ih, List.replicate_succ]

end Line

namespace Dataset

/-! ## Collecting the lines of a set -/

/-- Where there are entries, every line of a set adds one. -/
theorem foldl_takeIn_of_ne_nil {entries : List Entry} (hne : entries ≠ []) (titles : List Text)
    {lines : List Line} (hlines : ∀ line ∈ lines, line.isMulti = true) :
    lines.foldl takeIn (ofMulti entries titles) =
      ofMulti (entries ++ lines.map Line.entry) titles := by
  induction lines generalizing entries with
  | nil => simp
  | cons line lines ih =>
    have hstep : (ofMulti entries titles).takeIn line =
        ofMulti (entries ++ [line.entry]) titles := by
      rcases Line.eq_row_or_isMark (hlines line (by simp)) with ⟨r, rfl⟩ | hmark
      · rfl
      · rw [Line.eq_mode_of_isMark hmark]
        exact takeIn_mode_ofMulti hne titles
    rw [List.foldl_cons, hstep, ih (by simp) fun l hl => hlines l (by simp [hl])]
    simp

/-- Where there are none, the directives in front of the rows add nothing. -/
theorem foldl_takeIn_of_nil (titles : List Text) {lines : List Line}
    (hlines : ∀ line ∈ lines, line.isMulti = true) :
    lines.foldl takeIn (ofMulti [] titles) =
      ofMulti ((lines.dropWhile Line.isMark).map Line.entry) titles := by
  induction lines with
  | nil => rfl
  | cons line lines ih =>
    have htail : ∀ l ∈ lines, l.isMulti = true := fun l hl => hlines l (by simp [hl])
    rcases Line.eq_row_or_isMark (hlines line (by simp)) with ⟨r, rfl⟩ | hmark
    · exact foldl_takeIn_of_ne_nil (List.cons_ne_nil (Entry.row r) []) titles htail
    · obtain rfl := Line.eq_mode_of_isMark hmark
      exact ih htail

/-! ## Marks in front of a set -/

theorem groupRows_replicate_append (k : Nat) (part : List Entry) (group : Nat) :
    groupRows (List.replicate k .group ++ part) group =
      if group < k then [] else groupRows part (group - k) := by
  induction k generalizing group with
  | zero => simp
  | succ k ih =>
    rw [List.replicate_succ, List.cons_append]
    cases group with
    | zero => simp [groupRows_group_zero]
    | succ group => simp [groupRows_group_succ, ih]

end Dataset

/-- The row with its values moved to the right; missing values come in from the left and what does
not fit any more is lost. -/
def Row.moveRight (k : Nat) (r : Row) : Row :=
  ⟨r.label, (List.replicate k missing ++ r.values).take r.values.length⟩

namespace Dataset

/-- Marks in front of a set move its values to the right. -/
theorem matrixRows_replicate_append (groupCount : Nat) (column : Option Column)
    (labels : List Text) (k : Nat) (part : List Entry) :
    matrixRows groupCount column labels (List.replicate k .group ++ part) =
      (matrixRows groupCount column labels part).map (Row.moveRight k) := by
  have hcell : ∀ label group, cellIn column (List.replicate k .group ++ part) label group =
      if group < k then missing else cellIn column part label (group - k) := by
    intro label group
    rw [cellIn, groupRows_replicate_append]
    split <;> rfl
  rw [matrixRows, matrixRows, List.map_map]
  refine List.map_congr_left fun label _ => ?_
  show Row.mk label _ = Row.mk label _
  refine congrArg (Row.mk label) (List.ext_getElem (by simp) fun group hleft hright => ?_)
  rw [List.getElem_map, List.getElem_range, hcell, List.getElem_take, List.getElem_append]
  simp

end Dataset

namespace Row

/-- Only a row without values to be seen stays as it is when it is moved. -/
theorem moveRight_eq_self_iff (k : Nat) (r : Row) :
    r.moveRight k = r ↔ k = 0 ∨ ∀ value ∈ r.values, value = missing := by
  constructor
  · intro h
    refine Classical.or_iff_not_imp_left.mpr fun hk => ?_
    have hmoved : (List.replicate k missing ++ r.values).take r.values.length = r.values :=
      congrArg Row.values h
    -- a column has the value of the column `k` to the left, where the missing values start
    have hall : ∀ i, ∀ hi : i < r.values.length, r.values[i] = missing := by
      intro i
      induction i using Nat.strongRecOn with
      | ind i ih =>
        intro hi
        have hvalue : ((List.replicate k missing ++ r.values).take r.values.length)[i]? =
            some r.values[i] := by rw [hmoved, List.getElem?_eq_getElem hi]
        rw [List.getElem?_take_of_lt hi, List.getElem?_append] at hvalue
        by_cases hlt : i < k
        · have hnew : some missing = some r.values[i] := by simpa [hlt] using hvalue
          exact (Option.some.inj hnew).symm
        · have hback : i - k < r.values.length := by omega
          have hold : r.values[i - k] = r.values[i] := by simpa [hlt, hback] using hvalue
          rw [← hold, ih (i - k) (by omega) hback]
    intro value hvalue
    obtain ⟨i, hi, rfl⟩ := List.getElem_of_mem hvalue
    exact hall i hi
  · rintro (rfl | hall)
    · simp [moveRight]
    · have hvalues := List.eq_replicate_of_mem hall
      rw [moveRight, hvalues, List.replicate_append_replicate, List.take_replicate]
      simp [← hvalues]

theorem isWord_of_mem_moveRight {k : Nat} {r : Row} (h : ∀ value ∈ r.values, value.IsWord) :
    ∀ value ∈ (r.moveRight k).values, value.IsWord := by
  intro value hvalue
  rcases List.mem_append.mp (List.mem_of_mem_take hvalue) with hnew | hold
  · rw [List.eq_of_mem_replicate hnew]
    exact Text.isWord_missing
  · exact h value hold

/-- Rows of one label and equally many values can be told apart when they are written. -/
theorem eq_of_render_eq {r s : Row} (hlabel : r.label = s.label)
    (hlength : r.values.length = s.values.length) (hr : ∀ value ∈ r.values, value.IsWord)
    (hs : ∀ value ∈ s.values, value.IsWord) (h : r.render = s.render) : r = s := by
  have hvalues : r.values = s.values := by
    by_cases hne : r.values = []
    · rw [hne, List.length_nil, eq_comm, List.length_eq_zero_iff] at hlength
      rw [hne, hlength]
    · have hne' : s.values ≠ [] := fun hnil => hne (by simpa [hnil] using hlength)
      rw [Line.render_eq_rowLine hne, Line.render_eq_rowLine hne', Line.rowLine, Line.rowLine,
        hlabel] at h
      have hjoin := (List.cons.inj (List.append_cancel_left h)).2
      rw [← Text.words_join hr, hjoin, Text.words_join hs]
  cases r
  cases s
  exact congrArg₂ Row.mk hlabel hvalues

end Row

/-! ## The same lines twice -/

/-- The number of directives of the multi mode in front of all rows. -/
def leadingMarks (lines : List Text) : Nat :=
  ((lines.map Line.read).takeWhile Line.isMark).length

/-- The entries of lines without the directives in front of all rows. -/
def entriesOf (lines : List Text) : List Entry :=
  ((lines.map Line.read).dropWhile Line.isMark).map Line.entry

/-- The matrix of lines that are all there is. -/
def rowsOf (groupCount : Nat) (column : Option Column) (lines : List Text) : List Row :=
  Dataset.matrixRows groupCount column (Dataset.labelsOf (entriesOf lines)).eraseDups
    (entriesOf lines)

section Twice

variable {first second titleA titleB : Text} {lines : List Text}

theorem dataset_set_twice (hfirst : Line.read first = .newSet titleA)
    (hsecond : Line.read second = .newSet titleB)
    (hlines : ∀ line ∈ lines, (Line.read line).isMulti = true) :
    (Description.ofLines ((first :: lines) ++ (second :: lines))).dataset =
      Dataset.ofMulti
        ([Entry.set].intercalate [entriesOf lines,
          List.replicate (leadingMarks lines) .group ++ entriesOf lines])
        [titleA, titleB] := by
  have hmulti : ∀ line ∈ lines.map Line.read, line.isMulti = true := by
    intro line hline
    obtain ⟨text, htext, rfl⟩ := List.mem_map.mp hline
    exact hlines text htext
  have hstructural : (lines.map Line.read).filter Line.isStructural = lines.map Line.read :=
    List.filter_eq_self.mpr fun line hline => Line.isStructural_of_isMulti (hmulti line hline)
  have hreadings : (((first :: lines) ++ (second :: lines)).map Line.read).filter
      Line.isStructural =
      (.newSet titleA :: lines.map Line.read) ++ (.newSet titleB :: lines.map Line.read) := by
    rw [List.map_append, List.map_cons, List.map_cons, hfirst, hsecond, List.filter_append,
      List.filter_cons_of_pos rfl, List.filter_cons_of_pos rfl, hstructural]
  have hone : (.newSet titleA :: lines.map Line.read).foldl Dataset.takeIn {} =
      Dataset.ofMulti (entriesOf lines) [titleA] :=
    Dataset.foldl_takeIn_of_nil [titleA] hmulti
  have hset : (Dataset.ofMulti (entriesOf lines) [titleA]).takeIn (.newSet titleB) =
      Dataset.ofMulti (entriesOf lines ++ [.set]) [titleA, titleB] := by
    rw [Dataset.takeIn_newSet_ofMulti]
    rfl
  rw [Description.dataset_ofLines, hreadings, List.foldl_append, hone, List.foldl_cons, hset,
    Dataset.foldl_takeIn_of_ne_nil (by simp) _ hmulti, Line.map_entry_eq, ← entriesOf,
    ← leadingMarks]
  simp [List.intercalate_cons_cons]

/-- Two sets of the same lines are laid out with the same labels. -/
theorem multiLines_set_twice (groupCount : Nat) (column : Option Column) (lines : List Text) :
    Dataset.multiLines groupCount column {}
        ([Entry.set].intercalate [entriesOf lines,
          List.replicate (leadingMarks lines) .group ++ entriesOf lines]) =
      ((rowsOf groupCount column lines).map Row.render ++ Dataset.separator) ++
        (((rowsOf groupCount column lines).map (Row.moveRight (leadingMarks lines))).map
          Row.render ++ Dataset.separator) := by
  have hset : Entry.set ∉ entriesOf lines := by
    intro hmem
    obtain ⟨line, -, hentry⟩ := List.mem_map.mp hmem
    cases line <;> exact absurd hentry (by simp [Line.entry])
  have hmarks : Dataset.labelsOf (List.replicate (leadingMarks lines) .group ++ entriesOf lines) =
      Dataset.labelsOf (entriesOf lines) := by
    rw [Dataset.labelsOf, List.filterMap_append, List.filterMap_replicate_of_none rfl]
    rfl
  have hlabels : (Dataset.labelsOf (entriesOf lines) ++ Dataset.labelsOf
      (List.replicate (leadingMarks lines) .group ++ entriesOf lines)).eraseDups =
      (Dataset.labelsOf (entriesOf lines)).eraseDups := by
    rw [hmarks, eraseDups_append_of_subset (List.Subset.refl _)]
  rw [Dataset.multiLines_intercalate groupCount column (by simp) (by simp [hset])]
  simp [List.range_succ, Dataset.labelsThrough, hlabels, Dataset.matrixRows_replicate_append,
    rowsOf]

theorem isWord_of_mem_rowsOf {groupCount : Nat} {column : Option Column} {r : Row}
    (h : r ∈ rowsOf groupCount column lines) : ∀ value ∈ r.values, value.IsWord := by
  have hentries : ∀ r, Entry.row r ∈ entriesOf lines → ∀ value ∈ r.values, value.IsWord := by
    intro r hr value hvalue
    obtain ⟨line, hline, hentry⟩ := List.mem_map.mp hr
    obtain ⟨text, -, rfl⟩ := List.mem_map.mp (List.dropWhile_subset _ hline)
    have hread : Line.read text = .row r := by
      cases hread : Line.read text <;> simp_all [Line.entry]
    obtain ⟨-, rfl⟩ := Line.eq_read_of_ofStripped_eq_row hread
    exact Row.isWord_of_mem_values_read hvalue
  obtain ⟨label, -, rfl⟩ := List.mem_map.mp h
  intro value hvalue
  obtain ⟨group, -, rfl⟩ := List.mem_map.mp hvalue
  exact Dataset.cellIn_of_forall Text.isWord_missing (fun r hr _ => hentries r hr) column group

/-- **The same lines for two sets.**  The first set is laid out as if its lines were all there is.
In the second the values are moved to the right by the number of directives in front of all rows.
So the blocks are the same exactly when there is no such directive, or when there is no value to be
seen. -/
theorem finalize_set_twice (hfirst : Line.read first = .newSet titleA)
    (hsecond : Line.read second = .newSet titleB)
    (hlines : ∀ line ∈ lines, (Line.read line).isMulti = true) (groupCount : Int)
    (column : Option Column) :
    let rows := rowsOf groupCount.toNat column lines
    let moved := rows.map (Row.moveRight (leadingMarks lines))
    (Description.ofLines ((first :: lines) ++ (second :: lines))).dataset.finalize groupCount
        column =
      .ok ((rows.map Row.render ++ Dataset.separator) ++
        (moved.map Row.render ++ Dataset.separator)) ∧
    (rows.map Row.render = moved.map Row.render ↔
      leadingMarks lines = 0 ∨ ∀ r ∈ rows, ∀ value ∈ r.values, value = missing) := by
  intro rows moved
  refine ⟨?_, ?_⟩
  · rw [dataset_set_twice hfirst hsecond hlines,
      ← multiLines_set_twice groupCount.toNat column lines]
    exact Dataset.finalize_of_multi (by simp [Dataset.ofMulti, List.intercalate_cons_cons]) _ _
  · have hrow : ∀ r ∈ rows, (r.render = (r.moveRight (leadingMarks lines)).render ↔
        leadingMarks lines = 0 ∨ ∀ value ∈ r.values, value = missing) := by
      intro r hr
      rw [← Row.moveRight_eq_self_iff]
      refine ⟨fun h => ?_, fun h => by rw [h]⟩
      have hwords := isWord_of_mem_rowsOf hr
      have hlabel : r.label = (r.moveRight (leadingMarks lines)).label := rfl
      have hlength : r.values.length = (r.moveRight (leadingMarks lines)).values.length := by
        simp [Row.moveRight]
      exact (Row.eq_of_render_eq hlabel hlength hwords (Row.isWord_of_mem_moveRight hwords) h).symm
    rw [List.map_map, List.map_inj_left]
    constructor
    · intro h
      refine Classical.or_iff_not_imp_left.mpr fun hk r hr => ?_
      exact ((hrow r hr).mp (h r hr)).resolve_left hk
    · rintro (hk | hall) r hr
      · exact (hrow r hr).mpr (Or.inl hk)
      · exact (hrow r hr).mpr (Or.inr (hall r hr))

end Twice

/-- Each group behind a directive of its own: the second set has the values of the first group in
the column of the second, and those of the second group nowhere. -/
theorem blocks_differ_for_leading_directive :
    let first : Text := "multimulti=A"
    let second : Text := "multimulti=B"
    let lines : List Text := ["=multi", "a 1", "=multi", "a 2"]
    ∃ one two : List Text,
      (Description.ofLines ((first :: lines) ++ (second :: lines))).dataset.finalize 2 none =
        .ok ((one ++ Dataset.separator) ++ (two ++ Dataset.separator)) ∧
      one = [Text.ofString "a 1 2"] ∧ two = [Text.ofString "a - 1"] ∧ one ≠ two := by
  intro first second lines
  have hfirst : Line.read first = .newSet "A" := by decide
  have hsecond : Line.read second = .newSet "B" := by decide
  obtain ⟨hdata, hsame⟩ := finalize_set_twice hfirst hsecond (by decide : ∀ line ∈ lines, _) 2 none
  refine ⟨_, _, hdata, by decide, by decide, fun h => ?_⟩
  rcases hsame.mp h with hmarks | hvalues
  · exact absurd hmarks (by decide)
  · exact absurd (hvalues ⟨"a", ["1", "2"]⟩ (by decide) "1" (by decide)) (by decide)

end ChartScript
