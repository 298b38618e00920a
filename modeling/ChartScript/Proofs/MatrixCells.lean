import ChartScript.Proofs.Matrix

/-!
# The matrix, cell by cell

`Proofs.Matrix` turns the loop of the multi mode into functions on the entries.  They are shorter
than the loop, but still code: to see that `cellIn` gives the value an author expects, one has to
follow a cut, a filter and a last element.  This file says what the data block has to be by
conditions on it, and that the block is the only one to meet them.

`IsCell` says which value belongs into the cell of a label and a group.  A row stands in a group
when there are as many marks of groups before it as the group has number, which is a condition on
the place of the row and needs no cutting; of several rows the one farthest behind counts; and where
there is none the value is the missing one.  `IsFirstOccurrences` says what it is to list the
members of a list once each, in the order in which they first occur.  Both determine what they
describe, and the uniqueness lemmas say so: a specification that a wrong matrix could meet as well
would be no specification.

`IsMatrix` puts both together for one set.  Its labels are those of the set *and of the sets before
it*, so the condition takes all sets and the number of one.  The number of groups is an integer,
since callers can pass any, and a negative number of groups is as good as none.

`finalize_of_multi_ne_nil` then needs no hypothesis but that the bucket holds something.  It also
says what becomes of rows behind the last group: they add their label and nothing else, which is the
case that an author is most likely to be surprised by.
-/

set_option autoImplicit false

namespace ChartScript

/-! ## First occurrences -/

/-- `kept` lists what is in `all`, each once and in the order of the first occurrences. -/
structure IsFirstOccurrences (all kept : List Text) : Prop where
  nodup : kept.Nodup
  mem_iff : ∀ text, text ∈ kept ↔ text ∈ all
  ordered : kept.Pairwise fun a b => all.idxOf a < all.idxOf b

theorem isFirstOccurrences_eraseDups (all : List Text) :
    IsFirstOccurrences all all.eraseDups := by
  have hordered : all.eraseDups.Pairwise fun a b => all.idxOf a < all.idxOf b := by
    induction all using List.reverseRecOn with
    | nil => simp
    | append_singleton all last ih =>
      have hold : ∀ a ∈ all.eraseDups, (all ++ [last]).idxOf a = all.idxOf a := fun a ha => by
        rw [List.idxOf_append, if_pos (List.mem_eraseDups.mp ha)]
      rw [List.eraseDups_append, List.pairwise_append]
      refine ⟨ih.imp_of_mem fun {a b} ha hb hab => ?_, ?_, fun a ha b hb => ?_⟩
      · rwa [hold a ha, hold b hb]
      · by_cases h : last ∈ all <;> simp [List.removeAll, h, List.eraseDups_cons]
      · obtain ⟨hb, hnew⟩ : b = last ∧ last ∉ all := by
          by_cases h : last ∈ all <;> simp [List.removeAll, h, List.eraseDups_cons] at hb ⊢
          exact hb
        rw [hold a ha, hb, List.idxOf_append, if_neg hnew]
        have hlt : all.idxOf a < all.length :=
          List.idxOf_lt_length_iff.mpr (List.mem_eraseDups.mp ha)
        omega
  refine ⟨hordered.imp fun {a b} hab heq => ?_, fun text => List.mem_eraseDups, hordered⟩
  rw [heq] at hab
  exact absurd hab (Nat.lt_irrefl _)

/-- There is only one way to list first occurrences. -/
theorem IsFirstOccurrences.unique {all kept kept' : List Text} (h : IsFirstOccurrences all kept)
    (h' : IsFirstOccurrences all kept') : kept = kept' := by
  have hperm : kept.Perm kept' := (List.perm_ext_iff_of_nodup h.nodup h'.nodup).mpr fun text =>
    (h.mem_iff text).trans (h'.mem_iff text).symm
  exact hperm.eq_of_pairwise (fun a b _ _ hab hba => absurd hba (Nat.lt_asymm hab)) h.ordered
    h'.ordered

namespace Dataset

/-! ## Cells -/

/-- A row with a label stands in a group of a set, with `before` in front of it: as many marks of
groups are there as the group has number. -/
def StandsBehind (part : List Entry) (label : Text) (group : Nat) (before : List Entry) (r : Row) :
    Prop :=
  (∃ rest, part = before ++ .row r :: rest) ∧ r.label = label ∧ before.count .group = group

/-- What belongs into the cell of a label and a group: the value charted for the last such row, or
the missing value when there is none. -/
inductive IsCell (column : Option Column) (part : List Entry) (label : Text) (group : Nat) :
    Text → Prop
  | last {before : List Entry} {r : Row} (h : StandsBehind part label group before r)
      (hlast : ∀ before' r', StandsBehind part label group before' r' →
        before'.length ≤ before.length) :
      IsCell column part label group (chartedValue column r)
  | missing (h : ∀ before r, ¬StandsBehind part label group before r) :
      IsCell column part label group missing

/-- A cell has one value. -/
theorem IsCell.unique {column : Option Column} {part : List Entry} {label : Text} {group : Nat}
    {value value' : Text} (h : IsCell column part label group value)
    (h' : IsCell column part label group value') : value = value' := by
  cases h with
  | missing hnone =>
    cases h' with
    | missing => rfl
    | last hr' => exact absurd hr' (hnone _ _)
  | last hr hlast =>
    cases h' with
    | missing hnone => exact absurd hr (hnone _ _)
    | last hr' hlast' =>
      obtain ⟨rest, hpart⟩ := hr.1
      obtain ⟨rest', hpart'⟩ := hr'.1
      have hlength := Nat.le_antisymm (hlast' _ _ hr) (hlast _ _ hr')
      have hrow := (List.append_inj (hpart.symm.trans hpart') hlength).2
      rw [Entry.row.inj (List.cons.inj hrow).1]

theorem IsCell.of_standsBehind_iff {column : Option Column} {part part' : List Entry} {label : Text}
    {group : Nat} {value : Text} (h : IsCell column part label group value)
    (hiff : ∀ before r,
      StandsBehind part' label group before r ↔ StandsBehind part label group before r) :
    IsCell column part' label group value := by
  cases h with
  | last hr hlast =>
    exact .last ((hiff _ _).mpr hr) fun before r h => hlast before r ((hiff before r).mp h)
  | missing hnone => exact .missing fun before r h => hnone before r ((hiff before r).mp h)

/-- An entry at the end of a set belongs to the group that the marks before it say. -/
theorem groupRows_append_singleton {part : List Entry} (hpart : Entry.set ∉ part) (e : Entry)
    (group : Nat) :
    groupRows (part ++ [e]) group =
      groupRows part group ++ if part.count .group = group then e.row?.toList else [] := by
  induction part generalizing group with
  | nil =>
    cases e with
    | row r =>
      cases group <;> simp [groupRows_row_zero, groupRows_row_succ, groupRows_nil, Entry.row?]
    | group =>
      cases group <;> simp [groupRows_group_zero, groupRows_group_succ, groupRows_nil, Entry.row?]
    | set => cases group <;> rfl
  | cons f part ih =>
    have ih := ih fun h => hpart (List.mem_cons_of_mem f h)
    rw [List.cons_append]
    cases f with
    | set => exact absurd List.mem_cons_self hpart
    | group =>
      cases group with
      | zero => simp [groupRows_group_zero]
      | succ group => simp [groupRows_group_succ, ih]
    | row q =>
      cases group with
      | zero => simp [groupRows_row_zero, ih]
      | succ group => simp [groupRows_row_succ, ih]

theorem standsBehind_append_singleton_iff {part before : List Entry} {e : Entry} {label : Text}
    {group : Nat} {r : Row} :
    StandsBehind (part ++ [e]) label group before r ↔
      StandsBehind part label group before r ∨
        (e = .row r ∧ before = part ∧ r.label = label ∧ part.count .group = group) := by
  constructor
  · rintro ⟨⟨rest, hrest⟩, hlabel, hcount⟩
    rcases append_singleton_eq_append_cons_iff.mp hrest with ⟨rest', -, hpart⟩ | ⟨rfl, hrow, -⟩
    · exact .inl ⟨⟨rest', hpart⟩, hlabel, hcount⟩
    · exact .inr ⟨hrow.symm, rfl, hlabel, hcount⟩
  · rintro (⟨⟨rest, rfl⟩, hlabel, hcount⟩ | ⟨rfl, rfl, hlabel, hcount⟩)
    · exact ⟨⟨rest ++ [e], by simp⟩, hlabel, hcount⟩
    · exact ⟨⟨[], rfl⟩, hlabel, hcount⟩

/-- The values of the matrix are those that belong there. -/
theorem isCell_cellIn (column : Option Column) {part : List Entry} (hpart : Entry.set ∉ part)
    (label : Text) (group : Nat) :
    IsCell column part label group (cellIn column part label group) := by
  induction part using List.reverseRecOn with
  | nil =>
    have hcell : cellIn column [] label group = missing := by
      rw [cellIn, groupRows_nil]
      rfl
    rw [hcell]
    refine .missing fun before r h => ?_
    obtain ⟨rest, hrest⟩ := h.1
    simp at hrest
  | append_singleton part e ih =>
    have hpart' : Entry.set ∉ part := fun h => hpart (List.mem_append_left [e] h)
    have hrows := groupRows_append_singleton hpart' e group
    by_cases hnew : ∃ r, e = .row r ∧ r.label = label ∧ part.count .group = group
    · -- the entry is a row for the cell, and none stands further behind
      obtain ⟨r, rfl, hlabel, hcount⟩ := hnew
      have hcell : cellIn column (part ++ [.row r]) label group = chartedValue column r := by
        simp [cellIn, hrows, hcount, Entry.row?, lastWith, hlabel]
      rw [hcell]
      refine .last ⟨⟨[], rfl⟩, hlabel, hcount⟩ fun before' r' h' => ?_
      obtain ⟨rest, hrest⟩ := h'.1
      have hlength := congrArg List.length hrest
      simp only [List.length_append, List.length_cons, List.length_nil] at hlength
      omega
    · have hsame : ∀ before r, StandsBehind (part ++ [e]) label group before r ↔
          StandsBehind part label group before r := by
        intro before r
        rw [standsBehind_append_singleton_iff, or_iff_left]
        rintro ⟨he, -, hlabel, hcount⟩
        exact hnew ⟨r, he, hlabel, hcount⟩
      have hcell : cellIn column (part ++ [e]) label group = cellIn column part label group := by
        have hlast : lastWith label (groupRows (part ++ [e]) group) =
            lastWith label (groupRows part group) := by
          rw [hrows]
          split
          · next hcount =>
            cases e with
            | row r =>
              have hlabel : r.label ≠ label := fun h => hnew ⟨r, rfl, h, hcount⟩
              simp [lastWith, Entry.row?, hlabel]
            | group => simp [Entry.row?]
            | set => simp [Entry.row?]
          · rw [List.append_nil]
        rw [cellIn, hlast, cellIn]
      rw [hcell]
      exact (ih hpart').of_standsBehind_iff hsame

/-! ## Matrices -/

/-- The rows are the matrix of a set: the labels of its rows and those of the sets before it, in the
order of their first occurrence, and for each of them a value for every group. -/
structure IsMatrix (sets : List (List Entry)) (groupCount : Int) (column : Option Column)
    (set : Nat) (rows : List Row) : Prop where
  labels : IsFirstOccurrences ((sets.take (set + 1)).flatMap labelsOf) (rows.map Row.label)
  width : ∀ r ∈ rows, (r.values.length : Int) = max 0 groupCount
  cells : ∀ r ∈ rows, ∀ group value, r.values[group]? = some value →
    IsCell column (sets.getD set []) r.label group value

/-- The matrices of all sets. -/
def AreMatrices (sets : List (List Entry)) (groupCount : Int) (column : Option Column)
    (matrices : List (List Row)) : Prop :=
  matrices.length = sets.length ∧
    ∀ set rows, matrices[set]? = some rows → IsMatrix sets groupCount column set rows

section

variable {sets : List (List Entry)} {groupCount : Int} {column : Option Column} {set : Nat}

theorem isMatrix_matrixRows (hset : Entry.set ∉ sets.getD set []) :
    IsMatrix sets groupCount column set
      (matrixRows groupCount.toNat column (labelsThrough sets set) (sets.getD set [])) where
  labels := by
    have hlabels : (matrixRows groupCount.toNat column (labelsThrough sets set)
        (sets.getD set [])).map Row.label = labelsThrough sets set := by
      simp [matrixRows, Function.comp_def]
    rw [hlabels]
    exact isFirstOccurrences_eraseDups _
  width := by
    intro r hr
    obtain ⟨label, -, rfl⟩ := List.mem_map.mp hr
    rw [List.length_map, List.length_range, Int.toNat_eq_max, Int.max_comm]
  cells := by
    intro r hr group value hvalue
    obtain ⟨label, -, rfl⟩ := List.mem_map.mp hr
    rw [List.getElem?_map] at hvalue
    obtain ⟨index, hindex, rfl⟩ := Option.map_eq_some_iff.mp hvalue
    obtain ⟨hlt, rfl⟩ := List.getElem?_eq_some_iff.mp hindex
    rw [List.getElem_range]
    exact isCell_cellIn column hset label group

theorem IsMatrix.unique {rows rows' : List Row} (h : IsMatrix sets groupCount column set rows)
    (h' : IsMatrix sets groupCount column set rows') : rows = rows' := by
  have hlabels : rows.map Row.label = rows'.map Row.label := h.labels.unique h'.labels
  -- a row of a matrix is determined by its label
  have hrow : ∀ r ∈ rows, ∀ r' ∈ rows', r.label = r'.label → r = r' := by
    intro r hr r' hr' hlabel
    have hwidth : r.values.length = r'.values.length := by
      have := (h.width r hr).trans (h'.width r' hr').symm
      omega
    have hvalues : r.values = r'.values := List.ext_getElem hwidth fun group hg hg' => by
      have hcell := h.cells r hr group _ (List.getElem?_eq_getElem hg)
      rw [hlabel] at hcell
      exact hcell.unique (h'.cells r' hr' group _ (List.getElem?_eq_getElem hg'))
    cases r
    cases r'
    rw [Row.mk.injEq]
    exact ⟨hlabel, hvalues⟩
  refine List.ext_getElem (by simpa using congrArg List.length hlabels) fun i hi hi' => ?_
  refine hrow _ (List.getElem_mem hi) _ (List.getElem_mem hi') ?_
  have hlabel : (rows.map Row.label)[i]? = (rows'.map Row.label)[i]? := by rw [hlabels]
  rw [List.getElem?_map, List.getElem?_map, List.getElem?_eq_getElem hi,
    List.getElem?_eq_getElem hi'] at hlabel
  exact Option.some.inj hlabel

/-- A row behind the last group that is asked for adds its label, but has no cell. -/
theorem IsMatrix.label_mem_of_le {rows : List Row} (h : IsMatrix sets groupCount column set rows)
    {before rest : List Entry} {r : Row} (hrow : sets[set]? = some (before ++ .row r :: rest))
    (hgroup : groupCount ≤ before.count .group) :
    r.label ∈ rows.map Row.label ∧ ∀ q ∈ rows, q.values[before.count .group]? = none := by
  constructor
  · rw [h.labels.mem_iff]
    have hmem : before ++ .row r :: rest ∈ sets.take (set + 1) :=
      List.mem_of_getElem? (by rw [List.getElem?_take_of_lt (Nat.lt_succ_self set), hrow])
    exact List.mem_flatMap.mpr ⟨_, hmem, mem_labelsOf_iff.mpr ⟨r, by simp, rfl⟩⟩
  · intro q hq
    have hwidth := h.width q hq
    rw [List.getElem?_eq_none_iff]
    omega

theorem AreMatrices.unique {matrices matrices' : List (List Row)}
    (h : AreMatrices sets groupCount column matrices)
    (h' : AreMatrices sets groupCount column matrices') : matrices = matrices' := by
  refine List.ext_getElem (h.1.trans h'.1.symm) fun set hset hset' => ?_
  exact (h.2 set _ (List.getElem?_eq_getElem hset)).unique
    (h'.2 set _ (List.getElem?_eq_getElem hset'))

end

/-- **The data block of the multi mode.**  Once there is an entry of that mode, finalization gives
lines, whatever number of groups is asked for: the matrix of each set between marks of sets, and the
separator after each.  The matrices are determined by the entries, and a row behind the last of the
groups only adds its label. -/
theorem finalize_of_multi_ne_nil {d : Dataset} (h : d.multi ≠ []) (groupCount : Int)
    (column : Option Column) :
    ∃ matrices : List (List Row),
      AreMatrices (d.multi.splitOn .set) groupCount column matrices ∧
      (∀ others, AreMatrices (d.multi.splitOn .set) groupCount column others →
        others = matrices) ∧
      (∀ (set : Nat) (rows : List Row) (before rest : List Entry) (r : Row),
        matrices[set]? = some rows →
        (d.multi.splitOn .set)[set]? = some (before ++ .row r :: rest) →
        groupCount ≤ before.count .group →
          r.label ∈ rows.map Row.label ∧ ∀ q ∈ rows, q.values[before.count .group]? = none) ∧
      d.finalize groupCount column =
        .ok (matrices.flatMap fun rows => rows.map Row.render ++ separator) := by
  let sets := d.multi.splitOn .set
  let matrices := (List.range sets.length).map fun set =>
    matrixRows groupCount.toNat column (labelsThrough sets set) (sets.getD set [])
  have hmatrices : AreMatrices sets groupCount column matrices := by
    refine ⟨by simp [matrices], fun set rows hrows => ?_⟩
    rw [List.getElem?_map] at hrows
    obtain ⟨index, hindex, rfl⟩ := Option.map_eq_some_iff.mp hrows
    obtain ⟨hlt, rfl⟩ := List.getElem?_eq_some_iff.mp hindex
    rw [List.getElem_range]
    rw [List.length_range] at hlt
    refine isMatrix_matrixRows ?_
    rw [List.getD_eq_getElem?_getD, List.getElem?_eq_getElem hlt, Option.getD_some]
    exact set_notMem_of_mem_splitOn (List.getElem_mem hlt)
  refine ⟨matrices, hmatrices, fun others hothers => hothers.unique hmatrices,
    fun set rows before rest r hrows hrow hgroup =>
      (hmatrices.2 set rows hrows).label_mem_of_le hrow hgroup, ?_⟩
  have hlayout : d.layout = .matrix := (layout_eq_matrix_iff d).mpr h
  rw [finalize_toNat, finalize_eq_ok_iff, hlayout, laidOut, hlayout]
  refine ⟨fun hpaired => absurd hpaired (by simp), ?_⟩
  simp only [matrices, sets, multiLines_eq, List.flatMap_map]

/-- Marks at the front and one after the other, a label given twice in a group, one that only the
last set has, and a row of a group that is not asked for. -/
theorem finalize_of_multi_ne_nil_uneven :
    let d : Dataset := { multi := [.set, .row ⟨"a", ["1"]⟩, .row ⟨"a", ["2"]⟩, .group, .group,
      .row ⟨"b", ["3"]⟩, .set, .group, .row ⟨"c", ["4"]⟩] }
    let lines : List Text :=
      ["", "", "a 2 -", "b - -", "", "", "a - -", "b - -", "c - 4", "", ""]
    d.multi ≠ [] ∧ d.finalize 2 none = .ok lines ∧
      ∃ matrices : List (List Row), AreMatrices (d.multi.splitOn .set) 2 none matrices ∧
        lines = matrices.flatMap fun rows => rows.map Row.render ++ separator := by
  intro d lines
  have hne : d.multi ≠ [] := by decide
  have hlines : d.finalize 2 none = .ok lines := by decide +kernel
  obtain ⟨matrices, hmatrices, -, -, hmatrixLines⟩ := finalize_of_multi_ne_nil hne 2 none
  exact ⟨hne, hlines, matrices, hmatrices, Except.ok.inj (hlines.symm.trans hmatrixLines)⟩

end Dataset
end ChartScript
