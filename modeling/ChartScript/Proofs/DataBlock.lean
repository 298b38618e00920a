import ChartScript.Proofs.Compilation
import ChartScript.Proofs.Reading

/-!
# Layouts of the data block

`Dataset.finalize` lays the data out in one of three ways and says nowhere which: it tries one
bucket after another and takes the first that holds anything.  The plot command is built without
looking at the outcome.  To ask whether the two fit, the choice has to be visible, so `DataLayout`
names the ways, `Dataset.layout` makes the choice, and `finalize_eq` says that the data block is the
one of that layout, or that there is none because errors do not match values.

The plotting program sees no layouts.  It reads the data as blocks that are separated by two empty
lines, and refers to them by index.  `separatorCount` and `blocks` cut a list of lines in this way
and know nothing of datasets; a statement that counted marks instead would take for granted what is
to be proved.

That blocks and marks correspond, `indexCount_finalize`, holds because a row is never written as an
empty line, and this is not true of every dataset.  A row without a label and values would be
written as one, and two of them as a separator.  `Labelled` excludes it.  It is a hypothesis here
and is discharged where rows come from, since no line is read as a row without a label.  A matrix
ends with a separator and a table does not, hence the index count of a layout and not of its lines
alone.
-/

set_option autoImplicit false

namespace ChartScript

/-! ## Layouts -/

/-- The ways to lay out a data block. -/
inductive DataLayout where
  /-- Rows as they were given. -/
  | table
  /-- A row for every label, with a value for every group. -/
  | matrix
  /-- Rows in which every value is followed by its error. -/
  | paired
  deriving DecidableEq, Repr

/-- The mode whose rows and marks a layout follows. -/
def DataLayout.mode : DataLayout → Mode
  | .table | .paired => .table
  | .matrix => .multi

namespace Dataset

/-- The layout of the data block. -/
def layout (d : Dataset) : DataLayout :=
  if d.multi ≠ [] then .matrix else if d.hasErrorBars then .paired else .table

/-- The lines of the data block in its layout.  Where errors cannot be paired there are none. -/
def laidOut (d : Dataset) (groupCount : Nat) (column : Option Column) : List Text :=
  match d.layout with
  | .table => d.table.flatMap tableLines
  | .matrix => multiLines groupCount column {} d.multi
  | .paired => (pairedLines d.table (d.rows .errorBars)).toOption.getD []

theorem layout_eq_matrix_iff (d : Dataset) : d.layout = .matrix ↔ d.multi ≠ [] := by
  rw [layout]
  split
  · simp_all
  · split <;> simp_all

theorem layout_eq_paired_iff (d : Dataset) :
    d.layout = .paired ↔ d.multi = [] ∧ d.errorBars ≠ [] := by
  by_cases hm : d.multi = [] <;> by_cases he : d.errorBars = [] <;>
    simp [layout, hasErrorBars, hm, he]

theorem layout_eq_table_iff (d : Dataset) :
    d.layout = .table ↔ d.multi = [] ∧ d.errorBars = [] := by
  by_cases hm : d.multi = [] <;> by_cases he : d.errorBars = [] <;>
    simp [layout, hasErrorBars, hm, he]

/-- With an error row for every row of the table, the error rows do not run out. -/
theorem exists_pairedLines_eq_ok {entries : List Entry} {errors : List Row}
    (h : (entries.filterMap Entry.row?).length ≤ errors.length) :
    ∃ lines, pairedLines entries errors = .ok lines := by
  fun_induction pairedLines entries errors with
  | case1 => exact ⟨[], rfl⟩
  | case2 r entries => exact absurd h (by simp [Entry.row?])
  | case3 r entries error errors ih =>
    obtain ⟨lines, hlines⟩ := ih (Nat.le_of_succ_le_succ h)
    exact ⟨_ :: lines, by rw [hlines, Except.map]⟩
  | case4 entries errors ih =>
    obtain ⟨lines, hlines⟩ := ih h
    exact ⟨separator ++ lines, by rw [hlines, Except.map]⟩
  | case5 entries errors ih => exact ih h

/-- The data block is the one of the layout, unless errors are to be paired with another number of
values.  In particular the error rows never run out, because they are counted first. -/
theorem finalize_eq (d : Dataset) (groupCount : Nat) (column : Option Column) :
    d.finalize groupCount column =
      if d.layout = .paired ∧ (d.rows .table).length ≠ (d.rows .errorBars).length then
        .error (.unpaired ⟨(d.rows .table).length, (d.rows .errorBars).length⟩)
      else .ok (d.laidOut groupCount column) := by
  cases hl : d.layout with
  | matrix =>
    have hm := (layout_eq_matrix_iff d).mp hl
    rw [finalize_of_multi hm, laidOut, hl, if_neg (by simp)]
    rfl
  | table =>
    obtain ⟨hm, he⟩ := (layout_eq_table_iff d).mp hl
    rw [finalize_of_table hm he, laidOut, hl, if_neg (by simp)]
  | paired =>
    obtain ⟨hm, he⟩ := (layout_eq_paired_iff d).mp hl
    rw [finalize_of_errorBars hm he, laidOut, hl]
    by_cases h : (d.rows .table).length = (d.rows .errorBars).length
    · obtain ⟨lines, hlines⟩ := exists_pairedLines_eq_ok (Nat.le_of_eq h)
      rw [if_pos h, if_neg (by simp [h])]
      dsimp only
      rw [show pairedLines d.table _ = .ok lines from hlines]
      rfl
    · rw [if_neg h, if_pos ⟨rfl, h⟩]

theorem finalize_eq_ok_iff {d : Dataset} {groupCount : Nat} {column : Option Column}
    {data : List Text} :
    d.finalize groupCount column = .ok data ↔
      (d.layout = .paired → (d.rows .table).length = (d.rows .errorBars).length) ∧
        data = d.laidOut groupCount column := by
  rw [finalize_eq]
  split
  · next h => simp [h]
  · next h =>
    rw [not_and, not_not] at h
    rw [and_iff_right h, Except.ok.injEq, eq_comm]

theorem finalize_eq_error_iff {d : Dataset} {groupCount : Nat} {column : Option Column}
    {fault : DataFault} :
    d.finalize groupCount column = .error fault ↔
      (d.layout = .paired ∧ (d.rows .table).length ≠ (d.rows .errorBars).length) ∧
        fault = .unpaired ⟨(d.rows .table).length, (d.rows .errorBars).length⟩ := by
  rw [finalize_eq]
  split
  · next h => simp [h, eq_comm]
  · next h => simp [h]

/-- The number of groups counts only as far as it is positive. -/
theorem finalize_toNat (d : Dataset) (groupCount : Int) (column : Option Column) :
    d.finalize groupCount column = d.finalize groupCount.toNat column := by
  by_cases hm : d.multi = []
  · by_cases he : d.errorBars = []
    · rw [finalize_of_table hm he, finalize_of_table hm he]
    · rw [finalize_of_errorBars hm he, finalize_of_errorBars hm he]
  · rw [finalize_of_multi hm, finalize_of_multi hm, Int.toNat_natCast]

/-! ## Separators and blocks -/

theorem eq_nil_of_mem_separator {line : Text} (h : line ∈ separator) : line = [] := by
  rcases List.mem_cons.mp h with rfl | hlast
  · rfl
  · exact List.mem_singleton.mp hlast

/-- The number of separators in a list of lines, from the first on and without overlap. -/
def separatorCount : List Text → Nat
  | [] => 0
  | [] :: [] :: rest => separatorCount rest + 1
  | _ :: rest => separatorCount rest

theorem separatorCount_separator (rest : List Text) :
    separatorCount (separator ++ rest) = separatorCount rest + 1 := rfl

theorem separatorCount_cons_of_ne_nil {line : Text} (h : line ≠ []) (rest : List Text) :
    separatorCount (line :: rest) = separatorCount rest := by
  obtain ⟨c, cs, rfl⟩ := List.exists_cons_of_ne_nil h
  rfl

theorem separatorCount_append {lines : List Text} (h : ∀ line ∈ lines, line ≠ [])
    (rest : List Text) : separatorCount (lines ++ rest) = separatorCount rest := by
  induction lines with
  | nil => rfl
  | cons line lines ih =>
    rw [List.cons_append, separatorCount_cons_of_ne_nil (h line (by simp)),
      ih fun l hl => h l (by simp [hl])]

/-- The blocks of a list of lines, cut after every separator; the separators are left out, and so
is what comes after the last of them when there is nothing. -/
def blocks : List Text → List (List Text)
  | [] => []
  | [] :: [] :: rest => [] :: blocks rest
  | line :: rest =>
    match blocks rest with
    | [] => [[line]]
    | block :: more => (line :: block) :: more

theorem blocks_cons_of_ne_nil {line : Text} (h : line ≠ []) {rest : List Text} {block : List Text}
    {more : List (List Text)} (hrest : blocks rest = block :: more) :
    blocks (line :: rest) = (line :: block) :: more := by
  obtain ⟨c, cs, rfl⟩ := List.exists_cons_of_ne_nil h
  rw [blocks, hrest]
  simp

/-- Lines and a separator after them are a block. -/
theorem blocks_append {lines : List Text} (h : ∀ line ∈ lines, line ≠ []) (rest : List Text) :
    blocks (lines ++ separator ++ rest) = lines :: blocks rest := by
  induction lines with
  | nil => rfl
  | cons line lines ih =>
    exact blocks_cons_of_ne_nil (h line (by simp)) (ih fun l hl => h l (by simp [hl]))

theorem blocks_flatMap {parts : List (List Text)} (h : ∀ part ∈ parts, ∀ line ∈ part, line ≠ []) :
    blocks (parts.flatMap (· ++ separator)) = parts := by
  induction parts with
  | nil => rfl
  | cons part parts ih =>
    rw [List.flatMap_cons, blocks_append (h part (by simp)), ih fun q hq => h q (by simp [hq])]

/-! ## The blocks of each layout -/

/-- Every row among the entries has a label. -/
def Labelled (entries : List Entry) : Prop := ∀ r, Entry.row r ∈ entries → r.label ≠ []

theorem Labelled.tail {e : Entry} {entries : List Entry} (h : Labelled (e :: entries)) :
    Labelled entries := fun r hr => h r (by simp [hr])

theorem separatorCount_tableLines {entries : List Entry} (h : Labelled entries) :
    separatorCount (entries.flatMap tableLines) = entries.count .set := by
  induction entries with
  | nil => rfl
  | cons e entries ih =>
    rw [List.flatMap_cons]
    cases e with
    | row r =>
      have hr : r.render ≠ [] := Row.render_ne_nil (h r (by simp)) r.values
      rw [tableLines, List.singleton_append, separatorCount_cons_of_ne_nil hr, ih h.tail,
        List.count_cons_of_ne (by simp)]
    | set => rw [tableLines, separatorCount_separator, ih h.tail, List.count_cons_self]
    | group => rw [tableLines, List.nil_append, ih h.tail, List.count_cons_of_ne (by simp)]

theorem separatorCount_pairedLines {entries : List Entry} (h : Labelled entries)
    {errors : List Row} {lines : List Text} (hlines : pairedLines entries errors = .ok lines) :
    separatorCount lines = entries.count .set := by
  fun_induction pairedLines entries errors generalizing lines with
  | case1 =>
    obtain rfl := Except.ok.inj hlines
    rfl
  | case2 => exact absurd hlines (by simp)
  | case3 r entries error errors ih =>
    obtain ⟨rest, hrest, rfl⟩ := exists_of_map_eq_ok hlines
    have hlabel : r.label ≠ [] := h r (by simp)
    rw [separatorCount_cons_of_ne_nil (Row.render_ne_nil hlabel _), ih h.tail hrest,
      List.count_cons_of_ne (by simp)]
  | case4 entries errors ih =>
    obtain ⟨rest, hrest, rfl⟩ := exists_of_map_eq_ok hlines
    rw [separatorCount_separator, ih h.tail hrest, List.count_cons_self]
  | case5 entries errors ih => rw [ih h.tail hlines, List.count_cons_of_ne (by simp)]

theorem matrixLines_eq (groupCount : Nat) (labels : List Text) (cells : List Cell) :
    ∃ rows : List Text, matrixLines groupCount labels cells = rows ++ separator ∧
      ((∀ label ∈ labels, label ≠ []) → ∀ row ∈ rows, row ≠ []) := by
  refine ⟨_, rfl, fun h row hrow => ?_⟩
  obtain ⟨label, hlabel, rfl⟩ := List.mem_map.mp hrow
  exact Row.render_ne_nil (h label hlabel) _

theorem separatorCount_matrixLines (groupCount : Nat) {labels : List Text}
    (h : ∀ label ∈ labels, label ≠ []) (cells : List Cell) (rest : List Text) :
    separatorCount (matrixLines groupCount labels cells ++ rest) = separatorCount rest + 1 := by
  obtain ⟨rows, hrows, hne⟩ := matrixLines_eq groupCount labels cells
  rw [hrows, List.append_assoc, separatorCount_append (hne h), separatorCount_separator]

/-- The matrices of the sets are as many as the marks between them, and one more. -/
theorem separatorCount_multiLines (groupCount : Nat) (column : Option Column)
    {entries : List Entry} (h : Labelled entries) (p : Progress)
    (hp : ∀ label ∈ p.labels, label ≠ []) :
    separatorCount (multiLines groupCount column p entries) = entries.count .set + 1 := by
  induction entries generalizing p with
  | nil =>
    rw [multiLines, ← List.append_nil (matrixLines _ _ _), separatorCount_matrixLines _ hp]
    rfl
  | cons e entries ih =>
    cases e with
    | group =>
      rw [multiLines, ih h.tail { p with group := p.group + 1 } hp,
        List.count_cons_of_ne (by simp)]
    | set =>
      rw [multiLines, separatorCount_matrixLines _ hp, ih h.tail { labels := p.labels } hp,
        List.count_cons_self]
    | row r =>
      have hlabels : ∀ label ∈ (if p.labels.contains r.label then p.labels
          else p.labels ++ [r.label]), label ≠ [] := by
        intro label hlabel
        split at hlabel
        · exact hp label hlabel
        · rcases List.mem_append.mp hlabel with hl | hl
          · exact hp label hl
          · rw [List.mem_singleton.mp hl]
            exact h r (by simp)
      rw [multiLines, ih h.tail _ hlabels, List.count_cons_of_ne (by simp)]

end Dataset

/-- The number of blocks that a data block has for the plotting program.  A matrix ends with a
separator of its own; elsewhere separators stand between blocks. -/
def DataLayout.indexCount (layout : DataLayout) (data : List Text) : Nat :=
  match layout with
  | .matrix => Dataset.separatorCount data
  | .table | .paired => Dataset.separatorCount data + 1

namespace Dataset

/-- There is a block for every mark in the bucket that is laid out, and one more. -/
theorem indexCount_finalize {d : Dataset} (h : ∀ m, Labelled (d.bucket m)) {groupCount : Int}
    {column : Option Column} {data : List Text} (hdata : d.finalize groupCount column = .ok data) :
    d.layout.indexCount data = (d.bucket d.layout.mode).count .set + 1 := by
  rw [finalize_toNat, finalize_eq_ok_iff, laidOut] at hdata
  obtain ⟨hlength, rfl⟩ := hdata
  cases hl : d.layout with
  | table => exact congrArg (· + 1) (separatorCount_tableLines (h .table))
  | matrix => exact separatorCount_multiLines _ column (h .multi) {} (by simp)
  | paired =>
    obtain ⟨lines, hlines⟩ := exists_pairedLines_eq_ok (Nat.le_of_eq (hlength hl))
    have hcount := separatorCount_pairedLines (h .table) hlines
    dsimp only
    rw [show pairedLines d.table _ = .ok lines from hlines]
    exact congrArg (· + 1) hcount

end Dataset

/-- Every row that a description collects has a label. -/
theorem Description.labelled_bucket_ofLines (lines : List Text) (m : Mode) :
    Dataset.Labelled ((ofLines lines).dataset.bucket m) := by
  intro r hr
  obtain ⟨pre, line, post, -, hline, -⟩ := row_mem_bucket_ofLines.mp hr
  exact Line.label_ne_nil_of_read_eq_row hline

end ChartScript
