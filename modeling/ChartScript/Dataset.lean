import ChartScript.Column
import ChartScript.Event
import ChartScript.Titles

/-!
# Datasets

The data rows of a chart are collected in one bucket per layout, called a mode:

* `table`: each row holds one value per group;
* `multi`: the groups are listed one after the other, with a mark between two of them;
* `errorBars`: rows in the layout of `table` that hold the errors of its values.

A chart may have several cluster sets.  The second and every later one starts with a mark in the
bucket of the mode that is active then.

`Dataset.finalize` lays the rows out as the lines of a data block.  Two empty lines separate sets.
For `multi` rows the block is a matrix of all labels, in the order of their first occurrence, and
the groups; for error bars every value is followed by its error.
-/

set_option autoImplicit false

namespace ChartScript

/-- What a bucket holds: rows, the mark between two groups and the mark that starts a set. -/
inductive Entry where
  | row (row : Row)
  | group
  | set
  deriving DecidableEq, Repr

/-- The row of an entry that holds one. -/
def Entry.row? : Entry → Option Row
  | .row r => some r
  | _ => none

/-- The rows collected so far, the active mode and the titles of the sets. -/
structure Dataset where
  mode : Mode := .multi
  table : List Entry := []
  multi : List Entry := []
  errorBars : List Entry := []
  setTitles : List Text := []
  deriving DecidableEq, Repr

/-- The numbers of value rows and of error rows that do not agree. -/
structure UnpairedRows where
  values : Nat
  errors : Nat
  deriving DecidableEq, Repr

/-- The fault in words. -/
def UnpairedRows.message (f : UnpairedRows) : String :=
  s!"Malformed input: {f.values} value row(s) but {f.errors} error bar row(s)"

/-- Advice on the fault. -/
def UnpairedRows.hint : String := "Every =table row needs exactly one =yerrorbars row"

/-- Why there is no data block. -/
inductive DataFault where
  | unpaired (counts : UnpairedRows)
  /-- The error rows ran out before the value rows did. -/
  | exhausted
  deriving DecidableEq, Repr

/-- The fault in words; there are none for error rows that ran out. -/
def DataFault.message : DataFault → String
  | .unpaired counts => counts.message
  | .exhausted => ""

namespace Dataset

/-! ## Collection -/

/-- The entries collected in a mode. -/
def bucket (d : Dataset) : Mode → List Entry
  | .table => d.table
  | .multi => d.multi
  | .errorBars => d.errorBars

/-- Adds an entry to the bucket of a mode. -/
def push (d : Dataset) (mode : Mode) (entry : Entry) : Dataset :=
  match mode with
  | .table => { d with table := d.table ++ [entry] }
  | .multi => { d with multi := d.multi ++ [entry] }
  | .errorBars => { d with errorBars := d.errorBars ++ [entry] }

@[simp]
theorem bucket_push_self (d : Dataset) (mode : Mode) (entry : Entry) :
    (d.push mode entry).bucket mode = d.bucket mode ++ [entry] := by
  cases mode <;> rfl

theorem bucket_push_of_ne (d : Dataset) {mode other : Mode} (entry : Entry) (h : other ≠ mode) :
    (d.push mode entry).bucket other = d.bucket other := by
  cases mode <;> cases other <;> first | rfl | exact absurd rfl h

@[simp]
theorem mode_push (d : Dataset) (mode : Mode) (entry : Entry) :
    (d.push mode entry).mode = d.mode := by
  cases mode <;> rfl

@[simp]
theorem setTitles_push (d : Dataset) (mode : Mode) (entry : Entry) :
    (d.push mode entry).setTitles = d.setTitles := by
  cases mode <;> rfl

/-- Makes `mode` the active mode.  The directive for `multi` ends a group, so it leaves a mark once
there is anything to end. -/
def switchMode (d : Dataset) (mode : Mode) : Dataset :=
  let d := if mode = .multi ∧ d.multi ≠ [] then d.push .multi .group else d
  { d with mode := mode }

/-- Makes `mode` the active mode, and logs it. -/
def switchModeM (d : Dataset) (mode : Mode) : Logging Dataset := do
  Event.log (.modeSwitched d.mode mode)
  return d.switchMode mode

/-- Adds a row to the active mode. -/
def addRow (d : Dataset) (row : Row) : Dataset := d.push d.mode (.row row)

/-- Starts a cluster set. -/
def beginSet (d : Dataset) (title : Text) : Dataset :=
  let d := if d.setTitles ≠ [] then d.push d.mode .set else d
  { d with setTitles := d.setTitles ++ [title] }

/-- Starts a cluster set, and logs it. -/
def beginSetM (d : Dataset) (title : Text) : Logging Dataset := do
  let begun := d.beginSet title
  Event.log (.setBegun begun.setTitles.length title)
  return begun

/-! ## Queries -/

/-- The rows collected in a mode, in order. -/
def rows (d : Dataset) (mode : Mode) : List Row := (d.bucket mode).filterMap Entry.row?

/-- Whether anything was collected in the error-bar mode. -/
def hasErrorBars (d : Dataset) : Bool := !d.errorBars.isEmpty

/-- The number of sets; data without set titles is one set. -/
def setCount (d : Dataset) : Nat := if d.setTitles.isEmpty then 1 else d.setTitles.length

/-- The title of a set, as `titleAt` counts. -/
def setTitle (d : Dataset) (index : Int) : Except NoSuchTitle (Option Text) :=
  titleAt d.setTitles index

/-- The labels of the rows in the multi layout, in the order of their first occurrence. -/
def labels (d : Dataset) : List Text :=
  (d.rows .multi).foldl (fun seen row =>
    if seen.contains row.label then seen else seen ++ [row.label]) []

/-! ## Table layout -/

/-- The two empty lines between sets. -/
def separator : List Text := ["", ""]

/-- The lines of an entry in table layout. -/
def tableLines : Entry → List Text
  | .row r => [r.render]
  | .set => separator
  | .group => []

/-! ## Error bars -/

/-- Every value followed by its error, or by the missing value where there is none. -/
def interleave : List Text → List Text → List Text
  | [], _ => []
  | value :: values, errors => value :: errors.headD missing :: interleave values errors.tail

/-- The lines of the table entries, each row paired with the next error row. -/
def pairedLines : List Entry → List Row → Except DataFault (List Text)
  | [], _ => .ok []
  | .row _ :: _, [] => .error .exhausted
  | .row r :: entries, error :: errors =>
    (pairedLines entries errors).map
      ((Row.mk r.label (interleave r.values error.values)).render :: ·)
  | .set :: entries, errors => (pairedLines entries errors).map (separator ++ ·)
  | .group :: entries, errors => pairedLines entries errors

/-! ## Multi layout -/

/-- A value of the matrix: its label and group. -/
structure Cell where
  label : Text
  group : Nat
  value : Text
  deriving DecidableEq, Repr

/-- The value charted for a row. -/
def chartedValue (column : Option Column) (row : Row) : Text :=
  match column with
  | some column => column.select row.values
  | none => row.values.headD missing

/-- The value of a cell: of several values for the same label and group the latest counts.  `cells`
has the latest first. -/
def cellValue (cells : List Cell) (label : Text) (group : Nat) : Text :=
  match cells.find? fun cell => cell.label == label && cell.group == group with
  | some cell => cell.value
  | none => missing

/-- The lines of one set: a row per label with a value per group, and the separator. -/
def matrixLines (groupCount : Nat) (labels : List Text) (cells : List Cell) : List Text :=
  labels.map (fun label =>
    (Row.mk label ((List.range groupCount).map (cellValue cells label))).render) ++ separator

/-- What is known while the entries are read: the labels so far, in the order of their first
occurrence, the cells of the current set, latest first, and the current group. -/
structure Progress where
  labels : List Text := []
  cells : List Cell := []
  group : Nat := 0
  deriving DecidableEq, Repr

/-- The lines of the entries, set by set. -/
def multiLines (groupCount : Nat) (column : Option Column) : Progress → List Entry → List Text
  | p, [] => matrixLines groupCount p.labels p.cells
  | p, .group :: entries => multiLines groupCount column { p with group := p.group + 1 } entries
  | p, .set :: entries =>
    matrixLines groupCount p.labels p.cells ++
      multiLines groupCount column { labels := p.labels } entries
  | p, .row r :: entries =>
    let labels := if p.labels.contains r.label then p.labels else p.labels ++ [r.label]
    let cell : Cell := ⟨r.label, p.group, chartedValue column r⟩
    multiLines groupCount column ⟨labels, cell :: p.cells, p.group⟩ entries

/-! ## Finalization -/

/-- The lines of the data block.  A matrix is logged. -/
def finalizeM (d : Dataset) (groupCount : Int) (column : Option Column) :
    ExceptT DataFault Logging (List Text) := do
  if d.multi ≠ [] then
    let lines := multiLines groupCount.toNat column {} d.multi
    Event.log (.labelsLaidOut d.labels.length groupCount)
    return lines
  else if d.hasErrorBars then
    let values := (d.rows .table).length
    let errors := (d.rows .errorBars).length
    if values = errors then Logging.known (pairedLines d.table (d.rows .errorBars))
    else throw (.unpaired ⟨values, errors⟩)
  else return d.table.flatMap tableLines

/-- The lines of the data block. -/
def finalize (d : Dataset) (groupCount : Int) (column : Option Column) :
    Except DataFault (List Text) :=
  (d.finalizeM groupCount column).run.value

theorem finalize_of_multi {d : Dataset} (hmulti : d.multi ≠ []) (groupCount : Int)
    (column : Option Column) :
    d.finalize groupCount column = .ok (multiLines groupCount.toNat column {} d.multi) := by
  rw [finalize, finalizeM, if_pos hmulti]
  rfl

theorem finalize_of_errorBars {d : Dataset} (hmulti : d.multi = []) (herrors : d.errorBars ≠ [])
    (groupCount : Int) (column : Option Column) :
    d.finalize groupCount column =
      if (d.rows .table).length = (d.rows .errorBars).length then
        pairedLines d.table (d.rows .errorBars)
      else .error (.unpaired ⟨(d.rows .table).length, (d.rows .errorBars).length⟩) := by
  rw [finalize, finalizeM, if_neg (by simp [hmulti]), if_pos (by simp [hasErrorBars, herrors])]
  dsimp only
  split
  · rfl
  · rfl

theorem finalize_of_table {d : Dataset} (hmulti : d.multi = []) (herrors : d.errorBars = [])
    (groupCount : Int) (column : Option Column) :
    d.finalize groupCount column = .ok (d.table.flatMap tableLines) := by
  rw [finalize, finalizeM, if_neg (by simp [hmulti]), if_neg (by simp [hasErrorBars, herrors])]
  rfl

end Dataset
end ChartScript
