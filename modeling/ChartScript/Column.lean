import ChartScript.Number.Integer
import ChartScript.Row

/-!
# Column selectors

A column selector names the column of a row that is charted.  Columns are counted from one and the
first is the label, so the values start at column two; the word `last` names the last value.

* `Column.parse` reads a selector, `Column.select` picks its value from a row's values, and
  `Column.narrow` leaves a row only that value.
-/

set_option autoImplicit false

namespace ChartScript

/-- Why a text is no column selector. -/
inductive ColumnFault where
  /-- It is neither an integer nor `last`. -/
  | notInteger
  /-- It is an integer below one. -/
  | notPositive
  deriving DecidableEq, Repr

/-- Advice to someone who wrote an invalid selector. -/
def ColumnFault.hint : ColumnFault → String
  | .notInteger => "Use a positive column number or 'last'"
  | .notPositive => "Column 1 is the label; values start at column 2"

/-- A column selector: the text it was written as, and the column, or none for the last one. -/
structure Column where
  text : Text
  index : Option Nat
  deriving DecidableEq, Repr

namespace Column

/-- The word for the last column. -/
def lastWord : String := "last"

/-- Reads a column selector; blanks around it do not count. -/
def parse (value : Text) : Except ColumnFault Column :=
  let text := value.strip
  if text = lastWord then .ok ⟨text, none⟩
  else
    match Number.integer? text with
    | none => .error .notInteger
    | some n => if n ≤ 0 then .error .notPositive else .ok ⟨text, some n.toNat⟩

/-- Whether the selector names the last column. -/
def isLast (column : Column) : Bool := column.index.isNone

/-- The selected one of the values of a row. -/
def select (column : Column) (values : List Text) : Text :=
  match column.index with
  | none => values.getLastD missing
  | some n => if n < 2 then missing else values.getD (n - 2) missing

/-- A row with the selected value alone, or unchanged when there is no selector. -/
def narrow (column : Option Column) (row : Row) : Row :=
  match column with
  | none => row
  | some column => ⟨row.label, [column.select row.values]⟩

end Column
end ChartScript
