import ChartScript.Text.Basic

/-!
# Modes of data rows

Data rows come in several layouts, called modes.  A directive names the mode of the rows after it.
-/

set_option autoImplicit false

namespace ChartScript

/-- The layouts of data rows. -/
inductive Mode where
  | table
  | multi
  | errorBars
  deriving DecidableEq, Repr

namespace Mode

/-- The name that a directive uses. -/
def name : Mode → String
  | .table => "table"
  | .multi => "multi"
  | .errorBars => "yerrorbars"

/-- All modes. -/
def all : List Mode := [.table, .multi, .errorBars]

/-- The mode of a name. -/
def ofName? (name : Text) : Option Mode := all.find? (·.name == name)

end Mode

end ChartScript
