import ChartScript.Text.Basic

/-!
# Reports

A report tells the user what is wrong with the input: a message, where it applies, a code for the
kind of problem and a hint.  `Report.format` writes it on one line:

    Invalid column= value '0' (chart.txt; CONFIG_ERROR) Hint: Use a positive column number or 'last'

Parts that are absent or empty are left out.
-/

set_option autoImplicit false

namespace ChartScript

/-- Where a report applies. -/
structure Location where
  path : Option Text := none
  line : Option Int := none
  deriving DecidableEq, Repr

/-- A text that is there and not empty. -/
def nonEmpty? (text : Option Text) : Option Text := text.filter fun text => !text.isEmpty

/-- The location in words, if anything is known about it. -/
def Location.describe? (l : Location) : Option Text :=
  match nonEmpty? l.path, l.line with
  | some path, some line => some (path ++ ":" ++ toString line)
  | some path, none => some path
  | none, some line => some ("line " ++ toString line)
  | none, none => none

/-- The words for a location of which nothing is known. -/
def Location.unknown : Text := "unknown location"

/-- The location in words. -/
def Location.describe (l : Location) : Text := l.describe?.getD unknown

/-- What a report is about. -/
inductive Category where
  | general
  /-- The input cannot be read. -/
  | input
  /-- An option or the configuration has a value that cannot be used. -/
  | config
  /-- The data does not fit together. -/
  | data
  deriving DecidableEq, Repr

/-- The code of a category. -/
def Category.code? : Category → Option Text
  | .general => none
  | .input => some "INPUT_ERROR"
  | .config => some "CONFIG_ERROR"
  | .data => some "MALFORMED_INPUT"

/-- A report to the user, with the warnings that were due when it arose. -/
structure Report where
  category : Category
  message : Text
  location : Location := {}
  code : Option Text := category.code?
  hint : Option Text := none
  warnings : List Text := []
  deriving DecidableEq, Repr

namespace Report

/-- The location and the code, as far as they are known. -/
def details (r : Report) : List Text :=
  (r.location.describe?.filter (· != Location.unknown)).toList ++ (nonEmpty? r.code).toList

/-- The report on one line. -/
def format (r : Report) : Text :=
  let message :=
    if r.details.isEmpty then r.message
    else r.message ++ " (" ++ Text.join "; " r.details ++ ")"
  let hint := (nonEmpty? r.hint).map fun (hint : Text) => "Hint: " ++ hint
  Text.join " " ((message :: hint.toList).filter fun part => !part.isEmpty)

/-- The report about the file `path`, unless it names one already. -/
def locate (r : Report) (path : Option Text) : Report :=
  match r.location.path, nonEmpty? path with
  | none, some path => { r with location := { r.location with path := some path } }
  | _, _ => r

end Report
end ChartScript
