import ChartScript.Line
import ChartScript.Options.Store

/-!
# Chart descriptions

`Description` is what the lines of a description have said so far: the options given, the grouping
and the data.  `Description.addM` takes in one line and logs it; every kind of line changes one part
only.  `Description.add` and `Description.ofLines` are what comes of it, without the log.
-/

set_option autoImplicit false

namespace ChartScript

/-- What the lines of a description have said so far. -/
structure Description where
  store : Store := {}
  grouping : Option Grouping := none
  dataset : Dataset := {}
  lineCount : Nat := 0

namespace Description

/-- Logs a grouping, and the earlier one that it replaces. -/
def logGrouping (d : Description) (g : Grouping) : Logging Unit := do
  Event.log (.groupingRead g)
  if let some old := d.grouping then
    Event.log (.groupingReplaced d.lineCount g.kind old.kind)

/-- Takes in what a line says, and logs it; a line counts whatever it says. -/
def addM (d : Description) (line : Line) : Logging Description := do
  let d := { d with lineCount := d.lineCount + 1 }
  match line with
  | .blank | .comment => return d
  | .newSet title => return { d with dataset := ← d.dataset.beginSetM title }
  | .setting s value => return { d with store := d.store.setSetting s value }
  | .repeated r value => return { d with store := d.store.addRepeated r value }
  | .unknownOption name value =>
    Event.log (.optionIgnored name value)
    return { d with store := d.store.ignoreOption name value }
  | .grouping g =>
    d.logGrouping g
    return { d with grouping := some g }
  | .flag f => return { d with store := d.store.setFlag f }
  | .mode m => return { d with dataset := ← d.dataset.switchModeM m }
  | .unknownDirective name =>
    Event.log (.directiveIgnored name)
    return { d with store := d.store.ignoreDirective name }
  | .row r => return { d with dataset := d.dataset.addRow r }

/-- Takes in what a line says. -/
def add (d : Description) (line : Line) : Description := (d.addM line).value

/-- Takes in a line as it is written. -/
def feed (d : Description) (line : Text) : Description := d.add (Line.read line)

/-- Takes in lines one after the other. -/
def ofLinesM (lines : List Text) : Logging Description :=
  lines.foldlM (fun d line => d.addM (Line.read line)) {}

/-- The description that lines add up to. -/
def ofLines (lines : List Text) : Description := (ofLinesM lines).value

theorem ofLines_nil : ofLines [] = {} := rfl

theorem ofLines_eq_foldl (lines : List Text) : ofLines lines = lines.foldl feed {} :=
  Logging.value_foldlM _ _ lines

/-- The grouping in effect; without a directive, plain clusters of one group. -/
def resolvedGrouping (d : Description) : Grouping := d.grouping.getD {}

end Description
end ChartScript
