import ChartScript.Grouping
import ChartScript.Log
import ChartScript.Mode
import ChartScript.Options.Basic
import ChartScript.Text.Quoted

/-!
# Events

An event is something that happens while a description is compiled and that a log record tells
about.  The function that does it also logs it (`Event.log`).
-/

set_option autoImplicit false

namespace ChartScript

/-- Something that happens while a description is compiled. -/
inductive Event where
  | groupingRead (grouping : Grouping)
  | groupingReplaced (line : Nat) (new old : GroupingKind)
  | modeSwitched (old new : Mode)
  | setBegun (number : Nat) (title : Text)
  | directiveIgnored (name : Text)
  | optionIgnored (name value : Text)
  | classified (lines : Nat) (kind : GroupingKind)
  | optionApplied (key : Key)
  | notNumeric (value : Text)
  | labelsLaidOut (labels : Nat) (groups : Int)
  | scriptWritten (sets groups : Nat)
  deriving DecidableEq, Repr

namespace Event

/-- The part of the program an event belongs to. -/
def logger : Event → String
  | .groupingRead _ => "barchart.grouping"
  | .groupingReplaced .. => "barchart.parser"
  | .modeSwitched .. | .setBegun .. | .labelsLaidOut .. => "barchart.dataset"
  | .directiveIgnored _ | .optionIgnored .. | .optionApplied _ | .notNumeric _ =>
    "barchart.options"
  | .classified .. => "barchart.compiler"
  | .scriptWritten .. => "barchart.emitter"

/-- An event in words. -/
def message : Event → Text
  | .groupingRead g =>
    s!"Grouping {g.kind.name} with {g.groupCount} title(s), delimiter " ++
      Text.quoted (g.delimiter.getD "")
  | .groupingReplaced line new old => s!"Line {line}: ={new.name} replaces earlier ={old.name}"
  | .modeSwitched old new => s!"Data mode {old.name} -> {new.name}"
  | .setBegun number title => s!"Cluster set {number}: " ++ Text.quoted title
  | .directiveIgnored name => "Ignoring unknown directive =" ++ name
  | .optionIgnored name value => "Ignoring unknown option " ++ name ++ "=" ++ value
  | .classified lines kind => s!"Classified {lines} line(s); grouping {kind.name}"
  | .optionApplied key =>
    s!"Applying {key.kind.name} option {key.name} ({key.phase.name} pass)"
  | .notNumeric value => "Non-numeric value " ++ Text.quoted value ++ " read as 0"
  | .labelsLaidOut labels groups => s!"Finalized {labels} label(s) x {groups} group(s)"
  | .scriptWritten sets groups => s!"Emitted {sets} set(s) x {groups} group(s)"

/-- The log record of an event. -/
def record (e : Event) : Record := ⟨e.logger, .debug, e.message⟩

/-- Logs an event. -/
def log (e : Event) : Logging Unit := Logging.write e.record

end Event
end ChartScript
