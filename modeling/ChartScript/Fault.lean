import ChartScript.Report
import ChartScript.Text.Blank

/-!
# Faults on the command line

Whatever stops a command is a `Fault`: a report about the input, an error of the command itself, or
a failure of another kind.  `Fault.text` shows it, with its context and the trace of the failure
when the user wants to see them.

Two switches of the environment matter: whether output is verbose, and whether faults are passed on
instead of being shown.
-/

set_option autoImplicit false

namespace ChartScript

/-- An error of the command itself. -/
structure CommandError where
  message : Text
  code : Text
  hint : Option Text := none
  /-- Further facts, shown in verbose output. -/
  context : List (Text × Text) := []
  deriving DecidableEq, Repr

/-- The code of the error that a file does not exist. -/
def fileNotFoundCode : String := "CLI_FILE_NOT_FOUND"

/-- Whatever stops a command. -/
inductive Fault where
  | report (report : Report)
  | command (error : CommandError)
  | other (kind message : Text)
  deriving DecidableEq, Repr

namespace Fault

/-- The lines that show a command error. -/
def commandLines (verbose : Bool) (e : CommandError) : List Text :=
  ["Error [" ++ e.code ++ "]: " ++ e.message] ++
  (nonEmpty? e.hint).toList.map (fun (hint : Text) => "Hint: " ++ hint) ++
  (if verbose && !e.context.isEmpty then
    ("\nContext:" : Text) :: e.context.map fun (key, value) => "  " ++ key ++ ": " ++ value
  else [])

/-- The lines that show a fault. -/
def lines (verbose : Bool) : Fault → List Text
  | .report r => ["Error: " ++ r.format]
  | .command e => commandLines verbose e
  | .other kind message => ["Error: " ++ kind ++ ": " ++ message]

/-- A fault in words, without what surrounds it. -/
def message : Fault → Text
  | .report r => r.message
  | .command e => e.message
  | .other _ message => message

/-- A fault as it is shown, with the trace of the failure if one is given. -/
def text (verbose : Bool) (trace : Option Text) (fault : Fault) : Text :=
  let shownTrace :=
    match trace with
    | some t => ["\nTraceback:", t]
    | none => []
  Text.join "\n" (fault.lines verbose ++ shownTrace)

end Fault

/-- The variables of the environment. -/
abbrev Environment := String → Option Text

namespace Environment

/-- Whether a variable is set to a word for yes; letter case and blanks around it do not count. -/
def isOn (env : Environment) (name : String) : Bool :=
  match env name with
  | none => false
  | some value => ["1", "true", "yes", "on"].any (· == value.strip.toLower)

/-- Whether output is verbose. -/
def isVerbose (env : Environment) (asked : Bool) : Bool :=
  asked || env.isOn "BARCHART_VERBOSE" || env.isOn "BARCHART_DEBUG"

/-- Whether faults are passed on instead of being shown. -/
def passesFaultsOn (env : Environment) : Bool :=
  env.isOn "BARCHART_RERAISE" || env.isOn "BARCHART_DEBUG"

end Environment

/-- The length that a trace is cut to. -/
def traceLimit : Nat := 4000

/-- A trace without blanks around it, cut where it is too long. -/
def traceExcerpt (trace : Text) : Text :=
  let trace := trace.strip
  if trace.length ≤ traceLimit then trace else trace.take (traceLimit - 3) ++ "..."

/-- What becomes of a fault. -/
inductive Handling where
  /-- It is passed on to the caller. -/
  | passedOn
  /-- It is shown, and the command ends. -/
  | shown (text : Text)
  deriving DecidableEq, Repr

/-- What becomes of a fault in an environment.  `trace` is the trace of the failure, and verbose
output includes an excerpt of it. -/
def Fault.handle (env : Environment) (asked : Bool) (trace : Text) (fault : Fault) : Handling :=
  if env.passesFaultsOn then .passedOn
  else
    let verbose := env.isVerbose asked
    .shown (fault.text verbose (if verbose then some (traceExcerpt trace) else none) ++ "\n")

end ChartScript
