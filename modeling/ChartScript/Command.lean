import ChartScript.CommandLine.Invocation
import ChartScript.CommandLine.Usage
import ChartScript.Compile
import ChartScript.Manual
import ChartScript.Settings
import ChartScript.Source

/-!
# The command

`Command.run` is what the command does in a workspace: it reads the settings and the description,
compiles the description and writes the script.  Its result is an `Outcome`: the standard output,
the messages on the standard error and how the run ends.

The stages that can fail come one after the other in `Command.stages`.  The settings come first,
because they have a say in the threshold of log records, and the stages after them run under that
threshold.
-/

set_option autoImplicit false

namespace ChartScript

/-- Something that is written to the standard error. -/
inductive Message where
  | record (record : Record)
  | text (text : Text)
  deriving DecidableEq, Repr

/-- Why a run breaks off without a word to the user. -/
inductive Breakdown where
  /-- A fault that is passed on, as the environment wants it. -/
  | passedOn (fault : Fault)
  | settings (path : Path) (fault : SettingsFault)
  | source (fault : SourceFault)
  | compile (fault : CompileFault)
  /-- One of the lines to be taken in is missing. -/
  | missingLine
  /-- The script has no line at a position. -/
  | missingScriptLine (position : Nat)
  /-- The path of the configuration file holds a null character, which no file system can look
  up. -/
  | nullInPath
  /-- The script cannot be written. -/
  | unwritable (gap : Text.Utf8.Gap)
  deriving DecidableEq, Repr

/-- A breakdown in words. -/
def Breakdown.message : Breakdown → Text
  | .passedOn fault => fault.message
  | .settings path fault => fault.message path
  | .source fault => fault.message
  | .compile fault => fault.message
  | .missingLine => "'list' object has no attribute 'strip'"
  | .missingScriptLine position =>
    s!"sequence item {position}: expected str instance, list found"
  | .nullInPath => "embedded null byte"
  | .unwritable gap => gap.message

/-- How a run ends. -/
inductive Ending where
  | exit (code : Nat)
  | broken (cause : Breakdown)
  deriving DecidableEq, Repr

/-- The result of a run. -/
structure Outcome where
  output : Text
  messages : List Message
  ending : Ending
  deriving DecidableEq, Repr

/-- Why there is no script: a fault to be handled, or a breakdown. -/
inductive Failure where
  | fault (fault : Fault)
  | breakdown (cause : Breakdown)
  deriving DecidableEq, Repr

namespace Failure

/-- Settings that cannot be read. -/
def ofSettings (path : Path) (f : SettingsFault) : Failure :=
  match f.report? path with
  | some report => .fault (.report report)
  | none => .breakdown (.settings path f)

/-- A source that cannot be read. -/
def ofSource (f : SourceFault) : Failure :=
  match f.fault? with
  | some shown => .fault shown
  | none => .breakdown (.source f)

/-- A description that cannot be compiled. -/
def ofCompile : CompileFailure → Failure
  | .reported report => .fault (.report report)
  | .unreported f => .breakdown (.compile f)

end Failure

namespace Command

open CommandLine

/-- The configuration file that is asked for in a directory; an empty text asks for none. -/
def configPath (directory : Path) (i : Invocation) : Option Path :=
  (nonEmpty? i.config).map fun text => directory.resolve (Path.parse text)

/-- Whether the path of the configuration file that is asked for holds a null character. -/
def hasNullPath (i : Invocation) : Bool := (i.config.getD []).contains '\x00'

/-- The settings of an invocation. -/
def settings (w : Workspace) (i : Invocation) : Except Failure Settings :=
  if hasNullPath i then .error (.breakdown .nullInPath)
  else
    (w.settings (configPath w.directory i)).mapError fun (path, fault) => .ofSettings path fault

/-- The lines of the description. -/
def sourceLines (w : Workspace) (i : Invocation) : Except Failure (List Text) :=
  (w.lines (.ofArgument i.file)).mapError .ofSource

/-- What the compilation takes besides the description. -/
def compileOptions (i : Invocation) (s : Settings) : CompileOptions :=
  { extra := s.allExtra (i.extra.filterMap id)
    backend := s.allBackend (i.backend.filterMap id)
    sourceName := some (Source.ofArgument i.file).name }

/-- The position in a script of the first line given for the plotting program that is missing. -/
def missingPosition? (i : Invocation) (script : Script) : Option Nat :=
  (i.backend.findIdx? Option.isNone).map (script.config.length + ·)

/-- The lines given before the first that is missing. -/
def givenBeforeMissing (given : List (Option Text)) : List Text :=
  (given.takeWhile Option.isSome).filterMap id

/-- Reads the description and compiles it.  All lines to be taken in must be there; a missing line
for the plotting program shows only when the script is put together. -/
def compileSourceM (w : Workspace) (i : Invocation) (s : Settings) :
    ExceptT Failure Logging Compiled := do
  let lines ← Logging.known (sourceLines w i)
  if i.extra.contains none then
    let _ ← Description.ofLinesM (lines ++ givenBeforeMissing i.extra)
    throw (.breakdown .missingLine)
  else
    let compiled ← (compileM lines (compileOptions i s)).adapt .ofCompile
    match missingPosition? i compiled.script with
    | some position => throw (.breakdown (.missingScriptLine position))
    | none => return compiled

/-- The least level of the records that are written. -/
def threshold (w : Workspace) (i : Invocation) (s : Settings) : Level :=
  Level.resolve (i.logLevel.map fun l => l.word) (w.env "BARCHART_LOG_LEVEL") s.logLevel

/-- What the stages of an invocation come to, and the log records that they write. -/
def stages (w : Workspace) (i : Invocation) : Except Failure Compiled × List Record :=
  match settings w i with
  | .error failure => (.error failure, [])
  | .ok s => (compileSourceM w i s).run (threshold w i s).severity

/-- The warnings as they are shown. -/
def warningTexts (warnings : List Text) : List Message :=
  warnings.map fun w => .text ("warning: " ++ w ++ "\n")

/-- The warnings that come with a fault. -/
def faultWarnings : Fault → List Text
  | .report r => r.warnings
  | _ => []

/-- The outcome of a fault. -/
def faultOutcome (w : Workspace) (i : Invocation) (fault : Fault) : Outcome :=
  let warnings := warningTexts (faultWarnings fault)
  match fault.handle w.env i.verbose (w.platform.trace fault) with
  | .passedOn => ⟨"", warnings, .broken (.passedOn fault)⟩
  | .shown text => ⟨"", warnings ++ [.text text], .exit 1⟩

/-- The outcome of a compiled description: its script, all of it or, when a part of it cannot be
written, nothing. -/
def scriptOutcome (compiled : Compiled) : Outcome :=
  let warnings := warningTexts compiled.warnings
  match Text.Utf8.gap? compiled.script.text with
  | none => ⟨compiled.script.text, warnings, .exit 0⟩
  | some gap => ⟨"", warnings, .broken (.unwritable gap)⟩

/-- The outcome of what the stages came to, without the log records. -/
def outcomeOf (w : Workspace) (i : Invocation) : Except Failure Compiled → Outcome
  | .ok compiled => scriptOutcome compiled
  | .error (.fault fault) => faultOutcome w i fault
  | .error (.breakdown cause) => ⟨"", [], .broken cause⟩

/-- The outcome of an invocation. -/
def execute (w : Workspace) (i : Invocation) : Outcome :=
  if i.manual then ⟨Manual.text, [], .exit 0⟩
  else
    let (result, records) := stages w i
    let outcome := outcomeOf w i result
    { outcome with messages := records.map .record ++ outcome.messages }

/-- What a command line asks for. -/
def request (w : Workspace) (arguments : List Text) : Except UsageError Request :=
  parse w.platform.dropsDoubleDash arguments

/-- The outcome of a command line. -/
def run (w : Workspace) (arguments : List Text) : Outcome :=
  match request w arguments with
  | .error e => ⟨"", [.text e.text], .exit 2⟩
  | .ok .help => ⟨help, [], .exit 0⟩
  | .ok .version => ⟨versionText, [], .exit 0⟩
  | .ok (.invoke i) => execute w i

/-! ## What a run looks at -/

/-- The names of the variables of the environment that a run looks at. -/
def variableNames : List String :=
  ["BARCHART_VERBOSE", "BARCHART_DEBUG", "BARCHART_RERAISE", "BARCHART_LOG_LEVEL"]

/-- The files that a run in a directory looks at. -/
def paths (directory : Path) (i : Invocation) : List Path :=
  let configs := (configPath directory i).toList ++
    Settings.fileNames.map fun name => directory.join (Path.parse name)
  match Source.ofArgument i.file with
  | .input => configs
  | .file path => path :: configs

/-- Whether a run reads the standard input. -/
def readsInput (i : Invocation) : Bool := !i.manual && Source.ofArgument i.file == .input

end Command
end ChartScript
