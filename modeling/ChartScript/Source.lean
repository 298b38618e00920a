import ChartScript.Report
import ChartScript.Text.LineBreak
import ChartScript.Text.Utf8
import ChartScript.Workspace

/-!
# The source of a description

A description is read from a file or from the standard input.  `Source.ofArgument` tells which, and
`Workspace.lines` reads its lines.
-/

set_option autoImplicit false

namespace ChartScript

/-- Where a description is read from. -/
inductive Source where
  | input
  | file (path : Path)
  deriving DecidableEq, Repr

namespace Source

/-- The source that an argument names: no argument and a dash stand for the standard input. -/
def ofArgument : Option Text → Source
  | none => .input
  | some argument => if argument == "-" then .input else .file (Path.parse argument)

/-- The name of a source in reports. -/
def name : Source → Text
  | .input => "<stdin>"
  | .file path => path.text

end Source

/-- Why a source cannot be read. -/
inductive SourceFault where
  /-- The standard input is no text. -/
  | input (fault : Text.Utf8.Fault)
  | notFound (path : Path)
  /-- The file is no text. -/
  | undecodable (path : Path) (fault : Text.Utf8.Fault)
  | isDirectory (path : Path)
  | denied (path : Path)
  /-- The path is too long to be looked up. -/
  | tooLong (path : Path)
  deriving DecidableEq, Repr

namespace SourceFault

/-- The words for a file that cannot be read. -/
def unreadable (path : Path) (reason : String) : Text :=
  "Could not open '" ++ path.text ++ "' for reading: " ++ reason

/-- A fault in words. -/
def message : SourceFault → Text
  | .input f => "Could not read standard input: " ++ f.message
  | .notFound path => "Input file not found: " ++ path.text
  | .undecodable path f => unreadable path f.message
  | .isDirectory path => unreadable path (Refusal.isDirectory.message path)
  | .denied path => unreadable path (Refusal.denied.message path)
  | .tooLong path => Refusal.nameTooLong.message path

/-- The report that a source cannot be read. -/
def report (f : SourceFault) (path : Option Path) : Fault :=
  .report { category := .input, message := f.message, location := { path := path.map Path.text } }

/-- What a fault is to the user; a path that is too long is nothing that a user is told about. -/
def fault? (f : SourceFault) : Option Fault :=
  match f with
  | .input _ => some (f.report none)
  | .notFound _ =>
    some (.command
      { message := f.message
        code := fileNotFoundCode
        hint := some "Check the file path, or omit it to read standard input" })
  | .undecodable path _ | .isDirectory path | .denied path => some (f.report (some path))
  | .tooLong _ => none

end SourceFault

/-- The lines of a text that was read from a file or a stream. -/
def readLines (text : Text) : List Text := text.unifyNewlines.splitLines

namespace Workspace

/-- The text of a source. -/
def text (w : Workspace) : Source → Except SourceFault Text
  | .input => (Text.Utf8.decode w.input).mapError .input
  | .file path =>
    match w.find path with
    | .file content => (Text.Utf8.decode content).mapError (.undecodable path)
    | .missing => .error (.notFound path)
    | .directory => .error (.isDirectory path)
    | .denied => .error (.denied path)
    | .tooLong => .error (.tooLong path)

/-- The lines of a source. -/
def lines (w : Workspace) (source : Source) : Except SourceFault (List Text) :=
  (w.text source).map readLines

end Workspace
end ChartScript
