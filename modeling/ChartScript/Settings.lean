import ChartScript.Document.Json
import ChartScript.Document.Toml.Reader
import ChartScript.Report
import ChartScript.Text.Utf8
import ChartScript.Workspace

/-!
# Settings

A configuration file holds defaults for the command line, in a table called `defaults`:

    [defaults]
    extra = ["=nolegend"]
    extra_gnuplot = ["set terminal pngcairo size 800,400"]
    log_level = "info"

The file is the one the user asks for, or else the first of `Settings.fileNames` in the current
directory.  Without a file there are no settings.

* `Settings.ofDocument` reads the settings off a document.
* `Workspace.settings` finds the file, reads it and takes its settings.
-/

set_option autoImplicit false

namespace ChartScript

/-- Why there are no settings. -/
inductive SettingsFault where
  /-- The file that was asked for is not there. -/
  | notFound
  /-- The file holds no document. -/
  | unreadable (detail : Text)
  /-- The defaults are no table. -/
  | defaults
  /-- The value of a name is neither a text nor a list. -/
  | texts (name : String)
  /-- The document is no table. -/
  | notTable (typeName : String)
  /-- A value holds an integer that is too long to be written. -/
  | longInteger
  /-- Values are nested too deeply. -/
  | tooDeep (nesting : Nesting)
  /-- The path of the file was refused. -/
  | refused (refusal : Refusal)
  deriving DecidableEq, Repr

namespace SettingsFault

/-- A fault of the file `path` in words. -/
def message (path : Path) : SettingsFault → Text
  | .notFound => "Configuration file not found: " ++ path.text
  | .unreadable detail => "Cannot read configuration: " ++ detail
  | .defaults => "'defaults' must be a table"
  | .texts name => "'" ++ name ++ "' must be a string or a list of strings"
  | .notTable typeName => "'" ++ typeName ++ "' object has no attribute 'get'"
  | .longInteger =>
    s!"Exceeds the limit ({Number.maxIntegerDigits} digits) for integer string conversion; " ++
      "use sys.set_int_max_str_digits() to increase the limit"
  | .tooDeep nesting => nesting.message
  | .refused refusal => refusal.message path

/-- Whether a fault is reported to the user. -/
def isReported : SettingsFault → Bool
  | .notFound | .unreadable _ | .defaults | .texts _ => true
  | .notTable _ | .longInteger | .tooDeep _ | .refused _ => false

/-- The report to the user, for the faults that have one. -/
def report? (path : Path) (fault : SettingsFault) : Option Report :=
  if fault.isReported then
    some { category := .config, message := fault.message path,
           location := { path := some path.text } }
  else none

end SettingsFault

/-- Defaults for the command line. -/
structure Settings where
  /-- Lines taken in after those of the description. -/
  extra : List Text := []
  /-- Lines passed through to the plotting program. -/
  backend : List Text := []
  logLevel : Option Text := none
  /-- The file that the settings come from. -/
  source : Option Path := none
  /-- The names at the top of the document. -/
  names : List Text := []
  deriving DecidableEq, Repr

namespace Settings

/-- The names of configuration files, the preferred one first. -/
def fileNames : List Text := ["barchart.toml", "barchart.json"]

/-- The value of a name, if it counts as given. -/
def given? (name : String) (entries : List (Text × Value)) : Option Value :=
  (Value.lookup name entries).filter Value.isGiven

section

variable (p : Platform)

/-- A value as text. -/
def textOf (value : Value) : Except SettingsFault Text :=
  (value.write p.maxNesting).mapError fun
    | .longInteger => .longInteger
    | .tooDeep => .tooDeep .writtenValue

/-- The texts that a name stands for: its text, or the texts of its items. -/
def texts (name : String) (entries : List (Text × Value)) :
    Except SettingsFault (List Text) :=
  match given? name entries with
  | none => .ok []
  | some (.string s) => .ok [s]
  | some (.list items) => items.mapM (textOf p)
  | some _ => .error (.texts name)

/-- The level of detail that the defaults ask for. -/
def levelOf (entries : List (Text × Value)) : Except SettingsFault (Option Text) :=
  match Value.lookup "log_level" entries with
  | none | some .null => .ok none
  | some value => (textOf p value).map some

/-- The entries of the defaults; without defaults there are none. -/
def defaultsOf (entries : List (Text × Value)) :
    Except SettingsFault (List (Text × Value)) :=
  match given? "defaults" entries with
  | none => .ok []
  | some (.table defaults) => .ok defaults
  | some _ => .error .defaults

/-- The settings of a document. -/
def ofDocument (document : Value) : Except SettingsFault Settings :=
  match document with
  | .table entries => do
    let defaults ← defaultsOf entries
    let extra ← texts p "extra" defaults
    let backend ← texts p "extra_gnuplot" defaults
    let logLevel ← levelOf p defaults
    return { extra, backend, logLevel, names := entries.map (·.1) }
  | _ => .error (.notTable document.typeName)

/-- What is wrong with a file, after what the reader of its format said about it. -/
def ofDocumentFault (complaint : Text) : DocumentFault → SettingsFault
  | .malformed => .unreadable complaint
  | .tooDeep nesting => .tooDeep nesting

/-- The format of a file, as its extension says. -/
def formatOf (path : Path) : DocumentFormat := if path.extension == ".json" then .json else .toml

/-- The value of a text in a format. -/
def readValue (format : DocumentFormat) (text : Text) : Except DocumentFault Value :=
  match format with
  | .json => Json.read text p.maxNesting
  | .toml => Toml.read text p.maxNesting

/-- The document of a text in the format of a file. -/
def readDocument (path : Path) (text : Text) : Except SettingsFault Value :=
  let format := formatOf path
  (readValue p format text).mapError (ofDocumentFault (p.complaint format text))

/-- The settings of a file. -/
def ofFile (path : Path) (content : List UInt8) : Except SettingsFault Settings :=
  match Text.Utf8.decode content with
  | .error fault => .error (.unreadable fault.message)
  | .ok text => do
    let settings ← ofDocument p (← readDocument p path text)
    return { settings with source := some path }

end

/-- Lines given on the command line come before those of the settings. -/
def allExtra (s : Settings) (given : List Text) : List Text := given ++ s.extra

/-- The same for lines passed through to the plotting program. -/
def allBackend (s : Settings) (given : List Text) : List Text := given ++ s.backend

end Settings

namespace Workspace

/-- Whether a path is one of a file. -/
def isFile (w : Workspace) (path : Path) : Bool :=
  match w.find path with
  | .file _ | .denied => true
  | .missing | .directory | .tooLong => false

/-- The configuration file in the current directory. -/
def configFile? (w : Workspace) : Option Path :=
  (Settings.fileNames.map fun name => w.directory.join (Path.parse name)).find? w.isFile

/-- The settings of the file at a path. -/
def settingsAt (w : Workspace) (path : Path) : Except SettingsFault Settings :=
  match w.find path with
  | .file content => Settings.ofFile w.platform path content
  | .denied => .error (.unreadable (Refusal.denied.message path))
  | .tooLong => .error (.refused .nameTooLong)
  | .missing | .directory => .error .notFound

/-- The settings of the file that is asked for, or else of the one in the current directory.  A
fault comes with the path of the file. -/
def settings (w : Workspace) (asked : Option Path) : Except (Path × SettingsFault) Settings :=
  match asked <|> w.configFile? with
  | some path => (w.settingsAt path).mapError (path, ·)
  | none => .ok {}

end Workspace
end ChartScript
