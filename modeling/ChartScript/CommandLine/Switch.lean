import ChartScript.Log

/-!
# Switches of the command line

A switch is an option of the command line.  It has one or two spellings, and some switches take a
value.
-/

set_option autoImplicit false

namespace ChartScript
namespace CommandLine

/-- The switches of the command line. -/
inductive Switch where
  /-- Show the help. -/
  | help
  /-- Take in another line of the description. -/
  | extra
  /-- Pass a line through to the plotting program. -/
  | backend
  /-- Use a configuration file. -/
  | config
  /-- Set the level of log records. -/
  | logLevel
  /-- Show more about errors. -/
  | verbose
  /-- Show the manual. -/
  | manual
  /-- Show the version. -/
  | version
  deriving DecidableEq, Repr

namespace Switch

/-- All switches, in the order in which they are listed. -/
def all : List Switch := [.help, .extra, .backend, .config, .logLevel, .verbose, .manual, .version]

/-- The spellings of a switch. -/
def spellings : Switch → List Text
  | .help => ["-h", "--help"]
  | .extra => ["--extra"]
  | .backend => ["--extra-gnuplot"]
  | .config => ["--config"]
  | .logLevel => ["--log-level"]
  | .verbose => ["-v", "--verbose"]
  | .manual => ["--man"]
  | .version => ["--version"]

/-- The name of a switch in messages. -/
def name (s : Switch) : Text := Text.join "/" s.spellings

/-- Whether a switch takes a value. -/
def takesValue : Switch → Bool
  | .extra | .backend | .config | .logLevel => true
  | .help | .verbose | .manual | .version => false

/-- Whether a spelling is a short one: a single dash and a letter. -/
def isShort (spelling : Text) : Bool := spelling[1]? != some (.char '-')

/-- Every spelling with its switch. -/
def table : List (Text × Switch) := all.flatMap fun s => s.spellings.map (·, s)

/-- The switch with a spelling. -/
def ofSpelling? (spelling : Text) : Option Switch := table.lookup spelling

end Switch

/-- The words for levels that the command line takes. -/
def levelWords : List (Text × Level) := Level.all.map fun l => (l.word, l)

end CommandLine
end ChartScript
