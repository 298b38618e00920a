import ChartScript.CommandLine.Token

/-!
# Usage and help

The texts that explain the command line to the user.
-/

set_option autoImplicit false

namespace ChartScript
namespace CommandLine

/-- The name of the program. -/
def programName : String := "barchart"

/-- The version of the program. -/
def version : String := "1.0.0"

/-- What the version switch shows. -/
def versionText : String := programName ++ " " ++ version ++ "\n"

/-- The levels that can be chosen, as one of several. -/
def levelChoice : String := "\x7bdebug,info,warning,error\x7d"

/-- A summary of the command line. -/
def usage : String :=
  "usage: barchart [-h] [--extra LINE] [--extra-gnuplot LINE] [--config CONFIG]\n" ++
  "                [--log-level " ++ levelChoice ++ "] [-v] [--man]\n" ++
  "                [--version]\n" ++
  "                [file]\n"

/-- The help on the command line. -/
def help : String :=
  usage ++ "\n" ++
  "A gnuplot (>= 5.0) front-end for generating bar charts\n" ++
  "\n" ++
  "positional arguments:\n" ++
  "  file                  Input file; standard input is read when omitted or '-'\n" ++
  "\n" ++
  "options:\n" ++
  "  -h, --help            show this help message and exit\n" ++
  "  --extra LINE          Extra input line, parsed as if it ended the file\n" ++
  "                        (repeatable)\n" ++
  "  --extra-gnuplot LINE  Line passed straight to gnuplot before the data\n" ++
  "                        (repeatable)\n" ++
  "  --config CONFIG       Workspace configuration file (default: ./barchart.toml\n" ++
  "                        or ./barchart.json)\n" ++
  "  --log-level " ++ levelChoice ++ "\n" ++
  "                        Logging level for diagnostics on stderr (env:\n" ++
  "                        BARCHART_LOG_LEVEL)\n" ++
  "  -v, --verbose         Show error context and tracebacks\n" ++
  "  --man                 Show the full manual (markdown) and exit\n" ++
  "  --version             show program's version number and exit\n"

/-- What is shown for an error of the command line. -/
def UsageError.text (e : UsageError) : Text :=
  usage ++ programName ++ ": error: " ++ e.message ++ "\n"

end CommandLine
end ChartScript
