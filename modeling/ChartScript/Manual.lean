import ChartScript.Options.Basic
import ChartScript.Text.Fill

/-!
# The manual

The manual is a fixed text with one section per kind of option, written from the options'
documentation.

* `Manual.sectionOf` lists the documented entries of a table in the order of their names.
* `Manual.text` is the whole manual.
-/

set_option autoImplicit false

namespace ChartScript
namespace Manual

/-- A section of the manual. -/
structure Section where
  title : Text
  intro : Text
  entries : List Text
  deriving DecidableEq, Repr

/-- The width of the manual. -/
def width : Nat := 79

/-- An entry: the name between `before` and `after`, and what is said about it. -/
def entry (before after name doc : Text) : Text :=
  Text.Fill.fill width (before ++ name ++ after ++ ": ") "  " (doc ++ ".")

/-- The section of a table of names and what is said about them, in the order of the names.  Names
about which nothing is said are left out. -/
def sectionOf (title intro : Text) (table : List (Text × Option Text)) (before after : Text) :
    Section :=
  let documented := table.filterMap fun (name, doc) =>
    (doc.filter fun doc => !doc.isEmpty).map fun doc => (name, doc)
  let sorted := documented.mergeSort fun a b => a.1.inOrder b.1
  ⟨title, intro, sorted.map fun (name, doc) => entry before after name doc⟩

/-- The names and the documentation of the options of a kind. -/
def optionTable (kind : OptionKind) : List (Text × Option Text) :=
  (Key.ofKind kind).map fun key => (key.name, some key.doc)

/-- The sections on options. -/
def sections : List Section :=
  [sectionOf "Simple parameters" "These are boolean parameters that do not take a value"
      (optionTable .flag) "* `=" "`",
    sectionOf "Parameters with values" "" (optionTable .setting) "* `" "=foo`",
    sectionOf "Repeatable parameters with values" "These parameters can be given several times"
      (optionTable .repeated) "* `" "=foo`"]

/-- The name of the program and what it is. -/
def nameLine : String := "barchart - a gnuplot (>= 5.0) front-end for generating bar charts"

/-- How the program is called. -/
def synopsis : List String :=
  ["barchart [options] [file]",
    "",
    "File: path to the input file; standard input is read when omitted or '-'.",
    "Options:",
    "  --extra LINE          extra input line, parsed after the file. Repeatable.",
    "  --extra-gnuplot LINE  line passed straight to gnuplot before the data.",
    "                        Repeatable.",
    "  --config PATH         workspace configuration (barchart.toml/.json).",
    "  --log-level LEVEL     debug, info, warning or error.",
    "  -h, --help            show the usage message.",
    "  --man                 show this manual (markdown)."]

/-- Moves a line to the right, unless it is empty. -/
def indent (line : String) : String := if line = "" then line else "    " ++ line

/-- The description of the input format. -/
def description : List String :=
  ["barchart reads a file of data and directives and writes a gnuplot script,",
    "data included, to standard output. Pipe it into gnuplot and choose the",
    "terminal, size and legend placement there.",
    "",
    "## File Format",
    "",
    "Parameters come before the data. Lines starting with '#' are comments;",
    "blank lines and surrounding whitespace are ignored.",
    "",
    "### Datasets",
    "",
    "`=table` lists one row per label with one column per dataset:",
    "",
    "     =table",
    "     age     37  9 22",
    "     height  17 12 20",
    "",
    "`=multi` separates datasets given one after the other. This input is",
    "equivalent to the table above:",
    "",
    "     age    37",
    "     height 17",
    "     =multi",
    "     age     9",
    "     height 12",
    "     =multi",
    "     age    22",
    "     height 20",
    "",
    "A label missing from a dataset is drawn as missing data. Labels with",
    "spaces must be double quoted.",
    "",
    "### Grouping",
    "",
    "`=cluster`, `=stacked` and `=stackcluster` name the datasets. The",
    "character right after the directive separates the names:",
    "",
    "     =cluster;Irish elk;Dodo birds;Coelecanth",
    "     =stacked,Monday,Tuesday",
    "",
    "`=stackcluster` draws clusters of stacked bars; each cluster starts with",
    "`multimulti=Title`.",
    "",
    "### Error bars",
    "",
    "`=yerrorbars` is followed by one row per `=table` row, holding the error",
    "of each value. It cannot be combined with stacked charts.",
    "",
    "### Control parameters"]

/-- The lines of a section. -/
def sectionLines (s : Section) : List Text :=
  let heading : List Text := ["", "#### " ++ s.title, ""]
  let intro : List Text := if s.intro.isEmpty then [] else [s.intro ++ ".", ""]
  heading ++ intro ++ s.entries.flatMap fun (e : Text) => [e, []]

/-- The lines before the sections. -/
def openingLines : List String :=
  ["# NAME", "", "    " ++ nameLine, "", "# SYNOPSIS", ""] ++ synopsis.map indent ++
  ["", "# DESCRIPTION", ""] ++ description

/-- The lines after the sections. -/
def closingLines : List String := ["# SEE ALSO", "", "* [gnuplot](http://www.gnuplot.info)"]

/-- The lines of the manual. -/
def lines : List Text :=
  openingLines.map Text.ofString ++ sections.flatMap sectionLines ++
    closingLines.map Text.ofString

/-- The manual. -/
def text : Text := Text.join "\n" lines ++ "\n"

end Manual
end ChartScript
