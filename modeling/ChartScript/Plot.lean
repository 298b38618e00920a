import ChartScript.Grouping
import ChartScript.Number.Layout
import ChartScript.Style

/-!
# Plot commands

`Chart` holds what the plot command is written from.  The command is a list of terms: for every
cluster set a header and then one term per group, which names the columns of the data block that
hold the group.  The titles of the groups stand at the last set only, so that the legend lists each
once.

* `Chart.terms` lists the terms, `Term.text` writes one.
* `Chart.plotCommand` joins the lines that come before all terms and the terms.
* `Chart.defaults` are the commands that set up a chart before its options.
-/

set_option autoImplicit false

namespace ChartScript

/-- What a plot command is written from. -/
structure Chart where
  style : Style := {}
  grouping : Grouping := {}
  errorBars : Bool := false
  setTitles : List Text := []

/-- A term of a plot command. -/
inductive Term where
  /-- The start of a cluster set, with the index of its first fill pattern if it has one. -/
  | header (title : Option Text) (pattern : Option Int)
  /-- A group of a set: whether it is the first of the set, the index of the set's data, the
  columns that hold the group, whether the tics are labelled, the title and the line type. -/
  | group (first : Bool) (index : Nat) (column : Nat) (errorColumn : Option Nat)
    (labelled : Bool) (title : Text) (lineType : Int)
  deriving DecidableEq, Repr

/-- A title between apostrophes. -/
def quoteTitle (title : Text) : Text := "'" ++ title ++ "'"

/-- The name of the data block. -/
def dataBlockName : String := "$data"

/-- A term as it is written. -/
def Term.text : Term → Text
  | .header title pattern =>
    let title : Text := (title.map fun t => " " ++ quoteTitle t).getD ""
    let pattern := (pattern.map fun p => " fs pattern " ++ toString p).getD ""
    "newhistogram" ++ title ++ pattern
  | .group first index column errorColumn labelled title lineType =>
    let source := if first then "\"" ++ dataBlockName ++ "\"" else "''"
    let errors := (errorColumn.map fun c => ":" ++ toString c).getD ""
    let labels := if labelled then ":xticlabels(1)" else ""
    source ++ " index " ++ toString index ++ " using " ++ toString column ++ errors ++ labels ++
      " title " ++ quoteTitle title ++ " lt " ++ toString lineType

namespace Chart

/-- The number of sets; a chart without set titles is one set. -/
def setCount (c : Chart) : Nat := if c.setTitles.isEmpty then 1 else c.setTitles.length

/-- The number of columns that a group takes: with error bars a value and its error. -/
def columnStep (c : Chart) : Nat := if c.errorBars then 2 else 1

/-- The column that holds the values of a group; the labels are in column one. -/
def groupColumn (c : Chart) (group : Nat) : Nat := 2 + group * c.columnStep

/-- The term that starts a set. -/
def header (c : Chart) (set : Nat) : Term :=
  .header c.setTitles[set]?
    (if set ≠ 0 ∧ c.style.patterns then some c.style.patternStart else none)

/-- The term of a group of a set. -/
def groupTerm (c : Chart) (set group : Nat) : Term :=
  let column := c.groupColumn group
  let title := if set + 1 = c.setCount then c.grouping.title group else ""
  .group (group == 0) set column (if c.errorBars then some (column + 1) else none)
    c.style.xLabels title (c.style.lineType group)

/-- The terms of a set. -/
def setTerms (c : Chart) (set : Nat) : List Term :=
  c.header set :: (List.range c.grouping.groupCount).map (c.groupTerm set)

/-- The terms of the plot command. -/
def terms (c : Chart) : List Term := (List.range c.setCount).flatMap c.setTerms

/-- What stands between two terms. -/
def termSeparator : String := ", \\\n\t"

/-- The plot command. -/
def plotCommand (c : Chart) : Text :=
  "plot\t" ++ Text.join termSeparator (c.style.plotLines ++ c.terms.map Term.text)

/-! ## Defaults -/

/-- The parts of a chart whose text is taken literally. -/
def literalParts : List Text := ["title", "xlabel", "ylabel", "xtics", "ytics"]

/-- The commands that set up a chart before its options. -/
def defaults (c : Chart) : List Text :=
  let style := c.style
  let histogram := c.grouping.histogramStyle c.errorBars style.labelShift
  let bars : List Text :=
    ["set style data histograms",
      "set style histogram " ++ histogram ++ " gap " ++ style.barGap.shortText,
      "set style fill " ++ style.fillStyle ++ " border lt -1"]
  let rotation : List Text :=
    if style.xTicsRotation.isZero then []
    else ["set xtics rotate by " ++ style.xTicsRotation.shortText ++ " right"]
  let range : Text := "set yrange [" ++ style.yMin ++ ":" ++ style.yMax ++ "]"
  let literal : List Text := literalParts.map fun part => "set " ++ part ++ " noenhanced"
  let tics : List Text :=
    ["set boxwidth " ++ style.boxWidth, "set xtics format \"\"", "set xtics scale 0"]
  let grid : List Text := if style.gridY then ["set grid ytics"] else []
  let key : List Text :=
    if !style.legend then ["set key off"] else if style.keyInvert then ["set key invert"] else []
  bars ++ rotation ++ [range] ++ literal ++ tics ++ grid ++ key

end Chart
end ChartScript
