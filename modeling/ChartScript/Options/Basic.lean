import ChartScript.Text.Basic

/-!
# The options of a chart description

There are three kinds of options: flags (`=name`), settings (`name=value`, a later value replaces
an earlier one) and repeated options (`name=value`, all values count).  Each has a name, a phase and
a line of documentation; what it does is in `Options.Effect`.

Options take effect in two phases.  Those of the `init` phase change the style from which the chart
defaults are written; those of the `apply` phase come after the defaults and override them.
-/

set_option autoImplicit false

namespace ChartScript

/-- When an option takes effect: before or after the chart defaults are written. -/
inductive Phase where
  | init
  | apply
  deriving DecidableEq, Repr

/-- The name of a phase. -/
def Phase.name : Phase → String
  | .init => "init"
  | .apply => "apply"

/-- The kinds of options. -/
inductive OptionKind where
  | flag
  | setting
  | repeated
  deriving DecidableEq, Repr

namespace OptionKind

/-- The name of a kind. -/
def name : OptionKind → String
  | .flag => "boolean"
  | .setting => "scalar"
  | .repeated => "repeatable"

/-- All kinds, in the order in which their options take effect. -/
def all : List OptionKind := [.flag, .setting, .repeated]

/-- The kind of a name. -/
def ofName? (name : Text) : Option OptionKind := all.find? (·.name == name)

end OptionKind

/-! ## Flags -/

/-- The options that are either given or not. -/
inductive Flag where
  | patterns
  | gridX
  | noGridY
  | noLegend
  | noRotate
  | noUpperRight
  | noXLabels
  deriving DecidableEq, Repr

namespace Flag

/-- All flags. -/
def all : List Flag :=
  [.patterns, .gridX, .noGridY, .noLegend, .noRotate, .noUpperRight, .noXLabels]

/-- All flags in the order of their names. -/
def inNameOrder : List Flag :=
  [.gridX, .noGridY, .noLegend, .noRotate, .noUpperRight, .noXLabels, .patterns]

/-- The name of a flag. -/
def name : Flag → String
  | .patterns => "patterns"
  | .gridX => "gridx"
  | .noGridY => "nogridy"
  | .noLegend => "nolegend"
  | .noRotate => "norotate"
  | .noUpperRight => "noupperright"
  | .noXLabels => "noxlabels"

/-- When a flag takes effect. -/
def phase : Flag → Phase
  | .gridX | .noUpperRight => .apply
  | _ => .init

/-- What a flag does, for the manual. -/
def doc : Flag → String
  | .patterns => "Fills the bars with patterns instead of solid colors"
  | .gridX => "Draws grid lines for the X axis"
  | .noGridY => "Turns off the grid lines for the Y axis"
  | .noLegend => "Turns off the chart legend"
  | .noRotate => "Keeps the X tic labels horizontal; they are vertical by default"
  | .noUpperRight => "Removes the top and right borders of the chart"
  | .noXLabels => "Hides the labels of the X axis tics"

/-- The flag of a name. -/
def ofName? (name : Text) : Option Flag := all.find? (·.name == name)

theorem mem_all (f : Flag) : f ∈ all := by
  cases f <;> decide

end Flag

/-! ## Settings -/

/-- The options that take one value. -/
inductive Setting where
  | barWidth
  | colorSet
  | column
  | gapFactor
  | logScaleY
  | maxY
  | minY
  | setLabelShift
  | rotateBy
  | title
  | xLabel
  | xLabelShift
  | yFormat
  | yLabel
  | yLabelShift
  deriving DecidableEq, Repr

namespace Setting

/-- All settings, in the order of their names. -/
def all : List Setting :=
  [.barWidth, .colorSet, .column, .gapFactor, .logScaleY, .maxY, .minY, .setLabelShift, .rotateBy,
    .title, .xLabel, .xLabelShift, .yFormat, .yLabel, .yLabelShift]

/-- The name of a setting. -/
def name : Setting → String
  | .barWidth => "barwidth"
  | .colorSet => "colorset"
  | .column => "column"
  | .gapFactor => "intra_space_mul"
  | .logScaleY => "logscaley"
  | .maxY => "max"
  | .minY => "min"
  | .setLabelShift => "multimultilabelshift"
  | .rotateBy => "rotateby"
  | .title => "title"
  | .xLabel => "xlabel"
  | .xLabelShift => "xlabelshift"
  | .yFormat => "yformat"
  | .yLabel => "ylabel"
  | .yLabelShift => "ylabelshift"

/-- When a setting takes effect. -/
def phase : Setting → Phase
  | .barWidth | .gapFactor | .maxY | .minY | .setLabelShift | .rotateBy => .init
  | _ => .apply

/-- What a setting does, for the manual. -/
def doc : Setting → String
  | .barWidth => "Width of each bar. Defaults to 1"
  | .colorSet => "Comma separated list of colors, in order, e.g. RGB hex values. When there are " ++
    "more datasets than colors the list is repeated"
  | .column => "Column holding the value to chart; other columns are ignored. Column 1 is the " ++
    "label, so values start at column 2. Use 'last' for the final column. Only applies to " ++
    "=multi data"
  | .gapFactor => "Multiplies the space between bars, or between clusters of a clustered chart. " ++
    "Has no effect on the space between =stackcluster clusters"
  | .logScaleY => "Uses a logarithmic Y axis with the given base"
  | .maxY => "Largest Y value shown"
  | .minY => "Smallest Y value shown"
  | .setLabelShift => "Offset of the multimulti= cluster titles, passed to gnuplot unchanged"
  | .rotateBy => "Rotation angle, in degrees, of the X tic labels"
  | .title => "Chart title"
  | .xLabel => "Label of the X axis"
  | .xLabelShift => "Offset of the X axis label, passed to gnuplot unchanged"
  | .yFormat => "printf-style format of the Y tic labels"
  | .yLabel => "Label of the Y axis"
  | .yLabelShift => "Offset of the Y axis label, passed to gnuplot unchanged"

/-- The setting of a name. -/
def ofName? (name : Text) : Option Setting := all.find? (·.name == name)

theorem mem_all (s : Setting) : s ∈ all := by
  cases s <;> decide

end Setting

/-! ## Repeated options -/

/-- The options that take any number of values. -/
inductive Repeated where
  | command
  | horizontalLine
  deriving DecidableEq, Repr

namespace Repeated

/-- All repeated options, in the order of their names. -/
def all : List Repeated := [.command, .horizontalLine]

/-- The name of a repeated option. -/
def name : Repeated → String
  | .command => "extraops"
  | .horizontalLine => "horizline"

/-- When a repeated option takes effect. -/
def phase : Repeated → Phase
  | _ => .apply

/-- What a repeated option does, for the manual. -/
def doc : Repeated → String
  | .command => "A command passed straight to gnuplot. See also --extra-gnuplot"
  | .horizontalLine => "Draws a horizontal line at the given Y value"

/-- The repeated option of a name. -/
def ofName? (name : Text) : Option Repeated := all.find? (·.name == name)

theorem mem_all (r : Repeated) : r ∈ all := by
  cases r <;> decide

end Repeated

/-! ## All options together -/

/-- An option of any kind. -/
inductive Key where
  | flag (flag : Flag)
  | setting (setting : Setting)
  | repeated (option : Repeated)
  deriving DecidableEq, Repr

namespace Key

/-- The options of a kind. -/
def ofKind : OptionKind → List Key
  | .flag => Flag.all.map .flag
  | .setting => Setting.all.map .setting
  | .repeated => Repeated.all.map .repeated

/-- All options. -/
def all : List Key := OptionKind.all.flatMap ofKind

/-- The kind of an option. -/
def kind : Key → OptionKind
  | .flag _ => .flag
  | .setting _ => .setting
  | .repeated _ => .repeated

/-- The name of an option. -/
def name : Key → String
  | .flag f => f.name
  | .setting s => s.name
  | .repeated r => r.name

/-- When an option takes effect. -/
def phase : Key → Phase
  | .flag f => f.phase
  | .setting s => s.phase
  | .repeated r => r.phase

/-- What an option does, for the manual. -/
def doc : Key → String
  | .flag f => f.doc
  | .setting s => s.doc
  | .repeated r => r.doc

/-- The option of a name. -/
def ofName? (name : Text) : Option Key := all.find? (·.name == name)

/-- No two options have the same name. -/
theorem nodup_names : (all.map name).Nodup := by
  decide

end Key
end ChartScript
