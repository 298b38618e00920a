import ChartScript.Number.Leading
import ChartScript.Options.Basic
import ChartScript.Style
import ChartScript.Text.Separator

/-!
# What options do

An option may write a piece of the script, change the style of the chart, or both.  Each kind of
option has a function `line?` for the first and `update?` for the second; an option without the
effect has `none` there.

Only three options can fail: the column selector, when it is no selector, the gap factor and the
angle of the labels, when their number is unreadable, and the gap factor also when the resulting gap
has no integer part.
-/

set_option autoImplicit false

namespace ChartScript

/-- Why an option cannot take effect. -/
inductive OptionFault where
  | column (value : Text) (fault : ColumnFault)
  | number (fault : UnreadableNumber)
  /-- The gap between bars became infinite. -/
  | infiniteGap
  /-- The gap between bars became undefined. -/
  | undefinedGap
  deriving DecidableEq, Repr

/-- The fault in words. -/
def OptionFault.message : OptionFault → Text
  | .column value _ => "Invalid column= value '" ++ value ++ "'"
  | .number fault => fault.message
  | .infiniteGap => "cannot convert float infinity to integer"
  | .undefinedGap => "cannot convert float NaN to integer"

/-! ## Values -/

/-- A text in double quotes, unless it starts with a quote already. -/
def enquote (value : Text) : Text :=
  match value with
  | '"' :: _ => value
  | '\'' :: _ => value
  | _ => "\"" ++ value ++ "\""

/-- The colors of a comma-separated list; empty items do not count. -/
def splitColors (value : Text) : List Text :=
  (Text.piecesAt "," value).filter fun color => !color.isEmpty

/-- The commands that install colors as line types from `number` on. -/
def colorCommands (number : Nat) : List Text → List Text
  | [] => []
  | color :: colors =>
    (s!"set linetype {number} lc rgb \"" ++ color ++ "\"") :: colorCommands (number + 1) colors

/-- The gap after multiplication by a factor.  Clusters are centred on odd gaps only, so one is
added to a gap whose integer part is even, unless the gap is zero. -/
def multiplyGap (gap factor : Binary64) : Except OptionFault Binary64 :=
  match gap * factor with
  | .undefined => .error .undefinedGap
  | .infinite _ => .error .infiniteGap
  | .finite negative m =>
    let product : Binary64 := .finite negative m
    if m.units ≠ 0 ∧ m.wholePart % 2 = 0 then .ok (product + .ofNat 1) else .ok product

/-- The term that draws a horizontal line. -/
def horizontalLineTerm (value : Text) : Text := "f(x)=" ++ value ++ ",f(x) notitle dt 1"

/-! ## Flags -/

namespace Flag

/-- What a flag writes. -/
def line? : Flag → Option Text
  | .gridX => some "set grid xtics"
  | .noUpperRight => some "set xtics nomirror\nset ytics nomirror\nset border 0x3"
  | _ => none

/-- How a flag changes the style. -/
def update? : Flag → Option (Style → Style)
  | .patterns => some fun style =>
    { style with patterns := true, fillStyle := "pattern " ++ toString style.patternStart }
  | .gridX => none
  | .noGridY => some fun style => { style with gridY := false }
  | .noLegend => some fun style => { style with legend := false }
  | .noRotate => some fun style => { style with xTicsRotation := 0 }
  | .noUpperRight => some fun style => { style with upperRightBorder := false }
  | .noXLabels => some fun style => { style with xLabels := false }

end Flag

/-! ## Settings -/

namespace Setting

/-- What a setting writes. -/
def line? : Setting → Option (Text → Text)
  | .colorSet => some fun value => Text.join "\n" (colorCommands 1 (splitColors value))
  | .logScaleY => some fun value => "set logscale y " ++ value
  | .title => some fun value => "set title " ++ enquote value
  | .xLabel => some fun value => "set xlabel " ++ enquote value
  | .xLabelShift => some fun value => "set xlabel offset " ++ value
  | .yFormat => some fun value => "set format y '" ++ value ++ "'"
  | .yLabel => some fun value => "set ylabel " ++ enquote value
  | .yLabelShift => some fun value => "set ylabel offset " ++ value
  | _ => none

/-- How a setting changes the style. -/
def update? : Setting → Option (Text → Style → Except OptionFault Style)
  | .barWidth => some fun value style => .ok { style with boxWidth := value }
  | .colorSet => some fun value style =>
    .ok { style with colors := style.colors ++ splitColors value }
  | .column => some fun value style =>
    match Column.parse value with
    | .ok selector => .ok { style with column := some selector }
    | .error fault => .error (.column value fault)
  | .gapFactor => some fun value style =>
    match leadingNumber value with
    | .error fault => .error (.number fault)
    | .ok factor => (multiplyGap style.barGap factor).map fun gap => { style with barGap := gap }
  | .maxY => some fun value style => .ok { style with yMax := value }
  | .minY => some fun value style => .ok { style with yMin := value }
  | .setLabelShift => some fun value style => .ok { style with labelShift := some value }
  | .rotateBy => some fun value style =>
    match leadingNumber value with
    | .error fault => .error (.number fault)
    | .ok angle => .ok { style with xTicsRotation := angle.abs }
  | _ => none

/-- Whether a setting reads its value as a number. -/
def isNumeric : Setting → Bool
  | .gapFactor | .rotateBy => true
  | _ => false

end Setting

/-! ## Repeated options -/

namespace Repeated

/-- What a repeated option writes. -/
def line? : Repeated → Option (List Text → Text)
  | .command => some fun values => Text.join "\n" values
  | .horizontalLine => none

/-- How a repeated option changes the style. -/
def update? : Repeated → Option (List Text → Style → Style)
  | .command => none
  | .horizontalLine => some fun values style =>
    { style with plotLines := style.plotLines ++ values.map horizontalLineTerm }

end Repeated

/-! ## All options together -/

namespace Key

/-- Whether an option writes a piece of the script. -/
def writes : Key → Bool
  | .flag f => f.line?.isSome
  | .setting s => s.line?.isSome
  | .repeated r => r.line?.isSome

/-- Whether an option changes the style. -/
def changesStyle : Key → Bool
  | .flag f => f.update?.isSome
  | .setting s => s.update?.isSome
  | .repeated r => r.update?.isSome

end Key
end ChartScript
