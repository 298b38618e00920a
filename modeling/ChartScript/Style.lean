import ChartScript.Column
import ChartScript.Number.Binary64

/-!
# The style of a chart

`Style` holds the settings of a whole chart.  It starts out with the defaults, options change it,
and the script is written from it.
-/

set_option autoImplicit false

namespace ChartScript

/-- The settings of a whole chart. -/
structure Style where
  /-- The gap between bars or clusters, in bar widths. -/
  barGap : Binary64 := .ofNat 1
  boxWidth : Text := "1"
  fillStyle : Text := "solid 1.0"
  gridY : Bool := true
  legend : Bool := true
  keyInvert : Bool := false
  upperRightBorder : Bool := true
  xLabels : Bool := true
  /-- The rotation of the tic labels of the X axis, in degrees. -/
  xTicsRotation : Binary64 := .ofNat 90
  yMin : Text := ""
  yMax : Text := ""
  /-- The colors chosen for the groups, in order. -/
  colors : List Text := []
  patterns : Bool := false
  patternStart : Int := 2
  /-- The offset of the titles of cluster sets. -/
  labelShift : Option Text := none
  /-- Terms that come before all others in the plot command. -/
  plotLines : List Text := []
  column : Option Column := none
  deriving DecidableEq

/-- The line type of the group at an index.  The chosen colors are the line types from one on, and
they repeat when there are more groups than colors. -/
def Style.lineType (style : Style) (index : Int) : Int :=
  if style.colors.isEmpty then index + 1 else 1 + index % (style.colors.length : Int)

end ChartScript
