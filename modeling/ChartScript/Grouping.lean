import ChartScript.Titles

/-!
# Groupings

A grouping says how the datasets of a chart are drawn together and names them.  Its directive is
the name of a kind, a delimiter and the titles, separated by that delimiter:

    =cluster;Irish elk;Dodo birds;Coelecanth
    =stacked,Monday,Tuesday
    =cluster Fast Slow

* `Grouping.match?` reads the directive; `ChartScript.Titles` has the rules of its titles.
* `Grouping.histogramStyle` is the style of histogram that draws a grouping.
-/

set_option autoImplicit false

namespace ChartScript

/-- The ways to draw several datasets together. -/
inductive GroupingKind where
  | cluster
  | stacked
  | stackcluster
  deriving DecidableEq, Repr

namespace GroupingKind

/-- The name that a directive uses. -/
def name : GroupingKind → String
  | .cluster => "cluster"
  | .stacked => "stacked"
  | .stackcluster => "stackcluster"

/-- The kinds in the order in which a directive is matched against them: longer names first, so
that no name hides another, and names of equal length in alphabetical order. -/
def precedence : List GroupingKind := [.stackcluster, .cluster, .stacked]

/-- Stacked bars list their legend from the bottom up. -/
def invertsKey : GroupingKind → Bool
  | .cluster => false
  | _ => true

end GroupingKind

/-- A grouping: its kind and, unless it is the default one, the titles and the delimiter they were
written with. -/
structure Grouping where
  kind : GroupingKind := .cluster
  titles : Option (List Text) := none
  delimiter : Option Text := none
  deriving DecidableEq, Repr

namespace Grouping

/-- The number of groups; data without titles is one group. -/
def groupCount (g : Grouping) : Nat :=
  match g.titles with
  | none => 1
  | some titles => titles.length

/-- The title of a group, empty where there is none. -/
def title (g : Grouping) (group : Nat) : Text := (g.titles.getD []).getD group ""

/-- The title at an index, as `titleAt` counts. -/
def titleFor (g : Grouping) (index : Int) : Except NoSuchTitle Text :=
  match g.titles with
  | none => .ok ""
  | some titles => (titleAt titles index).map (·.getD "")

/-- The grouping that the body of a directive describes when it starts with the name of `kind`. -/
def ofKind? (kind : GroupingKind) (body : Text) : Option Grouping :=
  if (Text.ofString kind.name).isPrefixOf body then
    match body.drop kind.name.length with
    | [] => none
    | delimiter :: titles => some ⟨kind, some (titlesBetween [delimiter] titles), some [delimiter]⟩
  else none

/-- The grouping that the body of a directive describes.  A name alone, without a delimiter after
it, describes none. -/
def match? (body : Text) : Option Grouping :=
  GroupingKind.precedence.findSome? (ofKind? · body)

/-- The style of histogram that draws the grouping. -/
def histogramStyle (g : Grouping) (errorBars : Bool) (labelShift : Option Text) : Text :=
  match g.kind, labelShift with
  | .cluster, _ => if errorBars then "errorbars lw 1" else "cluster"
  | .stackcluster, some shift => "rowstacked title offset " ++ shift
  | _, _ => "rowstacked"

end Grouping
end ChartScript
