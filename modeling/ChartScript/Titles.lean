import ChartScript.Text.Blank
import ChartScript.Text.Separator

/-!
# Lists of titles

Titles are written in a row with a delimiter between them.  A blank delimiter separates them by any
run of blanks; any other delimiter separates them by its exact occurrences, and then empty titles
are dropped at the end of the list and kept elsewhere.

* `titlesBetween` reads such a row, `splitTitles` refuses the empty delimiter.
* `titleAt` finds a title by an index that may count from the end.
-/

set_option autoImplicit false

namespace ChartScript

/-- Drops the empty titles at the end of a list. -/
def dropEmptyEnd (titles : List Text) : List Text :=
  (titles.reverse.dropWhile List.isEmpty).reverse

/-- The titles of a text that a non-empty delimiter separates. -/
def titlesBetween (delimiter text : Text) : List Text :=
  if delimiter.isBlankText then text.words else dropEmptyEnd (Text.piecesAt delimiter text)

/-- A delimiter without characters, at which no text can be cut. -/
structure EmptyDelimiter where
  deriving DecidableEq, Repr

/-- The fault in words. -/
def EmptyDelimiter.message (_ : EmptyDelimiter) : String := "empty separator"

/-- The titles of a text that the delimiter separates. -/
def splitTitles (text delimiter : Text) : Except EmptyDelimiter (List Text) :=
  if delimiter.isEmpty then .error {} else .ok (titlesBetween delimiter text)

example : titlesBetween ";" "A;B;;C;;" = (["A", "B", "", "C"] : List Text) := by decide

example : titlesBetween " " "Mon  Tue Wed" = (["Mon", "Tue", "Wed"] : List Text) := by decide

/-- Why a negative index finds no title. -/
inductive NoSuchTitle where
  /-- It reaches beyond the start of the list. -/
  | beforeStart
  /-- It is not even a machine word, which no list can be indexed by. -/
  | noWord
  deriving DecidableEq, Repr

/-- The fault in words. -/
def NoSuchTitle.message : NoSuchTitle → String
  | .beforeStart => "list index out of range"
  | .noWord => "cannot fit 'int' into an index-sized integer"

/-- The least number that is a machine word. -/
def leastWord : Int := -0x8000000000000000

/-- The title at an index: a negative index counts from the end of the list, and there is no title
past the end. -/
def titleAt (titles : List Text) (index : Int) : Except NoSuchTitle (Option Text) :=
  if 0 ≤ index then .ok titles[index.toNat]?
  else if 0 ≤ index + titles.length then .ok titles[(index + titles.length).toNat]?
  else if index < leastWord then .error .noWord
  else .error .beforeStart

end ChartScript
