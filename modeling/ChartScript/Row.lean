import ChartScript.Text.Basic
import ChartScript.Text.Blank

/-!
# Data rows

A data row is a label followed by values, all separated by blanks.  A label may hold blanks when it
stands between double quotes; the quotes belong to the label, and there is no way to write a double
quote inside one.

* `Row.read` reads a row from a line, `Row.render` writes it with single spaces.
* A quoted label counts as such only when the rest of the line, its leading blanks aside, stays on
  one line; otherwise the line is cut at blanks alone.
-/

set_option autoImplicit false

namespace ChartScript

/-- A data row. -/
structure Row where
  label : Text
  values : List Text
  deriving DecidableEq, Repr

/-- The value that stands for no data. -/
def missing : Text := "-"

namespace Row

/-- A label in double quotes at the start of a line, and the rest of the line. -/
def quotedLabel? : Text → Option (Text × Text)
  | '"' :: rest =>
    let inner : Text := rest.takeWhile (· != CodePoint.char '"')
    match rest.dropWhile (· != CodePoint.char '"') with
    | _ :: tail => if inner.isEmpty then none else some ("\"" ++ inner ++ "\"", tail)
    | [] => none
  | _ => none

/-- Whether a text has no line feed, except perhaps at its end. -/
def isOneLine (t : Text) : Bool := !t.dropLast.contains '\n'

/-- The row of the words of a line. -/
def ofWords : List Text → Row
  | [] => ⟨"", []⟩
  | label :: values => ⟨label, values⟩

/-- The row that a line holds. -/
def read (line : Text) : Row :=
  match quotedLabel? line with
  | some (label, rest) =>
    if isOneLine (rest.dropWhile Text.isBlank) then ⟨label, rest.words⟩ else ofWords line.words
  | none => ofWords line.words

/-- A row as a line: the label and the values with single spaces between them. -/
def render (row : Row) : Text := Text.join " " (row.label :: row.values)

example : read "age  37 9" = ⟨"age", ["37", "9"]⟩ := by decide

example : read "\"body mass\" 92 52" = ⟨"\"body mass\"", ["92", "52"]⟩ := by decide

end Row
end ChartScript
