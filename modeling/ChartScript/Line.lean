import ChartScript.Dataset
import ChartScript.Grouping
import ChartScript.Options.Basic

/-!
# Lines of a chart description

Every line of a description is one of the following, blanks around it aside:

* empty, or a comment that starts with `#`;
* `name=value`, which starts a cluster set if the name is `multimulti` and gives a value to an
  option otherwise;
* `=name`, a directive: a grouping, a flag or a data mode, tried in this order;
* a data row.

`Line.read` says which.  It depends on the line alone, not on the lines before it.
-/

set_option autoImplicit false

namespace ChartScript

/-- The kinds of lines that are told apart in a report about a description. -/
inductive LineKind where
  | blank
  | comment
  | option
  | set
  | grouping
  | flag
  | dataMode
  | ignored
  | data
  deriving DecidableEq, Repr

/-- The name of a kind of line. -/
def LineKind.name : LineKind → String
  | .blank => "blank"
  | .comment => "comment"
  | .option => "option"
  | .set => "set"
  | .grouping => "grouping"
  | .flag => "flag"
  | .dataMode => "data_mode"
  | .ignored => "ignored"
  | .data => "data"

/-- What a line says. -/
inductive Line where
  | blank
  | comment
  | newSet (title : Text)
  | setting (setting : Setting) (value : Text)
  | repeated (option : Repeated) (value : Text)
  | unknownOption (name value : Text)
  | grouping (grouping : Grouping)
  | flag (flag : Flag)
  | mode (mode : Mode)
  | unknownDirective (name : Text)
  | row (row : Row)
  deriving DecidableEq, Repr

namespace Line

/-- The kind of a line. -/
def kind : Line → LineKind
  | .blank => .blank
  | .comment => .comment
  | .newSet _ => .set
  | .setting .. => .option
  | .repeated .. => .option
  | .unknownOption .. => .ignored
  | .grouping _ => .grouping
  | .flag _ => .flag
  | .mode _ => .dataMode
  | .unknownDirective _ => .ignored
  | .row _ => .data

/-- The name that starts a cluster set. -/
def setName : String := "multimulti"

/-- Whether `c` may stand in an option's name. -/
def isNameChar (c : CodePoint) : Bool := c.isIn Char.isAlpha || c == '_'

/-- The name and the value of an option line.  The value has to stay on one line. -/
def optionParts? (line : Text) : Option (Text × Text) :=
  let name := line.takeWhile isNameChar
  match line.dropWhile isNameChar with
  | '=' :: value => if name.isEmpty || value.contains '\n' then none else some (name, value)
  | _ => none

/-- What an option line says. -/
def ofOption (name value : Text) : Line :=
  if name = setName then .newSet value
  else
    match Key.ofName? name with
    | some (.setting s) => .setting s value
    | some (.repeated r) => .repeated r value
    | _ => .unknownOption name value

/-- What a directive says. -/
def ofDirective (body : Text) : Line :=
  match Grouping.match? body with
  | some g => .grouping g
  | none =>
    match Flag.ofName? body with
    | some f => .flag f
    | none =>
      match Mode.ofName? body with
      | some m => .mode m
      | none => .unknownDirective body

/-- What a line without blanks around it says. -/
def ofStripped (line : Text) : Line :=
  match line with
  | [] => .blank
  | '#' :: _ => .comment
  | '=' :: body => ofDirective body
  | _ =>
    match optionParts? line with
    | some (name, value) => ofOption name value
    | none => .row (Row.read line)

/-- What a line says. -/
def read (line : Text) : Line := ofStripped line.strip

end Line
end ChartScript
