import ChartScript.CommandLine.Switch
import ChartScript.Text.Digit
import ChartScript.Text.Quoted

/-!
# Arguments by kind

Before arguments are interpreted each is put into a kind by its own text: a word, a switch, or
something that looks like a switch and is none.  After a double dash everything is a word.

A switch may be abbreviated as long as no other switch starts the same way, and a value may be
attached to it with an equals sign.  A short switch needs no equals sign.
-/

set_option autoImplicit false

namespace ChartScript
namespace CommandLine

/-- What is wrong with a command line. -/
inductive UsageError where
  | ambiguous (argument : Text) (spellings : List Text)
  | missingValue (s : Switch)
  | unusedValue (s : Switch) (value : Text)
  | unknownLevel (value : Text)
  | unrecognized (arguments : List Text)
  deriving DecidableEq, Repr

/-- An error of the command line in words. -/
def UsageError.message : UsageError → Text
  | .ambiguous argument spellings =>
    "ambiguous option: " ++ argument ++ " could match " ++ Text.join ", " spellings
  | .missingValue s => "argument " ++ s.name ++ ": expected one argument"
  | .unusedValue s value =>
    "argument " ++ s.name ++ ": ignored explicit argument " ++ value.quoted
  | .unknownLevel value =>
    "argument " ++ Switch.logLevel.name ++ ": invalid choice: " ++ value.quoted ++
      " (choose from " ++ Text.join ", " (levelWords.map fun l => l.1.quoted) ++ ")"
  | .unrecognized arguments => "unrecognized arguments: " ++ Text.join " " arguments

/-- An argument by its kind. -/
inductive Token where
  | word (text : Text)
  /-- The double dash. -/
  | separator
  /-- A switch, the spelling it was given by, and the text attached to it. -/
  | switch (s : Switch) (spelling : Text) (attached : Option Text)
  /-- An argument that looks like a switch and is none. -/
  | unknown (text : Text)
  deriving DecidableEq, Repr

namespace Token

/-- A text up to its first equals sign, and the text after it. -/
def splitValue (text : Text) : Text × Option Text :=
  (text.takeWhile (· != CodePoint.char '='), (text.dropWhile (· != CodePoint.char '=')).tail?)

/-- Whether a text is a negative number: a dash, then digits or a decimal fraction.  A line feed at
the end does not count. -/
def isNegativeNumber (text : Text) : Bool :=
  match text with
  | '-' :: rest =>
    let rest := if rest.getLast? == some (.char '\n') then rest.dropLast else rest
    match rest.dropWhile Text.isDigit with
    | [] => !rest.isEmpty
    | '.' :: fraction => !fraction.isEmpty && fraction.all Text.isDigit
    | _ => false
  | _ => false

/-- The switches that an argument may abbreviate, or the short switch that it starts with. -/
def candidates (argument : Text) : List (Switch × Text × Option Text) :=
  match argument with
  | '-' :: '-' :: _ =>
    let (start, value) := splitValue argument
    Switch.table.filterMap fun (spelling, s) =>
      if start.isPrefixOf spelling then some (s, spelling, value) else none
  | _ =>
    let spelling := argument.take 2
    (Switch.ofSpelling? spelling).toList.map fun s => (s, spelling, some (argument.drop 2))

/-- An argument that starts with a dash and does not end there, and is no spelling by itself. -/
def readDashed (argument : Text) : Except UsageError Token :=
  let (start, value) := splitValue argument
  match value, Switch.ofSpelling? start with
  | some value, some s => .ok (.switch s start (some value))
  | _, _ =>
    match candidates argument with
    | [(s, spelling, attached)] => .ok (.switch s spelling attached)
    | [] =>
      if isNegativeNumber argument || argument.contains ' ' then .ok (.word argument)
      else .ok (.unknown argument)
    | several => .error (.ambiguous argument (several.map (·.2.1)))

/-- The kind of an argument other than the double dash. -/
def read (argument : Text) : Except UsageError Token :=
  if argument.head? != some (.char '-') || argument == "-" then .ok (.word argument)
  else
    match Switch.ofSpelling? argument with
    | some s => .ok (.switch s argument none)
    | none => readDashed argument

/-- The kinds of all arguments. -/
def readAll : List Text → Except UsageError (List Token)
  | [] => .ok []
  | argument :: rest =>
    if argument == "--" then .ok (.separator :: rest.map .word)
    else do
      let token ← read argument
      let tokens ← readAll rest
      return token :: tokens

end Token
end CommandLine
end ChartScript
