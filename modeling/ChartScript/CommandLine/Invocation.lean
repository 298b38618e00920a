import ChartScript.CommandLine.Token

/-!
# Invocations

`CommandLine.parse` interprets the arguments of a command line, from left to right, as a `Request`:
to show the help or the version, or an `Invocation` with all its choices.  Help and version are
shown as soon as they are met, whatever comes after them.

A double dash attached to a switch is a value like any other, or is dropped and leaves the switch
without a value.  Platforms differ in this, so `drops` says which.
-/

set_option autoImplicit false

namespace ChartScript
namespace CommandLine

/-- The choices on a command line. -/
structure Invocation where
  file : Option Text := none
  /-- Lines to be taken in after those of the description; one may be missing. -/
  extra : List (Option Text) := []
  /-- Lines to be passed through to the plotting program; one may be missing. -/
  backend : List (Option Text) := []
  config : Option Text := none
  logLevel : Option Level := none
  verbose : Bool := false
  manual : Bool := false
  deriving DecidableEq, Repr

/-- What a command line asks for. -/
inductive Request where
  | help
  | version
  | invoke (invocation : Invocation)
  deriving DecidableEq, Repr

/-- What is known after some arguments: the choices, and the arguments that have no place. -/
structure Progress where
  invocation : Invocation := {}
  extras : List Text := []
  deriving DecidableEq, Repr

/-- A step that goes on, or ends because help or the version is shown. -/
inductive Step where
  | goOn (invocation : Invocation)
  | stop (request : Request)
  deriving DecidableEq, Repr

/-- The effect of a switch without a value. -/
def Invocation.flag (i : Invocation) : Switch → Step
  | .help => .stop .help
  | .version => .stop .version
  | .verbose => .goOn { i with verbose := true }
  | .manual => .goOn { i with manual := true }
  | .extra | .backend | .config | .logLevel => .goOn i

/-- The value that a text attached to a switch gives it; a double dash that is dropped gives
none. -/
def attachedValue (drops : Bool) (text : Text) : Option Text :=
  if drops && text == "--" then none else some text

/-- The effect of a switch that takes a value.  A value that is not there undoes an earlier choice
of a configuration file or a level, and stands for a missing line among the lines given. -/
def Invocation.assign (i : Invocation) (s : Switch) (value : Option Text) :
    Except UsageError Invocation :=
  match s with
  | .extra => .ok { i with extra := i.extra ++ [value] }
  | .backend => .ok { i with backend := i.backend ++ [value] }
  | .config => .ok { i with config := value }
  | .logLevel =>
    match value with
    | none => .ok { i with logLevel := none }
    | some word =>
      match levelWords.lookup word with
      | some level => .ok { i with logLevel := some level }
      | none => .error (.unknownLevel word)
  | .help | .verbose | .manual | .version => .ok i

/-- The short switches that a text attached to the short switch `s` adds to it.  Every code point
must be one of them; otherwise the rest of the text is a value that the switch before does not
take. -/
def shortRun (s : Switch) : Text → Except UsageError (List Switch)
  | [] => .ok [s]
  | c :: rest =>
    match Switch.ofSpelling? ['-', c] with
    | none => .error (.unusedValue s (c :: rest))
    | some next => (shortRun next rest).map (s :: ·)

/-- The switches of an argument that names the switch `s`, which takes no value, by `spelling` and
has a text attached. -/
def attachedRun (s : Switch) (spelling text : Text) : Except UsageError (List Switch) :=
  if Switch.isShort spelling && !text.isEmpty then shortRun s text
  else .error (.unusedValue s text)

/-- The effect of several switches without values. -/
def Invocation.flags (i : Invocation) : List Switch → Step
  | [] => .goOn i
  | s :: rest =>
    match i.flag s with
    | .goOn i => i.flags rest
    | stop => stop

/-- Interprets the arguments after the double dash: the first names the file, unless the file is
known, and the others have no place. -/
def finish (p : Progress) (words : List Text) : Progress :=
  match p.invocation.file, words with
  | none, file :: rest =>
    { invocation := { p.invocation with file := some file }, extras := p.extras ++ rest }
  | none, [] => p
  | some _, _ => { p with extras := p.extras ++ ("--" : Text) :: words }

/-- The texts of words. -/
def wordsOf (tokens : List Token) : List Text :=
  tokens.filterMap fun
    | .word text => some text
    | _ => none

/-- Interprets arguments after what is known. -/
def interpret (drops : Bool) (p : Progress) : List Token → Except UsageError (Request ⊕ Progress)
  | [] => .ok (.inr p)
  | .separator :: rest => .ok (.inr (finish p (wordsOf rest)))
  | .unknown text :: rest => interpret drops { p with extras := p.extras ++ [text] } rest
  | .word text :: rest =>
    match p.invocation.file, rest with
    | some _, _ => interpret drops { p with extras := p.extras ++ [text] } rest
    | none, .separator :: words =>
      .ok (.inr { invocation := { p.invocation with file := some text },
                  extras := p.extras ++ wordsOf words })
    | none, _ =>
      interpret drops { p with invocation := { p.invocation with file := some text } } rest
  | .switch s spelling (some text) :: rest =>
    if s.takesValue then do
      let i ← p.invocation.assign s (attachedValue drops text)
      interpret drops { p with invocation := i } rest
    else do
      match p.invocation.flags (← attachedRun s spelling text) with
      | .stop request => return .inl request
      | .goOn i => interpret drops { p with invocation := i } rest
  | .switch s _ none :: rest =>
    if s.takesValue then
      match rest with
      | .word text :: rest => do
        let i ← p.invocation.assign s (some text)
        interpret drops { p with invocation := i } rest
      | _ => .error (.missingValue s)
    else
      match p.invocation.flag s with
      | .stop request => .ok (.inl request)
      | .goOn i => interpret drops { p with invocation := i } rest

/-- What a command line asks for. -/
def parse (drops : Bool) (arguments : List Text) : Except UsageError Request := do
  match ← interpret drops {} (← Token.readAll arguments) with
  | .inl request => return request
  | .inr p =>
    if p.extras.isEmpty then return .invoke p.invocation
    else throw (.unrecognized p.extras)

end CommandLine
end ChartScript
