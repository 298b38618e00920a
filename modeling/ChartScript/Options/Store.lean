import ChartScript.Options.Basic

/-!
# Options that were given

`Store` holds what a description says about options: which flags it gives, the value of every
setting, the values of every repeated option, and the directives and options that do not exist.
The latter are ignored and reported (`Store.ignored`).
-/

set_option autoImplicit false

namespace ChartScript

/-- A directive or option that does not exist. -/
inductive Ignored where
  | directive (name : Text)
  | option (name value : Text)
  deriving DecidableEq, Repr

namespace Ignored

/-- The name that does not exist. -/
def name : Ignored → Text
  | .directive name => name
  | .option name _ => name

/-- The value it was given, if it is an option. -/
def value? : Ignored → Option Text
  | .directive _ => none
  | .option _ value => some value

/-- The line as it was written, up to blanks around it. -/
def describe : Ignored → Text
  | .directive name => "=" ++ name
  | .option name value => name ++ "=" ++ value

/-- The warning about it. -/
def warning (i : Ignored) : Text := "ignored parameter: " ++ i.describe

/-- Orders by name, keeping the order of equal names. -/
def sortByName (items : List Ignored) : List Ignored :=
  items.mergeSort fun a b => a.name.inOrder b.name

end Ignored

/-- What a description says about options. -/
structure Store where
  flags : Flag → Bool := fun _ => false
  settings : Setting → Option Text := fun _ => none
  /-- The values of every repeated option, in order; none when it was not given. -/
  repeated : Repeated → List Text := fun _ => []
  unknownDirectives : List Ignored := []
  unknownOptions : List Ignored := []

/-- A value as the store gives it back. -/
inductive StoredValue where
  | given
  | one (value : Text)
  | many (values : List Text)
  deriving DecidableEq, Repr

namespace Store

/-- Gives a flag. -/
def setFlag (store : Store) (flag : Flag) : Store :=
  { store with flags := fun f => if f = flag then true else store.flags f }

/-- Sets a setting, in place of an earlier value. -/
def setSetting (store : Store) (setting : Setting) (value : Text) : Store :=
  { store with settings := fun s => if s = setting then some value else store.settings s }

/-- Adds a value to a repeated option. -/
def addRepeated (store : Store) (option : Repeated) (value : Text) : Store :=
  { store with
    repeated := fun r => if r = option then store.repeated r ++ [value] else store.repeated r }

/-- Records a directive that does not exist. -/
def ignoreDirective (store : Store) (name : Text) : Store :=
  { store with unknownDirectives := store.unknownDirectives ++ [.directive name] }

/-- Records an option that does not exist. -/
def ignoreOption (store : Store) (name value : Text) : Store :=
  { store with unknownOptions := store.unknownOptions ++ [.option name value] }

/-- Gives the flag of a name, and says whether there is one. -/
def giveFlag (store : Store) (name : Text) : Store × Bool :=
  match Flag.ofName? name with
  | some flag => (store.setFlag flag, true)
  | none => (store, false)

/-- Gives a value to the option of a name, and says whether there is one that takes values. -/
def setValue (store : Store) (name value : Text) : Store × Bool :=
  match Key.ofName? name with
  | some (.setting s) => (store.setSetting s value, true)
  | some (.repeated r) => (store.addRepeated r value, true)
  | _ => (store.ignoreOption name value, false)

/-- What the store holds for an option. -/
def value? (store : Store) : Key → Option StoredValue
  | .flag f => if store.flags f then some .given else none
  | .setting s => (store.settings s).map .one
  | .repeated r => if (store.repeated r).isEmpty then none else some (.many (store.repeated r))

/-- What the store holds under a name. -/
def find? (store : Store) (name : Text) : Option StoredValue :=
  (Key.ofName? name).bind store.value?

/-- What does not exist: directives first, then options, each part ordered by name and equal names
in the order they were given. -/
def ignored (store : Store) : List Ignored :=
  Ignored.sortByName store.unknownDirectives ++ Ignored.sortByName store.unknownOptions

/-- The warnings about what does not exist. -/
def warnings (store : Store) : List Text := store.ignored.map Ignored.warning

end Store
end ChartScript
