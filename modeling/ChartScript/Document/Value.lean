import ChartScript.Document.Fault
import ChartScript.Document.Moment
import ChartScript.Number.Integer
import ChartScript.Number.Layout
import ChartScript.Text.Quoted

/-!
# Values of configuration documents

A configuration document is a tree of values.  `Value.text` is a value as a line of text: a string
is its own text, and inside lists and tables strings are quoted (`Value.innerText`).  `Value.write`
gives that text unless it would be out of bounds.
-/

set_option autoImplicit false

namespace ChartScript

/-- A value of a document.  The entries of a table are in the order of their first occurrence, and
no name occurs twice. -/
inductive Value where
  | null
  | bool (value : Bool)
  | integer (value : Int)
  | number (value : Binary64)
  | string (value : Text)
  | moment (value : Moment)
  | list (items : List Value)
  | table (entries : List (Text × Value))

namespace Value

/-- The name of the type of a value. -/
def typeName : Value → String
  | .null => "NoneType"
  | .bool _ => "bool"
  | .integer _ => "int"
  | .number _ => "float"
  | .string _ => "str"
  | .moment (.date _) => "date"
  | .moment (.time _) => "time"
  | .moment (.dateTime ..) => "datetime"
  | .list _ => "list"
  | .table _ => "dict"

/-- Whether a value counts as given: it is not null, false, zero or empty. -/
def isGiven : Value → Bool
  | .null => false
  | .bool b => b
  | .integer n => n != 0
  | .number x => !x.isZero
  | .string s => !s.isEmpty
  | .moment _ => true
  | .list items => !items.isEmpty
  | .table entries => !entries.isEmpty

/-- The value of a name in a table. -/
def lookup (name : Text) (entries : List (Text × Value)) : Option Value :=
  (entries.find? (·.1 == name)).map (·.2)

/-- Gives a name a value, at the place of its earlier value if it has one. -/
def insert (name : Text) (value : Value) :
    List (Text × Value) → List (Text × Value)
  | [] => [(name, value)]
  | (n, v) :: rest => if n = name then (n, value) :: rest else (n, v) :: insert name value rest

mutual

/-- A value inside a list or table. -/
def innerText : Value → String
  | .null => "None"
  | .bool b => if b then "True" else "False"
  | .integer n => toString n
  | .number x => x.exactText
  | .string s => s.quoted
  | .moment m => m.longText
  | .list items => "[" ++ ", ".intercalate (itemTexts items) ++ "]"
  | .table entries => "\x7b" ++ ", ".intercalate (entryTexts entries) ++ "\x7d"

/-- The items of a list. -/
def itemTexts : List Value → List String
  | [] => []
  | v :: rest => innerText v :: itemTexts rest

/-- The entries of a table. -/
def entryTexts : List (Text × Value) → List String
  | [] => []
  | (name, v) :: rest => (name.quoted ++ ": " ++ innerText v) :: entryTexts rest

end

/-- A value as a line of text. -/
def text : Value → Text
  | .string s => s
  | .moment m => m.text
  | v => innerText v

/-- Why a value cannot be written as text. -/
inductive TextFault where
  /-- It holds an integer with more digits than are ever written. -/
  | longInteger
  /-- Its values are nested too deeply. -/
  | tooDeep
  deriving DecidableEq, Repr

mutual

/-- The first reason why a value cannot be written, when `room` levels may still be opened. -/
def textFault? : Nat → Value → Option TextFault
  | 0, _ => some .tooDeep
  | room + 1, v =>
    match v with
    | .integer n =>
      if Number.maxIntegerDigits < Number.digitCount n.natAbs then some .longInteger else none
    | .list items => itemFault? room items
    | .table entries => entryFault? room entries
    | _ => none

/-- The first reason among the items of a list. -/
def itemFault? (room : Nat) : List Value → Option TextFault
  | [] => none
  | v :: rest => (textFault? room v).or (itemFault? room rest)

/-- The first reason among the entries of a table. -/
def entryFault? (room : Nat) : List (Text × Value) → Option TextFault
  | [] => none
  | (_, v) :: rest => (textFault? room v).or (entryFault? room rest)

end

/-- The line of text that a value is, or the reason why there is none, when `limit` levels can be
open at a time. -/
def write (limit : Nat) (v : Value) : Except TextFault Text :=
  match textFault? limit v with
  | none => .ok v.text
  | some fault => .error fault

end Value
end ChartScript
