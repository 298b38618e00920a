/-!
# Faults of documents

A text may be no document at all, or its values may be nested too deeply.  Reading a value opens a
level for every list and table it is inside of, writing it as text opens one for every value, and
only so many levels can be open at a time.  How many, depends on the platform.
-/

set_option autoImplicit false

namespace ChartScript

/-- What opens a level too many. -/
inductive Nesting where
  /-- A list of a JSON document. -/
  | jsonList
  /-- An object of a JSON document. -/
  | jsonObject
  /-- A value of a TOML document. -/
  | tomlValue
  /-- A value that is written as text. -/
  | writtenValue
  deriving DecidableEq, Repr

/-- The number of levels that can be open at a time, where nothing else is known. -/
def Nesting.usualLimit : Nat := 988

/-- What was done when the levels ran out, in words. -/
def Nesting.activity : Nesting → String
  | .jsonList => " while decoding a JSON array from a unicode string"
  | .jsonObject => " while decoding a JSON object from a unicode string"
  | .tomlValue => ""
  | .writtenValue => " while getting the repr of an object"

/-- The fault in words. -/
def Nesting.message (n : Nesting) : String := "maximum recursion depth exceeded" ++ n.activity

/-- Why a text cannot be read as a document. -/
inductive DocumentFault where
  | malformed
  | tooDeep (nesting : Nesting)
  deriving DecidableEq, Repr

/-- The formats of documents. -/
inductive DocumentFormat where
  | json
  | toml
  deriving DecidableEq, Repr

/-- The name of a format. -/
def DocumentFormat.name : DocumentFormat → String
  | .json => "JSON"
  | .toml => "TOML"

/-- What was read, where nothing read means that the text is no document. -/
def orMalformed {α : Type} : Option α → Except DocumentFault α
  | some a => .ok a
  | none => .error .malformed

end ChartScript
