import ChartScript.Document.Fault
import ChartScript.Document.Toml.Names
import ChartScript.Document.Toml.Scalar

/-!
# TOML documents

`Toml.read` reads a TOML document: lines that give values to names, headers that open a table or a
new item of a list of tables, comments and empty lines.

Reading a value calls itself for the values inside and after it, so the readers take a bound on the
number of calls; twice the length of the text is enough.  The number of open lists and tables has a
bound of its own, which is given.
-/

set_option autoImplicit false

namespace ChartScript
namespace Toml

/-- The rest of a text after the comment at its start, if there is one. -/
def skipComment? (cs : Text) : Option (Text) :=
  match cs with
  | '#' :: rest =>
    if (rest.takeWhile (· != CodePoint.char '\n')).any isForbidden then none
    else some (rest.dropWhile (· != CodePoint.char '\n'))
  | _ => some cs

/-- The rest of a text after blanks, line feeds and comments. -/
def skipLines? : Nat → Text → Option (Text)
  | 0, cs => some cs
  | fuel + 1, cs =>
    match cs.dropWhile isSpaceOrNewline with
    | '#' :: rest => do skipLines? fuel (← skipComment? ('#' :: rest))
    | rest => some rest

/-- The rest of a text after what may stand between the items of a list. -/
def skipBetween? (cs : Text) : Option (Text) := skipLines? (cs.length + 1) cs

/-! ## Names -/

/-- Whether `c` may stand in a name without quotes. -/
def isBareChar (c : CodePoint) : Bool := c.isIn Char.isAlphanum || c == '-' || c == '_'

/-- The part of a dotted name at the start of a text. -/
def namePart? (cs : Text) : Option (Text × Text) :=
  match cs with
  | '"' :: rest => oneLineString rest
  | '\'' :: rest => literalString rest
  | _ =>
    let name := cs.takeWhile isBareChar
    if name.isEmpty then none else some (name, cs.dropWhile isBareChar)

/-- The dotted name at the start of a text, and the rest after the blanks that follow it. -/
def path? : Nat → Text → Option (Dotted × Text)
  | 0, _ => none
  | fuel + 1, cs => do
    let (part, rest) ← namePart? cs
    match rest.dropWhile isSpace with
    | '.' :: rest =>
      let (path, rest) ← path? fuel (rest.dropWhile isSpace)
      some (part :: path, rest)
    | rest => some ([part], rest)

/-! ## Values -/

/-- The levels that reading a list opens: one for the list and one for its items. -/
def listLevels : Nat := 2

/-- The levels that reading an inline table opens: one for the table, one for its entries and one
for their values. -/
def tableLevels : Nat := 3

mutual

/-- The value at the start of a text, and the rest.  `room` is the number of levels that may still
be opened. -/
def readValue : Nat → Nat → Text → Except DocumentFault (Value × Text)
  | 0, _, _ => .error .malformed
  | fuel + 1, room, cs =>
    match cs with
    | '[' :: rest =>
      if room < listLevels then .error (.tooDeep .tomlValue)
      else do
        let rest ← orMalformed (skipBetween? rest)
        let (items, rest) ← readItems fuel (room - listLevels) rest
        return (.list items, rest)
    | '\x7b' :: rest =>
      if room < tableLevels then .error (.tooDeep .tomlValue)
      else
        match rest.dropWhile isSpace with
        | '\x7d' :: rest => .ok (.table [], rest)
        | rest => do
          let (entries, rest) ← readEntries fuel (room - tableLevels) [] [] rest
          return (.table entries, rest)
    | _ => orMalformed (readScalar cs)

/-- The items of a list, and the text after its closing bracket. -/
def readItems : Nat → Nat → Text → Except DocumentFault (List Value × Text)
  | 0, _, _ => .error .malformed
  | _ + 1, _, ']' :: rest => .ok ([], rest)
  | fuel + 1, room, cs => do
    let (item, rest) ← readValue fuel room cs
    match ← orMalformed (skipBetween? rest) with
    | ']' :: rest => return ([item], rest)
    | ',' :: rest =>
      let rest ← orMalformed (skipBetween? rest)
      let (items, rest) ← readItems fuel room rest
      return (item :: items, rest)
    | _ => .error .malformed

/-- The entries of an inline table, added to those before them, and the text after its closing
brace. -/
def readEntries : Nat → Nat → Entries → List Dotted → Text → Except DocumentFault (Entries × Text)
  | 0, _, _, _, _ => .error .malformed
  | fuel + 1, room, entries, frozen, cs => do
    let (path, value, rest) ← readPair fuel room cs
    let entries ← orMalformed (assignInline entries frozen path value)
    match rest.dropWhile isSpace with
    | '\x7d' :: rest => return (entries, rest)
    | ',' :: rest =>
      let frozen := if freezes value then path :: frozen else frozen
      readEntries fuel room entries frozen (rest.dropWhile isSpace)
    | _ => .error .malformed

/-- A dotted name and its value at the start of a text, and the rest. -/
def readPair : Nat → Nat → Text → Except DocumentFault (Dotted × Value × Text)
  | 0, _, _ => .error .malformed
  | fuel + 1, room, cs => do
    let (path, rest) ← orMalformed (path? (cs.length + 1) cs)
    match rest with
    | '=' :: rest =>
      let (value, rest) ← readValue fuel room (rest.dropWhile isSpace)
      return (path, value, rest)
    | _ => .error .malformed

end

/-! ## Documents -/

/-- The header of a table, after its opening bracket: what has been said after it, its name and the
rest. -/
def tableHeader? (names : Names) (cs : Text) : Option (Names × Dotted × Text) := do
  let (path, rest) ← path? (cs.length + 1) (cs.dropWhile isSpace)
  let names ← names.settle.openTable path
  some (names, path, ← Scan.after? "]" rest)

/-- The header of a new item of a list of tables, after its opening brackets. -/
def itemHeader? (names : Names) (cs : Text) : Option (Names × Dotted × Text) := do
  let (path, rest) ← path? (cs.length + 1) (cs.dropWhile isSpace)
  let names ← names.settle.openListItem path
  some (names, path, ← Scan.after? "]]" rest)

/-- The statement at the start of a text: what has been said after it, the header in force and the
rest. -/
def readStatement (limit : Nat) (names : Names) (header : Dotted) (cs : Text) :
    Except DocumentFault (Names × Dotted × Text) :=
  match cs with
  | '[' :: '[' :: rest => orMalformed (itemHeader? names rest)
  | '[' :: rest => orMalformed (tableHeader? names rest)
  | '#' :: _ => .ok (names, header, cs)
  | _ => do
    let (path, value, rest) ← readPair (2 * cs.length + 2) limit cs
    let names ← orMalformed (names.assign header path value)
    return (names, header, rest)

/-- What a text says after what has been said, below a header. -/
def readStatements (limit : Nat) : Nat → Names → Dotted → Text → Except DocumentFault Names
  | 0, _, _, _ => .error .malformed
  | fuel + 1, names, header, cs =>
    match cs.dropWhile isSpace with
    | [] => .ok names
    | '\n' :: rest => readStatements limit fuel names header rest
    | cs => do
      let (names, header, rest) ← readStatement limit names header cs
      match ← orMalformed (skipComment? (rest.dropWhile isSpace)) with
      | [] => return names
      | '\n' :: rest => readStatements limit fuel names header rest
      | _ => .error .malformed

/-- Drops every carriage return that a line feed follows. -/
def unifyLineEnds : Text → Text
  | '\r' :: '\n' :: rest => '\n' :: unifyLineEnds rest
  | c :: rest => c :: unifyLineEnds rest
  | [] => []

/-- The table of a TOML document in which at most `limit` levels are open at a time. -/
def read (text : Text) (limit : Nat := Nesting.usualLimit) : Except DocumentFault Value := do
  let cs := unifyLineEnds text
  let names ← readStatements limit (cs.length + 1) {} [] cs
  return .table names.entries

end Toml
end ChartScript
