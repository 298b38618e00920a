import ChartScript.Document.Fault
import ChartScript.Document.Scan
import ChartScript.Document.Value

/-!
# JSON documents

`Json.read` reads a JSON document.  Besides the standard grammar the words `NaN`, `Infinity` and
`-Infinity` are numbers, an integer has at most 4300 digits, and of several values for one name in
an object the last counts.

Reading a value calls itself for the values inside and after it, so the readers take a bound on the
number of calls; twice the length of the text is enough.  The number of open lists and objects has a
bound of its own, which is given.
-/

set_option autoImplicit false

namespace ChartScript
namespace Json

open Scan

/-- Whether `c` may stand between the parts of a document. -/
def isSpace (c : CodePoint) : Bool := c == ' ' || c == '\t' || c == '\n' || c == '\r'

/-- Drops the spaces at the start of a text. -/
def skipSpace (cs : Text) : Text := cs.dropWhile isSpace

/-! ## Strings -/

/-- Whether a code unit starts a surrogate pair. -/
def isHigh (unit : Nat) : Bool := 0xD800 ≤ unit && unit < 0xDC00

/-- Whether a code unit ends a surrogate pair. -/
def isLow (unit : Nat) : Bool := 0xDC00 ≤ unit && unit < 0xE000

/-- The code point whose escape, after the backslash and the letter `u`, starts a text, and the
rest.  Two escapes may form a surrogate pair. -/
def unicodeEscape? (cs : Text) : Option (CodePoint × Text) := do
  let (unit, rest) ← hexNumber? 4 0 cs
  match isHigh unit, rest with
  | true, '\\' :: 'u' :: tail =>
    let (low, rest') ← hexNumber? 4 0 tail
    if isLow low then
      some (.char (Char.ofNat (0x10000 + (unit - 0xD800) * 0x400 + (low - 0xDC00))), rest')
    else some (.ofUnit unit, rest)
  | _, _ => some (.ofUnit unit, rest)

/-- What a one-letter escape stands for. -/
def simpleEscape? : CodePoint → Option CodePoint
  | '"' => some (.char '"')
  | '\\' => some (.char '\\')
  | '/' => some (.char '/')
  | 'b' => some (.char '\x08')
  | 'f' => some (.char '\x0c')
  | 'n' => some (.char '\n')
  | 'r' => some (.char '\r')
  | 't' => some (.char '\t')
  | _ => none

/-- The rest of a string after its opening quote, and the text after its closing quote.  Every step
takes something of the text away, so `fuel` bounds their number. -/
def readString : Nat → Text → Option (Text × Text)
  | 0, _ => none
  | _, [] => none
  | _ + 1, '"' :: rest => some ([], rest)
  | fuel + 1, '\\' :: 'u' :: rest => do
    let (c, rest) ← unicodeEscape? rest
    let (cs, rest) ← readString fuel rest
    some (c :: cs, rest)
  | fuel + 1, '\\' :: letter :: rest => do
    let c ← simpleEscape? letter
    let (cs, rest) ← readString fuel rest
    some (c :: cs, rest)
  | fuel + 1, c :: rest =>
    if c == '\\' || c.code < 0x20 then none
    else do
      let (cs, rest) ← readString fuel rest
      some (c :: cs, rest)

/-! ## Numbers -/

/-- The digits of the integer part at the start of a text, without superfluous zeros. -/
def wholeDigits? (cs : Text) : Option (Text × Text) :=
  match cs with
  | '0' :: rest => some (['0'], rest)
  | c :: _ =>
    if isAsciiDigit c then some (cs.takeWhile isAsciiDigit, cs.dropWhile isAsciiDigit) else none
  | [] => none

/-- The digits of the fraction at the start of a text, after a point. -/
def fractionDigits (cs : Text) : Text × Text :=
  match cs with
  | '.' :: rest =>
    let digits := rest.takeWhile isAsciiDigit
    if digits.isEmpty then ([], cs) else (digits, rest.dropWhile isAsciiDigit)
  | _ => ([], cs)

/-- The exponent at the start of a text. -/
def exponentPart (cs : Text) : Option Exponent × Text :=
  match cs with
  | letter :: rest =>
    if letter == 'e' || letter == 'E' then
      let (sign, rest) := Numeral.takeSign rest
      let digits := rest.takeWhile isAsciiDigit
      if digits.isEmpty then (none, cs)
      else (some ⟨letter, sign, digits⟩, rest.dropWhile isAsciiDigit)
    else (none, cs)
  | [] => (none, cs)

/-- The number at the start of a text: an integer, unless it has a fraction or an exponent. -/
def readNumber (cs : Text) : Option (Value × Text) := do
  let (sign, rest) := match cs with
    | '-' :: rest => (("-" : Text), rest)
    | _ => ("", cs)
  let (whole, rest) ← wholeDigits? rest
  let (fraction, rest) := fractionDigits rest
  let (exponent, rest) := exponentPart rest
  if fraction.isEmpty && exponent.isNone then
    some (.integer (← Number.integer? (sign ++ whole)), rest)
  else
    some (.number (Numeral.toBinary64 ⟨[], sign, whole, true, fraction, exponent⟩), rest)

/-- The word or number at the start of a text. -/
def readScalar (cs : Text) : Option (Value × Text) :=
  ((after? "null" cs).map (Value.null, ·)) <|>
  ((after? "true" cs).map (Value.bool true, ·)) <|>
  ((after? "false" cs).map (Value.bool false, ·)) <|>
  ((after? "NaN" cs).map (Value.number .undefined, ·)) <|>
  ((after? "Infinity" cs).map (Value.number (.infinite false), ·)) <|>
  ((after? "-Infinity" cs).map (Value.number (.infinite true), ·)) <|>
  readNumber cs

/-! ## Values -/

mutual

/-- The value at the start of a text, and the rest.  `room` is the number of levels that may still
be opened. -/
def readValue : Nat → Nat → Text → Except DocumentFault (Value × Text)
  | 0, _, _ => .error .malformed
  | fuel + 1, room, cs =>
    match cs, room with
    | '"' :: rest, _ => do
      let (s, rest) ← orMalformed (readString fuel rest)
      return (.string s, rest)
    | '[' :: _, 0 => .error (.tooDeep .jsonList)
    | '[' :: rest, room + 1 =>
      match skipSpace rest with
      | ']' :: rest => .ok (.list [], rest)
      | rest => do
        let (items, rest) ← readItems fuel room rest
        return (.list items, rest)
    | '\x7b' :: _, 0 => .error (.tooDeep .jsonObject)
    | '\x7b' :: rest, room + 1 =>
      match skipSpace rest with
      | '\x7d' :: rest => .ok (.table [], rest)
      | rest => do
        let (entries, rest) ← readEntries fuel room [] rest
        return (.table entries, rest)
    | _, _ => orMalformed (readScalar cs)

/-- The items of a list that is not empty, and the text after its closing bracket. -/
def readItems : Nat → Nat → Text → Except DocumentFault (List Value × Text)
  | 0, _, _ => .error .malformed
  | fuel + 1, room, cs => do
    let (item, rest) ← readValue fuel room cs
    match skipSpace rest with
    | ']' :: rest => return ([item], rest)
    | ',' :: rest =>
      let (items, rest) ← readItems fuel room (skipSpace rest)
      return (item :: items, rest)
    | _ => .error .malformed

/-- The entries of an object that is not empty, added to those before them, and the text after its
closing brace. -/
def readEntries : Nat → Nat → List (Text × Value) → Text →
    Except DocumentFault (List (Text × Value) × Text)
  | 0, _, _, _ => .error .malformed
  | fuel + 1, room, entries, '"' :: cs => do
    let (name, rest) ← orMalformed (readString fuel cs)
    match skipSpace rest with
    | ':' :: rest =>
      let (value, rest) ← readValue fuel room (skipSpace rest)
      let entries := Value.insert name value entries
      match skipSpace rest with
      | '\x7d' :: rest => return (entries, rest)
      | ',' :: rest => readEntries fuel room entries (skipSpace rest)
      | _ => .error .malformed
    | _ => .error .malformed
  | _, _, _, _ => .error .malformed

end

/-- The value of a JSON document in which at most `limit` levels are open at a time. -/
def read (text : Text) (limit : Nat := Nesting.usualLimit) : Except DocumentFault Value := do
  let cs := skipSpace text
  let (value, rest) ← readValue (2 * cs.length + 1) limit cs
  if (skipSpace rest).isEmpty then return value else .error .malformed

end Json
end ChartScript
