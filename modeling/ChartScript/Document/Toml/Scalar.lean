import ChartScript.Document.Scan
import ChartScript.Document.Value

/-!
# Scalar values of TOML documents

Readers for the strings, numbers, dates and times of a TOML document.  Each reads a value at the
start of a text and gives back the rest.
-/

set_option autoImplicit false

namespace ChartScript
namespace Toml

open Scan

/-- Whether `c` is a blank within a line. -/
def isSpace (c : CodePoint) : Bool := c == ' ' || c == '\t'

/-- Whether `c` is a blank or a line feed. -/
def isSpaceOrNewline (c : CodePoint) : Bool := isSpace c || c == '\n'

/-- Whether `c` is a control character that no text on one line may hold. -/
def isForbidden (c : CodePoint) : Bool := (c.code < 0x20 && c != '\t') || c.code == 0x7F

/-- Whether `c` is a control character that no text over several lines may hold. -/
def isForbiddenInLines (c : CodePoint) : Bool := isForbidden c && c != '\n'

/-! ## Strings -/

/-- The character of the next `count` hexadecimal digits, which must be no surrogate. -/
def hexChar? (count : Nat) (cs : Text) : Option (CodePoint × Text) := do
  let (code, rest) ← hexNumber? count 0 cs
  if code < 0xD800 || (0xE000 ≤ code && code < 0x110000) then
    some (.char (Char.ofNat code), rest)
  else none

/-- What a one-letter escape stands for. -/
def simpleEscape? : CodePoint → Option CodePoint
  | 'b' => some (.char '\x08')
  | 't' => some (.char '\t')
  | 'n' => some (.char '\n')
  | 'f' => some (.char '\x0c')
  | 'r' => some (.char '\r')
  | '"' => some (.char '"')
  | '\\' => some (.char '\\')
  | _ => none

/-- The rest after a backslash that ends a line: blanks up to a line feed, and then all blanks and
line feeds. -/
def foldedLine? (cs : Text) : Option (Text) :=
  match cs.dropWhile isSpace with
  | '\n' :: rest => some (rest.dropWhile isSpaceOrNewline)
  | _ => none

/-- The text that an escape stands for, after its backslash, and the rest.  Only in a string of
several lines may a backslash fold a line. -/
def escape? (multiline : Bool) (cs : Text) : Option (Text × Text) :=
  match cs with
  | [] => none
  | letter :: rest =>
    if multiline && isSpaceOrNewline letter then (foldedLine? cs).map ([], ·)
    else if letter == 'u' then (hexChar? 4 rest).map fun (c, rest) => ([c], rest)
    else if letter == 'U' then (hexChar? 8 rest).map fun (c, rest) => ([c], rest)
    else (simpleEscape? letter).map fun c => ([c], rest)

/-- The rest of a basic string after its opening quotes, and the text after its closing ones. -/
def basicString (multiline : Bool) : Nat → Text → Option (Text × Text)
  | 0, _ => none
  | _, [] => none
  | fuel + 1, c :: rest =>
    if c == '"' then
      if multiline then
        match rest with
        | '"' :: '"' :: rest => some ([], rest)
        | _ => (basicString multiline fuel rest).map fun (cs, rest) => ('"' :: cs, rest)
      else some ([], rest)
    else if c == '\\' then do
      let (escaped, rest) ← escape? multiline rest
      let (cs, rest) ← basicString multiline fuel rest
      some (escaped ++ cs, rest)
    else if (if multiline then isForbiddenInLines c else isForbidden c) then none
    else (basicString multiline fuel rest).map fun (cs, rest) => (c :: cs, rest)

/-- A string on one line, after its opening quote. -/
def oneLineString (cs : Text) : Option (Text × Text) :=
  basicString false (cs.length + 1) cs

/-- A literal string after its opening apostrophe. -/
def literalString (cs : Text) : Option (Text × Text) :=
  let text := cs.takeWhile (· != CodePoint.char '\'')
  match cs.dropWhile (· != CodePoint.char '\'') with
  | [] => none
  | _ :: rest => if text.any isForbidden then none else some (text, rest)

/-- A text up to three apostrophes. -/
def literalLines : Text → Option (Text × Text)
  | [] => none
  | '\'' :: '\'' :: '\'' :: rest => some ([], rest)
  | c :: rest =>
    if isForbiddenInLines c then none
    else (literalLines rest).map fun (cs, rest) => (c :: cs, rest)

/-- Up to two more quotes right after the closing ones belong to the string. -/
def extraQuotes (mark : CodePoint) (text rest : Text) : Text × Text :=
  match rest with
  | a :: b :: tail =>
    if a == mark && b == mark then (text ++ [mark, mark], tail)
    else if a == mark then (text ++ [mark], b :: tail)
    else (text, rest)
  | [a] => if a == mark then (text ++ [mark], []) else (text, rest)
  | [] => (text, rest)

/-- A line feed right after the opening quotes does not count. -/
def skipFirstNewline (cs : Text) : Text :=
  match cs with
  | '\n' :: rest => rest
  | _ => cs

/-- The string at the start of a text. -/
def readString (cs : Text) : Option (Text × Text) :=
  match cs with
  | '"' :: '"' :: '"' :: rest =>
    let rest := skipFirstNewline rest
    (basicString true (rest.length + 1) rest).map fun (text, rest) => extraQuotes '"' text rest
  | '"' :: rest => oneLineString rest
  | '\'' :: '\'' :: '\'' :: rest =>
    (literalLines (skipFirstNewline rest)).map fun (text, rest) => extraQuotes '\'' text rest
  | '\'' :: rest => literalString rest
  | _ => none

/-! ## Numbers -/

/-- Digits of a class, which single underscores may divide, and the rest. -/
def digitRun (isDigit : CodePoint → Bool) : Text → Text × Text
  | [] => ([], [])
  | c :: rest =>
    if isDigit c then
      let (digits, rest') := more rest
      (c :: digits, rest')
    else ([], c :: rest)
where
  /-- The digits after the first. -/
  more : Text → Text × Text
    | '_' :: d :: rest =>
      if isDigit d then
        let (digits, rest') := more rest
        (d :: digits, rest')
      else ([], '_' :: d :: rest)
    | c :: rest =>
      if isDigit c then
        let (digits, rest') := more rest
        (c :: digits, rest')
      else ([], c :: rest)
    | [] => ([], [])

/-- The natural number that digits of a base denote. -/
def ofBase (base : Nat) (digits : Text) : Nat :=
  digits.foldl (fun n c => base * n + (hexValue? c).getD 0) 0

/-- Whether `c` is a digit of a base. -/
def isDigitOf (base : Nat) (c : CodePoint) : Bool :=
  match hexValue? c with
  | some v => v < base
  | none => false

/-- The integer of a base other than ten, after its mark. -/
def basedInteger? (base : Nat) (cs : Text) : Option (Value × Text) :=
  let (digits, rest) := digitRun (isDigitOf base) cs
  if digits.isEmpty then none else some (.integer (ofBase base digits), rest)

/-- The digits of the integer part, without superfluous zeros. -/
def wholeDigits? (cs : Text) : Option (Text × Text) :=
  match cs with
  | '0' :: rest => some (['0'], rest)
  | _ =>
    let (digits, rest) := digitRun isAsciiDigit cs
    if digits.isEmpty then none else some (digits, rest)

/-- The digits of the fraction, after a point. -/
def fractionDigits (cs : Text) : Text × Text :=
  match cs with
  | '.' :: rest =>
    let (digits, rest') := digitRun isAsciiDigit rest
    if digits.isEmpty then ([], cs) else (digits, rest')
  | _ => ([], cs)

/-- The exponent at the start of a text. -/
def exponentPart (cs : Text) : Option Exponent × Text :=
  match cs with
  | letter :: rest =>
    if letter == 'e' || letter == 'E' then
      let (sign, rest) := Numeral.takeSign rest
      let (digits, rest') := digitRun isAsciiDigit rest
      if digits.isEmpty then (none, cs) else (some ⟨letter, sign, digits⟩, rest')
    else (none, cs)
  | [] => (none, cs)

/-- The decimal number at the start of a text: an integer, unless it has a fraction or an
exponent. -/
def decimal? (cs : Text) : Option (Value × Text) := do
  let (sign, rest) := Numeral.takeSign cs
  let (whole, rest) ← wholeDigits? rest
  let (fraction, rest) := fractionDigits rest
  let (exponent, rest) := exponentPart rest
  if fraction.isEmpty && exponent.isNone then
    some (.integer (← Number.integer? (sign ++ whole)), rest)
  else
    some (.number (Numeral.toBinary64 ⟨[], sign, whole, true, fraction, exponent⟩), rest)

/-- The integer of another base at the start of a text. -/
def otherBase? (cs : Text) : Option (Value × Text) :=
  match cs with
  | '0' :: 'x' :: rest => basedInteger? 16 rest
  | '0' :: 'b' :: rest => basedInteger? 2 rest
  | '0' :: 'o' :: rest => basedInteger? 8 rest
  | _ => none

/-- The infinity or undefined number at the start of a text. -/
def special? (cs : Text) : Option (Value × Text) :=
  let (sign, rest) := Numeral.takeSign cs
  ((after? "inf" rest).map (Value.number (.infinite (Numeral.isMinus sign)), ·)) <|>
  ((after? "nan" rest).map (Value.number .undefined, ·))

/-! ## Dates and times -/

/-- The number of the next `count` digits, when it lies between the bounds. -/
def fixedNumber? (count low high : Nat) (cs : Text) : Option (Nat × Text) :=
  let digits := cs.take count
  let n := Text.natOfDigits digits
  if digits.length = count ∧ digits.all isAsciiDigit ∧ low ≤ n ∧ n ≤ high then
    some (n, cs.drop count)
  else none

/-- The number of the next two digits after a mark. -/
def markedNumber? (mark : CodePoint) (low high : Nat) (cs : Text) : Option (Nat × Text) :=
  match cs with
  | c :: rest => if c = mark then fixedNumber? 2 low high rest else none
  | [] => none

/-- The microseconds of a fraction of a second; digits after the sixth do not count. -/
def microseconds (cs : Text) : Nat × Text :=
  match cs with
  | '.' :: rest =>
    let digits := rest.takeWhile isAsciiDigit
    if digits.isEmpty then (0, cs)
    else
      let six := (digits ++ List.replicate 6 (CodePoint.char '0')).take 6
      (Text.natOfDigits six, rest.dropWhile isAsciiDigit)
  | _ => (0, cs)

/-- The time of day at the start of a text. -/
def time? (cs : Text) : Option (TimeOfDay × Text) := do
  let (hour, rest) ← fixedNumber? 2 0 23 cs
  let (minute, rest) ← markedNumber? ':' 0 59 rest
  let (second, rest) ← markedNumber? ':' 0 59 rest
  let (micro, rest) := microseconds rest
  some (⟨hour, minute, second, micro⟩, rest)

/-- The offset from universal time at the start of a text, if there is one. -/
def offset (cs : Text) : Option Int × Text :=
  match cs with
  | c :: rest =>
    if c == 'Z' || c == 'z' then (some 0, rest)
    else if c == '+' || c == '-' then
      match fixedNumber? 2 0 23 rest with
      | some (hours, rest') =>
        match markedNumber? ':' 0 59 rest' with
        | some (minutes, rest') =>
          let total : Int := hours * 60 + minutes
          (some (if c == '-' then -total else total), rest')
        | none => (none, cs)
      | none => (none, cs)
    else (none, cs)
  | [] => (none, cs)

/-- The date at the start of a text. -/
def date? (cs : Text) : Option (Date × Text) := do
  let (year, rest) ← fixedNumber? 4 0 9999 cs
  let (month, rest) ← markedNumber? '-' 1 12 rest
  let (day, rest) ← markedNumber? '-' 1 31 rest
  some (⟨year, month, day⟩, rest)

/-- The date, with a time after it if there is one, at the start of a text.  The day must exist. -/
def dateTime? (cs : Text) : Option (Value × Text) := do
  let (date, rest) ← date? cs
  if !date.isValid then none
  else
    match rest with
    | c :: tail =>
      if c == 'T' || c == 't' || c == ' ' then
        match time? tail with
        | some (time, rest') =>
          let (zone, rest') := offset rest'
          some (.moment (.dateTime date time zone), rest')
        | none => some (.moment (.date date), rest)
      else some (.moment (.date date), rest)
    | [] => some (.moment (.date date), rest)

/-- The scalar value at the start of a text. -/
def readScalar (cs : Text) : Option (Value × Text) :=
  ((readString cs).map fun (s, rest) => (Value.string s, rest)) <|>
  ((after? "true" cs).map (Value.bool true, ·)) <|>
  ((after? "false" cs).map (Value.bool false, ·)) <|>
  (if (date? cs).isSome then dateTime? cs
  else
    ((time? cs).map fun (t, rest) => (Value.moment (.time t), rest)) <|>
    otherBase? cs <|> decimal? cs <|> special? cs)

end Toml
end ChartScript
