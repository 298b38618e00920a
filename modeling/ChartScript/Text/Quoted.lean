import ChartScript.Text.Basic
import ChartScript.Text.Printable

/-!
# Quoted texts

`quoted` writes a text between quotation marks so that every code point of it can be seen.  The
marks are apostrophes, unless the text holds an apostrophe and no double quote.  Inside, the mark in
use and the backslash are escaped by a backslash, tab, line feed and carriage return have their
short escapes, and everything else that is not printable is written by its code point with two, four
or eight hexadecimal digits.
-/

set_option autoImplicit false

namespace ChartScript
namespace Text

/-- A character of a quoted text whose mark is `mark`. -/
def quoteChar (mark c : Char) : List Char :=
  if c == mark || c == '\\' then ['\\', c]
  else if c == '\t' then ['\\', 't']
  else if c == '\n' then ['\\', 'n']
  else if c == '\r' then ['\\', 'r']
  else if isPrintable c then [c]
  else if c.toNat < 0x100 then '\\' :: 'x' :: CodePoint.hex 2 c.toNat
  else if c.toNat < 0x10000 then '\\' :: 'u' :: CodePoint.hex 4 c.toNat
  else '\\' :: 'U' :: CodePoint.hex 8 c.toNat

/-- A code point of a quoted text whose mark is `mark`. -/
def quotePoint (mark : Char) : CodePoint → List Char
  | .char c => quoteChar mark c
  | .half index => CodePoint.halfChars index

/-- The mark that encloses a text. -/
def quoteMark (t : Text) : Char :=
  if t.contains '\'' && !t.contains '"' then '"' else '\''

/-- The text between quotation marks, with every special code point made visible. -/
def quoted (t : Text) : String :=
  let mark := quoteMark t
  String.ofList (mark :: t.flatMap (quotePoint mark) ++ [mark])

example : quoted "it's" = "\"it's\"" := by decide

example : quoted "a\t\x1c" = "'a\\t\\x1c'" := by decide

end Text
end ChartScript
