import ChartScript.Text.Basic
import ChartScript.Text.CodeRange

/-!
# Lines of a text

A text is cut into lines at the line feed, the carriage return, the vertical tab, the form feed,
the separators U+001C to U+001E, the next-line character U+0085 and the two Unicode separators
U+2028 and U+2029.  A carriage return followed by a line feed is one break.  A break ends a line, so
a text that ends with a break has no empty line after it.

* `splitLines` is that cut.
* `unifyNewlines` turns every carriage return, with the line feed after it if there is one, into
  one line feed, which is how a text arrives that was read from a stream.
-/

set_option autoImplicit false

namespace ChartScript
namespace Text

/-- The characters that end a line. -/
def lineBreakRanges : CodeRanges :=
  [(0x0A, 0x0D), (0x1C, 0x1E), (0x85, 0x85), (0x2028, 0x2029)]

/-- Whether `c` ends a line. -/
def isLineBreak (c : CodePoint) : Bool := lineBreakRanges.contains c.code

/-- The lines of a text.  `line` is the part of the current line that has been read, newest
first, and `returned` says that the character before was a carriage return, so that a
line feed right here belongs to the same break. -/
def linesFrom (returned : Bool) (line : Text) : Text → List Text
  | [] => if line.isEmpty then [] else [line.reverse]
  | c :: rest =>
    if returned && c == '\n' then linesFrom false line rest
    else if isLineBreak c then line.reverse :: linesFrom (c == '\r') [] rest
    else linesFrom false (c :: line) rest

/-- The lines of a text, without their breaks. -/
def splitLines (t : Text) : List Text := linesFrom false [] t

/-- Turns every carriage return, with a line feed right after it, into one line feed.  `returned`
says that the character before was a carriage return, whose line feed is already written. -/
def unifyFrom (returned : Bool) : Text → Text
  | [] => []
  | c :: rest =>
    if returned && c == '\n' then unifyFrom false rest
    else if c == '\r' then '\n' :: unifyFrom true rest
    else c :: unifyFrom false rest

/-- Turns every carriage return, with a line feed right after it, into one line feed. -/
def unifyNewlines (t : Text) : Text := unifyFrom false t

end Text
end ChartScript
