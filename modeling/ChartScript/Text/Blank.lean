import ChartScript.Text.Basic
import ChartScript.Text.CodeRange

/-!
# Blank characters

Blank characters separate the words of a line and are dropped at its two ends.  The class is the
whitespace of the Unicode standard together with the four separators U+001C to U+001F.

* `isBlank` is the class, `isBlankText` holds of the non-empty texts made of blanks alone.
* `strip` drops the blanks at both ends of a text.
* `words` lists the maximal runs of other code points, in order.
-/

set_option autoImplicit false

namespace ChartScript
namespace Text

/-- The blank characters. -/
def blankRanges : CodeRanges :=
  [(0x09, 0x0D), (0x1C, 0x20), (0x85, 0x85), (0xA0, 0xA0), (0x1680, 0x1680), (0x2000, 0x200A),
    (0x2028, 0x2029), (0x202F, 0x202F), (0x205F, 0x205F), (0x3000, 0x3000)]

/-- Whether `c` is a blank character. -/
def isBlank (c : CodePoint) : Bool := blankRanges.contains c.code

/-- Whether a text is non-empty and all blank. -/
def isBlankText (t : Text) : Bool := !t.isEmpty && t.all isBlank

/-! ## Trimming -/

/-- Drops the blanks at the end of a text. -/
def trimEnd (t : Text) : Text := (t.reverse.dropWhile isBlank).reverse

/-- Drops the blanks at both ends of a text. -/
def strip (t : Text) : Text := trimEnd (t.dropWhile isBlank)

/-! ## Words -/

/-- The maximal runs of code points that are not blank, in order. -/
def words (t : Text) : List Text := (t.splitOnP isBlank).filter fun word => !word.isEmpty

@[simp]
theorem words_nil : words [] = [] := by
  simp [words]

/-- A leading blank separates nothing. -/
theorem words_cons_of_isBlank {c : CodePoint} (h : isBlank c = true) (t : Text) :
    words (c :: t) = words t := by
  simp [words, List.splitOnP_cons_eq_if_modifyHead, h]

end Text
end ChartScript
