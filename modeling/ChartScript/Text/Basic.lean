/-!
# Texts

A text is a sequence of code points.  Most code points are characters, but a configuration document
can name a character by its UTF-16 code units, and nothing stops it from naming one half of a
surrogate pair alone.  No `String` holds such a half, so all that a user may write is a `Text`, and
a `String` is used only for what the library itself says.

* `Text.ofString` makes a text of a string; strings and characters are taken as texts and code
  points wherever those are expected.
* `Text.toString` shows a text as a string, with halves written by their code points.
* `Text.inOrder` is the order of texts by code points, `Text.join` puts a separator between texts.
-/

set_option autoImplicit false

namespace ChartScript

/-- A code point: a character, or half of a surrogate pair, counted from `U+D800`. -/
inductive CodePoint where
  | char (c : Char)
  | half (index : Fin 2048)
  deriving DecidableEq, Repr

instance : Coe Char CodePoint := ⟨.char⟩

namespace CodePoint

/-- The first half of a surrogate pair. -/
def firstHalf : Nat := 0xD800

/-- The number of a code point. -/
def code : CodePoint → Nat
  | .char c => c.toNat
  | .half index => firstHalf + index.val

/-- The code point of a UTF-16 code unit that stands alone. -/
def ofUnit (unit : Nat) : CodePoint :=
  if h : firstHalf ≤ unit ∧ unit - firstHalf < 2048 then .half ⟨unit - firstHalf, h.2⟩
  else .char (Char.ofNat unit)

/-- Whether a code point is half of a surrogate pair. -/
def isHalf : CodePoint → Bool
  | .char _ => false
  | .half _ => true

/-- Whether a code point is a character of a class. -/
def isIn (p : Char → Bool) : CodePoint → Bool
  | .char c => p c
  | .half _ => false

/-- The lower-case form of an ASCII letter; other code points stay as they are. -/
def toLower : CodePoint → CodePoint
  | .char c => .char c.toLower
  | .half index => .half index

/-- The number of bytes that a code point takes in UTF-8; halves count like their neighbours. -/
def byteSize : CodePoint → Nat
  | .char c => c.utf8Size
  | .half _ => 3

/-- `n` in hexadecimal, with zeros in front up to `width` digits. -/
def hex (width n : Nat) : List Char :=
  let digits := Nat.toDigits 16 n
  List.replicate (width - digits.length) '0' ++ digits

/-- A half as it is written, by its code point. -/
def halfChars (index : Fin 2048) : List Char := '\\' :: 'u' :: hex 4 (firstHalf + index.val)

/-- The characters that show a code point. -/
def chars : CodePoint → List Char
  | .char c => [c]
  | .half index => halfChars index

end CodePoint

/-- A text. -/
abbrev Text := List CodePoint

namespace Text

/-- A sequence of characters as a text. -/
def ofChars (cs : List Char) : Text := cs.map .char

/-- A string as a text. -/
def ofString (s : String) : Text := ofChars s.toList

instance : Coe String Text := ⟨ofString⟩

/-- The text as a string, with every half written by its code point. -/
def toString (t : Text) : String := String.ofList (t.flatMap CodePoint.chars)

theorem toString_ofString (s : String) : toString (ofString s) = s := by
  have flat : ∀ cs : List Char, (ofChars cs).flatMap CodePoint.chars = cs := by
    intro cs
    induction cs with
    | nil => rfl
    | cons c cs ih => exact congrArg (c :: ·) ih
  rw [toString, ofString, flat, String.ofList_toList]

/-- The texts in a row, with a separator between each two. -/
def join (separator : Text) (texts : List Text) : Text := List.intercalate separator texts

/-- The text with its ASCII letters in lower case. -/
def toLower (t : Text) : Text := t.map CodePoint.toLower

/-- The number of bytes that a text takes in UTF-8. -/
def byteSize (t : Text) : Nat := t.foldl (fun n c => n + c.byteSize) 0

/-- Whether `a` is equal to `b` or comes before it in the order by code points. -/
def inOrder : Text → Text → Bool
  | [], _ => true
  | _ :: _, [] => false
  | a :: as, b :: bs => a.code < b.code || (a.code == b.code && inOrder as bs)

end Text
end ChartScript
