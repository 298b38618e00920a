import ChartScript.Text.Basic

/-!
# UTF-8

`decode` reads a sequence of bytes as UTF-8.  When the bytes are no UTF-8, it says where the first
faulty sequence starts, how many bytes of it were well formed, and what is wrong:

* `badStart`: no character begins with this byte;
* `badContinuation`: a byte that should continue a character does not;
* `truncated`: the bytes end inside a character.

A character of two, three or four bytes is described by `Shape`: the bits its first byte carries,
the range its second byte must be in, and the number of plain continuation bytes after that.  The
range of the second byte rules out overlong forms, surrogates and code points beyond U+10FFFF.

In the other direction only halves of surrogate pairs are in the way: `gap?` finds the first run of
them.
-/

set_option autoImplicit false

namespace ChartScript
namespace Text
namespace Utf8

/-- What is wrong with a byte sequence. -/
inductive Reason where
  | badStart
  | badContinuation
  | truncated
  deriving DecidableEq, Repr

/-- A faulty sequence: its first byte, the position of that byte, the number of bytes the fault
covers and its kind. -/
structure Fault where
  first : UInt8
  position : Nat
  length : Nat
  reason : Reason
  deriving DecidableEq, Repr

/-- The kind of a fault in words. -/
def Reason.message : Reason → String
  | .badStart => "invalid start byte"
  | .badContinuation => "invalid continuation byte"
  | .truncated => "unexpected end of data"

/-- The lower-case hexadecimal form of a byte, two digits long. -/
def hexByte (b : UInt8) : String :=
  String.ofList [Nat.digitChar (b.toNat / 16), Nat.digitChar (b.toNat % 16)]

/-- A fault in words: one byte is named, several are given by their positions. -/
def Fault.message (f : Fault) : String :=
  let subject :=
    if f.length = 1 then s!"byte 0x{hexByte f.first} in position {f.position}"
    else s!"bytes in position {f.position}-{f.position + f.length - 1}"
  s!"'utf-8' codec can't decode {subject}: {f.reason.message}"

/-- The form of a character of several bytes. -/
structure Shape where
  /-- The bits of the code point that the first byte carries. -/
  bits : Nat
  /-- The least second byte. -/
  low : Nat
  /-- The greatest second byte. -/
  high : Nat
  /-- The number of bytes after the second. -/
  more : Nat
  deriving Repr

/-- The form that the first byte announces; a byte below 0x80 is a character by itself. -/
def shape? (b : Nat) : Option Shape :=
  if b < 0xC2 then none
  else if b < 0xE0 then some ⟨b - 0xC0, 0x80, 0xBF, 0⟩
  else if b = 0xE0 then some ⟨0, 0xA0, 0xBF, 1⟩
  else if b = 0xED then some ⟨0xD, 0x80, 0x9F, 1⟩
  else if b < 0xF0 then some ⟨b - 0xE0, 0x80, 0xBF, 1⟩
  else if b = 0xF0 then some ⟨0, 0x90, 0xBF, 2⟩
  else if b < 0xF4 then some ⟨b - 0xF0, 0x80, 0xBF, 2⟩
  else if b = 0xF4 then some ⟨4, 0x80, 0x8F, 2⟩
  else none

/-- What is still expected of a character: nothing, or a byte within a range and then `more`
continuation bytes. -/
inductive State where
  | start
  /-- Inside the character that began with `first` at `position`, of which `read` bytes with the
  bits `code` are known. -/
  | inside (first : UInt8) (position read code low high more : Nat)
  deriving Repr

/-- Reads the bytes from `position` on. -/
def decodeFrom (position : Nat) : State → List UInt8 → Except Fault Text
  | .start, [] => .ok []
  | .inside first start read _ _ _ _, [] => .error ⟨first, start, read, .truncated⟩
  | .start, b :: rest =>
    if b.toNat < 0x80 then
      (decodeFrom (position + 1) .start rest).map (.char (Char.ofNat b.toNat) :: ·)
    else
      match shape? b.toNat with
      | none => .error ⟨b, position, 1, .badStart⟩
      | some s =>
        decodeFrom (position + 1) (.inside b position 1 s.bits s.low s.high s.more) rest
  | .inside first start read code low high more, b :: rest =>
    if low ≤ b.toNat ∧ b.toNat ≤ high then
      let code := code * 64 + (b.toNat - 0x80)
      match more with
      | 0 => (decodeFrom (position + 1) .start rest).map (.char (Char.ofNat code) :: ·)
      | more + 1 =>
        decodeFrom (position + 1) (.inside first start (read + 1) code 0x80 0xBF more) rest
    else .error ⟨first, start, read, .badContinuation⟩

/-- The text that a sequence of bytes stands for, or its first fault. -/
def decode (bytes : List UInt8) : Except Fault Text := decodeFrom 0 .start bytes

/-! ## What cannot be written -/

/-- A run of halves of surrogate pairs, which UTF-8 has no form for: its position in a text, its
first half and the number of halves after that. -/
structure Gap where
  position : Nat
  first : Fin 2048
  more : Nat
  deriving DecidableEq, Repr

/-- A gap in words: one half is named, several are given by their positions. -/
def Gap.message (g : Gap) : String :=
  let half := String.ofList (CodePoint.halfChars g.first)
  let subject :=
    if g.more = 0 then s!"character '{half}' in position {g.position}"
    else s!"characters in position {g.position}-{g.position + g.more}"
  s!"'utf-8' codec can't encode {subject}: surrogates not allowed"

/-- The first gap of a text from `position` on. -/
def gapFrom? (position : Nat) : Text → Option Gap
  | [] => none
  | .char _ :: rest => gapFrom? (position + 1) rest
  | .half index :: rest => some ⟨position, index, (rest.takeWhile CodePoint.isHalf).length⟩

/-- The first gap of a text; a text without one can be written. -/
def gap? (t : Text) : Option Gap := gapFrom? 0 t

end Utf8
end Text
end ChartScript
