import ChartScript.Compile
import ChartScript.Source

/-!
# A source has the lines of its text

A description can be compiled from its text, or read from a file or the standard input.  What is
read are bytes: they are decoded, every carriage return becomes a line feed, and the result is cut
into lines.  A text that is compiled directly is only cut.  The two agree, and not because the steps
are the same.

Decoding undoes the encoding of every string (`Utf8.decode_toUTF8`).  A string is a sequence of
Unicode scalar values, so this covers every text that has an encoding, and a text with half of a
surrogate pair has none.  The step is one character of one to four bytes (`decodeFrom_encoded`), by
cases on the number of bytes; the run is an induction over the characters, with the bytes that are
left as an arbitrary list.

Rewriting line ends first should change lines: a carriage return and a line feed are one line end,
and two line feeds would be two.  It does not, because the two of them are rewritten together, and
`splitLines_unifyNewlines` says so.  The induction has to look two characters ahead, as the reader
does.

`lines_of_utf8` is stated for an argument as it is given, so that a dash for the standard input, no
argument at all and the name of a file are covered by one statement; `Workspace.content?`  says what
bytes each of them has.
-/

set_option autoImplicit false

namespace ChartScript
namespace Text

/-! ## Decoding -/

namespace Utf8

theorem toNat_ofNat {n : Nat} (h : n < 256) : (UInt8.ofNat n).toNat = n :=
  Nat.mod_eq_of_lt h

section Step

variable {first : UInt8} (position start read more : Nat) (rest : List UInt8)

theorem decodeFrom_lead {b bits low high more : Nat} (hb : b < 256) (hlead : 0x80 ≤ b)
    (hs : shape? b = some ⟨bits, low, high, more⟩) :
    decodeFrom position .start (UInt8.ofNat b :: rest) =
      decodeFrom (position + 1) (.inside (UInt8.ofNat b) position 1 bits low high more) rest := by
  rw [decodeFrom, toNat_ofNat hb, if_neg (Nat.not_lt.mpr hlead), hs]

/-- Every byte behind the first brings six more bits of the code point. -/
theorem decodeFrom_more {u low high : Nat} (hlow : low ≤ u % 64 + 128)
    (hhigh : u % 64 + 128 ≤ high) :
    decodeFrom position (.inside first start read (u / 64) low high (more + 1))
        (UInt8.ofNat (u % 64 + 128) :: rest) =
      decodeFrom (position + 1) (.inside first start (read + 1) u 0x80 0xBF more) rest := by
  have hb := toNat_ofNat (n := u % 64 + 128) (by omega)
  have hcode : u / 64 * 64 + (u % 64 + 128 - 0x80) = u := by omega
  rw [decodeFrom, hb, if_pos ⟨hlow, hhigh⟩, hcode]

theorem decodeFrom_last {u low high : Nat} (hlow : low ≤ u % 64 + 128)
    (hhigh : u % 64 + 128 ≤ high) :
    decodeFrom position (.inside first start read (u / 64) low high 0)
        (UInt8.ofNat (u % 64 + 128) :: rest) =
      (decodeFrom (position + 1) .start rest).map (.char (Char.ofNat u) :: ·) := by
  have hb := toNat_ofNat (n := u % 64 + 128) (by omega)
  have hcode : u / 64 * 64 + (u % 64 + 128 - 0x80) = u := by omega
  rw [decodeFrom, hb, if_pos ⟨hlow, hhigh⟩, hcode]

end Step

/-! The first byte of a character announces the range of the second, and the second is in it: for
the least characters of a length because there is no shorter form, and for the greatest because no
character is a surrogate or beyond U+10FFFF. -/

theorem shape?_two {v : Nat} (hlow : 0x7F < v) (hhigh : v ≤ 0x7FF) :
    shape? (v / 64 % 32 + 192) = some ⟨v / 64, 0x80, 0xBF, 0⟩ := by
  rw [shape?, if_neg (by omega), if_pos (by omega), Option.some.injEq, Shape.mk.injEq]
  omega

theorem shape?_three {v : Nat} (hlow : 0x7FF < v) (hhigh : v ≤ 0xFFFF) (hv : v.isValidChar) :
    ∃ low high, shape? (v / 4096 % 16 + 224) = some ⟨v / 64 / 64, low, high, 1⟩ ∧
      low ≤ v / 64 % 64 + 128 ∧ v / 64 % 64 + 128 ≤ high := by
  rw [shape?, if_neg (by omega), if_neg (by omega)]
  by_cases hfirst : v / 64 / 64 = 0
  · rw [if_pos (by omega)]
    exact ⟨0xA0, 0xBF, by rw [hfirst], by omega, by omega⟩
  · rw [if_neg (by omega)]
    by_cases hsurrogates : v / 64 / 64 = 13
    · rw [if_pos (by omega)]
      exact ⟨0x80, 0x9F, by rw [hsurrogates], by omega, by omega⟩
    · rw [if_neg (by omega), if_pos (by omega)]
      refine ⟨0x80, 0xBF, ?_, by omega, by omega⟩
      rw [Option.some.injEq, Shape.mk.injEq]
      omega

theorem shape?_four {v : Nat} (hlow : 0xFFFF < v) (hv : v.isValidChar) :
    ∃ low high, shape? (v / 262144 % 8 + 240) = some ⟨v / 4096 / 64, low, high, 2⟩ ∧
      low ≤ v / 4096 % 64 + 128 ∧ v / 4096 % 64 + 128 ≤ high := by
  rw [shape?, if_neg (by omega), if_neg (by omega), if_neg (by omega), if_neg (by omega),
    if_neg (by omega)]
  by_cases hfirst : v / 4096 / 64 = 0
  · rw [if_pos (by omega)]
    exact ⟨0x90, 0xBF, by rw [hfirst], by omega, by omega⟩
  · rw [if_neg (by omega)]
    by_cases hlast : v / 4096 / 64 = 4
    · rw [if_neg (by omega), if_pos (by omega)]
      exact ⟨0x80, 0x8F, by rw [hlast], by omega, by omega⟩
    · rw [if_pos (by omega)]
      refine ⟨0x80, 0xBF, ?_, by omega, by omega⟩
      rw [Option.some.injEq, Shape.mk.injEq]
      omega

/-- The bytes of a character are read as the character. -/
theorem decodeFrom_encoded (c : Char) (position : Nat) (rest : List UInt8) :
    decodeFrom position .start (String.utf8EncodeChar c ++ rest) =
      (decodeFrom (position + (String.utf8EncodeChar c).length) .start rest).map
        (.char c :: ·) := by
  have hv : c.val.toNat.isValidChar := c.valid
  have hc : Char.ofNat c.val.toNat = c := Char.ofNat_toNat c
  unfold String.utf8EncodeChar
  generalize c.val.toNat = v at hv hc
  dsimp only
  -- one case for each number of bytes, as the encoding has it
  split
  · rw [List.singleton_append, decodeFrom, toNat_ofNat (by omega), if_pos (by omega), hc]
    rfl
  · next hone =>
    split
    · next htwo =>
      have hs := shape?_two (Nat.lt_of_not_le hone) htwo
      rw [List.cons_append, decodeFrom_lead _ _ (by omega) (by omega) hs, List.singleton_append,
        decodeFrom_last _ _ _ _ (by omega) (by omega), hc]
      rfl
    · next htwo =>
      split
      · next hthree =>
        obtain ⟨low, high, hs, hlow, hhigh⟩ := shape?_three (Nat.lt_of_not_le htwo) hthree hv
        rw [List.cons_append, decodeFrom_lead _ _ (by omega) (by omega) hs, List.cons_append,
          decodeFrom_more _ _ _ _ _ hlow hhigh, List.singleton_append,
          decodeFrom_last _ _ _ _ (by omega) (by omega), hc]
        rfl
      · next hthree =>
        obtain ⟨low, high, hs, hlow, hhigh⟩ := shape?_four (Nat.lt_of_not_le hthree) hv
        have hdiv : v / 4096 = v / 64 / 64 := by omega
        rw [List.cons_append, decodeFrom_lead _ _ (by omega) (by omega) hs, List.cons_append,
          decodeFrom_more _ _ _ _ _ hlow hhigh, hdiv, List.cons_append,
          decodeFrom_more _ _ _ _ _ (by omega) (by omega), List.singleton_append,
          decodeFrom_last _ _ _ _ (by omega) (by omega), hc]
        rfl

theorem decodeFrom_flatMap_encoded (cs : List Char) (position : Nat) :
    decodeFrom position .start (cs.flatMap String.utf8EncodeChar) = .ok (ofChars cs) := by
  induction cs generalizing position with
  | nil => rfl
  | cons c cs ih =>
    rw [List.flatMap_cons, decodeFrom_encoded, ih]
    rfl

/-- Decoding undoes the encoding of a string. -/
theorem decode_toUTF8 (s : String) : decode s.toUTF8.data.toList = .ok (ofString s) := by
  have hbytes : s.toUTF8.data.toList = s.toList.flatMap String.utf8EncodeChar := by
    rw [String.toUTF8_eq_toByteArray, ← String.utf8Encode_toList, List.utf8Encode,
      List.data_toByteArray]
  rw [hbytes]
  exact decodeFrom_flatMap_encoded s.toList 0

end Utf8

/-! ## Line ends -/

/-- The reader that skips the line feed behind a carriage return sees the same lines as the one that
comes after the rewriting, where no carriage return is left. -/
theorem linesFrom_unifyFrom (returned : Bool) (line t : Text) :
    linesFrom false line (unifyFrom returned t) = linesFrom returned line t := by
  induction t generalizing returned line with
  | nil => rfl
  | cons c rest ih =>
    rw [unifyFrom, linesFrom]
    split
    · exact ih false line
    · split
      · next hreturn =>
        obtain rfl : c = CodePoint.char '\r' := by simpa using hreturn
        have hbreak : isLineBreak '\n' = true ∧ isLineBreak '\r' = true := by decide
        rw [linesFrom, hbreak.1, hbreak.2]
        exact congrArg (line.reverse :: ·) (ih true [])
      · next hreturn =>
        rw [linesFrom, Bool.false_and, if_neg (by simp), Bool.eq_false_iff.mpr hreturn, ih, ih]

theorem splitLines_unifyNewlines (t : Text) : t.unifyNewlines.splitLines = t.splitLines :=
  linesFrom_unifyFrom false [] t

end Text

/-! ## Sources -/

namespace Workspace

/-- The bytes of a source that can be read. -/
def content? (w : Workspace) : Source → Option (List UInt8)
  | .input => some w.input
  | .file path =>
    match w.find path with
    | .file content => some content
    | .missing | .directory | .denied | .tooLong => none

theorem text_eq_decode {w : Workspace} {source : Source} {content : List UInt8} {t : Text}
    (h : w.content? source = some content) (ht : Text.Utf8.decode content = .ok t) :
    w.text source = .ok t := by
  cases source with
  | input =>
    obtain rfl : w.input = content := Option.some.inj h
    rw [text, ht]
    rfl
  | file path =>
    rw [content?] at h
    split at h
    · next found hfind =>
      obtain rfl : found = content := Option.some.inj h
      rw [text, hfind]
      show (Text.Utf8.decode found).mapError _ = _
      rw [ht]
      rfl
    all_goals exact absurd h (by simp)

end Workspace

/-- **A source has the lines of its text.**  If an argument names a source, a file or the standard
input, whose bytes are the encoding of a string, the lines that are read are those of the string,
and to compile them is to compile the string as a text. -/
theorem lines_of_utf8 {w : Workspace} {argument : Option Text} {s : String}
    (h : w.content? (.ofArgument argument) = some s.toUTF8.data.toList) :
    w.lines (.ofArgument argument) = .ok (Text.ofString s).splitLines ∧
    ∀ options, (w.lines (.ofArgument argument)).map (compile · options) =
      .ok (compileText (Text.ofString s) options) := by
  have hlines : w.lines (.ofArgument argument) = .ok (Text.ofString s).splitLines := by
    rw [Workspace.lines, Workspace.text_eq_decode h (Text.Utf8.decode_toUTF8 s)]
    exact congrArg Except.ok (Text.splitLines_unifyNewlines _)
  refine ⟨hlines, fun options => ?_⟩
  rw [hlines]
  rfl

/-- Line ends of several kinds and characters of one to four bytes, read from the standard input and
from a file. -/
theorem lines_of_utf8_mixedBreaks :
    let s := "a 1\r\r\nb 2\r\n\u2028é €😀 3\r"
    let bytes := s.toUTF8.data.toList
    let w : Workspace :=
      { directory := ⟨.absolute, []⟩, find := fun _ => .file bytes, input := bytes
        env := fun _ => none }
    let lines := ["a 1", "", "b 2", "", "é €😀 3"].map Text.ofString
    (Text.ofString s).splitLines = lines ∧
    ∀ argument ∈ [none, some (Text.ofString "-"), some (Text.ofString "chart.txt")],
      w.content? (.ofArgument argument) = some bytes ∧
      w.lines (.ofArgument argument) = .ok lines ∧
      (w.lines (.ofArgument argument)).map (compile · {}) =
        .ok (compileText (Text.ofString s) {}) := by
  intro s bytes w lines
  have hsplit : (Text.ofString s).splitLines = lines := by decide
  refine ⟨hsplit, fun argument _ => ?_⟩
  have hcontent : w.content? (.ofArgument argument) = some bytes := by
    cases Source.ofArgument argument <;> rfl
  obtain ⟨hlines, hcompile⟩ := lines_of_utf8 hcontent
  exact ⟨hcontent, hlines.trans (congrArg Except.ok hsplit), hcompile {}⟩

end ChartScript
