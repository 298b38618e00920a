import ChartScript.Text.Basic
import ChartScript.Text.Blank
import ChartScript.Text.WordChar

/-!
# Filling a paragraph

`fill` breaks a paragraph into lines of bounded width.

* Tabs are widened to the next multiple of eight columns and every other line-forming space becomes
  a plain space, so that a paragraph is a row of words and runs of spaces (`settle`).
* `chunks` cuts it into the pieces that a line may end after: runs of spaces, words, the parts of a
  hyphenated word up to and including the hyphen, and the long dashes between two words.
* A line takes as many chunks as fit.  A chunk that fits on no line is cut, after its last hyphen
  that still fits if there is one.  Spaces at the two ends of a line are dropped, except at the very
  start of the paragraph.
-/

set_option autoImplicit false

namespace ChartScript
namespace Text
namespace Fill

/-! ## Spaces -/

/-- Widens tabs to multiples of eight columns; `column` is the current one. -/
def expandTabs (column : Nat) : Text → Text
  | [] => []
  | c :: rest =>
    if c == '\t' then
      let width := 8 - column % 8
      List.replicate width (CodePoint.char ' ') ++ expandTabs (column + width) rest
    else if c == '\n' || c == '\r' then c :: expandTabs 0 rest
    else c :: expandTabs (column + 1) rest

/-- The spaces that are written as plain ones. -/
def isSpacing (c : CodePoint) : Bool :=
  c == '\t' || c == '\n' || c == '\x0b' || c == '\x0c' || c == '\r' || c == ' '

/-- A paragraph whose only spacing is the plain space. -/
def settle (cs : Text) : Text :=
  (expandTabs 0 cs).map fun c => if isSpacing c then ' ' else c

/-! ## Chunks -/

/-- The characters that a long dash may follow. -/
def joinsDash (c : CodePoint) : Bool :=
  isWordChar c || c == '!' || c == '"' || c == '\'' || c == '&' || c == '.' || c == ',' || c == '?'

/-- The length of the long dash at the start of a text: two hyphens or more, then a word. -/
def dashLength? (cs : Text) : Option Nat :=
  let dashes := cs.takeWhile (· == CodePoint.char '-')
  match cs.dropWhile (· == CodePoint.char '-') with
  | [] => none
  | c :: _ => if 2 ≤ dashes.length && isWordChar c then some dashes.length else none

/-- Whether a word may be broken after the hyphen between `before`, nearest character first, and
`rest`: two letters, or a letter, a hyphen and a letter, stand before it, and two letters, with or
without a hyphen between them, after it. -/
def breaksAtHyphen (before rest : Text) : Bool :=
  let left :=
    match before with
    | a :: b :: more =>
      isLetter a && (isLetter b || (b == '-' && (more.head?.map isLetter).getD false))
    | _ => false
  let right :=
    match rest with
    | a :: b :: more =>
      isLetter a && (isLetter b || (b == '-' && (more.head?.map isLetter).getD false))
    | _ => false
  left && right

/-- The number of characters that a word goes on for, after at least one character of it. -/
def wordLength (before : Text) : Text → Nat
  | [] => 0
  | c :: rest =>
    if c == '-' && breaksAtHyphen before rest then 1
    else if c == ' ' then 0
    else if (before.head?.map joinsDash).getD false && (dashLength? (c :: rest)).isSome then 0
    else 1 + wordLength (c :: before) rest

/-- The length of the chunk at the start of `rest`. -/
def chunkLength (before rest : Text) : Nat :=
  match rest with
  | [] => 0
  | c :: tail =>
    if c == ' ' then (rest.takeWhile (· == CodePoint.char ' ')).length
    else
      match (before.head?.map joinsDash).getD false, dashLength? rest with
      | true, some dash => dash
      | _, _ => 1 + wordLength (c :: before) tail

/-- The chunks of `rest`, which stands after `before`, nearest character first. -/
def chunksFrom (before rest : Text) : List Text :=
  if _h : rest = [] then []
  else
    let size := chunkLength before rest - 1 + 1
    let chunk := rest.take size
    chunk :: chunksFrom (chunk.reverse ++ before) (rest.drop size)
  termination_by rest.length
  decreasing_by
    have : 0 < rest.length := List.length_pos_iff.mpr _h
    simp only [List.length_drop]
    omega

/-- The chunks of a paragraph. -/
def chunks (cs : Text) : List Text := chunksFrom [] cs

/-! ## Lines -/

/-- The chunks that fit into `width` columns of which `used` are taken, and the others. -/
def takeFitting (width : Int) (used : Nat) : List Text → List Text × List Text
  | [] => ([], [])
  | chunk :: rest =>
    if (used + chunk.length : Int) ≤ width then
      let (taken, left) := takeFitting width (used + chunk.length) rest
      (chunk :: taken, left)
    else ([], chunk :: rest)

/-- The position of the last hyphen. -/
def lastHyphen? (cs : Text) : Option Nat :=
  let after := cs.reverse.takeWhile (· != CodePoint.char '-')
  if after.length < cs.length then some (cs.length - after.length - 1) else none

/-- The number of characters of a long chunk to put where `room` columns are left: up to its last
hyphen there, if anything but hyphens stands before that one. -/
def cutLength (room : Nat) (chunk : Text) : Nat :=
  if room < chunk.length then
    match lastHyphen? (chunk.take room) with
    | some i => if (chunk.take i).any (· != '-') then i + 1 else room
    | none => room
  else room

/-- The lines of a row of chunks.  Every step but the last takes a chunk or a character away, so
`fuel` bounds their number. -/
def linesOf (width : Nat) (first next : Text) : Nat → Bool → List Text → List Text
  | 0, _, _ => []
  | _, _, [] => []
  | fuel + 1, begun, chunk :: rest =>
    let indent := if begun then next else first
    let room : Int := width - indent.length
    let row := if begun && chunk.all isBlank then rest else chunk :: rest
    let (taken, left) := takeFitting room 0 row
    let (taken, left) :=
      match left with
      | [] => (taken, [])
      | long :: others =>
        if room < long.length then
          let space := if room < 1 then 1 else room.toNat - (taken.map List.length).sum
          let size := cutLength space long
          (taken ++ [long.take size],
            if long.isEmpty then others else long.drop size :: others)
        else (taken, left)
    let taken :=
      match taken.getLast? with
      | some last => if last.all isBlank then taken.dropLast else taken
      | none => taken
    if taken.isEmpty then linesOf width first next fuel begun left
    else (indent ++ taken.flatten) :: linesOf width first next fuel true left

/-- A paragraph in lines of at most `width` columns: `first` is written before the first line and
`next` before the others. -/
def fill (width : Nat) (first next paragraph : Text) : Text :=
  let row := chunks (settle paragraph)
  let fuel := row.length + row.flatten.length + 1
  join "\n" (linesOf width first next fuel false row)

end Fill
end Text
end ChartScript
