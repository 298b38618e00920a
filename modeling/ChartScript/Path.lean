import ChartScript.Text.Basic
import ChartScript.Text.Separator

/-!
# Paths of files

A path is where it starts and the parts that follow.  Empty parts and single dots are dropped when a
path is read; a double dot stays, because what it means depends on the files.

* `Path.parse` reads a path and `Path.text` writes it.
* `Path.resolve` makes a path absolute and takes its double dots out.
-/

set_option autoImplicit false

namespace ChartScript

/-- Where a path starts. -/
inductive Anchor where
  /-- The current directory. -/
  | relative
  /-- The topmost directory. -/
  | absolute
  /-- Two slashes, which a system may give a meaning of their own. -/
  | doubled
  deriving DecidableEq, Repr

/-- The text of a starting point. -/
def Anchor.text : Anchor → String
  | .relative => ""
  | .absolute => "/"
  | .doubled => "//"

/-- A path of a file or directory. -/
structure Path where
  anchor : Anchor
  parts : List Text
  deriving DecidableEq, Repr

namespace Path

/-- The starting point of a path that is written with a number of slashes in front. -/
def anchorOf (slashes : Nat) : Anchor :=
  match slashes with
  | 0 => .relative
  | 2 => .doubled
  | _ => .absolute

/-- The path that a text denotes. -/
def parse (text : Text) : Path where
  anchor := anchorOf (text.takeWhile (· == CodePoint.char '/')).length
  parts := (Text.piecesAt "/" text).filter fun part => !part.isEmpty && part != "."

/-- A path as text; the current directory is a dot. -/
def text (p : Path) : Text :=
  match p.anchor, p.parts with
  | .relative, [] => "."
  | anchor, parts => anchor.text ++ Text.join "/" parts

/-- Whether a path starts at the current directory. -/
def isRelative (p : Path) : Bool := p.anchor == .relative

/-- A path as seen from a directory. -/
def join (directory p : Path) : Path :=
  if p.isRelative then { directory with parts := directory.parts ++ p.parts } else p

/-- Takes the double dots out of parts, each with the part before it.  `done` are the parts before,
the last first. -/
def withoutDots (done : List Text) : List Text → List Text
  | [] => done.reverse
  | part :: rest =>
    if part == ".." then withoutDots done.tail rest else withoutDots (part :: done) rest

/-- The absolute path that a path seen from a directory denotes, without double dots. -/
def resolve (directory p : Path) : Path where
  anchor := .absolute
  parts := withoutDots [] (directory.join p).parts

/-- The last part of a path. -/
def name (p : Path) : Text := p.parts.getLast?.getD ""

/-- The end of a name from its last point on, if something stands before and after the point. -/
def extension (p : Path) : Text :=
  let tail := (p.name.reverse.takeWhile (· != CodePoint.char '.')).reverse
  let before := p.name.length - tail.length
  if 1 < before ∧ tail ≠ [] then "." ++ tail else ""

end Path
end ChartScript
