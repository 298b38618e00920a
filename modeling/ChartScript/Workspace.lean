import ChartScript.Path
import ChartScript.Platform
import ChartScript.Text.Quoted

/-!
# The surroundings of a command

A `Workspace` is all that a command can see: the current directory, what is found at a path, the
standard input, the environment and the platform.

`FileTree` is a tree of files in memory; `FileTree.find` looks up a path the way a file system does,
part by part from a directory on.
-/

set_option autoImplicit false

namespace ChartScript

/-- Why a system refuses to use a path. -/
inductive Refusal where
  | denied
  | isDirectory
  | nameTooLong
  deriving DecidableEq, Repr

namespace Refusal

/-- The number of a refusal. -/
def code : Refusal → Nat
  | .denied => 13
  | .isDirectory => 21
  | .nameTooLong => 36

/-- A refusal in words. -/
def reason : Refusal → String
  | .denied => "Permission denied"
  | .isDirectory => "Is a directory"
  | .nameTooLong => "File name too long"

/-- The message that a path was refused. -/
def message (r : Refusal) (path : Path) : String :=
  s!"[Errno {r.code}] {r.reason}: " ++ path.text.quoted

end Refusal

/-- What is found at a path. -/
inductive Finding where
  | missing
  | directory
  | file (content : List UInt8)
  /-- A file that may not be read. -/
  | denied
  /-- The path has a name that is too long to be looked up. -/
  | tooLong
  deriving DecidableEq, Repr

/-- All that a command can see. -/
structure Workspace where
  /-- The current directory. -/
  directory : Path
  find : Path → Finding
  /-- The bytes of the standard input. -/
  input : List UInt8
  env : Environment
  platform : Platform := {}

/-! ## Files in memory -/

/-- Files and directories with the parts of their absolute paths; directories have no content. -/
abbrev FileTree := List (List Text × Option (List UInt8))

namespace FileTree

/-- The greatest length of a name, in bytes. -/
def maxNameBytes : Nat := 255

/-- The length in bytes that a path must not reach. -/
def pathByteLimit : Nat := 4096

/-- What is found under the exact parts of an absolute path.  The directories of a file are there
with it. -/
def findExact (tree : FileTree) (parts : List Text) : Finding :=
  match tree.find? (fun entry => entry.1 == parts && entry.2.isSome) with
  | some (_, some content) => .file content
  | _ => if parts.isEmpty || tree.any (parts.isPrefixOf ·.1) then .directory else .missing

/-- What is found by following parts from the directory `place` on. -/
def follow (tree : FileTree) (place : List Text) : List Text → Finding
  | [] => tree.findExact place
  | part :: rest =>
    match tree.findExact place with
    | .directory =>
      if part == ".." then tree.follow place.dropLast rest
      else if maxNameBytes < part.byteSize then .tooLong
      else tree.follow (place ++ [part]) rest
    | _ => .missing

/-- What is found at a path, seen from a directory. -/
def find (tree : FileTree) (directory path : Path) : Finding :=
  if pathByteLimit ≤ path.text.byteSize then .tooLong
  else tree.follow (if path.isRelative then directory.parts else []) path.parts

end FileTree
end ChartScript
