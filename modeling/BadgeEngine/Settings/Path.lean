/-
Paths to files, and the files they lead to. A path is kept without empty parts and without `.`; a part `..` is
kept, and leads to the directory around.
-/
import BadgeEngine.Problem
import BadgeEngine.Text.Ranges

namespace BadgeEngine.Settings

open BadgeEngine.Text

/-- a path -/
structure Path where
  /-- what an absolute path begins with; nothing in front of a relative one -/
  root : String := ""
  parts : List String := []
  deriving DecidableEq, Repr

namespace Path

/-- what a written path begins with: two slashes, but not three, are a beginning of their own -/
def rootOf (cs : List Char) : String :=
  match cs.takeWhile (· = '/') with
  | [] => ""
  | ['/', '/'] => "//"
  | _ => "/"

def ofString (s : String) : Path where
  root := rootOf s.toList
  parts := ((splitChars '/' s.toList).map String.ofList).filter fun p => p ≠ "" && p ≠ "."

def toString (p : Path) : String :=
  if p.root = "" && p.parts.isEmpty then "." else p.root ++ "/".intercalate p.parts

def isAbsolute (p : Path) : Bool := p.root ≠ ""

def parent (p : Path) : Path := { p with parts := p.parts.dropLast }

/-- a path taken from a directory; an absolute one stays -/
def within (p directory : Path) : Path :=
  if p.isAbsolute then p else { directory with parts := directory.parts ++ p.parts }

/-- a path with its parts `..` worked out, under a home directory -/
def resolved (p : Path) (home : String) : String :=
  let steps := p.parts.foldl (fun done part => if part = ".." then done.drop 1 else part :: done) []
  let tail := "/".intercalate steps.reverse
  if p.isAbsolute then "/" ++ tail else if tail = "" then home else home ++ "/" ++ tail

end Path

/-! ## Files -/

/-- why a file cannot be read -/
inductive FileFault where
  | missing
  | directory
  /-- a part of the path that should be a directory is a file -/
  | notDirectory
  deriving DecidableEq, Repr

/-- the texts of files under a home directory -/
structure Files where
  entries : List (List String × String) := []

namespace Files

def ofEntries (es : List (String × String)) : Files :=
  ⟨es.map fun e => ((Path.ofString e.1).parts, e.2)⟩

def isDirectory (f : Files) (place : List String) : Bool :=
  place.isEmpty || f.entries.any fun e => place.isPrefixOf e.1 && place ≠ e.1

/-- goes along the parts of a path; `place` is the directory reached, none outside the home directory -/
def walk (f : Files) : Option (List String) → List String → Except FileFault (List String)
  | none, _ => .error .missing
  | some place, [] => .ok place
  | some place, part :: rest =>
    if f.isDirectory place then
      if part = ".." then walk f (if place.isEmpty then none else some place.dropLast) rest
      else
        let next := place ++ [part]
        if f.isDirectory next || (f.entries.lookup next).isSome then walk f (some next) rest
        else .error .missing
    else .error .notDirectory

def read (f : Files) (p : Path) : Except FileFault String :=
  if p.isAbsolute then .error .missing
  else
    match f.walk (some []) p.parts with
    | .error e => .error e
    | .ok place =>
      match f.entries.lookup place with
      | some text => .ok text
      | none => .error .directory

def has (f : Files) (p : Path) : Bool :=
  match f.read p with
  | .ok _ | .error .directory => true
  | _ => false

end Files

end BadgeEngine.Settings
