import KeyPath.Text.Split
/-!
# Paths of files

A path is cut at slashes; empty parts and single dots do not count. The extension of a file name
is what follows its last dot, unless that dot begins the name.
-/

namespace KeyPath.Path

/-- The parts of a path that count. -/
def parts (path : String) : List (List Char) :=
  (Text.splitAt '/' path.toList).filter fun part => part ≠ [] ∧ part ≠ ['.']

/-- The part that leads back to the directory around. -/
def parent : List Char := ['.', '.']

def fileName? (path : String) : Option (List Char) :=
  match (parts path).getLast? with
  | none => none
  | some name => if name = parent then none else some name

/-- What follows the last dot of a file name that has characters before that dot. -/
def extension? (fileName : List Char) : Option (List Char) :=
  let afterDot := (fileName.reverse.takeWhile (· != '.')).reverse
  if afterDot.length + 1 < fileName.length then some afterDot else none

end KeyPath.Path
