import KeyPath.Yaml.Cursor
/-!
# Gaps inside scalars

A gap lies between two words of a plain or quoted scalar. Blanks within a line stand for
themselves. One line end reads as a space; of several the first is dropped and the others stay.
-/

namespace KeyPath.Yaml

inductive Gap where
  | blanks (text : List Char)
  /-- Line ends: the first one, unless it was escaped, and the others. -/
  | lines (first : Option Char) (others : List Char)
  deriving Repr

namespace Gap

def text : Gap → List Char
  | blanks text => text
  | lines (some '\n') [] => [' ']
  | lines (some '\n') others => others
  | lines (some c) others => c :: others
  | lines none others => others

def isLines : Gap → Bool
  | blanks _ => false
  | lines _ _ => true

/-- Add blanks to a gap; after a line end they are indentation. -/
def addBlanks (more : List Char) : Gap → Gap
  | blanks text => blanks (text ++ more)
  | gap => gap

def addBreak (lineEnd : List Char) : Gap → Gap
  | blanks _ => lines lineEnd.head? []
  | lines first others => lines first (others ++ lineEnd)

/-- Extend a gap up to the next word, in at most a given number of steps. A tab may not stand in
for indentation below the column `indent`. -/
def extend (indent : Nat) : Nat → Gap → Cursor → Option (Gap × Cursor)
  | 0, gap, cursor => some (gap, cursor)
  | bound + 1, gap, cursor =>
    match cursor.rest with
    | [] => some (gap, cursor)
    | c :: _ =>
      if isBlank c then
        if gap.isLines && c == '\t' && cursor.column < indent then none
        else extend indent bound (gap.addBlanks [c]) (cursor.skip 1)
      else if isBreak c then
        let (lineEnd, cursor) := cursor.takeBreak
        extend indent bound (gap.addBreak lineEnd) cursor
      else some (gap, cursor)

end Gap

end KeyPath.Yaml
