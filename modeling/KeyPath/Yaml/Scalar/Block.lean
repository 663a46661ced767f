import KeyPath.Yaml.Scalar.Plain
/-!
# Block scalars

A block scalar is a header line and the lines below it that are indented more than its parent.
The literal style keeps line ends, the folded style joins neighbouring lines that begin with no
blank. The header may fix the indentation and say what happens to line ends at the end.
-/

namespace KeyPath.Yaml.Block

/-- What happens to the line ends after the last line. -/
inductive Chomping where
  /-- All are dropped. -/
  | strip
  /-- The first is kept. -/
  | clip
  /-- All are kept. -/
  | keep
  deriving DecidableEq, Repr

def chomping? (cursor : Cursor) : Option Chomping :=
  match cursor.rest with
  | '+' :: _ => some .keep
  | '-' :: _ => some .strip
  | _ => none

/-- An indentation digit: none if there is no digit, an error if it is zero. -/
def readIndicator (cursor : Cursor) : Option (Option Nat × Cursor) :=
  match cursor.rest with
  | c :: _ =>
    if !c.isDigit then some (none, cursor)
    else if c == '0' then none
    else some (some (c.toNat - 48), cursor.skip 1)
  | [] => some (none, cursor)

/-- Read the indicators of a header, which may come in either order. -/
def readHeader (cursor : Cursor) : Option (Chomping × Option Nat × Cursor) :=
  match chomping? cursor with
  | some chomping => do
    let (increment, cursor) ← readIndicator (cursor.skip 1)
    return (chomping, increment, cursor)
  | none => do
    let (increment, cursor) ← readIndicator cursor
    match increment, chomping? cursor with
    | some increment, some chomping => return (chomping, some increment, cursor.skip 1)
    | increment, _ => return (.clip, increment, cursor)

/-- Go past indentation and empty lines, at most a given number: the greatest column reached, the
line ends, and the place of the next line. Indentation without a fixed width has no limit. -/
def skipEmptyLines (indent : Option Nat) :
    Nat → Nat → List Char → Cursor → Option (Nat × List Char × Cursor)
  | 0, greatest, lineEnds, cursor => some (greatest, lineEnds, cursor)
  | bound + 1, greatest, lineEnds, cursor =>
    let spaces := (cursor.rest.takeWhile (· == ' ')).length
    let cursor := cursor.skip (match indent with
      | none => spaces
      | some indent => min spaces (indent - cursor.column))
    let greatest := max greatest cursor.column
    if cursor.rest.head? == some '\t' && indent.all (cursor.column < ·) then none
    else
      match cursor.takeBreak with
      | ([], _) => some (greatest, lineEnds, cursor)
      | (lineEnd, next) => skipEmptyLines indent bound greatest (lineEnds ++ lineEnd) next

def beginsBlank (cursor : Cursor) : Bool := cursor.rest.head?.any isBlank

/-- The text between two lines: the end of the first line and the empty lines after it. In the
folded style a single line end between lines that begin with no blank reads as a space, and of
several the first is dropped. -/
def join (folded : Bool) (lineEnd others : List Char) (afterBlank beforeBlank : Bool) :
    List Char :=
  if folded && lineEnd.head? == some '\n' && !afterBlank && !beforeBlank then
    if others.isEmpty then [' '] else others
  else lineEnd ++ others

/-- The lines of a block scalar without the line ends after the last one, the end of that line,
and the line ends after it. -/
structure Lines where
  text : List Char
  lineEnd : List Char
  others : List Char
  cursor : Cursor

/-- Read lines of a block scalar, at most a given number. So far a line was read that begins with
a blank or not, then its end and some empty lines. -/
def readLines (folded : Bool) (indent : Nat) :
    Nat → List Char → List Char → Bool → Cursor → Option Lines
  | 0, lineEnd, others, _, cursor => some ⟨[], lineEnd, others, cursor⟩
  | bound + 1, lineEnd, others, afterBlank, cursor =>
    if cursor.column ≠ indent ∨ cursor.rest.isEmpty then some ⟨[], lineEnd, others, cursor⟩
    else do
      let blank := beginsBlank cursor
      let joined := join folded lineEnd others afterBlank blank
      let (line, cursor) := cursor.takeWhile fun c => !isBreak c
      let (lineEnd, cursor) := cursor.takeBreak
      let (_, others, cursor) ← skipEmptyLines (some indent) (cursor.size + 1) 0 [] cursor
      let more ← readLines folded indent bound lineEnd others blank cursor
      some { more with text := joined ++ line ++ more.text }

/-- Read a block scalar from its indicator; `parent` is the indentation of the collection around
it, if there is one. -/
def read (folded : Bool) (parent : Option Nat) (cursor : Cursor) : Option Scanned := do
  let (chomping, increment, cursor) ← readHeader (cursor.skip 1)
  let cursor ← cursor.finishLine?
  let fixed := increment.map (parent.getD 0 + ·)
  let (greatest, lineEnds, cursor) ←
    skipEmptyLines fixed (cursor.size + 1) 0 [] cursor
  let indent := fixed.getD (max greatest (max (parent.elim 0 (· + 1)) 1))
  let lines ← readLines folded indent (cursor.size + 1) [] lineEnds false cursor
  let chomped := match chomping with
    | .strip => []
    | .clip => lines.lineEnd
    | .keep => lines.lineEnd ++ lines.others
  return ⟨lines.text ++ chomped, lines.cursor, false⟩

end KeyPath.Yaml.Block
