import KeyPath.Text.Bytes
/-!
# Places in YAML text

A cursor is the rest of a text with its place: the number of bytes before it, the line and the
column, which counts characters. Line ends are CR, LF, the two together, NEL and the Unicode line
and paragraph separators.
-/

namespace KeyPath.Yaml

def isBreak (c : Char) : Bool :=
  c == '\r' || c == '\n' || c == '\x85' || c == '\u2028' || c == '\u2029'

def isBlank (c : Char) : Bool := c == ' ' || c == '\t'

/-- Whether a text is at its end, at a blank or at a line end. -/
def atGap : List Char → Bool
  | [] => true
  | c :: _ => isBlank c || isBreak c

def atLineEnd : List Char → Bool
  | [] => true
  | c :: _ => isBreak c

/-- The characters of names and handles. -/
def isWordChar (c : Char) : Bool := c.isAlphanum || c == '_' || c == '-'

structure Cursor where
  /-- The number of characters of the whole text, which bounds every loop over it. -/
  size : Nat
  rest : List Char
  /-- The number of bytes before the rest. -/
  index : Nat
  line : Nat
  column : Nat
  deriving Repr, Inhabited

namespace Cursor

def start (text : List Char) : Cursor := ⟨text.length, text, 0, 0, 0⟩

def skip (cursor : Cursor) (count : Nat) : Cursor :=
  { cursor with
    rest := cursor.rest.drop count
    index := cursor.index + Text.byteCount (cursor.rest.take count)
    column := cursor.column + count }

def takeWhile (cursor : Cursor) (p : Char → Bool) : List Char × Cursor :=
  let taken := cursor.rest.takeWhile p
  (taken, cursor.skip taken.length)

def dropWhile (cursor : Cursor) (p : Char → Bool) : Cursor := (cursor.takeWhile p).2

/-- Go past the character at hand, if it is the given one. -/
def skipIf (cursor : Cursor) (c : Char) : Cursor :=
  if cursor.rest.head? = some c then cursor.skip 1 else cursor

/-- Take a line end, if one is at hand. All line ends read as a line feed but the two Unicode
separators, which stay as they are. -/
def takeBreak (cursor : Cursor) : List Char × Cursor :=
  let next (rest : List Char) (bytes : Nat) : Cursor :=
    ⟨cursor.size, rest, cursor.index + bytes, cursor.line + 1, 0⟩
  match cursor.rest with
  | '\r' :: '\n' :: rest => (['\n'], next rest 2)
  | '\u2028' :: rest => (['\u2028'], next rest '\u2028'.utf8Size)
  | '\u2029' :: rest => (['\u2029'], next rest '\u2029'.utf8Size)
  | c :: rest => if isBreak c then (['\n'], next rest c.utf8Size) else ([], cursor)
  | [] => ([], cursor)

def skipComment (cursor : Cursor) : Cursor :=
  if cursor.rest.head? = some '#' then cursor.dropWhile fun c => !isBreak c else cursor

/-- Go past blanks, a comment and the line end; nothing else may be left on the line. -/
def finishLine? (cursor : Cursor) : Option Cursor :=
  let cursor := (cursor.dropWhile isBlank).skipComment
  if atLineEnd cursor.rest then some cursor.takeBreak.2 else none

/-- Whether three given characters and a gap begin the line at hand. -/
def atMarker (cursor : Cursor) (c : Char) : Bool :=
  match cursor.column, cursor.rest with
  | 0, a :: b :: d :: rest => a == c && b == c && d == c && atGap rest
  | _, _ => false

/-- Whether the mark of a document's start or end is at hand. -/
def atDocumentMarker (cursor : Cursor) : Bool := cursor.atMarker '-' || cursor.atMarker '.'

end Cursor

/-- Whether YAML text may hold a character. -/
def isAllowed (c : Char) : Bool :=
  c == '\t' || c == '\n' || c == '\r' || c == '\x85' ||
    (0x20 ≤ c.toNat && c.toNat ≤ 0x7e) || (0xa0 ≤ c.toNat && c.toNat ≤ 0xd7ff) ||
    (0xe000 ≤ c.toNat && c.toNat ≤ 0xfffd) || 0x10000 ≤ c.toNat

end KeyPath.Yaml
