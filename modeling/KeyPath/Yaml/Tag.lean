import KeyPath.Text.Hex
import KeyPath.Text.Numeral
import KeyPath.Yaml.Cursor
/-!
# Tags, anchors and directives

A tag is written in full between angle brackets, or as a handle and a suffix. Handles are short
names for the beginnings of tags; directives in front of a document declare them. Bytes may be
given in hexadecimal after a percent sign.
-/

namespace KeyPath.Yaml

/-- The bytes of a tag, which need not form characters. -/
abbrev TagBytes := List UInt8

def untilNull (bytes : TagBytes) : TagBytes := bytes.takeWhile (· != 0)

def isTagChar (c : Char) : Bool :=
  isWordChar c || [';', '/', '?', ':', '@', '&', '=', '+', '$', '.', '!', '~', '*', '\'', '(',
    ')'].contains c

/-- The byte of an escape at hand. -/
def escapedByte? : List Char → Option (Nat × List Char)
  | '%' :: a :: b :: rest => (Text.hexNumber? [a, b]).map fun byte => (byte, rest)
  | _ => none

def followingCount? (byte : Nat) : Option Nat :=
  if byte < 0x80 then some 0
  else if byte / 0x20 = 6 then some 1
  else if byte / 0x10 = 0xe then some 2
  else if byte / 0x8 = 0x1e then some 3
  else none

/-- Read a given number of escaped bytes that follow a first byte. -/
def readFollowing? : Nat → List Char → Option TagBytes
  | 0, _ => some []
  | count + 1, text => do
    let (byte, rest) ← escapedByte? text
    if byte / 0x40 = 2 then return UInt8.ofNat byte :: (← readFollowing? count rest) else none

/-- Read the escaped bytes that a first byte asks for. They need not form a character. -/
def readEscaped? (text : List Char) : Option TagBytes := do
  let (byte, rest) ← escapedByte? text
  return UInt8.ofNat byte :: (← readFollowing? (← followingCount? byte) rest)

/-- Read the bytes of a tag in at most a given number of pieces; `verbatim` tags may hold brackets
and commas. -/
def readTagBytes (verbatim : Bool) : Nat → Cursor → Option (TagBytes × Cursor)
  | 0, cursor => some ([], cursor)
  | bound + 1, cursor =>
    match cursor.rest with
    | '%' :: _ => do
      let bytes ← readEscaped? cursor.rest
      let (more, cursor) ← readTagBytes verbatim bound (cursor.skip (3 * bytes.length))
      return (bytes ++ more, cursor)
    | c :: _ =>
      if isTagChar c || (verbatim && (c == ',' || c == '[' || c == ']')) then do
        let (more, cursor) ← readTagBytes verbatim bound (cursor.skip 1)
        return (Text.asciiBytes [c] ++ more, cursor)
      else some ([], cursor)
    | [] => some ([], cursor)

/-- Read a tag that may not be empty. -/
def readTagText (verbatim : Bool) (cursor : Cursor) : Option (TagBytes × Cursor) := do
  let (tag, cursor) ← readTagBytes verbatim cursor.size cursor
  if tag.isEmpty then none else some (untilNull tag, cursor)

/-- Read a handle: an exclamation mark, and a name and another mark if there is one. -/
def readHandle (cursor : Cursor) : Option (List Char × Cursor) :=
  match cursor.rest with
  | '!' :: _ =>
    let (name, cursor) := (cursor.skip 1).takeWhile isWordChar
    if cursor.rest.head? == some '!' then some ('!' :: name ++ ['!'], cursor.skip 1)
    else some ('!' :: name, cursor)
  | _ => none

/-- Whether a handle stands for itself only if a mark ends it. -/
def isNamedHandle (handle : List Char) : Bool := 1 < handle.length && handle.getLast? == some '!'

/-- A tag as written: a handle and a suffix, the handle empty if the suffix is the tag. -/
structure WrittenTag where
  handle : List Char
  suffix : TagBytes
  deriving DecidableEq, Repr, Inhabited

/-- Read a tag and check that a gap follows; inside brackets a comma may follow as well. -/
def readTag (inFlow : Bool) (cursor : Cursor) : Option (WrittenTag × Cursor) := do
  let (tag, cursor) ← written
  if (inFlow && cursor.rest.head? == some ',') || atGap cursor.rest then some (tag, cursor)
  else none
where
  written : Option (WrittenTag × Cursor) :=
    match cursor.rest with
    | '!' :: '<' :: _ => do
      let (tag, cursor) ← readTagText true (cursor.skip 2)
      if cursor.rest.head? == some '>' then some (⟨[], tag⟩, cursor.skip 1) else none
    | _ => do
      let (handle, cursor) ← readHandle cursor
      if isNamedHandle handle then
        let (tag, cursor) ← readTagText false cursor
        return (⟨handle, tag⟩, cursor)
      else
        let (tag, cursor) ← readTagBytes false cursor.size cursor
        let tag := untilNull (Text.asciiBytes handle.tail ++ tag)
        if tag.isEmpty then return (⟨[], Text.asciiBytes ['!']⟩, cursor)
        else return (⟨['!'], tag⟩, cursor)

/-- Read the name of an anchor and check what follows it. -/
def readAnchorName (cursor : Cursor) : Option (List Char × Cursor) :=
  let (name, cursor) := cursor.takeWhile isWordChar
  let ends := atGap cursor.rest ||
    cursor.rest.head?.any fun c => ['?', ':', ',', ']', '\x7d', '%', '@', '\x60'].contains c
  if name.isEmpty || !ends then none else some (name, cursor)

inductive Directive where
  | version (major minor : Nat)
  | handle (handle : List Char) (start : TagBytes)
  deriving DecidableEq, Repr

/-- Read a number of at most nine digits. -/
def readVersionNumber (cursor : Cursor) : Option (Nat × Cursor) :=
  let (digits, cursor) := cursor.takeWhile Char.isDigit
  if digits.isEmpty || 9 < digits.length then none
  else some (Text.Numeral.ofDigits digits, cursor)

def readVersion (cursor : Cursor) : Option (Directive × Cursor) := do
  let (major, cursor) ← readVersionNumber (cursor.dropWhile isBlank)
  if cursor.rest.head? == some '.' then
    let (minor, cursor) ← readVersionNumber (cursor.skip 1)
    return (.version major minor, cursor)
  else none

/-- Read a handle and the beginning of the tags that it stands for. -/
def readHandleDirective (cursor : Cursor) : Option (Directive × Cursor) := do
  let (handle, cursor) ← readHandle (cursor.dropWhile isBlank)
  if handle ≠ ['!'] ∧ !isNamedHandle handle then none
  else if !cursor.rest.head?.any isBlank then none
  else
    let (start, cursor) ← readTagText true (cursor.dropWhile isBlank)
    if atGap cursor.rest then return (.handle handle start, cursor) else none

/-- Read a directive from its percent sign to the end of the line. -/
def readDirective (cursor : Cursor) : Option (Directive × Cursor) := do
  let (name, cursor) := (cursor.skip 1).takeWhile isWordChar
  if !atGap cursor.rest then none
  else
    let (directive, cursor) ← match name with
      | ['Y', 'A', 'M', 'L'] => readVersion cursor
      | ['T', 'A', 'G'] => readHandleDirective cursor
      | _ => none
    return (directive, ← cursor.finishLine?)

end KeyPath.Yaml
