import KeyPath.Text.Hex
import KeyPath.Yaml.Scalar.Plain
/-!
# Quoted scalars

Between single quotes only the quote itself is special: it is written twice. Between double
quotes a backslash begins an escape. Line ends are folded in both.
-/

namespace KeyPath.Yaml.Quoted

/-- The value of exactly `count` hexadecimal digits at the front of a text. -/
def hexValue? (count : Nat) (text : List Char) : Option Nat :=
  if text.length < count then none else Text.hexNumber? (text.take count)

def charOf? (code : Nat) : Option Char :=
  if code.isValidChar then some (Char.ofNat code) else none

/-- The character that a letter after a backslash stands for. -/
def unescape? : Char → Option Char
  | '0' => some '\x00'
  | 'a' => some '\x07'
  | 'b' => some '\x08'
  | 't' => some '\t'
  | '\t' => some '\t'
  | 'n' => some '\n'
  | 'v' => some '\x0b'
  | 'f' => some '\x0c'
  | 'r' => some '\r'
  | 'e' => some '\x1b'
  | ' ' => some ' '
  | '"' => some '"'
  | '/' => some '/'
  | '\\' => some '\\'
  | 'N' => some '\x85'
  | '_' => some '\xa0'
  | 'L' => some '\u2028'
  | 'P' => some '\u2029'
  | _ => none

/-- The number of digits that follow a letter after a backslash. -/
def hexLength? : Char → Option Nat
  | 'x' => some 2
  | 'u' => some 4
  | 'U' => some 8
  | _ => none

/-- The character of the escape after a backslash, and the length of that escape. -/
def readEscape? : List Char → Option (Char × Nat)
  | [] => none
  | c :: rest =>
    match hexLength? c with
    | some count => do
      let code ← hexValue? count rest
      return (← charOf? code, count + 1)
    | none => (unescape? c).map fun d => (d, 1)

/-- Read the word at hand, at most a given number of characters: its text in reverse, where it
stops, and whether an escaped line end stops it. -/
def readWord (single : Bool) : Nat → List Char → Cursor → Option (List Char × Cursor × Bool)
  | 0, text, cursor => some (text, cursor, false)
  | bound + 1, text, cursor =>
    match cursor.rest with
    | [] => some (text, cursor, false)
    | c :: rest =>
      if isBlank c || isBreak c then some (text, cursor, false)
      else if single then
        if c == '\'' then
          if rest.head? == some '\'' then readWord single bound ('\'' :: text) (cursor.skip 2)
          else some (text, cursor, false)
        else readWord single bound (c :: text) (cursor.skip 1)
      else if c == '"' then some (text, cursor, false)
      else if c == '\\' then
        if rest.head?.any isBreak then some (text, (cursor.skip 1).takeBreak.2, true)
        else do
          let (d, length) ← readEscape? rest
          readWord single bound (d :: text) (cursor.skip (length + 1))
      else readWord single bound (c :: text) (cursor.skip 1)

/-- Read words and gaps up to the closing quote, at most a given number. -/
def readWords (single : Bool) : Nat → Cursor → Option Scanned
  | 0, _ => none
  | bound + 1, cursor =>
    if cursor.atDocumentMarker || cursor.rest.isEmpty then none
    else do
      let (word, cursor, escapedBreak) ← readWord single cursor.size [] cursor
      if cursor.rest.head? == some (if single then '\'' else '"') then
        some ⟨word.reverse, cursor.skip 1, false⟩
      else
        let gap := if escapedBreak then .lines none [] else .blanks []
        let (gap, cursor) ← Gap.extend 0 cursor.size gap cursor
        let more ← readWords single bound cursor
        some { more with text := word.reverse ++ gap.text ++ more.text }

def read (single : Bool) (cursor : Cursor) : Option Scanned :=
  readWords single (cursor.size + 1) (cursor.skip 1)

end KeyPath.Yaml.Quoted
