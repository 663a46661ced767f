import KeyPath.Text.Bytes
/-!
# Faults of JSON text

A fault says what is wrong and how many bytes of the text were not read yet; its place is the
line and the number of bytes of that line that were read.
-/

namespace KeyPath.Json

open Text (byteCount)

inductive Problem where
  | endInValue
  | endInObject
  | endInList
  | endInString
  | expectedValue
  | expectedIdent
  | invalidNumber
  | numberOutOfRange
  | keyNotString
  | expectedColon
  | expectedMemberEnd
  | expectedItemEnd
  | trailingComma
  | trailingCharacters
  | invalidEscape
  | controlCharacter
  | unfinishedSurrogatePair
  | loneSurrogate
  | tooDeep
  deriving DecidableEq, Repr, Inhabited

def Problem.message : Problem → String
  | endInValue => "EOF while parsing a value"
  | endInObject => "EOF while parsing an object"
  | endInList => "EOF while parsing a list"
  | endInString => "EOF while parsing a string"
  | expectedValue => "expected value"
  | expectedIdent => "expected ident"
  | invalidNumber => "invalid number"
  | numberOutOfRange => "number out of range"
  | keyNotString => "key must be a string"
  | expectedColon => "expected \x60:\x60"
  | expectedMemberEnd => "expected \x60,\x60 or \x60\x7d\x60"
  | expectedItemEnd => "expected \x60,\x60 or \x60]\x60"
  | trailingComma => "trailing comma"
  | trailingCharacters => "trailing characters"
  | invalidEscape => "invalid escape"
  | controlCharacter => "control character (\\u0000-\\u001F) found while parsing a string"
  | unfinishedSurrogatePair => "unexpected end of hex escape"
  | loneSurrogate => "lone leading surrogate in hex escape"
  | tooDeep => "recursion limit exceeded"

structure Fault where
  problem : Problem
  /-- The number of bytes of the text that were not read. -/
  bytesLeft : Nat
  deriving DecidableEq, Repr, Inhabited

namespace Fault

/-- A fault found with all characters of `rest` still unread. -/
def before (problem : Problem) (rest : List Char) : Fault := ⟨problem, byteCount rest⟩

/-- A fault of the next byte of `rest`, which counts as read. -/
def atNext (problem : Problem) (rest : List Char) : Fault := ⟨problem, byteCount rest - 1⟩

/-- The line and the column after a number of bytes of a text. -/
def place (bytes line column : Nat) : List Char → Nat × Nat
  | [] => (line, column)
  | c :: rest =>
    if bytes < c.utf8Size then (line, column + bytes)
    else if c = '\n' then place (bytes - c.utf8Size) (line + 1) 0 rest
    else place (bytes - c.utf8Size) line (column + c.utf8Size) rest

def message (fault : Fault) (text : List Char) : String :=
  let (line, column) := place (byteCount text - fault.bytesLeft) 1 0 text
  fault.problem.message ++ " at line " ++ toString line ++ " column " ++ toString column

end Fault

end KeyPath.Json
