import KeyPath.Json.Basic
import KeyPath.Number.Text
/-!
# JSON text of trees

The compact form has no blanks. The pretty form puts each item of a non-empty container on a
line of its own, indented by two spaces for each level.
-/

namespace KeyPath.Json

open Text

/-- The written form of one character of a string. -/
def escape (c : Char) : List Char :=
  match c with
  | '"' => ['\\', '"']
  | '\\' => ['\\', '\\']
  | '\x08' => ['\\', 'b']
  | '\x0c' => ['\\', 'f']
  | '\n' => ['\\', 'n']
  | '\r' => ['\\', 'r']
  | '\t' => ['\\', 't']
  | c =>
    if c.toNat < 0x20 then
      ['\\', 'u', '0', '0', Nat.digitChar (c.toNat / 16), Nat.digitChar (c.toNat % 16)]
    else [c]

/-- A string between quotes, each character escaped as needed. -/
def writeString (text : String) : List Char :=
  '"' :: text.toList.flatMap escape ++ ['"']

def writeNumber : Number → List Char
  | .integer n => Numeral.writeInt n
  | .float x => FloatFormat.json.write x

def writeBool : Bool → List Char
  | true => ['t', 'r', 'u', 'e']
  | false => ['f', 'a', 'l', 's', 'e']

namespace Tree

mutual

def compact : Tree → List Char
  | null => ['n', 'u', 'l', 'l']
  | bool b => writeBool b
  | number n => writeNumber n
  | string text => writeString text
  | array items => '[' :: compactItems items ++ [']']
  | object members => '\x7b' :: compactMembers members ++ ['\x7d']

def compactItems : List Tree → List Char
  | [] => []
  | [item] => item.compact
  | item :: rest => item.compact ++ ',' :: compactItems rest

def compactMembers : List (String × Tree) → List Char
  | [] => []
  | [(name, value)] => writeString name ++ ':' :: value.compact
  | (name, value) :: rest =>
    writeString name ++ ':' :: value.compact ++ ',' :: compactMembers rest

end

/-- The start of a line at a given level of nesting. -/
def newline (level : Nat) : List Char := '\n' :: List.replicate (2 * level) ' '

mutual

/-- The pretty text of a tree whose container is at a given level. -/
def pretty (level : Nat) : Tree → List Char
  | null => ['n', 'u', 'l', 'l']
  | bool b => writeBool b
  | number n => writeNumber n
  | string text => writeString text
  | array [] => ['[', ']']
  | array items => '[' :: prettyItems (level + 1) items ++ newline level ++ [']']
  | object [] => ['\x7b', '\x7d']
  | object members => '\x7b' :: prettyMembers (level + 1) members ++ newline level ++ ['\x7d']

def prettyItems (level : Nat) : List Tree → List Char
  | [] => []
  | [item] => newline level ++ item.pretty level
  | item :: rest => newline level ++ item.pretty level ++ ',' :: prettyItems level rest

def prettyMembers (level : Nat) : List (String × Tree) → List Char
  | [] => []
  | [(name, value)] => newline level ++ writeString name ++ ':' :: ' ' :: value.pretty level
  | (name, value) :: rest =>
    newline level ++ writeString name ++ ':' :: ' ' :: value.pretty level ++
      ',' :: prettyMembers level rest

end

end Tree

end KeyPath.Json
