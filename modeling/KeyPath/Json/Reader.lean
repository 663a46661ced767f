import KeyPath.Json.Basic
import KeyPath.Json.Numeral
import KeyPath.Text.Hex
/-!
# Reading JSON text

A reader takes a value off the front of a text and returns the rest. Containers may be nested
127 deep.
-/

namespace KeyPath.Json

open Text (byteCount)

def isBlank (c : Char) : Bool := c == ' ' || c == '\t' || c == '\n' || c == '\r'

def skipBlanks (text : List Char) : List Char := text.dropWhile isBlank

def hexGroup? (a b c d : Char) : Option Nat := Text.hexNumber? [a, b, c, d]

/-- The character that a letter after a backslash stands for. -/
def unescape? : Char → Option Char
  | '"' => some '"'
  | '\\' => some '\\'
  | '/' => some '/'
  | 'b' => some '\x08'
  | 'f' => some '\x0c'
  | 'n' => some '\n'
  | 'r' => some '\r'
  | 't' => some '\t'
  | _ => none

def isHighSurrogate (n : Nat) : Bool := 0xd800 ≤ n && n ≤ 0xdbff

def isLowSurrogate (n : Nat) : Bool := 0xdc00 ≤ n && n ≤ 0xdfff

def joinSurrogates (high low : Nat) : Char :=
  Char.ofNat (0x10000 + (high - 0xd800) * 0x400 + (low - 0xdc00))

/-- The fault of four bytes that are no group of hexadecimal digits. -/
def badHexGroup (text : List Char) : Fault :=
  if byteCount text < 4 then .before .endInString []
  else ⟨.invalidEscape, byteCount text - 4⟩

/-- The fault of what follows a high surrogate and is no escaped character. -/
def badLowSurrogate : List Char → Fault
  | [] | ['\\'] => .before .endInString []
  | '\\' :: 'u' :: rest => badHexGroup rest
  | '\\' :: rest => .atNext .unfinishedSurrogatePair rest
  | rest => .atNext .unfinishedSurrogatePair rest

def consChar (c : Char) : Except Fault (List Char × List Char) →
    Except Fault (List Char × List Char)
  | .ok (s, rest) => .ok (c :: s, rest)
  | .error e => .error e

/-- Read a string after its opening quote. -/
def readString : List Char → Except Fault (List Char × List Char)
  | [] => .error (.before .endInString [])
  | '"' :: rest => .ok ([], rest)
  | '\\' :: 'u' :: a :: b :: c :: d :: rest =>
    match hexGroup? a b c d with
    | none => .error (badHexGroup (a :: b :: c :: d :: rest))
    | some n =>
      if isLowSurrogate n then .error (.before .loneSurrogate rest)
      else if isHighSurrogate n then
        match rest with
        | '\\' :: 'u' :: e :: f :: g :: h :: rest' =>
          match hexGroup? e f g h with
          | none => .error (badHexGroup (e :: f :: g :: h :: rest'))
          | some low =>
            if isLowSurrogate low then consChar (joinSurrogates n low) (readString rest')
            else .error (.before .loneSurrogate rest')
        | rest => .error (badLowSurrogate rest)
      else consChar (Char.ofNat n) (readString rest)
  | '\\' :: 'u' :: rest => .error (badHexGroup rest)
  | ['\\'] => .error (.before .endInString [])
  | '\\' :: c :: rest =>
    match unescape? c with
    | some d => consChar d (readString rest)
    | none => .error (.atNext .invalidEscape (c :: rest))
  | c :: rest =>
    if c.toNat < 0x20 then .error (.before .controlCharacter rest)
    else consChar c (readString rest)

def readLiteral (value : Tree) : List Char → List Char → Except Fault (Tree × List Char)
  | [], rest => .ok (value, rest)
  | _ :: _, [] => .error (.atNext .endInValue [])
  | letter :: letters, c :: rest =>
    if c = letter then readLiteral value letters rest
    else .error (.atNext .expectedIdent (c :: rest))

abbrev ValueReader := List Char → Except Fault (Tree × List Char)

/-- What differs between the two kinds of containers: the closing bracket, and the faults of a text
that ends before it and of anything but a comma or the bracket. -/
structure Container where
  close : Char
  unfinished : Problem
  expectedEnd : Problem

namespace Container

def list : Container := ⟨']', .endInList, .expectedItemEnd⟩

def object : Container := ⟨'\x7d', .endInObject, .expectedMemberEnd⟩

variable {ε : Type}

/-- Read the entries of a container from an entry to the closing bracket, at most a given
number. -/
def readEntries (container : Container) (readEntry : List Char → Except Fault (ε × List Char)) :
    Nat → List Char → Except Fault (List ε × List Char)
  | 0, text => .error (.before container.unfinished text)
  | bound + 1, text =>
    match readEntry text with
    | .error e => .error e
    | .ok (entry, rest) =>
      match skipBlanks rest with
      | [] => .error (.atNext container.unfinished [])
      | c :: rest =>
        if c = container.close then .ok ([entry], rest)
        else if c = ',' then
          match skipBlanks rest with
          | [] => .error (.atNext .endInValue [])
          | d :: rest =>
            if d = container.close then .error (.atNext .trailingComma (d :: rest))
            else
              match readEntries container readEntry bound (d :: rest) with
              | .ok (entries, rest) => .ok (entry :: entries, rest)
              | .error e => .error e
        else .error (.atNext container.expectedEnd (c :: rest))

/-- Read a container after its opening bracket. -/
def read (container : Container) (readEntry : List Char → Except Fault (ε × List Char))
    (text : List Char) : Except Fault (List ε × List Char) :=
  match skipBlanks text with
  | [] => .error (.atNext container.unfinished [])
  | c :: rest =>
    if c = container.close then .ok ([], rest)
    else readEntries container readEntry (c :: rest).length (c :: rest)

end Container

/-- Read a name, a colon and a value. -/
def readMember (readItem : ValueReader) (text : List Char) :
    Except Fault ((String × Tree) × List Char) :=
  match text with
  | '"' :: rest =>
    match readString rest with
    | .error e => .error e
    | .ok (name, rest) =>
      match skipBlanks rest with
      | [] => .error (.atNext .endInObject [])
      | ':' :: rest =>
        match readItem rest with
        | .error e => .error e
        | .ok (value, rest) => .ok ((String.ofList name, value), rest)
      | rest => .error (.atNext .expectedColon rest)
  | text => .error (.atNext .keyNotString text)

/-- Read a value after leading blanks; `readItem?` reads the values in a container, if one may
be opened here. -/
def readValueWith (readItem? : Option ValueReader) (text : List Char) :
    Except Fault (Tree × List Char) :=
  match skipBlanks text with
  | [] => .error (.atNext .endInValue [])
  | 'n' :: rest => readLiteral .null ['u', 'l', 'l'] rest
  | 't' :: rest => readLiteral (.bool true) ['r', 'u', 'e'] rest
  | 'f' :: rest => readLiteral (.bool false) ['a', 'l', 's', 'e'] rest
  | '"' :: rest =>
    match readString rest with
    | .ok (s, rest) => .ok (.string (String.ofList s), rest)
    | .error e => .error e
  | '[' :: rest =>
    match readItem? with
    | none => .error (.atNext .tooDeep ('[' :: rest))
    | some readItem =>
      match Container.list.read readItem rest with
      | .ok (items, rest) => .ok (.array items, rest)
      | .error e => .error e
  | '\x7b' :: rest =>
    match readItem? with
    | none => .error (.atNext .tooDeep ('\x7b' :: rest))
    | some readItem =>
      match Container.object.read (readMember readItem) rest with
      | .ok (members, rest) => .ok (.object members, rest)
      | .error e => .error e
  | c :: rest =>
    if c = '-' ∨ c.isDigit then
      match readNumber (c :: rest) with
      | .ok (n, rest) => .ok (.number n, rest)
      | .error e => .error e
    else .error (.atNext .expectedValue (c :: rest))

/-- Read a value in which containers may be nested a given number of times. -/
def readValue : Nat → ValueReader
  | 0 => readValueWith none
  | levels + 1 => readValueWith (some (readValue levels))

def maxDepth : Nat := 127

/-- Read a text that holds one value. -/
def Tree.ofChars (text : List Char) : Except Fault Tree :=
  match readValue maxDepth text with
  | .error e => .error e
  | .ok (tree, rest) =>
    match skipBlanks rest with
    | [] => .ok tree
    | rest => .error (.atNext .trailingCharacters rest)

end KeyPath.Json
