import KeyPath.Yaml.Scalar.Block
import KeyPath.Yaml.Scalar.Quoted
import KeyPath.Yaml.Token
/-!
# From text to tokens

Outside brackets the column of a token opens and closes collections. A token that may begin the
key of a mapping is remembered until a colon shows that it does; the key is then announced at
the remembered place, ahead of tokens that were found since.
-/

namespace KeyPath.Yaml

/-- A place where the key of a mapping may begin. -/
structure KeyPlace where
  /-- The number of tokens before the place. -/
  tokens : Nat
  cursor : Cursor
  /-- Whether the indentation makes a key there necessary. -/
  needed : Bool

structure Lexer where
  cursor : Cursor
  tokens : Array Token
  /-- The columns of the open collections outside brackets, the innermost first. -/
  columns : List Nat
  /-- Where a key may begin, for each open bracket and for the text outside. -/
  keyPlaces : List (Option KeyPlace)
  /-- Whether a key may begin at the place at hand. -/
  allowsKey : Bool

namespace Lexer

def start (text : List Char) : Lexer :=
  ⟨.start text, #[], [], [none], true⟩

def inFlow (s : Lexer) : Bool := 1 < s.keyPlaces.length

def emit (s : Lexer) (token : Token) : Lexer := { s with tokens := s.tokens.push token }

def skip (s : Lexer) (count : Nat) : Lexer := { s with cursor := s.cursor.skip count }

/-- Forget where a key may begin; an error if a key is needed there. -/
def forgetKey? (s : Lexer) : Option Lexer :=
  match s.keyPlaces with
  | some place :: outer => if place.needed then none else some { s with keyPlaces := none :: outer }
  | _ => some s

/-- Remember that a key may begin here. -/
def rememberKey? (s : Lexer) : Option Lexer :=
  if !s.allowsKey then some s
  else do
    let needed := !s.inFlow && s.columns.head? == some s.cursor.column
    let s ← s.forgetKey?
    let place : KeyPlace := ⟨s.tokens.size, s.cursor, needed⟩
    return { s with keyPlaces := some place :: s.keyPlaces.tail }

/-- Drop the places that are on an earlier line or more than 1024 bytes back. -/
def dropStaleKeys? (s : Lexer) : Option Lexer := do
  let keyPlaces ← s.keyPlaces.mapM fun place? =>
    match place? with
    | none => some none
    | some place =>
      if place.cursor.line < s.cursor.line || place.cursor.index + 1024 < s.cursor.index then
        if place.needed then none else some none
      else some (some place)
  return { s with keyPlaces := keyPlaces }

/-- Close the collections that begin right of a column; inside brackets columns do not count. -/
def closeTo (s : Lexer) (column : Nat) : Lexer :=
  if s.inFlow then s
  else
    let closed := s.columns.takeWhile (column < ·)
    { s with
      columns := s.columns.drop closed.length
      tokens := s.tokens ++ Array.replicate closed.length .blockEnd }

def closeAll (s : Lexer) : Lexer :=
  if s.inFlow then s
  else
    { s with
      columns := []
      tokens := s.tokens ++ Array.replicate s.columns.length .blockEnd }

/-- Open a collection at a column, unless it is open or a bracket is; its start goes to a given
place among the tokens. -/
def openAt (s : Lexer) (column place : Nat) (token : Token) : Lexer :=
  if s.inFlow || s.columns.head?.any (column ≤ ·) then s
  else
    { s with
      columns := column :: s.columns
      tokens := s.tokens.insertIdxIfInBounds place token }

def openHere (s : Lexer) (token : Token) : Lexer :=
  s.openAt s.cursor.column s.tokens.size token

/-- Go past blanks, comments and line ends, at most a given number of lines. Outside brackets a
tab is no blank where a key may begin, and a key may begin on a new line. A byte order mark may
begin a line and takes up a column. -/
def skipGaps (s : Lexer) : Nat → Lexer
  | 0 => s
  | bound + 1 =>
    let cursor := if s.cursor.column = 0 then s.cursor.skipIf '\ufeff' else s.cursor
    let tabs := s.inFlow || !s.allowsKey
    let cursor := (cursor.dropWhile fun c => c == ' ' || (tabs && c == '\t')).skipComment
    match cursor.takeBreak with
    | ([], _) => { s with cursor := cursor }
    | (_, next) =>
      skipGaps { s with cursor := next, allowsKey := s.allowsKey || !s.inFlow } bound

def openBracket (s : Lexer) (token : Token) : Option Lexer := do
  let s ← s.rememberKey?
  return ({ s with keyPlaces := none :: s.keyPlaces, allowsKey := true }.emit token).skip 1

def closeBracket (s : Lexer) (token : Token) : Option Lexer := do
  let s ← s.forgetKey?
  let keyPlaces := if s.inFlow then s.keyPlaces.tail else s.keyPlaces
  return ({ s with keyPlaces := keyPlaces, allowsKey := false }.emit token).skip 1

def flowEntry (s : Lexer) : Option Lexer := do
  let s ← s.forgetKey?
  return ({ s with allowsKey := true }.emit .flowEntry).skip 1

def blockEntry (s : Lexer) : Option Lexer := do
  if !s.inFlow && !s.allowsKey then none
  else
    let s ← (s.openHere .blockSequenceStart).forgetKey?
    return ({ s with allowsKey := true }.emit .blockEntry).skip 1

def explicitKey (s : Lexer) : Option Lexer := do
  if !s.inFlow && !s.allowsKey then none
  else
    let s ← (s.openHere .blockMappingStart).forgetKey?
    return ({ s with allowsKey := !s.inFlow }.emit .key).skip 1

/-- The colon before a value; it may turn a remembered place into a key. -/
def value (s : Lexer) : Option Lexer :=
  match s.keyPlaces with
  | some place :: outer =>
    let s := { s with
      tokens := s.tokens.insertIdxIfInBounds place.tokens .key
      keyPlaces := none :: outer }
    let s := s.openAt place.cursor.column place.tokens .blockMappingStart
    some (({ s with allowsKey := false }.emit .value).skip 1)
  | _ =>
    if !s.inFlow && !s.allowsKey then none
    else
      let s := s.openHere .blockMappingStart
      some (({ s with allowsKey := !s.inFlow }.emit .value).skip 1)

def documentMarker (s : Lexer) (token : Token) : Option Lexer := do
  let s ← s.closeAll.forgetKey?
  return ({ s with allowsKey := false }.emit token).skip 3

def directive (s : Lexer) : Option Lexer := do
  let s ← s.closeAll.forgetKey?
  let (directive, cursor) ← readDirective s.cursor
  return { s with cursor := cursor, allowsKey := false }.emit (.directive directive)

def name (s : Lexer) (token : List Char → Token) : Option Lexer := do
  let s ← s.rememberKey?
  let (name, cursor) ← readAnchorName (s.cursor.skip 1)
  return { s with cursor := cursor, allowsKey := false }.emit (token name)

def tag (s : Lexer) : Option Lexer := do
  let s ← s.rememberKey?
  let (tag, cursor) ← readTag s.inFlow s.cursor
  return { s with cursor := cursor, allowsKey := false }.emit (.tag tag)

/-- A scalar in block style; a key may begin on the line after it. -/
def blockScalar (s : Lexer) (folded : Bool) : Option Lexer := do
  let s ← s.forgetKey?
  let scanned ← Block.read folded s.columns.head? s.cursor
  return { s with cursor := scanned.cursor, allowsKey := true }.emit (.scalar scanned.text false)

def quotedScalar (s : Lexer) (single : Bool) : Option Lexer := do
  let s ← s.rememberKey?
  let scanned ← Quoted.read single s.cursor
  return { s with cursor := scanned.cursor, allowsKey := false }.emit (.scalar scanned.text false)

/-- A plain scalar; a key may begin after it if line ends follow it. -/
def plainScalar (s : Lexer) : Option Lexer := do
  let s ← s.rememberKey?
  let indent := s.columns.head?.elim 0 (· + 1)
  let scanned ← Plain.read s.inFlow indent s.cursor
  return { s with cursor := scanned.cursor, allowsKey := scanned.endsLine }.emit
    (.scalar scanned.text true)

/-- Whether a plain scalar may begin with a character, whatever follows it. -/
def beginsPlain (c : Char) : Bool :=
  let indicators := ['-', '?', ':', ',', '[', ']', '\x7b', '\x7d', '#', '&', '*', '!', '|', '>',
    '\'', '"', '%', '@', '\x60']
  !isBlank c && !indicators.contains c

/-- Read the token at hand, which begins with a given character. -/
def token (s : Lexer) (c : Char) (rest : List Char) : Option Lexer :=
  if s.cursor.column = 0 && c == '%' then s.directive
  else if s.cursor.atMarker '-' then s.documentMarker .documentStart
  else if s.cursor.atMarker '.' then s.documentMarker .documentEnd
  else
    match c with
    | '[' => s.openBracket .flowSequenceStart
    | '\x7b' => s.openBracket .flowMappingStart
    | ']' => s.closeBracket .flowSequenceEnd
    | '\x7d' => s.closeBracket .flowMappingEnd
    | ',' => s.flowEntry
    | '*' => s.name .reference
    | '&' => s.name .anchor
    | '!' => s.tag
    | '\'' => s.quotedScalar true
    | '"' => s.quotedScalar false
    | '-' => if atGap rest then s.blockEntry else s.plainScalar
    | '?' =>
      if s.inFlow || atGap rest then s.explicitKey else s.plainScalar
    | ':' => if s.inFlow || atGap rest then s.value else s.plainScalar
    | '|' => if s.inFlow then none else s.blockScalar false
    | '>' => if s.inFlow then none else s.blockScalar true
    | c => if beginsPlain c then s.plainScalar else none

/-- Read all tokens, at most a given number. -/
def run : Nat → Lexer → Option (Array Token)
  | 0, _ => none
  | bound + 1, s => do
    let s := s.skipGaps (s.cursor.size + 1)
    let s ← s.dropStaleKeys?
    let s := s.closeTo s.cursor.column
    match s.cursor.rest with
    | [] => return (← s.closeAll.forgetKey?).tokens
    | c :: rest => run bound (← s.token c rest)

end Lexer

def Token.ofChars? (text : List Char) : Option (List Token) :=
  if text.all isAllowed then
    (Lexer.run (text.length + 2) (.start text)).map Array.toList
  else none

end KeyPath.Yaml
