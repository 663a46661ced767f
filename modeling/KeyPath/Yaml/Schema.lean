import KeyPath.Text.Hex
import KeyPath.Yaml.Tag
import KeyPath.Yaml.Tree
/-!
# What scalars mean

A plain scalar is null, a boolean, an integer or a floating point number if it is spelled like
one, and a string otherwise. A tag of the standard schema asks for one meaning and fails if the
spelling does not have it.
-/

namespace KeyPath.Yaml.Schema

def isNull (text : List Char) : Bool :=
  ["null", "Null", "NULL", "~"].any fun word => word.toList == text

def bool? (text : List Char) : Option Bool :=
  if ["true", "True", "TRUE"].any fun word => word.toList == text then some true
  else if ["false", "False", "FALSE"].any fun word => word.toList == text then some false
  else none

/-- The value of a digit in a base of at most sixteen. -/
def digit? (base : Nat) (c : Char) : Option Nat := do
  let d ← Text.hexDigit? c
  if d < base then some d else none

def digits? (base : Nat) (text : List Char) : Option Nat :=
  if text.isEmpty then none
  else text.foldlM (fun value c => (digit? base c).map (base * value + ·)) 0

/-- The base and the digits of a number after its sign: a letter after a leading zero may tell
the base. -/
def unsigned? (text : List Char) : Option Nat :=
  match text with
  | '0' :: 'x' :: rest => digits? 16 rest
  | '0' :: 'o' :: rest => digits? 8 rest
  | '0' :: 'b' :: rest => digits? 2 rest
  | text => digits? 10 text

/-- Whether a text is a zero and more digits after an optional sign, which is no number. -/
def isZeroPadded (text : List Char) : Bool :=
  let digits := match text with
    | '+' :: rest | '-' :: rest => rest
    | text => text
  1 < digits.length && digits.head? == some '0' && digits.all Char.isDigit

def integer? (text : List Char) : Option Int :=
  if isZeroPadded text then none
  else
    match text with
    | '+' :: rest => (unsigned? rest).map Int.ofNat
    | '-' :: rest => (unsigned? rest).map fun n => -Int.ofNat n
    | text => (unsigned? text).map Int.ofNat

def exponent? : List Char → Option Int
  | [] => some 0
  | 'e' :: rest | 'E' :: rest =>
    match rest with
    | '+' :: digits => (digits? 10 digits).map Int.ofNat
    | '-' :: digits => (digits? 10 digits).map fun n => -Int.ofNat n
    | digits => (digits? 10 digits).map Int.ofNat
  | _ => none

/-- The finite number that a text without sign spells: digits, with a point before, among or
after them, and an exponent. -/
def decimal? (negative : Bool) (text : List Char) : Option Binary64 := do
  let whole := text.takeWhile Char.isDigit
  let rest := text.drop whole.length
  let fraction := match rest with
    | '.' :: rest => rest.takeWhile Char.isDigit
    | _ => []
  let rest := match rest with
    | '.' :: rest => rest.drop fraction.length
    | rest => rest
  let coefficient ← digits? 10 (whole ++ fraction)
  let x := Binary64.ofDecimal negative coefficient ((← exponent? rest) - fraction.length)
  if x.isFinite then some x else none

def float? (text : List Char) : Option Binary64 :=
  let isOneOf (words : List String) := words.any fun word => word.toList == text
  if isOneOf [".inf", ".Inf", ".INF", "+.inf", "+.Inf", "+.INF"] then some (.infinite false)
  else if isOneOf ["-.inf", "-.Inf", "-.INF"] then some (.infinite true)
  else if isOneOf [".nan", ".NaN", ".NAN"] then some .nan
  else
    match text with
    | '+' :: rest => decimal? false rest
    | '-' :: rest => decimal? true rest
    | text => decimal? false text

/-- Integers of more than 64 bits are refused up to 128 bits; beyond that they are no integers. -/
inductive IntegerSize where
  | fits
  | refused
  | beyond
  deriving DecidableEq, Repr

def IntegerSize.of (n : Int) : IntegerSize :=
  if -Int.ofNat (twoTo 63) ≤ n ∧ n < Int.ofNat (twoTo 64) then fits
  else if -Int.ofNat (twoTo 127) ≤ n ∧ n < Int.ofNat (twoTo 128) then refused
  else beyond

/-- The tree of a text that is asked to be an integer: nothing if it spells none, and an error
inside if the integer is refused. -/
def integerTree? (text : List Char) : Option (Option Tree) := do
  let n ← integer? text
  match IntegerSize.of n with
  | .fits => some (some (.number (.integer n)))
  | .refused => some none
  | .beyond => none

/-- The meaning of a plain scalar without a tag that asks for one. -/
def plain? (text : List Char) : Option Tree :=
  if text.isEmpty || isNull text then some .null
  else
    match bool? text with
    | some b => some (.bool b)
    | none =>
      match integerTree? text with
      | some tree => tree
      | none =>
        match if isZeroPadded text then none else float? text with
        | some x => some (.number (.float x))
        | none => some (.string (String.ofList text))

/-- The meaning of a scalar without a tag that asks for one. -/
def untagged? (text : List Char) (plain : Bool) : Option Tree :=
  if plain then plain? text else some (.string (String.ofList text))

/-- The types of the standard schema that a tag can ask for. -/
inductive Kind where
  | bool
  | int
  | float
  | null
  deriving DecidableEq, Repr

def Kind.ofTag? (tag : TagBytes) : Option Kind :=
  let kinds : List (String × Kind) :=
    [("tag:yaml.org,2002:bool", bool), ("tag:yaml.org,2002:int", int),
      ("tag:yaml.org,2002:float", float), ("tag:yaml.org,2002:null", null)]
  (kinds.find? fun (name, _) => Text.asciiBytes name.toList == tag).map Prod.snd

/-- The tree of a text that is asked to have one meaning. -/
def ofKind? (kind : Kind) (text : List Char) : Option Tree :=
  match kind with
  | .bool => (bool? text).map .bool
  | .int => (integerTree? text).join
  | .float => (float? text).map fun x => .number (.float x)
  | .null => if isNull text then some .null else none

def mark : UInt8 := 0x21

/-- The bytes after an exclamation mark that is not alone. -/
def bare : TagBytes → TagBytes
  | [] => []
  | [byte] => [byte]
  | byte :: next :: rest => if byte = mark then next :: rest else byte :: next :: rest

/-- The name of a tag that is kept with its value. Such tags begin with an exclamation mark, which
is not part of the name unless it is all of it, and their bytes form text. -/
def tagName? (tag : TagBytes) : Option String :=
  if tag.head? = some mark then String.fromUTF8? (bare (bare tag)).toByteArray else none

def scalar? (tag : Option TagBytes) (text : List Char) (plain : Bool) : Option Tree :=
  match tag with
  | none => untagged? text plain
  | some tag =>
    match tagName? tag with
    | some name => (untagged? text plain).map (.tagged name)
    | none =>
      match Kind.ofTag? tag with
      | some kind => ofKind? kind text
      | none =>
        if tag.head? = some mark then untagged? text plain
        else some (.string (String.ofList text))

/-- A collection with the tag that it keeps. -/
def collection (tag : Option TagBytes) (tree : Tree) : Tree :=
  match tag.bind tagName? with
  | some name => .tagged name tree
  | none => tree

end KeyPath.Yaml.Schema
