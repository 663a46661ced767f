import KeyPath.Document.Format
import KeyPath.Key.Text
import KeyPath.Report
/-!
# Command line arguments

Words are read one by one. Options and keys may stand in any order; a word of two dashes makes
all later words keys. An option that takes a value has it attached or in the next word, which
may begin with a dash only if it looks like a negative number. Attached short flags share one
dash. What is wrong with a value is noticed when the next option or key is read.
-/

namespace KeyPath.Command

structure Arguments where
  keys : List String
  input : Option String
  inputFormat : Option DocumentFormat
  format : ReportFormat
  symbolizeKeys : Bool
  strict : Bool
  /-- How often more output was asked for, at most 255. -/
  verbose : Nat
  quiet : Bool
  deriving DecidableEq, Repr, Inhabited

/-- The arguments of a command line without words. -/
def Arguments.default : Arguments :=
  ⟨[], none, none, .json, false, false, 0, false⟩

/-- Why a command line is refused, or that help is wanted instead. -/
inductive UsageError where
  | missingKeys
  | unknownArgument
  | invalidValue
  | repeatedOption
  | unexpectedValue
  | helpRequested
  deriving DecidableEq, Repr, Inhabited

inductive ValueOption where
  | input
  | inputFormat
  | format
  deriving DecidableEq, Repr

inductive Flag where
  | symbolizeKeys
  | strict
  | verbose
  | quiet
  | help
  deriving DecidableEq, Repr

inductive Setting where
  | value (option : ValueOption)
  | flag (flag : Flag)
  deriving DecidableEq, Repr

namespace Setting

def ofName? (name : List Char) : Option Setting :=
  let settings : List (String × Setting) :=
    [("input", value .input), ("input-format", value .inputFormat), ("format", value .format),
      ("symbolize-keys", flag .symbolizeKeys), ("strict", flag .strict),
      ("verbose", flag .verbose), ("quiet", flag .quiet), ("help", flag .help)]
  (settings.find? fun setting => setting.1.toList == name).map Prod.snd

def ofLetter? : Char → Option Setting
  | 'i' => some (value .input)
  | 'f' => some (value .format)
  | 'v' => some (flag .verbose)
  | 'q' => some (flag .quiet)
  | 'h' => some (flag .help)
  | _ => none

end Setting

structure Reading where
  arguments : Arguments
  /-- The options given so far, of those that may be given once. -/
  given : List Setting
  /-- The last option that takes a value, with that value if it is known. -/
  pending : Option (ValueOption × Option (List Char))
  onlyKeys : Bool

namespace Reading

def start : Reading := ⟨.default, [], none, false⟩

/-- Note that an option is given; most options may be given once. -/
def note (s : Reading) (setting : Setting) : Except UsageError Reading :=
  if s.given.contains setting then .error .repeatedOption
  else .ok { s with given := setting :: s.given }

def assign (s : Reading) (option : ValueOption) (value : List Char) :
    Except UsageError Reading := do
  let s ← s.note (.value option)
  let text := String.ofList value
  match option with
  | .input =>
    if value.isEmpty then .error .invalidValue
    else .ok { s with arguments := { s.arguments with input := some text } }
  | .inputFormat =>
    match DocumentFormat.ofName? text false with
    | some format => .ok { s with arguments := { s.arguments with inputFormat := some format } }
    | none => .error .invalidValue
  | .format =>
    match ReportFormat.ofName? text false with
    | some format => .ok { s with arguments := { s.arguments with format := format } }
    | none => .error .invalidValue

/-- Take over the value of the last option, which must have one by now. -/
def settle (s : Reading) : Except UsageError Reading :=
  match s.pending with
  | none => .ok s
  | some (_, none) => .error .invalidValue
  | some (option, some value) => { s with pending := none }.assign option value

def setFlag (s : Reading) (flag : Flag) : Except UsageError Reading := do
  let s ← s.settle
  match flag with
  | .help => .error .helpRequested
  | .verbose =>
    .ok { s with arguments := { s.arguments with verbose := min 255 (s.arguments.verbose + 1) } }
  | .symbolizeKeys => do
    let s ← s.note (.flag flag)
    .ok { s with arguments := { s.arguments with symbolizeKeys := true } }
  | .strict => do
    let s ← s.note (.flag flag)
    .ok { s with arguments := { s.arguments with strict := true } }
  | .quiet => do
    let s ← s.note (.flag flag)
    .ok { s with arguments := { s.arguments with quiet := true } }

/-- Give an option its attached value, or let it wait for the next word. -/
def setValue (s : Reading) (option : ValueOption) (attached : Option (List Char)) :
    Except UsageError Reading := do
  let s ← s.settle
  match attached with
  | some value => s.assign option value
  | none => .ok { s with pending := some (option, none) }

def addKey (s : Reading) (word : List Char) : Except UsageError Reading := do
  let s ← s.settle
  .ok { s with arguments := { s.arguments with keys := s.arguments.keys ++ [String.ofList word] } }

/-- A word that is no option: the value of an option that waits for one, or a key. -/
def plain (s : Reading) (word : List Char) : Except UsageError Reading :=
  match s.pending with
  | some (option, none) => .ok { s with pending := some (option, some word) }
  | _ => s.addKey word

def splitName (body : List Char) : List Char × Option (List Char) :=
  let name := body.takeWhile (· != '=')
  match body.drop name.length with
  | _ :: value => (name, some value)
  | [] => (name, none)

/-- A word after two dashes. -/
def long (s : Reading) (body : List Char) : Except UsageError Reading :=
  let (name, attached) := splitName body
  match Setting.ofName? name with
  | none => .error .unknownArgument
  | some (.value option) => s.setValue option attached
  | some (.flag flag) => if attached.isSome then .error .unexpectedValue else s.setFlag flag

/-- The letters after one dash; an option that takes a value takes the rest, less a leading equals
sign. -/
def letters (s : Reading) : List Char → Except UsageError Reading
  | [] => .ok s
  | c :: rest =>
    match Setting.ofLetter? c with
    | none => .error .unknownArgument
    | some (.flag flag) => do letters (← s.setFlag flag) rest
    | some (.value option) =>
      match rest with
      | [] => s.setValue option none
      | '=' :: value => s.setValue option (some value)
      | value => s.setValue option (some value)

/-- Whether a word looks like a number without sign: digits, then perhaps a point and more digits,
then perhaps an exponent after a letter of either case. -/
def looksLikeNumber (word : List Char) : Bool :=
  let mantissa := word.takeWhile fun c => c != 'e' && c != 'E'
  let exponent := word.drop mantissa.length
  let whole := mantissa.takeWhile Char.isDigit
  let fraction := mantissa.drop whole.length
  !whole.isEmpty &&
    (fraction.isEmpty || (fraction.head? == some '.' && fraction.tail.all Char.isDigit)) &&
    (exponent.isEmpty || (!exponent.tail.isEmpty && exponent.tail.all Char.isDigit))

def step (s : Reading) (word : List Char) : Except UsageError Reading :=
  if s.onlyKeys then s.addKey word
  else
    match word with
    | ['-', '-'] => .ok { s with onlyKeys := true }
    | '-' :: '-' :: body => s.long body
    | '-' :: c :: rest =>
      if looksLikeNumber (c :: rest) then s.plain word else s.letters (c :: rest)
    | word => s.plain word

def run (s : Reading) : List (List Char) → Except UsageError Reading
  | [] => .ok s
  | word :: rest =>
    match s.step word with
    | .ok s => s.run rest
    | .error e => .error e

/-- The arguments after the last word; at least one key is needed. -/
def finish (s : Reading) : Except UsageError Arguments := do
  let s ← s.settle
  if s.arguments.keys.isEmpty then .error .missingKeys else .ok s.arguments

end Reading

namespace Arguments

def parse (words : List String) : Except UsageError Arguments :=
  (Reading.start.run (words.map String.toList)).bind Reading.finish

def keyPath (arguments : Arguments) : List Key := arguments.keys.map Key.parse

end Arguments

end KeyPath.Command
