import KeyPath.Text.Alphanumeric
import KeyPath.Text.Case
import KeyPath.Text.Numeral
import KeyPath.Text.Space
import KeyPath.Text.Split
/-!
# Log events and filters

An event has a level, a target, which names the part of the program that it comes from, and a
message with fields. A filter is a list of directives: of those whose target begins the target of an
event the most specific one decides which levels are shown.
-/

namespace KeyPath.Command

inductive Level where
  | error
  | warn
  | info
  | debug
  | trace
  deriving DecidableEq, Repr, Inhabited

namespace Level

/-- How much is shown up to a level; nothing at all is less than any level. -/
def rank : Level → Nat
  | error => 1
  | warn => 2
  | info => 3
  | debug => 4
  | trace => 5

def name : Level → String
  | error => "ERROR"
  | warn => "WARN"
  | info => "INFO"
  | debug => "DEBUG"
  | trace => "TRACE"

end Level

/-- The level up to which events are shown, if any are. -/
abbrev Threshold := Option Level

namespace Threshold

def rank (threshold : Threshold) : Nat := threshold.elim 0 Level.rank

def ofRank? : Nat → Option Threshold
  | 0 => some none
  | 1 => some (some .error)
  | 2 => some (some .warn)
  | 3 => some (some .info)
  | 4 => some (some .debug)
  | 5 => some (some .trace)
  | _ => none

/-- The rank that digits denote, perhaps after a plus sign. -/
def readRank? : List Char → Option Nat
  | '+' :: digits => Text.Numeral.natural? digits
  | digits => Text.Numeral.natural? digits

/-- The threshold of a given name; case does not count. -/
def ofName? (name : String) : Option Threshold :=
  if Text.sameName true "off" name then some none
  else
    let levels : List Level := [.error, .warn, .info, .debug, .trace]
    (levels.find? fun level => Text.sameName true level.name name).map some

def ofChars? (text : List Char) : Option Threshold :=
  match (readRank? text).bind ofRank? with
  | some threshold => some threshold
  | none => ofName? (String.ofList text)

end Threshold

structure Event where
  level : Level
  /-- The part of the program that the event comes from. -/
  target : String
  message : String
  /-- What the event is about, each text under a name. -/
  fields : List (String × String)
  deriving DecidableEq, Repr, Inhabited

namespace Event

/-- Whether a terminal may take a character for a command. -/
def steersTerminal (c : Char) : Bool :=
  ['\x07', '\x08', '\x0c', '\x1b'].contains c || (0x7f ≤ c.toNat && c.toNat ≤ 0x9f)

/-- Write a character of a message; one that steers a terminal is written by its code point. -/
def escape (c : Char) : List Char :=
  if !steersTerminal c then [c]
  else if c.toNat < 0x10 then ['\\', 'x', '0'] ++ Nat.toDigits 16 c.toNat
  else if c.toNat < 0x80 then ['\\', 'x'] ++ Nat.toDigits 16 c.toNat
  else ['\\', 'u', '\x7b'] ++ Nat.toDigits 16 c.toNat ++ ['\x7d']

/-- The line that shows an event. Fields are shown as they are. -/
def line (event : Event) : String :=
  let message := String.ofList (event.message.toList.flatMap escape)
  " ".intercalate ([event.level.name, message] ++
    event.fields.map fun (name, text) => name ++ "=" ++ text)

end Event

/-- The events of a target that a directive is about. -/
inductive Scope where
  | everything
  | field (name : String)
  /-- The events within some span of time. No event of the program lies in one. -/
  | span
  deriving DecidableEq, Repr, Inhabited

/-- A threshold for events of the targets that begin in a given way. -/
structure LogDirective where
  target : String
  scope : Scope
  threshold : Threshold
  deriving DecidableEq, Repr, Inhabited

abbrev LogFilter := List LogDirective

namespace LogDirective

/-- Whether an event is in a scope. The message is a field, too. -/
def covers (scope : Scope) (event : Event) : Bool :=
  match scope with
  | .everything => true
  | .field name => name == "message" || event.fields.any fun field => field.1 == name
  | .span => false

def applies (directive : LogDirective) (event : Event) : Bool :=
  directive.target.toList.isPrefixOf event.target.toList && covers directive.scope event

/-- Whether a first directive is more specific than a second one that applies to the same event: its
target is longer or, with the same target, it alone asks for a field or for the later name. -/
def isMoreSpecific (a b : LogDirective) : Bool :=
  if a.target.length ≠ b.target.length then b.target.length < a.target.length
  else
    match a.scope, b.scope with
    | .field name, .field other => other < name
    | .field _, _ => true
    | _, _ => false

/-- The more specific of two directives, and the later one of two that are alike. -/
def moreSpecific (best : Option LogDirective) (directive : LogDirective) : Option LogDirective :=
  match best with
  | none => some directive
  | some earlier => if earlier.isMoreSpecific directive then some earlier else some directive

def beginsTarget (c : Char) : Bool :=
  Text.isAlphanumeric c || c == '_' || c == '-' || c == ':'

/-- Read a scope in brackets from its opening bracket, and what follows it: the name of a span, a
field in braces, or both. A field with a value is one of a span. -/
def readScope? (text : List Char) : Option (Scope × List Char) :=
  let name := text.tail.takeWhile fun c => c != ']' && c != '\x7b'
  match text.tail.drop name.length with
  | ']' :: rest => some (.span, rest)
  | '\x7b' :: rest =>
    let field := rest.takeWhile (· != '\x7d')
    match rest.drop field.length with
    | '\x7d' :: ']' :: rest =>
      if field.isEmpty then none
      else if name.isEmpty && !field.contains '=' then
        some (.field (String.ofList field), rest)
      else some (.span, rest)
    | _ => none
  | _ => none

/-- Read the threshold after a target or a scope: everything is shown if there is none. Behind
blanks an equals sign is refused. -/
def readThreshold? (indented : Bool) (text : List Char) : Option Threshold :=
  match text with
  | [] => some (some .trace)
  | '=' :: level =>
    if indented then none else if level.isEmpty then some (some .trace)
    else Threshold.ofChars? level
  | _ => none

/-- Read a directive after the blanks in front of it, if there are any: a threshold alone, or a
target, a scope or both, perhaps with an equals sign and a threshold. -/
def read? (indented : Bool) (text : List Char) : Option LogDirective :=
  let target := text.takeWhile fun c => c != '=' && c != '['
  match text.drop target.length with
  | [] =>
    match Threshold.ofChars? target with
    | some threshold => some ⟨"", .everything, threshold⟩
    | none => some ⟨String.ofList target, .everything, some .trace⟩
  | '[' :: rest => do
    let (scope, rest) ← readScope? ('[' :: rest)
    return ⟨String.ofList target, scope, ← readThreshold? indented rest⟩
  | rest => do return ⟨String.ofList target, .everything, ← readThreshold? indented rest⟩

/-- Read a directive. Blanks after a closing bracket do not count; elsewhere blanks are part of what
is next to them, so that with blanks in front no event is meant. -/
def ofChars? (text : List Char) : Option LogDirective := do
  let trimmed := Text.trim text
  let indented := text.head?.any Text.isSpace
  if !trimmed.head?.any fun c => c == '[' || beginsTarget c then none
  else if trimmed.getLast? = some ']' then outside indented (← read? indented trimmed)
  else outside indented (← read? indented (text.dropWhile Text.isSpace))
where
  /-- The directive itself, or one that applies to no event. -/
  outside (indented : Bool) (directive : LogDirective) : LogDirective :=
    if indented then { directive with scope := .span } else directive

end LogDirective

namespace LogFilter

def threshold (filter : LogFilter) (event : Event) : Threshold :=
  ((filter.filter (·.applies event)).foldl LogDirective.moreSpecific none).elim none
    LogDirective.threshold

def shows (filter : LogFilter) (event : Event) : Bool :=
  event.level.rank ≤ (filter.threshold event).rank

/-- Read directives with commas between them. Without any, only errors are shown. -/
def ofText? (text : String) : Option LogFilter := do
  let parts := (Text.splitAt ',' text.toList).filter (· ≠ [])
  let directives ← parts.mapM fun part => LogDirective.ofChars? part
  if directives.isEmpty then return [⟨"", .everything, some .error⟩] else return directives

end LogFilter

end KeyPath.Command
