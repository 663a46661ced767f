import KeyPath.Command.Arguments
import KeyPath.Command.Verbosity
import KeyPath.Document.Basic
import KeyPath.Object.Registry
/-!
# A run of the command

A run reads the arguments, checks that the input names a file, loads the document, follows the
key path and prints what it finds. It is one function of the arguments, the files, standard
input and the log filter given from outside.
-/

namespace KeyPath.Command

/-- What a run reads besides its arguments. -/
structure World where
  files : Files
  stdin : Content
  /-- A log filter given from outside. -/
  logFilter : Option String

/-- What is wrong with the input that the arguments name. -/
inductive InputError where
  | missing (path : String)
  | notFile (path : String)
  deriving DecidableEq, Repr

def InputError.message : InputError → String
  | missing path => "Input file does not exist: " ++ path
  | notFile path => "Input is not a file: " ++ path

inductive Failure where
  | document (error : DocumentError)
  | dig (error : DigError)
  deriving DecidableEq, Repr

namespace Failure

/-- The chain of reasons, the innermost last. -/
def causes : Failure → List String
  | document (.readError source cause) => [(DocumentError.readError source cause).message, cause]
  | document error => [error.message]
  | dig error => [error.message]

end Failure

/-- Follow a key path in a document, which holds no objects that answer by themselves. -/
def digDocument (root : Value) (keys : List Key) : DigResult :=
  Id.run (dig (fun object keys => pure (Registry.refuse object.typeName keys)) root keys)

namespace Arguments

def verbosity (arguments : Arguments) : Verbosity :=
  .ofFlags arguments.verbose arguments.quiet

def path (arguments : Arguments) : String := Key.describePath arguments.keyPath

/-- Check that the input, if one is named, is a file. -/
def validate (arguments : Arguments) (files : Files) : Except InputError Unit :=
  match arguments.input with
  | none => .ok ()
  | some path =>
    match files path with
    | .missing => .error (.missing path)
    | .directory => .error (.notFile path)
    | .file _ => .ok ()

/-- Load the document from the input file, or from standard input, which is JSON unless a format
is asked for. -/
def load [Yaml.Wording] (arguments : Arguments) (world : World) : Except DocumentError Document :=
  let options : LoadOptions := ⟨arguments.symbolizeKeys⟩
  match arguments.input with
  | some path => Document.load world.files arguments.inputFormat options path
  | none =>
    Document.ofContent (arguments.inputFormat.getD .json) options Document.stdinName world.stdin

def documentFormat (arguments : Arguments) : DocumentFormat :=
  match arguments.input with
  | some path => Document.fileFormat arguments.inputFormat path
  | none => arguments.inputFormat.getD .json

/-- The events of loading a document and starting the key walk. -/
def loadEvents (arguments : Arguments) (document : Document) : List Event :=
  let quote (text : String) := String.ofList (Text.Quoted.encode text.toList)
  [⟨.debug, Verbosity.loadTarget, "parsed document",
      [("source", document.source), ("format", quote arguments.documentFormat.name)]⟩,
    ⟨.debug, Verbosity.digTarget, "digging",
      [("source", quote document.source), ("keys", arguments.path)]⟩]

def absentEvent (arguments : Arguments) : Event :=
  ⟨.info, Verbosity.commandTarget, "nothing found at [" ++ arguments.path ++ "]", []⟩

/-- Load the document and follow the key path, with the events on the way. -/
def lookup [Yaml.Wording] (arguments : Arguments) (world : World) :
    List Event × Except Failure Lookup :=
  match arguments.load world with
  | .error e => ([], .error (.document e))
  | .ok document =>
    (arguments.loadEvents document,
      match digDocument document.root arguments.keyPath with
      | .ok lookup => .ok lookup
      | .error e => .error (.dig e))

end Arguments

/-- A failed run says what could not be done, and why. -/
structure ErrorReport where
  context : String
  causes : List String
  deriving DecidableEq, Repr

namespace ErrorReport

/-- A cause with all its lines indented. -/
def indent (first others cause : String) : String :=
  let indented := cause.toList.flatMap fun c => if c = '\n' then c :: others.toList else [c]
  first ++ String.ofList indented

/-- Several causes are numbered, a single one is not. -/
def causeLines (causes : List String) : List String :=
  match causes with
  | [cause] => [indent "    " "    " cause]
  | causes =>
    causes.zipIdx.map fun (cause, i) => indent ("    " ++ toString i ++ ": ") "       " cause

def text (report : ErrorReport) : String :=
  let lines := ("Error: " ++ report.context) ::
    if report.causes.isEmpty then []
    else "" :: "Caused by:" :: causeLines report.causes
  "\n".intercalate lines

end ErrorReport

/-- What a run leaves behind: events in the order in which they came, and either the text for
standard output or the report of what failed. -/
structure Outcome where
  events : List Event
  result : Except ErrorReport String

/-- What a run with accepted arguments leaves behind. -/
def Arguments.outcome [Yaml.Wording] (arguments : Arguments) (world : World) : Outcome :=
  match arguments.validate world.files with
  | .error e => ⟨[], .error ⟨"Invalid arguments", [e.message]⟩⟩
  | .ok () =>
    match arguments.lookup world with
    | (events, .error e) =>
      ⟨events, .error ⟨"Failed to dig [" ++ arguments.path ++ "]", e.causes⟩⟩
    | (events, .ok lookup) =>
      let events := if lookup.isAbsent then events ++ [arguments.absentEvent] else events
      if lookup.isAbsent && arguments.strict then
        ⟨events, .error ⟨"Path not found: [" ++ arguments.path ++ "]", []⟩⟩
      else
        match lookup.write arguments.format with
        | .ok text => ⟨events, .ok (text ++ "\n")⟩
        | .error e => ⟨events, .error ⟨e.message, []⟩⟩

/-- What the caller of the command sees. -/
structure Response where
  exitCode : Nat
  stdout : String
  log : List String
  failure : Option String
  deriving DecidableEq, Repr

/-- What the caller sees of a run with accepted arguments. -/
def Arguments.respond [Yaml.Wording] (arguments : Arguments) (world : World) : Response :=
  let outcome := arguments.outcome world
  let filter := arguments.verbosity.filterWith world.logFilter
  let log := (outcome.events.filter filter.shows).map Event.line
  match outcome.result with
  | .ok text => ⟨0, text, log, none⟩
  | .error e => ⟨1, "", log, some e.text⟩

/-- The exit code of a command line that is refused or asks for help. -/
def UsageError.exitCode : UsageError → Nat
  | helpRequested => 0
  | _ => 2

def run [Yaml.Wording] (words : List String) (world : World) : Except UsageError Response :=
  (Arguments.parse words).map (·.respond world)

end KeyPath.Command
