import KeyPath.Command.Log
/-!
# Verbosity

The flags of the command line choose how much is logged. A filter given from outside replaces
the choice, if it can be read.
-/

namespace KeyPath.Command

inductive Verbosity where
  | quiet
  | normal
  | verbose
  | debug
  | trace
  deriving DecidableEq, Repr, Inhabited

namespace Verbosity

/-- Quiet wins; otherwise each step of verbosity shows more. -/
def ofFlags (steps : Nat) (silent : Bool) : Verbosity :=
  if silent then quiet
  else
    match steps with
    | 0 => normal
    | 1 => verbose
    | 2 => debug
    | _ => trace

def level : Verbosity → Level
  | quiet => .error
  | normal => .warn
  | verbose => .info
  | debug => .debug
  | trace => .trace

instance : Ord Verbosity := ⟨fun a b => compare a.level.rank b.level.rank⟩

/-- The beginning of the targets of all events that are not those of the command itself. -/
def libraryTarget : String := "nested_dig"

def loadTarget : String := libraryTarget ++ "::document::loader"

def digTarget : String := libraryTarget ++ "::cli"

def commandTarget : String := "dig"

def filter (verbosity : Verbosity) : LogFilter :=
  [⟨libraryTarget, .everything, some verbosity.level⟩,
    ⟨commandTarget, .everything, some verbosity.level⟩]

/-- The filter in force: one given from outside, if it can be read. -/
def filterWith (verbosity : Verbosity) (given : Option String) : LogFilter :=
  (given.bind LogFilter.ofText?).getD verbosity.filter

end Verbosity

end KeyPath.Command
