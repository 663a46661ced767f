import KeyPath.Number.Basic
import KeyPath.Value.Basic
/-!
# How documents become values

Names of members become string keys or, if wanted, symbol keys. Integers of 64 bits stay
integers; larger ones are rounded to floating point numbers.
-/

namespace KeyPath

structure LoadOptions where
  /-- Whether string keys are loaded as symbols. -/
  symbolizeKeys : Bool
  deriving DecidableEq, Repr, Inhabited

def LoadOptions.keyOfName (options : LoadOptions) (name : String) : Key :=
  if options.symbolizeKeys then .sym name else .str name

def Number.toValue : Number → Value
  | integer n =>
    match Text.Numeral.toInt64? n with
    | some i => .int i
    | none => .float (.ofInt n)
  | float x => .float x

end KeyPath
