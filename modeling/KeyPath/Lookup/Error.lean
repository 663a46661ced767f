import KeyPath.Key.Basic
/-!
# Why a lookup fails

A lookup fails when no key is given, when a key is left over for a value without entries, and
when a key that is no integer meets an array.
-/

namespace KeyPath

inductive DigError where
  | noKeys
  | notDiggable (typeName : String) (key : Key)
  | invalidIndex (key : Key)
  deriving DecidableEq, Repr, Inhabited

/-- The two classes of failure: a call without keys, and a value that does not take a key. -/
inductive DigError.Kind where
  | invalidCall
  | notDiggable
  deriving DecidableEq, Repr

namespace DigError

def kind : DigError → Kind
  | noKeys => .invalidCall
  | notDiggable _ _ => .notDiggable
  | invalidIndex _ => .notDiggable

def message : DigError → String
  | noKeys => "wrong number of arguments (given 0, expected 1+)"
  | notDiggable typeName _ => typeName ++ " does not have #dig method"
  | invalidIndex key => "no implicit conversion of " ++ key.typeName ++ " into Integer"

end DigError

end KeyPath
