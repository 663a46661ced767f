import KeyPath.Assoc
import KeyPath.Key.Basic
import KeyPath.Number.Binary64
/-!
# Values

Values are scalars, arrays, hashes and objects. A hash holds its entries in ascending order of
keys. An object answers lookups by itself and has an identity: it is either a wrapped value or a
custom object, of which a value knows only the number and the name of its type.
-/

namespace KeyPath

structure ObjectRef where
  id : Nat
  typeName : String
  deriving DecidableEq, Repr, Inhabited

inductive Value where
  | nil
  | bool (b : Bool)
  | int (i : Int64)
  | float (x : Binary64)
  | str (text : String)
  | sym (name : String)
  | array (items : List Value)
  | hash (entries : List (Key × Value))
  | wrapped (id : Nat) (content : Value)
  | custom (object : ObjectRef)

namespace Value

instance : Inhabited Value := ⟨nil⟩

/-- The hash with the last value given for each key. -/
def ofEntries (entries : List (Key × Value)) : Value := hash (Assoc.ofList entries)

def isNil : Value → Bool
  | nil => true
  | _ => false

/-- The name of a value's class; a wrapped value has the class of its content. -/
def typeName : Value → String
  | nil => "NilClass"
  | bool true => "TrueClass"
  | bool false => "FalseClass"
  | int _ => "Integer"
  | float _ => "Float"
  | str _ => "String"
  | sym _ => "Symbol"
  | array _ => "Array"
  | hash _ => "Hash"
  | wrapped _ content => content.typeName
  | custom object => object.typeName

/-- A key as the value of the same kind and payload. -/
def ofKey : Key → Value
  | .nil => nil
  | .bool b => bool b
  | .int i => int i
  | .str text => str text
  | .sym name => sym name

@[simp] theorem isNil_iff {v : Value} : v.isNil = true ↔ v = nil := by
  cases v <;> simp [isNil]

end Value

end KeyPath
