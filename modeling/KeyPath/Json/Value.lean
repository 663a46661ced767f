import KeyPath.Document.Options
import KeyPath.Json.Basic
/-!
# JSON trees as values

Of members with one name the last counts.
-/

namespace KeyPath.Json.Tree

mutual

def toValue (options : LoadOptions) : Tree → Value
  | null => .nil
  | bool b => .bool b
  | number n => n.toValue
  | string text => .str text
  | array items => .array (toValueItems options items)
  | object members => .hash (Assoc.ofList (toValueMembers options members))

def toValueItems (options : LoadOptions) : List Tree → List Value
  | [] => []
  | item :: rest => item.toValue options :: toValueItems options rest

def toValueMembers (options : LoadOptions) : List (String × Tree) → List (Key × Value)
  | [] => []
  | (name, value) :: rest =>
    (options.keyOfName name, value.toValue options) :: toValueMembers options rest

end

end KeyPath.Json.Tree
