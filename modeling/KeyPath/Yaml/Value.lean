import KeyPath.Document.Options
import KeyPath.Value.Inspect
import KeyPath.Yaml.Tree
/-!
# YAML trees as values

Tags are dropped. Keys keep the type of a scalar; a key for which there is no such type becomes a
string of its inspect form. Of entries whose keys become the same the last counts.
-/

namespace KeyPath

def LoadOptions.keyOfValue (options : LoadOptions) : Value → Key
  | .nil => .nil
  | .bool b => .bool b
  | .int i => .int i
  | .str text => options.keyOfName text
  | .sym name => .sym name
  | value => .str value.inspect

namespace Yaml.Tree

mutual

def toValue (options : LoadOptions) : Tree → Value
  | null => .nil
  | bool b => .bool b
  | number n => n.toValue
  | string text => .str text
  | sequence items => .array (toValueItems options items)
  | mapping entries => .hash (Assoc.ofList (toValueEntries options entries))
  | tagged _ value => value.toValue options

def toValueItems (options : LoadOptions) : List Tree → List Value
  | [] => []
  | item :: rest => item.toValue options :: toValueItems options rest

def toValueEntries (options : LoadOptions) : List (Tree × Tree) → List (Key × Value)
  | [] => []
  | (key, value) :: rest =>
    (options.keyOfValue (key.toValue options), value.toValue options) ::
      toValueEntries options rest

end

end Yaml.Tree

end KeyPath
