import KeyPath.Json.Data
import KeyPath.Value.Inspect
/-!
# Values as JSON

The members of an object are named by the text of the keys and stand in ascending order of
names. Of several keys with one text the last in key order gives the member, so a symbol wins
over a string and a string over any other key. An object is the string of its inspect form.

A JSON writer is given a value as data, with the same texts for keys. What it makes of them is the
tree of the value.
-/

namespace KeyPath.Value

mutual

def toJson : Value → Json.Tree
  | nil => .null
  | bool b => .bool b
  | int i => .number (.integer i.toInt)
  | float x => .number (.float x)
  | str text => .string text
  | sym name => .string name
  | array items => .array (toJsonItems items)
  | hash entries => .object (Assoc.ofList (toJsonEntries entries))
  | wrapped id content => .string (inspect (wrapped id content))
  | custom object => .string (inspect (custom object))

def toJsonItems : List Value → List Json.Tree
  | [] => []
  | item :: rest => item.toJson :: toJsonItems rest

def toJsonEntries : List (Key × Value) → List (String × Json.Tree)
  | [] => []
  | (key, value) :: rest => (key.memberName, value.toJson) :: toJsonEntries rest

end

mutual

/-- A value as it is given to a JSON writer. -/
def toData : Value → Json.Data
  | nil => .unit
  | bool b => .bool b
  | int i => .int i
  | float x => .float x
  | str text => .str text
  | sym name => .str name
  | array items => .seq (toDataItems items)
  | hash entries =>
    .map ((Assoc.ofList (toDataEntries entries)).map fun entry => (.str entry.1, entry.2))
  | wrapped id content => .str (inspect (wrapped id content))
  | custom object => .str (inspect (custom object))

def toDataItems : List Value → List Json.Data
  | [] => []
  | item :: rest => item.toData :: toDataItems rest

def toDataEntries : List (Key × Value) → List (String × Json.Data)
  | [] => []
  | (key, value) :: rest => (key.memberName, value.toData) :: toDataEntries rest

end

end KeyPath.Value
