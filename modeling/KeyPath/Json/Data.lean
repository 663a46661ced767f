import KeyPath.Json.Basic
import KeyPath.Number.Text
/-!
# Data for a JSON writer

A JSON writer is given data piece by piece, and the key of a map may be any data. It stands as a
string in the text, so only what has such a form can be a key: a text, a boolean, an integer or a
finite number. With any other key the writer fails.
-/

namespace KeyPath.Json

inductive Data where
  | unit
  | bool (b : Bool)
  | int (i : Int64)
  | float (x : Binary64)
  | str (text : String)
  | seq (items : List Data)
  | map (entries : List (Data × Data))

inductive WriteError where
  | keyNotString
  | keyNotFinite
  deriving DecidableEq, Repr

def WriteError.message : WriteError → String
  | keyNotString => "key must be a string"
  | keyNotFinite => "float key must be finite (got NaN or +/-inf)"

namespace Data

/-- The name that a key of a map is written as. -/
def memberName? : Data → Except WriteError String
  | str text => .ok text
  | bool b => .ok (if b then "true" else "false")
  | int i => .ok (String.ofList (Text.Numeral.writeInt i.toInt))
  | float x =>
    if x.isFinite then .ok (String.ofList (FloatFormat.json.write x)) else .error .keyNotFinite
  | unit | seq _ | map _ => .error .keyNotString

mutual

/-- The tree of which a writer writes the text. -/
def toTree? : Data → Except WriteError Tree
  | unit => .ok .null
  | bool b => .ok (.bool b)
  | int i => .ok (.number (.integer i.toInt))
  | float x => .ok (.number (.float x))
  | str text => .ok (.string text)
  | seq items => do return .array (← toItems? items)
  | map entries => do return .object (← toMembers? entries)

def toItems? : List Data → Except WriteError (List Tree)
  | [] => .ok []
  | item :: rest => do return (← item.toTree?) :: (← toItems? rest)

def toMembers? : List (Data × Data) → Except WriteError (List (String × Tree))
  | [] => .ok []
  | (key, value) :: rest => do
    return (← key.memberName?, ← value.toTree?) :: (← toMembers? rest)

end

end Data

end KeyPath.Json
