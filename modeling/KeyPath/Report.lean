import KeyPath.Json.Printer
import KeyPath.Lookup.Basic
import KeyPath.Text.Case
import KeyPath.Value.Json
/-!
# Reports of outcomes

The outcome of a lookup is reported as pretty JSON or in inspect form. A JSON writer may fail on
what it is given, but it is never given a value of which that is true. Absence reads like nil.
-/

namespace KeyPath

namespace Value

def jsonText (value : Value) : String := String.ofList value.toJson.compact

def prettyJsonText (value : Value) : String := String.ofList (value.toJson.pretty 0)

end Value

inductive ReportFormat where
  | json
  | inspect
  deriving DecidableEq, Repr, Inhabited

namespace ReportFormat

def name : ReportFormat → String
  | json => "json"
  | inspect => "inspect"

def ofName? (name : String) (ignoreCase : Bool) : Option ReportFormat :=
  [json, inspect].find? fun format => Text.sameName ignoreCase format.name name

end ReportFormat

/-- Write what a lookup finds. -/
def Lookup.write (lookup : Lookup) : ReportFormat → Except Json.WriteError String
  | .json => do
    let tree ← lookup.valueOrNil.toData.toTree?
    return String.ofList (tree.pretty 0)
  | .inspect => .ok lookup.valueOrNil.inspect

/-- The text that is written. -/
def report (lookup : Lookup) : ReportFormat → String
  | .json => lookup.valueOrNil.prettyJsonText
  | .inspect => lookup.valueOrNil.inspect

end KeyPath
