import KeyPath.Document.Path
import KeyPath.Text.Case
/-!
# Formats of documents

A document is JSON or YAML text. The extension of a file name tells which.
-/

namespace KeyPath

inductive DocumentFormat where
  | json
  | yaml
  deriving DecidableEq, Repr, Inhabited

namespace DocumentFormat

def name : DocumentFormat → String
  | json => "json"
  | yaml => "yaml"

def ofName? (name : String) (ignoreCase : Bool) : Option DocumentFormat :=
  [json, yaml].find? fun format => Text.sameName ignoreCase format.name name

def ofPath? (path : String) : Option DocumentFormat :=
  match (Path.fileName? path).bind Path.extension? with
  | some ['j', 's', 'o', 'n'] => some json
  | some ['y', 'a', 'm', 'l'] => some yaml
  | some ['y', 'm', 'l'] => some yaml
  | _ => none

end DocumentFormat

end KeyPath
