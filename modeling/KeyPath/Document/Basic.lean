import KeyPath.Document.Error
import KeyPath.Document.Files
import KeyPath.Json.Reader
import KeyPath.Json.Value
import KeyPath.Yaml.Reader
import KeyPath.Yaml.Value
/-!
# Documents

A document is a value with the name of the place that it was read from. It is read from text,
from bytes or from a file; a file's format is the one asked for, or the one that its name tells,
or JSON.
-/

namespace KeyPath

structure Document where
  root : Value
  source : String

namespace Document

/-- The name of text that has no place of its own. -/
def stringName : String := "<string>"

def stdinName : String := "<stdin>"

/-- The format of a file: the one asked for, or the one that its name tells, or JSON. -/
def fileFormat (format : Option DocumentFormat) (path : String) : DocumentFormat :=
  (format.or (DocumentFormat.ofPath? path)).getD .json

variable [Yaml.Wording]

/-- The value that a text of some format holds, or what is wrong with the text. -/
def parseText (format : DocumentFormat) (options : LoadOptions) (text : String) :
    Except String Value :=
  match format with
  | .json =>
    match Json.Tree.ofChars text.toList with
    | .ok tree => .ok (tree.toValue options)
    | .error fault => .error (fault.message text.toList)
  | .yaml =>
    match Yaml.Tree.ofChars? text.toList with
    | some tree => .ok (tree.toValue options)
    | none => .error (Yaml.Wording.refusal text)

def ofText (format : DocumentFormat) (options : LoadOptions) (source text : String) :
    Except DocumentError Document :=
  match parseText format options text with
  | .ok root => .ok ⟨root, source⟩
  | .error detail => .error (.parseError source format.name detail)

/-- Read a document from bytes, which have to be text. -/
def ofBytes (format : DocumentFormat) (options : LoadOptions) (source : String)
    (bytes : ByteArray) : Except DocumentError Document :=
  match String.fromUTF8? bytes with
  | some text => ofText format options source text
  | none => .error (.readError source DocumentError.notText)

/-- Read a document from a file or from standard input. -/
def ofContent (format : DocumentFormat) (options : LoadOptions) (source : String) :
    Content → Except DocumentError Document
  | .bytes bytes => ofBytes format options source bytes
  | .unreadable cause => .error (.readError source cause)

def load (files : Files) (format : Option DocumentFormat) (options : LoadOptions)
    (path : String) : Except DocumentError Document :=
  match files path with
  | .file content => ofContent (fileFormat format path) options path content
  | _ => .error (.fileNotFound path)

end Document

end KeyPath
