import KeyPath.Document.Format
/-!
# Why a document cannot be loaded

The file may be missing or unreadable, its bytes may be no text, and the text may be no document.
-/

namespace KeyPath

inductive DocumentError where
  | fileNotFound (path : String)
  | readError (source cause : String)
  | parseError (source format detail : String)
  deriving DecidableEq, Repr, Inhabited

namespace DocumentError

def message : DocumentError → String
  | fileNotFound path => "file not found: " ++ path
  | readError source cause => "failed to read '" ++ source ++ "': " ++ cause
  | parseError source format detail =>
    "failed to parse " ++ format ++ " from '" ++ source ++ "': " ++ detail

/-- What reading reports of bytes that are no text. -/
def notText : String := "stream did not contain valid UTF-8"

end DocumentError

end KeyPath
