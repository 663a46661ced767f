import KeyPath.Document.Path
/-!
# Files

A path names a file, a directory, or nothing; what is there and is no file counts as a directory. A
file is read as bytes, if it can be read at all. A snapshot of a working directory answers for the
paths below it.
-/

namespace KeyPath

/-- What comes of reading a file to its end: its bytes, or the cause of a failure. -/
inductive Content where
  | bytes (bytes : ByteArray)
  | unreadable (cause : String)
  deriving Inhabited

instance : Coe ByteArray Content := ⟨.bytes⟩

inductive PathStatus where
  | missing
  | directory
  | file (content : Content)
  deriving Inhabited

abbrev Files := String → PathStatus

/-- The files and directories below a working directory, by the parts of their paths; a file has
its content. -/
structure Snapshot where
  entries : List (List (List Char) × Option ByteArray)

namespace Snapshot

def empty : Snapshot := ⟨[]⟩

/-- Put a file of given content, or a directory, where parts lead from a place. A directory that
two dots lead back from is made as well. -/
def addFrom (snapshot : Snapshot) (content : Option ByteArray) (place : List (List Char)) :
    List (List Char) → Snapshot
  | [] => ⟨(place, content) :: snapshot.entries⟩
  | part :: rest =>
    if part = Path.parent then
      addFrom ⟨(place, none) :: snapshot.entries⟩ content place.dropLast rest
    else addFrom snapshot content (place ++ [part]) rest

/-- Put a file of given content, or a directory, at a path. -/
def add (snapshot : Snapshot) (path : String) (content : Option ByteArray) : Snapshot :=
  snapshot.addFrom content [] (Path.parts path)

/-- What lies at a place below the working directory. Directories on the way to an entry exist
as well. -/
def at? (snapshot : Snapshot) (place : List (List Char)) : PathStatus :=
  match snapshot.entries.lookup place with
  | some (some bytes) => .file bytes
  | some none => .directory
  | none =>
    if place.isEmpty ∨ snapshot.entries.any fun entry => place.isPrefixOf entry.1 then .directory
    else .missing

/-- Follow parts from a place: each place left must be a directory, and two dots lead back. From
the working directory itself two dots lead outside, where all is missing but the way up. -/
def resolve (snapshot : Snapshot) (place : List (List Char)) :
    List (List Char) → PathStatus
  | [] => snapshot.at? place
  | part :: rest =>
    match snapshot.at? place with
    | .directory =>
      if part = Path.parent then
        if place.isEmpty then
          if rest.all (· = Path.parent) then .directory else .missing
        else resolve snapshot place.dropLast rest
      else resolve snapshot (place ++ [part]) rest
    | _ => .missing

/-- Whether a path ends in a slash or in a slash and a dot, so that it names a directory. -/
def namesDirectory (path : String) : Bool :=
  match path.toList.reverse with
  | '/' :: _ => true
  | '.' :: '/' :: _ => true
  | _ => false

/-- What a path names. No absolute path but the root is known, from which two dots do not lead
away. -/
def status (snapshot : Snapshot) : Files := fun path =>
  if path.isEmpty then .missing
  else if path.startsWith "/" then
    if (Path.parts path).all (· = Path.parent) then .directory else .missing
  else
    match snapshot.resolve [] (Path.parts path) with
    | .file content => if namesDirectory path then .missing else .file content
    | other => other

end Snapshot

end KeyPath
