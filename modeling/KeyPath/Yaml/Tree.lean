import KeyPath.Number.Basic
/-!
# YAML trees

The keys of a mapping are trees. Within one mapping no two keys may be the same: numbers compare
by value within their kind, a NaN being the same as itself, and mappings compare without regard
to the order of entries.
-/

namespace KeyPath.Yaml

inductive Tree where
  | null
  | bool (b : Bool)
  | number (n : Number)
  | string (text : String)
  | sequence (items : List Tree)
  | mapping (entries : List (Tree × Tree))
  | tagged (tag : String) (value : Tree)

namespace Tree

instance : Inhabited Tree := ⟨null⟩

def sameNumber : Number → Number → Bool
  | .integer a, .integer b => a == b
  | .float .nan, .float .nan => true
  | .float a, .float b => a.beq b
  | _, _ => false

mutual

def same : Tree → Tree → Bool
  | null, null => true
  | bool a, bool b => a == b
  | number a, number b => sameNumber a b
  | string a, string b => a == b
  | sequence a, sequence b => sameItems a b
  | mapping a, mapping b => a.length == b.length && sameEntries a b
  | tagged s a, tagged t b => s == t && a.same b
  | _, _ => false

def sameItems : List Tree → List Tree → Bool
  | [], [] => true
  | a :: as, b :: bs => a.same b && sameItems as bs
  | _, _ => false

/-- Whether each entry of one mapping is among those of another. -/
def sameEntries : List (Tree × Tree) → List (Tree × Tree) → Bool
  | [], _ => true
  | (key, value) :: rest, entries =>
    (entries.any fun entry => key.same entry.1 && value.same entry.2) && sameEntries rest entries

end

/-- Whether no two keys among some entries are the same. -/
def distinctKeys : List (Tree × Tree) → Bool
  | [] => true
  | (key, _) :: rest => !(rest.any fun entry => key.same entry.1) && distinctKeys rest

end Tree

end KeyPath.Yaml
