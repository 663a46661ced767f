import KeyPath.Number.Basic
/-!
# JSON trees

The members of an object are kept in the order of the text, duplicates included; what a
duplicate means is decided where the tree is used.
-/

namespace KeyPath.Json

inductive Tree where
  | null
  | bool (b : Bool)
  | number (n : Number)
  | string (text : String)
  | array (items : List Tree)
  | object (members : List (String × Tree))

instance : Inhabited Tree := ⟨.null⟩

end KeyPath.Json
