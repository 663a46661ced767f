import KeyPath.Yaml.Anchor
import KeyPath.Yaml.Lexer
import KeyPath.Yaml.Schema
/-!
# Reading YAML text

References are replaced by copies of what they mean. Collections may be nested 128 deep, copies
included, and the number of copies is limited by the size of the text, so that a reference to
itself or a cascade of references is an error.
-/

namespace KeyPath.Yaml

/-- Building a tree counts the copies made so far. -/
abbrev Build := StateT Nat Option

/-- Build a tree, the parts of collections with `build?`, if collections may be nested here. -/
def buildWith (document : Anchored) (copyLimit : Nat)
    (build? : Option (Node.Numbered → Build Tree)) (node : Node.Numbered) : Build Tree :=
  match node with
  | .reference number => do
    modify (· + 1)
    if copyLimit < (← get) then failure
    else
      match document.targets.lookup number with
      | some target => written target
      | none => failure
  | node => written node
where
  written (node : Node.Numbered) : Build Tree :=
    match node, build? with
    | .scalar properties text plain, _ => StateT.lift (Schema.scalar? properties.tag text plain)
    | .sequence properties items, some build => do
      return Schema.collection properties.tag (.sequence (← items.mapM build))
    | .mapping properties entries, some build => do
      let entries ← entries.mapM fun (key, value) => do return (← build key, ← build value)
      if Tree.distinctKeys entries then
        return Schema.collection properties.tag (.mapping entries)
      else failure
    | _, _ => failure

/-- Build a tree in which collections may be nested a given number of times. -/
def build (document : Anchored) (copyLimit : Nat) : Nat → Node.Numbered → Build Tree
  | 0 => buildWith document copyLimit none
  | levels + 1 => buildWith document copyLimit (some (build document copyLimit levels))

def maxDepth : Nat := 128

/-- The number of copies that may be made for each mark of a document. -/
def copiesPerMark : Nat := 100

/-- Read a text that holds one document, unless it is malformed. -/
def Tree.ofChars? (text : List Char) : Option Tree := do
  let tokens ← Token.ofChars? text
  let document ← Anchored.ofNode? (← Node.ofTokens? tokens)
  (build document (copiesPerMark * document.root.markCount) maxDepth document.root).run' 0

/-- The words in which a reader refuses a text. They are the reader's own: they are reported as they
are, and nothing depends on them. -/
class Wording where
  refusal : String → String

/-- A reader that does not say what is wrong. -/
instance (priority := low) Wording.none : Wording := ⟨fun _ => ""⟩

end KeyPath.Yaml
