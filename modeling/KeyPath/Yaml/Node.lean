import KeyPath.Yaml.Token
/-!
# Nodes

Nodes are scalars and collections with their tags and anchors, and references to anchors. They
are built from tokens; a missing key or value is an empty plain scalar.
-/

namespace KeyPath.Yaml

structure Properties where
  anchor : Option (List Char)
  tag : Option TagBytes
  deriving DecidableEq, Repr, Inhabited

/-- Nodes that refer to anchors by names of a given type. -/
inductive Node (ρ : Type) where
  | reference (target : ρ)
  | scalar (properties : Properties) (text : List Char) (plain : Bool)
  | sequence (properties : Properties) (items : List (Node ρ))
  | mapping (properties : Properties) (entries : List (Node ρ × Node ρ))

namespace Node

abbrev Written := Node (List Char)

abbrev WrittenEntries := List (Written × Written)

instance : Inhabited Written := ⟨scalar default [] true⟩

/-- The node that stands where nothing is written. -/
def empty : Written := scalar ⟨none, none⟩ [] true

/-- The beginnings of tags that handles stand for. -/
abbrev Handles := List (List Char × TagBytes)

def standardHandles : Handles :=
  [(['!'], Text.asciiBytes ['!']),
    (['!', '!'], Text.asciiBytes "tag:yaml.org,2002:".toList)]

def fullTag? (handles : Handles) (tag : WrittenTag) : Option TagBytes :=
  if tag.handle.isEmpty then some tag.suffix
  else (handles.lookup tag.handle).map (· ++ tag.suffix)

/-- Take an anchor and a tag, in either order, off the front of some tokens. -/
def takeProperties (handles : Handles) (tokens : List Token) :
    Option (Properties × List Token) :=
  match tokens with
  | .anchor name :: .tag tag :: rest | .tag tag :: .anchor name :: rest => do
    return (⟨some name, some (← fullTag? handles tag)⟩, rest)
  | .anchor name :: rest => some (⟨some name, none⟩, rest)
  | .tag tag :: rest => do return (⟨none, some (← fullTag? handles tag)⟩, rest)
  | tokens => some (⟨none, none⟩, tokens)

/-- Whether nothing is written for a key or a value in front of some tokens of a mapping outside
brackets. -/
def blockMissing : List Token → Bool
  | .key :: _ | .value :: _ | .blockEnd :: _ => true
  | _ => false

/-- Whether nothing is written in front of some tokens inside brackets that a given token
closes. -/
def flowMissing (close : Token) : List Token → Bool
  | .flowEntry :: _ => true
  | token :: _ => token == close
  | [] => false

mutual

/-- Take a node off the front of some tokens, with at most a given depth of calls. Outside
brackets collections told by indentation are allowed; a sequence that is the value of a mapping
need not be indented. -/
def take (handles : Handles) (inBlock isValue : Bool) :
    Nat → List Token → Option (Written × List Token)
  | 0, _ => none
  | _ + 1, .reference name :: rest => some (reference name, rest)
  | depth + 1, tokens => do
    let (properties, tokens) ← takeProperties handles tokens
    match tokens with
    | .scalar text plain :: rest => return (scalar properties text plain, rest)
    | .flowSequenceStart :: rest =>
      let (items, rest) ← takeFlowItems handles true depth rest
      return (sequence properties items, rest)
    | .flowMappingStart :: rest =>
      let (entries, rest) ← takeFlowEntries handles true depth rest
      return (mapping properties entries, rest)
    | .blockSequenceStart :: rest =>
      if !inBlock then none
      else
        let (items, rest) ← takeBlockItems handles depth rest
        return (sequence properties items, rest)
    | .blockMappingStart :: rest =>
      if !inBlock then none
      else
        let (entries, rest) ← takeBlockEntries handles depth rest
        return (mapping properties entries, rest)
    | .blockEntry :: rest =>
      if isValue then
        let (items, rest) ← takeLooseItems handles depth (.blockEntry :: rest)
        return (sequence properties items, rest)
      else if properties = ⟨none, none⟩ then none
      else return (scalar properties [] true, .blockEntry :: rest)
    | rest =>
      if properties = ⟨none, none⟩ then none else return (scalar properties [] true, rest)

/-- Take the items of an indented sequence and its end. -/
def takeBlockItems (handles : Handles) : Nat → List Token → Option (List Written × List Token)
  | depth + 1, .blockEntry :: rest => do
    let (item, rest) ← match rest with
      | .blockEntry :: _ | .blockEnd :: _ => some (empty, rest)
      | _ => take handles true false depth rest
    let (items, rest) ← takeBlockItems handles depth rest
    return (item :: items, rest)
  | _ + 1, .blockEnd :: rest => some ([], rest)
  | _, _ => none

/-- Take the items of a sequence that is not indented; it has no end of its own. -/
def takeLooseItems (handles : Handles) : Nat → List Token → Option (List Written × List Token)
  | 0, _ => none
  | depth + 1, .blockEntry :: rest => do
    let (item, rest) ← match rest with
      | .blockEntry :: _ => some (empty, rest)
      | _ => if blockMissing rest then some (empty, rest) else take handles true false depth rest
    let (items, rest) ← takeLooseItems handles depth rest
    return (item :: items, rest)
  | _ + 1, rest => some ([], rest)

/-- Take the entries of an indented mapping and its end. -/
def takeBlockEntries (handles : Handles) :
    Nat → List Token → Option (WrittenEntries × List Token)
  | depth + 1, .key :: rest => do
    let (key, rest) ←
      if blockMissing rest then some (empty, rest) else take handles true true depth rest
    let (value, rest) ← match rest with
      | .value :: rest =>
        if blockMissing rest then some (empty, rest) else take handles true true depth rest
      | _ => some (empty, rest)
    let (entries, rest) ← takeBlockEntries handles depth rest
    return ((key, value) :: entries, rest)
  | _ + 1, .blockEnd :: rest => some ([], rest)
  | _, _ => none

/-- Take the items between brackets and the closing bracket; between items stands a comma. A key
among the items is a mapping with one entry. -/
def takeFlowItems (handles : Handles) (first : Bool) :
    Nat → List Token → Option (List Written × List Token)
  | 0, _ => none
  | _ + 1, .flowSequenceEnd :: rest => some ([], rest)
  | depth + 1, tokens => do
    let tokens ← match first, tokens with
      | true, _ => some tokens
      | false, .flowEntry :: rest => some rest
      | false, _ => none
    match tokens with
    | .flowSequenceEnd :: rest => return ([], rest)
    | .key :: rest =>
      let (entry, rest) ← takeSingleEntry handles depth rest
      let (items, rest) ← takeFlowItems handles false depth rest
      return (mapping ⟨none, none⟩ [entry] :: items, rest)
    | _ =>
      let (item, rest) ← take handles false false depth tokens
      let (items, rest) ← takeFlowItems handles false depth rest
      return (item :: items, rest)

/-- Take the entry of a mapping with one entry. Where the key is missing the token in its place
is passed over. -/
def takeSingleEntry (handles : Handles) :
    Nat → List Token → Option ((Written × Written) × List Token)
  | 0, _ => none
  | depth + 1, tokens => do
    let (key, rest) ← match tokens with
      | .value :: rest | .flowEntry :: rest | .flowSequenceEnd :: rest => some (empty, rest)
      | _ => take handles false false depth tokens
    let (value, rest) ← match rest with
      | .value :: rest =>
        if flowMissing .flowSequenceEnd rest then some (empty, rest)
        else take handles false false depth rest
      | _ => some (empty, rest)
    return ((key, value), rest)

/-- Take the entries between braces and the closing brace; between entries stands a comma. An
entry may be a key alone. -/
def takeFlowEntries (handles : Handles) (first : Bool) :
    Nat → List Token → Option (WrittenEntries × List Token)
  | 0, _ => none
  | _ + 1, .flowMappingEnd :: rest => some ([], rest)
  | depth + 1, tokens => do
    let tokens ← match first, tokens with
      | true, _ => some tokens
      | false, .flowEntry :: rest => some rest
      | false, _ => none
    match tokens with
    | .flowMappingEnd :: rest => return ([], rest)
    | .key :: rest =>
      let (key, rest) ← match rest with
        | .value :: _ => some (empty, rest)
        | _ =>
          if flowMissing .flowMappingEnd rest then some (empty, rest)
          else take handles false false depth rest
      let (value, rest) ← match rest with
        | .value :: rest =>
          if flowMissing .flowMappingEnd rest then some (empty, rest)
          else take handles false false depth rest
        | _ => some (empty, rest)
      let (entries, rest) ← takeFlowEntries handles false depth rest
      return ((key, value) :: entries, rest)
    | _ =>
      let (key, rest) ← take handles false false depth tokens
      let (entries, rest) ← takeFlowEntries handles false depth rest
      return ((key, empty) :: entries, rest)

end

/-- Declare the handles of some directives; a handle and a version are declared at most once, and
the version is 1.1 or 1.2. -/
def declare? (directives : List Directive) : Option Handles :=
  go false [] directives
where
  /-- Go through the directives with what is declared so far. -/
  go (versioned : Bool) (handles : Handles) : List Directive → Option Handles
    | [] => some (handles ++ standardHandles)
    | .version major minor :: rest =>
      if versioned || major ≠ 1 || (minor ≠ 1 && minor ≠ 2) then none
      else go true handles rest
    | .handle handle start :: rest =>
      if (handles.lookup handle).isSome then none
      else go versioned (handles ++ [(handle, start)]) rest

def takeDirectives : List Token → List Directive × List Token
  | .directive directive :: rest =>
    let (directives, rest) := takeDirectives rest
    (directive :: directives, rest)
  | rest => ([], rest)

def isEnd (tokens : List Token) : Bool := (tokens.dropWhile (· == .documentEnd)).isEmpty

/-- The node of a document that is written after the mark of its start. -/
def takeContent (handles : Handles) (depth : Nat) (tokens : List Token) :
    Option (Written × List Token) :=
  match tokens with
  | [] | .directive _ :: _ | .documentStart :: _ | .documentEnd :: _ => some (empty, tokens)
  | _ => take handles true false depth tokens

/-- The node of a text with one document; a text without tokens has an empty document. -/
def ofTokens? (tokens : List Token) : Option Written := do
  let depth := 2 * tokens.length + 2
  match tokens with
  | [] => return empty
  | .directive _ :: _ | .documentStart :: _ =>
    let (directives, rest) := takeDirectives tokens
    let handles ← declare? directives
    match rest with
    | .documentStart :: rest =>
      let (node, rest) ← takeContent handles depth rest
      if isEnd rest then return node else none
    | _ => none
  | _ =>
    let (node, rest) ← take standardHandles true false depth tokens
    if isEnd rest then return node else none

end Node

end KeyPath.Yaml
