import PageHarvest.Yaml.Node
import PageHarvest.Yaml.Token.Scan

/-!
# From tokens to a document

`Document.ofText?` reads a stream that holds one document at most, by recursive descent over its tokens. Each call of
`Parse.node` and of the functions around it is given a bound on the depth of calls; since two nested calls take a token
at least, twice the number of tokens is enough.
-/

namespace PageHarvest.Yaml

/-- What the grammar keeps: the tokens that follow, the tag handles of the document, the numbers that the anchors' names
have at present, and what those numbers stand for. -/
structure Parse.State where
  tokens : List Token
  handles : List (Text × Text)
  numbers : List (Text × Nat)
  targets : List (Nat × Option Scalar)

/-- A reader of tokens; `none` is a malformed document. -/
abbrev Parse := StateT Parse.State Option

namespace Parse

/-- Is the next token one of these? -/
def sees (ts : List Token) : Parse Bool := do return (← get).tokens.head?.any (· ∈ ts)

/-- Moves over a token. -/
def skip : Parse Unit := modify fun s => { s with tokens := s.tokens.tail }

/-- Moves over the given token, which must follow. -/
def expect (t : Token) : Parse Unit := do
  if ← sees [t] then skip else failure

/-- Moves over the given token if it follows. -/
def skips (t : Token) : Parse Bool := do
  let seen ← sees [t]
  if seen then skip
  return seen

/-! ## Anchors and tags -/

/-- The handles that every document has. -/
def standardHandles : List (Text × Text) :=
  [("!".toList, "!".toList), ("!!".toList, "tag:yaml.org,2002:".toList)]

/-- A tag in full. -/
def fullTag (handle suffix : Text) : Parse Text := do
  if handle = [] then return suffix
  else
    match (← get).handles.lookup handle with
    | some start => return start ++ suffix
    | none => failure

/-- Gives a node the name of its anchor. The number is the count of names in use, so that a name given again can share
its number with a later one; the last node with a number has it. -/
def name (anchor : Option Text) (target : Option Scalar) : Parse Unit :=
  match anchor with
  | none => pure ()
  | some a => modify fun s =>
    let number := s.numbers.length
    { s with
      numbers := (a, number) :: s.numbers.filter (·.1 ≠ a)
      targets := (number, target) :: s.targets }

/-- Reads the anchor and the tag of a node, in either order. -/
def properties : Parse (Option Text × Option Text) := do
  match (← get).tokens with
  | .anchor a :: .tag h t :: _ => skip; skip; return (some a, some (← fullTag h t))
  | .tag h t :: .anchor a :: _ => skip; skip; return (some a, some (← fullTag h t))
  | .anchor a :: _ => skip; return (some a, none)
  | .tag h t :: _ => skip; return (none, some (← fullTag h t))
  | _ => return (none, none)

/-! ## Nodes -/

mutual

/-- Reads a node. Blocks are allowed if `block` holds, and so are items without an indentation of their own, directly
behind the indicator of a key or a value, if `flat` holds. -/
def node (block flat : Bool) : Nat → Parse Node
  | 0 => failure
  | bound + 1 => do
    match (← get).tokens with
    | .alias a :: _ =>
      skip
      match (← get).numbers.lookup a with
      | some n => return .alias n
      | none => failure
    | _ =>
      let (anchor, tag) ← properties
      match (← get).tokens.head? with
      | some (.scalar style text) =>
        skip
        let scalar : Scalar := ⟨if tag = some ['!'] then none else tag, style, text⟩
        name anchor (some scalar)
        return .scalar scalar
      | some .flowSequenceStart => name anchor none; skip; return .sequence (← flowItems bound true)
      | some .flowMappingStart => name anchor none; skip; return .mapping (← flowEntries bound true)
      | t =>
        if flat && t = some .blockEntry then
          name anchor none
          return .sequence (← flatItems bound)
        else if block && t = some .blockSequenceStart then
          name anchor none
          skip
          return .sequence (← blockItems bound)
        else if block && t = some .blockMappingStart then
          name anchor none
          skip
          return .mapping (← blockEntries bound)
        else if anchor.isSome || tag.isSome then
          let scalar : Scalar := ⟨tag, .plain, []⟩
          name anchor (some scalar)
          return .scalar scalar
        else failure

/-- Reads a node, unless one of the given tokens follows: then it is empty. -/
def nodeBefore (stops : List Token) (block flat : Bool) : Nat → Parse Node
  | 0 => failure
  | bound + 1 => do
    if ← sees stops then return .empty else node block flat bound

/-- Reads the items of a block sequence and its end. -/
def blockItems : Nat → Parse (List Node)
  | 0 => failure
  | bound + 1 => do
    if ← skips .blockEntry then
      let item ← nodeBefore [.blockEntry, .blockEnd] true false bound
      return item :: (← blockItems bound)
    else
      expect .blockEnd
      return []

/-- Reads the items of a sequence that has no end of its own. -/
def flatItems : Nat → Parse (List Node)
  | 0 => failure
  | bound + 1 => do
    if ← skips .blockEntry then
      let item ← nodeBefore [.blockEntry, .key, .value, .blockEnd] true false bound
      return item :: (← flatItems bound)
    else return []

/-- Reads the entries of a block mapping and its end. -/
def blockEntries : Nat → Parse (List (Node × Node))
  | 0 => failure
  | bound + 1 => do
    if ← skips .key then
      let key ← nodeBefore [.key, .value, .blockEnd] true true bound
      let value ←
        if ← skips .value then nodeBefore [.key, .value, .blockEnd] true true bound else pure .empty
      return (key, value) :: (← blockEntries bound)
    else
      expect .blockEnd
      return []

/-- Reads the items of a sequence in brackets and the closing bracket. An item with a key is a mapping of one entry; if
it begins with `:`, the colon is lost. -/
def flowItems (bound : Nat) (first : Bool) : Parse (List Node) :=
  match bound with
  | 0 => failure
  | bound + 1 => do
    if ← skips .flowSequenceEnd then return []
    else
      if !first then expect .flowEntry
      if ← skips .flowSequenceEnd then return []
      else if ← skips .key then
        let key ←
          if ← sees [.value, .flowEntry, .flowSequenceEnd] then do skip; pure .empty else node false false bound
        let value ←
          if ← skips .value then nodeBefore [.flowEntry, .flowSequenceEnd] false false bound else pure .empty
        return .mapping [(key, value)] :: (← flowItems bound false)
      else
        let item ← node false false bound
        return item :: (← flowItems bound false)

/-- Reads the entries of a mapping in braces and the closing brace. -/
def flowEntries (bound : Nat) (first : Bool) : Parse (List (Node × Node)) :=
  match bound with
  | 0 => failure
  | bound + 1 => do
    if ← skips .flowMappingEnd then return []
    else
      if !first then expect .flowEntry
      if ← skips .flowMappingEnd then return []
      else if ← skips .key then
        let key ← nodeBefore [.value, .flowEntry, .flowMappingEnd] false false bound
        let value ←
          if ← skips .value then nodeBefore [.flowEntry, .flowMappingEnd] false false bound else pure .empty
        return (key, value) :: (← flowEntries bound false)
      else
        let key ← node false false bound
        return (key, .empty) :: (← flowEntries bound false)

end

/-! ## Documents -/

/-- Is a token a directive? -/
def isDirective : Token → Bool
  | .version _ _ => true
  | .tagPrefix _ _ => true
  | _ => false

/-- The tag handles that directives define. There must be one version at most, one that is known, and no handle twice. -/
def handles? (versioned : Bool) (handles : List (Text × Text)) : List Token → Option (List (Text × Text))
  | [] => some handles
  | .version major minor :: ts =>
    if versioned || major ≠ 1 || (minor ≠ 1 && minor ≠ 2) then none else handles? true handles ts
  | .tagPrefix handle start :: ts =>
    if (handles.lookup handle).isSome then none else handles? versioned ((handle, start) :: handles) ts
  | _ :: ts => handles? versioned handles ts

/-- Reads the tokens of a stream up to its end: its only document, or `none` if it has no document. -/
def stream (bound : Nat) : Parse (Option Node) := do
  if ← skips .streamEnd then return none
  let directives := (← get).tokens.takeWhile isDirective
  match handles? false [] directives with
  | none => failure
  | some handles =>
    modify fun s => { s with
      tokens := s.tokens.drop directives.length
      handles := handles ++ standardHandles }
  let root ←
    if ← skips .documentStart then
      if (← get).tokens.head?.any isDirective then pure .empty
      else nodeBefore [.documentStart, .documentEnd, .streamEnd] true false bound
    else if directives = [] then node true false bound
    else failure
  modify fun s => { s with tokens := s.tokens.dropWhile (· = .documentEnd) }
  expect .streamEnd
  return some root

end Parse

/-- Reads a stream; an empty one has an empty document. The result is `none` if the stream is malformed or has more
documents than one. -/
def Document.ofText? (t : Text) : Option Document := do
  let tokens ← Token.ofText? t
  let (root, s) ← (Parse.stream (2 * tokens.length + 2)).run ⟨tokens, [], [], []⟩
  return ⟨root.getD .empty, s.targets⟩

end PageHarvest.Yaml
