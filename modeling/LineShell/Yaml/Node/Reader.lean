import LineShell.Yaml.Node
import LineShell.Yaml.Token.Reader

/-!
# Reading documents

A document is read from its tokens by one function for each kind of collection.  What is left out in
a collection is the empty scalar.  A text has one document at most; a text without any is a document
of one empty scalar.
-/

namespace LineShell.Yaml

/-- What is left to read, and the names that are known so far. -/
structure Reading where
  tokens : List Token
  /-- The number of each anchor. -/
  anchors : List (String × Nat) := []
  /-- What each tag handle stands for. -/
  handles : List (String × TagText) := []

/-- A step of reading, which may fail. -/
abbrev Read := StateT Reading Option

namespace Read

/-- The next token. -/
def peek? : Read (Option Token) := return (← get).tokens.head?

/-- Goes on after the next token. -/
def skip : Read Unit := modify fun r => { r with tokens := r.tokens.drop 1 }

/-- Whether the next token is one of those given; the end of the tokens is none of them. -/
def isAt (tokens : List Token) : Read Bool := return (← peek?).any tokens.contains

/-- Goes on after the next token if it is the given one, and tells whether it was. -/
def accept (token : Token) : Read Bool := do
  if ← isAt [token] then
    skip
    return true
  else return false

/-- Goes on after a token that has to be next. -/
def expect (token : Token) : Read Unit := do
  if !(← accept token) then failure

/-- The number of a new anchor: how many names had been given before.  A name that is given again
stands for the new anchor from then on. -/
def declare (name : String) : Read Nat := do
  let r ← get
  let number := r.anchors.length
  set { r with anchors := (name, number) :: r.anchors.filter (·.1 != name) }
  return number

/-- What a tag is in full. -/
def resolveTag (handle : String) (suffix : TagText) : Read TagText := do
  if handle.isEmpty then return suffix
  match (← get).handles.lookup handle with
  | some root => return root ++ suffix
  | none => failure

/-- The tag that leaves open what a scalar is, as if it had none. -/
def openTag : TagText := .ofString "!"

/-- The anchor and the tag before a node, in any order. -/
def properties : Read (Option String × Option TagText) := do
  match ← peek? with
  | some (.anchor name) =>
    skip
    match ← peek? with
    | some (.tag handle suffix) =>
      skip
      return (some name, some (← resolveTag handle suffix))
    | _ => return (some name, none)
  | some (.tag handle suffix) =>
    skip
    let tag ← resolveTag handle suffix
    match ← peek? with
    | some (.anchor name) =>
      skip
      return (some name, some tag)
    | _ => return (none, some tag)
  | _ => return (none, none)

mutual

/-- A node.  Block collections are allowed if `block` holds, and a sequence without indentation of
its own if `indentless` does. -/
def node (block indentless : Bool) : (fuel : Nat) → Read Node
  | 0 => failure
  | fuel + 1 => do
    if let some (.alias name) ← peek? then
      skip
      match (← get).anchors.lookup name with
      | some number => return .alias number
      | none => failure
    let (name, tag) ← properties
    let anchor ← name.mapM declare
    match ← peek? with
    | some (.scalar style text) =>
      skip
      return .scalar anchor (tag.filter (· ≠ openTag)) style text
    | some .flowSequenceStart =>
      skip
      return .sequence anchor (← flowItems true fuel)
    | some .flowMappingStart =>
      skip
      return .mapping anchor (← flowEntries true fuel)
    | some .blockEntry =>
      if indentless then return .sequence anchor (← indentlessItems fuel)
    | some .blockSequenceStart =>
      if block then
        skip
        return .sequence anchor (← blockItems fuel)
    | some .blockMappingStart =>
      if block then
        skip
        return .mapping anchor (← blockEntries fuel)
    | _ => pure ()
    if name.isSome || tag.isSome then return .scalar anchor tag .plain "" else failure

/-- The node before one of the tokens that can follow it, or the empty scalar. -/
def nodeBefore (ends : List Token) (block indentless : Bool) : (fuel : Nat) → Read Node
  | 0 => failure
  | fuel + 1 => do if ← isAt ends then return .empty else node block indentless fuel

/-- The items of a block sequence. -/
def blockItems : (fuel : Nat) → Read (List Node)
  | 0 => failure
  | fuel + 1 => do
    if ← accept .blockEntry then
      let item ← nodeBefore [.blockEntry, .blockEnd] true false fuel
      return item :: (← blockItems fuel)
    else
      expect .blockEnd
      return []

/-- The items of a sequence that has no indentation of its own. -/
def indentlessItems : (fuel : Nat) → Read (List Node)
  | 0 => failure
  | fuel + 1 => do
    if ← accept .blockEntry then
      let item ← nodeBefore [.blockEntry, .key, .value, .blockEnd] true false fuel
      return item :: (← indentlessItems fuel)
    else return []

/-- The keys and values of a block mapping. -/
def blockEntries : (fuel : Nat) → Read (List (Node × Node))
  | 0 => failure
  | fuel + 1 => do
    if ← accept .key then
      let key ← nodeBefore [.key, .value, .blockEnd] true true fuel
      let value ←
        if ← accept .value then nodeBefore [.key, .value, .blockEnd] true true fuel
        else pure .empty
      return (key, value) :: (← blockEntries fuel)
    else
      expect .blockEnd
      return []

/-- The items in brackets.  An item may be a single key with its value. -/
def flowItems (first : Bool) : (fuel : Nat) → Read (List Node)
  | 0 => failure
  | fuel + 1 => do
    if ← accept .flowSequenceEnd then return []
    if !first then expect .flowEntry
    if ← accept .key then
      let key ←
        if ← isAt [.value, .flowEntry, .flowSequenceEnd] then
          skip
          pure .empty
        else node false false fuel
      let value ←
        if ← accept .value then nodeBefore [.flowEntry, .flowSequenceEnd] false false fuel
        else pure .empty
      return .mapping none [(key, value)] :: (← flowItems false fuel)
    else if ← accept .flowSequenceEnd then return []
    else
      let item ← node false false fuel
      return item :: (← flowItems false fuel)

/-- The keys and values in braces.  A key without a mark has no value. -/
def flowEntries (first : Bool) : (fuel : Nat) → Read (List (Node × Node))
  | 0 => failure
  | fuel + 1 => do
    if ← accept .flowMappingEnd then return []
    if !first then expect .flowEntry
    if ← accept .key then
      let key ← nodeBefore [.value, .flowEntry, .flowMappingEnd] false false fuel
      let value ←
        if ← accept .value then nodeBefore [.flowEntry, .flowMappingEnd] false false fuel
        else pure .empty
      return (key, value) :: (← flowEntries false fuel)
    else if ← accept .flowMappingEnd then return []
    else
      let key ← node false false fuel
      return (key, .empty) :: (← flowEntries false fuel)

end

/-- The directives before a document: one version at most, which has to be known, and tag handles,
none of them twice. -/
def directives (versionSeen : Bool) : (fuel : Nat) → Read Unit
  | 0 => failure
  | fuel + 1 => do
    match ← peek? with
    | some (.version major minor) =>
      if versionSeen || major != 1 || (minor != 1 && minor != 2) then failure
      skip
      directives true fuel
    | some (.tagHandle handle root) =>
      if ((← get).handles.lookup handle).isSome then failure
      skip
      modify fun r => { r with handles := r.handles ++ [(handle, root)] }
      directives versionSeen fuel
    | _ => pure ()

/-- The tag handles that are always known, unless the document gives them another meaning. -/
def standardHandles : List (String × TagText) :=
  [("!", .ofString "!"), ("!!", .ofString "tag:yaml.org,2002:")]

/-- The only document, up to the end of the tokens. -/
def document (fuel : Nat) : Read Node := do
  if (← peek?).isNone then return .empty
  let directed ← atDirective
  directives false fuel
  let marked ← isAt [.documentStart]
  if directed && !marked then failure
  modify fun r => { r with handles := r.handles ++ standardHandles }
  let root ←
    if marked then
      skip
      if (← isAt [.documentStart, .documentEnd]) || (← atDirective) || (← peek?).isNone then
        pure .empty
      else node true false fuel
    else node true false fuel
  modify fun r => { r with tokens := r.tokens.dropWhile (· == .documentEnd) }
  if (← peek?).isSome then failure else return root
where
  /-- Whether a directive comes next. -/
  atDirective : Read Bool := do
    match ← peek? with
    | some (.version _ _) | some (.tagHandle _ _) => return true
    | _ => return false

end Read

/-- The document that a text holds. -/
def Document.read? (text : String) : Option Document := do
  let tokens ← tokens? text.toList
  let (root, _) ← (Read.document (4 * tokens.length + 8)).run { tokens }
  return .ofRoot root

end LineShell.Yaml
