import LineShell.Yaml.Token

/-!
# Reading tokens

Tokens are read from left to right.  Outside of brackets, the column of a token tells which block
collections end before it and whether one begins with it.  A token that could be a key is remembered
with its position among the tokens: when a colon follows it on the same line, the beginning of the
key, and of a mapping if need be, is put in front of it.
-/

namespace LineShell.Yaml

/-- A token that is a key if a colon follows. -/
structure PossibleKey where
  /-- The number of tokens before it. -/
  position : Nat
  /-- Whether a colon has to follow, because it stands where keys of the mapping stand. -/
  required : Bool
  start : Cursor

/-- The state of reading. -/
structure Reader where
  cursor : Cursor
  tokens : Array Token := #[]
  /-- The least column of text in the innermost block collection. -/
  margin : Nat := 0
  /-- The margins outside of that collection, innermost first. -/
  outer : List Nat := []
  /-- Whether a key may begin at the next token. -/
  keyAllowed : Bool := true
  /-- The possible key at each level of brackets, innermost first. -/
  keys : List (Option PossibleKey) := [none]

namespace Reader

/-- Whether a bracket is open. -/
def inFlow (r : Reader) : Bool := r.keys.length > 1

/-- Adds a token. -/
def push (r : Reader) (token : Token) : Reader :=
  { r with tokens := r.tokens.push token }

/-- Goes on after some characters. -/
def advance (r : Reader) (count : Nat) : Reader :=
  { r with cursor := r.cursor.advance count }

/-- Inserts a token at a position. -/
def insertAt (r : Reader) (position : Nat) (token : Token) : Reader :=
  { r with tokens := (r.tokens.toList.insertIdx position token).toArray }

/-! ### Keys -/

/-- Forgets the possible key at the innermost level.  A required one is not given up. -/
def dropKey? (r : Reader) : Option Reader :=
  match r.keys with
  | some key :: rest => if key.required then none else some { r with keys := none :: rest }
  | _ => some r

/-- Remembers that a key may begin here, if that is allowed. -/
def saveKey? (r : Reader) : Option Reader :=
  if r.keyAllowed then do
    let r ← r.dropKey?
    let required := !r.inFlow && r.margin == r.cursor.column + 1
    return { r with keys := some ⟨r.tokens.size, required, r.cursor⟩ :: r.keys.drop 1 }
  else some r

/-- The most bytes that a key may take. -/
def maxKeyLength : Nat := 1024

/-- Forgets the possible keys that began on another line or too long ago. -/
def dropStaleKeys? (r : Reader) : Option Reader := do
  let keys ← r.keys.mapM fun
    | none => some none
    | some key =>
      let stale := key.start.line < r.cursor.line
        || key.start.index + maxKeyLength < r.cursor.index
      if !stale then some (some key) else if key.required then none else some none
  return { r with keys }

/-! ### Block collections -/

/-- How many collections end, and which margins are left, when all with a greater margin than
`floor` end. -/
def popMargins (floor margin : Nat) : List Nat → Nat × Nat × List Nat
  | [] => (0, margin, [])
  | next :: outer =>
    if floor < margin then
      let (count, left) := popMargins floor next outer
      (count + 1, left)
    else (0, margin, next :: outer)

/-- Ends the block collections with a greater margin than `floor`. -/
def closeBlocks (r : Reader) (floor : Nat) : Reader :=
  if r.inFlow then r
  else
    let (count, margin, outer) := popMargins floor r.margin r.outer
    { r with
      tokens := r.tokens ++ Array.replicate count Token.blockEnd
      margin
      outer }

/-- Begins a block collection at a column, unless one stands there. -/
def openBlock (r : Reader) (column : Nat) (position : Nat) (token : Token) : Reader :=
  if r.inFlow || column < r.margin then r
  else
    let r := r.insertAt position token
    { r with margin := column + 1, outer := r.margin :: r.outer }

/-! ### Directives, anchors and tags -/

/-- A number in the version of a document, of nine digits at most. -/
def versionNumber? (c : Cursor) : Option (Nat × Cursor) :=
  let (digits, c) := c.takeWhile Char.isDigit
  if digits.isEmpty || 9 < digits.length then none
  else some (digits.foldl (fun n d => n * 10 + (d.toNat - '0'.toNat)) 0, c)

/-- The handle of a tag: name characters between exclamation marks, the second of which may be
missing. -/
def tagHandle (c : Cursor) : List Char × Cursor :=
  let (name, after) := (c.advance 1).takeWhile isNameChar
  if after.isAt '!' then ('!' :: name ++ ['!'], after.advance 1) else ('!' :: name, after)

/-- The characters of a tag, in which brackets and commas are only allowed between angles. -/
def isTagChar (verbatim : Bool) (c : Char) : Bool :=
  isNameChar c || ";/?:@&=+$.!~*\x27()".toList.contains c
    || verbatim && (c == ',' || c == '[' || c == ']')

/-- How many escaped bytes have to follow one that begins a character. -/
def bytesAfter? (byte : Nat) : Option Nat :=
  if byte < 0x80 then some 0
  else if 0xC0 ≤ byte ∧ byte < 0xE0 then some 1
  else if 0xE0 ≤ byte ∧ byte < 0xF0 then some 2
  else if 0xF0 ≤ byte ∧ byte < 0xF8 then some 3
  else none

/-- The bytes that the characters of a tag stand for, and the number of characters read.  A byte may
be written as a percent sign and two digits.  `pending` is the number of escaped bytes that have to
come next. -/
def tagBytes? (verbatim : Bool) (pending : Nat) : List Char → Option (TagText × Nat)
  | '%' :: high :: low :: rest => do
    let byte := 16 * (← Scalar.hexDigit? high) + (← Scalar.hexDigit? low)
    let pending ←
      if pending = 0 then bytesAfter? byte
      else if byte / 0x40 = 2 then some (pending - 1) else none
    let (bytes, width) ← tagBytes? verbatim pending rest
    return (byte.toUInt8 :: bytes, width + 3)
  | c :: rest =>
    if pending ≠ 0 || c == '%' then none
    else if isTagChar verbatim c then do
      let (bytes, width) ← tagBytes? verbatim 0 rest
      return (c.toNat.toUInt8 :: bytes, width + 1)
    else some ([], 0)
  | [] => if pending = 0 then some ([], 0) else none

/-- The text of a tag, the number of characters read, and the place after it.  A zero byte ends the
text, whatever follows. -/
def tagText? (verbatim : Bool) (c : Cursor) : Option (TagText × Nat × Cursor) := do
  let (bytes, width) ← tagBytes? verbatim 0 c.rest
  return (bytes.takeWhile (· ≠ 0), width, c.advance width)

/-- What a directive says. -/
def directive? (c : Cursor) : Option (Token × Cursor) := do
  let (name, c) := (c.advance 1).takeWhile isNameChar
  if !endsWord c.next? then none
  let c := c.skipWhile isBlank
  let (token, c) ←
    if name == "YAML".toList then do
      let (major, c) ← versionNumber? c
      if !c.isAt '.' then none
      let (minor, c) ← versionNumber? (c.advance 1)
      pure (Token.version major minor, c)
    else if name == "TAG".toList then do
      if !c.isAt '!' then none
      let (handle, c) := tagHandle c
      if handle.getLast? != some '!' then none
      if !c.isAtAny isBlank then none
      let (root, width, c) ← tagText? true (c.skipWhile isBlank)
      if width = 0 || !endsWord c.next? then none
      pure (Token.tagHandle (String.ofList handle) root, c)
    else none
  let c := (c.skipWhile isBlank).skipComment
  if !c.atLineEnd then none
  return (token, if c.next?.isSome then c.skipBreak else c)

/-- The name of an anchor or an alias, which begins after its mark. -/
def anchorName? (c : Cursor) : Option (String × Cursor) :=
  let (name, c) := (c.advance 1).takeWhile isNameChar
  let ends := endsWord c.next? || c.isAtAny "?:,]\x7d%@\x60".toList.contains
  if name.isEmpty || !ends then none else some (String.ofList name, c)

/-- A tag: between angles, with a handle, or with neither. -/
def tag? (inFlow : Bool) (c : Cursor) : Option (Token × Cursor) := do
  let (token, c) ←
    if c.rest[1]? == some '<' then do
      let (text, width, c) ← tagText? true (c.advance 2)
      if width = 0 || !c.isAt '>' then none
      pure (Token.tag "" text, c.advance 1)
    else do
      let (handle, after) := tagHandle c
      let (text, width, c) ← tagText? false after
      if handle.length > 1 && handle.getLast? == some '!' then
        if width = 0 then none
        pure (Token.tag (String.ofList handle) text, c)
      else
        let suffix := TagText.ofString (String.ofList (handle.drop 1)) ++ text
        if suffix.isEmpty then pure (Token.tag "" (.ofString "!"), c)
        else pure (Token.tag "!" suffix, c)
  if endsWord c.next? || inFlow && c.isAt ',' then return (token, c) else none

/-! ### One token -/

/-- Goes on to the next token, over blanks, comments and line ends.  A tab does not count as a blank
where a key may begin.  A new line allows a key outside of brackets; it may begin with a byte order
mark, which takes a column. -/
def skipToToken (inFlow keyAllowed : Bool) (c : Cursor) : (fuel : Nat) → Bool × Cursor
  | 0 => (keyAllowed, c)
  | fuel + 1 =>
    let c := if c.column == 0 && c.isAt '\uFEFF' then c.advance 1 else c
    let c := c.skipWhile fun x => x == ' ' || (inFlow || !keyAllowed) && x == '\t'
    let c := c.skipComment
    if c.isAtAny isBreak then skipToToken inFlow (keyAllowed || !inFlow) c.skipBreak fuel
    else (keyAllowed, c)

/-- Reads a token of one character that begins a level of brackets. -/
def openFlow? (r : Reader) (token : Token) : Option Reader := do
  let r ← r.saveKey?
  return { r.push token with keyAllowed := true, keys := none :: r.keys }.advance 1

/-- Reads a token of one character that ends a level of brackets. -/
def closeFlow? (r : Reader) (token : Token) : Option Reader := do
  let r ← r.dropKey?
  let keys := if r.inFlow then r.keys.drop 1 else r.keys
  return { r.push token with keyAllowed := false, keys }.advance 1

/-- Reads a comma between items in brackets. -/
def flowEntry? (r : Reader) : Option Reader := do
  let r ← r.dropKey?
  return { r.push .flowEntry with keyAllowed := true }.advance 1

/-- Reads the mark of an item or of a key, which outside of brackets may begin a collection. -/
def blockMark? (r : Reader) (collection mark : Token) : Option Reader := do
  if !r.inFlow && !r.keyAllowed then none
  let r := r.openBlock r.cursor.column r.tokens.size collection
  let r ← r.dropKey?
  return { r.push mark with keyAllowed := mark == Token.blockEntry || !r.inFlow }.advance 1

/-- Reads the colon before a value.  What stands before it may turn out to be a key. -/
def value? (r : Reader) : Option Reader :=
  match r.keys with
  | some key :: rest =>
    let r := r.insertAt key.position .key
    let r := r.openBlock key.start.column key.position .blockMappingStart
    some ({ r.push .value with keyAllowed := false, keys := none :: rest }.advance 1)
  | _ => do
    if !r.inFlow && !r.keyAllowed then none
    let r := r.openBlock r.cursor.column r.tokens.size .blockMappingStart
    return { r.push .value with keyAllowed := !r.inFlow }.advance 1

/-- Reads a mark between documents or a directive, which ends all block collections. -/
def between? (r : Reader) (token : Token) (next : Cursor) : Option Reader := do
  let r ← (r.closeBlocks 0).dropKey?
  return { r.push token with keyAllowed := false, cursor := next }

/-- Reads a token that may be a key. -/
def atom? (r : Reader) (token : Token) (keyAllowed : Bool) (next : Cursor) : Option Reader := do
  let r ← r.saveKey?
  return { r.push token with keyAllowed, cursor := next }

/-- Reads a block of lines. -/
def block? (r : Reader) (style : Style) : Option Reader := do
  let r ← r.dropKey?
  let (text, next) ← Scalar.block? r.margin r.cursor
  return { r.push (.scalar style (String.ofList text)) with keyAllowed := true, cursor := next }

/-- Whether a plain scalar may begin with a character that another one follows. -/
def startsPlain (inFlow : Bool) (x : Char) (after : Option Char) : Bool :=
  !(endsWord (some x) || "-?:,[]\x7b\x7d#&*!|>\x27\x22%@\x60".toList.contains x)
    || x == '-' && !after.any isBlank
    || !inFlow && (x == '?' || x == ':') && !endsWord after

/-- Reads the token that begins with `x`. -/
def token? (r : Reader) (x : Char) (after : Option Char) : Option Reader := do
  let c := r.cursor
  if c.column == 0 && x == '%' then
    let (token, next) ← directive? c
    r.between? token next
  else if c.atDocumentMark then
    r.between? (if x == '-' then .documentStart else .documentEnd) (c.advance 3)
  else if x == '[' then r.openFlow? .flowSequenceStart
  else if x == '{' then r.openFlow? .flowMappingStart
  else if x == ']' then r.closeFlow? .flowSequenceEnd
  else if x == '}' then r.closeFlow? .flowMappingEnd
  else if x == ',' then r.flowEntry?
  else if x == '-' && endsWord after then r.blockMark? .blockSequenceStart .blockEntry
  else if x == '?' && (r.inFlow || endsWord after) then r.blockMark? .blockMappingStart .key
  else if x == ':' && (r.inFlow || endsWord after) then r.value?
  else if x == '*' then
    let (name, next) ← anchorName? c
    r.atom? (.alias name) false next
  else if x == '&' then
    let (name, next) ← anchorName? c
    r.atom? (.anchor name) false next
  else if x == '!' then
    let (token, next) ← tag? r.inFlow c
    r.atom? token false next
  else if x == '|' && !r.inFlow then r.block? .literal
  else if x == '>' && !r.inFlow then r.block? .folded
  else if x == '\x27' || x == '"' then
    let (text, next) ← Scalar.quoted? c
    r.atom? (.scalar .quoted (String.ofList text)) false next
  else if startsPlain r.inFlow x after then
    let (text, lineEnded, next) ← Scalar.plain? r.inFlow r.margin c
    r.atom? (.scalar .plain (String.ofList text)) lineEnded next
  else none

/-- Reads all tokens that are left. -/
def readAll? (r : Reader) : (fuel : Nat) → Option (List Token)
  | 0 => none
  | fuel + 1 => do
    let (keyAllowed, cursor) :=
      skipToToken r.inFlow r.keyAllowed r.cursor (r.cursor.rest.length + 1)
    let r ← { r with keyAllowed, cursor }.dropStaleKeys?
    let r := r.closeBlocks (cursor.column + 1)
    match cursor.rest with
    | x :: rest =>
      let r ← r.token? x rest.head?
      r.readAll? fuel
    | [] =>
      let r ← (r.closeBlocks 0).dropKey?
      return r.tokens.toList

end Reader

/-- The tokens of a text; nothing if it holds a character that is not allowed or cannot be read. -/
def tokens? (text : List Char) : Option (List Token) :=
  if text.all isAllowed then ({ cursor := { rest := text } } : Reader).readAll? (text.length + 1)
  else none

end LineShell.Yaml
