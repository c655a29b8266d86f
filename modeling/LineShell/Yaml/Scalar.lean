import LineShell.Yaml.Cursor

/-!
# Scalars

A scalar is written plainly, between quotes, or as a block of lines.  Plain and quoted scalars may
run over several lines, which are folded; a block keeps its lines or folds them, as its header
tells.  Each reader begins at the first character of its scalar and gives the text and the place
after it.

`margin` is the least column at which text still belongs to the innermost block collection: one more
than the column of that collection, and zero outside of all.
-/

namespace LineShell.Yaml

/-- How a scalar is written. -/
inductive Style
  | plain
  | quoted
  | literal
  | folded
  deriving DecidableEq, Repr

namespace Scalar

/-! ### Plain scalars -/

/-- The characters that end a plain scalar inside brackets. -/
def isFlowMark (c : Char) : Bool :=
  c == ',' || c == '[' || c == ']' || c == '{' || c == '}'

/-- The word that a plain scalar goes on with.  Inside brackets a colon before a bracket, a comma or
a question mark is refused. -/
def plainWord? (inFlow : Bool) : List Char → Option (List Char)
  | [] => some []
  | x :: rest =>
    if inFlow && x == ':' && rest.head?.any (fun y => isFlowMark y || y == '?') then none
    else if endsWord (some x) || x == ':' && endsWord rest.head? || inFlow && isFlowMark x then
      some []
    else (plainWord? inFlow rest).map (x :: ·)

/-- The text and the end of a plain scalar of which `text` is read, with `gap` after it.  Also tells
whether a line ended before the place where the scalar was found to end. -/
def plainFrom? (inFlow : Bool) (margin : Nat) (text : List Char) (gap : Gap) (c : Cursor) :
    (fuel : Nat) → Option (List Char × Bool × Cursor)
  | 0 => none
  | fuel + 1 => do
    if c.atDocumentMark || c.isAt '#' then return (text, gap.hasBreak, c)
    let word ← plainWord? inFlow c.rest
    if word.isEmpty then return (text, gap.hasBreak, c)
    let text := text ++ gap.folded ++ word
    let c := c.advance word.length
    let (gap, next) ← Gap.read? margin {} c
    if next.index == c.index || (!inFlow && next.column < margin) then
      return (text, gap.hasBreak, next)
    plainFrom? inFlow margin text gap next fuel

/-- A plain scalar. -/
def plain? (inFlow : Bool) (margin : Nat) (c : Cursor) : Option (List Char × Bool × Cursor) :=
  plainFrom? inFlow margin [] {} c (c.rest.length + 1)

/-! ### Quoted scalars -/

/-- The word in a scalar with single quotes, in which a quote is written twice, and the number of
characters read. -/
def singleWord : List Char → List Char × Nat
  | '\x27' :: '\x27' :: rest =>
    let (word, width) := singleWord rest
    ('\x27' :: word, width + 2)
  | x :: rest =>
    if x == '\x27' || endsWord (some x) then ([], 0)
    else
      let (word, width) := singleWord rest
      (x :: word, width + 1)
  | [] => ([], 0)

/-- The value of a hexadecimal digit. -/
def hexDigit? (c : Char) : Option Nat :=
  if '0' ≤ c ∧ c ≤ '9' then some (c.toNat - '0'.toNat)
  else if 'a' ≤ c ∧ c ≤ 'f' then some (c.toNat - 'a'.toNat + 10)
  else if 'A' ≤ c ∧ c ≤ 'F' then some (c.toNat - 'A'.toNat + 10)
  else none

/-- The character whose code point is written in `width` hexadecimal digits. -/
def codePoint? (width : Nat) (cs : List Char) : Option Char := do
  let digits ← (cs.take width).mapM hexDigit?
  if digits.length < width then none
  else
    let value := digits.foldl (fun n d => n * 16 + d) 0
    if value.isValidChar then some (Char.ofNat value) else none

/-- The character that is escaped by what stands after a backslash, and the number of characters
that takes. -/
def escape? : List Char → Option (Char × Nat)
  | [] => none
  | x :: rest =>
    match x with
    | '0' => some ('\x00', 1)
    | 'a' => some ('\x07', 1)
    | 'b' => some ('\x08', 1)
    | 't' | '\t' => some ('\t', 1)
    | 'n' => some ('\n', 1)
    | 'v' => some ('\x0B', 1)
    | 'f' => some ('\x0C', 1)
    | 'r' => some ('\r', 1)
    | 'e' => some ('\x1B', 1)
    | ' ' | '"' | '/' | '\\' => some (x, 1)
    | 'N' => some ('\u0085', 1)
    | '_' => some ('\u00A0', 1)
    | 'L' => some ('\u2028', 1)
    | 'P' => some ('\u2029', 1)
    | 'x' => (codePoint? 2 rest).map (·, 3)
    | 'u' => (codePoint? 4 rest).map (·, 5)
    | 'U' => (codePoint? 8 rest).map (·, 9)
    | _ => none

/-- The word in a scalar with double quotes, and the number of characters read.  It also ends before
an escaped line end. -/
def doubleWord? (cs : List Char) : Option (List Char × Nat) :=
  match cs with
  | [] => some ([], 0)
  | x :: rest =>
    if x == '"' || endsWord (some x) then some ([], 0)
    else if x == '\\' then
      if rest.head?.any isBreak then some ([], 0)
      else do
        let (char, width) ← escape? rest
        let (word, more) ← doubleWord? (rest.drop width)
        return (char :: word, width + more + 1)
    else do
      let (word, width) ← doubleWord? rest
      return (x :: word, width + 1)
termination_by cs.length
decreasing_by all_goals simp_all; try omega

/-- The text and the end of a quoted scalar of which `text` is read. -/
def quotedFrom? (double : Bool) (text : List Char) (c : Cursor) :
    (fuel : Nat) → Option (List Char × Cursor)
  | 0 => none
  | fuel + 1 => do
    if c.atDocumentMark then none
    let (word, width) ← if double then doubleWord? c.rest else some (singleWord c.rest)
    let text := text ++ word
    let c := c.advance width
    let escaped := double && c.isAt '\\'
    let c := if escaped then (c.advance 1).skipBreak else c
    match c.rest with
    | [] => none
    | x :: _ =>
      if x == (if double then '"' else '\x27') then return (text, c.advance 1)
      let (gap, c) ← Gap.read? 0 { escaped } c
      quotedFrom? double (text ++ gap.folded) c fuel

/-- A quoted scalar. -/
def quoted? (c : Cursor) : Option (List Char × Cursor) :=
  quotedFrom? (c.isAt '"') [] (c.advance 1) (c.rest.length + 1)

/-! ### Blocks of lines -/

/-- What becomes of the line ends after the last line of a block. -/
inductive Chomping
  | strip
  | clip
  | keep
  deriving DecidableEq, Repr

/-- The header of a block: the chomping and how far its lines are indented, if it tells. -/
structure BlockHeader where
  chomping : Chomping
  increment : Option Nat

/-- A sign that tells the chomping. -/
def chompingSign? (c : Cursor) : Option Chomping :=
  if c.isAt '+' then some .keep else if c.isAt '-' then some .strip else none

/-- A digit, not zero, that tells the indentation; a zero is refused. -/
def incrementDigit? (c : Cursor) : Option (Option Nat × Cursor) :=
  match c.next? with
  | some d =>
    if !d.isDigit then some (none, c)
    else if d == '0' then none
    else some (some (d.toNat - '0'.toNat), c.advance 1)
  | none => some (none, c)

/-- The header of a block, the sign and the digit in any order, and the line after it. -/
def blockHeader? (c : Cursor) : Option (BlockHeader × Cursor) := do
  let (header, c) ← match chompingSign? c with
    | some chomping => do
      let (increment, c) ← incrementDigit? (c.advance 1)
      pure (BlockHeader.mk chomping increment, c)
    | none => do
      let (increment, c) ← incrementDigit? c
      match if increment.isSome then chompingSign? c else none with
      | some chomping => pure (BlockHeader.mk chomping increment, c.advance 1)
      | none => pure (BlockHeader.mk .clip increment, c)
  let c := (c.skipWhile isBlank).skipComment
  if !c.atLineEnd then none
  else return (header, if c.next?.isSome then c.skipBreak else c)

/-- The place after the indentation of a line: spaces up to a column, or all if none is given. -/
def skipIndentation (indentation : Option Nat) (c : Cursor) : Cursor :=
  let spaces := (c.rest.takeWhile (· == ' ')).length
  c.advance (match indentation with
    | some column => min spaces (column - c.column)
    | none => spaces)

/-- The ends of the empty lines before a line of a block, that line's place after its indentation,
and the widest indentation seen. -/
def emptyLines? (indentation : Option Nat) (breaks : List Char) (widest : Nat) (c : Cursor) :
    (fuel : Nat) → Option (List Char × Nat × Cursor)
  | 0 => none
  | fuel + 1 =>
    let c := skipIndentation indentation c
    let widest := max widest c.column
    match c.next? with
    | some x =>
      if x == '\t' && indentation.all (c.column < ·) then none
      else if isBreak x then
        emptyLines? indentation (breaks ++ [Cursor.breakChar x]) widest c.skipBreak fuel
      else some (breaks, widest, c)
    | none => some (breaks, widest, c)

/-- The lines of a block that are read, with what is pending after them. -/
structure Block where
  text : List Char := []
  /-- The end of the last line. -/
  lineEnd : List Char := []
  /-- The ends of the empty lines after it. -/
  breaks : List Char := []
  /-- Whether the last line begins with a blank. -/
  indented : Bool := false

/-- What stands between the last line of a block and one that follows it. -/
def Block.separator (block : Block) (folds indented : Bool) : List Char :=
  if folds && block.lineEnd == ['\n'] && !block.indented && !indented then
    if block.breaks.isEmpty then [' '] else block.breaks
  else block.lineEnd ++ block.breaks

/-- The lines of a block, of which some are read. -/
def blockLines? (folds : Bool) (indentation : Nat) (block : Block) (c : Cursor) :
    (fuel : Nat) → Option (Block × Cursor)
  | 0 => none
  | fuel + 1 => do
    if c.column != indentation || c.rest.isEmpty then return (block, c)
    let indented := c.isAtAny isBlank
    let (line, c) := c.takeWhile (!isBreak ·)
    let text := block.text ++ block.separator folds indented ++ line
    let lineEnd := (c.next?.map Cursor.breakChar).toList
    let c := if c.next?.isSome then c.skipBreak else c
    let (breaks, _, c) ← emptyLines? (some indentation) [] 0 c (c.rest.length + 1)
    blockLines? folds indentation { text, lineEnd, breaks, indented } c fuel

/-- A block of lines, which stands at the bar or the angle that begins it.  Without a number in the
header the first line that is not empty gives the indentation. -/
def block? (margin : Nat) (c : Cursor) : Option (List Char × Cursor) := do
  let folds := c.isAt '>'
  let (header, c) ← blockHeader? (c.advance 1)
  let given := header.increment.map (margin - 1 + ·)
  let (breaks, widest, c) ← emptyLines? given [] 0 c (c.rest.length + 1)
  let indentation := given.getD (max widest (max margin 1))
  let (block, c) ← blockLines? folds indentation { breaks } c (c.rest.length + 1)
  let tail := match header.chomping with
    | .strip => []
    | .clip => block.lineEnd
    | .keep => block.lineEnd ++ block.breaks
  return (block.text ++ tail, c)

end Scalar

end LineShell.Yaml
