import LineShell.Regex.Cursor
import LineShell.Text.CodePoints
import LineShell.Text.Search

/-!
# Escape sequences

A backslash gives the character after it another sense: signs stand for themselves, letters for
classes, conditions, controls, characters by number and properties.  In a verbose pattern white
space may stand between the digits of a number and inside the braces.
-/

namespace LineShell.Regex

/-- Characters that stand for themselves after a backslash. -/
def isSign (c : Char) : Bool :=
  c.toNat < 128 && !c.isAlphanum && c != '<' && c != '>'

/-- Whether a character is a hexadecimal digit in either case. -/
def isHexDigit (c : Char) : Bool :=
  c.isDigit || ('a' ≤ c && c ≤ 'f') || ('A' ≤ c && c ≤ 'F')

/-- The character with the number that the digits give, if there is one. -/
def charOfDigits? (digits : List Char) : Option Char :=
  let n := Text.hexNumber (digits.map Char.toLower)
  if h : n.isValidChar then some (Char.ofNatAux n h) else none

/-- Reads `count` hexadecimal digits, each with what is passed over after it; `digits` are those
read so far, the last one first. -/
def readHexDigits (verbose : Bool) (start : Cursor) (digits : List Char) (cursor : Cursor) :
    (count : Nat) → Except Fault (Char × Cursor)
  | 0 =>
    match charOfDigits? digits.reverse with
    | some c => .ok (c, cursor)
    | none => fault .hexValue (start.spanTo cursor)
  | count + 1 =>
    match cursor.head? with
    | none => fault .escapeEnd cursor.here
    | some c =>
      if isHexDigit c then readHexDigits verbose start (c :: digits) (cursor.step verbose) count
      else fault .hexDigit cursor.headSpan

/-- Reads hexadecimal digits up to a closing brace; `brace` is the place of the opening one. -/
def readHexBraces (verbose : Bool) (brace : Cursor) (digits : List Char) (cursor : Cursor) :
    (fuel : Nat) → Except Fault (Char × Cursor)
  | 0 => fault .escapeEnd (brace.spanTo cursor)
  | fuel + 1 =>
    match cursor.head? with
    | none => fault .escapeEnd (brace.spanTo cursor)
    | some '\x7d' =>
      let rest := cursor.step verbose
      if digits.isEmpty then fault .hexEmpty (brace.spanTo rest)
      else
        match charOfDigits? digits.reverse with
        | some c => .ok (c, rest)
        | none => fault .hexValue (brace.next.spanTo cursor)
    | some c =>
      if isHexDigit c then readHexBraces verbose brace (c :: digits) (cursor.step verbose) fuel
      else fault .hexDigit cursor.headSpan

/-- Reads the digits after the letter at the cursor: `count` of them, or any number in braces.  Only
two digits without braces are a byte. -/
def readHex (verbose : Bool) (count : Nat) (cursor : Cursor) : Except Fault (Atom × Cursor) := do
  let start := cursor.step verbose
  match start.head? with
  | none => fault .escapeEnd start.here
  | some '\x7b' =>
    let (c, rest) ← readHexBraces verbose start [] (start.step verbose) (start.rest.length + 1)
    return (.literal c false, rest)
  | some _ =>
    let (c, rest) ← readHexDigits verbose start [] start count
    return (.literal c (count == 2), rest)

/-- The characters up to a closing brace without what is passed over, and the place of the brace. -/
def readBraced (verbose : Bool) (read : List Char) (cursor : Cursor) :
    (fuel : Nat) → List Char × Cursor
  | 0 => (read.reverse, cursor)
  | fuel + 1 =>
    match cursor.head? with
    | none => (read.reverse, cursor)
    | some '\x7d' => (read.reverse, cursor)
    | some c => readBraced verbose (c :: read) (cursor.step verbose) fuel

/-- The property that is named in braces: a name, or a name and a value with `!=`, `:` or `=`
between them. -/
def queryOf (name : List Char) : PropertyQuery :=
  let signs := [['!', '='], [':'], ['=']]
  match signs.findSome? (Text.cut? · name) with
  | some (name, value) => .valued (String.ofList name) (String.ofList value)
  | none => .named (String.ofList name)

/-- Reads the property after the letter at the cursor. -/
def readProperty (verbose negated : Bool) (cursor : Cursor) : Except Fault (Atom × Cursor) :=
  let start := cursor.step verbose
  match start.head? with
  | none => fault .escapeEnd start.here
  | some '\x7b' =>
    let (name, brace) := readBraced verbose [] (start.step verbose) (start.rest.length + 1)
    if brace.atEnd then fault .escapeEnd brace.here
    else .ok (.property (queryOf name) negated, brace.next)
  | some '\\' => fault .propertyLetter start.headSpan
  | some c => .ok (.property (.named c.toString) negated, start.step verbose)

/-- Characters of the names of sides of a word. -/
def isBoundaryChar (c : Char) : Bool := c.isAlpha || c == '-'

/-- The letters of a name up to another character, and the place of that. -/
def readBoundaryName (verbose : Bool) (read : List Char) (cursor : Cursor) :
    (fuel : Nat) → List Char × Cursor
  | 0 => (read.reverse, cursor)
  | fuel + 1 =>
    match cursor.head? with
    | some c =>
      if isBoundaryChar c then readBoundaryName verbose (c :: read) (cursor.step verbose) fuel
      else (read.reverse, cursor)
    | none => (read.reverse, cursor)

/-- Reads what may follow `\b` in braces: one side of a word.  Braces that cannot name a side are
left for a count.  `start` is the place of the backslash. -/
def readBoundary (verbose : Bool) (start cursor : Cursor) : Except Fault (Assertion × Cursor) :=
  if cursor.head? != some '\x7b' then .ok (.wordBoundary, cursor)
  else
    let inner := cursor.step verbose
    match inner.head? with
    | none => fault .boundaryEnd (start.spanTo inner)
    | some c =>
      if !isBoundaryChar c then .ok (.wordBoundary, cursor)
      else
        let (name, stop) := readBoundaryName verbose [] inner inner.rest.length
        if stop.head? != some '\x7d' then fault .unclosedBoundary (cursor.spanTo stop)
        else
          match String.ofList name with
          | "start" => .ok (.wordStart, stop.next)
          | "end" => .ok (.wordEnd, stop.next)
          | "start-half" => .ok (.halfWordStart, stop.next)
          | "end-half" => .ok (.halfWordEnd, stop.next)
          | _ => fault .unknownBoundary (inner.spanTo stop)

/-- Reads an escape sequence; the cursor is at its backslash. -/
def readEscape (verbose : Bool) (start : Cursor) : Except Fault (Atom × Cursor) :=
  let letter := start.next
  let rest := letter.next
  let literal (c : Char) : Except Fault (Atom × Cursor) := .ok (.literal c false, rest)
  match letter.head? with
  | none => fault .escapeEnd (start.spanTo letter)
  | some c =>
    if c.isDigit then fault .backreference (start.spanTo rest)
    else if isSign c then literal c
    else
      match c with
      | 'x' => readHex verbose 2 letter
      | 'u' => readHex verbose 4 letter
      | 'U' => readHex verbose 8 letter
      | 'p' => readProperty verbose false letter
      | 'P' => readProperty verbose true letter
      | 'd' => .ok (.letter .digit false, rest)
      | 'D' => .ok (.letter .digit true, rest)
      | 's' => .ok (.letter .blank false, rest)
      | 'S' => .ok (.letter .blank true, rest)
      | 'w' => .ok (.letter .word false, rest)
      | 'W' => .ok (.letter .word true, rest)
      | 'a' => literal '\x07'
      | 'f' => literal '\x0c'
      | 't' => literal '\t'
      | 'n' => literal '\n'
      | 'r' => literal '\r'
      | 'v' => literal '\x0b'
      | 'A' => .ok (.assertion .textStart, rest)
      | 'z' => .ok (.assertion .textEnd, rest)
      | 'b' => do
        let (kind, rest) ← readBoundary verbose start rest
        return (.assertion kind, rest)
      | 'B' => .ok (.assertion .notWordBoundary, rest)
      | '<' => .ok (.assertion .wordStart, rest)
      | '>' => .ok (.assertion .wordEnd, rest)
      | _ => fault .unknownEscape (start.spanTo rest)

end LineShell.Regex
