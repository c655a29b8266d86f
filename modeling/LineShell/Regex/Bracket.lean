import LineShell.Regex.Escape

/-!
# Classes in brackets

A class lists characters, ranges of characters and other classes; two lists may be put together by
an operator of sets, the operators being taken from left to right.  Classes may stand in classes, to
any depth: the ones that are open are kept on a stack.
-/

namespace LineShell.Regex

/-- The names that may stand between `[:` and `:]`. -/
def classNames : List String :=
  ["alnum", "alpha", "ascii", "blank", "cntrl", "digit", "graph", "lower", "print", "punct",
    "space", "upper", "word", "xdigit"]

/-- Reads a class that is named between `[:` and `:]`, if there is one. -/
def readNamedClass? (start : Cursor) : Option (ClassItem × Cursor) := do
  let inner ← start.after? "[:"
  let (negated, inner) := match inner.after? "^" with
    | some inner => (true, inner)
    | none => (false, inner)
  let name := inner.rest.takeWhile (· != ':')
  let stop ← (inner.advance name.length).after? ":]"
  let name := String.ofList name
  if classNames.contains name then return (.named (start.spanTo stop) name negated, stop) else none

/-- Reads a character or an escape sequence. -/
def readMember (verbose : Bool) (start : Cursor) : Except Fault (Span × Atom × Cursor) := do
  match start.head? with
  | some '\\' =>
    let (atom, rest) ← readEscape verbose start
    return (start.spanTo rest, atom, rest)
  | some c => return (start.headSpan, .literal c false, start.next)
  | none => fault .unclosedClass start.here

/-- The item of one member, which is no condition on a place. -/
def memberItem (span : Span) (atom : Atom) : Except Fault ClassItem :=
  match atom with
  | .assertion _ => fault .classEscape span
  | _ => .ok (.atom span atom)

/-- The end of a range, which is a character. -/
def rangeEnd (span : Span) (atom : Atom) : Except Fault (Span × Char × Bool) :=
  match atom with
  | .literal c byte => .ok (span, c, byte)
  | _ => fault .rangeBoundary span

/-- Reads a member or a range of characters.  A hyphen makes a range unless a bracket or another
hyphen comes after it.  `unclosed` is the fault at the end of the pattern. -/
def readRange (verbose : Bool) (unclosed : Span) (start : Cursor) :
    Except Fault (ClassItem × Cursor) := do
  let (firstSpan, first, cursor) ← readMember verbose start
  let hyphen := cursor.skip verbose
  if hyphen.atEnd then fault .unclosedClass unclosed
  let second := hyphen.second? verbose
  if hyphen.head? != some '-' || second == some ']' || second == some '-' then
    return (← memberItem firstSpan first, hyphen)
  let cursor := hyphen.step verbose
  if cursor.atEnd then fault .unclosedClass unclosed
  let (lastSpan, last, rest) ← readMember verbose cursor
  let first ← rangeEnd firstSpan first
  let last ← rangeEnd lastSpan last
  let span : Span := ⟨firstSpan.start, lastSpan.stop⟩
  if last.2.1 < first.2.1 then fault .reversedRange span
  return (.range span first last, rest)

/-- A class that has been opened: where, whether it is negated, and the characters that are shown if
it is never closed. -/
structure OpenClass where
  start : Nat
  negated : Bool
  unclosed : Span
  deriving Repr

/-- The hyphens at the beginning of a class, the last one first, and the place after them. -/
def readHyphens (verbose : Bool) (read : List ClassItem) (cursor : Cursor) :
    (fuel : Nat) → List ClassItem × Cursor
  | 0 => (read, cursor)
  | fuel + 1 =>
    if cursor.head? = some '-' then
      readHyphens verbose (.atom cursor.headSpan (.literal '-' false) :: read)
        (cursor.step verbose) fuel
    else (read, cursor)

/-- Reads the beginning of a class: whether it is negated, and the hyphens or the bracket that stand
for themselves there. -/
def readOpening (verbose : Bool) (start : Cursor) :
    Except Fault (OpenClass × List ClassItem × Cursor) := do
  let cursor := start.step verbose
  if cursor.atEnd then fault .unclosedClass (start.spanTo cursor)
  let negated := cursor.head? == some '^'
  let cursor := if negated then cursor.step verbose else cursor
  if cursor.atEnd then fault .unclosedClass (start.spanTo cursor)
  let (hyphens, cursor) := readHyphens verbose [] cursor cursor.rest.length
  if cursor.atEnd then fault .unclosedClass start.here
  let bracket := hyphens.isEmpty && cursor.head? == some ']'
  let items := if bracket then [.atom cursor.headSpan (.literal ']' false)] else hyphens
  let cursor := if bracket then cursor.step verbose else cursor
  if cursor.atEnd then fault .unclosedClass (start.spanTo cursor)
  return (⟨start.place, negated, start.spanTo cursor⟩, items, cursor)

/-- What was read of a class before the last operator, if there was one, and the items since, the
last of them first. -/
structure ClassPart where
  pending : Option (ClassOp × ClassItem)
  /-- Where the items begin. -/
  place : Nat
  items : List ClassItem
  deriving Repr

namespace ClassPart

/-- The part with one more item. -/
def push (part : ClassPart) (item : ClassItem) : ClassPart :=
  { part with items := item :: part.items }

/-- All that was read of a class. -/
def item (part : ClassPart) : ClassItem :=
  let right := ClassItem.ofReversed part.place part.items
  match part.pending with
  | none => right
  | some (op, left) => .operation ⟨left.span.start, right.span.stop⟩ op left right

end ClassPart

/-- The operator at the cursor. -/
def classOp? (cursor : Cursor) : Option ClassOp :=
  match cursor.rest with
  | '&' :: '&' :: _ => some .inter
  | '-' :: '-' :: _ => some .diff
  | '~' :: '~' :: _ => some .symmDiff
  | _ => none

/-- Reads the items of an open class up to its closing bracket; `outer` are the classes around it,
each with what was read of it. -/
def readItems (verbose : Bool) (outer : List (OpenClass × ClassPart)) (opened : OpenClass)
    (part : ClassPart) (cursor : Cursor) : (fuel : Nat) → Except Fault (ClassItem × Cursor)
  | 0 => fault .unclosedClass opened.unclosed
  | fuel + 1 =>
    let cursor := cursor.skip verbose
    match cursor.head? with
    | none => fault .unclosedClass opened.unclosed
    | some '[' =>
      match readNamedClass? cursor with
      | some (item, rest) => readItems verbose outer opened (part.push item) rest fuel
      | none =>
        match readOpening verbose cursor with
        | .error e => .error e
        | .ok (inner, items, rest) =>
          readItems verbose ((opened, part) :: outer) inner ⟨none, rest.place, items⟩ rest fuel
    | some ']' =>
      let rest := cursor.next
      let item := ClassItem.bracket ⟨opened.start, rest.place⟩ opened.negated part.item
      match outer with
      | [] => .ok (item, rest)
      | (opened, part) :: outer => readItems verbose outer opened (part.push item) rest fuel
    | some _ =>
      match classOp? cursor with
      | some op =>
        let rest := cursor.advance 2
        readItems verbose outer opened ⟨some (op, part.item), rest.place, []⟩ rest fuel
      | none =>
        match readRange verbose opened.unclosed cursor with
        | .error e => .error e
        | .ok (item, rest) => readItems verbose outer opened (part.push item) rest fuel

/-- Reads a class; the cursor is at its opening bracket. -/
def readClass (verbose : Bool) (start : Cursor) : Except Fault (ClassItem × Cursor) := do
  let (opened, items, rest) ← readOpening verbose start
  readItems verbose [] opened ⟨none, rest.place, items⟩ rest (start.rest.length + 1)

end LineShell.Regex
