import LineShell.Regex.Bracket
import LineShell.Text.Alphanumeric

/-!
# Reading patterns

The reader goes through a pattern once from left to right.  What is open, groups and alternations,
is kept on a stack, so that a pattern may be nested to any depth.  Whether the pattern is verbose
holds from where it is set to the end of the group around it.  Every step takes a character at
least, and the reader has as many units of fuel as there are characters, and one for the end.
-/

namespace LineShell.Regex

/-! ### Groups -/

/-- The flag of a letter. -/
def flagOf? (letter : Char) : Option Flag :=
  match letter with
  | 'i' => some .ignoreCase
  | 'm' => some .multiLine
  | 's' => some .dotMatchesAll
  | 'R' => some .crLf
  | 'U' => some .swapGreed
  | 'u' => some .unicode
  | 'x' => some .verbose
  | _ => none

/-- The changes that letters and a minus sign stand for: flags before the sign are switched on, the
others off. -/
def flagChanges (letters : List Char) : FlagChanges :=
  let on := letters.takeWhile (· != '-')
  let off := letters.drop on.length
  (on.filterMap flagOf?).map (·, true) ++ (off.filterMap flagOf?).map (·, false)

/-- Reads flags up to a colon or a closing parenthesis; `seen` are the characters read so far with
their places, the last one first. -/
def readFlags (seen : List (Char × Span)) (cursor : Cursor) :
    (fuel : Nat) → Except Fault (List Char × Cursor)
  | 0 => fault .flagEnd cursor.here
  | fuel + 1 =>
    match cursor.head? with
    | none => fault .flagEnd cursor.here
    | some c =>
      if c = ':' ∨ c = ')' then
        match seen with
        | ('-', span) :: _ => fault .danglingNegation span
        | _ => .ok ((seen.map Prod.fst).reverse, cursor)
      else if c != '-' && (flagOf? c).isNone then fault .unknownFlag cursor.headSpan
      else
        match seen.lookup c with
        | some earlier =>
          let kind := if c = '-' then .repeatedNegation else .duplicateFlag
          .error { kind, span := cursor.headSpan, other := some earlier }
        | none => readFlags ((c, cursor.headSpan) :: seen) cursor.next fuel

/-- Characters of the name of a group. -/
def isNameChar (first : Bool) (c : Char) : Bool :=
  if first then c == '_' || Text.isAlphabetic c
  else c == '_' || c == '.' || c == '[' || c == ']' || Text.isAlphanumeric c

/-- Reads the name of a group and the bracket that closes it; `names` are those that are taken. -/
def readGroupName (names : List (String × Span)) (start : Cursor) :
    Except Fault (String × Span × Cursor) :=
  let name := start.rest.takeWhile (· != '>')
  let stop := start.advance name.length
  match name.mapIdx (fun i c => (i, c)) |>.find? (fun (i, c) => !isNameChar (i == 0) c) with
  | some (i, _) => fault .badName (start.advance i).headSpan
  | none =>
    if stop.atEnd then fault .unclosedName stop.here
    else if name.isEmpty then fault .emptyName start.here
    else
      let text := String.ofList name
      let span := start.spanTo stop
      match names.lookup text with
      | some earlier => .error { kind := .duplicateName, span, other := some earlier }
      | none => .ok (text, span, stop.next)

/-- What a parenthesis begins: a change of flags in what follows, or a group, with a name of its own
or without. -/
inductive GroupStart
  | setFlags (span : Span) (changes : FlagChanges)
  | group (span : Span) (kind : GroupKind) (name : Option (String × Span))
  deriving Repr

/-- Reads what follows the opening parenthesis at the cursor. -/
def readGroupStart (verbose : Bool) (names : List (String × Span)) (start : Cursor) :
    Except Fault (GroupStart × Cursor) := do
  let opening := start.headSpan
  let inner := start.step verbose
  if let some rest := ["?=", "?!", "?<=", "?<!"].findSome? inner.after? then
    fault .lookAround (start.spanTo rest)
  match ["?P<", "?<"].findSome? inner.after?, inner.after? "?" with
  | some rest, _ =>
    let (name, span, rest) ← readGroupName names rest
    return (.group opening .kept (some (name, span)), rest)
  | none, some rest =>
    if rest.atEnd then fault .unclosedGroup opening
    let (letters, stop) ← readFlags [] rest (rest.rest.length + 1)
    if stop.head? == some ')' then
      if letters.isEmpty then fault .missingExpression inner.here
      return (.setFlags (start.spanTo stop.next) (flagChanges letters), stop.next)
    else return (.group opening (.flagged (flagChanges letters)) none, stop.next)
  | none, none => return (.group opening .kept none, inner)

/-! ### Counts -/

/-- The digits at the cursor with what is passed over after each of them, and the place after. -/
def readDigits (verbose : Bool) (digits : List Char) (cursor : Cursor) :
    (fuel : Nat) → List Char × Cursor
  | 0 => (digits.reverse, cursor)
  | fuel + 1 =>
    match cursor.head? with
    | some c =>
      if c.isDigit then readDigits verbose (c :: digits) (cursor.step verbose) fuel
      else (digits.reverse, cursor)
    | none => (digits.reverse, cursor)

/-- White space and, in a verbose pattern, what is passed over after each of its characters. -/
def skipAround (verbose : Bool) (cursor : Cursor) : (fuel : Nat) → Cursor
  | 0 => cursor
  | fuel + 1 =>
    match cursor.head? with
    | some c => if Text.isBlank c then skipAround verbose (cursor.step verbose) fuel else cursor
    | none => cursor

/-- The largest count. -/
def countLimit : Nat := 0xFFFFFFFF

/-- Reads a number with white space around it. -/
def readNumber (verbose : Bool) (cursor : Cursor) : Except Fault Nat × Cursor :=
  let start := cursor.skipBlank
  let (digits, stop) := readDigits verbose [] start start.rest.length
  let rest := skipAround verbose stop stop.rest.length
  let value := digits.foldl (fun n c => n * 10 + (c.toNat - '0'.toNat)) 0
  if digits.isEmpty then (fault .emptyCount (start.spanTo stop), rest)
  else if countLimit < value then (fault .largeCount (start.spanTo stop), rest)
  else (.ok value, rest)

/-- The place after an operator of reluctance, if there is one. -/
def skipReluctant (cursor : Cursor) : Cursor :=
  if cursor.head? == some '?' then cursor.next else cursor

/-- Reads a count in braces and an operator of reluctance after it; the cursor is at the opening
brace. -/
def readCount (verbose : Bool) (start : Cursor) :
    Except Fault ((Nat × Option Nat) × Cursor) := do
  let inner := start.step verbose
  if inner.atEnd then fault .unclosedCount (start.spanTo inner)
  let (least, cursor) := readNumber verbose inner
  if cursor.atEnd then fault .unclosedCount (start.spanTo cursor)
  let (least, most, stop) ← if cursor.head? != some ',' then do
      let least ← least
      pure (least, some least, cursor)
    else do
      let cursor := cursor.step verbose
      if cursor.atEnd then fault .unclosedCount (start.spanTo cursor)
      let least ← least
      if cursor.head? == some '\x7d' then pure (least, none, cursor)
      else
        let (most, cursor) := readNumber verbose cursor
        let most ← most
        pure (least, some most, cursor)
  if stop.head? != some '\x7d' then fault .unclosedCount (start.spanTo stop)
  let rest := skipReluctant (stop.step verbose)
  if most.any (· < least) then fault .reversedCount (start.spanTo rest)
  return ((least, most), rest)

/-! ### Sequences and alternations -/

/-- A sequence that is being read: where it begins, and its parts, the last of them first. -/
structure OpenSequence where
  start : Nat
  parts : List Pattern
  deriving Repr

namespace OpenSequence

/-- The sequence with one more part. -/
def push (sequence : OpenSequence) (part : Pattern) : OpenSequence :=
  { sequence with parts := part :: sequence.parts }

/-- The sequence with its last part repeated.  There has to be one; `operator` is the place of the
operator and `rest` the one after it. -/
def repeatLast (sequence : OpenSequence) (operator rest : Cursor) (least : Nat)
    (most : Option Nat) : Except Fault OpenSequence :=
  match sequence.parts with
  | part :: before =>
    if part.isRepeatable then
      .ok { sequence with
        parts := .repeated ⟨part.span.start, rest.place⟩ part least most :: before }
    else fault .missingExpression operator.here
  | [] => fault .missingExpression operator.here

/-- Whether there is a part to be repeated. -/
def canRepeat (sequence : OpenSequence) : Bool :=
  (sequence.parts.head?.map Pattern.isRepeatable).getD false

/-- The pattern of a sequence that ends at a place. -/
def finish (sequence : OpenSequence) (stop : Nat) : Pattern :=
  match sequence.parts with
  | [] => .empty ⟨sequence.start, stop⟩
  | [part] => part
  | parts => .sequence ⟨sequence.start, stop⟩ parts.reverse

end OpenSequence

/-- Alternatives that are being read: where they begin, those that are complete, the last of them
first, and the sequence that is not. -/
structure OpenAlternation where
  start : Nat
  branches : List Pattern
  sequence : OpenSequence
  deriving Repr

namespace OpenAlternation

/-- Alternatives of which nothing is read yet. -/
def startAt (place : Nat) : OpenAlternation := ⟨place, [], ⟨place, []⟩⟩

/-- The alternatives with one more part of the last one. -/
def push (alternation : OpenAlternation) (part : Pattern) : OpenAlternation :=
  { alternation with sequence := alternation.sequence.push part }

/-- The alternatives after the bar at the cursor. -/
def nextBranch (alternation : OpenAlternation) (cursor : Cursor) : OpenAlternation :=
  { alternation with
    branches := alternation.sequence.finish cursor.place :: alternation.branches
    sequence := ⟨cursor.next.place, []⟩ }

/-- The pattern of alternatives that end at a place. -/
def finish (alternation : OpenAlternation) (stop : Nat) : Pattern :=
  let last := alternation.sequence.finish stop
  match alternation.branches with
  | [] => last
  | branches => .alternation ⟨alternation.start, stop⟩ (last :: branches).reverse

end OpenAlternation

/-- A group that is open: its opening parenthesis, its kind, what comes before it, and whether the
pattern is verbose outside. -/
structure OpenGroup where
  opening : Span
  kind : GroupKind
  outer : OpenAlternation
  verbose : Bool
  deriving Repr

/-- What is open while a pattern is read. -/
structure Reading where
  /-- The groups that are open, the innermost first. -/
  groups : List OpenGroup := []
  /-- The alternatives of the innermost group. -/
  inner : OpenAlternation := .startAt 0
  verbose : Bool := false
  /-- The names of groups, with the places where they were given. -/
  names : List (String × Span) := []
  deriving Repr

namespace Reading

/-- The reading with one more part. -/
def push (reading : Reading) (part : Pattern) : Reading :=
  { reading with inner := reading.inner.push part }

/-- The reading with another sequence in place of the last one. -/
def withSequence (reading : Reading) (sequence : OpenSequence) : Reading :=
  { reading with inner := { reading.inner with sequence } }

/-- The reading after the beginning of a group or a change of flags. -/
def openGroup (reading : Reading) (begun : GroupStart) (rest : Cursor) : Reading :=
  let verboseAfter (changes : FlagChanges) : Bool :=
    (changes.lookup .verbose).getD reading.verbose
  match begun with
  | .setFlags span changes =>
    { reading.push (.flags span changes) with verbose := verboseAfter changes }
  | .group opening kind name =>
    { groups := ⟨opening, kind, reading.inner, reading.verbose⟩ :: reading.groups
      inner := .startAt rest.place
      verbose := verboseAfter kind.changes
      names := name.toList ++ reading.names }

/-- The reading after the closing parenthesis at the cursor. -/
def closeGroup (reading : Reading) (cursor : Cursor) : Except Fault Reading :=
  match reading.groups with
  | [] => fault .unopenedGroup cursor.headSpan
  | innermost :: groups =>
    let span : Span := ⟨innermost.opening.start, cursor.next.place⟩
    let whole := Pattern.group span innermost.kind (reading.inner.finish cursor.place)
    .ok { reading with groups, inner := innermost.outer.push whole, verbose := innermost.verbose }

/-- The reading after the bar at the cursor. -/
def nextBranch (reading : Reading) (cursor : Cursor) : Reading :=
  { reading with inner := reading.inner.nextBranch cursor }

/-- The pattern at the end of the text. -/
def finish (reading : Reading) (stop : Nat) : Except Fault Pattern :=
  match reading.groups with
  | innermost :: _ => fault .unclosedGroup innermost.opening
  | [] => .ok (reading.inner.finish stop)

/-- One step: the reading after the part at the cursor, which is not at the end. -/
def step (reading : Reading) (cursor : Cursor) : Except Fault (Reading × Cursor) := do
  let atom (atom : Atom) (rest : Cursor) : Except Fault (Reading × Cursor) :=
    .ok (reading.push (.atom (cursor.spanTo rest) atom), rest)
  let repeated (least : Nat) (most : Option Nat) : Except Fault (Reading × Cursor) := do
    let rest := skipReluctant cursor.next
    let sequence ← reading.inner.sequence.repeatLast cursor rest least most
    return (reading.withSequence sequence, rest)
  match cursor.head? with
  | none => return (reading, cursor)
  | some '(' =>
    let (begun, rest) ← readGroupStart reading.verbose reading.names cursor
    return (reading.openGroup begun rest, rest)
  | some ')' => return (← reading.closeGroup cursor, cursor.next)
  | some '|' => return (reading.nextBranch cursor, cursor.next)
  | some '[' =>
    let (item, rest) ← readClass reading.verbose cursor
    return (reading.push (.bracket item), rest)
  | some '?' => repeated 0 (some 1)
  | some '*' => repeated 0 none
  | some '+' => repeated 1 none
  | some '\x7b' =>
    if !reading.inner.sequence.canRepeat then fault .missingExpression cursor.here
    let ((least, most), rest) ← readCount reading.verbose cursor
    let sequence ← reading.inner.sequence.repeatLast cursor rest least most
    return (reading.withSequence sequence, rest)
  | some '\\' =>
    let (read, rest) ← readEscape reading.verbose cursor
    atom read rest
  | some '.' => atom .dot cursor.next
  | some '^' => atom (.assertion .lineStart) cursor.next
  | some '$' => atom (.assertion .lineEnd) cursor.next
  | some c => atom (.literal c false) cursor.next

/-- Reads on to the end. -/
def readAll (reading : Reading) (cursor : Cursor) : (fuel : Nat) → Except Fault Pattern
  | 0 => reading.finish cursor.place
  | fuel + 1 =>
    let cursor := cursor.skip reading.verbose
    if cursor.atEnd then reading.finish cursor.place
    else
      match reading.step cursor with
      | .error e => .error e
      | .ok (reading, rest) => readAll reading rest fuel

end Reading

end LineShell.Regex

namespace LineShell

/-- Reads a pattern. -/
def Pattern.parse (text : String) : Except Regex.Fault Pattern := do
  let chars := text.toList
  let pattern ← Regex.Reading.readAll {} ⟨0, chars⟩ (chars.length + 1)
  match pattern.tooDeep? with
  | some fault => throw fault
  | none => return pattern

end LineShell
