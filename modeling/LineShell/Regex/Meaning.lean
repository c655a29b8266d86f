import LineShell.Regex.Basic
import LineShell.Regex.Parser
import LineShell.Regex.Property

/-!
# The meaning of patterns

A pattern becomes a regular expression by resolving its flags.  Flags hold from where they are set
to the end of the group around them, also in later alternatives.  While the flag for Unicode is off,
classes and conditions know the characters of ASCII only, and a part that could match one byte of a
longer character is a fault.
-/

namespace LineShell.Regex

open Text (CodePointSet)

/-- The flags that hold at a place. -/
structure Flags where
  ignoreCase : Bool := false
  multiLine : Bool := false
  dotMatchesAll : Bool := false
  crLf : Bool := false
  unicode : Bool := true
  deriving DecidableEq, Repr

namespace Flags

/-- The flags with one of them switched.  The others make no difference to what is matched. -/
def switch (flags : Flags) (change : Flag × Bool) : Flags :=
  match change with
  | (.ignoreCase, value) => { flags with ignoreCase := value }
  | (.multiLine, value) => { flags with multiLine := value }
  | (.dotMatchesAll, value) => { flags with dotMatchesAll := value }
  | (.crLf, value) => { flags with crLf := value }
  | (.unicode, value) => { flags with unicode := value }
  | (.swapGreed, _) => flags
  | (.verbose, _) => flags

/-- The flags after some changes. -/
def apply (flags : Flags) (changes : FlagChanges) : Flags := changes.foldl switch flags

end Flags

/-! ### Sets of characters -/

/-- The code points of ASCII. -/
def asciiTable : CodePointSet := .ofRange 0 0x7F

/-- What a class is taken from: all code points, or all bytes. -/
def wholeSet (flags : Flags) : CodePointSet := if flags.unicode then .all else .ofRange 0 0xFF

/-- The set with all case variants of its members, if the flags say so. -/
def foldCase (flags : Flags) (set : CodePointSet) : CodePointSet :=
  if flags.ignoreCase then if flags.unicode then set.anyCase else set.asciiAnyCase else set

/-- The set or its complement.  A set of bytes must not have members outside ASCII, which are parts
of longer characters. -/
def negate (flags : Flags) (negated : Bool) (span : Span) (set : CodePointSet) :
    Except Fault CodePointSet :=
  let set := if negated then (wholeSet flags).diff set else set
  if !flags.unicode && !(set.diff asciiTable).isEmpty then fault .splitCharacter span else .ok set

/-- The characters of a class with a letter of its own. -/
def LetterClass.set (flags : Flags) (kind : LetterClass) : CodePointSet :=
  let table := match kind with
    | .digit => digitTable
    | .blank => blankTable
    | .word => wordTable
  if flags.unicode then table else table.inter asciiTable

/-- The characters of a property. -/
def propertySet (flags : Flags) (query : PropertyQuery) (negated : Bool) (span : Span) :
    Except Fault CodePointSet :=
  if !flags.unicode then fault .unicodeOff span
  else
    match query.set with
    | .error kind => fault kind span
    | .ok set => negate flags negated span (foldCase flags set)

/-- The ranges of the classes that are named between `[:` and `:]`. -/
def namedClass (name : String) : CodePointSet :=
  let ranges (l : List (Char × Char)) : CodePointSet :=
    .ofRanges (l.map fun (a, b) => (a.toNat, b.toNat))
  match name with
  | "alnum" => ranges [('0', '9'), ('A', 'Z'), ('a', 'z')]
  | "alpha" => ranges [('A', 'Z'), ('a', 'z')]
  | "ascii" => asciiTable
  | "blank" => ranges [('\t', '\t'), (' ', ' ')]
  | "cntrl" => ranges [('\x00', '\x1f'), ('\x7f', '\x7f')]
  | "digit" => ranges [('0', '9')]
  | "graph" => ranges [('!', '~')]
  | "lower" => ranges [('a', 'z')]
  | "print" => ranges [(' ', '~')]
  | "punct" => ranges [('!', '/'), (':', '@'), ('[', '\x60'), ('\x7b', '~')]
  | "space" => ranges [('\t', '\r'), (' ', ' ')]
  | "upper" => ranges [('A', 'Z')]
  | "word" => ranges [('0', '9'), ('A', 'Z'), ('_', '_'), ('a', 'z')]
  | "xdigit" => ranges [('0', '9'), ('A', 'F'), ('a', 'f')]
  | _ => .empty

/-- A character in a class.  Without Unicode it has to be one of ASCII. -/
def memberCode (flags : Flags) (span : Span) (c : Char) (byte : Bool) : Except Fault Nat :=
  if flags.unicode || c.toNat < 128 then .ok c.toNat
  else if byte then fault .splitCharacter span
  else fault .unicodeOff span

/-- Two sets put together by an operator. -/
def ClassOp.apply : ClassOp → CodePointSet → CodePointSet → CodePointSet
  | .inter, a, b => a.inter b
  | .diff, a, b => a.diff b
  | .symmDiff, a, b => a.symmDiff b

mutual

/-- The characters of an item of a class. -/
def ClassItem.set (flags : Flags) : ClassItem → Except Fault CodePointSet
  | .empty _ => .ok .empty
  | .atom span (.literal c byte) => do
    let n ← memberCode flags span c byte
    return .ofRange n n
  | .atom span (.letter kind negated) => negate flags negated span (kind.set flags)
  | .atom span (.property query negated) => propertySet flags query negated span
  | .atom _ .dot => .ok .empty
  | .atom _ (.assertion _) => .ok .empty
  | .range _ (firstSpan, first, firstByte) (lastSpan, last, lastByte) => do
    let a ← memberCode flags firstSpan first firstByte
    let b ← memberCode flags lastSpan last lastByte
    return .ofRange a b
  | .named span name negated => negate flags negated span (foldCase flags (namedClass name))
  | .bracket span negated content => do
    negate flags negated span (foldCase flags (← content.set flags))
  | .union _ items => do return .unions (← ClassItem.sets flags [] items)
  | .operation _ op left right => do
    let a ← left.set flags
    let b ← right.set flags
    return op.apply (foldCase flags a) (foldCase flags b)

/-- The sets of some items, after those of others, which are given with the last one first. -/
def ClassItem.sets (flags : Flags) (read : List CodePointSet) :
    List ClassItem → Except Fault (List CodePointSet)
  | [] => .ok read.reverse
  | item :: rest =>
    match item.set flags with
    | .error e => .error e
    | .ok set => ClassItem.sets flags (set :: read) rest

end

/-! ### Expressions -/

/-- Any character, or any but those that end a line. -/
def dotSet (flags : Flags) : CodePointSet :=
  if flags.dotMatchesAll then .all
  else if flags.crLf then (CodePointSet.ofCodes [0x0A, 0x0D]).complement
  else (CodePointSet.ofRange 0x0A 0x0A).complement

/-- The anchor of a condition. -/
def Assertion.anchor (flags : Flags) : Assertion → Anchor
  | .lineStart =>
    if !flags.multiLine then .textStart else if flags.crLf then .lineStartCrLf else .lineStart
  | .lineEnd =>
    if !flags.multiLine then .textEnd else if flags.crLf then .lineEndCrLf else .lineEnd
  | .textStart => .textStart
  | .textEnd => .textEnd
  | .wordBoundary => .wordBoundary flags.unicode
  | .notWordBoundary => .notWordBoundary flags.unicode
  | .wordStart => .wordStart flags.unicode
  | .wordEnd => .wordEnd flags.unicode
  | .halfWordStart => .halfWordStart flags.unicode
  | .halfWordEnd => .halfWordEnd flags.unicode

/-- The expression of a part without parts of its own. -/
def Atom.regex (flags : Flags) (span : Span) : Atom → Except Fault Regex
  | .literal c byte =>
    if byte && !flags.unicode && 128 ≤ c.toNat then fault .splitCharacter span
    else .ok (.chars (foldCase flags (.ofChar c)))
  | .dot => if flags.unicode then .ok (.chars (dotSet flags)) else fault .splitCharacter span
  | .letter kind negated => do return .chars (← negate flags negated span (kind.set flags))
  | .property query negated => do return .chars (← propertySet flags query negated span)
  | .assertion kind => .ok (.anchor (kind.anchor flags))

/-- The expressions of a list put together two by two, before others in reverse. -/
def joinPairs (join : Regex → Regex → Regex) (joined : List Regex) : List Regex → List Regex
  | a :: b :: rest => joinPairs join (join a b :: joined) rest
  | [a] => (a :: joined).reverse
  | [] => joined.reverse

theorem length_joinPairs (join : Regex → Regex → Regex) (joined parts : List Regex) :
    (joinPairs join joined parts).length = joined.length + (parts.length + 1) / 2 := by
  fun_induction joinPairs join joined parts with
  | case1 joined a b rest ih => simp only [ih, List.length_cons]; omega
  | case2 joined a => simp
  | case3 joined => simp

/-- The expressions of a list put together.  Half of them stand on each side, so that the expression
does not grow deeper than it has to. -/
def joinAll (join : Regex → Regex → Regex) (parts : List Regex) : Regex :=
  match parts with
  | [] => .empty
  | [a] => a
  | a :: b :: rest => joinAll join (joinPairs join [] (a :: b :: rest))
termination_by parts.length
decreasing_by
  simp only [length_joinPairs, List.length_cons, List.length_nil]
  omega

/-- Expressions one after the other.  Those that are empty are left out. -/
def inOrder (parts : List Regex) : Regex := joinAll .seq (parts.filter (!·.isEmpty))

/-- The set of an expression that reads a single character. -/
def set? : Regex → Option CodePointSet
  | .chars set => some set
  | _ => none

/-- Expressions of which one has to match.  Characters make one set, and so do sets of several
characters. -/
def oneOf (parts : List Regex) : Regex :=
  match parts.mapM set? with
  | some sets =>
    let single := sets.map (·.isSingle)
    if single.all id || !single.any id then .chars (.unions sets) else joinAll .alt parts
  | none => joinAll .alt parts

end LineShell.Regex

namespace LineShell.Pattern

open Regex

mutual

/-- The expression of a pattern where the given flags hold, and the flags that hold after it. -/
def meaning (flags : Flags) : Pattern → Except Fault (Regex × Flags)
  | .empty _ => .ok (.empty, flags)
  | .flags _ changes => .ok (.empty, flags.apply changes)
  | .atom span a => do return (← a.regex flags span, flags)
  | .bracket item => do return (.chars (← item.set flags), flags)
  | .repeated _ part least most => do
    let (regex, flags) ← part.meaning flags
    return (regex.repeated least most, flags)
  | .group _ .kept part => do
    let (regex, _) ← part.meaning flags
    return (.group regex, flags)
  | .group _ (.flagged changes) part => do
    let (regex, _) ← part.meaning (flags.apply changes)
    return (regex, flags)
  | .alternation _ parts => do
    let (regexes, flags) ← meanings flags [] parts
    return (oneOf regexes, flags)
  | .sequence _ parts => do
    let (regexes, flags) ← meanings flags [] parts
    return (inOrder regexes, flags)

/-- The expressions of some patterns after others, which are given with the last one first, and the
flags that hold after them. -/
def meanings (flags : Flags) (read : List Regex) :
    List Pattern → Except Fault (List Regex × Flags)
  | [] => .ok (read.reverse, flags)
  | part :: rest =>
    match part.meaning flags with
    | .error e => .error e
    | .ok (regex, flags) => meanings flags (regex :: read) rest

end

end LineShell.Pattern

namespace LineShell.Regex

/-- The regular expression of a pattern. -/
def parse (text : String) : Except Fault Regex := do
  let pattern ← Pattern.parse text
  let (regex, _) ← pattern.meaning {}
  return regex

end LineShell.Regex
