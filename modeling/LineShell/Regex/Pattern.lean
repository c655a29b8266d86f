import LineShell.Regex.Fault

/-!
# Patterns

The tree of a pattern as it is written.  Every part knows the characters of the pattern that it was
read from, since a fault may be found only when the tree is complete: `Pattern.tooDeep?` looks for a
part that is nested too deeply, and the meaning of a part may be refused because of the flags that
hold where it stands.
-/

namespace LineShell.Regex

/-- What a letter between `(?` and `)` switches. -/
inductive Flag
  | ignoreCase
  | multiLine
  | dotMatchesAll
  | crLf
  | swapGreed
  | unicode
  | verbose
  deriving DecidableEq, Repr

/-- Flags that are switched on or off. -/
abbrev FlagChanges := List (Flag × Bool)

/-- What a group is for: its match is kept, or flags are switched in it. -/
inductive GroupKind
  | kept
  | flagged (changes : FlagChanges)
  deriving DecidableEq, Repr

/-- The flags that are switched in a group. -/
def GroupKind.changes : GroupKind → FlagChanges
  | .kept => []
  | .flagged changes => changes

/-- The classes that have a letter of their own. -/
inductive LetterClass
  | digit
  | blank
  | word
  deriving DecidableEq, Repr

/-- A property of characters, given by its name, or by its name and a value. -/
inductive PropertyQuery
  | named (name : String)
  | valued (name value : String)
  deriving DecidableEq, Repr

/-- The conditions on a place that a pattern can name. -/
inductive Assertion
  | lineStart
  | lineEnd
  | textStart
  | textEnd
  | wordBoundary
  | notWordBoundary
  | wordStart
  | wordEnd
  | halfWordStart
  | halfWordEnd
  deriving DecidableEq, Repr

/-- The parts of a pattern without parts of their own.  A literal may have been written as a byte,
by two hexadecimal digits. -/
inductive Atom
  | literal (c : Char) (byte : Bool)
  | dot
  | letter (kind : LetterClass) (negated : Bool)
  | property (query : PropertyQuery) (negated : Bool)
  | assertion (kind : Assertion)
  deriving DecidableEq, Repr

/-- How two parts of a class in brackets are put together. -/
inductive ClassOp
  | inter
  | diff
  | symmDiff
  deriving DecidableEq, Repr

/-- What stands in a class in brackets. -/
inductive ClassItem
  | empty (span : Span)
  | atom (span : Span) (atom : Atom)
  | range (span : Span) (first last : Span × Char × Bool)
  | named (span : Span) (name : String) (negated : Bool)
  | bracket (span : Span) (negated : Bool) (content : ClassItem)
  | union (span : Span) (items : List ClassItem)
  | operation (span : Span) (op : ClassOp) (left right : ClassItem)
  deriving Repr

namespace ClassItem

/-- The characters that the item was read from. -/
def span : ClassItem → Span
  | .empty span => span
  | .atom span _ => span
  | .range span _ _ => span
  | .named span _ _ => span
  | .bracket span _ _ => span
  | .union span _ => span
  | .operation span _ _ _ => span

/-- The item that consists of the given ones, the last of them first; an empty one stands at
`place`. -/
def ofReversed (place : Nat) : List ClassItem → ClassItem
  | [] => .empty ⟨place, place⟩
  | [item] => item
  | items =>
    let start := (items.getLast?.map (·.span.start)).getD place
    let stop := (items.head?.map (·.span.stop)).getD place
    .union ⟨start, stop⟩ items.reverse

/-- The first part that lies `depth` levels inside the item. -/
def partAt? : Nat → ClassItem → Option Span
  | 0, .bracket span _ _ => some span
  | 0, .union span _ => some span
  | 0, .operation span _ _ _ => some span
  | depth + 1, .bracket _ _ content => content.partAt? depth
  | depth + 1, .union _ items => items.findSome? (partAt? depth)
  | depth + 1, .operation _ _ left right => (left.partAt? depth).or (right.partAt? depth)
  | _, _ => none

end ClassItem

end LineShell.Regex

namespace LineShell

/-- A pattern as it is written. -/
inductive Pattern
  | empty (span : Regex.Span)
  | flags (span : Regex.Span) (changes : Regex.FlagChanges)
  | atom (span : Regex.Span) (atom : Regex.Atom)
  | bracket (item : Regex.ClassItem)
  | repeated (span : Regex.Span) (part : Pattern) (least : Nat) (most : Option Nat)
  | group (span : Regex.Span) (kind : Regex.GroupKind) (part : Pattern)
  | alternation (span : Regex.Span) (parts : List Pattern)
  | sequence (span : Regex.Span) (parts : List Pattern)
  deriving Repr

namespace Pattern

/-- The characters that the pattern was read from. -/
def span : Pattern → Regex.Span
  | .empty span => span
  | .flags span _ => span
  | .atom span _ => span
  | .bracket item => item.span
  | .repeated span _ _ _ => span
  | .group span _ _ => span
  | .alternation span _ => span
  | .sequence span _ => span

/-- Whether there is an expression that can be repeated. -/
def isRepeatable : Pattern → Bool
  | .empty _ => false
  | .flags _ _ => false
  | _ => true

/-- The first part that lies `depth` levels inside the pattern. -/
def partAt? : Nat → Pattern → Option Regex.Span
  | depth, .bracket item => item.partAt? depth
  | 0, .repeated span _ _ _ => some span
  | 0, .group span _ _ => some span
  | 0, .alternation span _ => some span
  | 0, .sequence span _ => some span
  | depth + 1, .repeated _ part _ _ => part.partAt? depth
  | depth + 1, .group _ _ part => part.partAt? depth
  | depth + 1, .alternation _ parts => parts.findSome? (partAt? depth)
  | depth + 1, .sequence _ parts => parts.findSome? (partAt? depth)
  | _, _ => none

/-- How many levels of groups, classes, repetitions and sequences there may be. -/
def nestingLimit : Nat := 250

/-- The fault of a pattern that is nested too deeply. -/
def tooDeep? (pattern : Pattern) : Option Regex.Fault :=
  (pattern.partAt? nestingLimit).map fun span => { kind := .deepNesting nestingLimit, span }

end Pattern

end LineShell
