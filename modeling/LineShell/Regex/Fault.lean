import LineShell.Text.Layout
import LineShell.Text.Lines

/-!
# Faults of patterns

A fault names what is wrong and the characters of the pattern at which it is.  Its message shows the
pattern with carets below these characters.
-/

namespace LineShell.Regex

/-- What can be wrong with a pattern. -/
inductive FaultKind
  | unclosedGroup
  | unopenedGroup
  | unclosedClass
  | missingExpression
  | unclosedCount
  | emptyCount
  | largeCount
  | reversedCount
  | reversedRange
  | rangeBoundary
  | classEscape
  | escapeEnd
  | unknownEscape
  | backreference
  | lookAround
  | hexEmpty
  | hexDigit
  | hexValue
  | propertyLetter
  | propertyName
  | propertyValue
  | unicodeOff
  | splitCharacter
  | unknownFlag
  | duplicateFlag
  | repeatedNegation
  | danglingNegation
  | flagEnd
  | emptyName
  | badName
  | unclosedName
  | duplicateName
  | boundaryEnd
  | unclosedBoundary
  | unknownBoundary
  | deepNesting (limit : Nat)
  deriving DecidableEq, Repr

/-- The words for a fault. -/
def FaultKind.words : FaultKind → String
  | .unclosedGroup => "unclosed group"
  | .unopenedGroup => "unopened group"
  | .unclosedClass => "unclosed character class"
  | .missingExpression => "repetition operator missing expression"
  | .unclosedCount => "unclosed counted repetition"
  | .emptyCount => "repetition quantifier expects a valid decimal"
  | .largeCount => "decimal literal invalid"
  | .reversedCount => "invalid repetition count range, the start must be <= the end"
  | .reversedRange => "invalid character class range, the start must be <= the end"
  | .rangeBoundary => "invalid range boundary, must be a literal"
  | .classEscape => "invalid escape sequence found in character class"
  | .escapeEnd => "incomplete escape sequence, reached end of pattern prematurely"
  | .unknownEscape => "unrecognized escape sequence"
  | .backreference => "backreferences are not supported"
  | .lookAround => "look-around, including look-ahead and look-behind, is not supported"
  | .hexEmpty => "hexadecimal literal empty"
  | .hexDigit => "invalid hexadecimal digit"
  | .hexValue => "hexadecimal literal is not a Unicode scalar value"
  | .propertyLetter => "invalid Unicode character class"
  | .propertyName => "Unicode property not found"
  | .propertyValue => "Unicode property value not found"
  | .unicodeOff => "Unicode not allowed here"
  | .splitCharacter => "pattern can match invalid UTF-8"
  | .unknownFlag => "unrecognized flag"
  | .duplicateFlag => "duplicate flag"
  | .repeatedNegation => "flag negation operator repeated"
  | .danglingNegation => "dangling flag negation operator"
  | .flagEnd => "expected flag but got end of regex"
  | .emptyName => "empty capture group name"
  | .badName => "invalid capture group character"
  | .unclosedName => "unclosed capture group name"
  | .duplicateName => "duplicate capture group name"
  | .boundaryEnd =>
    "found either the beginning of a special word boundary or a bounded repetition on a \\b with "
      ++ "an opening brace, but no closing brace"
  | .unclosedBoundary =>
    "special word boundary assertion is either unclosed or contains an invalid character"
  | .unknownBoundary =>
    "unrecognized special word boundary assertion, valid choices are: start, end, start-half or "
      ++ "end-half"
  | .deepNesting limit =>
    "exceed the maximum number of nested parentheses/brackets (" ++ Text.decimal limit ++ ")"

/-- The characters of a pattern from `start` up to `stop`. -/
structure Span where
  start : Nat
  stop : Nat
  deriving DecidableEq, Repr

/-- A fault at some characters of the pattern, with those that it is in conflict with, if there are
any. -/
structure Fault where
  kind : FaultKind
  span : Span
  other : Option Span := none
  deriving DecidableEq, Repr

namespace Fault

/-- The line of a place in the pattern, counted from zero, and its column there. -/
def lineAndColumn (pattern : List Char) (place : Nat) : Nat × Nat :=
  let before := pattern.take place
  (before.count '\n', (before.reverse.takeWhile (· != '\n')).length)

/-- A number with blanks before it, up to a width. -/
def padLeft (width : Nat) (n : Nat) : String :=
  let digits := Text.decimal n
  String.ofList (List.replicate (width - digits.length) ' ') ++ digits

/-- A number of copies of a character. -/
def copies (c : Char) (count : Nat) : String := String.ofList (List.replicate count c)

/-- The carets below faulty characters, given by their first column and their number, from a column
on. -/
def caretsFrom (column : Nat) : List (Nat × Nat) → String
  | [] => ""
  | (start, count) :: rest =>
    let count := max 1 count
    copies ' ' (start - column) ++ copies '^' count ++ caretsFrom (max start column + count) rest

/-- A span with the lines and the columns of its ends. -/
structure Shown where
  line : Nat
  column : Nat
  lastLine : Nat
  lastColumn : Nat

/-- Where the ends of a span are. -/
def shown (pattern : List Char) (span : Span) : Shown :=
  let (line, column) := lineAndColumn pattern span.start
  let (lastLine, lastColumn) := lineAndColumn pattern span.stop
  ⟨line, column, lastLine, lastColumn⟩

/-- The spans of a fault in the order of the pattern. -/
def spans (fault : Fault) : List Span :=
  match fault.other with
  | none => [fault.span]
  | some other =>
    if other.start < fault.span.start then [other, fault.span] else [fault.span, other]

/-- Where a span of several lines is, in words. -/
def Shown.words (s : Shown) : String :=
  "on line " ++ Text.decimal (s.line + 1) ++ " (column " ++ Text.decimal (s.column + 1)
    ++ ") through line " ++ Text.decimal (s.lastLine + 1) ++ " (column "
    ++ Text.decimal s.lastColumn ++ ")\n"

/-- The pattern with carets below the faulty characters.  The lines of a pattern of several lines
are numbered and stand between two rules; a fault that covers several lines is described in words.
-/
def message (fault : Fault) (pattern : String) : String :=
  let chars := pattern.toList
  let lines := Text.lines pattern
  let count := lines.length + if chars.getLast? = some '\n' then 1 else 0
  let width := if count ≤ 1 then 0 else (Text.decimal count).length
  let margin := if width = 0 then 4 else width + 2
  let places := fault.spans.map (shown chars)
  let (within, across) := places.partition fun s => s.line == s.lastLine
  let numbered := String.join (lines.mapIdx fun i text =>
    let here := within.filter (·.line == i)
    let carets := copies ' ' margin
      ++ caretsFrom 0 (here.map fun s => (s.column, s.lastColumn - s.column)) ++ "\n"
    (if width = 0 then "    " else padLeft width (i + 1) ++ ": ") ++ text ++ "\n"
      ++ (if here.isEmpty then "" else carets))
  let rule := copies '~' 79 ++ "\n"
  "regex parse error:\n"
    ++ (if chars.contains '\n' then rule ++ numbered ++ rule ++ String.join (across.map Shown.words)
        else numbered)
    ++ "error: " ++ fault.kind.words

end Fault

end LineShell.Regex
