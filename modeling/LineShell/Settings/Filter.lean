import LineShell.Settings.Basic
import LineShell.Text.Blank
import LineShell.Text.Case
import LineShell.Text.Layout

/-!
# Filters of the log

A filter is a list of directives with commas between them.  A directive names a part of the program,
a span of its work in brackets, perhaps with fields in braces, and after an equals sign the level
from which on events count; each of them may be missing.  Directives that cannot be read are passed
over, with a notice.
-/

namespace LineShell

/-- Why a directive cannot be read. -/
inductive FilterFault
  | malformed
  | badLevel
  deriving DecidableEq, Repr

/-- The wording of a fault. -/
def FilterFault.message : FilterFault → String
  | .malformed => "invalid filter directive"
  | .badLevel =>
    "error parsing level filter: expected one of \"off\", \"error\", \"warn\", \"info\", "
      ++ "\"debug\", \"trace\", or a number 0-5"

namespace LogFilter

/-- How far a directive is read. -/
inductive State
  | start
  /-- In the name of a part, or in a level that stands alone. -/
  | name
  | span
  /-- In a field, which has no characters so far if `empty` holds. -/
  | field (empty : Bool)
  | afterFields
  | afterSpan
  /-- In the level, which begins at a position. -/
  | level (position : Nat)
  deriving DecidableEq, Repr

/-- The state after the character at a position, if it may stand there. -/
def State.next? (position : Nat) (c : Char) : State → Option State
  | .start =>
    if c == '[' then some .span
    else if c == '-' || c == ':' || c == '_' || Text.isAlphanumeric c then some .name
    else none
  | .name =>
    if c == '=' then some (.level (position + 1)) else if c == '[' then some .span else some .name
  | .span =>
    if c == ']' then some .afterSpan
    else if c == '\x7b' then some (.field true)
    else some .span
  | .field empty =>
    if c == '\x7d' then if empty then none else some .afterFields else some (.field false)
  | .afterFields => if c == ']' then some .afterSpan else none
  | .afterSpan => if c == '=' then some (.level (position + 1)) else none
  | .level first => some (.level first)

/-- The state at the end of a directive, of which some characters are read. -/
def stateFrom? (state : State) (position : Nat) : List Char → Option State
  | [] => some state
  | c :: rest => (state.next? position c).bind fun state => stateFrom? state (position + 1) rest

/-- Whether a text is a level: a number up to five or a name, without regard to case. -/
def isLevel (cs : List Char) : Bool :=
  let digits := if cs.head? = some '+' then cs.drop 1 else cs
  (Text.readDecimal? digits).any (· ≤ 5)
    || ["off", "error", "warn", "info", "debug", "trace"].contains
      (Text.toLowerAscii (String.ofList cs))

/-- Why a directive cannot be read.  White space around it counts for the level alone. -/
def fault? (directive : String) : Option FilterFault :=
  let cs := directive.toList
  match stateFrom? .start 0 (Text.trimChars cs) with
  | some .name | some .afterSpan => none
  | some (.level position) =>
    let level := cs.drop position
    if level.isEmpty || isLevel level then none else some .badLevel
  | _ => some .malformed

/-- The notices on the directives of a filter that cannot be read. -/
def notices (filter : String) : String :=
  String.join (((filter.splitOn ",").filter (!·.isEmpty)).filterMap fun directive =>
    (fault? directive).map fun fault =>
      "ignoring \x60" ++ directive ++ "\x60: " ++ fault.message ++ "\n")

end LogFilter

end LineShell
