import LineShell.Text.Blank
import LineShell.Text.Lines

/-!
# The history of entered lines

The last lines that were entered.  A line that repeats the one before it, begins with white space or
is empty is not kept.  The file of a history has a first line that tells its form; line feeds and
backslashes in its entries are escaped.
-/

namespace LineShell

/-- The last lines entered, oldest first. -/
structure History where
  entries : List String
  maxEntries : Nat
  /-- Whether a line was added since the history was loaded. -/
  changed : Bool
  deriving DecidableEq, Repr

namespace History

/-- A history without lines. -/
def empty (maxEntries : Nat) : History := ⟨[], maxEntries, false⟩

/-- Whether a line is not kept. -/
def ignores (history : History) (line : String) : Bool :=
  history.maxEntries == 0 || line.toList.head?.all Text.isBlank
    || history.entries.getLast? == some line

/-- Adds a line; the oldest one makes room for it. -/
def add (history : History) (line : String) : History :=
  if history.ignores line then history
  else
    let kept := if history.entries.length = history.maxEntries then history.entries.drop 1
      else history.entries
    { history with entries := kept ++ [line], changed := true }

/-- The first line of a history file. -/
def header : String := "#V2"

/-- The characters of an entry as they are written to a file. -/
def escape : List Char → List Char
  | [] => []
  | '\\' :: rest => '\\' :: '\\' :: escape rest
  | '\n' :: rest => '\\' :: 'n' :: escape rest
  | c :: rest => c :: escape rest

/-- The characters of an entry from a file; nothing if a backslash escapes anything else. -/
def unescape? : List Char → Option (List Char)
  | [] => some []
  | '\\' :: '\\' :: rest => (unescape? rest).map ('\\' :: ·)
  | '\\' :: 'n' :: rest => (unescape? rest).map ('\n' :: ·)
  | c :: rest => if c = '\\' then none else (unescape? rest).map (c :: ·)

theorem unescape?_escape (cs : List Char) : unescape? (escape cs) = some cs := by
  fun_induction escape cs <;> simp_all [unescape?]

/-- The text of a history file. -/
def fileText (history : History) : String :=
  let lines := header :: history.entries.map fun entry => String.ofList (escape entry.toList)
  String.join (lines.map (· ++ "\n"))

/-- An entry from its line in a file; one that is not escaped as it should be is taken as it stands.
-/
def readEntry (line : String) : String :=
  match unescape? line.toList with
  | some entry => String.ofList entry
  | none => line

/-- The history with the lines of a text.  Without the header every line is an entry as it stands.
-/
def addText (history : History) (text : String) : History :=
  match Text.lines text with
  | [] => history
  | first :: rest =>
    if first = header then (rest.map readEntry).foldl add history
    else (first :: rest).foldl add history

/-- The history with the lines of a file.  If it could not be read to its end, the lines count as
added since. -/
def load (history : History) (text : String) (whole : Bool) : History :=
  let loaded := history.addText text
  if whole then { loaded with changed := false } else loaded

end History

end LineShell
