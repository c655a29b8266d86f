import LineShell.Package
import LineShell.Text.Search

/-!
# The package of commands on texts
-/

namespace LineShell.Builtin

/-- The commands on texts, by name. -/
def textCommands : List (String × Command) :=
  let entry (name : String) (least : Nat) (most : Option Nat) (kinds : List Kind)
      (command : TextCommand) (description usage : String) : String × Command :=
    (name, ⟨least, most, description, usage, kinds, .builtin (.text command)⟩)
  [entry "upper" 1 none [] .upper "Push the text in upper case" "upper TEXT...",
   entry "lower" 1 none [] .lower "Push the text in lower case" "lower TEXT...",
   entry "length" 1 (some 1) [] .length "Push the number of characters" "length TEXT",
   entry "concat" 0 none [] .concat "Push the arguments joined without spaces"
     "concat [TEXT]...",
   entry "words" 1 (some 1) [] .words "Push the whitespace-separated words as a sequence"
     "words TEXT",
   entry "replace" 3 (some 3) [] .replace "Push TEXT with every FROM replaced by TO"
     "replace TEXT FROM TO",
   entry "char-at" 2 (some 2) [.text, .int] .charAt "Push the character at a zero-based index"
     "char-at TEXT INDEX"]

/-- The value that a command on texts gives, if it gives one. -/
def runText (command : TextCommand) (args : Arguments) : Except Error (Option Item) := do
  match command with
  | .upper => return some (.text (Text.toUpperCase (args.joined 0)))
  | .lower => return some (.text (Text.toLowerCase (args.joined 0)))
  | .length => return some (.int (← args.text 0).length)
  | .concat => return some (.text (String.join (args.rest 0)))
  | .words => return some (.seq (Text.blankWords (← args.text 0)))
  | .replace =>
    return some (.text (Text.replaceAll (← args.text 0) (← args.text 1) (← args.text 2)))
  | .charAt =>
    let text ← args.text 0
    let index ← args.int 1
    if index < 0 then return none
    return (text.toList[index.toNat]?).map fun c => .text c.toString

end LineShell.Builtin
