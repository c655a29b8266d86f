import LineShell.Text.Blank
import LineShell.Text.Bytes
import LineShell.Text.Search
import LineShell.Word

/-!
# Completion of the word before the cursor

The word being typed is what stands before the cursor back to white space or a quote character.
Command names are offered for the first word of a line, and macro names for every word.  Positions
count bytes.
-/

namespace LineShell.Completion

/-- A name that is offered: what is shown of it, and what is put in place of the word. -/
structure Candidate where
  display : String
  replacement : String
  deriving DecidableEq, Repr

/-- The candidates, in order, and where the word begins that they would replace. -/
structure Offer where
  start : Nat
  candidates : List Candidate
  deriving DecidableEq, Repr

/-- The names that may be put in place of the word, in order. -/
def Offer.names (offer : Offer) : List String := offer.candidates.map (·.replacement)

/-- White space and quote characters end the word being typed. -/
def isWordEnd (c : Char) : Bool := Text.isBlank c || Word.isQuote c

/-- The text before the word being typed, and the word. -/
def splitWord (before : List Char) : List Char × List Char :=
  let word := (before.reverse.takeWhile (!isWordEnd ·)).reverse
  (before.take (before.length - word.length), word)

/-- The names that begin with a word, which are shown as they are. -/
def matching (word : List Char) (names : List String) : List Candidate :=
  (names.filter fun name => (Text.after? word name.toList).isSome).map fun name => ⟨name, name⟩

/-- The names that begin with a word: those of macros, and at the beginning of a line also those of
commands. -/
def candidates (earlier word : List Char) (commands macros : List String) : List Candidate :=
  if earlier.all Text.isBlank then matching word commands ++ matching word macros
  else matching word macros

/-- The candidates without those that put in the same as the one kept before them, which is the
given one at first. -/
def dropRepeatsOf (last : Candidate) : List Candidate → List Candidate
  | [] => []
  | next :: rest =>
    if next.replacement = last.replacement then dropRepeatsOf last rest
    else next :: dropRepeatsOf next rest

/-- The candidates without those that put in the same as the one before them. -/
def dropRepeats : List Candidate → List Candidate
  | [] => []
  | first :: rest => first :: dropRepeatsOf first rest

/-- The names that begin with the word being typed. -/
def offer (before : List Char) (commands macros : List String) : Offer :=
  let (earlier, word) := splitWord before
  if word.isEmpty then ⟨Text.byteCount before, []⟩
  else
    let sorted := (candidates earlier word commands macros).mergeSort fun a b =>
      decide (a.replacement ≤ b.replacement)
    ⟨Text.byteCount earlier, dropRepeats sorted⟩

/-- The offer at a byte position of a line, or at its end. -/
def complete? (line : String) (position : Option Nat) (commands macros : List String) :
    Option Offer :=
  (Text.takeBytes? (position.getD line.utf8ByteSize) line.toList).map fun before =>
    offer before commands macros

end LineShell.Completion
