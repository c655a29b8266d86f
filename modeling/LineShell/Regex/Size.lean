import LineShell.Regex.Meaning
import LineShell.Text.ByteRanges

/-!
# The size of a pattern

An expression is run by two automata on the bytes of a text, one that reads forwards and one that
reads backwards.  A pattern is refused when one of them would take too much room.  Their states are
not built for that: `Regex.size` counts the room of every part, and a part that is repeated counts
as often as it would be written out.

A state takes 32 bytes, and four more for each choice or eight for each range of bytes that it
tells apart.
-/

namespace LineShell.Regex

open Text (ByteRange CodePointSet)

/-- The direction in which an automaton reads a text. -/
inductive Direction
  | forward
  | backward
  deriving DecidableEq, Repr

/-- The room of a state. -/
def stateSize : Nat := 32

/-- The room of a choice in a state that has several. -/
def choiceSize : Nat := 4

/-- The room of a range of bytes in a state that tells several apart. -/
def rangeSize : Nat := 8

/-- The room of a pattern at most. -/
def sizeLimit : Nat := 10 * 1024 * 1024

/-- The sum of numbers. -/
def total : List Nat → Nat
  | [] => 0
  | n :: rest => n + total rest

/-! ### Sets of characters -/

/-- The number of elements that two lists have in common at the beginning. -/
def commonLength : List ByteRange → List ByteRange → Nat
  | a :: as, b :: bs => if a = b then commonLength as bs + 1 else 0
  | _, _ => 0

/-- The number of beginnings that sequences in order have, apart from those that the sequence before
them has. -/
def beginningCount (before : List ByteRange) : List (List ByteRange) → Nat
  | [] => 0
  | bytes :: rest => bytes.length - commonLength before bytes + beginningCount bytes rest

/-- Sequences in order by their first ranges, with what follows these. -/
def branches : List (List ByteRange) → List (ByteRange × List (List ByteRange))
  | [] => []
  | [] :: rest => branches rest
  | (range :: tail) :: rest =>
    match branches rest with
    | (next, tails) :: others =>
      if next = range then (range, tail :: tails) :: others
      else (range, [tail]) :: (next, tails) :: others
    | [] => [(range, [tail])]

/-- What can remain of sequences after some of their first ranges, as long as something does.  No
sequence has more ranges than there is fuel. -/
def remainders : (fuel : Nat) → List (List ByteRange) → List (List (List ByteRange))
  | 0, _ => []
  | fuel + 1, sequences =>
    if sequences.all List.isEmpty then []
    else sequences :: (branches sequences).flatMap fun (_, tails) => remainders fuel tails

/-- The room for a set of characters.  A single character takes a state for each byte, and
characters of one byte take a state that tells their ranges apart.  Of other characters the forward
automaton has a state for each remainder, and the backward one for each beginning of a sequence. -/
def setSize (direction : Direction) (set : CodePointSet) : Nat :=
  let sequences := set.byteSequences
  if set.isSingle then stateSize * total (sequences.map List.length)
  else if sequences.all (·.length == 1) then 2 * stateSize + rangeSize * sequences.length
  else
    match direction with
    | .forward =>
      let states := (remainders 4 sequences).eraseDups
      stateSize * (1 + states.length)
        + rangeSize * total (states.map fun tails => (branches tails).length)
    | .backward =>
      stateSize * (2 + beginningCount [] sequences) + choiceSize * sequences.length

/-! ### Alternatives that are texts -/

/-- The bytes of the only text that an expression matches. -/
def bytes? : Regex → Option (List ByteRange)
  | .chars set => if set.isSingle then some set.byteSequences.flatten else none
  | .seq a b => return (← a.bytes?) ++ (← b.bytes?)
  | _ => none

/-- The alternatives of an expression, those of alternatives included. -/
def branchesOf : Regex → List Regex
  | .alt a b => a.branchesOf ++ b.branchesOf
  | regex => [regex]

/-- The runs of words between those that are empty. -/
def runsOf : List (List ByteRange) → List (List (List ByteRange))
  | [] => [[]]
  | [] :: rest => [] :: runsOf rest
  | word :: rest =>
    match runsOf rest with
    | run :: runs => (word :: run) :: runs
    | [] => [[word]]

/-- The first byte of a word. -/
def firstByte (word : List ByteRange) : Nat := (word.head?.map Prod.fst).getD 0

/-- The room of a tree of words, which has a choice between runs and in each run a state that tells
the first bytes apart.  No word is longer than there is fuel. -/
def treeSize : (fuel : Nat) → List (List ByteRange) → Nat
  | 0, _ => 0
  | fuel + 1, words =>
    if words.all List.isEmpty then 0
    else
      let runs := runsOf words
      let sizes := (runs.filter (!·.isEmpty)).map fun run =>
        let kinds := branches (run.mergeSort fun a b => decide (firstByte a ≤ firstByte b))
        stateSize + (if kinds.length = 1 then 0 else rangeSize * kinds.length)
          + total (kinds.map fun (_, tails) => treeSize fuel tails)
      stateSize + choiceSize * (sizes.length + runs.length - 1) + total sizes

/-- The room of alternatives that are all texts. -/
def wordsSize (direction : Direction) (words : List (List ByteRange)) : Nat :=
  let words := match direction with
    | .forward => words
    | .backward => words.map List.reverse
  stateSize + treeSize (total (words.map List.length) + 1) words

/-! ### Expressions -/

/-- Whether every match begins at the start of the text. -/
def beginsAtStart : Regex → Bool
  | .anchor .textStart => true
  | .group a => a.beginsAtStart
  | .seq a b => a.beginsAtStart || a.readsNothing && b.beginsAtStart
  | .alt a b => a.beginsAtStart && b.beginsAtStart
  | .iterate a least _ => 0 < least && a.beginsAtStart
  | _ => false

/-- Whether every match stops at the end of the text. -/
def stopsAtEnd : Regex → Bool
  | .anchor .textEnd => true
  | .group a => a.stopsAtEnd
  | .seq a b => b.stopsAtEnd || b.readsNothing && a.stopsAtEnd
  | .alt a b => a.stopsAtEnd && b.stopsAtEnd
  | .iterate a least _ => 0 < least && a.stopsAtEnd
  | _ => false

/-- The room of a state between two choices. -/
def forkSize : Nat := stateSize + 2 * choiceSize

/-- The room of a part of the given size that is repeated; `reads` tells whether every match of it
reads something. -/
def repeatedSize (size : Nat) (reads : Bool) : (least : Nat) → (most : Option Nat) → Nat
  | 0, some 1 => forkSize + size + stateSize
  | 0, none => if reads then forkSize + size else 2 * forkSize + size + stateSize
  | least, none => least * size + forkSize
  | least, some most =>
    let required := if least = 0 then stateSize else least * size
    if most ≤ least then required
    else required + stateSize + (most - least) * (forkSize + size)

/-- The room of a part.  Alternatives of alternatives count as one choice; `within` tells whether
the part is an alternative. -/
def partSize (direction : Direction) (within : Bool) : Regex → Nat
  | .alt a b =>
    let mixed := partSize direction true a + partSize direction true b
    if within then mixed
    else
      match (a.branchesOf ++ b.branchesOf).mapM bytes? with
      | some words => wordsSize direction words
      | none => 2 * stateSize + mixed
  | .empty => choice + stateSize
  | .chars set => choice + setSize direction set
  | .anchor _ => choice + stateSize
  | .group a =>
    let marks := match direction with
      | .forward => 2 * stateSize
      | .backward => 0
    choice + marks + partSize direction false a
  | .seq a b => choice + partSize direction false a + partSize direction false b
  | .iterate a least most =>
    let reads := a.leastLength?.any (0 < ·)
    choice + repeatedSize (partSize direction false a) reads least most
where
  /-- The room for the choice of this part. -/
  choice : Nat := if within then choiceSize else 0

/-- The room of the automaton of an expression: it may pass over any bytes before a match, unless
every match is at an end of the text; forwards it marks where the match begins and stops. -/
def size (direction : Direction) (regex : Regex) : Nat :=
  let anchored := match direction with
    | .forward => regex.beginsAtStart
    | .backward => regex.stopsAtEnd
  let skipped := if anchored then stateSize else forkSize + 2 * stateSize + rangeSize
  skipped + partSize direction false (.group regex) + stateSize

/-- Whether both automata have room. -/
def fits (regex : Regex) : Bool :=
  regex.size .forward ≤ sizeLimit && regex.size .backward ≤ sizeLimit

/-! ### Refusals -/

/-- Why a pattern cannot be used. -/
inductive Refusal
  | malformed (fault : Fault)
  | tooLarge
  deriving DecidableEq, Repr

/-- A refusal of a pattern in words. -/
def Refusal.message (pattern : String) : Refusal → String
  | .malformed fault => fault.message pattern
  | .tooLarge =>
    "Compiled regex exceeds size limit of " ++ Text.decimal sizeLimit ++ " bytes."

/-- The regular expression of a pattern that is well formed and not too large. -/
def compile (pattern : String) : Except Refusal Regex :=
  match parse pattern with
  | .error fault => .error (.malformed fault)
  | .ok regex => if regex.fits then .ok regex else .error .tooLarge

end LineShell.Regex
