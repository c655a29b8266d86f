import LineShell.Regex.Pattern
import LineShell.Text.Blank

/-!
# Places in a pattern

A cursor is a place in a pattern together with what follows it.  In a verbose pattern white space
and comments are passed over between the parts, and inside some of them.
-/

namespace LineShell.Regex

/-- A place in a pattern and the characters after it. -/
structure Cursor where
  place : Nat
  rest : List Char
  deriving DecidableEq, Repr

namespace Cursor

/-- The character after the place. -/
def head? (cursor : Cursor) : Option Char := cursor.rest.head?

/-- Whether there is nothing after the place. -/
def atEnd (cursor : Cursor) : Bool := cursor.rest.isEmpty

/-- The place after the next character, if there is one. -/
def next (cursor : Cursor) : Cursor :=
  match cursor.rest with
  | [] => cursor
  | _ :: rest => ⟨cursor.place + 1, rest⟩

/-- The place after a number of characters, of which there are enough. -/
def advance (cursor : Cursor) (count : Nat) : Cursor :=
  ⟨cursor.place + count, cursor.rest.drop count⟩

/-- The place after white space and comments, `comment` telling whether a comment is being read. -/
def skipFrom (place : Nat) (comment : Bool) : List Char → Cursor
  | [] => ⟨place, []⟩
  | c :: rest =>
    if comment then skipFrom (place + 1) (c != '\n') rest
    else if Text.isBlank c then skipFrom (place + 1) false rest
    else if c = '#' then skipFrom (place + 1) true rest
    else ⟨place, c :: rest⟩

/-- In a verbose pattern, the place after white space and comments. -/
def skip (cursor : Cursor) (verbose : Bool) : Cursor :=
  if verbose then skipFrom cursor.place false cursor.rest else cursor

/-- The place after the next character and what is passed over then. -/
def step (cursor : Cursor) (verbose : Bool) : Cursor := cursor.next.skip verbose

/-- The place after white space, in a verbose pattern or not. -/
def skipBlank (cursor : Cursor) : Cursor :=
  let blanks := cursor.rest.takeWhile Text.isBlank
  cursor.advance blanks.length

/-- The characters from one place to another. -/
def spanTo (start stop : Cursor) : Span := ⟨start.place, stop.place⟩

/-- The next character. -/
def headSpan (cursor : Cursor) : Span := cursor.spanTo cursor.next

/-- The place itself. -/
def here (cursor : Cursor) : Span := cursor.spanTo cursor

/-- The place after a beginning that the rest has. -/
def after? (cursor : Cursor) (start : String) : Option Cursor :=
  if start.toList.isPrefixOf cursor.rest then some (cursor.advance start.length) else none

/-- In the characters after the next one, the first that is not white space; a number sign is passed
over once. -/
def firstSolid? (marked : Bool) : List Char → Option Char
  | [] => none
  | c :: rest =>
    if Text.isBlank c then firstSolid? marked rest
    else if c = '#' ∧ !marked then firstSolid? true rest
    else some c

/-- The character that comes after the next one, with white space between them in a verbose
pattern. -/
def second? (cursor : Cursor) (verbose : Bool) : Option Char :=
  let rest := cursor.rest.drop 1
  if verbose then (firstSolid? false rest).or rest.head? else rest.head?

end Cursor

/-- A fault at a span. -/
def fault {α : Type} (kind : FaultKind) (span : Span) : Except Fault α :=
  .error { kind, span }

end LineShell.Regex
