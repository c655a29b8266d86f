/-!
# Places in a YAML text

A cursor is a place in a text: what is still to be read, and how many bytes, lines and columns stand
before it.  Lines and columns matter, because indentation tells where a block ends and a key
has to stand on one line.
-/

namespace LineShell.Yaml

/-- Spaces and tabs. -/
def isBlank (c : Char) : Bool := c == ' ' || c == '\t'

/-- The characters that end a line. -/
def isBreak (c : Char) : Bool :=
  c == '\n' || c == '\r' || c == '\u0085' || c == '\u2028' || c == '\u2029'

/-- The characters that a text may hold: all but controls and code points without a character. -/
def isAllowed (c : Char) : Bool :=
  let n := c.toNat
  n == 0x09 || n == 0x0A || n == 0x0D || (0x20 ≤ n && n ≤ 0x7E) || n == 0x85
    || (0xA0 ≤ n && n ≤ 0xD7FF) || (0xE000 ≤ n && n ≤ 0xFFFD) || 0x10000 ≤ n

/-- The characters of names: of anchors, directives and tag handles. -/
def isNameChar (c : Char) : Bool := c.isAlphanum || c == '_' || c == '-'

/-- Whether a word ends before a character, which is missing at the end of the text. -/
def endsWord : Option Char → Bool
  | none => true
  | some c => isBlank c || isBreak c

/-- A place in a text. -/
structure Cursor where
  /-- What is still to be read. -/
  rest : List Char
  /-- The number of bytes before this place. -/
  index : Nat := 0
  /-- The number of lines before this one. -/
  line : Nat := 0
  /-- The number of characters before this place on its line. -/
  column : Nat := 0

namespace Cursor

/-- The next character. -/
def next? (c : Cursor) : Option Char := c.rest.head?

/-- Whether a given character comes next. -/
def isAt (c : Cursor) (x : Char) : Bool := c.next? == some x

/-- Whether a character comes next for which `p` holds. -/
def isAtAny (c : Cursor) (p : Char → Bool) : Bool := c.next?.any p

/-- Whether a line ends here, or the text. -/
def atLineEnd (c : Cursor) : Bool := c.next?.all isBreak

/-- The number of bytes of some characters. -/
def bytes (cs : List Char) : Nat := cs.foldl (fun size x => size + x.utf8Size) 0

/-- The place after some characters, none of which ends a line. -/
def advance (c : Cursor) (count : Nat) : Cursor :=
  { c with
    rest := c.rest.drop count
    index := c.index + bytes (c.rest.take count)
    column := c.column + count }

/-- The place after the longest run of characters for which `p` holds, with that run. -/
def takeWhile (c : Cursor) (p : Char → Bool) : List Char × Cursor :=
  let run := c.rest.takeWhile p
  (run, c.advance run.length)

/-- The place after the longest run of characters for which `p` holds. -/
def skipWhile (c : Cursor) (p : Char → Bool) : Cursor := (c.takeWhile p).2

/-- The place after a comment, if there is one here. -/
def skipComment (c : Cursor) : Cursor :=
  if c.isAt '#' then c.skipWhile (!isBreak ·) else c

/-- The place after a line end, which may be a carriage return with a line feed. -/
def skipBreak (c : Cursor) : Cursor :=
  let width := match c.rest with
    | '\r' :: '\n' :: _ => 2
    | _ => 1
  { rest := c.rest.drop width
    index := c.index + bytes (c.rest.take width)
    line := c.line + 1
    column := 0 }

/-- What a line end stands for: a line feed, or itself if it separates lines or paragraphs. -/
def breakChar (x : Char) : Char :=
  if x == '\u2028' || x == '\u2029' then x else '\n'

/-- Whether the line is a mark between documents. -/
def atDocumentMark (c : Cursor) : Bool :=
  c.column == 0 &&
    match c.rest with
    | '-' :: '-' :: '-' :: rest => endsWord rest.head?
    | '.' :: '.' :: '.' :: rest => endsWord rest.head?
    | _ => false

theorem length_advance_lt (c : Cursor) {count : Nat} (hc : c.rest ≠ []) (hn : 0 < count) :
    (c.advance count).rest.length < c.rest.length := by
  have := List.length_pos_iff.mpr hc
  simp only [advance, List.length_drop]
  omega

theorem length_skipBreak_lt (c : Cursor) (hc : c.rest ≠ []) :
    c.skipBreak.rest.length < c.rest.length := by
  have := List.length_pos_iff.mpr hc
  simp only [skipBreak, List.length_drop]
  split <;> omega

end Cursor

/-- What stands between two words of a scalar: blanks, or line ends with blanks around them that do
not count.  The first line end may be escaped. -/
structure Gap where
  blanks : List Char := []
  breaks : List Char := []
  escaped : Bool := false

namespace Gap

/-- Whether a line ends in the gap. -/
def hasBreak (gap : Gap) : Bool := gap.escaped || !gap.breaks.isEmpty

/-- What a gap contributes to its scalar: a single line feed becomes a blank, and of several the
first is dropped. -/
def folded (gap : Gap) : List Char :=
  if gap.escaped then gap.breaks
  else
    match gap.breaks with
    | [] => gap.blanks
    | ['\n'] => [' ']
    | '\n' :: more => more
    | breaks => breaks

/-- The gap at a place and the place after it.  Left of column `margin` no tab may stand on a line
of its own. -/
def read? (margin : Nat) (gap : Gap) (c : Cursor) : Option (Gap × Cursor) :=
  match _hc : c.rest with
  | [] => some (gap, c)
  | x :: _ =>
    if isBlank x then
      if gap.hasBreak then
        if x == '\t' && decide (c.column < margin) then none
        else read? margin gap (c.advance 1)
      else read? margin { gap with blanks := gap.blanks ++ [x] } (c.advance 1)
    else if isBreak x then
      read? margin { gap with breaks := gap.breaks ++ [Cursor.breakChar x] } c.skipBreak
    else some (gap, c)
termination_by c.rest.length
decreasing_by
  · exact c.length_advance_lt (by simp [_hc]) Nat.one_pos
  · exact c.length_advance_lt (by simp [_hc]) Nat.one_pos
  · exact c.length_skipBreak_lt (by simp [_hc])

end Gap

end LineShell.Yaml
