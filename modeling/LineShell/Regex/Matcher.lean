import LineShell.Regex.Meaning

/-!
# Matching

A text is read once from left to right.  In a copy of the expression, those sets of characters are
marked that the last character was matched by; each character moves the marks on.  The expression is
found as soon as a mark can leave it, or as soon as it can be passed without reading anything.  The
work is bounded by the size of the expression and the length of the text, whatever the expression
is.
-/

namespace LineShell.Regex

/-- How far the matches of an expression have come.  A set is marked when the last character was
matched by it. -/
inductive Progress
  | empty
  | chars (set : Text.CodePointSet) (marked : Bool)
  | anchor (anchor : Anchor)
  | seq (a b : Progress)
  | alt (a b : Progress)
  | star (a : Progress)

namespace Progress

/-- The given number of copies, one after the other.  Half of them stand on each side, so that a
tree does not grow deeper than it has to. -/
def power (a : Progress) (count : Nat) : Progress :=
  if count = 0 then .empty
  else if count = 1 then a
  else .seq (power a (count / 2)) (power a (count - count / 2))
termination_by count

/-- An expression without marks.  What may be repeated is written out. -/
def ofRegex : Regex → Progress
  | .empty => .empty
  | .chars set => .chars set false
  | .anchor place => .anchor place
  | .group a => ofRegex a
  | .seq a b => .seq (ofRegex a) (ofRegex b)
  | .alt a b => .alt (ofRegex a) (ofRegex b)
  | .iterate a least none => .seq (power (ofRegex a) least) (.star (ofRegex a))
  | .iterate a least (some most) =>
    .seq (power (ofRegex a) least) (power (.alt .empty (ofRegex a)) (most - least))

/-- Whether the expression can be passed, between two characters, without reading anything. -/
def passes (before after : Option Char) : Progress → Bool
  | .empty => true
  | .chars _ _ => false
  | .anchor place => place.holds before after
  | .seq a b => a.passes before after && b.passes before after
  | .alt a b => a.passes before after || b.passes before after
  | .star _ => true

/-- Whether a mark can leave the expression between two characters. -/
def ends (before after : Option Char) : Progress → Bool
  | .empty => false
  | .chars _ marked => marked
  | .anchor _ => false
  | .seq a b => b.ends before after || b.passes before after && a.ends before after
  | .alt a b => a.ends before after || b.ends before after
  | .star a => a.ends before after

/-- The marks after a character, which a match may begin with if `starts` holds. -/
def advance (before : Option Char) (c : Char) (starts : Bool) : Progress → Progress
  | .empty => .empty
  | .chars set _ => .chars set (starts && set.contains c)
  | .anchor place => .anchor place
  | .seq a b =>
    let onward := starts && a.passes before (some c) || a.ends before (some c)
    .seq (a.advance before c starts) (b.advance before c onward)
  | .alt a b => .alt (a.advance before c starts) (b.advance before c starts)
  | .star a => .star (a.advance before c (starts || a.ends before (some c)))

/-- Whether a match ends between two characters. -/
def isFound (before after : Option Char) (p : Progress) : Bool :=
  p.passes before after || p.ends before after

/-- Whether a match ends somewhere in the rest of a text. -/
def search (before : Option Char) (p : Progress) : List Char → Bool
  | [] => p.isFound before none
  | c :: rest => p.isFound before (some c) || search (some c) (p.advance before c true) rest

end Progress

/-- Whether the expression matches somewhere in the text. -/
def isMatch (regex : Regex) (text : String) : Bool :=
  (Progress.ofRegex regex).search none text.toList

end LineShell.Regex
