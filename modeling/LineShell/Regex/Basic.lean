import LineShell.Text.Property

/-!
# Regular expressions

The abstract form of a pattern.  All flags are resolved when a pattern is read, so that a set says
of every character whether it is matched, and an anchor whether it holds between two characters.
-/

namespace LineShell.Regex

/-- Characters that a word is made of. -/
def wordTable : Text.CodePointSet := Text.patternEdition.word

/-- Decimal digits. -/
def digitTable : Text.CodePointSet := Text.patternEdition.inCategories ["Nd"]

/-- White space. -/
def blankTable : Text.CodePointSet := Text.listedProperty "whitespace"

/-- A condition on the place between two characters. -/
inductive Anchor
  | textStart
  | textEnd
  | lineStart
  | lineEnd
  | lineStartCrLf
  | lineEndCrLf
  | wordBoundary (unicode : Bool)
  | notWordBoundary (unicode : Bool)
  | wordStart (unicode : Bool)
  | wordEnd (unicode : Bool)
  | halfWordStart (unicode : Bool)
  | halfWordEnd (unicode : Bool)
  deriving DecidableEq, Repr

namespace Anchor

/-- Whether there is a word character on one side. -/
def isWord (unicode : Bool) (c : Option Char) : Bool :=
  c.any fun c => if unicode then wordTable.contains c else c.isAlphanum || c == '_'

/-- Whether the condition holds between the character before, if there is one, and the character
after. -/
def holds (anchor : Anchor) (before after : Option Char) : Bool :=
  match anchor with
  | .textStart => before.isNone
  | .textEnd => after.isNone
  | .lineStart => before.isNone || before == some '\n'
  | .lineEnd => after.isNone || after == some '\n'
  | .lineStartCrLf =>
    before.isNone || before == some '\n' || (before == some '\r' && after != some '\n')
  | .lineEndCrLf =>
    after.isNone || after == some '\r' || (after == some '\n' && before != some '\r')
  | .wordBoundary u => isWord u before != isWord u after
  | .notWordBoundary u => isWord u before == isWord u after
  | .wordStart u => !isWord u before && isWord u after
  | .wordEnd u => isWord u before && !isWord u after
  | .halfWordStart u => !isWord u before
  | .halfWordEnd u => !isWord u after

end Anchor

end LineShell.Regex

namespace LineShell

/-- A regular expression.  A group is a part whose match can be told from the rest. -/
inductive Regex
  | empty
  | chars (set : Text.CodePointSet)
  | anchor (anchor : Regex.Anchor)
  | group (a : Regex)
  | seq (a b : Regex)
  | alt (a b : Regex)
  | iterate (a : Regex) (least : Nat) (most : Option Nat)
  deriving DecidableEq, Repr

namespace Regex

/-- Whether the expression is the empty one. -/
def isEmpty : Regex → Bool
  | .empty => true
  | _ => false

/-- Whether no match of the expression reads anything. -/
def readsNothing : Regex → Bool
  | .empty => true
  | .chars _ => false
  | .anchor _ => true
  | .group a => a.readsNothing
  | .seq a b => a.readsNothing && b.readsNothing
  | .alt a b => a.readsNothing && b.readsNothing
  | .iterate a _ _ => a.readsNothing

/-- The fewest characters that a match of the expression can have.  There is no such number when a
part of it has no match at all. -/
def leastLength? : Regex → Option Nat
  | .empty => some 0
  | .chars set => if set.isEmpty then none else some 1
  | .anchor _ => some 0
  | .group a => a.leastLength?
  | .seq a b => return (← a.leastLength?) + (← b.leastLength?)
  | .alt a b => return min (← a.leastLength?) (← b.leastLength?)
  | .iterate a least _ => return (← a.leastLength?) * least

/-- The expression repeated.  What reads nothing is repeated once at most, since every further time
makes no difference. -/
def repeated (a : Regex) (least : Nat) (most : Option Nat) : Regex :=
  let (least, most) :=
    if a.readsNothing then (min least 1, some (min (most.getD 1) 1)) else (least, most)
  if most = some 0 then .empty
  else if least = 1 ∧ most = some 1 then a
  else .iterate a least most

end Regex

end LineShell
