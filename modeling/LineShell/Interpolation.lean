import LineShell.Marked
import LineShell.Scope
import LineShell.Text.Search

/-!
# References to variables

A reference is a variable name between two delimiters.  The text is scanned once from left to right:
a delimiter that starts no reference is an ordinary character, and the scan goes on right after it;
the value of a reference is copied and never scanned.  A limit bounds the number of references that
are replaced, and everything after the last of them is copied.
-/

namespace LineShell.Interpolation

/-- The character on both sides of a reference. -/
def delimiter : Char := '$'

/-- Replaces references from `cs` on, `used` of them being replaced already, and gives the text and
the number of replaced references. -/
def scan (load : String → Except Error String) (limit : Option Nat) (used : Nat)
    (cs : List Char) : Except Error (List Char × Nat) :=
  if limit.any (· ≤ used) then .ok (cs, used)
  else
    match hs : Text.cut? [delimiter] cs with
    | none => .ok (cs, used)
    | some (before, after) =>
      match ha : Text.cut? [delimiter] after with
      | none => .ok (cs, used)
      | some (name, rest) =>
        have := Text.length_of_cut? hs
        have := Text.length_of_cut? ha
        if isVariableName name then do
          let value ← load (String.ofList name)
          let (out, total) ← scan load limit (used + 1) rest
          return (before ++ value.toList ++ out, total)
        else do
          let (out, total) ← scan load limit used after
          return (before ++ delimiter :: out, total)
termination_by cs.length
decreasing_by all_goals simp only [List.length_cons, List.length_nil] at *; omega

/-- Replaces the references of a text, at most `limit` of them, and counts them. -/
def interpolate (scopes : Scopes) (limit : Option Nat) (text : String) :
    Except Error (String × Nat) := do
  let (out, total) ← scan scopes.load limit 0 text.toList
  return (String.ofList out, total)

/-- Segments with the references of the live ones replaced, at most `limit` in all of them. -/
def expandSegments (scopes : Scopes) (limit : Option Nat) :
    List Marked.Segment → Except Error (List Char)
  | [] => .ok []
  | .live text :: rest => do
    let (out, used) ← scan scopes.load limit 0 text
    let more ← expandSegments scopes (limit.map (· - used)) rest
    return out ++ more
  | ignored :: rest => do
    let more ← expandSegments scopes limit rest
    return ignored.chars ++ more

/-- A text with the references of its live segments replaced, at most `limit` of them. -/
def expand (scopes : Scopes) (limit : Option Nat) (cs : List Char) : Except Error (List Char) :=
  expandSegments scopes limit (Marked.segments cs)

end LineShell.Interpolation
