/-!
# Lines of a text

A line ends with a line feed, or with a carriage return and a line feed; neither belongs to the
line.  What stands after the last line feed is a line unless it is empty, and keeps a carriage
return at its end.
-/

namespace LineShell.Text

/-- A line whose characters are given last first, without the carriage return before its end. -/
def closeLine : List Char → List Char
  | '\r' :: pending => pending.reverse
  | pending => pending.reverse

/-- The lines of `cs`, `pending` holding the characters of the line being read, last first. -/
def linesFrom (pending : List Char) : List Char → List (List Char)
  | [] => if pending.isEmpty then [] else [pending.reverse]
  | c :: rest =>
    if c = '\n' then closeLine pending :: linesFrom [] rest
    else linesFrom (c :: pending) rest

/-- The lines of a text. -/
def lines (text : String) : List String :=
  (linesFrom [] text.toList).map String.ofList

end LineShell.Text
