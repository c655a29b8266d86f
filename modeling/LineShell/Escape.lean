import LineShell.Marked
import LineShell.Memory

/-!
# Memory escapes

In live text two carets stand for the value on top of the active stack, which they take off, and a
single caret stands for that value, which stays.  Escapes are read from left to right, each once;
what was taken off before an escape meets an empty stack stays off.
-/

namespace LineShell.Escape

/-- The character that escapes are made of. -/
def caret : Char := '^'

/-- Live text with its escapes replaced, and the stack that is left. -/
def expandLive (stack : Stack) : List Char → Except Error (List Char) × Stack
  | [] => (.ok [], stack)
  | '^' :: '^' :: rest =>
    match stack.pop with
    | .error e => (.error e, stack)
    | .ok (item, stack) =>
      let (out, stack) := expandLive stack rest
      (out.map (item.display.toList ++ ·), stack)
  | '^' :: rest =>
    match stack.peek with
    | .error e => (.error e, stack)
    | .ok item =>
      let (out, stack) := expandLive stack rest
      (out.map (item.display.toList ++ ·), stack)
  | c :: rest =>
    let (out, stack) := expandLive stack rest
    (out.map (c :: ·), stack)

/-- Segments with the escapes of the live ones replaced, and the stack that is left. -/
def expandSegments (stack : Stack) : List Marked.Segment → Except Error (List Char) × Stack
  | [] => (.ok [], stack)
  | .live text :: rest =>
    match expandLive stack text with
    | (.error e, stack) => (.error e, stack)
    | (.ok out, stack) =>
      let (more, stack) := expandSegments stack rest
      (more.map (out ++ ·), stack)
  | ignored :: rest =>
    let (more, stack) := expandSegments stack rest
    (more.map (ignored.chars ++ ·), stack)

/-- A text with the escapes of its live segments replaced, and the stack that is left.  A text
without a caret is returned at once. -/
def expand (stack : Stack) (cs : List Char) : Except Error (List Char) × Stack :=
  if cs.contains caret then expandSegments stack (Marked.segments cs) else (.ok cs, stack)

end LineShell.Escape
