/-!
# Control sequences

A text for a terminal may hold sequences that steer the terminal and show nothing.  Where a text
goes elsewhere they are taken out, and so are all control characters that do not separate words or
lines.

A sequence begins with an escape character.  What follows tells its kind: a sequence of parameters
ends with the first letter, a string runs until it is cut off.
-/

namespace LineShell.Text

/-- How far a control sequence is read. -/
inductive ControlState
  /-- Outside of all sequences. -/
  | ground
  /-- After the escape character. -/
  | escape
  /-- In a short sequence. -/
  | escapeMiddle
  /-- At the beginning of parameters. -/
  | paramsStart
  /-- In the parameters of a sequence. -/
  | params
  /-- After the parameters of a sequence. -/
  | paramsMiddle
  /-- In a sequence that is malformed. -/
  | malformed
  /-- At the beginning of the head of a string. -/
  | headStart
  /-- In the head of a string. -/
  | head
  /-- After the parameters in the head of a string. -/
  | headMiddle
  /-- In a string. -/
  | string
  /-- In a string for the system, which the bell ends. -/
  | systemString
  deriving DecidableEq, Repr

/-- The control characters that separate words or lines. -/
def isSpacing (c : Char) : Bool := c == '\t' || c == '\n' || c == '\x0c' || c == '\r'

/-- The byte that ends a string. -/
def stringEnd : UInt8 := 0x9C

namespace ControlState

/-- The state after a letter, a digit, a sign or a blank. -/
def afterPrintable (state : ControlState) (n : Nat) : ControlState :=
  match state with
  | .ground => .ground
  | .escape =>
    if n < 0x30 then .escapeMiddle
    else if n = 0x50 then .headStart
    else if n = 0x5B then .paramsStart
    else if n = 0x5D then .systemString
    else if n = 0x58 ∨ n = 0x5E ∨ n = 0x5F then .string
    else .ground
  | .escapeMiddle => if n < 0x30 then .escapeMiddle else .ground
  | .paramsStart => if n < 0x30 then .paramsMiddle else if n < 0x40 then .params else .ground
  | .params =>
    if n < 0x30 then .paramsMiddle
    else if n < 0x3C then .params
    else if n < 0x40 then .malformed
    else .ground
  | .paramsMiddle => if n < 0x30 then .paramsMiddle else if n < 0x40 then .malformed else .ground
  | .malformed => if n < 0x40 then .malformed else .ground
  | .headStart => if n < 0x30 then .headMiddle else if n < 0x40 then .head else .string
  | .head => if n < 0x30 then .headMiddle else if n < 0x3C then .head else .string
  | .headMiddle => if n < 0x30 then .headMiddle else .string
  | .string => .string
  | .systemString => .systemString

/-- The state after a character.  An escape character always begins a sequence, and two other
characters always end one. -/
def next (state : ControlState) (c : Char) : ControlState :=
  let n := c.toNat
  if n = 0x1B then .escape
  else if n = 0x18 ∨ n = 0x1A then .ground
  else if 0x80 ≤ n then
    if state = .string ∧ (String.utf8EncodeChar c).contains stringEnd then .ground else state
  else if n < 0x20 ∨ n = 0x7F then
    if state = .systemString ∧ n = 0x07 then .ground else state
  else state.afterPrintable n

/-- Whether a character is shown.  In the middle of a sequence a line may still end. -/
def shows (state : ControlState) (c : Char) : Bool :=
  match state with
  | .ground => isSpacing c || 0x20 ≤ c.toNat && c.toNat ≠ 0x7F
  | .headStart | .head | .headMiddle | .string | .systemString => false
  | _ => isSpacing c

end ControlState

/-- The characters that are shown.  Once one is shown, so are all up to the next control character,
even if a sequence is still open. -/
def shownFrom (state : ControlState) (showing : Bool) : List Char → List Char
  | [] => []
  | c :: rest =>
    if showing then
      if ControlState.ground.shows c then
        c :: shownFrom (if c.toNat < 0x80 then state else .ground) true rest
      else shownFrom (state.next c) false rest
    else if state.shows c then c :: shownFrom (state.next c) true rest
    else shownFrom (state.next c) false rest

/-- A text without its control sequences. -/
def plain (text : String) : String := String.ofList (shownFrom .ground false text.toList)

/-- A text in bold letters. -/
def bold (text : String) : String := "\x1b[1m" ++ text ++ "\x1b[0m"

/-- A text in bold and underlined letters. -/
def underlined (text : String) : String := "\x1b[1m\x1b[4m" ++ text ++ "\x1b[0m"

end LineShell.Text
