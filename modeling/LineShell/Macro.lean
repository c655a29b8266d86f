import LineShell.Error
import LineShell.Interpolation
import LineShell.Marked
import LineShell.Text.Escaped
import LineShell.Word

/-!
# Macros

A macro is a name that stands for a text: a fixed one, the value that a command leaves behind, no
text at all for a command run for its effect, or something that the host program reads off the state
of the interpreter.
-/

namespace LineShell

/-- What a macro of the host program reads off the interpreter, or does to it. -/
inductive Probe
  | frameCount
  | itemCount
  | callDepth
  | popItem
  | failure (message : String)
  deriving DecidableEq, Repr

/-- What a macro name stands for. -/
inductive Macro
  | text (value : String)
  | call (command : String) (args : List String)
  | action (command : String) (args : List String)
  | probe (probe : Probe)
  deriving DecidableEq, Repr

namespace Macro

/-- A macro on one line, for listings. -/
def describe : Macro → String
  | .text value => "text " ++ Text.quoted value
  | .call command args => "call " ++ Word.commandLine command args
  | .action command args => "action " ++ Word.commandLine command args
  | .probe _ => "native"

/-- Why a text cannot be the name of a macro, if it cannot: it has to be one word, and must not
collide with the markers and delimiters of the other passes. -/
def nameFault? (name : String) : Option MacroNameFault :=
  let cs := name.toList
  if cs.isEmpty || Text.hasBlank name then some .notOneWord
  else if cs.head? = some '#' then some .reservedStart
  else if Text.occurs Marked.startMarker cs || Text.occurs Marked.endMarker cs
      || Text.occurs Marked.suppressMarker cs then some .holdsMarker
  else if cs.contains Interpolation.delimiter then some .holdsDelimiter
  else none

/-- Accepts a text as the name of a macro, or says why not. -/
def checkName (name : String) : Except Error Unit :=
  match nameFault? name with
  | some fault => .error (.definition (.macroName name fault))
  | none => .ok ()

/-- Whether a name is tried before another: the longer one in bytes, and of two of the same length
the lesser one. -/
def triedBefore (a b : String) : Bool :=
  b.utf8ByteSize < a.utf8ByteSize || (a.utf8ByteSize == b.utf8ByteSize && decide (a ≤ b))

/-- The names of a table in the order in which they are tried. -/
def namesLongestFirst (table : NameMap Macro) : List String :=
  table.names.mergeSort triedBefore

/-- The entries of a table in the order in which their names are tried. -/
def entriesLongestFirst (table : NameMap Macro) : List (String × Macro) :=
  (namesLongestFirst table).filterMap fun name => (table.find? name).map fun body => (name, body)

end Macro

end LineShell
