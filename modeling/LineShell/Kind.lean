import LineShell.Binary64.Printer
import LineShell.Binary64.Reader
import LineShell.Text.Blank
import LineShell.Text.Case
import LineShell.Text.Layout

/-!
# Kinds of arguments and the values they take

A command may declare the kind of its leading arguments.  `Kind.coerce` turns the text of an
argument into a value of a kind, or refuses it.
-/

namespace LineShell

/-- The kind of an argument. -/
inductive Kind
  | bool
  | int
  | float
  | char
  | text
  deriving DecidableEq, Repr

/-- An argument once its kind is known. -/
inductive Argument
  | bool (value : Bool)
  | int (value : Int)
  | float (value : Binary64)
  | char (value : Char)
  | text (value : String)
  deriving DecidableEq, Repr

/-- The two truth values in words. -/
def boolText (b : Bool) : String := if b then "true" else "false"

/-- A truth value in one of its spellings, without regard to case and to white space around it. -/
def readBool? (raw : String) : Option Bool :=
  let word := Text.toLowerAscii (Text.trim raw)
  if word ∈ ["true", "yes", "on", "1"] then some true
  else if word ∈ ["false", "no", "off", "0"] then some false
  else none

/-- The least integer of 64 bits. -/
def minInt64 : Int := -9223372036854775808

/-- The greatest integer of 64 bits. -/
def maxInt64 : Int := 9223372036854775807

/-- An optional sign and decimal digits as an integer of 64 bits. -/
def readInt? (cs : List Char) : Option Int :=
  let (negative, digits) := Binary64.takeSign cs
  match Text.readDecimal? digits with
  | none => none
  | some n =>
    let i : Int := if negative then -n else n
    if minInt64 ≤ i ∧ i ≤ maxInt64 then some i else none

namespace Kind

/-- The name of a kind in messages and help. -/
def label : Kind → String
  | .bool => "boolean"
  | .int => "integer"
  | .float => "float"
  | .char => "character"
  | .text => "text"

/-- The kind that a script calls `name`. -/
def ofName? (name : String) : Option Kind :=
  match Text.toLowerAscii name with
  | "bool" | "boolean" => some .bool
  | "int" | "integer" => some .int
  | "float" | "number" => some .float
  | "char" | "character" => some .char
  | "text" | "string" | "str" => some .text
  | _ => none

/-- The value of a kind that a text writes; nothing when it writes none. -/
def coerce (kind : Kind) (raw : String) : Option Argument :=
  match kind with
  | .text => some (.text raw)
  | .bool => (readBool? raw).map .bool
  | .int => (readInt? (Text.trimChars raw.toList)).map .int
  | .float => (Binary64.readChars? (Text.trimChars raw.toList)).map .float
  | .char =>
    match raw.toList with
    | [c] => some (.char c)
    | _ => none

end Kind

/-- The text of an argument. -/
def Argument.display : Argument → String
  | .bool b => boolText b
  | .int i => Text.signedDecimal i
  | .float x => x.display
  | .char c => c.toString
  | .text s => s

end LineShell
