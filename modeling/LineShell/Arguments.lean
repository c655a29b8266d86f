import LineShell.Error
import LineShell.Text.JsonString

/-!
# The arguments of a call

`Arguments` is what the body of a command is given: the name it was called by and its arguments, of
the kinds that the command declares.  The accessors give one argument as a value of a kind, or all
of them from some position on as texts.
-/

namespace LineShell

/-- The arguments of one call. -/
structure Arguments where
  command : String
  items : List Argument
  deriving DecidableEq, Repr

namespace Arguments

/-- The argument at a position, which the body takes for granted. -/
def require (args : Arguments) (index : Nat) : Except Error Argument :=
  match args.items[index]? with
  | some arg => .ok arg
  | none =>
    .error (.unexpected args.command ("argument " ++ Text.decimal index ++ " was not supplied"))

/-- The error for an argument of another kind than the body asks for. -/
def mismatch (args : Arguments) (index : Nat) (arg : Argument) (expected : Kind) : Error :=
  .notOfKind args.command index arg.display expected

/-- The text at a position. -/
def text (args : Arguments) (index : Nat) : Except Error String := do
  match ← args.require index with
  | .text s => .ok s
  | other => .error (args.mismatch index other .text)

/-- The integer at a position. -/
def int (args : Arguments) (index : Nat) : Except Error Int := do
  match ← args.require index with
  | .int i => .ok i
  | other => .error (args.mismatch index other .int)

/-- The number at a position; an integer is taken for the nearest number. -/
def float (args : Arguments) (index : Nat) : Except Error Binary64 := do
  match ← args.require index with
  | .float x => .ok x
  | .int i => .ok (.ofInt i)
  | other => .error (args.mismatch index other .float)

/-- The truth value at a position. -/
def bool (args : Arguments) (index : Nat) : Except Error Bool := do
  match ← args.require index with
  | .bool b => .ok b
  | other => .error (args.mismatch index other .bool)

/-- The character at a position. -/
def char (args : Arguments) (index : Nat) : Except Error Char := do
  match ← args.require index with
  | .char c => .ok c
  | other => .error (args.mismatch index other .char)

/-- The truth value at a position that may be left out. -/
def bool? (args : Arguments) (index : Nat) : Except Error (Option Bool) :=
  if index < args.items.length then (args.bool index).map some else .ok none

/-- The texts of the arguments from a position on. -/
def rest (args : Arguments) (start : Nat) : List String :=
  (args.items.drop start).map Argument.display

/-- The texts of the arguments from a position on, with blanks between them. -/
def joined (args : Arguments) (start : Nat) : String :=
  Text.unwords (args.rest start)

/-- A command name and its arguments, taken from a position on. -/
def forward (args : Arguments) (start : Nat) : Except Error (String × List String) :=
  match args.rest start with
  | name :: rest => .ok (name, rest)
  | [] => .error (.unexpected args.command "no command to forward to")

end Arguments

/-- The ways in which a body can look at its arguments. -/
inductive Accessor
  | text
  | int
  | float
  | bool
  | char
  | optionalBool
  | joined
  | rest
  | forward
  | get
  | summary
  deriving DecidableEq, Repr

/-- What an accessor shows of the arguments at a position, as a text. -/
def Arguments.show (args : Arguments) (accessor : Accessor) (index : Nat) : Except Error String :=
  match accessor with
  | .text => args.text index
  | .int => (args.int index).map Text.signedDecimal
  | .float => (args.float index).map Binary64.display
  | .bool => (args.bool index).map boolText
  | .char => (args.char index).map Char.toString
  | .optionalBool => (args.bool? index).map fun b => (b.map boolText).getD "none"
  | .joined => .ok (args.joined index)
  | .rest => .ok ("|".intercalate (args.rest index))
  | .forward => (args.forward index).map fun (name, rest) =>
      name ++ "<" ++ "|".intercalate rest ++ ">"
  | .get => .ok ((args.items[index]?.map Argument.display).getD "none")
  | .summary =>
    .ok (Text.unwords
      [args.command, Text.decimal args.items.length, boolText args.items.isEmpty])

/-- The data text of an argument, which names its kind. -/
def Argument.jsonText (arg : Argument) : String :=
  let (name, value) := match arg with
    | .bool b => ("bool", boolText b)
    | .int i => ("int", Text.jsonString (Text.signedDecimal i))
    | .float x => ("float", Text.jsonString x.display)
    | .char c => ("char", Text.jsonString c.toString)
    | .text s => ("text", Text.jsonString s)
  "\x7b" ++ Text.jsonString name ++ ":" ++ value ++ "\x7d"

end LineShell
