import LineShell.Kind
import LineShell.Text.JsonString

/-!
# Values on a memory stack
-/

namespace LineShell

/-- What a host program put into a value of its own. -/
inductive HostContent
  | int (value : Int)
  | text (value : String)
  deriving DecidableEq, Repr

/-- A value of the host program that the interpreter only carries about.  Two of them are the same
when they bear the same token, whatever they hold. -/
structure HostValue where
  typeName : String
  token : Nat
  content : HostContent
  deriving DecidableEq, Repr

/-- A value that a command leaves on a memory stack. -/
inductive Item
  | text (value : String)
  | bool (value : Bool)
  | int (value : Int)
  | float (value : Binary64)
  | seq (values : List String)
  | host (value : HostValue)
  deriving DecidableEq, Repr

namespace Item

/-- The name of the type of a value; a host value has one of its own. -/
def typeName : Item → String
  | .text _ => "text"
  | .bool _ => "bool"
  | .int _ => "int"
  | .float _ => "float"
  | .seq _ => "seq"
  | .host value => value.typeName

/-- The truth value of a condition: of truth values, their spellings and integers only. -/
def truth? : Item → Option Bool
  | .bool b => some b
  | .text s => readBool? s
  | .int i => some (i != 0)
  | _ => none

/-- The text of a value. -/
def display : Item → String
  | .text s => s
  | .bool b => boolText b
  | .int i => Text.signedDecimal i
  | .float x => x.display
  | .seq items => Text.unwords items
  | .host value => "<" ++ value.typeName ++ ">"

/-- The value that an argument is kept as; a character is kept as a text. -/
def ofArgument : Argument → Item
  | .bool b => .bool b
  | .int i => .int i
  | .float x => .float x
  | .char c => .text c.toString
  | .text s => .text s

/-- The value of a kind that a text writes. -/
def ofKind? (kind : Kind) (raw : String) : Option Item :=
  (kind.coerce raw).map ofArgument

/-- Equality of values: numbers compare as numbers, and host values by their tokens. -/
def equal : Item → Item → Bool
  | .text a, .text b => a == b
  | .bool a, .bool b => a == b
  | .int a, .int b => a == b
  | .float a, .float b => a.equal b
  | .seq a, .seq b => a == b
  | .host a, .host b => a.token == b.token
  | _, _ => false

/-- The data text of a value, which names its type. -/
def jsonText (item : Item) : String :=
  let (type, value) := match item with
    | .text s => ("text", Text.jsonString s)
    | .bool b => ("bool", boolText b)
    | .int i => ("int", Text.signedDecimal i)
    | .float x => ("float", x.jsonText)
    | .seq items => ("seq", "[" ++ ",".intercalate (items.map Text.jsonString) ++ "]")
    | .host value => ("opaque", Text.jsonString value.typeName)
  "\x7b\"type\":" ++ Text.jsonString type ++ ",\"value\":" ++ value ++ "\x7d"

end Item

end LineShell
