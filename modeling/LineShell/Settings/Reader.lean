import LineShell.Settings.Basic
import LineShell.Text.Layout
import LineShell.Yaml.Node.Reader

/-!
# Settings in YAML

Each section is a mapping whose keys are the names of settings.  Settings that are left out have
their defaults, keys that name none are passed over, and a key may not be given twice.  A value has
to be of the kind of its setting: truth values and numbers are plain scalars, texts are any scalars.
-/

namespace LineShell.Settings

open Yaml (Node Document TagText)

/-- The tag of a kind of scalar that the language itself defines. -/
def standardTag (kind : String) : TagText := .ofString ("tag:yaml.org,2002:" ++ kind)

/-- The text of a scalar that may be of the given kind: one that is plain, or a literal block with
the tag of that kind. -/
def textOfKind? (kind : String) : Node → Option String
  | .scalar _ tag style text =>
    if style = .plain ∨ style = .literal ∧ tag = some (standardTag kind) then some text else none
  | _ => none

/-- A truth value. -/
def bool? (node : Node) : Option Bool := do
  let text ← textOfKind? "bool" node
  if text ∈ ["true", "True", "TRUE"] then some true
  else if text ∈ ["false", "False", "FALSE"] then some false
  else none

/-- The greatest number of 64 bits. -/
def maxWord : Nat := 0xFFFFFFFFFFFFFFFF

/-- A number in a base, if it has 64 bits at most. -/
def digitsInBase? (base : Nat) (cs : List Char) : Option Nat := do
  let digits ← cs.mapM Yaml.Scalar.hexDigit?
  if digits.isEmpty || digits.any (base ≤ ·) then none
  else
    let value := digits.foldl (fun n d => n * base + d) 0
    if value ≤ maxWord then some value else none

/-- Digits after an optional plus sign: hexadecimal, octal or binary after a zero and the letter of
the base, or else decimal and not with a zero in front. -/
def readCount? (cs : List Char) : Option Nat :=
  let cs := if cs.head? = some '+' then cs.drop 1 else cs
  match cs with
  | '0' :: 'x' :: rest => digitsInBase? 16 rest
  | '0' :: 'o' :: rest => digitsInBase? 8 rest
  | '0' :: 'b' :: rest => digitsInBase? 2 rest
  | '0' :: _ :: _ => none
  | digits => digitsInBase? 10 digits

/-- A number that is not negative. -/
def count? (node : Node) : Option Nat := do
  readCount? (← textOfKind? "int" node).toList

/-- Whether a scalar stands for nothing, which a plain one does that is empty or has the right word.
A tag other than that of nothing makes it a value; with that tag no other text is allowed. -/
def isNull? : Node → Option Bool
  | .scalar _ tag .plain text =>
    let isNullWord := text ∈ ["null", "Null", "NULL", "~"]
    match tag with
    | none => some (text.isEmpty || isNullWord)
    | some tag =>
      if tag ≠ standardTag "null" then some false
      else if isNullWord then some true else none
  | _ => some false

/-- A number or nothing. -/
def optionalCount? (node : Node) : Option (Option Nat) := do
  if ← isNull? node then return none else return some (← count? node)

/-- A text. -/
def text? : Node → Option String
  | .scalar _ _ _ text => some text
  | _ => none

/-- Whether a node is the empty plain scalar. -/
def isEmptyScalar : Node → Bool
  | .scalar _ _ style text => style = .plain && text.isEmpty
  | _ => false

/-- A list of texts; an empty scalar is the empty list. -/
def texts? (document : Document) (node : Node) : Option (List String) :=
  match node with
  | .sequence _ items => items.mapM fun item => text? (document.follow item)
  | node => if isEmptyScalar node then some [] else none

/-- The name in a tag that begins with an exclamation mark. -/
def nameOfTag? : TagText → Option String
  | 0x21 :: name => String.fromUTF8? ⟨name.toArray⟩
  | _ => none

/-- One of several named values: the text names it, or the tag does and there is no text. -/
def named? {α : Type} (ofName? : String → Option α) : Node → Option α
  | .scalar _ tag style text =>
    match tag.bind nameOfTag? with
    | some name =>
      if style = .plain ∧ (text.isEmpty ∨ text ∈ ["null", "Null", "NULL", "~"]) then
        ofName? name
      else none
    | none => ofName? text
  | _ => none

/-- The values in a section by their names.  The empty scalar is a section in which everything is
left out.  A name in `known` may be given once, and keys have to be texts. -/
def fields? (document : Document) (known : List String) (node : Node) :
    Option (List (String × Node)) :=
  match node with
  | .mapping _ entries => do
    let named ← entries.mapM fun (key, value) => do
      return (← text? (document.follow key), document.follow value)
    let given := named.filter fun (name, _) => known.contains name
    if (given.map Prod.fst).Nodup then some given else none
  | node => if isEmptyScalar node then some [] else none

/-- The value of a setting, or its default when it is left out. -/
def field? {α : Type} (fields : List (String × Node)) (name : String) (default : α)
    (read : Node → Option α) : Option α :=
  match fields.lookup name with
  | none => some default
  | some node => read node

/-- The section of the interpreter. -/
def interpreter? (document : Document) (node : Node) : Option InterpreterSettings := do
  let default : InterpreterSettings := {}
  let fields ← fields? document ["feedback", "error_feedback", "interpolation_limit",
    "max_call_depth", "strip_markers"] node
  return {
    feedback := ← field? fields "feedback" default.feedback bool?
    errorFeedback := ← field? fields "error_feedback" default.errorFeedback bool?
    interpolationLimit :=
      ← field? fields "interpolation_limit" default.interpolationLimit optionalCount?
    maxCallDepth := ← field? fields "max_call_depth" default.maxCallDepth count?
    stripMarkers := ← field? fields "strip_markers" default.stripMarkers bool? }

/-- The section of the history. -/
def history? (document : Document) (node : Node) : Option HistorySettings := do
  let default : HistorySettings := {}
  let fields ← fields? document ["enabled", "file", "max_entries"] node
  return {
    enabled := ← field? fields "enabled" default.enabled bool?
    file := ← field? fields "file" default.file text?
    maxEntries := ← field? fields "max_entries" default.maxEntries count? }

/-- The section of the shell. -/
def shell? (document : Document) (node : Node) : Option ShellSettings := do
  let default : ShellSettings := {}
  let fields ← fields? document ["prompt", "history"] node
  return {
    prompt := ← field? fields "prompt" default.prompt text?
    history := ← field? fields "history" default.history (history? document) }

/-- The section of packages. -/
def packages? (document : Document) (node : Node) : Option PackageSettings := do
  let fields ← fields? document ["preload", "script_dirs", "startup"] node
  return {
    preload := ← field? fields "preload" [] (texts? document)
    scriptDirs := ← field? fields "script_dirs" [] (texts? document)
    startup := ← field? fields "startup" [] (texts? document) }

/-- The section of logging. -/
def logging? (document : Document) (node : Node) : Option LoggingSettings := do
  let default : LoggingSettings := {}
  let fields ← fields? document ["level", "format", "filter"] node
  return {
    level := ← field? fields "level" default.level (named? LogLevel.ofName?)
    format := ← field? fields "format" default.format (named? LogFormat.ofName?)
    filter := ← field? fields "filter" default.filter text? }

/-- The settings that a document holds. -/
def ofDocument? (document : Document) : Option Settings := do
  let fields ← fields? document ["interpreter", "shell", "packages", "logging"] document.root
  return {
    interpreter := ← field? fields "interpreter" {} (interpreter? document)
    shell := ← field? fields "shell" {} (shell? document)
    packages := ← field? fields "packages" {} (packages? document)
    logging := ← field? fields "logging" {} (logging? document) }

/-- The settings that a text holds. -/
def read? (text : String) : Option Settings := do
  ofDocument? (← Document.read? text)

/-- The level that a text names, which is a document of its own. -/
def readLevel? (text : String) : Option LogLevel := do
  let document ← Document.read? text
  named? LogLevel.ofName? (document.follow document.root)

end LineShell.Settings
