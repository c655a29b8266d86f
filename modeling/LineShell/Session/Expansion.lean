import LineShell.Escape
import LineShell.Session.Change
import LineShell.Session.Guard

/-!
# Expanding a line

The passes of the pipeline expand the command name and each argument for itself.  The name that a
line defines as a macro, or removes, is put in an ignore span first, so that no other macro changes
it.
-/

namespace LineShell

namespace Engine

/-- What a probe reads off the session, or does to it. -/
def runProbe : Probe → Engine String
  | .frameCount => do return Text.decimal (← get).memory.depth
  | .itemCount => do return Text.decimal (← get).memory.active.items.length
  | .callDepth => do return Text.decimal (← get).depth
  | .popItem => do return (← popItem).display
  | .failure message => fail (.raised message)

/-- What the probe says, or what the pass makes of the text. -/
def runCallback : Callback → Engine String
  | .probe probe => runProbe probe
  | .pass pass text => ofExcept (pass.transform text)

/-- Runs an action, with an empty stack reported by another error. -/
def whenEmpty {α : Type} (action : Engine α) (error : Error) : Engine α := fun s =>
  match action s with
  | (.failed .emptyStack, s) => (.failed error, s)
  | ended => ended

/-- The text that a macro stands for.  A command is called with its arguments as they are, and the
text is not expanded again. -/
def produce (exec : Exec) (name : String) : Macro → Engine String
  | .text value => pure value
  | .call command args =>
    let value : Engine String := isolated do
      exec command args
      return (← popItem).display
    value.whenEmpty (.raised ("macro '" ++ name ++ "' produced no value"))
  | .action command args => do
    exec command args
    return ""
  | .probe probe => exec.callback (.probe probe)

/-- The first entry of a table whose name begins the text. -/
def firstEntry? (table : List (String × Macro)) (cs : List Char) : Option (String × Macro) :=
  table.find? fun (name, _) => (Text.after? name.toList cs).isSome

/-- Live text with its macros replaced.  At each place the first entry of the table whose name
stands there is used, and the scan goes on after that name, of which `skip` characters are still to
be passed over. -/
def expandMacros (exec : Exec) (table : List (String × Macro)) (skip : Nat) :
    List Char → Engine (List Char)
  | [] => pure []
  | c :: rest =>
    match skip with
    | skip + 1 => expandMacros exec table skip rest
    | 0 =>
      match firstEntry? table (c :: rest) with
      | some (name, body) => do
        let out ← produce exec name body
        let more ← expandMacros exec table (name.length - 1) rest
        return out.toList ++ more
      | none => do
        let more ← expandMacros exec table 0 rest
        return c :: more

/-- One text expanded by one pass. -/
def applyPass (exec : Exec) (pass : Pass) (cs : List Char) : Engine (List Char) := do
  let s ← get
  match pass with
  | .builtin =>
    let names := (Macro.namesLongestFirst s.macros).map String.toList
    Marked.mapLive (fun text => pure (Marked.mask names text)) cs
  | .macros =>
    if s.macros.isEmpty then pure cs
    else Marked.mapLive (expandMacros exec (Macro.entriesLongestFirst s.macros) 0) cs
  | .variables => ofExcept (Interpolation.expand s.scopes s.interpolationLimit cs)
  | .memory => fun s =>
    match Escape.expand s.memory.active cs with
    | (.ok out, active) => (.done out, { s with memory := { s.memory with active } })
    | (.error e, active) => (.failed e, { s with memory := { s.memory with active } })
  | .custom pass => do
    let out ← exec.callback (.pass pass (String.ofList cs))
    return out.toList

/-- The texts of a line, the command name first, expanded by the passes one after the other. -/
def applyPasses (exec : Exec) : List Pass → List (List Char) → Engine (List (List Char))
  | [], texts => pure texts
  | pass :: rest, texts => do
    let texts ← texts.mapM (applyPass exec pass)
    applyPasses exec rest texts

/-- The first text of a list in an ignore span. -/
def ignoreFirst : List (List Char) → List (List Char)
  | [] => []
  | first :: rest => Marked.ignoreChars first :: rest

/-- The arguments without markers: all of them, or only the name that a line defines. -/
def stripArguments (all defining : Bool) (args : List (List Char)) : List (List Char) :=
  if all then args.map Marked.stripChars
  else if defining then
    match args with
    | [] => []
    | first :: rest => Marked.stripChars first :: rest
  else args

/-- Expands a command name and its arguments. -/
def expandCall (exec : Exec) (name : String) (args : List String) :
    Engine (String × List String) := do
  let s ← get
  let defining := Marked.isReserved name
  let texts := args.map String.toList
  let texts := if defining then ignoreFirst texts else texts
  match ← applyPasses exec s.pipeline.passes (name.toList :: texts) with
  | [] => return (name, args)
  | name :: args =>
    return (String.ofList (Marked.stripChars name),
      (stripArguments (← get).stripMarkers defining args).map String.ofList)

/-- A line whose first word begins so is a comment. -/
def commentStart : String := "//"

/-- Reads a line, expands it and calls its command.  Lines without words and comments do nothing. -/
def runLine (exec : Exec) (line : String) : Engine Unit := do
  match Word.split line with
  | [] => return
  | name :: args =>
    if Text.beginsWith name commentStart then return
    let (name, args) ← expandCall exec name args
    exec name args

end Engine

end LineShell
