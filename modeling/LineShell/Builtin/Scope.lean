import LineShell.Session.Expansion

/-!
# Commands on variables and scopes
-/

namespace LineShell.Builtin

/-- The commands on variables and scopes, by name. -/
def scopeCommands : List (String × Command) :=
  let entry (name : String) (least : Nat) (most : Option Nat) (command : ScopeCommand)
      (description usage : String) : String × Command :=
    (name, ⟨least, most, description, usage, [], .builtin (.scope command)⟩)
  [entry "set" 1 none .set
     ("Store a variable in the active scope. A ^ in VALUE is read from the " ++
      "stack here and again wherever $NAME$ expands")
     "set NAME [VALUE]...",
   entry "get" 1 (some 1) .get "Push a variable's value" "get NAME",
   entry "unset" 1 (some 1) .unset "Remove a variable from the active scope" "unset NAME",
   entry "vars" 0 (some 0) .vars "List variables of the active scope" "vars",
   entry "enter-scope" 0 (some 0) .enterScope "Open a new local scope" "enter-scope",
   entry "exit-scope" 0 (some 0) .exitScope "Close the innermost local scope" "exit-scope",
   entry "enter-global" 0 (some 0) .enterGlobal "Direct variable access to the Global scope"
     "enter-global",
   entry "exit-global" 0 (some 0) .exitGlobal "Return variable access to local scopes"
     "exit-global",
   entry "scoped" 1 none .scoped "Run a command in a temporary local scope"
     "scoped COMMAND [ARG]...",
   entry "globally" 1 none .globally "Run a command with Global active"
     "globally COMMAND [ARG]..."]

/-- The variables of a scope, one to a line. -/
def variablesText (scope : Scope) : String :=
  String.join (scope.entries.map fun (name, value) => name ++ "=" ++ value ++ "\n")

/-- What the commands on variables and scopes do. -/
def runScope (exec : Exec) (command : ScopeCommand) (args : Arguments) : Engine (Option Item) :=
  match command with
  | .set => do
    let name ← Engine.ofExcept (args.text 0)
    Engine.refuseIf (!isVariableName name.toList)
      (.raised ("set: '" ++ name ++ "' is not a valid variable name"))
    Engine.storeVariable name (args.joined 1)
    return none
  | .get => do
    let s ← Engine.get
    let value ← Engine.ofExcept (do s.scopes.load (← args.text 0))
    return some (.text value)
  | .unset => do
    let name ← Engine.ofExcept (args.text 0)
    Engine.refuseIf (!(← Engine.removeVariable name)) (.undefinedVariable name)
    return none
  | .vars => do
    Engine.modify fun s => s.say (variablesText s.scopes.active)
    return none
  | .enterScope => do
    Engine.enterScope
    return none
  | .exitScope => do
    Engine.exitScope
    return none
  | .enterGlobal => do
    Engine.enterGlobal
    return none
  | .exitGlobal => do
    Engine.exitGlobal
    return none
  | .scoped => do
    let (name, rest) ← Engine.ofExcept (args.forward 0)
    Engine.temporaryScope (exec name rest)
    return none
  | .globally => do
    let (name, rest) ← Engine.ofExcept (args.forward 0)
    Engine.inGlobal (exec name rest)
    return none

end LineShell.Builtin
