import LineShell.Session.Script

/-!
# Commands that read scripts and packages
-/

namespace LineShell.Builtin

/-- The commands that read scripts and packages, by name. -/
def scriptCommands : List (String × Command) :=
  let entry (name : String) (least : Nat) (most : Option Nat) (command : ScriptCommand)
      (description usage : String) : String × Command :=
    (name, ⟨least, most, description, usage, [], .builtin (.script command)⟩)
  [entry "load" 1 (some 2) .load "Register a script file as a custom command"
     "load PATH [NAME]",
   entry "compile" 2 (some 2) .compile "Register every script in a directory as one command"
     "compile DIR NAME",
   entry "source" 1 (some 1) .source "Run a script file in the current scope" "source PATH",
   entry "import" 1 (some 1) .importDir "Load a directory of scripts as a package" "import DIR",
   entry "use" 1 (some 1) .use "Add a compiled-in package" "use NAME"]

/-- What the commands that read scripts and packages do. -/
def runScripts (exec : Exec) (command : ScriptCommand) (args : Arguments) : Engine Unit := do
  let first ← Engine.ofExcept (args.text 0)
  match command with
  | .load =>
    let (name, loaded) ← Engine.loadScript first (args.items[1]?.map Argument.display)
    Engine.registerCustom name loaded
  | .compile =>
    let name ← Engine.ofExcept (args.text 1)
    let compiled ← Engine.compileDirectory first name
    Engine.registerCustom name compiled
  | .source => Engine.runScript exec (← Engine.readFile first)
  | .importDir => let _ ← Engine.loadPackages first
  | .use => Engine.usePackage first

end LineShell.Builtin
