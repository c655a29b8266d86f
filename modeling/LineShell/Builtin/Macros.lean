import LineShell.Session.Script

/-!
# Commands that define macros and aliases
-/

namespace LineShell.Builtin

/-- The commands that define macros and aliases, by name. -/
def macroCommands : List (String × Command) :=
  let entry (name : String) (least : Nat) (most : Option Nat) (command : MacroCommand)
      (description usage : String) : String × Command :=
    (name, ⟨least, most, description, usage, [], .builtin (.macros command)⟩)
  [entry "#define" 1 none .define "Define a text macro" "#define NAME [TEXT]...",
   entry "#call" 2 none .call "Define a macro that expands to a command's result"
     "#call NAME COMMAND [ARG]...",
   entry "#action" 2 none .action "Define a macro that runs a command and expands to nothing"
     "#action NAME COMMAND [ARG]...",
   entry "#undef" 1 (some 1) .undefine "Remove a macro" "#undef NAME",
   entry "macros" 0 (some 0) .macros "List macros" "macros",
   entry "alias" 2 none .alias
     "Add a custom command forwarding to another with fixed leading arguments"
     "alias NAME COMMAND [ARG]...",
   entry "unalias" 1 (some 1) .unalias "Remove a custom command" "unalias NAME"]

/-- The macros, one to a line. -/
def macrosText (table : NameMap Macro) : String :=
  String.join (table.entries.map fun (name, body) =>
    Text.padRight 14 name ++ " " ++ body.describe ++ "\n")

/-- The command that calls another one with arguments before its own. -/
def aliasCommand (name target : String) (fixed : List String) : Command :=
  .any (.forward target fixed) ("alias for " ++ Word.commandLine target fixed)
    (name ++ " [ARG]...")

/-- What the commands that define macros and aliases do. -/
def runMacros (command : MacroCommand) (args : Arguments) : Engine Unit :=
  match command with
  | .define => do
    let name ← Engine.ofExcept (args.text 0)
    Engine.defineMacro name (.text (args.joined 1))
  | .call => do
    let (target, rest) ← Engine.ofExcept (args.forward 1)
    let name ← Engine.ofExcept (args.text 0)
    Engine.defineMacro name (.call target rest)
  | .action => do
    let (target, rest) ← Engine.ofExcept (args.forward 1)
    let name ← Engine.ofExcept (args.text 0)
    Engine.defineMacro name (.action target rest)
  | .undefine => do
    let name ← Engine.ofExcept (args.text 0)
    Engine.refuseIf (!(← Engine.undefineMacro name))
      (.raised ("#undef: no macro named '" ++ name ++ "'"))
  | .macros => .modify fun s => s.say (macrosText s.macros)
  | .alias => do
    let name ← Engine.ofExcept (args.text 0)
    let (target, fixed) ← Engine.ofExcept (args.forward 1)
    Engine.registerCustom name (aliasCommand name target fixed)
  | .unalias => do
    let name ← Engine.ofExcept (args.text 0)
    Engine.refuseIf (!(← Engine.removeCustom name)) (.unrecognized name)

end LineShell.Builtin
