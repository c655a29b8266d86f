import LineShell.Help
import LineShell.Session.Expansion

/-!
# Commands about the interpreter
-/

namespace LineShell.Builtin

/-- The commands about the interpreter, by name. -/
def infoCommands : List (String × Command) :=
  let entry (name : String) (least : Nat) (most : Option Nat) (kinds : List Kind)
      (command : InfoCommand) (description usage : String) : String × Command :=
    (name, ⟨least, most, description, usage, kinds, .builtin (.info command)⟩)
  [entry "help" 0 (some 1) [] .help "List commands or describe one" "help [NAME]",
   entry "packages" 0 (some 0) [] .packages "List packages in search order" "packages",
   entry "quit" 0 (some 0) [] .quit "Stop the read loop" "quit",
   entry "exit" 0 (some 0) [] .quit "Stop the read loop" "exit",
   entry "feedback" 0 (some 1) [.bool] .feedback "Set or toggle command feedback"
     "feedback [BOOL]",
   entry "errors" 0 (some 1) [.bool] .errors "Set or toggle error diagnostics" "errors [BOOL]",
   entry "print" 0 none [] .print "Print the arguments as one line" "print [TEXT]...",
   entry "raise" 1 none [] .raise "Abort with a message" "raise MESSAGE..."]

/-- The help on all commands, or on one. -/
def helpText (set : PackageSet) (args : Arguments) : Except Error String :=
  match args.items with
  | [] => .ok (Help.listCommands set)
  | name :: _ =>
    match set.resolve? name.display with
    | some (package, command) => .ok (Help.describe name.display package.name command)
    | none => .error (.unrecognized name.display)

/-- What the commands about the interpreter do. -/
def runInfo (command : InfoCommand) (args : Arguments) : Engine Unit :=
  match command with
  | .help => do
    let text ← Engine.ofExcept (helpText (← Engine.get).packages args)
    Engine.modify (·.say text)
  | .packages => .modify fun s => s.say (Help.listPackages s.packages)
  | .quit => .modify fun s => { s with running := false }
  | .feedback => do
    let flag ← Engine.ofExcept (args.bool? 0)
    Engine.modify fun s => { s with feedback := flag.getD !s.feedback }
  | .errors => do
    let flag ← Engine.ofExcept (args.bool? 0)
    Engine.modify fun s => { s with errorFeedback := flag.getD !s.errorFeedback }
  | .print => .modify (·.sayLine (args.joined 0))
  | .raise => .fail (.raised (args.joined 0))

end LineShell.Builtin
