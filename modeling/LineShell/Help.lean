import LineShell.Package

/-!
# Help texts

What is listed is what can be called: a command whose name an earlier package has as well does not
appear.
-/

namespace LineShell.Help

/-- The description of one command. -/
def describe (name package : String) (command : Command) : String :=
  let title := if command.description.isEmpty then name else name ++ " - " ++ command.description
  let usage := if command.usage.isEmpty then name else command.usage
  let kinds :=
    if command.kinds.isEmpty then ""
    else "Types: " ++ ", ".intercalate (command.kinds.map Kind.label) ++ "\n"
  title ++ "\n\nUsage: " ++ usage ++ "\nArguments: " ++ command.arityLabel ++ "\n" ++ kinds
    ++ "Package: " ++ package ++ "\n"

/-- The section of one package in the list of commands, which is empty when none can be called. -/
def packageSection (set : PackageSet) (package : Package) : String :=
  match set.reachableIn package with
  | [] => ""
  | reachable =>
    "\n[" ++ package.name ++ "]\n" ++ String.join (reachable.map fun (name, command) =>
      "  " ++ Text.padRight 14 name ++ " " ++ command.description ++ "\n")

/-- The list of all commands, by package. -/
def listCommands (set : PackageSet) : String :=
  "cmd9 - available commands\n" ++ String.join (set.toList.map (packageSection set))
    ++ "\nUse 'help NAME' for more information.\n"

/-- The line of one package in the list of packages. -/
def packageLine (set : PackageSet) (package : Package) : String :=
  let reachable := (set.reachableIn package).length
  let shadowed :=
    if reachable < package.size then
      " (" ++ Text.decimal (package.size - reachable) ++ " shadowed)"
    else ""
  Text.padRight 12 package.name ++ " " ++ Text.decimal reachable ++ " commands" ++ shadowed ++ "\n"

/-- The list of packages in the order of lookup. -/
def listPackages (set : PackageSet) : String :=
  String.join (set.toList.map (packageLine set))

end LineShell.Help
