import LineShell.Session.Expansion
import LineShell.Text.Lines

/-!
# Scripts

A script is a text whose lines are run one after the other until one fails or the session stops.  A
command that is made of a script runs it in a temporary scope, with its arguments as variables that
are named by their numbers.
-/

namespace LineShell

namespace Script

/-- The extension of script files. -/
def extension : String := "c9"

/-- The comment that a script begins with, if it is not empty. -/
def summary? (text : String) : Option String := do
  let line ← ((Text.lines text).map Text.trim).find? (!·.isEmpty)
  let comment ← Text.after? Engine.commentStart.toList line.toList
  let comment := Text.trimChars comment
  if comment.isEmpty then none else some (String.ofList comment)

/-- The command that a script is made into. -/
def command (text description name : String) : Command :=
  .any (.script text) description (name ++ " [ARG]...")

/-- Texts put together, a line end added wherever the whole does not end in one. -/
def concatenate (texts : List String) : String :=
  texts.foldl (fun whole text =>
    let whole := whole ++ text
    if whole.toList.getLast? = some '\n' then whole else whole ++ "\n") ""

end Script

namespace Engine

/-- The text of a file. -/
def readFile (path : String) : Engine String := fun s =>
  match s.files.readText? path with
  | none => (.halted (.unread path), s)
  | some (.ok text) => (.done text, s)
  | some (.error fault) => (.failed (.file fault), s)

/-- The paths of the scripts in a directory, in order.  One that is too long to be looked at is left
out. -/
def scriptFiles (dir : String) : Engine (List String) := fun s =>
  match s.files.fileNames? dir with
  | none => (.halted (.unread dir), s)
  | some (.error fault) => (.failed (.file fault), s)
  | some (.ok names) =>
    (.done ((names.map (Path.join dir)).filter
      (fun path => Path.fits path && Path.extension? path == some Script.extension)), s)

/-- Runs lines until one fails or the session stops. -/
def runLines (exec : Exec) : List String → Engine Unit
  | [] => pure ()
  | line :: rest => do
    if (← get).running then
      runLine exec line
      runLines exec rest

/-- Runs the lines of a script. -/
def runScript (exec : Exec) (text : String) : Engine Unit :=
  runLines exec (Text.lines text)

/-- Runs a line under supervision; its source is its first word. -/
def superviseLine (exec : Exec) (line : String) : Engine Bool :=
  supervise (Text.firstWord line) (runLine exec line)

/-- Runs lines, each under supervision, until one fails or the session stops.  The source of a line
is the origin of the script, the number of the line and its first word. -/
def superviseLines (exec : Exec) (origin : String) (number : Nat) : List String → Engine Bool
  | [] => pure true
  | line :: rest => do
    if (← get).running then
      let source := origin ++ ":" ++ Text.decimal number ++ ": " ++ Text.firstWord line
      if ← supervise source (runLine exec line) then
        superviseLines exec origin (number + 1) rest
      else return false
    else return true

/-- Runs the lines of a script, each under supervision. -/
def superviseScript (exec : Exec) (origin text : String) : Engine Bool :=
  superviseLines exec origin 1 (Text.lines text)

/-- Runs the script at a path, each line under supervision. -/
def superviseFile (exec : Exec) (path : String) : Engine Bool := do
  superviseScript exec path (← readFile path)

/-- The variables that hold the arguments of a script and their number. -/
def bindPositional (scopes : Scopes) (args : List String) : Scopes :=
  let bound := (args.zipIdx 1).foldl (fun scopes (value, index) =>
    scopes.store (Text.decimal index) value) scopes
  bound.store "argc" (Text.decimal args.length)

/-- Runs a script in a temporary scope that holds its arguments.  That is refused in Global. -/
def runScriptCommand (exec : Exec) (text : String) (args : List String) : Engine Unit := do
  if (← get).scopes.globalActive then fail (.scope .scriptInGlobal)
  else temporaryScope do
    modify fun s => { s with scopes := bindPositional s.scopes args }
    runScript exec text

/-- The name and the command that a script file is made into; without a name the file gives it. -/
def loadScript (path : String) (name : Option String) : Engine (String × Command) := do
  let text ← readFile path
  match name.or (Path.stem? path) with
  | none => fail (.raised ("cannot name a command after '" ++ path ++ "'"))
  | some name =>
    let description := (Script.summary? text).getD ("script " ++ path)
    return (name, Script.command text description name)

/-- The command that all scripts of a directory, put together, are made into. -/
def compileDirectory (dir name : String) : Engine Command := do
  match ← scriptFiles dir with
  | [] => fail (.raised ("no ." ++ Script.extension ++ " scripts in '" ++ dir ++ "'"))
  | paths =>
    let texts ← paths.mapM readFile
    let description := Text.decimal paths.length ++ " scripts compiled from " ++ dir
    return Script.command (Script.concatenate texts) description name

/-- The package of the scripts in a directory, which is named after the directory; none when there
are no scripts. -/
def discoverPackages (dir : String) : Engine (List Package) := do
  match ← scriptFiles dir with
  | [] => return []
  | paths =>
    let commands ← registerScripts (.empty ((Path.fileName? dir).getD "scripts")) paths
    return [commands]
where
  /-- Puts scripts into a package, one after the other. -/
  registerScripts (package : Package) : List String → Engine Package
    | [] => pure package
    | path :: rest => do
      let (name, command) ← loadScript path none
      let package ← ofExcept (package.register name command)
      registerScripts package rest

/-- Adds the package of the scripts in a directory, and gives the number of packages. -/
def loadPackages (dir : String) : Engine Nat := do
  let packages ← discoverPackages dir
  addPackages packages
  return packages.length

end Engine

end LineShell
