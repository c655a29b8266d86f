import LineShell.Shell

/-!
# The program on the outside

Reading arguments, the environment, files and lines, and writing what the program says.  Files are
looked at when the program asks for them: a step that has to know what stands at a path gives that
path, and is taken again once it is known.
-/

namespace LineShell.Program

/-- The variables that are looked up one by one where the environment cannot be read as a whole. -/
def knownVariables : List String :=
  ["HOME", "TERM", "CLICOLOR_FORCE", "CMD9_CONFIG", "CMD9_LOG_LEVEL", "CMD9_FEEDBACK",
   "CMD9_ERROR_FEEDBACK", "CMD9_PROMPT", "CMD9_SCRIPT_DIR", "CMD9_INTERPOLATION_LIMIT"]

/-- The environment of this process. -/
def environment : IO Environment := do
  try
    return .ofBytes (← IO.FS.readBinFile "/proc/self/environ").toList
  catch _ =>
    let found ← knownVariables.filterMapM fun name => do
      return (← IO.getEnv name).map (name, ·)
    return .ofList found

/-- Why a file cannot be read. -/
def faultOf : IO.Error → FileFault
  | .noFileOrDirectory .. => .notFound
  | .inappropriateType .. => .notDirectory
  | .permissionDenied .. => .other "Permission denied (os error 13)"
  | e => .other (toString e)

/-- The entry of the working directory under a path. -/
def entryAt (path : String) : IO.FS.DirEntry := { root := ".", fileName := path }

/-- Whether a directory is at an entry. -/
def isDirectory (entry : IO.FS.DirEntry) : IO Bool := do
  return (← entry.path.metadata).type == .dir

/-- What stands at a path. -/
def nodeAt (path : String) : IO FileNode := do
  try
    if ← isDirectory (entryAt path) then return .directory
    else return .file (← IO.FS.readBinFile path)
  catch e => return .absent (faultOf e)

/-- The names of the files in a directory. -/
def namesIn (path : String) : IO (List String) := do
  try
    let entries ← (entryAt path).path.readDir
    let files ← entries.toList.filterM fun entry => return !(← isDirectory entry)
    return files.map (·.fileName)
  catch _ => return []

/-- Records what stands at the places that a path leads through, and the names of the files in the
last of them. -/
def lookAt (files : FileTree) (path : String) : IO FileTree := do
  let files ← (FileTree.places path).foldlM (fun files place => do
    return files.record place (← nodeAt (FileTree.placePath place))) files
  return files.recordListing (FileTree.resolved path) (← namesIn path)

/-- Takes a step again and again until all files that it asks for are known. -/
partial def settle {α : Type} (files : FileTree) (step : FileTree → Except Halt α) : IO α := do
  match step files with
  | .ok a => return a
  | .error (.unread path) => settle (← lookAt files path) step
  | .error .fuel => throw (IO.userError "the run came to no end")

/-- Writes what is to be written. -/
def emit (out err : String) : IO Unit := do
  IO.print out
  (← IO.getStdout).flush
  IO.eprint err

/-- Writes what a shell has said so far. -/
def emitOutput (shell : Shell) : IO Shell := do
  emit shell.session.out shell.session.err
  return { shell with session := { shell.session with out := "", err := "" } }

/-- Takes lines of input until the session stops or there are no more. -/
partial def readLines (shell : Shell) : IO Shell := do
  if !shell.isOpen then return shell
  let shell ← emitOutput shell.ask
  let line ← (← IO.getStdin).getLine
  if line.isEmpty then return shell.farewell
  let shell ← settle .unknown fun files =>
    { shell with session := { shell.session with files } }.enter line
  readLines (← emitOutput shell)

/-- Writes a report and the history file.  A file that cannot be written is passed over. -/
def finish (report : Report) : IO UInt32 := do
  emit report.out report.err
  if let some (path, text) := report.history then
    try IO.FS.writeFile path text catch _ => pure ()
  return UInt32.ofNat report.exitCode

end LineShell.Program

open LineShell in
/-- Runs the program with its arguments. -/
def main (arguments : List String) : IO UInt32 := do
  let env ← Program.environment
  match ← Program.settle .unknown fun files => Shell.start env files arguments with
  | .finished report => Program.finish report
  | .reading shell =>
    let interactive ← (← IO.getStdin).isTty
    let shell ← Program.readLines { shell with prompts := shell.prompts || interactive }
    Program.finish shell.report
