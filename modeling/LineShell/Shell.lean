import LineShell.CommandLine
import LineShell.History
import LineShell.Session.Interpreter
import LineShell.Settings.Filter
import LineShell.Settings.Loading
import LineShell.Text.Typed

/-!
# The program

The program loads its settings, prepares a session, and then runs one line, or one script, or the
lines of its input as they come.  It is a function of its arguments, the environment, the files and
the input; `start` goes as far as it can without input, and each line of input is one `enter`.
-/

namespace LineShell

/-- What a run of the program leaves behind. -/
structure Report where
  exitCode : Nat
  out : String
  err : String
  /-- The path and the text of the history file, if it is to be written. -/
  history : Option (String × String) := none

/-- The options of a session.  A quiet one writes no feedback. -/
def Settings.sessionOptions (settings : Settings) (quiet : Bool) : SessionOptions where
  feedback := settings.interpreter.feedback && !quiet
  errorFeedback := settings.interpreter.errorFeedback
  interpolationLimit := settings.interpreter.interpolationLimit
  stripMarkers := settings.interpreter.stripMarkers
  maxDepth := settings.interpreter.maxCallDepth
  prompt := some settings.shell.prompt

/-- A session that takes its lines from the input. -/
structure Shell where
  session : Session
  settings : Settings
  env : Environment
  history : History
  /-- Whether the prompt is written before a line is read. -/
  prompts : Bool
  /-- Whether a line came that has no reading, after which none is read any more. -/
  broken : Bool := false

namespace Shell

/-! ### Preparation -/

/-- Whether a directory is at a path. -/
def isDirectory (path : String) : Engine Bool := fun s =>
  match s.files.isDirectory? path with
  | some answer => (.done answer, s)
  | none => (.halted (.unread path), s)

/-- Uses the packages, loads the scripts and runs the scripts that are to be there from the start.
A directory that is missing is passed over, and so is the failure of a script. -/
def prepare (settings : Settings) (env : Environment) : Engine Unit := do
  settings.packages.preload.forM Engine.usePackage
  (settings.packages.scriptPaths env).forM fun path => do
    if ← isDirectory path then
      let _ ← Engine.loadPackages path
  (settings.packages.startupPaths env).forM fun path => do
    let _ ← Engine.superviseFile Engine.call path

/-- The settings, and what is said about them: if they cannot be loaded the defaults are used. -/
def loadSettings (env : Environment) (files : FileTree) (invocation : Invocation) :
    Except Halt (Settings × String) :=
  let source : SettingsSource := match invocation.config with
    | some path => .file path
    | none => .search (Settings.searchPath env)
  match (Settings.load env files source).run with
  | .error unread => .error (.unread unread.path)
  | .ok (.ok settings) => .ok (settings, "")
  | .ok (.error fault) => .ok ({}, "cmd9: " ++ fault.message ++ "; using defaults\n")

/-! ### Lines of input -/

/-- The terminals on which a line cannot be edited. -/
def plainTerminals : List String := ["dumb", "cons25", "emacs"]

/-- Whether the terminal that the environment names cannot edit a line. -/
def isPlainTerminal (env : Environment) : Bool :=
  (env.value? "TERM").any fun term => plainTerminals.contains (Text.toLowerAscii term)

/-- The lines that greet the user. -/
def greeting : List String := ["cmd9 v" ++ programVersion, "Type 'quit' to exit, 'help' for help."]

/-- The history that the file of the settings holds. -/
def loadHistory (settings : Settings) (env : Environment) (files : FileTree) :
    Except Halt History :=
  let history := History.empty settings.shell.history.maxEntries
  if settings.shell.history.enabled then
    let path := settings.shell.history.path env
    match files.readLeading? path with
    | some (.ok (text, whole)) => .ok (history.load text whole)
    | some (.error _) => .ok history
    | none => .error (.unread path)
  else .ok history

/-- A shell on a session. -/
def ofSession (session : Session) (settings : Settings) (env : Environment) :
    Except Halt Shell := do
  let history ← loadHistory settings env session.files
  let session := greeting.foldl Session.sayLine session
  return { session, settings, env, history, prompts := isPlainTerminal env }

/-- Writes to the output in any case. -/
def print (shell : Shell) (text : String) : Shell :=
  { shell with session := { shell.session with out := shell.session.out ++ text } }

/-- Writes the prompt, if that is to be. -/
def ask (shell : Shell) : Shell :=
  if shell.prompts then shell.print (shell.session.renderPrompt.getD "> ") else shell

/-- Runs a line and reports the jobs that have finished. -/
def runEntered (line : String) : Engine Unit := do
  let _ ← Engine.superviseLine Engine.call line
  Engine.modify fun s =>
    let (reports, jobs) := s.jobs.look
    (reports.map JobTable.reportLine).foldl Session.sayLine { s with jobs }

/-- Whether the shell takes another line. -/
def isOpen (shell : Shell) : Bool := shell.session.running && !shell.broken

/-- Takes a line of input as it was typed. -/
def enter (shell : Shell) (line : String) : Except Halt Shell :=
  match Text.typed? line with
  | none => .ok { shell with broken := true }
  | some line =>
    let line := Text.trim line
    if line.isEmpty then .ok shell
    else
      match runEntered line shell.session with
      | (.halted reason, _) => .error reason
      | (_, session) => .ok { shell with session, history := shell.history.add line }

/-- What is written when the input ends before the session does. -/
def farewell (shell : Shell) : Shell := shell.print "quit\n"

/-! ### The end -/

/-- The report on a session that has come to its end. -/
def reportOn (session : Session) (ok : Bool) : Report where
  exitCode := if ok && (session.jobs.wait.1.all (·.2)) then 0 else 1
  out := session.out
  err := session.err

/-- The report on a shell that has come to its end.  A shell that broke keeps no history. -/
def report (shell : Shell) : Report :=
  let settings := shell.settings.shell.history
  let history :=
    if settings.enabled && shell.history.changed && !shell.broken then
      some (settings.path shell.env, shell.history.fileText)
    else none
  { reportOn shell.session (!shell.broken) with history }

/-- How far the program comes without input. -/
inductive Start
  | finished (report : Report)
  | reading (shell : Shell)

/-- The report on a run that ended before there was a session to speak of. -/
def failure (session : Session) (message : String) : Start :=
  .finished { exitCode := 1, out := session.out, err := session.err ++ "cmd9: " ++ message ++ "\n" }

/-- Runs what an invocation asks for in a session that is prepared. -/
def runInvocation (invocation : Invocation) (settings : Settings) (env : Environment)
    (session : Session) : Except Halt Start :=
  match invocation.line, invocation.script with
  | some line, _ => ended session (Engine.superviseLine Engine.call line session) ""
  | none, some path =>
    ended session (Engine.superviseFile Engine.call path session) ("cannot read '" ++ path ++ "': ")
  | none, none => return .reading (← ofSession session settings env)
where
  /-- The end of a line or a script. -/
  ended (session : Session) (result : Outcome Bool × Session) (context : String) :
      Except Halt Start :=
    match result with
    | (.done ok, session) => .ok (.finished (reportOn session ok))
    | (.failed e, session) =>
      let report := reportOn session false
      .ok (.finished { report with err := report.err ++ "cmd9: " ++ context ++ e.message ++ "\n" })
    | (.crashed _, _) => .ok (.finished (reportOn session false))
    | (.halted reason, _) => .error reason

/-- The program up to the point where it needs input. -/
def start (env : Environment) (files : FileTree) (arguments : List String) : Except Halt Start :=
  match CommandLine.request env arguments with
  | .error fault => .ok (.finished ⟨2, "", CommandLine.faultText fault, none⟩)
  | .ok .help => .ok (.finished ⟨0, CommandLine.helpText env, "", none⟩)
  | .ok .version => .ok (.finished ⟨0, CommandLine.versionText, "", none⟩)
  | .ok (.run invocation) => do
    let (settings, notice) ← loadSettings env files invocation
    let session := Session.start (settings.sessionOptions invocation.quiet) standardRegistry files
    let session := { session with err := notice ++ LogFilter.notices settings.logging.directive }
    if let some fault := threadFault? settings.interpreter.maxCallDepth then
      return failure session ("cannot start interpreter thread: " ++ fault.message)
    match prepare settings env session with
    | (.done _, session) => runInvocation invocation settings env session
    | (.failed e, session) => return failure session e.message
    | (.crashed _, session) => return .finished (reportOn session false)
    | (.halted reason, _) => throw reason

/-- Takes lines of input until the session stops or there are no more. -/
def enterAll (shell : Shell) : List String → Except Halt Shell
  | [] => .ok (if shell.isOpen then shell.ask.farewell else shell)
  | line :: rest =>
    if shell.isOpen then do enterAll (← shell.ask.enter line) rest else .ok shell

/-- A whole run of the program. -/
def run (env : Environment) (files : FileTree) (arguments : List String) (input : String) :
    Except Halt Report := do
  match ← start env files arguments with
  | .finished report => return report
  | .reading shell => return (← shell.enterAll (Text.lines input)).report

end Shell

end LineShell
