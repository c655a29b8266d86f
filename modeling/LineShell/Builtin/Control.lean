import LineShell.Regex.Matcher
import LineShell.Regex.Size
import LineShell.Session.Script

/-!
# Commands that run other commands, and conditions

The commands of this module call back into the interpreter through `exec`, which calls a command one
level deeper.
-/

namespace LineShell.Builtin

/-- The commands that run other commands and those that give conditions, by name. -/
def controlCommands : List (String × Command) :=
  let entry (name : String) (least : Nat) (most : Option Nat) (kinds : List Kind)
      (command : ControlCommand) (description usage : String) : String × Command :=
    (name, ⟨least, most, description, usage, kinds, .builtin (.control command)⟩)
  [entry "run" 1 (some 1) [] .run "Preprocess and execute a line" "run LINE",
   entry "chain" 1 none [] .chain "Run lines in order, stopping at the first failure"
     "chain LINE...",
   entry "repeat" 2 none [.int] .repeatTimes "Invoke a command N times with the same arguments"
     "repeat N COMMAND [ARG]...",
   entry "while" 2 none [] .whileTrue "Invoke a command while a condition line yields true"
     "while CONDITION COMMAND [ARG]...",
   entry "if" 2 none [.bool] .ifTrue "Invoke a command when BOOL is true"
     "if BOOL COMMAND [ARG]...",
   entry "unless" 2 none [.bool] .unlessTrue "Invoke a command when BOOL is false"
     "unless BOOL COMMAND [ARG]...",
   entry "if-else" 3 (some 3) [.bool] .ifElse
     "Run the first line when BOOL is true, else the second" "if-else BOOL LINE LINE",
   entry "catch" 1 none [] .catching
     "Run a command under supervision and push whether it succeeded" "catch COMMAND [ARG]...",
   entry "async" 1 none [] .async "Run a command in the background on a snapshot"
     "async COMMAND [ARG]...",
   entry "jobs" 0 (some 0) [] .jobs "List background jobs" "jobs",
   entry "wait" 0 (some 0) [] .wait "Wait for every background job" "wait",
   entry "equals" 2 (some 2) [] .equals "Push whether two texts are equal" "equals A B",
   entry "not" 1 (some 1) [.bool] .negate "Push the negation of BOOL" "not BOOL",
   entry "matches" 2 (some 2) [] .matchesPattern "Push whether TEXT matches a regular expression"
     "matches TEXT REGEX"]

/-- Runs lines until one fails. -/
def runAll (exec : Exec) : List String → Engine Unit
  | [] => pure ()
  | line :: rest => do
    Engine.runLine exec line
    runAll exec rest

/-- Calls a command a number of times, until a call fails. -/
def callTimes (call : Engine Unit) : Nat → Engine Unit
  | 0 => pure ()
  | times + 1 => fun s =>
    match call s with
    | (.done _, s) => callTimes call times s
    | ended => ended

/-- Runs a line on a frame of its own, and takes the value that it leaves as a condition. -/
def condition (exec : Exec) (line : String) : Engine Bool := do
  let item ← Engine.isolated do
    Engine.runLine exec line
    Engine.popItem
  match item.truth? with
  | some b => return b
  | none =>
    Engine.fail (.raised
      ("condition '" ++ line ++ "' produced '" ++ item.display ++ "', not a boolean"))

/-- Makes a call as long as a condition holds.  The fuel bounds the number of rounds. -/
def callWhile (test : Engine Bool) (call : Engine Unit) : (fuel : Nat) → Engine Unit
  | 0 => Engine.halt .fuel
  | fuel + 1 => fun s =>
    match test s with
    | (.done true, s) =>
      match call s with
      | (.done _, s) => callWhile test call fuel s
      | ended => ended
    | (.done false, s) => (.done (), s)
    | (.failed e, s) => (.failed e, s)
    | (.crashed p, s) => (.crashed p, s)
    | (.halted r, s) => (.halted r, s)

/-- Writes a line for each job.  Those that are found finished are reported in this way. -/
def listJobs (s : Session) : Session :=
  let (reports, jobs) := s.jobs.look
  s.jobs.tracked.foldl (fun s job =>
    s.sayLine ("[" ++ Text.decimal job.id ++ "] "
      ++ Text.padRight 8 (JobTable.progressWord reports job) ++ " " ++ job.label)) { s with jobs }

/-- Waits for all jobs and writes a line for each. -/
def waitForJobs (s : Session) : Session :=
  let (reports, jobs) := s.jobs.wait
  reports.foldl (fun s entry => s.sayLine (JobTable.reportLine entry)) { s with jobs }

/-- Whether a text matches a pattern. -/
def matchesText (args : Arguments) : Except Error Bool := do
  let pattern ← args.text 1
  match Regex.compile pattern with
  | .ok regex => return regex.isMatch (← args.text 0)
  | .error refusal =>
    throw (.raised ("matches: invalid pattern '" ++ pattern ++ "': " ++ refusal.message pattern))

/-- What the commands of this module do.  The fuel bounds the rounds of a loop. -/
def runControl (fuel : Nat) (exec : Exec) (command : ControlCommand) (args : Arguments) :
    Engine (Option Item) :=
  let forward (start : Nat) : Engine Unit := do
    let (name, rest) ← Engine.ofExcept (args.forward start)
    exec name rest
  match command with
  | .run => do
    Engine.runLine exec (← Engine.ofExcept (args.text 0))
    return none
  | .chain => do
    runAll exec (args.rest 0)
    return none
  | .repeatTimes => do
    let times ← Engine.ofExcept (args.int 0)
    if times < 0 then
      Engine.fail (.raised
        ("repeat: count must not be negative, got " ++ Text.signedDecimal times))
    let (name, rest) ← Engine.ofExcept (args.forward 1)
    callTimes (exec name rest) times.toNat
    return none
  | .whileTrue => do
    let line ← Engine.ofExcept (args.text 0)
    let (name, rest) ← Engine.ofExcept (args.forward 1)
    callWhile (condition exec line) (exec name rest) fuel
    return none
  | .ifTrue => do
    if ← Engine.ofExcept (args.bool 0) then forward 1
    return none
  | .unlessTrue => do
    unless ← Engine.ofExcept (args.bool 0) do forward 1
    return none
  | .ifElse => do
    let test ← Engine.ofExcept (args.bool 0)
    let line ← Engine.ofExcept (args.text (if test then 1 else 2))
    Engine.runLine exec line
    return none
  | .catching => do
    let (name, rest) ← Engine.ofExcept (args.forward 0)
    return some (.bool (← Engine.supervise name (exec name rest)))
  | .async => do
    let (name, rest) ← Engine.ofExcept (args.forward 0)
    let (id, out, err) ← Engine.startJob exec name rest
    Engine.modify (·.sayLine ("[" ++ Text.decimal id ++ "] started"))
    Engine.addOutput out err
    return none
  | .jobs => do
    Engine.modify listJobs
    return none
  | .wait => do
    Engine.modify waitForJobs
    return none
  | .equals => do
    return some (.bool (decide
      ((← Engine.ofExcept (args.text 0)) = (← Engine.ofExcept (args.text 1)))))
  | .negate => do return some (.bool !(← Engine.ofExcept (args.bool 0)))
  | .matchesPattern => do return some (.bool (← Engine.ofExcept (matchesText args)))

end LineShell.Builtin
