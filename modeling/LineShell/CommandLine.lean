import LineShell.Environment
import LineShell.Text.Terminal

/-!
# The command line

What the arguments of the program ask for.  An option may be given once; its value stands in the
next argument, or after it in the same one.  After two dashes nothing is an option.
-/

namespace LineShell

/-- The version of the program. -/
def programVersion : String := "0.1.0"

/-- What to run, and how. -/
structure Invocation where
  /-- The file with settings. -/
  config : Option String := none
  /-- Whether commands write no feedback. -/
  quiet : Bool := false
  /-- A line to run. -/
  line : Option String := none
  /-- A script to run, if there is no line. -/
  script : Option String := none
  deriving DecidableEq, Repr

/-- What the arguments ask for. -/
inductive Request
  | run (invocation : Invocation)
  | help
  | version
  deriving DecidableEq, Repr

/-- Why arguments are refused. -/
inductive UsageFault
  | unexpected (argument : String)
  | missingValue (option : String)
  | unneededValue (option : String)
  | repeated (option : String)
  deriving DecidableEq, Repr

/-- The wording of a fault. -/
def UsageFault.message : UsageFault → String
  | .unexpected argument => "unexpected argument '" ++ argument ++ "' found"
  | .missingValue option => "a value is required for '" ++ option ++ "' but none was supplied"
  | .unneededValue option => "unexpected value for '" ++ option ++ "' found"
  | .repeated option => "the argument '" ++ option ++ "' cannot be used multiple times"

namespace CommandLine

/-- What the arguments of the program are. -/
def synopsis : String := "[OPTIONS] [SCRIPT]\n"

/-- How the program is called. -/
def usage : String := "Usage: cmd9 " ++ synopsis

/-- The column at which the help on options begins. -/
def helpColumn : Nat := 25

/-- A text on several lines, all but the first of which begin at the column of the help. -/
def indentLines (text : String) : String :=
  let indentation := List.replicate helpColumn ' '
  String.ofList (text.toList.flatMap fun c => if c = '\n' then c :: indentation else [c])

/-- The help on the command line for a terminal.  It shows the file with settings that the
environment names. -/
def styledHelp (env : Environment) : String :=
  "cmd9 - Extensible line-oriented command interpreter\n\n"
  ++ Text.underlined "Usage:" ++ " " ++ Text.bold "cmd9" ++ " " ++ synopsis
  ++ "\n" ++ Text.underlined "Arguments:" ++ "\n"
  ++ "  [SCRIPT]  Script file to execute\n"
  ++ "\n" ++ Text.underlined "Options:" ++ "\n"
  ++ "      " ++ Text.bold "--config" ++ " <CONFIG>  "
  ++ "Configuration file (replaces the default search path) [env: CMD9_CONFIG="
  ++ indentLines ((env.value? "CMD9_CONFIG").getD "") ++ "]\n"
  ++ "  " ++ Text.bold "-q" ++ ", " ++ Text.bold "--quiet"
  ++ "            Disable command feedback\n"
  ++ "  " ++ Text.bold "-c" ++ " <COMMAND>           Execute one line and exit\n"
  ++ "  " ++ Text.bold "-h" ++ ", " ++ Text.bold "--help" ++ "             Print help\n"
  ++ "  " ++ Text.bold "-V" ++ ", " ++ Text.bold "--version" ++ "          Print version\n"

/-- Whether the environment asks for control sequences in any case. -/
def forcesStyle (env : Environment) : Bool :=
  (env.value? "CLICOLOR_FORCE").any (· != "0")

/-- The help on the command line.  Its control sequences are taken out, unless the environment asks
for them. -/
def helpText (env : Environment) : String :=
  if forcesStyle env then styledHelp env else Text.plain (styledHelp env)

/-- The text that tells the version. -/
def versionText : String := "cmd9 " ++ programVersion ++ "\n"

/-- The text that refuses arguments. -/
def faultText (fault : UsageFault) : String :=
  "error: " ++ fault.message ++ "\n\n" ++ usage ++ "\nFor more information, try '--help'.\n"

/-! ### Single settings -/

/-- Sets the file with settings. -/
def setConfig (invocation : Invocation) (path : String) : Except UsageFault Invocation :=
  if invocation.config.isSome then .error (.repeated "--config")
  else .ok { invocation with config := some path }

/-- Sets the line to run. -/
def setLine (invocation : Invocation) (line : String) : Except UsageFault Invocation :=
  if invocation.line.isSome then .error (.repeated "-c")
  else .ok { invocation with line := some line }

/-- Asks for no feedback. -/
def setQuiet (invocation : Invocation) : Except UsageFault Invocation :=
  if invocation.quiet then .error (.repeated "--quiet") else .ok { invocation with quiet := true }

/-- Sets the script to run. -/
def setScript (invocation : Invocation) (path : String) : Except UsageFault Invocation :=
  if invocation.script.isSome then .error (.unexpected path)
  else .ok { invocation with script := some path }

/-! ### Arguments -/

/-- What an argument with options comes to. -/
inductive Step
  /-- All is said. -/
  | applied (invocation : Invocation)
  /-- The next argument is a value. -/
  | takesValue (option : String) (apply : String → Except UsageFault Invocation)
  /-- Nothing else counts. -/
  | ends (request : Request)

/-- The options in an argument with one dash, letter by letter.  What stands after the letter of an
option with a value is the value; an equals sign before it does not count. -/
def shortOptions (invocation : Invocation) (argument : String) : List Char → Except UsageFault Step
  | [] => .ok (.applied invocation)
  | 'q' :: rest => do shortOptions (← setQuiet invocation) argument rest
  | 'h' :: _ => .ok (.ends .help)
  | 'V' :: _ => .ok (.ends .version)
  | 'c' :: [] => .ok (.takesValue "-c" (setLine invocation))
  | 'c' :: '=' :: value => do return .applied (← setLine invocation (String.ofList value))
  | 'c' :: value => do return .applied (← setLine invocation (String.ofList value))
  | _ => .error (.unexpected argument)

/-- The option in an argument with two dashes, with the value after its equals sign if there is one.
-/
def longOption (invocation : Invocation) (argument : String) (name : List Char)
    (value : Option (List Char)) : Except UsageFault Step :=
  match String.ofList name, value with
  | "config", none => .ok (.takesValue "--config" (setConfig invocation))
  | "config", some value => do return .applied (← setConfig invocation (String.ofList value))
  | "quiet", none => do return .applied (← setQuiet invocation)
  | "help", none => .ok (.ends .help)
  | "version", none => .ok (.ends .version)
  | name, some _ =>
    if name ∈ ["quiet", "help", "version"] then .error (.unneededValue ("--" ++ name))
    else .error (.unexpected argument)
  | _, none => .error (.unexpected argument)

/-- Whether an argument is no value: it begins with a dash, and more follows. -/
def looksLikeOption (argument : String) : Bool :=
  match argument.toList with
  | '-' :: _ :: _ => true
  | _ => false

/-- What one argument comes to; the two dashes after which nothing is an option are not among them.
-/
def step (invocation : Invocation) (argument : String) : Except UsageFault Step :=
  match argument.toList with
  | '-' :: '-' :: long =>
    match Text.cut? ['='] long with
    | some (name, value) => longOption invocation argument name (some value)
    | none => longOption invocation argument long none
  | '-' :: c :: letters => shortOptions invocation argument (c :: letters)
  | _ => do return .applied (← setScript invocation argument)

/-- Goes through the arguments.  `pending` is the option whose value comes next. -/
def requestFrom (invocation : Invocation)
    (pending : Option (String × (String → Except UsageFault Invocation))) :
    List String → Except UsageFault Request
  | [] =>
    match pending with
    | some (option, _) => .error (.missingValue option)
    | none => .ok (.run invocation)
  | argument :: rest =>
    match pending with
    | some (option, apply) =>
      if looksLikeOption argument then .error (.missingValue option)
      else do requestFrom (← apply argument) none rest
    | none =>
      if argument = "--" then do return .run (← rest.foldlM setScript invocation)
      else
        match step invocation argument with
        | .error fault => .error fault
        | .ok (.applied invocation) => requestFrom invocation none rest
        | .ok (.takesValue option apply) => requestFrom invocation (some (option, apply)) rest
        | .ok (.ends request) => .ok request

/-- What the arguments ask for.  The environment may name the file with settings. -/
def request (env : Environment) (arguments : List String) : Except UsageFault Request :=
  match requestFrom {} none arguments with
  | .ok (.run invocation) =>
    .ok (.run { invocation with config := invocation.config.or (env.value? "CMD9_CONFIG") })
  | result => result

end CommandLine

end LineShell
