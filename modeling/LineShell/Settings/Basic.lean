import LineShell.Environment

/-!
# Settings

What a user can set for the program, in four sections.  Every setting has a default, and a file only
has to give those that differ from it.
-/

namespace LineShell

/-- Toggles and limits of one interpreter. -/
structure InterpreterSettings where
  /-- Whether commands write to the output. -/
  feedback : Bool := true
  /-- Whether failures are reported. -/
  errorFeedback : Bool := true
  /-- How many references to variables are replaced in one text. -/
  interpolationLimit : Option Nat := none
  /-- How many calls may be active at once. -/
  maxCallDepth : Nat := 256
  /-- Whether ignore markers are removed once a line is expanded. -/
  stripMarkers : Bool := true
  deriving DecidableEq, Repr

/-- Where the lines that were entered are kept, and how many of them. -/
structure HistorySettings where
  enabled : Bool := true
  file : String := "~/.cmd9_history"
  maxEntries : Nat := 10000
  deriving DecidableEq, Repr

/-- How lines are read. -/
structure ShellSettings where
  /-- The template of the prompt. -/
  prompt : String := "cmd9[\x7bdepth\x7d]\x7bmode\x7d> "
  history : HistorySettings := {}
  deriving DecidableEq, Repr

/-- What is loaded at the start. -/
structure PackageSettings where
  /-- The packages of the registry that are used from the start. -/
  preload : List String := []
  /-- The directories whose scripts become packages. -/
  scriptDirs : List String := []
  /-- The scripts that are run at the start. -/
  startup : List String := []
  deriving DecidableEq, Repr

/-- How grave an event must be to be logged. -/
inductive LogLevel
  | trace
  | debug
  | info
  | warn
  | error
  deriving DecidableEq, Repr

/-- How events are logged. -/
inductive LogFormat
  | pretty
  | json
  | compact
  deriving DecidableEq, Repr

/-- What is logged, and how. -/
structure LoggingSettings where
  level : LogLevel := .warn
  format : LogFormat := .pretty
  filter : String := ""
  deriving DecidableEq, Repr

/-- All settings. -/
structure Settings where
  interpreter : InterpreterSettings := {}
  shell : ShellSettings := {}
  packages : PackageSettings := {}
  logging : LoggingSettings := {}
  deriving DecidableEq, Repr

namespace LogLevel

/-- The name of a level. -/
def name : LogLevel → String
  | .trace => "trace"
  | .debug => "debug"
  | .info => "info"
  | .warn => "warn"
  | .error => "error"

/-- All levels. -/
def all : List LogLevel := [.trace, .debug, .info, .warn, .error]

/-- The level with a name. -/
def ofName? (name : String) : Option LogLevel := all.find? (·.name == name)

end LogLevel

namespace LogFormat

/-- The name of a format. -/
def name : LogFormat → String
  | .pretty => "pretty"
  | .json => "json"
  | .compact => "compact"

/-- All formats. -/
def all : List LogFormat := [.pretty, .json, .compact]

/-- The format with a name. -/
def ofName? (name : String) : Option LogFormat := all.find? (·.name == name)

end LogFormat

/-- Which events are logged: the filter tells, or else the level. -/
def LoggingSettings.directive (logging : LoggingSettings) : String :=
  if logging.filter.isEmpty then logging.level.name else logging.filter

/-- The path of the history file. -/
def HistorySettings.path (history : HistorySettings) (env : Environment) : String :=
  env.expandPath history.file

/-- The paths of the directories with scripts. -/
def PackageSettings.scriptPaths (packages : PackageSettings) (env : Environment) : List String :=
  packages.scriptDirs.map env.expandTilde

/-- The paths of the scripts that are run at the start. -/
def PackageSettings.startupPaths (packages : PackageSettings) (env : Environment) : List String :=
  packages.startup.map env.expandTilde

namespace Settings

/-! ### Sections of several files -/

/-- The value of a file, unless it is the default. -/
def overlay {α : Type} [DecidableEq α] (default base top : α) : α :=
  if top = default then base else top

/-- The settings of two files, of which the second counts more.  The interpreter, the prompt, the
history, each list of packages and logging are taken as a whole from the second where it differs
from the defaults. -/
def merge (base top : Settings) : Settings where
  interpreter := overlay {} base.interpreter top.interpreter
  shell :=
    { prompt := overlay ({} : ShellSettings).prompt base.shell.prompt top.shell.prompt
      history := overlay {} base.shell.history top.shell.history }
  packages :=
    { preload := overlay [] base.packages.preload top.packages.preload
      scriptDirs := overlay [] base.packages.scriptDirs top.packages.scriptDirs
      startup := overlay [] base.packages.startup top.packages.startup }
  logging := overlay {} base.logging top.logging

end Settings

end LineShell
