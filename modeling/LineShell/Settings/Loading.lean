import LineShell.FileTree
import LineShell.Settings.Reader
import LineShell.Text.Case

/-!
# Where settings come from

Settings are taken from one file if one is named, and else from all files of a search path, a later
one counting more.  A file named in the environment goes before any other.  In the end variables of
the environment change single settings.
-/

namespace LineShell

/-- Why settings cannot be loaded. -/
inductive SettingsFault
  | unreadable (path : String) (fault : FileFault)
  | malformed
  | notBoolean (name value : String)
  | notCount (name value : String)
  deriving DecidableEq, Repr

/-- The wording of a fault. -/
def SettingsFault.message : SettingsFault → String
  | .unreadable path fault => "Failed to read config file " ++ path ++ ": " ++ fault.message
  | .malformed => "Failed to parse YAML"
  | .notBoolean name value =>
    "Invalid config value: " ++ name ++ " must be a boolean, got '" ++ value ++ "'"
  | .notCount name value =>
    "Invalid config value: " ++ name ++ " must be a non-negative integer, got '" ++ value ++ "'"

/-- Which files settings are taken from. -/
inductive SettingsSource
  | file (path : String)
  | search (paths : List String)
  deriving DecidableEq, Repr

/-- A path that has to be looked at before there is an answer. -/
structure Unread where
  path : String
  deriving DecidableEq, Repr

namespace Settings

/-- The result of loading, for which files have to be known. -/
abbrev Load := ExceptT SettingsFault (Except Unread)

/-- The settings in the text of a file, once references to the environment are replaced. -/
def parse (env : Environment) (text : String) : Except SettingsFault Settings :=
  match read? (env.expand text) with
  | some settings => .ok settings
  | none => .error .malformed

/-- The text of a file, or why it cannot be read. -/
def fileText (files : FileTree) (path : String) : Except Unread (Except FileFault String) :=
  match files.readText? path with
  | some text => .ok text
  | none => .error ⟨path⟩

/-- The settings in a file, which has to be readable. -/
def ofFile (env : Environment) (files : FileTree) (path : String) : Load Settings := do
  match ← ExceptT.lift (fileText files path) with
  | .ok text => liftExcept (parse env text)
  | .error fault => throw (.unreadable path fault)
where
  /-- A result that needs no file. -/
  liftExcept (result : Except SettingsFault Settings) : Load Settings := ExceptT.mk (.ok result)

/-- The settings of the files of a search path on top of others.  A file that cannot be read is
passed over. -/
def ofSearch (env : Environment) (files : FileTree) (base : Settings) : List String → Load Settings
  | [] => pure base
  | path :: rest => do
    match ← ExceptT.lift (fileText files path) with
    | .ok text =>
      match parse env text with
      | .ok top => ofSearch env files (base.merge top) rest
      | .error fault => throw fault
    | .error _ => ofSearch env files base rest

/-! ### Variables of the environment -/

/-- A truth value in one of its spellings, without regard to case. -/
def flag (name value : String) : Except SettingsFault Bool :=
  let word := Text.toLowerAscii value
  if word ∈ ["1", "true", "yes", "on"] then .ok true
  else if word ∈ ["0", "false", "no", "off"] then .ok false
  else .error (.notBoolean name value)

/-- A number of 64 bits, after an optional plus sign. -/
def limit (name value : String) : Except SettingsFault Nat :=
  let digits := match value.toList with
    | '+' :: digits => digits
    | digits => digits
  match Text.readDecimal? digits with
  | some n => if n ≤ maxWord then .ok n else .error (.notCount name value)
  | none => .error (.notCount name value)

/-- The level that a variable names, if it names one, in place of another. -/
def overrideLevel (env : Environment) (level : LogLevel) : LogLevel :=
  ((env.value? "CMD9_LOG_LEVEL").bind readLevel?).getD level

/-- The truth value of a variable in place of another. -/
def overrideFlag (env : Environment) (name : String) (value : Bool) :
    Except SettingsFault Bool :=
  match env.value? name with
  | some text => flag name text
  | none => .ok value

/-- The text of a variable, unless it is empty. -/
def nonEmptyValue? (env : Environment) (name : String) : Option String :=
  match env.value? name with
  | some "" => none
  | text => text

/-- The limit that a variable sets in place of another. -/
def overrideLimit (env : Environment) (value : Option Nat) : Except SettingsFault (Option Nat) :=
  match env.value? "CMD9_INTERPOLATION_LIMIT" with
  | some text => (limit "CMD9_INTERPOLATION_LIMIT" text).map some
  | none => .ok value

/-- The settings with those changed that variables of the environment set. -/
def override (env : Environment) (settings : Settings) : Except SettingsFault Settings := do
  let feedback ← overrideFlag env "CMD9_FEEDBACK" settings.interpreter.feedback
  let errorFeedback ← overrideFlag env "CMD9_ERROR_FEEDBACK" settings.interpreter.errorFeedback
  let interpolationLimit ← overrideLimit env settings.interpreter.interpolationLimit
  let scriptDirs := (nonEmptyValue? env "CMD9_SCRIPT_DIR").toList ++ settings.packages.scriptDirs
  return {
    interpreter := { settings.interpreter with feedback, errorFeedback, interpolationLimit }
    shell := { settings.shell with
      prompt := (nonEmptyValue? env "CMD9_PROMPT").getD settings.shell.prompt }
    packages := { settings.packages with scriptDirs }
    logging := { settings.logging with level := overrideLevel env settings.logging.level } }

/-! ### Loading -/

/-- The search path: a file for the whole system, one of the user and one of the working directory.
-/
def searchPath (env : Environment) : List String :=
  ["/etc/cmd9/cmd9.yaml", Path.join env.home ".config/cmd9/cmd9.yaml", "./cmd9.yaml"]

/-- The settings from a source, unless the environment names a file. -/
def load (env : Environment) (files : FileTree) (source : SettingsSource) : Load Settings := do
  let settings ← match env.value? "CMD9_CONFIG", source with
    | some path, _ => ofFile env files path
    | none, .file path => ofFile env files path
    | none, .search paths => ofSearch env files {} paths
  match override env settings with
  | .ok settings => return settings
  | .error fault => throw fault

end Settings

end LineShell
