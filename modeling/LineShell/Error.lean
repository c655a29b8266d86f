import LineShell.Kind

/-!
# Errors

What can go wrong in the interpreter, by cause.  The wording of each cause is in `Error.message`,
and `Error.kind` is the short name of its class.
-/

namespace LineShell

/-- A breach of the discipline of variable scopes. -/
inductive ScopeFault
  | enterInGlobal
  | exitInGlobal
  | exitOutermost
  | exitTemporary
  | globalActive
  | globalInactive
  | globalGuarded
  | scriptInGlobal
  deriving DecidableEq, Repr

/-- A refusal to remove a memory stack or to call deeper. -/
inductive FrameFault
  | base
  | isolated
  | callDepth (limit : Nat) (command : String)
  deriving DecidableEq, Repr

/-- Why a text cannot be the name of a macro. -/
inductive MacroNameFault
  | notOneWord
  | reservedStart
  | holdsMarker
  | holdsDelimiter
  deriving DecidableEq, Repr

/-- A definition that is refused. -/
inductive DefinitionFault
  | arity (command : String) (most least : Nat)
  | commandName (name : String)
  | packageName (name : String)
  | macroName (name : String) (fault : MacroNameFault)
  | builtinPass
  deriving DecidableEq, Repr

/-- A failure to read a file or a directory. -/
inductive FileFault
  | notFound
  | notDirectory
  | isDirectory
  | nameTooLong
  | zeroInName
  | notText
  | other (message : String)
  deriving DecidableEq, Repr

/-- Why a thread cannot be started. -/
inductive ThreadFault
  | badSize
  | noRoom
  deriving DecidableEq, Repr

/-- An error of the interpreter or of a command. -/
inductive Error
  | unrecognized (command : String)
  | tooFew (command : String) (least got : Nat)
  | tooMany (command : String) (most got : Nat)
  | notOfKind (command : String) (position : Nat) (value : String) (expected : Kind)
  | undefinedVariable (name : String)
  | scope (fault : ScopeFault)
  | emptyStack
  | frame (fault : FrameFault)
  | raised (message : String)
  | unexpected (command message : String)
  | definition (fault : DefinitionFault)
  | file (fault : FileFault)
  | thread (fault : ThreadFault)
  deriving DecidableEq, Repr

namespace ScopeFault

/-- What a breach of the discipline of scopes says. -/
def message : ScopeFault → String
  | .enterInGlobal => "cannot enter a local scope while Global is active"
  | .exitInGlobal => "cannot exit a local scope while Global is active"
  | .exitOutermost => "cannot exit the outermost scope"
  | .exitTemporary => "cannot exit past a temporary scope boundary"
  | .globalActive => "Global is already active"
  | .globalInactive => "Global is not active"
  | .globalGuarded => "cannot leave Global inside a temporary Global run"
  | .scriptInGlobal => "scripts cannot run while Global is active"

end ScopeFault

namespace FrameFault

/-- What a refusal at the limits of the frames and calls says. -/
def message : FrameFault → String
  | .base => "cannot remove the base memory stack"
  | .isolated => "cannot remove a memory stack owned by an isolated run"
  | .callDepth limit command =>
    "call depth limit of " ++ Text.decimal limit ++ " reached at '" ++ command ++ "'"

end FrameFault

namespace MacroNameFault

/-- What is wrong with the name of a macro. -/
def message : MacroNameFault → String
  | .notOneWord => "must be a single non-empty word"
  | .reservedStart => "uses the reserved '#' prefix"
  | .holdsMarker => "contains a preprocessor marker"
  | .holdsDelimiter => "contains the variable delimiter"

end MacroNameFault

namespace DefinitionFault

/-- What is wrong with a definition. -/
def message : DefinitionFault → String
  | .arity command most least =>
    command ++ ": max_args " ++ Text.decimal most ++ " is below min_args " ++ Text.decimal least
  | .commandName name => "'" ++ name ++ "' is not a valid command name"
  | .packageName name => "package name '" ++ name ++ "' is reserved"
  | .macroName name fault => "macro name '" ++ name ++ "' " ++ fault.message
  | .builtinPass => "the builtin pass cannot be removed"

end DefinitionFault

namespace FileFault

/-- What the system says of a file that cannot be read. -/
def message : FileFault → String
  | .notFound => "No such file or directory (os error 2)"
  | .notDirectory => "Not a directory (os error 20)"
  | .isDirectory => "Is a directory (os error 21)"
  | .nameTooLong => "File name too long (os error 36)"
  | .zeroInName => "file name contained an unexpected NUL byte"
  | .notText => "stream did not contain valid UTF-8"
  | .other message => message

end FileFault

/-- What the system says of a thread that cannot be started. -/
def ThreadFault.message : ThreadFault → String
  | .badSize => "Invalid argument (os error 22)"
  | .noRoom => "Resource temporarily unavailable (os error 11)"

namespace Error

/-- The short name of the class that an error belongs to. -/
def kind : Error → String
  | .unrecognized _ => "unrecognized"
  | .tooFew .. => "arity"
  | .tooMany .. => "arity"
  | .notOfKind .. => "argument"
  | .undefinedVariable _ => "variable"
  | .scope _ => "scope"
  | .emptyStack => "memory"
  | .frame _ => "frame"
  | .raised _ => "raised"
  | .unexpected .. => "critical"
  | .definition _ => "definition"
  | .file _ => "io"
  | .thread _ => "io"

/-- Whether the number of arguments was at fault. -/
def isArity : Error → Bool
  | .tooFew .. => true
  | .tooMany .. => true
  | _ => false

/-- The wording of an error. -/
def message : Error → String
  | .unrecognized command => "unrecognized command: " ++ command
  | .tooFew command least got =>
    command ++ ": too few arguments (expected at least " ++ Text.decimal least ++ ", got "
      ++ Text.decimal got ++ ")"
  | .tooMany command most got =>
    command ++ ": too many arguments (expected at most " ++ Text.decimal most ++ ", got "
      ++ Text.decimal got ++ ")"
  | .notOfKind command position value expected =>
    command ++ ": argument " ++ Text.decimal position ++ " ('" ++ value ++ "') is not a valid "
      ++ expected.label
  | .undefinedVariable name => "undefined variable: " ++ name
  | .scope fault => "scope discipline violated: " ++ fault.message
  | .emptyStack => "memory stack is empty"
  | .frame fault => "stack frame error: " ++ fault.message
  | .raised message => message
  | .unexpected command message => "unexpected failure in '" ++ command ++ "': " ++ message
  | .definition fault => "invalid definition: " ++ fault.message
  | .file fault => "IO error: " ++ fault.message
  | .thread fault => "IO error: " ++ fault.message

end Error

end LineShell
