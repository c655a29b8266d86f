import LineShell.Arguments
import LineShell.Item

/-!
# Commands

A command has an arity, the kinds of its leading arguments, a description and a usage line, and a
body.  Bodies are data: one of the built-in commands, a forwarding to another command, the lines of
a script, or a program of the host.  What a body does is said where the interpreter is defined.
-/

namespace LineShell

/-- Commands about the interpreter itself. -/
inductive InfoCommand
  | help
  | packages
  | quit
  | feedback
  | errors
  | print
  | raise
  deriving DecidableEq, Repr

/-- Commands that run other commands, and those that give conditions. -/
inductive ControlCommand
  | run
  | chain
  | repeatTimes
  | whileTrue
  | ifTrue
  | unlessTrue
  | ifElse
  | catching
  | async
  | jobs
  | wait
  | equals
  | negate
  | matchesPattern
  deriving DecidableEq, Repr

/-- Commands on the memory stacks. -/
inductive MemoryCommand
  | push
  | pop
  | peek
  | dup
  | swap
  | clear
  | count
  | stack
  | lock
  | unlock
  | pushFrame
  | popFrame
  | frames
  | isolated
  deriving DecidableEq, Repr

/-- Commands on variables and scopes. -/
inductive ScopeCommand
  | set
  | get
  | unset
  | vars
  | enterScope
  | exitScope
  | enterGlobal
  | exitGlobal
  | scoped
  | globally
  deriving DecidableEq, Repr

/-- Commands that define macros and aliases. -/
inductive MacroCommand
  | define
  | call
  | action
  | undefine
  | macros
  | alias
  | unalias
  deriving DecidableEq, Repr

/-- Commands that read scripts and packages. -/
inductive ScriptCommand
  | load
  | compile
  | source
  | importDir
  | use
  deriving DecidableEq, Repr

/-- Commands on texts. -/
inductive TextCommand
  | upper
  | lower
  | length
  | concat
  | words
  | replace
  | charAt
  deriving DecidableEq, Repr

/-- A built-in command. -/
inductive Builtin
  | info (command : InfoCommand)
  | control (command : ControlCommand)
  | memory (command : MemoryCommand)
  | scope (command : ScopeCommand)
  | macros (command : MacroCommand)
  | script (command : ScriptCommand)
  | text (command : TextCommand)
  deriving DecidableEq, Repr

/-- What an abrupt end of a body carries. -/
inductive CrashPayload
  | message (text : String)
  | other
  deriving DecidableEq, Repr

/-- One instruction of a program of the host. -/
inductive Instruction
  | give (item : Item)
  | giveArguments
  | giveAccess (accessor : Accessor) (index : Nat)
  | raise (message : String)
  | crash (payload : CrashPayload)
  | openFrame
  | push (item : Item)
  | enterScope
  | enterGlobal
  | beginTemporary
  | beginGlobal
  | line (text : String)
  | trace
  | say (text : String)
  deriving DecidableEq, Repr

/-- What a command does. -/
inductive Body
  | builtin (command : Builtin)
  | forward (target : String) (fixed : List String)
  | script (text : String)
  | program (instructions : List Instruction)
  deriving DecidableEq, Repr

/-- A command. -/
structure Command where
  least : Nat
  most : Option Nat
  description : String
  usage : String
  kinds : List Kind
  body : Body
  deriving DecidableEq, Repr

namespace Command

/-- A command that takes any number of texts. -/
def any (body : Body) (description usage : String) : Command :=
  ⟨0, none, description, usage, [], body⟩

/-- The accepted numbers of arguments, for help. -/
def arityLabel (command : Command) : String :=
  match command.most with
  | some most =>
    if most = command.least then Text.decimal most
    else Text.decimal command.least ++ ".." ++ Text.decimal most
  | none => Text.decimal command.least ++ ".."

/-- Accepts a command under a name, or says why not.  The arity is judged before the name. -/
def check (command : Command) (name : String) : Except Error Unit :=
  match command.most with
  | some most =>
    if most < command.least then .error (.definition (.arity name most command.least))
    else checkName name
  | none => checkName name
where
  /-- A command is named by one word. -/
  checkName (name : String) : Except Error Unit :=
    if name.isEmpty || Text.hasBlank name then .error (.definition (.commandName name)) else .ok ()

/-- Accepts a number of arguments, or says what is wrong with it. -/
def checkArity (command : Command) (name : String) (got : Nat) : Except Error Unit :=
  if got < command.least then .error (.tooFew name command.least got)
  else
    match command.most with
    | some most => if most < got then .error (.tooMany name most got) else .ok ()
    | none => .ok ()

/-- Turns texts into arguments of the given kinds, which are those from `position` on; where the
kinds end, arguments are texts. -/
def coerceFrom (name : String) (position : Nat) :
    (kinds : List Kind) → (raw : List String) → Except Error (List Argument)
  | _, [] => .ok []
  | kinds, value :: rest => do
    let kind := kinds.headD .text
    match kind.coerce value with
    | none => .error (.notOfKind name position value kind)
    | some arg =>
      let args ← coerceFrom name (position + 1) kinds.tail rest
      return arg :: args

/-- The arguments of a call.  The first text that is not of its kind is the error. -/
def coerceAll (command : Command) (name : String) (raw : List String) :
    Except Error Arguments := do
  let items ← coerceFrom name 0 command.kinds raw
  return ⟨name, items⟩

end Command

end LineShell
