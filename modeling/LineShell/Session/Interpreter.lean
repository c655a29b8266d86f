import LineShell.Builtin.Control
import LineShell.Builtin.Info
import LineShell.Builtin.Macros
import LineShell.Builtin.Memory
import LineShell.Builtin.Scope
import LineShell.Builtin.Scripts
import LineShell.Builtin.Texts

/-!
# Calling commands

`Host.dispatch` is one call: the command is looked up, its arguments are checked, and its body is
run one level deeper, where it calls other commands through `exec`.  `Host.execute` ties the knot
with fuel, which is used up by calls inside calls and by rounds of a loop; the limit on the depth of
calls is reached long before the fuel is.

What the commands, the macros and the passes of the host program do is a parameter, a `Host`: in a
session their programs, probes and transformations are only names for it.  The standard host does
what the programs, probes and transformations say; `Engine.execute` is execution with it.
-/

namespace LineShell

namespace Engine

/-- Runs a built-in command. -/
def runBuiltin (fuel : Nat) (exec : Exec) (args : Arguments) : Builtin → Engine (Option Item)
  | .info command => do
    Builtin.runInfo command args
    return none
  | .control command => Builtin.runControl fuel exec command args
  | .memory command => Builtin.runMemory exec command args
  | .scope command => Builtin.runScope exec command args
  | .macros command => do
    Builtin.runMacros command args
    return none
  | .script command => do
    Builtin.runScripts exec command args
    return none
  | .text command => ofExcept (Builtin.runText command args)

/-- The line that shows how a command of a package was called. -/
def traceLine (package : String) (args : Arguments) (depth : Nat) : String :=
  Text.unwords ((package ++ "/" ++ args.command) :: ("depth=" ++ Text.decimal depth)
    :: args.items.map Argument.jsonText)

/-- Runs the program of a host command: its instructions one after the other, until one of them
gives a value. -/
def runProgram (exec : Exec) (package : String) (args : Arguments) :
    List Instruction → Engine (Option Item)
  | [] => pure none
  | instruction :: rest => do
    match instruction with
    | .give item => return some item
    | .giveArguments => return some (.seq (args.rest 0))
    | .giveAccess accessor index => return some (.text (← ofExcept (args.show accessor index)))
    | .raise message => fail (.raised message)
    | .crash payload => crash payload
    | .openFrame => modify fun s => { s with memory := s.memory.openFrame }
    | .push item => modify fun s => { s with memory := s.memory.push item }
    | .enterScope => enterScope
    | .enterGlobal => enterGlobal
    | .beginTemporary => attempt fun s => do
      let (_, scopes) ← s.scopes.beginTemporary
      return { s with scopes }
    | .beginGlobal => modify fun s => { s with scopes := s.scopes.beginGlobal.2 }
    | .line text => runLine exec text
    | .trace => modify fun s => s.sayLine (traceLine package args s.depth)
    | .say text => modify (·.sayLine text)
    runProgram exec package args rest

/-- The command of a call, the package it is from, and its arguments, if all is well with them. -/
def resolveCall (s : Session) (name : String) (args : List String) :
    Except Error (Package × Command × Arguments) := do
  match s.packages.resolve? name with
  | none => throw (.unrecognized name)
  | some (package, command) =>
    command.checkArity name args.length
    let arguments ← command.coerceAll name args
    if s.maxDepth ≤ s.depth then throw (.frame (.callDepth s.maxDepth name))
    return (package, command, arguments)

/-- Puts the value that a command gave on the active stack, unless that is locked. -/
def receive (result : Option Item) : Engine Unit :=
  modify fun s =>
    match result with
    | none => s
    | some item => { s with memory := s.memory.modifyActive (·.receive item) }

end Engine

/-- What the commands of the host program do, and its macros and passes.  They are called with fuel,
which bounds the rounds of their loops, and with the way in which they call the interpreter back. -/
structure Host where
  command : (fuel : Nat) → Exec → (package : String) → Arguments → List Instruction →
    Engine (Option Item)
  callback : (fuel : Nat) → Exec → Callback → Engine String

namespace Host

open Engine

/-- The host whose commands run their programs, whose macros are what the probes say, and whose
passes are their transformations. -/
def standard : Host where
  command _ := runProgram
  callback _ _ := runCallback

variable (host : Host)

/-- Runs the body of a command, which may give a value. -/
def runBody (fuel : Nat) (exec : Exec) (package : String) (args : Arguments) :
    Body → Engine (Option Item)
  | .builtin command => runBuiltin fuel exec args command
  | .forward target fixed => do
    exec target (fixed ++ args.rest 0)
    return none
  | .script text => do
    runScriptCommand exec text (args.rest 0)
    return none
  | .program instructions => host.command fuel exec package args instructions

/-- One call.  The number of active calls is one more while the body runs; only a crash leaves it
so. -/
def dispatch (fuel : Nat) (exec : Exec) (name : String) (args : List String) : Engine Unit :=
  fun s =>
    match resolveCall s name args with
    | .error e => (.failed e, s)
    | .ok (package, command, arguments) =>
      let body : Engine (Option Item) :=
        host.runBody fuel exec package.name arguments command.body
      let call : Engine Unit := do
        let result ← body.cleanup fun s => { s with depth := s.depth - 1 }
        receive result
      call { s with depth := s.depth + 1 }

/-- Calls into the interpreter when the fuel is used up. -/
def exhausted : Exec := ⟨fun _ _ => halt .fuel, fun _ => halt .fuel⟩

/-- Calls commands and the host program. -/
def execute : (fuel : Nat) → Exec
  | 0 => ⟨fun _ _ => halt .fuel, host.callback 0 exhausted⟩
  | fuel + 1 =>
    -- the calls of the next level are made up only when this one is called
    ⟨fun name args => host.dispatch fuel (execute fuel) name args,
      fun callback => host.callback (fuel + 1) (execute fuel) callback⟩

end Host

namespace Engine

/-- Runs the body of a command of the standard host. -/
abbrev runBody := Host.standard.runBody

/-- One call with the standard host. -/
abbrev dispatch := Host.standard.dispatch

/-- Calls commands with the standard host. -/
abbrev execute := Host.standard.execute

/-- More fuel than any run can use up in practice. -/
def ample : Nat := 1 <<< 60

/-- Calls a command with ample fuel. -/
def call : Exec := execute ample

end Engine

/-- The settings with which a session is started. -/
structure SessionOptions where
  feedback : Bool := true
  errorFeedback : Bool := true
  interpolationLimit : Option Nat := none
  stripMarkers : Bool := true
  maxDepth : Nat := 256
  prompt : Option String := none

/-- The package of the built-in commands. -/
def nativePackage : Package :=
  ⟨nativeName, .ofList (Builtin.infoCommands ++ Builtin.controlCommands ++ Builtin.memoryCommands
    ++ Builtin.scopeCommands ++ Builtin.macroCommands ++ Builtin.scriptCommands)⟩

/-- The package of commands on texts. -/
def textPackage : Package := ⟨"text", .ofList Builtin.textCommands⟩

/-- The packages that can be used without loading them. -/
def standardRegistry : Registry := NameMap.empty.insert "text" (.ok textPackage)

/-- A session at its start. -/
def Session.start (options : SessionOptions) (registry : Registry) (files : FileTree) :
    Session where
  packages := .ofNative nativePackage
  registry := registry
  memory := .initial
  scopes := .initial
  pipeline := .standard
  macros := .empty
  feedback := options.feedback
  errorFeedback := options.errorFeedback
  interpolationLimit := options.interpolationLimit
  stripMarkers := options.stripMarkers
  maxDepth := options.maxDepth
  depth := 0
  running := true
  out := ""
  err := ""
  prompt := options.prompt
  jobs := .empty
  files := files

/-- A session with packages and macros of the host; the first that is refused is the error. -/
def Session.build (options : SessionOptions) (registry : Registry) (files : FileTree)
    (packages : List Package) (macros : List (String × Macro)) : Except Error Session := do
  let s ← (Session.start options registry files).addPackages packages
  macros.foldlM (fun s (name, body) => s.defineMacro name body) s

end LineShell
