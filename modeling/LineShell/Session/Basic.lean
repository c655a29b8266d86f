import LineShell.FileTree
import LineShell.Job
import LineShell.Macro
import LineShell.Memory
import LineShell.Package
import LineShell.Pipeline
import LineShell.Scope

/-!
# Sessions and what runs in them

A session is the whole state of one interpreter.  What runs in it is an `Engine` action: a function
from the session to an outcome and the session afterwards.  An action may return a value, fail with
an error, or end abruptly with a crash, which leaves the session as it was at that moment; and it
may halt without an answer, because its fuel is used up or because a file would have to be looked at
first.
-/

namespace LineShell

/-- The state of one interpreter. -/
structure Session where
  packages : PackageSet
  registry : Registry
  memory : Memory
  scopes : Scopes
  pipeline : Pipeline
  macros : NameMap Macro
  /-- Whether commands write to the output. -/
  feedback : Bool
  /-- Whether failures are reported. -/
  errorFeedback : Bool
  /-- How many references to variables are replaced in one text. -/
  interpolationLimit : Option Nat
  /-- Whether ignore markers are removed once a line is expanded. -/
  stripMarkers : Bool
  /-- How many calls may be active at once. -/
  maxDepth : Nat
  /-- How many calls are active. -/
  depth : Nat
  running : Bool
  /-- What was written so far. -/
  out : String
  /-- What was reported so far. -/
  err : String
  /-- The template of the prompt. -/
  prompt : Option String
  jobs : JobTable
  files : FileTree

/-- Why an action came to no end. -/
inductive Halt
  | fuel
  | unread (path : String)
  deriving DecidableEq, Repr

/-- How an action ended. -/
inductive Outcome (α : Type)
  | done (value : α)
  | failed (error : Error)
  | crashed (payload : CrashPayload)
  | halted (reason : Halt)
  deriving DecidableEq, Repr

/-- What runs in a session. -/
def Engine (α : Type) : Type := Session → Outcome α × Session

namespace Engine

variable {α β : Type}

/-- Runs one action after another, as long as they return. -/
def bind (action : Engine α) (next : α → Engine β) : Engine β := fun s =>
  match action s with
  | (.done a, s) => next a s
  | (.failed e, s) => (.failed e, s)
  | (.crashed p, s) => (.crashed p, s)
  | (.halted r, s) => (.halted r, s)

instance : Monad Engine where
  pure a := fun s => (.done a, s)
  bind := bind

/-- Fails with an error. -/
def fail (e : Error) : Engine α := fun s => (.failed e, s)

/-- Ends abruptly. -/
def crash (payload : CrashPayload) : Engine α := fun s => (.crashed payload, s)

/-- Comes to no end. -/
def halt (reason : Halt) : Engine α := fun s => (.halted reason, s)

/-- The session. -/
def get : Engine Session := fun s => (.done s, s)

/-- Changes the session. -/
def modify (f : Session → Session) : Engine Unit := fun s => (.done (), f s)

/-- Returns a value or fails with an error. -/
def ofExcept : Except Error α → Engine α
  | .ok a => fun s => (.done a, s)
  | .error e => fail e

/-- Changes the session by a step that may be refused. -/
def attempt (step : Session → Except Error Session) : Engine Unit := fun s =>
  match step s with
  | .ok s => (.done (), s)
  | .error e => (.failed e, s)

/-- Runs an action and then, unless it crashed or halted, cleans up after it. -/
def cleanup (action : Engine α) (after : Session → Session) : Engine α := fun s =>
  match action s with
  | (.done a, s) => (.done a, after s)
  | (.failed e, s) => (.failed e, after s)
  | ended => ended

end Engine

/-- What the host program is asked for while a line is expanded: the text that one of its macros
stands for, or what one of its passes makes of a text. -/
inductive Callback
  | probe (probe : Probe)
  | pass (pass : CustomPass) (text : String)

/-- How commands and the host program are called: a command by its name and the texts of its
arguments, and the host program for a text. -/
structure Exec where
  command : String → List String → Engine Unit
  callback : Callback → Engine String

instance : CoeFun Exec fun _ => String → List String → Engine Unit := ⟨Exec.command⟩

namespace Session

/-- Writes to the output, if commands may. -/
def say (s : Session) (text : String) : Session :=
  if s.feedback then { s with out := s.out ++ text } else s

/-- Writes a line to the output, if commands may. -/
def sayLine (s : Session) (text : String) : Session := s.say (text ++ "\n")

/-- Reports a failure on a line of its own, if failures are reported. -/
def errorLine (s : Session) (text : String) : Session :=
  if s.errorFeedback then { s with err := s.err ++ text ++ "\n" } else s

/-- Defines a macro, in place of one of the same name. -/
def defineMacro (s : Session) (name : String) (body : Macro) : Except Error Session := do
  Macro.checkName name
  return { s with macros := s.macros.insert name body }

/-- Removes a macro, and tells whether it was there. -/
def undefineMacro (s : Session) (name : String) : Bool × Session :=
  (s.macros.contains name, { s with macros := s.macros.erase name })

/-- Adds a loaded package.  The names of the native and the custom package are taken. -/
def addPackage (s : Session) (package : Package) : Except Error Session :=
  if package.name = nativeName ∨ package.name = customName then
    .error (.definition (.packageName package.name))
  else .ok { s with packages := (s.packages.add package).2 }

/-- Adds packages one after the other. -/
def addPackages (s : Session) : List Package → Except Error Session
  | [] => .ok s
  | package :: rest => do
    let s ← s.addPackage package
    s.addPackages rest

/-- Adds a package of the registry. -/
def usePackage (s : Session) (name : String) : Except Error Session := do
  let package ← s.registry.create name
  s.addPackage package

/-- The prompt, from its template: the number of local scopes, a star in Global, the number of
values on the active stack and the number of stacks are filled in, in this order. -/
def renderPrompt (s : Session) : Option String :=
  s.prompt.map fun template =>
    let fill (text : String) (entry : String × String) : String :=
      Text.replaceAll text ("\x7b" ++ entry.1 ++ "\x7d") entry.2
    [("depth", Text.decimal s.scopes.depth),
     ("mode", if s.scopes.globalActive then "*" else ""),
     ("stack", Text.decimal s.memory.active.items.length),
     ("frames", Text.decimal s.memory.depth)].foldl fill template

end Session

end LineShell
