import LineShell.Proofs.Routine.Script

/-!
# The interpreter is regular

All built-in commands and a call as a whole are regular routines (`Routine.Regular`).  The parts
of the interpreter are `loose` only as far as host programs are, which may crash and set marks and
guards by themselves; so the lemmas on built-in commands hold for every `loose`, and
`regular_dispatch` is about `loose` routines.

Together with `Routine.Regular.satisfies` this gives `Engine.rule_execute`: what is respected by all
ways of putting regular routines together holds of every call of a command.
-/

namespace LineShell

namespace Routine

open Engine

variable {loose : Prop}

/-! ### Built-in commands -/

/-- The commands about the interpreter. -/
lemma regular_runInfo (command : InfoCommand) (args : Arguments) :
    Regular loose fun _ => Builtin.runInfo command args := by
  cases command with
  | help =>
    exact .bind .get fun s => .bind (.ofExcept _) fun text =>
      .modify fun s => (Session.kin_say s text).change
  | packages => exact .modify fun s => (Session.kin_say s _).change
  | quit => exact .modify fun s => Session.Kin.change ⟨⟨rfl, rfl, rfl, rfl, rfl⟩, rfl⟩
  | feedback | errors =>
    exact .bind (.ofExcept _) fun flag =>
      .modify fun s => Session.Kin.change ⟨⟨rfl, rfl, rfl, rfl, rfl⟩, rfl⟩
  | print => exact .modify fun s => (Session.kin_say s _).change
  | raise => exact .fail _

/-- Lines until one fails. -/
lemma regular_runAll (lines : List String) :
    Regular loose fun exec => Builtin.runAll exec lines := by
  induction lines with
  | nil => exact .pure ()
  | cons line rest ih => exact .bind (regular_runLine line) fun _ => ih

/-- A call and then the remaining ones. -/
lemma callTimes_succ (call : Engine Unit) (times : Nat) :
    Builtin.callTimes call (times + 1) = (call >>= fun _ => Builtin.callTimes call times) := by
  funext s
  change _ = Engine.bind call _ s
  simp only [Builtin.callTimes, Engine.bind]
  rcases call s with ⟨a | e | p | r, t⟩ <;> rfl

/-- A number of calls. -/
lemma regular_callTimes {call : Routine Unit} (h : Regular loose call) (times : Nat) :
    Regular loose fun exec => Builtin.callTimes (call exec) times := by
  induction times with
  | zero => exact .pure ()
  | succ times ih =>
    simp only [callTimes_succ]
    exact .bind h fun _ => ih

/-- A line as a condition. -/
lemma regular_condition (line : String) :
    Regular loose fun exec => Builtin.condition exec line := by
  refine .bind (.isolated (.bind (regular_runLine line) fun _ => regular_popItem)) fun item => ?_
  cases item.truth? with
  | none => exact .fail _
  | some b => exact .pure b

/-- A round of a loop and then the remaining ones. -/
lemma callWhile_succ (test : Engine Bool) (call : Engine Unit) (fuel : Nat) :
    Builtin.callWhile test call (fuel + 1) = (test >>= fun b =>
      if b then call >>= fun _ => Builtin.callWhile test call fuel else Pure.pure ()) := by
  funext s
  change _ = Engine.bind test _ s
  simp only [Builtin.callWhile, Engine.bind]
  rcases test s with ⟨b | e | p | r, t⟩
  · cases b with
    | false => rfl
    | true =>
      dsimp only
      rw [if_pos rfl]
      change _ = Engine.bind call _ t
      unfold Engine.bind
      rcases call t with ⟨a | e | p | r, u⟩ <;> rfl
  all_goals rfl

/-- A loop. -/
lemma regular_callWhile {test : Routine Bool} {call : Routine Unit} (htest : Regular loose test)
    (hcall : Regular loose call) (fuel : Nat) :
    Regular loose fun exec => Builtin.callWhile (test exec) (call exec) fuel := by
  induction fuel with
  | zero => exact .halt .fuel
  | succ fuel ih =>
    simp only [callWhile_succ]
    exact .bind htest fun b => .ite (.bind hcall fun _ => ih) (.pure ())

/-- A call of the command that the arguments from a position on name. -/
lemma regular_forward (args : Arguments) (start : Nat) :
    Regular loose (fun exec => do
      let (name, rest) ← Engine.ofExcept (args.forward start)
      exec name rest) :=
  .bind (.ofExcept _) fun call => .call call.1 call.2

/-- The commands that run other commands and those that give conditions. -/
lemma regular_runControl (fuel : Nat) (command : ControlCommand) (args : Arguments) :
    Regular loose fun exec => Builtin.runControl fuel exec command args := by
  cases command with
  | run => exact .bind (.ofExcept _) fun line => .thenNone (regular_runLine line)
  | chain => exact .thenNone (regular_runAll _)
  | repeatTimes =>
    refine .bind (.ofExcept _) fun times => ?_
    have hcalls : Regular loose fun exec => do
        let (name, rest) ← Engine.ofExcept (args.forward 1)
        Builtin.callTimes (exec name rest) times.toNat
        return (none : Option Item) :=
      .bind (.ofExcept _) fun call => .thenNone (regular_callTimes (.call call.1 call.2) _)
    exact .ite (.bind (.fail _) fun _ => hcalls) hcalls
  | whileTrue =>
    exact .bind (.ofExcept _) fun line => .bind (.ofExcept _) fun call =>
      .thenNone (regular_callWhile (regular_condition line) (.call call.1 call.2) fuel)
  | ifTrue =>
    refine .bind (.ofExcept _) fun test => ?_
    exact .ite (.thenNone (regular_forward args 1)) (.pure none)
  | unlessTrue =>
    refine .bind (.ofExcept _) fun test => ?_
    exact .ite (.pure none) (.thenNone (regular_forward args 1))
  | ifElse =>
    exact .bind (.ofExcept _) fun test => .bind (.ofExcept _) fun line =>
      .thenNone (regular_runLine line)
  | catching =>
    refine .bind (.ofExcept _) fun call => ?_
    exact .bind (.supervised call.1 (.call call.1 call.2)) fun ok => .pure _
  | async =>
    refine .bind (.ofExcept _) fun call => .bind (.job call.1 call.2) fun started => ?_
    refine .bind (.modify fun s => (Session.kin_say s _).change) fun _ => .thenNone ?_
    exact .modify fun s => Session.Kin.change ⟨⟨rfl, rfl, rfl, rfl, rfl⟩, rfl⟩
  | jobs =>
    refine .thenNone (.modify fun s => Session.Kin.change ?_)
    refine Session.Kin.trans (t := { s with jobs := s.jobs.look.2 })
      ⟨⟨rfl, rfl, rfl, rfl, rfl⟩, rfl⟩ ?_
    exact Session.kin_foldl_sayLine _ _ _
  | wait =>
    refine .thenNone (.modify fun s => Session.Kin.change ?_)
    refine Session.Kin.trans (t := { s with jobs := s.jobs.wait.2 })
      ⟨⟨rfl, rfl, rfl, rfl, rfl⟩, rfl⟩ ?_
    exact Session.kin_foldl_sayLine _ _ _
  | equals => exact .bind (.ofExcept _) fun a => .bind (.ofExcept _) fun b => .pure _
  | negate => exact .bind (.ofExcept _) fun b => .pure _
  | matchesPattern => exact .bind (.ofExcept _) fun b => .pure _

/-- A change of the active stack. -/
lemma regular_changeActive (f : Stack → Stack) : Regular loose fun _ => changeActive f :=
  .modify fun s => Session.change_memory (.active s.memory (f s.memory.active))

/-- The two top values exchanged. -/
lemma regular_swapItems : Regular loose fun _ => swapItems := by
  rw [swapItems_eq]
  refine .attempt fun s t h => ?_
  obtain ⟨active, -, ht⟩ := exists_of_bind_eq_ok h
  cases ht
  exact Session.change_memory (.active s.memory active)

/-- The active frame discarded. -/
lemma regular_closeFrame : Regular loose fun _ => closeFrame := by
  rw [closeFrame_eq]
  refine .attempt fun s t h => ?_
  obtain ⟨closed, hclose, ht⟩ := exists_of_bind_eq_ok h
  cases ht
  exact Session.change_memory (.closed hclose)

/-- The commands on the memory stacks. -/
lemma regular_runMemory (command : MemoryCommand) (args : Arguments) :
    Regular loose fun exec => Builtin.runMemory exec command args := by
  cases command with
  | push => exact .bind (.ofExcept _) fun item => .thenNone (regular_changeActive _)
  | pop =>
    exact .bind regular_popItem fun item =>
      .thenNone (.modify fun s => (Session.kin_say s _).change)
  | peek =>
    exact .bind .get fun s => .bind (.ofExcept _) fun item =>
      .thenNone (.modify fun s => (Session.kin_say s _).change)
  | dup =>
    exact .bind .get fun s => .bind (.ofExcept _) fun top => .thenNone (regular_changeActive _)
  | swap => exact .thenNone regular_swapItems
  | clear | lock | unlock => exact .thenNone (regular_changeActive _)
  | count => exact .bind .get fun s => .pure _
  | stack =>
    exact .bind .get fun s => .bind (.ofExcept _) fun text =>
      .thenNone (.modify fun s => (Session.kin_say s _).change)
  | pushFrame => exact .thenNone (.modify fun s => Session.change_memory (.opened s.memory))
  | popFrame => exact .thenNone regular_closeFrame
  | frames => exact .thenNone (.modify fun s => (Session.kin_say s _).change)
  | isolated =>
    exact .bind (.ofExcept _) fun call => .thenNone (.isolated (.call call.1 call.2))

/-- A change of the scopes that may be refused. -/
lemma regular_changeScopes {step : Scopes → Except Error Scopes}
    (h : ∀ scopes next, step scopes = .ok next → scopes.Step loose next) :
    Regular loose fun _ => attempt fun s => do return { s with scopes := ← step s.scopes } := by
  refine .attempt fun s t hs => ?_
  obtain ⟨scopes, hstep, ht⟩ := exists_of_bind_eq_ok hs
  cases ht
  exact Session.change_scopes (h _ _ hstep)

/-- A local scope opened. -/
lemma regular_enterScope : Regular loose fun _ => enterScope :=
  enterScope_eq ▸ regular_changeScopes fun _ _ => .entered

/-- The innermost local scope closed. -/
lemma regular_exitScope : Regular loose fun _ => exitScope :=
  exitScope_eq ▸ regular_changeScopes fun _ _ => .exited

/-- Access directed to Global. -/
lemma regular_enterGlobal : Regular loose fun _ => enterGlobal :=
  enterGlobal_eq ▸ regular_changeScopes fun _ _ => .globalEntered

/-- Access directed to the local scopes. -/
lemma regular_exitGlobal : Regular loose fun _ => exitGlobal :=
  exitGlobal_eq ▸ regular_changeScopes fun _ _ => .globalExited

/-- The commands on variables and scopes. -/
lemma regular_runScope (command : ScopeCommand) (args : Arguments) :
    Regular loose fun exec => Builtin.runScope exec command args := by
  cases command with
  | set =>
    exact .bind (.ofExcept _) fun name => .bind (.refuseIf _ _) fun _ =>
      .thenNone (.modify fun s => Session.change_scopes (.active s.scopes _))
  | get => exact .bind .get fun s => .bind (.ofExcept _) fun value => .pure _
  | unset =>
    refine .bind (.ofExcept _) fun name => .bind (.update fun s => ?_) fun found =>
      .thenNone (.refuseIf _ _)
    exact Session.change_scopes (.active s.scopes (·.erase name))
  | vars => exact .thenNone (.modify fun s => (Session.kin_say s _).change)
  | enterScope => exact .thenNone regular_enterScope
  | exitScope => exact .thenNone regular_exitScope
  | enterGlobal => exact .thenNone regular_enterGlobal
  | exitGlobal => exact .thenNone regular_exitGlobal
  | «scoped» =>
    exact .bind (.ofExcept _) fun call => .thenNone (.temporaryScope (.call call.1 call.2))
  | globally =>
    exact .bind (.ofExcept _) fun call => .thenNone (.inGlobal (.call call.1 call.2))

/-- Defining a macro touches nothing but the macros. -/
lemma kin_of_defineMacro {s t : Session} {name : String} {body : Macro}
    (h : s.defineMacro name body = .ok t) : s.Kin t := by
  obtain ⟨_, -, ht⟩ := exists_of_bind_eq_ok h
  cases ht
  exact ⟨⟨rfl, rfl, rfl, rfl, rfl⟩, rfl⟩

/-- A macro defined. -/
lemma regular_defineMacro (name : String) (body : Macro) :
    Regular loose fun _ => defineMacro name body := by
  rw [defineMacro_eq]
  exact .attempt fun s t h => (kin_of_defineMacro h).change

/-- The commands that define macros and aliases. -/
lemma regular_runMacros (command : MacroCommand) (args : Arguments) :
    Regular loose fun _ => Builtin.runMacros command args := by
  cases command with
  | define => exact .bind (.ofExcept _) fun name => regular_defineMacro name _
  | call | action =>
    exact .bind (.ofExcept _) fun target => .bind (.ofExcept _) fun name =>
      regular_defineMacro name _
  | undefine =>
    refine .bind (.ofExcept _) fun name => .bind (.update fun s => ?_) fun found => .refuseIf _ _
    exact Session.Kin.change ⟨⟨rfl, rfl, rfl, rfl, rfl⟩, rfl⟩
  | macros => exact .modify fun s => (Session.kin_say s _).change
  | «alias» =>
    exact .bind (.ofExcept _) fun name => .bind (.ofExcept _) fun target =>
      regular_registerCustom name rfl
  | unalias =>
    refine .bind (.ofExcept _) fun name => .bind (.update fun s => ?_) fun found => .refuseIf _ _
    refine Session.change_packages ⟨rfl, rfl, rfl, rfl⟩ fun h => ?_
    exact h.withCustom fun entry hentry => h.custom entry (List.mem_filter.1 hentry).1

/-- A package of the registry added. -/
lemma regular_usePackage (name : String) : Regular loose fun _ => usePackage name := by
  rw [usePackage_eq]
  refine .attempt fun s t h => Session.change_packages ?_ fun hd => hd.usePackage h
  obtain ⟨package, -, hadd⟩ := exists_of_bind_eq_ok h
  exact alike_addPackage hadd

/-- The commands that read scripts and packages. -/
lemma regular_runScripts (command : ScriptCommand) (args : Arguments) :
    Regular loose fun exec => Builtin.runScripts exec command args := by
  refine .bind (.ofExcept _) fun first => ?_
  cases command with
  | load =>
    refine .sequence (regular_loadScript first _) fun loaded hreturn => ?_
    obtain ⟨_, s, t, hrun⟩ := hreturn
    exact regular_registerCustom loaded.1 (isDisciplined_of_loadScript hrun)
  | compile =>
    refine .bind (.ofExcept _) fun name => .sequence (regular_compileDirectory first name) ?_
    intro compiled hreturn
    obtain ⟨_, s, t, hrun⟩ := hreturn
    exact regular_registerCustom name (isDisciplined_of_compileDirectory hrun)
  | source => exact .bind (regular_readFile first) regular_runScript
  | importDir => exact .bind (regular_loadPackages first) fun _ => .pure ()
  | use => exact regular_usePackage first

/-- All built-in commands. -/
lemma regular_runBuiltin (fuel : Nat) (args : Arguments) (command : Builtin) :
    Regular loose fun exec => runBuiltin fuel exec args command := by
  cases command with
  | info command => exact .thenNone (regular_runInfo command args)
  | control command => exact regular_runControl fuel command args
  | memory command => exact regular_runMemory command args
  | scope command => exact regular_runScope command args
  | macros command => exact .thenNone (regular_runMacros command args)
  | script command => exact .thenNone (regular_runScripts command args)
  | text command => exact .ofExcept _

/-- Built-in commands one after the other, with their arguments, as far as they return. -/
def builtins (commands : List (Builtin × List String)) : Routine Unit := fun exec => do
  let _ ← commands.mapM fun (command, args) => runBuiltin 0 exec ⟨"", args.map .text⟩ command

/-- Built-in commands one after the other. -/
lemma regular_builtins (commands : List (Builtin × List String)) :
    Regular loose (builtins commands) :=
  .bind (.mapM (fun entry => regular_runBuiltin 0 _ entry.1) commands) fun _ => .pure ()

end Routine

/-! ### Host programs -/

namespace Engine

/-- What one instruction of a host program does, and the value with which it ends the program, if it
does. -/
def perform (exec : Exec) (package : String) (args : Arguments) :
    Instruction → Engine (Option Item)
  | .give item => pure (some item)
  | .giveArguments => pure (some (.seq (args.rest 0)))
  | .giveAccess accessor index => do return some (.text (← ofExcept (args.show accessor index)))
  | .raise message => fail (.raised message)
  | .crash payload => crash payload
  | .openFrame => goOn (modify fun s => { s with memory := s.memory.openFrame })
  | .push item => goOn (modify fun s => { s with memory := s.memory.push item })
  | .enterScope => goOn enterScope
  | .enterGlobal => goOn enterGlobal
  | .beginTemporary => goOn (attempt fun s => do
      let (_, scopes) ← s.scopes.beginTemporary
      return { s with scopes })
  | .beginGlobal => goOn (modify fun s => { s with scopes := s.scopes.beginGlobal.2 })
  | .line text => goOn (runLine exec text)
  | .trace => goOn (modify fun s => s.sayLine (traceLine package args s.depth))
  | .say text => goOn (modify (·.sayLine text))
where
  /-- The program goes on after an action. -/
  goOn (action : Engine Unit) : Engine (Option Item) := do
    action
    return none

/-- What comes after an action that the program goes on after. -/
lemma goOn_bind (action : Engine Unit) (next : Option Item → Engine (Option Item)) :
    (perform.goOn action >>= next) = (action >>= fun _ => next none) := by
  funext s
  change Engine.bind (Engine.bind action fun _ => pure none) next s = Engine.bind action _ s
  unfold Engine.bind
  rcases action s with ⟨a | e | p | r, t⟩ <;> rfl

/-- A program performs its first instruction, and the others unless that ended it. -/
lemma runProgram_cons (exec : Exec) (package : String) (args : Arguments)
    (instruction : Instruction) (rest : List Instruction) :
    runProgram exec package args (instruction :: rest) =
      (perform exec package args instruction >>= fun
        | some item => pure (some item)
        | none => runProgram exec package args rest) := by
  cases instruction with
  | giveAccess accessor index =>
    have hgive : ∀ shown : Except Error String,
        (do return some (.text (← ofExcept shown)) : Engine (Option Item)) =
          ((do return some (.text (← ofExcept shown)) : Engine (Option Item)) >>= fun
            | some item => pure (some item)
            | none => runProgram exec package args rest) := by
      intro shown
      cases shown <;> rfl
    exact hgive (args.show accessor index)
  | give item => rfl
  | giveArguments => rfl
  | raise message => rfl
  | crash payload => rfl
  | _ =>
    unfold perform
    rw [goOn_bind]
    rfl

end Engine

namespace Routine

open Engine

variable {loose : Prop}

/-- An instruction that is disciplined and does not crash is not `loose`. -/
lemma regular_perform (package : String) (args : Arguments) {instruction : Instruction}
    (hd : loose ∨ instruction.isDisciplined = true)
    (hc : loose ∨ ∀ payload, instruction ≠ .crash payload) :
    Regular loose fun exec => perform exec package args instruction := by
  cases instruction with
  | give item => exact .pure _
  | giveArguments => exact .pure _
  | giveAccess accessor index => exact .bind (.ofExcept _) fun text => .pure _
  | raise message => exact .fail _
  | crash payload =>
    exact .crash (hc.resolve_right fun h => h payload rfl) payload
  | openFrame => exact .thenNone (.modify fun s => Session.change_memory (.opened s.memory))
  | push item => exact .thenNone (.modify fun s => Session.change_memory (.active s.memory _))
  | enterScope => exact .thenNone regular_enterScope
  | enterGlobal => exact .thenNone regular_enterGlobal
  | beginTemporary =>
    have hl : loose := hd.resolve_right (by decide)
    refine .thenNone (.attempt fun s t h => ?_)
    obtain ⟨begun, hbegun, ht⟩ := exists_of_bind_eq_ok h
    cases ht
    exact Session.change_scopes (.temporaryBegun hl hbegun)
  | beginGlobal =>
    have hl : loose := hd.resolve_right (by decide)
    exact .thenNone (.modify fun s => Session.change_scopes (.globalBegun hl s.scopes))
  | line text => exact .thenNone (regular_runLine text)
  | trace => exact .thenNone (.modify fun s => (Session.kin_say s _).change)
  | say text => exact .thenNone (.modify fun s => (Session.kin_say s _).change)

/-- A host program. -/
lemma regular_runProgram (hl : loose) (package : String) (args : Arguments)
    (instructions : List Instruction) :
    Regular loose fun exec => runProgram exec package args instructions := by
  induction instructions with
  | nil => exact .pure none
  | cons instruction rest ih =>
    simp only [runProgram_cons]
    refine .bind (regular_perform package args (.inl hl) (.inl hl)) fun result => ?_
    cases result with
    | none => exact ih
    | some item => exact .pure _

/-! ### Calls -/

/-- The body of a command that is not a host program. -/
lemma regular_runBody_of_ne (host : Host) (fuel : Nat) (package : String) (args : Arguments)
    {body : Body} (h : ∀ instructions, body ≠ .program instructions) :
    Regular loose fun exec => host.runBody fuel exec package args body := by
  cases body with
  | builtin command => exact regular_runBuiltin fuel args command
  | forward target fixed => exact .thenNone (.call target _)
  | script text => exact .thenNone (regular_runScriptCommand text _)
  | program instructions => exact absurd rfl (h instructions)

/-- Taking in the value that a command gave. -/
lemma regular_receive (result : Option Item) : Regular loose fun _ => receive result := by
  refine .modify fun s => ?_
  cases result with
  | none => exact (Session.Kin.refl s).change
  | some item => exact Session.change_memory (.active s.memory _)

end Routine

namespace Engine

/-- A call is of a command that its name stands for, and is accepted only below the limit. -/
lemma resolveCall_eq_ok {s : Session} {name : String} {args : List String} {package : Package}
    {command : Command} {arguments : Arguments}
    (h : resolveCall s name args = .ok (package, command, arguments)) :
    s.packages.resolve? name = some (package, command) ∧ s.depth < s.maxDepth := by
  unfold resolveCall at h
  cases hresolve : s.packages.resolve? name with
  | none => simp [hresolve] at h
  | some found =>
    rw [hresolve] at h
    obtain ⟨_, -, hcoerce⟩ := exists_of_bind_eq_ok h
    obtain ⟨arguments', -, hdepth⟩ := exists_of_bind_eq_ok hcoerce
    dsimp only at hdepth
    split at hdepth
    · cases hdepth
    · next hlimit =>
      cases hdepth
      exact ⟨rfl, Nat.not_le.1 hlimit⟩

/-- A call is of a command that its name stands for. -/
lemma resolve?_of_resolveCall {s : Session} {name : String} {args : List String}
    {package : Package} {command : Command} {arguments : Arguments}
    (h : resolveCall s name args = .ok (package, command, arguments)) :
    s.packages.resolve? name = some (package, command) :=
  (resolveCall_eq_ok h).1

end Engine

/-! ### Hosts -/

namespace Host

open Engine

variable {host other : Host}

/-- The host matters for its own programs only. -/
lemma runBody_of_ne (host other : Host) (fuel : Nat) (exec : Exec) (package : String)
    (args : Arguments) {body : Body} (h : ∀ instructions, body ≠ .program instructions) :
    host.runBody fuel exec package args body = other.runBody fuel exec package args body := by
  cases body with
  | program instructions => exact absurd rfl (h instructions)
  | _ => rfl

/-- A call looks the command up, runs its body as one more active call, and takes in its value. -/
lemma dispatch_eq (host : Host) (fuel : Nat) (exec : Exec) (name : String) (args : List String) :
    host.dispatch fuel exec name args = (do
      let s ← get
      let (package, command, arguments) ← ofExcept (resolveCall s name args)
      let result ← Guard.call.run (host.runBody fuel exec package.name arguments command.body)
      receive result) := by
  funext s
  change _ = Engine.bind get _ s
  simp only [dispatch, Engine.bind, Engine.get]
  cases resolveCall s name args with
  | error e => rfl
  | ok resolved => rfl

/-- A call asks for acceptance, runs the body as one more active call, and takes in its value. -/
lemma dispatch_eq_enter (host : Host) (fuel : Nat) (exec : Exec) (name : String)
    (args : List String) :
    host.dispatch fuel exec name args = (do
      let result ← enter (fun s => resolveCall s name args) fun resolved =>
        host.runBody fuel exec resolved.1.name resolved.2.2 resolved.2.1.body
      receive result) := by
  funext s
  change _ = Engine.bind (enter _ _) _ s
  simp only [dispatch, Engine.bind, enter]
  cases resolveCall s name args with
  | error e => rfl
  | ok resolved => rfl

/-- What holds of an action that comes to no end, and of every call if it holds of the calls that it
makes, holds of all calls. -/
lemma every_execute {P : ∀ {α : Type}, Engine α → Prop}
    (hhalt : ∀ {α : Type}, P (halt .fuel : Engine α))
    (hdispatch : ∀ fuel exec, exec.Every P → ∀ name args, P (host.dispatch fuel exec name args))
    (hcallback : ∀ fuel exec, exec.Every P → ∀ callback, P (host.callback fuel exec callback))
    (fuel : Nat) :
    (host.execute fuel).Every P := by
  induction fuel with
  | zero => exact ⟨fun _ _ => hhalt, hcallback 0 exhausted ⟨fun _ _ => hhalt, fun _ => hhalt⟩⟩
  | succ fuel ih => exact ⟨hdispatch fuel _ ih, hcallback (fuel + 1) _ ih⟩

/-- The same for a relation between the calls with two hosts. -/
lemma pairwise_execute {P : ∀ {α : Type}, Engine α → Engine α → Prop}
    (hhalt : ∀ {α : Type}, P (halt .fuel : Engine α) (halt .fuel))
    (hdispatch : ∀ fuel first second, first.Pairwise P second → ∀ name args,
      P (host.dispatch fuel first name args) (other.dispatch fuel second name args))
    (hcallback : ∀ fuel first second, first.Pairwise P second → ∀ callback,
      P (host.callback fuel first callback) (other.callback fuel second callback)) (fuel : Nat) :
    (host.execute fuel).Pairwise P (other.execute fuel) := by
  induction fuel with
  | zero => exact ⟨fun _ _ => hhalt, hcallback 0 _ _ ⟨fun _ _ => hhalt, fun _ => hhalt⟩⟩
  | succ fuel ih => exact ⟨hdispatch fuel _ _ ih, hcallback (fuel + 1) _ _ ih⟩

/-- All commands, macros and passes of the host are regular routines. -/
structure Regular (host : Host) : Prop where
  command : ∀ fuel package args instructions, Routine.Regular True fun exec =>
    host.command fuel exec package args instructions
  callback : ∀ fuel callback, Routine.Regular True fun exec => host.callback fuel exec callback

/-- All commands, macros and passes of the host are composed routines. -/
structure Composed (host : Host) : Prop where
  command : ∀ fuel package args instructions, Routine.Composed True fun exec =>
    host.command fuel exec package args instructions
  callback : ∀ fuel callback, Routine.Composed True fun exec => host.callback fuel exec callback

/-- Those of the standard host are regular. -/
lemma Regular.standard : standard.Regular where
  command _ package args instructions := Routine.regular_runProgram trivial package args instructions
  callback _ callback := Routine.regular_runCallback callback

/-- Regular hosts are composed. -/
lemma Regular.composed (h : host.Regular) : host.Composed where
  command fuel package args instructions := (h.command fuel package args instructions).composed
  callback fuel callback := (h.callback fuel callback).composed

/-- Those of the standard host are composed. -/
lemma Composed.standard : standard.Composed := Regular.standard.composed

/-- The body of a command of a regular host. -/
lemma Regular.runBody (h : host.Regular) (fuel : Nat) (package : String) (args : Arguments)
    (body : Body) : Routine.Regular True fun exec => host.runBody fuel exec package args body := by
  cases body with
  | program instructions => exact h.command fuel package args instructions
  | _ => exact Routine.regular_runBody_of_ne host fuel package args (by simp)

/-- The body of a command of a composed host. -/
lemma Composed.runBody (h : host.Composed) (fuel : Nat) (package : String) (args : Arguments)
    (body : Body) : Routine.Composed True fun exec => host.runBody fuel exec package args body := by
  cases body with
  | program instructions => exact h.command fuel package args instructions
  | _ => exact (Routine.regular_runBody_of_ne host fuel package args (by simp)).composed

/-- A call with a regular host. -/
lemma Regular.dispatch (h : host.Regular) (fuel : Nat) (name : String) (args : List String) :
    Routine.Regular True fun exec => host.dispatch fuel exec name args := by
  simp only [dispatch_eq_enter]
  exact .bind (.entered (fun s resolved h => (resolveCall_eq_ok h).2) fun resolved =>
    h.runBody fuel _ _ _) Routine.regular_receive

/-- A call with a composed host. -/
lemma Composed.dispatch (h : host.Composed) (fuel : Nat) (name : String) (args : List String) :
    Routine.Composed True fun exec => host.dispatch fuel exec name args := by
  simp only [dispatch_eq]
  exact .bind .get fun s => .bind (.ofExcept _) fun resolved =>
    .bind (.guarded .call (h.runBody fuel _ _ _)) fun result =>
      (Routine.regular_receive result).composed

/-- What holds of single steps and is respected by all ways of putting routines together holds of
every call with a composed host. -/
theorem Composed.satisfies (h : host.Composed) {R : Ending → Session → Session → Prop}
    (law : Law True R) (fuel : Nat) : (host.execute fuel).Every (Satisfies R) := by
  refine every_execute (fun s => ?_) (fun fuel exec hexec name args => ?_)
    (fun fuel exec hexec callback => ?_) fuel
  · exact law.of_alike (.refl s) (by simp [halt, Outcome.ending])
  · exact (h.dispatch fuel name args).satisfies law hexec
  · exact (h.callback fuel callback).satisfies law hexec

/-- What holds of single changes and is respected by all ways of putting regular routines together
holds of every call with a regular host. -/
theorem Regular.satisfies (h : host.Regular) {R : Ending → Session → Session → Prop}
    (rule : Rule True R) (fuel : Nat) : (host.execute fuel).Every (Satisfies R) := by
  refine every_execute (fun s => ?_) (fun fuel exec hexec name args => ?_)
    (fun fuel exec hexec callback => ?_) fuel
  · exact rule.of_kin (.refl s) (by simp [halt, Outcome.ending])
  · exact (h.dispatch fuel name args).satisfies rule hexec
  · exact (h.callback fuel callback).satisfies rule hexec

end Host

namespace Routine

open Engine

variable {loose : Prop}

/-! ### What is used of composed routines -/

/-- Built-in commands one after the other. -/
lemma composed_builtins (commands : List (Builtin × List String)) :
    Composed loose (builtins commands) :=
  (regular_builtins commands).composed

/-- An instruction that is disciplined and does not crash is not `loose`. -/
lemma composed_perform (package : String) (args : Arguments) {instruction : Instruction}
    (hd : loose ∨ instruction.isDisciplined = true)
    (hc : loose ∨ ∀ payload, instruction ≠ .crash payload) :
    Composed loose fun exec => perform exec package args instruction :=
  (regular_perform package args hd hc).composed

/-- Taking in the value that a command gave. -/
lemma composed_receive (result : Option Item) : Composed loose fun _ => receive result :=
  (regular_receive result).composed

end Routine

/-! ### Properties of all calls -/

namespace Engine

variable {R : Ending → Session → Session → Prop}

/-- A call looks the command up, runs its body as one more active call, and takes in its value. -/
lemma dispatch_eq (fuel : Nat) (exec : Exec) (name : String) (args : List String) :
    dispatch fuel exec name args = (do
      let s ← get
      let (package, command, arguments) ← ofExcept (resolveCall s name args)
      let result ← Guard.call.run (runBody fuel exec package.name arguments command.body)
      receive result) :=
  Host.standard.dispatch_eq fuel exec name args

/-- The standard host does what the probes and the transformations say. -/
@[simp] lemma callback_execute (fuel : Nat) : (execute fuel).callback = runCallback := by
  cases fuel <;> rfl

/-- What holds of single changes and is respected by all ways of putting regular routines together
holds of every call. -/
theorem rule_execute (rule : Rule True R) (fuel : Nat) : (execute fuel).Every (Satisfies R) :=
  Host.Regular.standard.satisfies rule fuel

/-- No command changes the settings. -/
lemma rule_setup : Rule True fun _ s t => t.setup = s.setup where
  leaf h _ := h.setup
  trans hst htu := htu.trans hst
  written _ _ _ h := h
  guarded {e s t u guard close} hopen _ htu := by
    have hst : t.setup = s.setup ∧ ∀ v, (close v).setup = v.setup := by
      cases guard with
      | scope =>
        obtain ⟨mark, scopes, -, rfl, rfl⟩ := Guard.scope_opens_eq_ok hopen
        exact ⟨rfl, fun _ => rfl⟩
      | _ =>
        cases hopen
        exact ⟨rfl, fun _ => rfl⟩
    split
    · rw [hst.2, htu, hst.1]
    · rw [htu, hst.1]
  contained h := h

/-- A run that returns leaves the number of active calls as it was. -/
lemma rule_depth : Rule True fun e s t => e = .returned → t.depth = s.depth where
  leaf h _ _ := h.depth
  trans hst htu he := (htu he).trans (hst rfl)
  written _ _ _ h := h
  guarded {e s t u guard close} hopen _ htu he := by
    rw [if_pos he]
    have hbody := htu he
    cases guard with
    | scope =>
      obtain ⟨mark, scopes, -, rfl, rfl⟩ := Guard.scope_opens_eq_ok hopen
      exact hbody
    | isolation | global =>
      cases hopen
      exact hbody
    | call =>
      cases hopen
      exact congrArg (· - 1) hbody
  contained _ _ := rfl

end Engine

/-- The run of a regular routine leaves the settings alone. -/
theorem Routine.Regular.setup_eq {α : Type} {routine : Routine α} (h : routine.Regular True)
    (fuel : Nat) (s : Session) : (routine (Engine.execute fuel) s).2.setup = s.setup :=
  h.satisfies Engine.rule_setup (Engine.rule_execute Engine.rule_setup fuel) s

end LineShell
