import LineShell.Proofs.Feature.Script

/-!
# The features of built-in commands

A body is a permitted routine if the features that it makes use of are permitted
(`Routine.permitted_runBody`).  Among the built-in commands, `while` makes use of loops, `catch` of
containment and `async` of jobs; the others use no features.  A host program may crash.
-/

namespace LineShell

namespace Routine

open Engine

variable {permits : Feature → Prop}

/-! ### Built-in commands -/

/-- The commands about the interpreter. -/
lemma permitted_runInfo (command : InfoCommand) (args : Arguments) :
    Permitted permits fun _ => Builtin.runInfo command args := by
  cases command with
  | help =>
    exact .look (fun _ _ _ => rfl) fun s => .bind (.ofExcept _) fun text =>
      .plain (.write (fun _ => text) fun _ _ => rfl)
  | packages => exact .plain (.write _ fun _ _ => rfl)
  | quit =>
    refine .plain (.modify (fun s => Session.Kin.turn ?_ .same .same) fun _ _ => rfl)
    exact ⟨⟨rfl, rfl, rfl, rfl, rfl⟩, rfl⟩
  | feedback | errors =>
    refine .bind (.ofExcept _) fun flag => .plain (.modify (fun s => ?_) fun _ _ => rfl)
    exact Session.Kin.turn ⟨⟨rfl, rfl, rfl, rfl, rfl⟩, rfl⟩ .same .same
  | print => exact .plain (.write _ fun _ _ => rfl)
  | raise => exact .fail _

/-- Lines until one fails. -/
lemma permitted_runAll (lines : List String) :
    Permitted permits fun exec => Builtin.runAll exec lines := by
  induction lines with
  | nil => exact .pure ()
  | cons line rest ih => exact .bind (permitted_runLine line) fun _ => ih

/-- A number of calls. -/
lemma permitted_callTimes {call : Routine Unit} (h : Permitted permits call) (times : Nat) :
    Permitted permits fun exec => Builtin.callTimes (call exec) times := by
  induction times with
  | zero => exact .pure ()
  | succ times ih =>
    simp only [callTimes_succ]
    exact .bind h fun _ => ih

/-- A line as a condition. -/
lemma permitted_condition (line : String) :
    Permitted permits fun exec => Builtin.condition exec line := by
  refine .bind (.isolated ?_) fun item => ?_
  · exact .bind (permitted_runLine line) fun _ => .plain plain_popItem
  cases item.truth? with
  | none => exact .fail _
  | some b => exact .pure b

/-- A loop. -/
lemma permitted_callWhile (hpermits : permits .loop) {test : Routine Bool} {call : Routine Unit}
    (htest : Permitted permits test) (hcall : Permitted permits call) (fuel : Nat) :
    Permitted permits fun exec => Builtin.callWhile (test exec) (call exec) fuel := by
  induction fuel with
  | zero => exact .halted hpermits .fuel
  | succ fuel ih =>
    simp only [callWhile_succ]
    exact .bind htest fun b => .ite (.bind hcall fun _ => ih) (.pure ())

/-- A call of the command that the arguments from a position on name. -/
lemma permitted_forward (args : Arguments) (start : Nat) :
    Permitted permits (fun exec => do
      let (name, rest) ← Engine.ofExcept (args.forward start)
      exec name rest) :=
  .bind (.ofExcept _) fun call => .call call.1 call.2

/-- The commands that run other commands and those that give conditions. -/
lemma permitted_runControl (fuel : Nat) (command : ControlCommand) (args : Arguments)
    (h : ∀ feature, command.feature? = some feature → permits feature) :
    Permitted permits fun exec => Builtin.runControl fuel exec command args := by
  cases command with
  | run => exact .bind (.ofExcept _) fun line => .thenNone (permitted_runLine line)
  | chain => exact .thenNone (permitted_runAll _)
  | repeatTimes =>
    refine .bind (.ofExcept _) fun times => ?_
    have hcalls : Permitted permits fun exec => do
        let (name, rest) ← Engine.ofExcept (args.forward 1)
        Builtin.callTimes (exec name rest) times.toNat
        return (none : Option Item) :=
      .bind (.ofExcept _) fun call => .thenNone (permitted_callTimes (.call call.1 call.2) _)
    exact .ite (.bind (.fail _) fun _ => hcalls) hcalls
  | whileTrue =>
    refine .bind (.ofExcept _) fun line => .bind (.ofExcept _) fun call => .thenNone ?_
    exact permitted_callWhile (h .loop rfl) (permitted_condition line) (.call call.1 call.2) fuel
  | ifTrue =>
    refine .bind (.ofExcept _) fun test => ?_
    exact .ite (.thenNone (permitted_forward args 1)) (.pure none)
  | unlessTrue =>
    refine .bind (.ofExcept _) fun test => ?_
    exact .ite (.pure none) (.thenNone (permitted_forward args 1))
  | ifElse =>
    exact .bind (.ofExcept _) fun test => .bind (.ofExcept _) fun line =>
      .thenNone (permitted_runLine line)
  | catching =>
    refine .bind (.ofExcept _) fun call => ?_
    exact .bind (.supervised (h .containment rfl) call.1 (.call call.1 call.2)) fun ok => .pure _
  | async =>
    refine .bind (.ofExcept _) fun call => .bind (.job (h .job rfl) call.1 call.2) fun started => ?_
    refine .bind (.plain (.write _ fun _ _ => rfl)) fun _ => .thenNone (.plain ?_)
    refine .modify (fun s => Session.Kin.turn ?_ .same .same) fun _ _ => rfl
    exact ⟨⟨rfl, rfl, rfl, rfl, rfl⟩, rfl⟩
  | jobs =>
    refine .thenNone (.plain (.modify (fun s => Session.Kin.turn ?_ ?_ ?_) fun s limit => ?_))
    · refine Session.Kin.trans (t := { s with jobs := s.jobs.look.2 })
        ⟨⟨rfl, rfl, rfl, rfl, rfl⟩, rfl⟩ ?_
      exact Session.kin_foldl_sayLine _ _ _
    · unfold Builtin.listJobs
      rw [Session.jobs_foldl_sayLine]
      exact .looked
    · unfold Builtin.listJobs
      exact .of_eq (Session.macros_foldl_sayLine _ _ _)
    · exact Session.foldl_sayLine_withLimit _ s.jobs.tracked
        { s with jobs := s.jobs.look.2 } limit
  | wait =>
    refine .thenNone (.plain (.modify (fun s => Session.Kin.turn ?_ ?_ ?_) fun s limit => ?_))
    · refine Session.Kin.trans (t := { s with jobs := s.jobs.wait.2 })
        ⟨⟨rfl, rfl, rfl, rfl, rfl⟩, rfl⟩ ?_
      exact Session.kin_foldl_sayLine _ _ _
    · unfold Builtin.waitForJobs
      rw [Session.jobs_foldl_sayLine]
      exact .waited
    · unfold Builtin.waitForJobs
      exact .of_eq (Session.macros_foldl_sayLine _ _ _)
    · exact Session.foldl_sayLine_withLimit _ s.jobs.wait.1 { s with jobs := s.jobs.wait.2 } limit
  | equals => exact .bind (.ofExcept _) fun a => .bind (.ofExcept _) fun b => .pure _
  | negate => exact .bind (.ofExcept _) fun b => .pure _
  | matchesPattern => exact .bind (.ofExcept _) fun b => .pure _

/-- A change of the active stack. -/
lemma plain_changeActive (f : Stack → Stack) : (changeActive f).Plain :=
  .modify (fun s => (Session.change_memory (.active s.memory _)).turn rfl rfl rfl rfl)
    fun _ _ => rfl

/-- The two top values exchanged. -/
lemma plain_swapItems : swapItems.Plain := by
  rw [swapItems_eq]
  exact .choose (fun s => s.memory.active.swap) _ (fun _ _ => rfl)
    (fun s active _ => (Session.change_memory (.active s.memory active)).turn rfl rfl rfl rfl)
    fun _ _ _ => rfl

/-- The active frame discarded. -/
lemma plain_closeFrame : closeFrame.Plain := by
  rw [closeFrame_eq]
  refine .choose (fun s => s.memory.closeFrame) (fun s closed => { s with memory := closed.2 })
    (fun _ _ => rfl) (fun s closed hclose => ?_) fun _ _ _ => rfl
  exact (Session.change_memory (.closed hclose)).turn rfl rfl rfl rfl

/-- The commands on the memory stacks. -/
lemma permitted_runMemory (command : MemoryCommand) (args : Arguments) :
    Permitted permits fun exec => Builtin.runMemory exec command args := by
  have hwrite : ∀ text : String, (modify (·.say text)).Plain :=
    fun text => .write (fun _ => text) fun _ _ => rfl
  cases command with
  | push => exact .bind (.ofExcept _) fun item => .thenNone (.plain (plain_changeActive _))
  | pop => exact .bind (.plain plain_popItem) fun item => .thenNone (.plain (hwrite _))
  | peek =>
    exact .look (fun _ _ _ => rfl) fun s => .bind (.ofExcept _) fun item =>
      .thenNone (.plain (hwrite _))
  | dup =>
    exact .look (fun _ _ _ => rfl) fun s => .bind (.ofExcept _) fun top =>
      .thenNone (.plain (plain_changeActive _))
  | swap => exact .thenNone (.plain plain_swapItems)
  | clear | lock | unlock => exact .thenNone (.plain (plain_changeActive _))
  | count => exact .look (fun _ _ _ => rfl) fun s => .pure _
  | stack =>
    exact .look (fun _ _ _ => rfl) fun s => .bind (.ofExcept _) fun text =>
      .thenNone (.plain (hwrite _))
  | pushFrame =>
    refine .thenNone (.plain (.modify (fun s => ?_) fun _ _ => rfl))
    exact (Session.change_memory (.opened s.memory)).turn rfl rfl rfl rfl
  | popFrame => exact .thenNone (.plain plain_closeFrame)
  | frames => exact .thenNone (.plain (.write _ fun _ _ => rfl))
  | isolated =>
    exact .bind (.ofExcept _) fun call => .thenNone (.isolated (.call call.1 call.2))

/-- A change of the scopes that may be refused. -/
lemma plain_changeScopes {step : Scopes → Except Error Scopes}
    (h : ∀ scopes next, step scopes = .ok next → scopes.Step True next) :
    (Engine.attempt fun s => do return { s with scopes := ← step s.scopes }).Plain := by
  refine .choose (fun s => step s.scopes) (fun s scopes => { s with scopes }) (fun _ _ => rfl)
    (fun s scopes hstep => ?_) fun _ _ _ => rfl
  exact (Session.change_scopes (h _ _ hstep)).turn rfl rfl rfl rfl

/-- A local scope opened. -/
lemma plain_enterScope : enterScope.Plain :=
  enterScope_eq ▸ plain_changeScopes fun _ _ => .entered

/-- The innermost local scope closed. -/
lemma plain_exitScope : exitScope.Plain :=
  exitScope_eq ▸ plain_changeScopes fun _ _ => .exited

/-- Access directed to Global. -/
lemma plain_enterGlobal : enterGlobal.Plain :=
  enterGlobal_eq ▸ plain_changeScopes fun _ _ => .globalEntered

/-- Access directed to the local scopes. -/
lemma plain_exitGlobal : exitGlobal.Plain :=
  exitGlobal_eq ▸ plain_changeScopes fun _ _ => .globalExited

/-- The commands on variables and scopes. -/
lemma permitted_runScope (command : ScopeCommand) (args : Arguments) :
    Permitted permits fun exec => Builtin.runScope exec command args := by
  have hactive : ∀ (s : Session) (f : Scope → Scope),
      s.Turn { s with scopes := s.scopes.modifyActive f } := fun s f =>
    (Session.change_scopes (.active s.scopes f)).turn rfl rfl rfl rfl
  cases command with
  | set =>
    exact .bind (.ofExcept _) fun name => .bind (.plain (.refuseIf _ _)) fun _ =>
      .thenNone (.plain (.modify (fun s => hactive s _) fun _ _ => rfl))
  | get =>
    exact .look (fun _ _ _ => rfl) fun s => .bind (.ofExcept _) fun value => .pure _
  | unset =>
    exact .bind (.ofExcept _) fun name =>
      .bind (.plain (.update (fun s => hactive s (·.erase name)) fun _ _ => rfl)) fun found =>
        .thenNone (.plain (.refuseIf _ _))
  | vars => exact .thenNone (.plain (.write _ fun _ _ => rfl))
  | enterScope => exact .thenNone (.plain plain_enterScope)
  | exitScope => exact .thenNone (.plain plain_exitScope)
  | enterGlobal => exact .thenNone (.plain plain_enterGlobal)
  | exitGlobal => exact .thenNone (.plain plain_exitGlobal)
  | «scoped» =>
    exact .bind (.ofExcept _) fun call => .thenNone (.temporaryScope (.call call.1 call.2))
  | globally =>
    exact .bind (.ofExcept _) fun call => .thenNone (.inGlobal (.call call.1 call.2))

/-- Defining a macro. -/
lemma plain_defineMacro (name : String) (body : Macro) : (defineMacro name body).Plain := by
  rw [defineMacro_eq]
  refine .attempt (fun s t h => (kin_of_defineMacro h).turn ?_ ?_) fun s limit => ?_
  · obtain ⟨_, -, ht⟩ := exists_of_bind_eq_ok h
    cases ht
    exact .same
  · obtain ⟨_, hname, ht⟩ := exists_of_bind_eq_ok h
    cases ht
    exact .defined hname body
  · unfold Session.defineMacro
    cases Macro.checkName name <;> rfl

/-- The commands that define macros and aliases. -/
lemma permitted_runMacros (command : MacroCommand) (args : Arguments) :
    Permitted permits fun _ => Builtin.runMacros command args := by
  cases command with
  | define => exact .bind (.ofExcept _) fun name => .plain (plain_defineMacro name _)
  | call | action =>
    exact .bind (.ofExcept _) fun target => .bind (.ofExcept _) fun name =>
      .plain (plain_defineMacro name _)
  | undefine =>
    refine .bind (.ofExcept _) fun name => .bind (.plain (.update (fun s => ?_) fun _ _ => rfl))
      fun found => .plain (.refuseIf _ _)
    exact Session.Kin.turn ⟨⟨rfl, rfl, rfl, rfl, rfl⟩, rfl⟩ .same (.removed name)
  | macros => exact .plain (.write _ fun _ _ => rfl)
  | «alias» =>
    exact .bind (.ofExcept _) fun name => .bind (.ofExcept _) fun target =>
      .plain (plain_registerCustom name _)
  | unalias =>
    refine .bind (.ofExcept _) fun name => .bind (.plain (.update (fun s => ?_) fun _ _ => rfl))
      fun found => .plain (.refuseIf _ _)
    exact (Session.Stocks.single (.unregistered name)).turn ⟨rfl, rfl, rfl, rfl⟩ rfl rfl

/-- Adding a package of the registry. -/
lemma plain_usePackage (name : String) : (usePackage name).Plain := by
  rw [usePackage_eq]
  refine .attempt (fun s t h => ?_) fun s limit => ?_
  · obtain ⟨package, -, hadd⟩ := exists_of_bind_eq_ok h
    have hstocks := Session.Stocks.usePackage h
    rw [Session.addPackage_eq_ok hadd] at hstocks ⊢
    exact hstocks.turn ⟨rfl, rfl, rfl, rfl⟩ rfl rfl
  · have hsame : (s.withLimit limit).registry = s.registry := rfl
    unfold Session.usePackage
    rw [hsame]
    cases s.registry.create name with
    | error e => rfl
    | ok package => exact addPackage_withLimit package s limit

/-- The commands that read scripts and packages. -/
lemma permitted_runScripts (command : ScriptCommand) (args : Arguments) :
    Permitted permits fun exec => Builtin.runScripts exec command args := by
  refine .bind (.ofExcept _) fun first => ?_
  cases command with
  | load =>
    exact .bind (permitted_loadScript first _) fun loaded =>
      .plain (plain_registerCustom loaded.1 loaded.2)
  | compile =>
    exact .bind (.ofExcept _) fun name => .bind (permitted_compileDirectory first name)
      fun compiled => .plain (plain_registerCustom name compiled)
  | source => exact .bind (.plain (plain_readFile first)) permitted_runScript
  | importDir => exact .bind (permitted_loadPackages first) fun _ => .pure ()
  | use => exact .plain (plain_usePackage first)

/-- All built-in commands. -/
lemma permitted_runBuiltin (fuel : Nat) (args : Arguments) (command : Builtin)
    (h : ∀ feature, (Body.builtin command).uses feature = true → permits feature) :
    Permitted permits fun exec => runBuiltin fuel exec args command := by
  cases command with
  | info command => exact .thenNone (permitted_runInfo command args)
  | control command =>
    refine permitted_runControl fuel command args fun feature hfeature => h feature ?_
    simp [Body.uses, hfeature]
  | memory command => exact permitted_runMemory command args
  | scope command => exact permitted_runScope command args
  | macros command => exact .thenNone (permitted_runMacros command args)
  | script command => exact .thenNone (permitted_runScripts command args)
  | text command => exact .ofExcept _

/-! ### Host programs and calls -/

/-- An instruction, which may be a crash only if that is permitted. -/
lemma permitted_perform (package : String) (args : Arguments) {instruction : Instruction}
    (h : instruction.isCrash = true → permits .crash) :
    Permitted permits fun exec => perform exec package args instruction := by
  cases instruction with
  | give item => exact .pure _
  | giveArguments => exact .pure _
  | giveAccess accessor index => exact .bind (.ofExcept _) fun text => .pure _
  | raise message => exact .fail _
  | crash payload => exact .crashed (h rfl) payload
  | openFrame =>
    refine .thenNone (.plain (.modify (fun s => ?_) fun _ _ => rfl))
    exact (Session.change_memory (.opened s.memory)).turn rfl rfl rfl rfl
  | push item =>
    refine .thenNone (.plain (.modify (fun s => ?_) fun _ _ => rfl))
    exact (Session.change_memory (.active s.memory _)).turn rfl rfl rfl rfl
  | enterScope => exact .thenNone (.plain plain_enterScope)
  | enterGlobal => exact .thenNone (.plain plain_enterGlobal)
  | beginTemporary =>
    refine .thenNone (.plain (.choose (fun s => s.scopes.beginTemporary)
      (fun s begun => { s with scopes := begun.2 }) (fun _ _ => rfl) (fun s begun hbegun => ?_)
      fun _ _ _ => rfl))
    exact (Session.change_scopes (.temporaryBegun trivial hbegun)).turn rfl rfl rfl rfl
  | beginGlobal =>
    refine .thenNone (.plain (.modify (fun s => ?_) fun _ _ => rfl))
    exact (Session.change_scopes (.globalBegun trivial s.scopes)).turn rfl rfl rfl rfl
  | line text => exact .thenNone (permitted_runLine text)
  | trace => exact .thenNone (.plain (.write _ fun _ _ => rfl))
  | say text => exact .thenNone (.plain (.write _ fun _ _ => rfl))

/-- A host program, which may hold a crash only if that is permitted. -/
lemma permitted_runProgram (package : String) (args : Arguments) {instructions : List Instruction}
    (h : instructions.any Instruction.isCrash = true → permits .crash) :
    Permitted permits fun exec => runProgram exec package args instructions := by
  induction instructions with
  | nil => exact .pure none
  | cons instruction rest ih =>
    rw [List.any_cons, Bool.or_eq_true] at h
    simp only [runProgram_cons]
    refine .bind (permitted_perform package args fun hc => h (.inl hc)) fun result => ?_
    cases result with
    | none => exact ih fun hc => h (.inr hc)
    | some item => exact .pure _

/-- A body uses no features other than those it is said to use. -/
theorem permitted_runBody (fuel : Nat) (package : String) (args : Arguments) (body : Body)
    (h : ∀ feature, body.uses feature = true → permits feature) :
    Permitted permits fun exec => runBody fuel exec package args body := by
  cases body with
  | builtin command => exact permitted_runBuiltin fuel args command h
  | forward target fixed => exact .thenNone (.call target _)
  | script text => exact .thenNone (permitted_runScriptCommand text _)
  | program instructions => exact permitted_runProgram package args (h .crash)

/-- Taking in the value that a command gave. -/
lemma plain_receive (result : Option Item) : (receive result).Plain := by
  refine .modify (fun s => ?_) fun s limit => ?_
  · cases result with
    | none => exact (Session.Kin.refl s).turn .same .same
    | some item => exact (Session.change_memory (.active s.memory _)).turn rfl rfl rfl rfl
  · cases result <;> rfl

end Routine

end LineShell
