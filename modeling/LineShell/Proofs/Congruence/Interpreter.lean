import LineShell.Proofs.Congruence.Script

/-!
# The interpreter respects congruences

All built-in commands, host programs and a call as a whole respect every congruence that the calls
inside them respect; so every call of a command does (`Engine.respects_execute`).  To agree is a
congruence, and so what is written, and whether anything is, never changes what a run does
(`Engine.runs_agree_whatever_is_written`).

The commands that look at what a congruence leaves open are `feedback` and `errors`, which may turn
a flag over, and `async`, whose value holds what the job wrote.  The one sets nothing but the flag,
and the other only adds to the output.
-/

namespace LineShell.Engine

variable {R : Session → Session → Prop} {exec : Exec}

/-! ### Commands that run other commands -/

/-- The commands about the interpreter. -/
lemma respects_runInfo (hR : Session.Congruence R) (command : InfoCommand) (args : Arguments) :
    (Builtin.runInfo command args).Respects R := by
  cases command with
  | help =>
    refine .get_bind hR (fun _ _ ⟨_, _, _, _⟩ => rfl) fun s => ?_
    exact .bind (.ofExcept _) fun text => .write hR fun s => s.agrees_say _
  | packages => exact .write hR fun s => s.agrees_say _
  | quit => exact .modify fun s t h => hR.running false h
  | feedback | errors =>
    exact .bind (.ofExcept _) fun flag => .write hR fun s => .intro _ _ _ _
  | print => exact .write hR fun s => s.agrees_say _
  | raise => exact .fail _

/-- Lines until one fails. -/
lemma respects_runAll (hR : Session.Congruence R) (hexec : exec.Respects R) (lines : List String) :
    (Builtin.runAll exec lines).Respects R := by
  induction lines with
  | nil => exact .pure ()
  | cons line rest ih => exact .bind (respects_runLine hR hexec line) fun _ => ih

/-- A number of calls. -/
lemma respects_callTimes {call : Engine Unit} (h : call.Respects R) (times : Nat) :
    (Builtin.callTimes call times).Respects R := by
  induction times with
  | zero => exact .pure ()
  | succ times ih =>
    rw [Routine.callTimes_succ]
    exact .bind h fun _ => ih

/-- A line as a condition. -/
lemma respects_condition (hR : Session.Congruence R) (hexec : exec.Respects R) (line : String) :
    (Builtin.condition exec line).Respects R := by
  refine .bind (.isolated hR ?_) fun item => ?_
  · exact .bind (respects_runLine hR hexec line) fun _ => respects_popItem hR
  · cases item.truth? with
    | none => exact .fail _
    | some b => exact .pure b

/-- A loop. -/
lemma respects_callWhile {test : Engine Bool} {call : Engine Unit} (htest : test.Respects R)
    (hcall : call.Respects R) (fuel : Nat) : (Builtin.callWhile test call fuel).Respects R := by
  induction fuel with
  | zero => exact .halt .fuel
  | succ fuel ih =>
    rw [Routine.callWhile_succ]
    exact .bind htest fun b => .ite (.bind hcall fun _ => ih) (.pure ())

/-- A call of the command that the arguments from a position on name. -/
lemma respects_forward (hexec : exec.Respects R) (args : Arguments) (start : Nat) :
    (do
      let (name, rest) ← ofExcept (args.forward start)
      exec name rest).Respects R :=
  .bind (.ofExcept _) fun call => hexec.command call.1 call.2

/-- The commands that run other commands and those that give conditions. -/
lemma respects_runControl (hR : Session.Congruence R) (hexec : exec.Respects R) (fuel : Nat)
    (command : ControlCommand) (args : Arguments) :
    (Builtin.runControl fuel exec command args).Respects R := by
  cases command with
  | run => exact .bind (.ofExcept _) fun line => .thenNone (respects_runLine hR hexec line)
  | chain => exact .thenNone (respects_runAll hR hexec _)
  | repeatTimes =>
    refine .bind (.ofExcept _) fun times => ?_
    have hcalls : (do
        let (name, rest) ← ofExcept (args.forward 1)
        Builtin.callTimes (exec name rest) times.toNat
        return (none : Option Item)).Respects R :=
      .bind (.ofExcept _) fun call => .thenNone (respects_callTimes (hexec.command call.1 call.2) _)
    exact .ite (.bind (.fail _) fun _ => hcalls) hcalls
  | whileTrue =>
    refine .bind (.ofExcept _) fun line => .bind (.ofExcept _) fun call => .thenNone ?_
    exact respects_callWhile (respects_condition hR hexec line) (hexec.command call.1 call.2) fuel
  | ifTrue =>
    refine .bind (.ofExcept _) fun test => ?_
    exact .ite (.thenNone (respects_forward hexec args 1)) (.pure none)
  | unlessTrue =>
    refine .bind (.ofExcept _) fun test => ?_
    exact .ite (.pure none) (.thenNone (respects_forward hexec args 1))
  | ifElse =>
    exact .bind (.ofExcept _) fun test => .bind (.ofExcept _) fun line =>
      .thenNone (respects_runLine hR hexec line)
  | catching =>
    refine .bind (.ofExcept _) fun call => ?_
    exact .bind (.supervised hR call.1 (hexec.command call.1 call.2)) fun ok => .pure _
  | async =>
    refine .bind (.ofExcept _) fun call => ?_
    refine .bind_both (fun s t h => Respects.both_startJob hR hexec call.1 call.2 h) ?_
    rintro ⟨id, out, err⟩ ⟨_, out', err'⟩ rfl s t h
    refine ⟨rfl, hR.written h ?_ ?_⟩
    · exact (s.agrees_say _).trans (.intro _ _ _ _)
    · exact (t.agrees_say _).trans (.intro _ _ _ _)
  | jobs =>
    refine .thenNone (.modify fun s t h => ?_)
    obtain ⟨_, _, _, _⟩ := hR.agrees h
    refine hR.written (hR.jobs s.jobs.look.2 h) ?_ ?_
    · exact Session.agrees_foldl_sayLine _ _ _
    · exact Session.agrees_foldl_sayLine _ _ _
  | wait =>
    refine .thenNone (.modify fun s t h => ?_)
    obtain ⟨_, _, _, _⟩ := hR.agrees h
    refine hR.written (hR.jobs s.jobs.wait.2 h) ?_ ?_
    · exact Session.agrees_foldl_sayLine _ _ _
    · exact Session.agrees_foldl_sayLine _ _ _
  | equals => exact .bind (.ofExcept _) fun a => .bind (.ofExcept _) fun b => .pure _
  | negate => exact .bind (.ofExcept _) fun b => .pure _
  | matchesPattern => exact .bind (.ofExcept _) fun b => .pure _

/-! ### Commands on the session -/

/-- A change of the active stack. -/
lemma respects_changeActive (hR : Session.Congruence R) (f : Stack → Stack) :
    (changeActive f).Respects R := by
  refine .modify fun s t h => ?_
  obtain ⟨_, _, _, _⟩ := hR.agrees h
  exact hR.memory _ h

/-- The two top values exchanged. -/
lemma respects_swapItems (hR : Session.Congruence R) : swapItems.Respects R := by
  rw [swapItems_eq]
  refine .attempt fun s t h => ?_
  obtain ⟨_, _, _, _⟩ := hR.agrees h
  exact .bind s.memory.active.swap fun active => .ok (hR.memory _ h)

/-- The active frame discarded. -/
lemma respects_closeFrame (hR : Session.Congruence R) : closeFrame.Respects R := by
  rw [closeFrame_eq]
  refine .attempt fun s t h => ?_
  obtain ⟨_, _, _, _⟩ := hR.agrees h
  exact .bind s.memory.closeFrame fun closed => .ok (hR.memory closed.2 h)

/-- The commands on the memory stacks. -/
lemma respects_runMemory (hR : Session.Congruence R) (hexec : exec.Respects R)
    (command : MemoryCommand) (args : Arguments) :
    (Builtin.runMemory exec command args).Respects R := by
  cases command with
  | push => exact .bind (.ofExcept _) fun item => .thenNone (respects_changeActive hR _)
  | pop =>
    exact .bind (respects_popItem hR) fun item => .thenNone (.write hR fun s => s.agrees_say _)
  | peek =>
    refine .get_bind hR (fun _ _ ⟨_, _, _, _⟩ => rfl) fun s => .bind (.ofExcept _) fun item => ?_
    exact .thenNone (.write hR fun s => s.agrees_say _)
  | dup =>
    refine .get_bind hR (fun _ _ ⟨_, _, _, _⟩ => rfl) fun s => .bind (.ofExcept _) fun top => ?_
    exact .thenNone (respects_changeActive hR _)
  | swap => exact .thenNone (respects_swapItems hR)
  | clear | lock | unlock => exact .thenNone (respects_changeActive hR _)
  | count => exact .get_bind hR (fun _ _ ⟨_, _, _, _⟩ => rfl) fun _ => .pure _
  | stack =>
    refine .get_bind hR (fun _ _ ⟨_, _, _, _⟩ => rfl) fun s => .bind (.ofExcept _) fun text => ?_
    exact .thenNone (.write hR fun s => s.agrees_say _)
  | pushFrame =>
    refine .thenNone (.modify fun s t h => ?_)
    obtain ⟨_, _, _, _⟩ := hR.agrees h
    exact hR.memory _ h
  | popFrame => exact .thenNone (respects_closeFrame hR)
  | frames => exact .thenNone (.write hR fun s => s.agrees_say _)
  | isolated =>
    exact .bind (.ofExcept _) fun call => .thenNone (.isolated hR (hexec.command call.1 call.2))

/-- A change of the scopes that may be refused. -/
lemma respects_changeScopes (hR : Session.Congruence R) (step : Scopes → Except Error Scopes) :
    (attempt fun s => do return { s with scopes := ← step s.scopes }).Respects R := by
  refine .attempt fun s t h => ?_
  obtain ⟨_, _, _, _⟩ := hR.agrees h
  exact .bind (step s.scopes) fun scopes => .ok (hR.scopes scopes h)

/-- A local scope opened. -/
lemma respects_enterScope (hR : Session.Congruence R) : enterScope.Respects R :=
  enterScope_eq ▸ respects_changeScopes hR _

/-- Access directed to Global. -/
lemma respects_enterGlobal (hR : Session.Congruence R) : enterGlobal.Respects R :=
  enterGlobal_eq ▸ respects_changeScopes hR _

/-- The commands on variables and scopes. -/
lemma respects_runScope (hR : Session.Congruence R) (hexec : exec.Respects R)
    (command : ScopeCommand) (args : Arguments) :
    (Builtin.runScope exec command args).Respects R := by
  cases command with
  | set =>
    refine .bind (.ofExcept _) fun name => .bind (.refuseIf _ _) fun _ => .thenNone ?_
    refine .modify fun s t h => ?_
    obtain ⟨_, _, _, _⟩ := hR.agrees h
    exact hR.scopes _ h
  | get =>
    refine .get_bind hR (fun _ _ ⟨_, _, _, _⟩ => rfl) fun s => ?_
    exact .bind (.ofExcept _) fun value => .pure _
  | unset =>
    refine .bind (.ofExcept _) fun name => .bind (.update fun s t h => ?_) fun found =>
      .thenNone (.refuseIf _ _)
    obtain ⟨_, _, _, _⟩ := hR.agrees h
    exact ⟨rfl, hR.scopes _ h⟩
  | vars => exact .thenNone (.write hR fun s => s.agrees_say _)
  | enterScope => exact .thenNone (respects_enterScope hR)
  | exitScope => exact .thenNone (exitScope_eq ▸ respects_changeScopes hR _)
  | enterGlobal => exact .thenNone (respects_enterGlobal hR)
  | exitGlobal => exact .thenNone (exitGlobal_eq ▸ respects_changeScopes hR _)
  | «scoped» =>
    exact .bind (.ofExcept _) fun call =>
      .thenNone (.temporaryScope hR (hexec.command call.1 call.2))
  | globally =>
    exact .bind (.ofExcept _) fun call => .thenNone (.inGlobal hR (hexec.command call.1 call.2))

/-- A macro defined. -/
lemma respects_defineMacro (hR : Session.Congruence R) (name : String) (body : Macro) :
    (defineMacro name body).Respects R := by
  refine .bind (.ofExcept _) fun _ => .modify fun s t h => ?_
  obtain ⟨_, _, _, _⟩ := hR.agrees h
  exact hR.macros _ h

/-- The commands that define macros and aliases. -/
lemma respects_runMacros (hR : Session.Congruence R) (command : MacroCommand) (args : Arguments) :
    (Builtin.runMacros command args).Respects R := by
  cases command with
  | define => exact .bind (.ofExcept _) fun name => respects_defineMacro hR name _
  | call | action =>
    exact .bind (.ofExcept _) fun target => .bind (.ofExcept _) fun name =>
      respects_defineMacro hR name _
  | undefine =>
    refine .bind (.ofExcept _) fun name => .bind (.update fun s t h => ?_) fun found =>
      .refuseIf _ _
    obtain ⟨_, _, _, _⟩ := hR.agrees h
    exact ⟨rfl, hR.macros _ h⟩
  | macros => exact .write hR fun s => s.agrees_say _
  | «alias» =>
    exact .bind (.ofExcept _) fun name => .bind (.ofExcept _) fun target =>
      respects_registerCustom hR name _
  | unalias =>
    refine .bind (.ofExcept _) fun name => .bind (.update fun s t h => ?_) fun found =>
      .refuseIf _ _
    obtain ⟨_, _, _, _⟩ := hR.agrees h
    exact ⟨rfl, hR.custom _ h⟩

/-- The commands that read scripts and packages. -/
lemma respects_runScripts (hR : Session.Congruence R) (hexec : exec.Respects R)
    (command : ScriptCommand) (args : Arguments) :
    (Builtin.runScripts exec command args).Respects R := by
  refine .bind (.ofExcept _) fun first => ?_
  cases command with
  | load =>
    exact .bind (respects_loadScript hR first _) fun loaded => respects_registerCustom hR loaded.1 _
  | compile =>
    refine .bind (.ofExcept _) fun name => ?_
    exact .bind (respects_compileDirectory hR first name) fun made =>
      respects_registerCustom hR name made
  | source => exact .bind (respects_readFile hR first) (respects_runScript hR hexec)
  | importDir => exact .bind (respects_loadPackages hR first) fun _ => .pure ()
  | use =>
    refine .get_bind hR (fun _ _ ⟨_, _, _, _⟩ => rfl) fun s => .bind (.ofExcept _) fun package => ?_
    exact respects_addPackage hR package

/-- All built-in commands. -/
lemma respects_runBuiltin (hR : Session.Congruence R) (hexec : exec.Respects R) (fuel : Nat)
    (args : Arguments) (command : Builtin) : (runBuiltin fuel exec args command).Respects R := by
  cases command with
  | info command => exact .thenNone (respects_runInfo hR command args)
  | control command => exact respects_runControl hR hexec fuel command args
  | memory command => exact respects_runMemory hR hexec command args
  | scope command => exact respects_runScope hR hexec command args
  | macros command => exact .thenNone (respects_runMacros hR command args)
  | script command => exact .thenNone (respects_runScripts hR hexec command args)
  | text command => exact .ofExcept _

/-! ### Host programs and calls -/

/-- An instruction of a host program. -/
lemma respects_perform (hR : Session.Congruence R) (hexec : exec.Respects R) (package : String)
    (args : Arguments) (instruction : Instruction) :
    (perform exec package args instruction).Respects R := by
  cases instruction with
  | give item => exact .pure _
  | giveArguments => exact .pure _
  | giveAccess accessor index => exact .bind (.ofExcept _) fun text => .pure _
  | raise message => exact .fail _
  | crash payload => exact .crash payload
  | openFrame =>
    refine .thenNone (.modify fun s t h => ?_)
    obtain ⟨_, _, _, _⟩ := hR.agrees h
    exact hR.memory _ h
  | push item =>
    refine .thenNone (.modify fun s t h => ?_)
    obtain ⟨_, _, _, _⟩ := hR.agrees h
    exact hR.memory _ h
  | enterScope => exact .thenNone (respects_enterScope hR)
  | enterGlobal => exact .thenNone (respects_enterGlobal hR)
  | beginTemporary =>
    refine .thenNone (.attempt fun s t h => ?_)
    obtain ⟨_, _, _, _⟩ := hR.agrees h
    exact .bind s.scopes.beginTemporary fun begun => .ok (hR.scopes begun.2 h)
  | beginGlobal =>
    refine .thenNone (.modify fun s t h => ?_)
    obtain ⟨_, _, _, _⟩ := hR.agrees h
    exact hR.scopes _ h
  | line text => exact .thenNone (respects_runLine hR hexec text)
  | trace => exact .thenNone (.write hR fun s => s.agrees_say _)
  | say text => exact .thenNone (.write hR fun s => s.agrees_say _)

/-- A host program. -/
lemma respects_runProgram (hR : Session.Congruence R) (hexec : exec.Respects R) (package : String)
    (args : Arguments) (instructions : List Instruction) :
    (runProgram exec package args instructions).Respects R := by
  induction instructions with
  | nil => exact .pure none
  | cons instruction rest ih =>
    rw [runProgram_cons]
    refine .bind (respects_perform hR hexec package args instruction) fun result => ?_
    cases result with
    | none => exact ih
    | some item => exact .pure _

/-- The body of a command. -/
lemma respects_runBody (hR : Session.Congruence R) (hexec : exec.Respects R) (fuel : Nat)
    (package : String) (args : Arguments) (body : Body) :
    (runBody fuel exec package args body).Respects R := by
  cases body with
  | builtin command => exact respects_runBuiltin hR hexec fuel args command
  | forward target fixed => exact .thenNone (hexec.command target _)
  | script text => exact .thenNone (respects_runScriptCommand hR hexec text _)
  | program instructions => exact respects_runProgram hR hexec package args instructions

/-- Taking in the value that a command gave. -/
lemma respects_receive (hR : Session.Congruence R) (result : Option Item) :
    (receive result).Respects R := by
  refine .modify fun s t h => ?_
  cases result with
  | none => exact h
  | some item =>
    obtain ⟨_, _, _, _⟩ := hR.agrees h
    exact hR.memory _ h

/-- A call. -/
lemma respects_dispatch (hR : Session.Congruence R) (hexec : exec.Respects R) (fuel : Nat)
    (name : String) (args : List String) : (dispatch fuel exec name args).Respects R := by
  rw [dispatch_eq]
  refine .get_bind hR ?_ fun s => ?_
  · rintro s _ ⟨_, _, _, _⟩
    rfl
  · refine .bind (.ofExcept _) fun resolved => ?_
    refine .bind (.guarded hR .call ?_) (respects_receive hR)
    exact respects_runBody hR hexec fuel _ _ _

/-- Every call respects every congruence. -/
theorem respects_execute (hR : Session.Congruence R) (fuel : Nat) :
    Exec.Respects R (execute fuel) :=
  Host.every_execute (.halt .fuel) (fun fuel _ hexec => respects_dispatch hR hexec fuel)
    (fun _ _ _ => respects_runCallback hR) fuel

/-! ### Sessions that differ in the output -/

/-- In two sessions that differ at most in the two flags that tell what is written, and in what was
written so far, a line has the same outcome and leads to sessions that again differ in nothing else.
So does a line under supervision, and a script whose lines are each under supervision. -/
theorem runs_agree_whatever_is_written (fuel : Nat) (line origin text : String) {s t : Session}
    (h : s.Agrees t) :
    ((runLine (execute fuel) line t).1 = (runLine (execute fuel) line s).1 ∧
        (runLine (execute fuel) line s).2.Agrees (runLine (execute fuel) line t).2) ∧
      ((superviseLine (execute fuel) line t).1 = (superviseLine (execute fuel) line s).1 ∧
        (superviseLine (execute fuel) line s).2.Agrees (superviseLine (execute fuel) line t).2) ∧
      (superviseScript (execute fuel) origin text t).1 =
          (superviseScript (execute fuel) origin text s).1 ∧
        (superviseScript (execute fuel) origin text s).2.Agrees
          (superviseScript (execute fuel) origin text t).2 := by
  have hR := Session.congruence_agrees
  have hexec := respects_execute hR fuel
  refine ⟨?_, ?_, ?_⟩
  · exact respects_runLine hR hexec line s t h
  · exact respects_superviseLine hR hexec line s t h
  · exact respects_superviseScript hR hexec origin text s t h

/-- A script that turns the flag over, writes and fails, in a fresh session and in a quiet one that
has written before. -/
theorem runs_agree_in_quiet_session :
    let s := Session.start {} standardRegistry .empty
    let t := { s with feedback := false, errorFeedback := false, out := "ready\n", err := "" }
    s.Agrees t ∧
      (superviseScript call "demo" "feedback\nprint on\nraise stop\nprint never" t).1 =
        (superviseScript call "demo" "feedback\nprint on\nraise stop\nprint never" s).1 :=
  ⟨.intro false false _ _, (runs_agree_whatever_is_written ample "" "demo" _
    (.intro false false "ready\n" "")).2.2.1⟩

end LineShell.Engine
