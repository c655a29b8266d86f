import LineShell.Proofs.Refinement

/-!
# Code of the host program

The commands, macros and passes of a host program are code that works on a session through the
interface of the interpreter.  `HostCode` is such code as a tree: its leaves are steps of its own and
runs of the interpreter, and it puts them together by sequencing, branching on what came out,
handling errors, and the guarded, supervised and captured runs.  A `HostLibrary` gives the code of
every command, macro and pass, and thereby a `Host`.

There are two readings of the code.  `HostCode.run` is what it does.  `HostCode.strict` is the same,
except that a step that crashes stops the whole run, which then comes to no end.  A crash inside a
run need not be seen from outside, since a supervised run in it may have contained it; whether
anything crashed is told by the strict reading (`HostLibrary.CrashFree`).  The strict reading refines
the actual one (`HostCode.refines`, `HostLibrary.refines_execute`), so a run in which nothing crashes
is the same under both.

Code is `Guarded` if it leaves marks and guards to the guarded runs: none of its steps is `loose`.
`HostLibrary.Guarded.satisfies` is the rule by which a property of all guarded code is derived, for
any reading: it has to hold of the steps as they are read (`ReadingLaw`).
-/

namespace LineShell

/-! ### Stopping at a crash -/

namespace Engine

variable {α : Type}

/-- A run that comes to no end where it would crash. -/
def stopAtCrash (action : Engine α) : Engine α := fun s =>
  match action s with
  | (.crashed _, t) => (.halted .fuel, t)
  | ended => ended

/-- Stopping at a crash changes nothing else. -/
lemma refines_stopAtCrash (action : Engine α) : (stopAtCrash action).Refines action := by
  intro s hended
  unfold stopAtCrash at hended ⊢
  rcases hrun : action s with ⟨a | e | p | r, t⟩
  · rfl
  · rfl
  · rw [hrun] at hended
    exact absurd rfl hended
  · rfl

/-- The session is the same if the run is stopped at a crash. -/
lemma stopAtCrash_session (action : Engine α) (s : Session) :
    (stopAtCrash action s).2 = (action s).2 := by
  unfold stopAtCrash
  rcases action s with ⟨a | e | p | r, t⟩ <;> rfl

/-- A run that is stopped at a crash does not crash. -/
lemma ending_stopAtCrash (action : Engine α) (s : Session) :
    (stopAtCrash action s).1.ending ≠ .crashed := by
  unfold stopAtCrash
  rcases action s with ⟨a | e | p | r, t⟩ <;> simp [Outcome.ending]

end Engine

/-! ### Code -/

/-- Code of the host program that gives a value. -/
inductive HostCode : Type → Type 1
  /-- What the code does to the session by itself.  It may fail, crash, and set marks and guards. -/
  | step {α : Type} (action : Engine α) (h : ∀ s : Session, s.Step True (action s).2) : HostCode α
  /-- A run of the interpreter. -/
  | interpreted {α : Type} (routine : Routine α) (h : routine.Composed False) : HostCode α
  | sequence {α β : Type} (first : HostCode α) (next : α → HostCode β) : HostCode β
  | handle {α : Type} (body : HostCode α) (handler : Error → HostCode α) : HostCode α
  | guarded (guard : Guard) {α : Type} (body : HostCode α) : HostCode α
  | supervised (source : String) (body : HostCode Unit) : HostCode Bool
  | captured (body : HostCode Bool) : HostCode Engine.Captured

namespace HostCode

open Engine

variable {α : Type} {first second : Exec}

/-- The call of a command. -/
def call (name : String) (args : List String) : HostCode Unit :=
  .interpreted (fun exec => exec name args) (.call name args)

/-- The expansion of a call. -/
def expansion (name : String) (args : List String) : HostCode (String × List String) :=
  .interpreted (fun exec => expandCall exec name args)
    (Routine.regular_expandCall name args).composed

/-- A line. -/
def line (line : String) : HostCode Unit :=
  .interpreted (fun exec => runLine exec line) (Routine.regular_runLine line).composed

/-- A script. -/
def script (text : String) : HostCode Unit :=
  .interpreted (fun exec => runScript exec text) (Routine.regular_runScript text).composed

/-- Code that gives a value and does nothing. -/
def value (a : α) : HostCode α := .interpreted (fun _ => pure a) (.pure a)

/-- What code does if its own steps are treated in some way. -/
def read (treat : ∀ {α : Type}, Engine α → Engine α) {α : Type} : HostCode α → Routine α
  | step action _ => fun _ => treat action
  | interpreted routine _ => routine
  | sequence first next => fun exec => first.read treat exec >>= fun a => (next a).read treat exec
  | handle body handler => fun exec =>
    (body.read treat exec).handle fun e => (handler e).read treat exec
  | guarded guard body => fun exec => guard.run (body.read treat exec)
  | supervised source body => fun exec => supervise source (body.read treat exec)
  | captured body => fun exec => capture (body.read treat exec)

/-- What code does. -/
abbrev run : HostCode α → Routine α := read fun action => action

/-- What code does if it is stopped where one of its steps crashes. -/
abbrev strict : HostCode α → Routine α := read stopAtCrash

/-- Whether code leaves marks and guards to the guarded runs. -/
def Guarded {α : Type} : HostCode α → Prop
  | step action _ => ∀ s : Session, s.Step False (action s).2
  | interpreted _ _ => True
  | sequence first next => first.Guarded ∧ ∀ a, (next a).Guarded
  | handle body handler => body.Guarded ∧ ∀ e, (handler e).Guarded
  | guarded _ body => body.Guarded
  | supervised _ body => body.Guarded
  | captured body => body.Guarded

/-- All code is composed. -/
lemma composed_run (code : HostCode α) : code.run.Composed True := by
  induction code with
  | step action h => exact .leaf h (.inl trivial)
  | interpreted routine h => exact h.mono False.elim
  | sequence first next ihfirst ihnext => exact .sequence ihfirst fun a _ => ihnext a
  | handle body handler ihbody ihhandler => exact .handle ihbody ihhandler
  | guarded guard body ih => exact .guarded guard ih
  | supervised source body ih => exact .supervised source ih
  | captured body ih => exact .captured ih

/-- Code does the same if it is stopped where it crashes, unless it then comes to no end. -/
lemma refines (hexec : first.Pairwise Refines second) (code : HostCode α) :
    (code.strict first).Refines (code.run second) := by
  induction code with
  | step action _ => exact refines_stopAtCrash action
  | interpreted routine h => exact h.refines hexec
  | sequence first next ihfirst ihnext => exact ihfirst.bind fun a _ => ihnext a
  | handle body handler ihbody ihhandler => exact ihbody.handle ihhandler
  | guarded guard body ih => exact ih.guarded guard
  | supervised source body ih => exact ih.supervised source
  | captured body ih => exact ih.captured

end HostCode

/-- A relation between the sessions before and after a run that is respected by all ways of putting
code together, holds of the steps of guarded code as they are treated, and says nothing of sessions
that are not disciplined. -/
structure ReadingLaw (treat : ∀ {α : Type}, Engine α → Engine α)
    (R : Ending → Session → Session → Prop) : Prop where
  law : Engine.Law False R
  step : ∀ {α : Type} {action : Engine α}, (∀ s : Session, s.Step False (action s).2) →
    (treat action).Satisfies R
  undisciplined : ∀ {e : Ending} {s t : Session}, ¬ s.Disciplined → R e s t

/-- It holds of guarded code if it holds of the calls. -/
lemma HostCode.Guarded.satisfies {treat : ∀ {α : Type}, Engine α → Engine α}
    {R : Ending → Session → Session → Prop} (h : ReadingLaw treat R) {exec : Exec}
    (hexec : exec.Every (Engine.Satisfies R)) {α : Type} {code : HostCode α}
    (hcode : code.Guarded) : (code.read treat exec).Satisfies R := by
  induction code with
  | step action _ => exact h.step hcode
  | interpreted routine hr => exact hr.satisfies h.law hexec
  | sequence first next ihfirst ihnext =>
    exact (ihfirst hcode.1).bind h.law.trans fun a _ => ihnext a (hcode.2 a)
  | handle body handler ihbody ihhandler =>
    exact (ihbody hcode.1).handle h.law.trans fun e => ihhandler e (hcode.2 e)
  | guarded guard body ih =>
    have hrefused : ∀ s, R .returned s s := fun s => h.law.of_alike (.refl s) (by decide)
    exact (ih hcode).guarded guard hrefused h.law.guarded
  | supervised source body ih =>
    have hreport : ∀ {e : Ending} {s t : Session} (text : String), R e s t →
        R e s (t.errorLine text) := fun text ht => h.law.alike ht (Engine.alike_errorLine _ text)
    exact (ih hcode).supervised hreport h.law.contained source
  | captured body ih => exact (ih hcode).captured h.law.trans h.law.output h.law.written

/-! ### Libraries -/

/-- The code of the commands of a host program, and of its macros and passes. -/
structure HostLibrary where
  command : (fuel : Nat) → (package : String) → Arguments → List Instruction →
    HostCode (Option Item)
  callback : (fuel : Nat) → Callback → HostCode String

namespace HostLibrary

open Engine

variable {α : Type} {library : HostLibrary}

/-- The host of a library whose steps are treated in some way. -/
def read (treat : ∀ {α : Type}, Engine α → Engine α) (library : HostLibrary) : Host where
  command fuel exec package args instructions :=
    (library.command fuel package args instructions).read treat exec
  callback fuel exec callback := (library.callback fuel callback).read treat exec

/-- The host that does what the code of a library says. -/
abbrev host : HostLibrary → Host := read fun action => action

/-- The host of a library whose code is stopped where it crashes. -/
abbrev strictHost : HostLibrary → Host := read stopAtCrash

/-- Whether all macros and passes leave marks and guards to the guarded runs, and all commands whose
programs are disciplined.  What a command does need not be what its program says; the program is
the name under which a session has the command. -/
structure Guarded (library : HostLibrary) : Prop where
  command : ∀ fuel package args instructions, instructions.all Instruction.isDisciplined = true →
    (library.command fuel package args instructions).Guarded
  callback : ∀ fuel callback, (library.callback fuel callback).Guarded

/-- Whether a run of code returns with no step of the host program having crashed in it. -/
def CrashFree (library : HostLibrary) (fuel : Nat) (code : HostCode α) (s : Session) : Prop :=
  (code.strict (library.strictHost.execute fuel) s).1.ending = .returned

/-- The host of a library is composed. -/
lemma composed_host (library : HostLibrary) : library.host.Composed where
  command fuel package args instructions :=
    (library.command fuel package args instructions).composed_run
  callback fuel callback := (library.callback fuel callback).composed_run

/-- Bodies do the same if the code is stopped where it crashes, unless they then come to no end. -/
lemma refines_runBody (library : HostLibrary) (fuel : Nat) {first second : Exec}
    (hexec : first.Pairwise Refines second) (package : String) (args : Arguments) (body : Body) :
    (library.strictHost.runBody fuel first package args body).Refines
      (library.host.runBody fuel second package args body) := by
  rcases body.eq_program_or_ne with ⟨instructions, rfl⟩ | hne
  · exact (library.command fuel package args instructions).refines hexec
  · have hregular : Routine.Regular False fun exec =>
        library.host.runBody fuel exec package args body :=
      Routine.regular_runBody_of_ne library.host fuel package args hne
    rw [Host.runBody_of_ne library.strictHost library.host fuel first package args hne]
    exact hregular.composed.refines hexec

/-- Calls do the same if the code is stopped where it crashes, unless they then come to no end. -/
theorem refines_execute (library : HostLibrary) (fuel : Nat) :
    (library.strictHost.execute fuel).Pairwise Refines (library.host.execute fuel) := by
  refine Host.pairwise_execute (fun s _ => rfl) (fun fuel first second hexec name args => ?_)
    (fun fuel first second hexec callback => ?_) fuel
  · rw [Host.dispatch_eq, Host.dispatch_eq]
    have hget : Refines get get := fun s _ => rfl
    refine hget.bind fun s _ => ?_
    have hresolve : Refines (ofExcept (resolveCall s name args))
        (ofExcept (resolveCall s name args)) := fun s _ => rfl
    refine hresolve.bind fun ⟨package, command, arguments⟩ _ => ?_
    have hbody := library.refines_runBody fuel hexec package.name arguments command.body
    exact (hbody.guarded .call).bind fun result _ => fun s _ => rfl
  · exact (library.callback _ callback).refines hexec

variable {treat : ∀ {α : Type}, Engine α → Engine α} {R : Ending → Session → Session → Prop}
  {exec : Exec}

/-- What holds of guarded code and of the calls holds of a disciplined body. -/
lemma Guarded.satisfies_runBody (hl : library.Guarded) (h : ReadingLaw treat R)
    (hexec : exec.Every (Satisfies R)) (fuel : Nat) (package : String) (args : Arguments)
    {body : Body} (hbody : body.isDisciplined = true) :
    ((library.read treat).runBody fuel exec package args body).Satisfies R := by
  rcases body.eq_program_or_ne with ⟨instructions, rfl⟩ | hne
  · exact (hl.command fuel package args instructions hbody).satisfies h hexec
  · have hregular : Routine.Regular False fun exec =>
        (library.read treat).runBody fuel exec package args body :=
      Routine.regular_runBody_of_ne (library.read treat) fuel package args hne
    exact hregular.composed.satisfies h.law hexec

/-- So it holds of a call, since a disciplined session has disciplined commands. -/
lemma Guarded.satisfies_dispatch (hl : library.Guarded) (h : ReadingLaw treat R)
    (hexec : exec.Every (Satisfies R)) (fuel : Nat) (name : String) (args : List String) :
    ((library.read treat).dispatch fuel exec name args).Satisfies R := by
  intro s
  by_cases hs : s.Disciplined
  · cases hresolve : resolveCall s name args with
    | error e =>
      have hdispatch : (library.read treat).dispatch fuel exec name args s = (.failed e, s) := by
        simp only [Host.dispatch, hresolve]
      rw [hdispatch]
      exact h.law.of_alike (.refl s) (by simp [Outcome.ending])
    | ok resolved =>
      obtain ⟨package, command, arguments⟩ := resolved
      have hdispatch : (library.read treat).dispatch fuel exec name args s =
          (Guard.call.run ((library.read treat).runBody fuel exec package.name arguments
            command.body) >>= receive) s := by
        simp only [Host.dispatch, hresolve]
        rfl
      have hbody := hl.satisfies_runBody h hexec fuel package.name arguments
        (hs.body_of_resolve? (resolve?_of_resolveCall hresolve))
      have hcall := hbody.guarded .call (fun s => h.law.of_alike (.refl s) (by decide))
        h.law.guarded
      have hreceive : ∀ result, (receive result).Satisfies R := fun result =>
        (Routine.composed_receive result).satisfies h.law hexec
      rw [hdispatch]
      exact hcall.bind h.law.trans (fun result _ => hreceive result) s
  · exact h.undisciplined hs

/-- It holds of all calls, and therefore of all guarded code. -/
theorem Guarded.satisfies (hl : library.Guarded) (h : ReadingLaw treat R) (fuel : Nat)
    {code : HostCode α} (hcode : code.Guarded) :
    (code.read treat ((library.read treat).execute fuel)).Satisfies R := by
  refine hcode.satisfies h (Host.every_execute (fun s => ?_) (fun fuel exec hexec name args => ?_)
    (fun fuel exec hexec callback => ?_) fuel)
  · exact h.law.of_alike (.refl s) (by simp [halt, Outcome.ending])
  · exact hl.satisfies_dispatch h hexec fuel name args
  · exact (hl.callback fuel callback).satisfies h hexec

/-- A run in which nothing crashes is the same if the code is stopped where it crashes. -/
lemma CrashFree.eq {fuel : Nat} {code : HostCode α} {s : Session}
    (h : library.CrashFree fuel code s) : code.run (library.host.execute fuel) s =
      code.strict (library.strictHost.execute fuel) s := by
  refine code.refines (library.refines_execute fuel) s ?_
  rw [h]
  decide

end HostLibrary

/-! ### The standard host -/

/-- Whether an instruction crashes, or sets a mark or a guard by itself. -/
def Instruction.isLoose : Instruction → Bool
  | .crash _ => true
  | instruction => !instruction.isDisciplined

namespace HostCode

open Engine

variable {package : String} {args : Arguments} {instruction : Instruction}

/-- The program goes on with the session that an action left. -/
lemma goOn_session (action : Engine Unit) (s : Session) :
    (perform.goOn action s).2 = (action s).2 := by
  change (Engine.bind action _ s).2 = _
  unfold Engine.bind
  rcases action s with ⟨a | e | p | r, t⟩ <;> rfl

/-- A loose instruction is a single step. -/
lemma step_of_isLoose (h : instruction.isLoose = true) (s : Session) :
    s.Step True (perform Host.exhausted package args instruction s).2 := by
  cases instruction with
  | crash payload => exact (Session.Alike.refl s).step
  | beginTemporary =>
    unfold perform
    rw [goOn_session, attempt_apply]
    cases hbegin : s.scopes.beginTemporary with
    | error e => exact (Session.Alike.refl s).step
    | ok begun =>
      have hscopes : s.scopes.Step True begun.2 := .temporaryBegun trivial hbegin
      exact .of_packages (.active s.memory s.memory.active) hscopes rfl rfl rfl
  | beginGlobal =>
    have hscopes : s.scopes.Step True s.scopes.beginGlobal.2 := .globalBegun trivial s.scopes
    exact .of_packages (.active s.memory s.memory.active) hscopes rfl rfl rfl
  | _ => cases h

/-- Any other instruction is composed. -/
lemma composed_of_not_isLoose (h : ¬ instruction.isLoose = true) :
    Routine.Composed False fun exec => perform exec package args instruction := by
  refine Routine.composed_perform package args (.inr ?_) (.inr fun payload heq => ?_)
  · cases instruction with
    | beginTemporary => exact absurd rfl h
    | beginGlobal => exact absurd rfl h
    | _ => rfl
  · exact h (heq ▸ rfl)

/-- What an instruction does.  Loose ones are steps of their own. -/
def ofInstruction (package : String) (args : Arguments) (instruction : Instruction) :
    HostCode (Option Item) :=
  if h : instruction.isLoose = true then
    .step (perform Host.exhausted package args instruction) (step_of_isLoose h)
  else .interpreted (fun exec => perform exec package args instruction) (composed_of_not_isLoose h)

/-- What the instructions of a program do, one after the other, until one of them gives a value. -/
def ofProgram (package : String) (args : Arguments) : List Instruction → HostCode (Option Item)
  | [] => .value none
  | instruction :: rest => .sequence (ofInstruction package args instruction) fun result =>
    result.elim (ofProgram package args rest) fun item => .value (some item)

/-- An instruction does what it says. -/
lemma run_ofInstruction (exec : Exec) :
    (ofInstruction package args instruction).run exec = perform exec package args instruction := by
  unfold ofInstruction
  split
  · next h =>
    cases instruction with
    | crash payload => rfl
    | beginTemporary => rfl
    | beginGlobal => rfl
    | _ => cases h
  · rfl

/-- A program does what it says. -/
lemma run_ofProgram (exec : Exec) (instructions : List Instruction) :
    (ofProgram package args instructions).run exec =
      runProgram exec package args instructions := by
  induction instructions with
  | nil => rfl
  | cons instruction rest ih =>
    rw [runProgram_cons, ← run_ofInstruction exec]
    refine congrArg ((ofInstruction package args instruction).run exec >>= ·) (funext fun result => ?_)
    cases result with
    | none => exact ih
    | some item => rfl

/-- A disciplined program is guarded. -/
lemma guarded_ofProgram {instructions : List Instruction}
    (h : instructions.all Instruction.isDisciplined = true) :
    (ofProgram package args instructions).Guarded := by
  induction instructions with
  | nil => trivial
  | cons instruction rest ih =>
    rw [List.all_cons, Bool.and_eq_true] at h
    obtain ⟨hfirst, hrest⟩ := h
    refine ⟨?_, fun result => ?_⟩
    · unfold ofInstruction
      split
      · next hloose =>
        cases instruction with
        | crash payload => exact fun s => (Session.Alike.refl s).step
        | beginTemporary => cases hfirst
        | beginGlobal => cases hfirst
        | _ => cases hloose
      · trivial
    · cases result with
      | none => exact ih hrest
      | some item => trivial

end HostCode

namespace HostLibrary

open Engine

/-- The code of the standard host. -/
def standard : HostLibrary where
  command _ package args instructions := .ofProgram package args instructions
  callback _ callback := .interpreted (fun _ => runCallback callback)
    (Routine.regular_runCallback callback).composed

/-- It does what the standard host does. -/
theorem host_standard : standard.host = Host.standard := by
  have hcommand : standard.host.command = Host.standard.command := by
    funext _ exec package args instructions
    exact HostCode.run_ofProgram exec instructions
  have hcallback : standard.host.callback = Host.standard.callback := rfl
  exact congrArg₂ Host.mk hcommand hcallback

/-- It leaves marks and guards to the guarded runs, as far as its programs are disciplined. -/
theorem guarded_standard : standard.Guarded where
  command _ _ _ _ h := HostCode.guarded_ofProgram h
  callback _ _ := trivial

end HostLibrary

end LineShell
