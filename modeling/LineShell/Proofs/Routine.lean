import LineShell.Proofs.Change
import LineShell.Proofs.Discipline

/-!
# Routines

A *routine* is an action that calls commands through a parameter: all of the interpreter is written
in this way, and so is the code of a host that works on a session.  `Routine.Composed` singles out
the routines that are put together from single steps, calls of commands, sequencing, the handling of
errors, and the guarded, supervised and captured runs.  What a single step can do to a session is
said once, by `Session.Step`.

`Routine.Composed.satisfies` is the rule by which a property of all runs is derived.  A property is
a relation between the sessions before and after a run, which may depend on how the run ended; if it
holds of single steps and is respected by the ways of putting routines together (`Engine.Law`), and
the calls of commands have it, then every composed routine has it.
-/

namespace LineShell

/-! ### Single steps -/

/-- What a single step can do to the frames. -/
inductive Memory.Step : Memory → Memory → Prop
  | active (memory : Memory) (active : Stack) : Step memory { memory with active }
  | opened (memory : Memory) : Step memory memory.openFrame
  | closed {memory rest : Memory} {top : Stack} (h : memory.closeFrame = .ok (top, rest)) :
      Step memory rest

/-- What a single step can do to the scopes.  Only a `loose` one sets a mark or a guard by itself,
or takes a guard away. -/
inductive Scopes.Step (loose : Prop) : Scopes → Scopes → Prop
  | active (scopes : Scopes) (f : Scope → Scope) : Step loose scopes (scopes.modifyActive f)
  | global (scopes : Scopes) (global : Scope) : Step loose scopes { scopes with global }
  | entered {scopes next : Scopes} (h : scopes.enterScope = .ok next) : Step loose scopes next
  | exited {scopes next : Scopes} (h : scopes.exitScope = .ok next) : Step loose scopes next
  | globalEntered {scopes next : Scopes} (h : scopes.enterGlobal = .ok next) :
      Step loose scopes next
  | globalExited {scopes next : Scopes} (h : scopes.exitGlobal = .ok next) : Step loose scopes next
  | temporaryBegun (hl : loose) {scopes next : Scopes} {mark : TemporaryMark}
      (h : scopes.beginTemporary = .ok (mark, next)) : Step loose scopes next
  | globalBegun (hl : loose) (scopes : Scopes) : Step loose scopes scopes.beginGlobal.2
  | globalEnded (hl : loose) (scopes : Scopes) (wasGlobal : Bool) :
      Step loose scopes (scopes.endGlobal wasGlobal)

namespace Session

/-- Two sessions that differ only in what no guard depends on: output, macros, settings, jobs. -/
structure Alike (s t : Session) : Prop where
  memory : t.memory = s.memory
  scopes : t.scopes = s.scopes
  depth : t.depth = s.depth
  packages : t.packages = s.packages
  registry : t.registry = s.registry

/-- What a single step can do to a session.  A step that is not `loose` brings in disciplined
commands only. -/
structure Step (loose : Prop) (s t : Session) : Prop where
  memory : s.memory.Step t.memory
  scopes : s.scopes.Step loose t.scopes
  depth : t.depth = s.depth
  disciplined : loose ∨ (s.Disciplined → t.Disciplined)

variable {loose : Prop} {s t : Session}

/-- A session is like itself. -/
lemma Alike.refl (s : Session) : s.Alike s := ⟨rfl, rfl, rfl, rfl, rfl⟩

end Session

/-- The scopes may stay as they are. -/
lemma Scopes.Step.refl (loose : Prop) (scopes : Scopes) : scopes.Step loose scopes :=
  .global scopes scopes.global

/-- A step of the scopes may be taken as a looser one. -/
lemma Scopes.Step.mono {loose loose' : Prop} (hl : loose → loose') {scopes next : Scopes}
    (h : scopes.Step loose next) : scopes.Step loose' next := by
  cases h with
  | active _ f => exact .active _ f
  | global _ global => exact .global _ global
  | entered h => exact .entered h
  | exited h => exact .exited h
  | globalEntered h => exact .globalEntered h
  | globalExited h => exact .globalExited h
  | temporaryBegun h hbegun => exact .temporaryBegun (hl h) hbegun
  | globalBegun h => exact .globalBegun (hl h) _
  | globalEnded h _ wasGlobal => exact .globalEnded (hl h) _ wasGlobal

/-- A step may be taken as a looser one. -/
lemma Session.Step.mono {loose loose' : Prop} (hl : loose → loose') {s t : Session}
    (h : s.Step loose t) : s.Step loose' t :=
  ⟨h.memory, h.scopes.mono hl, h.depth, h.disciplined.imp_left hl⟩

/-- A step that leaves the packages alone. -/
lemma Session.Step.of_packages {loose : Prop} {s t : Session} (hm : s.memory.Step t.memory)
    (hs : s.scopes.Step loose t.scopes) (hd : t.depth = s.depth) (hp : t.packages = s.packages)
    (hr : t.registry = s.registry) : s.Step loose t :=
  ⟨hm, hs, hd, .inr fun h => h.of_eq hp hr⟩

/-- A step that leaves everything alone that guards depend on. -/
lemma Session.Alike.step {loose : Prop} {s t : Session} (h : s.Alike t) : s.Step loose t := by
  refine .of_packages ?_ ?_ h.depth h.packages h.registry
  · rw [h.memory]
    exact .active s.memory s.memory.active
  · rw [h.scopes]
    exact .refl loose s.scopes

/-! ### Endings -/

/-- The three ways in which a run ends: with a value or an error, with a crash, or not at all. -/
inductive Ending
  | returned
  | crashed
  | halted
  deriving DecidableEq, Repr

/-- How a run with this outcome ended. -/
def Outcome.ending {α : Type} : Outcome α → Ending
  | .done _ => .returned
  | .failed _ => .returned
  | .crashed _ => .crashed
  | .halted _ => .halted

/-! ### Guards -/

/-- The guards that are taken back when the run under them returns. -/
inductive Guard
  | isolation
  | scope
  | global
  | call
  deriving DecidableEq, Repr

namespace Guard

/-- The session in which the run under a guard begins, and how the guard is taken back. -/
def opens : Guard → Session → Except Error (Session × (Session → Session))
  | .isolation, s =>
    .ok ({ s with memory := s.memory.enterIsolated.2 },
      fun t => { t with memory := t.memory.leaveIsolated s.memory.depth })
  | .scope, s =>
    match s.scopes.beginTemporary with
    | .error e => .error e
    | .ok (mark, scopes) =>
      .ok ({ s with scopes }, fun t => { t with scopes := t.scopes.endTemporary mark })
  | .global, s =>
    .ok ({ s with scopes := s.scopes.beginGlobal.2 },
      fun t => { t with scopes := t.scopes.endGlobal s.scopes.globalActive })
  | .call, s =>
    .ok ({ s with depth := s.depth + 1 }, fun t => { t with depth := t.depth - 1 })

/-- Runs an action under a guard. -/
def run {α : Type} (guard : Guard) (action : Engine α) : Engine α := fun s =>
  match guard.opens s with
  | .error e => (.failed e, s)
  | .ok (t, close) => action.cleanup close t

/-- A temporary scope that is opened has a mark, which is used to leave it. -/
lemma scope_opens_eq_ok {s t : Session} {close : Session → Session}
    (h : Guard.scope.opens s = .ok (t, close)) :
    ∃ mark scopes, s.scopes.beginTemporary = .ok (mark, scopes) ∧ t = { s with scopes } ∧
      close = fun u => { u with scopes := u.scopes.endTemporary mark } := by
  simp only [opens] at h
  cases hbegin : s.scopes.beginTemporary with
  | error e => simp [hbegin] at h
  | ok begun =>
    rw [hbegin] at h
    cases h
    exact ⟨begun.1, begun.2, rfl, rfl, rfl⟩

/-- A call is counted as active while its body runs. -/
lemma call_opens (s : Session) : Guard.call.opens s =
    .ok ({ s with depth := s.depth + 1 }, fun t => { t with depth := t.depth - 1 }) := rfl

/-- A run under a guard ends as the action does; the guard is taken back if the action returned. -/
lemma run_of_opens {α : Type} {guard : Guard} {s t : Session} {close : Session → Session}
    (h : guard.opens s = .ok (t, close)) (action : Engine α) :
    guard.run action s = ((action t).1,
      if (action t).1.ending = .returned then close (action t).2 else (action t).2) := by
  unfold run
  rw [h]
  simp only [Engine.cleanup]
  rcases action t with ⟨a | e | p | r, u⟩ <;> simp [Outcome.ending]

end Guard

namespace Engine

variable {α β : Type}

/-- Runs an action, and another one on its error if it fails. -/
def handle (action : Engine α) (handler : Error → Engine α) : Engine α := fun s =>
  match action s with
  | (.failed e, t) => handler e t
  | ended => ended

/-- An isolated run is a run under a guard. -/
lemma isolated_eq_run (action : Engine α) : isolated action = Guard.isolation.run action := rfl

/-- A run in a temporary scope is a run under a guard. -/
lemma temporaryScope_eq_run (action : Engine α) :
    temporaryScope action = Guard.scope.run action := by
  funext s
  simp only [temporaryScope, Guard.run, Guard.opens]
  cases s.scopes.beginTemporary with
  | error e => rfl
  | ok opened => rfl

end Engine

/-! ### Routines -/

/-- An action, given the way in which the interpreter is called back. -/
abbrev Routine (α : Type) : Type := Exec → Engine α

/-- All calls, of commands and of the host program, have a property. -/
structure Exec.Every (P : ∀ {α : Type}, Engine α → Prop) (exec : Exec) : Prop where
  command : ∀ name args, P (exec name args)
  callback : ∀ callback, P (exec.callback callback)

/-- All calls of the first kind are in a relation to those of the second kind. -/
structure Exec.Pairwise (P : ∀ {α : Type}, Engine α → Engine α → Prop) (first second : Exec) :
    Prop where
  command : ∀ name args, P (first name args) (second name args)
  callback : ∀ callback, P (first.callback callback) (second.callback callback)

/-- Whether a routine can return a value, with some way of calling commands and in some session. -/
def Routine.Returns {α : Type} (routine : Routine α) (a : α) : Prop :=
  ∃ exec s t, routine exec s = (.done a, t)

/-- The routines that are put together from steps and calls.  Those that are not `loose` neither
crash by themselves nor set marks and guards other than by guarded runs. -/
inductive Routine.Composed (loose : Prop) : {α : Type} → Routine α → Prop
  | call (name : String) (args : List String) : Composed loose fun exec => exec name args
  | callback (callback : Callback) : Composed loose fun exec => exec.callback callback
  | leaf {α : Type} {action : Engine α} (step : ∀ s : Session, s.Step loose (action s).2)
      (crash : loose ∨ ∀ s, (action s).1.ending ≠ .crashed) : Composed loose fun _ => action
  | sequence {α β : Type} {first : Routine α} {next : Exec → α → Engine β}
      (hfirst : Composed loose first)
      (hnext : ∀ a, Routine.Returns first a → Composed loose fun exec => next exec a) :
      Composed loose fun exec => first exec >>= next exec
  | handle {α : Type} {body : Routine α} {handler : Exec → Error → Engine α}
      (hbody : Composed loose body) (hhandler : ∀ e, Composed loose fun exec => handler exec e) :
      Composed loose fun exec => (body exec).handle (handler exec)
  | guarded (guard : Guard) {α : Type} {body : Routine α} (hbody : Composed loose body) :
      Composed loose fun exec => guard.run (body exec)
  | supervised (source : String) {body : Routine Unit} (hbody : Composed loose body) :
      Composed loose fun exec => Engine.supervise source (body exec)
  | captured {body : Routine Bool} (hbody : Composed loose body) :
      Composed loose fun exec => Engine.capture (body exec)
  | job (name : String) (args : List String) :
      Composed loose fun exec => Engine.startJob exec name args

/-! ### Properties of all runs -/

namespace Engine

variable {α β : Type} {loose : Prop} {R : Ending → Session → Session → Prop}

/-- A relation between the sessions before and after a run, for each way of ending, that holds of
single steps and is respected by all the ways of putting routines together. -/
structure Law (loose : Prop) (R : Ending → Session → Session → Prop) : Prop where
  leaf : ∀ {e : Ending} {s t : Session}, s.Step loose t → (e = .crashed → loose) → R e s t
  trans : ∀ {e : Ending} {s t u : Session}, R .returned s t → R e t u → R e s u
  alike : ∀ {e : Ending} {s t u : Session}, R e s t → t.Alike u → R e s u
  guarded : ∀ {e : Ending} {s t u : Session} {guard : Guard} {close : Session → Session},
    guard.opens s = .ok (t, close) → R e t u → R e s (if e = .returned then close u else u)
  contained : ∀ {s t : Session}, R .crashed s t → R .returned s (t.restore s.checkpoint)

/-- All runs of an action have a property. -/
def Satisfies (R : Ending → Session → Session → Prop) (action : Engine α) : Prop :=
  ∀ s, R (action s).1.ending s (action s).2

/-- A run that leaves the session as it was, up to output and the like. -/
lemma Law.of_alike (law : Law loose R) {e : Ending} {s t : Session} (h : s.Alike t)
    (he : e ≠ .crashed) : R e s t :=
  law.leaf h.step fun hc => absurd hc he

/-- A run that changes nothing but the output and the jobs. -/
lemma Law.output (law : Law loose R) {e : Ending} (s : Session) (out err : String)
    (jobs : JobTable) (he : e ≠ .crashed) : R e s { s with out, err, jobs } :=
  law.of_alike ⟨rfl, rfl, rfl, rfl, rfl⟩ he

/-- After a run the output and the jobs may be changed. -/
lemma Law.written (law : Law loose R) {e : Ending} {s t : Session} (out err : String)
    (jobs : JobTable) (h : R e s t) : R e s { t with out, err, jobs } :=
  law.alike h ⟨rfl, rfl, rfl, rfl, rfl⟩

/-- One action after another. -/
lemma Satisfies.bind
    (htrans : ∀ {e : Ending} {s t u : Session}, R .returned s t → R e t u → R e s u)
    {first : Engine α} {next : α → Engine β} (hfirst : first.Satisfies R)
    (hnext : ∀ a, (∃ s t, first s = (.done a, t)) → (next a).Satisfies R) :
    (first >>= next).Satisfies R := by
  intro s
  have h := hfirst s
  change R (Engine.bind first next s).1.ending s (Engine.bind first next s).2
  unfold Engine.bind
  rcases hrun : first s with ⟨a | e | p | r, t⟩ <;> rw [hrun] at h
  · exact htrans h (hnext a ⟨s, t, hrun⟩ t)
  · exact h
  · exact h
  · exact h

/-- An action and what is done on its error. -/
lemma Satisfies.handle
    (htrans : ∀ {e : Ending} {s t u : Session}, R .returned s t → R e t u → R e s u)
    {body : Engine α} {handler : Error → Engine α} (hbody : body.Satisfies R)
    (hhandler : ∀ e, (handler e).Satisfies R) : (body.handle handler).Satisfies R := by
  intro s
  have h := hbody s
  unfold Engine.handle
  rcases hrun : body s with ⟨a | e | p | r, t⟩ <;> rw [hrun] at h
  · exact h
  · exact htrans h (hhandler e t)
  · exact h
  · exact h

/-- An action under a guard. -/
lemma Satisfies.guarded (guard : Guard) (hrefused : ∀ s, R .returned s s)
    (hguarded : ∀ {e : Ending} {s t u : Session} {close : Session → Session},
      guard.opens s = .ok (t, close) → R e t u → R e s (if e = .returned then close u else u))
    {body : Engine α} (hbody : body.Satisfies R) : (guard.run body).Satisfies R := by
  intro s
  cases hopen : guard.opens s with
  | error e =>
    have hrun : guard.run body s = (.failed e, s) := by simp [Guard.run, hopen]
    rw [hrun]
    exact hrefused s
  | ok opened =>
    obtain ⟨t, close⟩ := opened
    rw [Guard.run_of_opens hopen]
    exact hguarded hopen (hbody t)

/-- A failure that is reported changes nothing but the report. -/
lemma alike_errorLine (s : Session) (text : String) : s.Alike (s.errorLine text) := by
  unfold Session.errorLine
  split
  · exact ⟨rfl, rfl, rfl, rfl, rfl⟩
  · exact .refl s

/-- An action under supervision. -/
lemma Satisfies.supervised
    (hreport : ∀ {e : Ending} {s t : Session} (text : String), R e s t → R e s (t.errorLine text))
    (hcontained : ∀ {s t : Session}, R .crashed s t → R .returned s (t.restore s.checkpoint))
    (source : String) {body : Engine Unit} (hbody : body.Satisfies R) :
    (supervise source body).Satisfies R := by
  intro s
  have h := hbody s
  unfold supervise
  rcases hrun : body s with ⟨a | e | p | r, t⟩ <;> rw [hrun] at h
  · exact h
  · exact hreport _ h
  · exact hreport _ (hcontained h)
  · exact h

/-- An action whose output is kept apart. -/
lemma Satisfies.captured
    (htrans : ∀ {e : Ending} {s t u : Session}, R .returned s t → R e t u → R e s u)
    (houtput : ∀ {e : Ending} (s : Session) (out err : String) (jobs : JobTable),
      e ≠ .crashed → R e s { s with out, err, jobs })
    (hwritten : ∀ {e : Ending} {s t : Session} (out err : String) (jobs : JobTable),
      R e s t → R e s { t with out, err, jobs })
    {body : Engine Bool} (hbody : body.Satisfies R) : (capture body).Satisfies R := by
  intro s
  have hstart : R .returned s { s with out := "", err := "" } :=
    houtput s "" "" s.jobs (by decide)
  have h := htrans hstart (hbody { s with out := "", err := "" })
  unfold capture
  rcases hrun : body { s with out := "", err := "" } with ⟨a | e | p | r, t⟩ <;> rw [hrun] at h
  · exact hwritten s.out s.err (t.jobs.joinFrom s.jobs.nextId).2 h
  all_goals exact hwritten s.out s.err t.jobs h

/-- Starting a job touches the table of jobs only, and does not crash, whatever the job does. -/
lemma exists_startJob_eq (exec : Exec) (name : String) (args : List String) (s : Session) :
    ∃ outcome jobs, startJob exec name args s = (outcome, { s with jobs }) ∧
      outcome.ending ≠ .crashed := by
  rw [startJob]
  cases threadFault? s.maxDepth with
  | some fault => exact ⟨.failed (.thread fault), s.jobs.skip, rfl, by simp [Outcome.ending]⟩
  | none =>
    rcases supervise name (exec name args) { s.fork with out := "", err := "" } with
      ⟨a | e | p | r, child⟩
    · exact ⟨_, _, rfl, by simp [Outcome.ending]⟩
    · exact ⟨_, _, rfl, by simp [Outcome.ending]⟩
    · exact ⟨_, _, rfl, by simp [Outcome.ending]⟩
    · exact ⟨.halted r, s.jobs, rfl, by simp [Outcome.ending]⟩

/-- Starting a job. -/
lemma Satisfies.job
    (houtput : ∀ {e : Ending} (s : Session) (out err : String) (jobs : JobTable),
      e ≠ .crashed → R e s { s with out, err, jobs })
    (exec : Exec) (name : String) (args : List String) :
    (startJob exec name args).Satisfies R := by
  intro s
  obtain ⟨outcome, jobs, hstart, hended⟩ := exists_startJob_eq exec name args s
  rw [hstart]
  exact houtput s s.out s.err jobs hended

end Engine

namespace Routine

variable {α : Type} {loose : Prop} {R : Ending → Session → Session → Prop}

/-- A composed routine may be taken as a looser one. -/
lemma Composed.mono {loose' : Prop} (hl : loose → loose') {routine : Routine α}
    (h : Composed loose routine) : Composed loose' routine := by
  induction h with
  | call name args => exact .call name args
  | callback callback => exact .callback callback
  | leaf step crash => exact .leaf (fun s => (step s).mono hl) (crash.imp_left hl)
  | sequence _ _ ihfirst ihnext => exact .sequence ihfirst ihnext
  | handle _ _ ihbody ihhandler => exact .handle ihbody ihhandler
  | guarded guard _ ih => exact .guarded guard ih
  | supervised source _ ih => exact .supervised source ih
  | captured _ ih => exact .captured ih
  | job name args => exact .job name args

/-- If all calls have a property that is respected by all ways of putting routines together, then
all composed routines have it. -/
theorem Composed.satisfies (law : Engine.Law loose R) {exec : Exec}
    (hexec : exec.Every (Engine.Satisfies R)) {routine : Routine α}
    (h : Composed loose routine) : (routine exec).Satisfies R := by
  induction h with
  | call name args => exact hexec.command name args
  | callback callback => exact hexec.callback callback
  | leaf step crash =>
    intro s
    refine law.leaf (step s) fun hc => ?_
    rcases crash with hl | hne
    · exact hl
    · exact absurd hc (hne s)
  | sequence _ _ ihfirst ihnext =>
    refine ihfirst.bind law.trans fun a ha => ihnext a ?_
    obtain ⟨s, t, hrun⟩ := ha
    exact ⟨exec, s, t, hrun⟩
  | handle _ _ ihbody ihhandler => exact ihbody.handle law.trans ihhandler
  | guarded guard _ ih =>
    exact ih.guarded guard (fun s => law.of_alike (.refl s) (by decide)) law.guarded
  | supervised source _ ih =>
    exact ih.supervised (fun text h => law.alike h (Engine.alike_errorLine _ text)) law.contained
      source
  | captured _ ih => exact ih.captured law.trans law.output law.written
  | job name args => exact Engine.Satisfies.job law.output exec name args

end Routine

end LineShell
