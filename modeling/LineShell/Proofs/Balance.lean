import LineShell.Proofs.HostCode
import LineShell.Proofs.Shelter

/-!
# Balance

In a disciplined session every floor, every mark, every guard and every count of an active call is
set by a run that takes it back when it returns.  So guarded code of the host program, and with it a
call, the expansion of a call, a line and a script, leave all of them as they were, whether they
succeed or fail, provided that nothing crashes.

The proof goes through the strict reading of the code.  `Engine.law_balanced` shows that balance is
respected by all ways of putting routines together, `Engine.readingLaw_balanced` that it holds of
the steps of guarded code if they are stopped where they crash; and a run in which nothing crashes
is not stopped.  Discipline is kept by all runs, also by those that crash
(`Engine.readingLaw_disciplined`), so all sessions that come up with a guarded program are
disciplined (`HostLibrary.Reached.disciplined`).
-/

namespace LineShell

namespace Session

variable {s t u : Session}

/-- The floors, the marks, the guards and the number of active calls are the same. -/
structure Balanced (s t : Session) : Prop where
  floors : t.memory.floors = s.memory.floors
  marks : t.scopes.marks = s.scopes.marks
  guards : t.scopes.guards = s.scopes.guards
  depth : t.depth = s.depth

/-- One balanced run after another is balanced. -/
lemma Balanced.trans (h : s.Balanced t) (h' : t.Balanced u) : s.Balanced u :=
  ⟨h'.floors.trans h.floors, h'.marks.trans h.marks, h'.guards.trans h.guards,
    h'.depth.trans h.depth⟩

end Session

/-! ### Single steps -/

/-- A step leaves the floors alone. -/
lemma Memory.Step.floors_eq {m n : Memory} (h : m.Step n) : n.floors = m.floors := by
  cases h with
  | active active => rfl
  | opened => rfl
  | closed h =>
    unfold closeFrame at h
    split at h
    · cases h
    · cases hbelow : m.below with
      | nil => simp [hbelow] at h
      | cons next below =>
        rw [hbelow] at h
        cases h
        rfl

/-- A step that is not `loose` leaves the marks and the guards alone. -/
lemma Scopes.Step.marks_guards_eq {sc next : Scopes} (h : sc.Step False next) :
    next.marks = sc.marks ∧ next.guards = sc.guards := by
  cases h with
  | active _ f =>
    unfold modifyActive
    split <;> exact ⟨rfl, rfl⟩
  | global _ global => exact ⟨rfl, rfl⟩
  | entered h =>
    obtain ⟨-, rfl⟩ := enterScope_eq_ok h
    exact ⟨rfl, rfl⟩
  | exited h =>
    obtain ⟨-, -, inner, outer, -, rfl⟩ := exitScope_eq_ok h
    exact ⟨rfl, rfl⟩
  | globalEntered h =>
    unfold enterGlobal at h
    split at h <;> cases h
    exact ⟨rfl, rfl⟩
  | globalExited h =>
    unfold exitGlobal at h
    split at h
    · cases h
    · split at h <;> cases h
      exact ⟨rfl, rfl⟩
  | temporaryBegun hl h => exact hl.elim
  | globalBegun hl => exact hl.elim
  | globalEnded hl wasGlobal => exact hl.elim

namespace Session

variable {s t u : Session}

/-- A step that is not `loose` is balanced. -/
lemma Step.balanced (h : s.Step False t) : s.Balanced t := by
  obtain ⟨hmarks, hguards⟩ := h.scopes.marks_guards_eq
  exact ⟨h.memory.floors_eq, hmarks, hguards, h.depth⟩

/-- What no guard depends on is nothing to balance. -/
lemma Alike.balanced (h : s.Alike t) : s.Balanced t :=
  ⟨congrArg Memory.floors h.memory, congrArg Scopes.marks h.scopes,
    congrArg Scopes.guards h.scopes, h.depth⟩

/-- Setting a guard touches no package. -/
lemma packages_of_opens {guard : Guard} {close : Session → Session}
    (h : guard.opens s = .ok (t, close)) :
    (t.packages = s.packages ∧ t.registry = s.registry) ∧
      ∀ u, (close u).packages = u.packages ∧ (close u).registry = u.registry := by
  cases guard with
  | scope =>
    obtain ⟨mark, scopes, -, rfl, rfl⟩ := Guard.scope_opens_eq_ok h
    exact ⟨⟨rfl, rfl⟩, fun _ => ⟨rfl, rfl⟩⟩
  | isolation | global | call =>
    cases h
    exact ⟨⟨rfl, rfl⟩, fun _ => ⟨rfl, rfl⟩⟩

/-- A guard that is taken back after a balanced run leaves all in balance. -/
lemma balanced_close {guard : Guard} {close : Session → Session} (hs : s.Sound)
    (h : guard.opens s = .ok (t, close)) (hext : t.Extends u) (hb : t.Balanced u) :
    s.Balanced (close u) := by
  cases guard with
  | isolation =>
    cases h
    have hback : u.memory.leaveIsolated s.memory.depth = s.memory :=
      Memory.leaveIsolated_eq hs.memory hext.memory
    exact ⟨congrArg Memory.floors hback, hb.marks, hb.guards, hb.depth⟩
  | scope =>
    obtain ⟨mark, scopes, hbegin, rfl, rfl⟩ := Guard.scope_opens_eq_ok h
    obtain ⟨-, hmarks, -⟩ := Scopes.endTemporary_eq hs.scopes hbegin hext.scopes
    obtain ⟨-, -, rfl⟩ := Scopes.beginTemporary_eq_ok hbegin
    have hguards := (u.scopes.guards_endTemporary mark).trans hb.guards
    exact ⟨hb.floors, hmarks, hguards, hb.depth⟩
  | global =>
    cases h
    exact ⟨hb.floors, hb.marks, congrArg (· - 1) hb.guards, hb.depth⟩
  | call =>
    cases h
    exact ⟨hb.floors, hb.marks, hb.guards, congrArg (· - 1) hb.depth⟩

/-- The sessions in which balance is kept: the sound and disciplined ones. -/
structure Orderly (s : Session) : Prop where
  sound : s.Sound
  disciplined : s.Disciplined

/-- What a run without crashes does to an orderly session: if it returns, the session is extended in
balance, and still disciplined. -/
def Settles : Ending → Session → Session → Prop
  | .returned, s, t => s.Orderly → s.Extends t ∧ s.Balanced t ∧ t.Disciplined
  | .crashed, s, _ => ¬ s.Orderly
  | .halted, _, _ => True

/-- The session stays orderly. -/
lemma Settles.orderly (h : Settles .returned s t) (hs : s.Orderly) : t.Orderly :=
  ⟨(h hs).1.sound, (h hs).2.2⟩

/-- Nothing is said of other sessions. -/
lemma settles_of_not_orderly {e : Ending} (h : ¬ s.Orderly) : Settles e s t := by
  cases e with
  | returned => exact fun hs => absurd hs h
  | crashed => exact h
  | halted => trivial

end Session

/-! ### Runs -/

namespace Engine

open Session

/-- Balance is respected by all ways of putting together routines that are not `loose`. -/
lemma law_balanced : Law False Settles where
  leaf {e s t} hstep hcrash := by
    cases e with
    | returned =>
      intro hs
      refine ⟨?_, hstep.balanced, hstep.disciplined.resolve_left not_false hs.disciplined⟩
      exact ⟨hstep.memory.extends hs.sound.memory, hstep.scopes.extends hs.sound.scopes⟩
    | crashed => exact (hcrash rfl).elim
    | halted => trivial
  trans {e s t u} hst htu := by
    cases e with
    | returned =>
      intro hs
      obtain ⟨hext, hbalanced, -⟩ := hst hs
      obtain ⟨hext', hbalanced', hdisc⟩ := htu (hst.orderly hs)
      exact ⟨hext.trans hext', hbalanced.trans hbalanced', hdisc⟩
    | crashed => exact fun hs => htu (hst.orderly hs)
    | halted => trivial
  alike {e s t u} hst htu := by
    cases e with
    | returned =>
      intro hs
      obtain ⟨hext, hbalanced, hdisc⟩ := hst hs
      exact ⟨hext.of_eq htu.memory htu.scopes, hbalanced.trans htu.balanced,
        hdisc.of_eq htu.packages htu.registry⟩
    | crashed => exact hst
    | halted => trivial
  guarded {e s t u guard close} hopen htu := by
    have hopened : s.Orderly → t.Orderly := fun hs =>
      ⟨(extends_of_opens hs.sound hopen).sound,
        hs.disciplined.of_eq (packages_of_opens hopen).1.1 (packages_of_opens hopen).1.2⟩
    cases e with
    | returned =>
      intro hs
      rw [if_pos rfl]
      obtain ⟨hext, hbalanced, hdisc⟩ := htu (hopened hs)
      obtain ⟨hpackages, hregistry⟩ := (packages_of_opens hopen).2 u
      exact ⟨extends_close hs.sound hopen hext, balanced_close hs.sound hopen hext hbalanced,
        hdisc.of_eq hpackages hregistry⟩
    | crashed => exact fun hs => htu (hopened hs)
    | halted => trivial
  contained hst hs := absurd hs hst

/-- Steps that are stopped where they crash keep the balance. -/
lemma readingLaw_balanced : ReadingLaw stopAtCrash Settles where
  law := law_balanced
  step {_ action} hstep s := by
    have hstopped : s.Step False (stopAtCrash action s).2 := by
      rw [stopAtCrash_session]
      exact hstep s
    exact law_balanced.leaf hstopped fun hcrash => ending_stopAtCrash action s hcrash
  undisciplined h := settles_of_not_orderly fun hs => h hs.disciplined

/-- Discipline is kept by the steps of guarded code, whether they crash or not. -/
lemma readingLaw_disciplined :
    ReadingLaw (fun action => action) fun _ s t => s.Disciplined → t.Disciplined where
  law :=
    { leaf := fun hstep _ => hstep.disciplined.resolve_left not_false
      trans := fun hst htu hs => htu (hst hs)
      alike := fun hst htu hs => (hst hs).of_eq htu.packages htu.registry
      guarded := by
        intro e s t u guard close hopen htu hs
        obtain ⟨⟨hpackages, hregistry⟩, hclose⟩ := packages_of_opens hopen
        have hu : u.Disciplined := htu (hs.of_eq hpackages hregistry)
        split
        · exact hu.of_eq (hclose u).1 (hclose u).2
        · exact hu
      contained := fun hst hs => (hst hs).of_eq rfl rfl }
  step hstep s := (hstep s).disciplined.resolve_left not_false
  undisciplined h hs := absurd hs h

end Engine

namespace HostLibrary

variable {library : HostLibrary}

/-- The sessions that come up with a library: those that are built of disciplined packages, those
that a run of guarded code leaves, however it ends, those in which a guarded run begins, and
copies. -/
inductive Reached (library : HostLibrary) : Session → Prop
  | build {options : SessionOptions} {registry : Registry} {files : FileTree}
      {packages : List Package} {macros : List (String × Macro)} {s : Session}
      (h : Session.build options registry files packages macros = .ok s)
      (hregistry : registry.Disciplined) (hpackages : ∀ package ∈ packages, package.Disciplined) :
      Reached library s
  | run {α : Type} {code : HostCode α} {s : Session} (h : Reached library s)
      (hcode : code.Guarded) (fuel : Nat) :
      Reached library (code.run (library.host.execute fuel) s).2
  | opened {guard : Guard} {s t : Session} {close : Session → Session} (h : Reached library s)
      (hopen : guard.opens s = .ok (t, close)) : Reached library t
  | fork {s : Session} (h : Reached library s) : Reached library s.fork

/-- They can come up. -/
lemma Reached.reachable {s : Session} (h : library.Reached s) : s.Reachable := by
  induction h with
  | build h => exact .build h
  | @run _ code _ _ _ fuel ih => exact .run ih code.composed_run library.composed_host fuel
  | opened _ hopen ih => exact .opened ih hopen
  | fork _ ih => exact .fork ih

/-- If the library is guarded, then they are disciplined. -/
lemma Reached.disciplined {s : Session} (h : library.Reached s) (hl : library.Guarded) :
    s.Disciplined := by
  induction h with
  | build h hregistry hpackages => exact Session.disciplined_of_build h hregistry hpackages
  | run _ hcode fuel ih => exact hl.satisfies Engine.readingLaw_disciplined fuel hcode _ ih
  | opened _ hopen ih =>
    obtain ⟨⟨hpackages, hregistry⟩, -⟩ := Session.packages_of_opens hopen
    exact ih.of_eq hpackages hregistry
  | fork _ ih => exact ih.of_eq rfl rfl

end HostLibrary

namespace Engine

open Session

variable {α : Type} {library : HostLibrary}

/-- If nothing crashes in a run of code, then the run returns, in balance. -/
def Balances (library : HostLibrary) (fuel : Nat) (code : HostCode α) (s : Session) : Prop :=
  library.CrashFree fuel code s →
    (code.run (library.host.execute fuel) s).1.ending = .returned ∧
      s.Balanced (code.run (library.host.execute fuel) s).2

/-- All guarded code does so in orderly sessions. -/
lemma balances_of_guarded (hl : library.Guarded) {code : HostCode α} (hcode : code.Guarded)
    {s : Session} (hs : s.Orderly) (fuel : Nat) : Balances library fuel code s := by
  intro h
  have hsettles := hl.satisfies readingLaw_balanced fuel hcode s
  rw [h.eq]
  unfold HostLibrary.CrashFree at h
  rw [h] at hsettles
  exact ⟨h, (hsettles hs).2.1⟩

/-- Let the commands, macros and passes of a host program leave marks and guards to the guarded
runs.  In every session that comes up with such a program, a run of such code in which nothing
crashes leaves the floors, the marks, the guards and the number of active calls as they were,
whether it gives a value or an error.  In particular this holds of a call, the expansion of a call,
a line and a script.

More generally it holds of all disciplined sessions that can come up; those that come up with the
program are such, also after crashes that were contained.  The standard host is such a program, with
the standard registry. -/
theorem balanced_unless_crashed {library : HostLibrary} (hl : library.Guarded) {s : Session}
    (hs : s.Reachable) (hd : s.Disciplined) (fuel : Nat) :
    (∀ {α : Type} (code : HostCode α), code.Guarded → Balances library fuel code s) ∧
      (∀ name args, Balances library fuel (.call name args) s) ∧
      (∀ name args, Balances library fuel (.expansion name args) s) ∧
      (∀ line, Balances library fuel (.line line) s) ∧
      (∀ text, Balances library fuel (.script text) s) ∧
      (∀ {α : Type} (code : HostCode α), code.Guarded →
        (code.run (library.host.execute fuel) s).2.Reachable ∧
          (code.run (library.host.execute fuel) s).2.Disciplined) ∧
      (∀ t, library.Reached t → t.Reachable ∧ t.Disciplined) ∧
      HostLibrary.standard.Guarded ∧ HostLibrary.standard.host = Host.standard ∧
      standardRegistry.Disciplined := by
  have hbalances : ∀ {α : Type} (code : HostCode α), code.Guarded →
      Balances library fuel code s :=
    fun code hcode => balances_of_guarded hl hcode ⟨hs.sound, hd⟩ fuel
  refine ⟨hbalances, fun name args => ?_, fun name args => ?_, fun line => ?_, fun text => ?_,
    fun code hcode => ⟨?_, ?_⟩, fun t ht => ⟨ht.reachable, ht.disciplined hl⟩,
    HostLibrary.guarded_standard, HostLibrary.host_standard, Registry.disciplined_standardRegistry⟩
  · exact hbalances (.call name args) trivial
  · exact hbalances (.expansion name args) trivial
  · exact hbalances (.line line) trivial
  · exact hbalances (.script text) trivial
  · exact .run hs code.composed_run library.composed_host fuel
  · exact hl.satisfies readingLaw_disciplined fuel hcode s hd

end Engine

/-! ### A host program that nests guarded runs -/

/-- Code that nests the guarded runs.  A call fails in Global in a temporary scope, the error is
handled, and what is given depends on how a supervised line ended. -/
def nestingCode : HostCode (Option Item) :=
  .guarded .isolation <|
    .sequence
      (.handle (.guarded .scope (.guarded .global (.call "exit-scope" [])))
        fun _ => .call "push" ["handled"])
      fun _ => .sequence (.supervised "inner" (.line "isolated pop-frame")) fun ok =>
        .value (if ok then none else some (.text "failed"))

/-- A library with this command, and macros and passes that call commands under guards. -/
def nestingLibrary : HostLibrary where
  command _ _ _ _ := nestingCode
  callback _ _ := .guarded .scope (.sequence (.call "set" ["x", "1"]) fun _ => .value "expanded")

/-- It leaves marks and guards to the guarded runs. -/
lemma guarded_nestingLibrary : nestingLibrary.Guarded where
  command _ _ _ _ _ := ⟨⟨trivial, fun _ => trivial⟩, fun _ => ⟨trivial, fun _ => trivial⟩⟩
  callback _ _ := ⟨trivial, fun _ => trivial⟩

/-- A package with one command of the host. -/
def nestingPackage : Package := ⟨"host", .ofList [("nest", .any (.program []) "" "")]⟩

/-- A session with that command, and with a macro of the host. -/
def nestingSession : Except Error Session :=
  Session.build {} standardRegistry .empty [nestingPackage] [("now", .probe .frameCount)]

/-- A line that calls the command, with the macro in its argument: the calls that fail under the
guards leave nothing behind. -/
theorem Engine.balanced_of_nested_guards :
    ∃ s, nestingSession = .ok s ∧ s.Reachable ∧ s.Disciplined ∧
      nestingLibrary.CrashFree 5 (.line "nest now") s ∧
      s.Balanced ((HostCode.line "nest now").run (nestingLibrary.host.execute 5) s).2 := by
  have hrun : (nestingSession.toOption.map fun s => ((HostCode.line "nest now").strict
      (nestingLibrary.strictHost.execute 5) s).1.ending) = some .returned := by decide +kernel
  have hpackages : ∀ package ∈ [nestingPackage], package.Disciplined := by
    intro package hmem
    rw [List.mem_singleton.1 hmem]
    exact .ofList (by decide)
  cases hbuild : nestingSession with
  | error e =>
    rw [hbuild] at hrun
    cases hrun
  | ok s =>
    rw [hbuild] at hrun
    have hfree : nestingLibrary.CrashFree 5 (.line "nest now") s := Option.some.inj hrun
    have hreached : nestingLibrary.Reached s :=
      .build hbuild Registry.disciplined_standardRegistry hpackages
    have hs : s.Reachable := hreached.reachable
    have hd : s.Disciplined := hreached.disciplined guarded_nestingLibrary
    obtain ⟨hcode, -⟩ := balanced_unless_crashed guarded_nestingLibrary hs hd 5
    exact ⟨s, rfl, hs, hd, hfree, (hcode (.line "nest now") trivial hfree).2⟩

end LineShell
