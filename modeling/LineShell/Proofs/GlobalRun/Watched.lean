import LineShell.Proofs.Congruence
import LineShell.Proofs.GlobalRun

/-!
# Every call in a run in Global finds Global active

That moves lead from the beginning of a run to its end does not tell by itself what the commands
find that are called in between.  This is told by *watched* execution: it is that of the
interpreter, except that a run stops where a command is called, at whatever depth, while Global is
not active.  In a run in Global it never stops for that reason, so that both do the same
(`Engine.inGlobal_executeInGlobal`).
-/

namespace LineShell

/-- Global is active under a guard. -/
structure Session.HeldInGlobal (s : Session) : Prop where
  active : s.scopes.globalActive = true
  guarded : 0 < s.scopes.guards

namespace Session

variable {s t : Session}

/-- Where moves lead, Global is still active under a guard. -/
lemma Reaches.heldInGlobal (h : s.Reaches t) (hs : s.HeldInGlobal) : t.HeldInGlobal := by
  have hbegin : Situation.Frozen s.locals [] ⟨s, []⟩ := ⟨rfl, [], rfl, .outer hs.guarded⟩
  have hend := hbegin.run hs.active (h [])
  obtain ⟨inside, -, hheld⟩ := hend.held
  exact ⟨(congrArg Locals.globalActive hend.locals).trans hs.active, hheld.guards_pos⟩

/-- So it is in the run under a guard. -/
lemma HeldInGlobal.opened (hs : s.HeldInGlobal) {guard : Guard} {close : Session → Session}
    (h : guard.opens s = .ok (t, close)) : t.HeldInGlobal := by
  cases guard with
  | scope =>
    obtain ⟨mark, scopes, hbegin, -, -⟩ := Guard.scope_opens_eq_ok h
    exact absurd hbegin (not_beginTemporary hs.active)
  | global =>
    cases h
    exact ⟨rfl, Nat.succ_pos _⟩
  | isolation | call =>
    cases h
    exact ⟨hs.active, hs.guarded⟩

end Session

/-! ### Actions that do the same in Global -/

namespace Engine

variable {α β : Type}

/-- Two actions that do the same where Global is active under a guard. -/
def SameInGlobal (first second : Engine α) : Prop :=
  ∀ s : Session, s.HeldInGlobal → second s = first s

namespace SameInGlobal

/-- One action after another. -/
lemma bind {first second : Engine α} {next next' : α → Engine β} (h : first.SameInGlobal second)
    (hmoves : first.MadeOfMoves)
    (hnext : ∀ a, (∃ s t, first s = (.done a, t)) → (next a).SameInGlobal (next' a)) :
    (first >>= next).SameInGlobal (second >>= next') := by
  intro s hs
  have hend := (hmoves s).heldInGlobal hs
  change Engine.bind second next' s = Engine.bind first next s
  unfold Engine.bind
  rw [h s hs]
  rcases hrun : first s with ⟨a | e | p | r, t⟩
  · rw [hrun] at hend
    exact hnext a ⟨s, t, hrun⟩ t hend
  all_goals rfl

/-- An action and what is done on its error. -/
lemma handle {first second : Engine α} {handler handler' : Error → Engine α}
    (h : first.SameInGlobal second) (hmoves : first.MadeOfMoves)
    (hhandler : ∀ e, (handler e).SameInGlobal (handler' e)) :
    (first.handle handler).SameInGlobal (second.handle handler') := by
  intro s hs
  have hend := (hmoves s).heldInGlobal hs
  unfold Engine.handle
  rw [h s hs]
  rcases hrun : first s with ⟨a | e | p | r, t⟩
  · rfl
  · rw [hrun] at hend
    exact hhandler e t hend
  all_goals rfl

/-- An action under a guard. -/
lemma guarded (guard : Guard) {first second : Engine α} (h : first.SameInGlobal second) :
    (guard.run first).SameInGlobal (guard.run second) := by
  intro s hs
  cases hopen : guard.opens s with
  | error e => simp only [Guard.run, hopen]
  | ok opened =>
    obtain ⟨t, close⟩ := opened
    rw [Guard.run_of_opens hopen, Guard.run_of_opens hopen, h t (hs.opened hopen)]

/-- An action under supervision. -/
lemma supervised (source : String) {first second : Engine Unit} (h : first.SameInGlobal second) :
    (supervise source first).SameInGlobal (supervise source second) := by
  intro s hs
  simp only [supervise, h s hs]

/-- An action whose output is kept apart. -/
lemma captured {first second : Engine Bool} (h : first.SameInGlobal second) :
    (capture first).SameInGlobal (capture second) := by
  intro s hs
  have hstart : ({ s with out := "", err := "" } : Session).HeldInGlobal := ⟨hs.active, hs.guarded⟩
  simp only [capture, h _ hstart]

/-- Starting a job, which runs in Global as well. -/
lemma job {first second : Exec} {name : String} {args : List String}
    (h : (first name args).SameInGlobal (second name args)) :
    (startJob first name args).SameInGlobal (startJob second name args) := by
  intro s hs
  have hstart : s.snapshot.HeldInGlobal := ⟨hs.active, hs.guarded⟩
  rw [startJob_eq, startJob_eq, h.supervised name s.snapshot hstart]

end SameInGlobal

end Engine

/-- Routines that are put together in the same way do the same in Global if the calls do. -/
theorem Routine.Composed.sameInGlobal {α : Type} {first second : Exec}
    (hmoves : first.Every Engine.MadeOfMoves) (hexec : first.Pairwise Engine.SameInGlobal second)
    {routine : Routine α} (h : Composed False routine) : (routine first).SameInGlobal (routine second) := by
  induction h with
  | call name args => exact hexec.command name args
  | callback callback => exact hexec.callback callback
  | leaf step crash => exact fun s _ => rfl
  | sequence hfirst _ ihfirst ihnext =>
    refine ihfirst.bind (hfirst.satisfies Engine.law_reaches hmoves) fun a ha => ihnext a ?_
    obtain ⟨s, t, hrun⟩ := ha
    exact ⟨first, s, t, hrun⟩
  | handle hbody _ ihbody ihhandler =>
    exact ihbody.handle (hbody.satisfies Engine.law_reaches hmoves) ihhandler
  | guarded guard _ ih => exact ih.guarded guard
  | supervised source _ ih => exact ih.supervised source
  | captured _ ih => exact ih.captured
  | job name args => exact (hexec.command name args).job

/-! ### Watched execution -/

namespace Engine

open Situation

variable {α : Type}

/-- Calls a command, and stops where it, or any command that it calls, is called while Global is not
active. -/
def executeInGlobal : (fuel : Nat) → Exec
  | 0 => ⟨fun _ _ => halt .fuel, runCallback⟩
  | fuel + 1 => ⟨fun name args s =>
      if s.scopes.globalActive then dispatch fuel (executeInGlobal fuel) name args s
      else halt .fuel s, runCallback⟩

section Calls

variable {first second : Exec} (hmoves : first.Every MadeOfMoves)
  (hexec : first.Pairwise SameInGlobal second)

include hmoves hexec

/-- An instruction of a host program. -/
lemma sameInGlobal_perform (package : String) (args : Arguments) (instruction : Instruction) :
    (perform first package args instruction).SameInGlobal
      (perform second package args instruction) := by
  cases instruction with
  | crash payload => exact fun s _ => rfl
  | beginTemporary => exact fun s _ => rfl
  | beginGlobal => exact fun s _ => rfl
  | _ =>
    exact (Routine.composed_perform package args (.inr rfl) (.inr (by simp))).sameInGlobal hmoves
      hexec

/-- A host program. -/
lemma sameInGlobal_runProgram (package : String) (args : Arguments)
    (instructions : List Instruction) :
    (runProgram first package args instructions).SameInGlobal
      (runProgram second package args instructions) := by
  induction instructions with
  | nil => exact fun s _ => rfl
  | cons instruction rest ih =>
    rw [runProgram_cons, runProgram_cons]
    refine (sameInGlobal_perform hmoves hexec package args instruction).bind
      (madeOfMoves_perform hmoves package args instruction) fun result _ => ?_
    cases result with
    | none => exact ih
    | some item => exact fun s _ => rfl

/-- The body of a command. -/
lemma sameInGlobal_runBody (fuel : Nat) (package : String) (args : Arguments) (body : Body) :
    (runBody fuel first package args body).SameInGlobal
      (runBody fuel second package args body) := by
  rcases body.eq_program_or_ne with ⟨instructions, rfl⟩ | hne
  · exact sameInGlobal_runProgram hmoves hexec package args instructions
  · have hregular : Routine.Regular False fun exec => runBody fuel exec package args body :=
      Routine.regular_runBody_of_ne Host.standard fuel package args hne
    exact hregular.composed.sameInGlobal hmoves hexec

/-- A call. -/
lemma sameInGlobal_dispatch (fuel : Nat) (name : String) (args : List String) :
    (dispatch fuel first name args).SameInGlobal (dispatch fuel second name args) := by
  intro s hs
  unfold dispatch Host.dispatch
  cases resolveCall s name args with
  | error e => rfl
  | ok resolved =>
    obtain ⟨package, command, arguments⟩ := resolved
    have hbody := sameInGlobal_runBody hmoves hexec fuel package.name arguments command.body
    have hcall : ({ s with depth := s.depth + 1 } : Session).HeldInGlobal :=
      ⟨hs.active, hs.guarded⟩
    change Engine.bind (cleanup _ _) receive _ = Engine.bind (cleanup _ _) receive _
    simp only [Engine.bind, cleanup, hbody _ hcall]

end Calls

/-- Where Global is active under a guard, watched execution is that of the interpreter. -/
theorem sameInGlobal_execute (fuel : Nat) :
    (execute fuel).Pairwise SameInGlobal (executeInGlobal fuel) := by
  induction fuel with
  | zero => exact ⟨fun _ _ s _ => rfl, fun _ s _ => rfl⟩
  | succ fuel ih =>
    refine ⟨fun name args s hs => ?_, fun _ s _ => rfl⟩
    change (if s.scopes.globalActive = true then _ else _) = dispatch fuel _ name args s
    rw [if_pos hs.active]
    exact sameInGlobal_dispatch (madeOfMoves_execute fuel) ih fuel name args s hs

/-- Whatever is put together from steps and calls of commands, its run in Global is not stopped. -/
lemma inGlobal_executeInGlobal {routine : Routine α} (h : routine.Composed False) (fuel : Nat) :
    inGlobal (routine (executeInGlobal fuel)) = inGlobal (routine (execute fuel)) := by
  funext s
  have hopen : Guard.global.opens s = .ok ({ s with scopes := s.scopes.beginGlobal.2 }, _) := rfl
  have hheld : ({ s with scopes := s.scopes.beginGlobal.2 } : Session).HeldInGlobal :=
    ⟨rfl, Nat.succ_pos _⟩
  have hbody := h.sameInGlobal (madeOfMoves_execute fuel) (sameInGlobal_execute fuel) _ hheld
  rw [inGlobal_eq_run, inGlobal_eq_run, Guard.run_of_opens hopen, Guard.run_of_opens hopen, hbody]

/-- In every session and for every body that is made of moves, in particular for everything that is
put together from steps, calls and guarded, supervised and captured runs: at every step of a run in
Global the local scopes with all their variables and the marks are as they were when it began, and
Global is active, so that no command is called in it, at whatever depth, while Global is not active;
and if the run returns, with a value or an error, then access goes again to where it went before, to
Global if it was active.  The same holds of calls of `globally`. -/
theorem inGlobal_freezes_locals (fuel : Nat) :
    (∀ (s : Session) (k : List Context) (w : Situation),
      Relation.ReflTransGen (Within (Guard.global.context s :: k))
        ⟨{ s with scopes := s.scopes.beginGlobal.2 }, Guard.global.context s :: k⟩ w →
      w.session.locals = s.locals.inGlobal) ∧
    (∀ {α : Type} (routine : Routine α), routine.Composed False →
      (routine (execute fuel)).MadeOfMoves ∧
        inGlobal (routine (executeInGlobal fuel)) = inGlobal (routine (execute fuel))) ∧
    (∀ {α : Type} (body : Engine α), body.MadeOfMoves → ∀ s : Session,
      (body { s with scopes := s.scopes.beginGlobal.2 }).2.locals = s.locals.inGlobal ∧
        (inGlobal body).Keeps Session.locals Locals.scopes s) ∧
    ∀ (s : Session) name args package command,
      s.packages.resolve? name = some (package, command) →
      command.body = .builtin (.scope .globally) →
      (execute fuel name args).Keeps Session.locals Locals.scopes s := by
  refine ⟨fun s k w h => locals_eq_of_within h,
    fun routine hr => ⟨hr.madeOfMoves fuel, inGlobal_executeInGlobal hr fuel⟩,
    fun body hbody s => ⟨hbody.locals_eq s, hbody.keeps_inGlobal s⟩, ?_⟩
  intro s name args package command hresolve hbody
  refine keeps_execute (fun _ _ => rfl) hresolve ?_ ?_ fuel args
  · intro fuel args
    rw [hbody]
    refine keeps_bind (ofExcept_snd _ _) fun call _ => ?_
    exact (((madeOfMoves_execute fuel).command call.1 call.2).keeps_inGlobal _).bind fun _ _ _ => rfl
  · intro fuel args item t hitem
    rw [hbody] at hitem
    obtain ⟨call, u, -, hrest⟩ := Routine.exists_of_bind_eq_done (Prod.ext hitem rfl)
    exact eq_none_of_bind (congrArg Prod.fst hrest)

/-- A run in Global that stores a variable and then fails to enter a scope: its caller has the
variable that it had, and the one of the same name in Global is the new one. -/
theorem inGlobal_freezes_locals_of_failing_body :
    let s := (Routine.builtins [(.scope .set, ["v", "a"])] (execute 0)
      (.start {} standardRegistry .empty)).2
    let body := Routine.builtins [(.scope .set, ["v", "b"]), (.scope .enterScope, [])]
    let ended := inGlobal (body (execute 0)) s
    ended.1 = .failed (.scope .enterInGlobal) ∧
      ended.2.locals = ⟨[NameMap.empty.insert "v" "a"], [], false⟩ ∧
      ended.2.scopes.global = NameMap.empty.insert "v" "b" := by
  intro s body ended
  have hfailed : ended.1 = .failed (.scope .enterInGlobal) := rfl
  obtain ⟨-, hmoves, hkeeps, -⟩ := inGlobal_freezes_locals 0
  have hbody : (body (execute 0)).MadeOfMoves := (hmoves body (Routine.composed_builtins _)).1
  have hkept := (hkeeps _ hbody s).2.2 (congrArg Outcome.ending hfailed)
  exact ⟨hfailed, hkept, rfl⟩

end Engine

end LineShell
