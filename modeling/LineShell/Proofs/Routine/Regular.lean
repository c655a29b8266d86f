import LineShell.Proofs.Routine

/-!
# Regular routines

`Routine.Composed` says nothing about the settings of a session, and it lets a routine count a call
as active at any time.  The interpreter does better on both counts: its commands leave the settings
alone, and a call is counted only as long as the limit is not reached.  `Routine.Regular` is the
class of routines that are put together in this stricter way.

Every regular routine is composed.  The rule by which a property of all runs of regular routines is
derived, `Routine.Regular.satisfies`, asks less of the property (`Engine.Rule`): it has to be
respected only by changes that leave the settings alone, and by calls below the limit.
-/

namespace LineShell

/-! ### Steps that leave the settings alone -/

/-- The part of a session that is set up by the host: no command changes it. -/
structure Setup where
  pipeline : Pipeline
  interpolationLimit : Option Nat
  stripMarkers : Bool
  maxDepth : Nat
  prompt : Option String
  files : FileTree

namespace Session

/-- The settings of a session that no command changes. -/
def setup (s : Session) : Setup :=
  ⟨s.pipeline, s.interpolationLimit, s.stripMarkers, s.maxDepth, s.prompt, s.files⟩

/-- Two sessions that differ only in output, macros, jobs and the like. -/
structure Kin (s t : Session) : Prop extends s.Alike t where
  setup : t.setup = s.setup

/-- A step that leaves the settings alone. -/
structure Change (loose : Prop) (s t : Session) : Prop extends s.Step loose t where
  setup : t.setup = s.setup

variable {loose : Prop} {s t u : Session}

/-- A session is kin to itself. -/
lemma Kin.refl (s : Session) : s.Kin s := ⟨.refl s, rfl⟩

/-- What leads to a kin session is a change. -/
lemma Kin.change (h : s.Kin t) : s.Change loose t := ⟨h.toAlike.step, h.setup⟩

/-- Sessions with the same settings have the same limit on calls. -/
lemma maxDepth_of_setup (h : t.setup = s.setup) : t.maxDepth = s.maxDepth :=
  congrArg Setup.maxDepth h

end Session

namespace Engine

variable {α β : Type}

/-- Runs an action as one more active call, if it is accepted. -/
def enter (accept : Session → Except Error β) (body : β → Engine α) : Engine α := fun s =>
  match accept s with
  | .error e => (.failed e, s)
  | .ok b => Guard.call.run (body b) s

/-- Asking for acceptance comes before the run under the guard. -/
lemma enter_eq (accept : Session → Except Error β) (body : β → Engine α) :
    enter accept body = (do
      let s ← get
      let b ← ofExcept (accept s)
      Guard.call.run (body b)) := by
  funext s
  change _ = Engine.bind get _ s
  simp only [enter, Engine.bind, get]
  cases accept s with
  | error e => rfl
  | ok b => rfl

end Engine

/-! ### Regular routines -/

/-- The routines that are put together from calls of commands and macros and from steps that leave
the settings alone, and that count a call as active only below the limit. -/
inductive Routine.Regular (loose : Prop) : {α : Type} → Routine α → Prop
  | call (name : String) (args : List String) : Regular loose fun exec => exec name args
  | callback (callback : Callback) : Regular loose fun exec => exec.callback callback
  | leaf {α : Type} {action : Engine α} (change : ∀ s : Session, s.Change loose (action s).2)
      (crash : loose ∨ ∀ s, (action s).1.ending ≠ .crashed) : Regular loose fun _ => action
  | sequence {α β : Type} {first : Routine α} {next : Exec → α → Engine β}
      (hfirst : Regular loose first)
      (hnext : ∀ a, Routine.Returns first a → Regular loose fun exec => next exec a) :
      Regular loose fun exec => first exec >>= next exec
  | handle {α : Type} {body : Routine α} {handler : Exec → Error → Engine α}
      (hbody : Regular loose body) (hhandler : ∀ e, Regular loose fun exec => handler exec e) :
      Regular loose fun exec => (body exec).handle (handler exec)
  | guarded (guard : Guard) (hguard : guard ≠ .call) {α : Type} {body : Routine α}
      (hbody : Regular loose body) : Regular loose fun exec => guard.run (body exec)
  | entered {α β : Type} {accept : Session → Except Error β} {body : Exec → β → Engine α}
      (haccept : ∀ s b, accept s = .ok b → s.depth < s.maxDepth)
      (hbody : ∀ b, Regular loose fun exec => body exec b) :
      Regular loose fun exec => Engine.enter accept (body exec)
  | supervised (source : String) {body : Routine Unit} (hbody : Regular loose body) :
      Regular loose fun exec => Engine.supervise source (body exec)
  | captured {body : Routine Bool} (hbody : Regular loose body) :
      Regular loose fun exec => Engine.capture (body exec)
  | job (name : String) (args : List String) :
      Regular loose fun exec => Engine.startJob exec name args

namespace Routine

variable {α β : Type} {loose : Prop}

namespace Composed

/-- An action that changes nothing that guards depend on, and does not crash. -/
lemma of_alike {action : Engine α} (h : ∀ s : Session, s.Alike (action s).2)
    (hc : ∀ s, (action s).1.ending ≠ .crashed) : Composed loose fun _ => action :=
  .leaf (fun s => (h s).step) (.inr hc)

/-- Returning a value. -/
lemma pure (a : α) : Composed loose fun _ => (Pure.pure a : Engine α) :=
  of_alike (fun s => .refl s) fun _ => by simp [Pure.pure, Outcome.ending]

/-- Crashing is `loose`. -/
lemma crash (hl : loose) (payload : CrashPayload) :
    Composed loose fun _ => (Engine.crash payload : Engine α) :=
  .leaf (fun s => (Session.Alike.refl s).step) (.inl hl)

/-- Looking at the session. -/
lemma get : Composed loose fun _ => Engine.get :=
  of_alike (fun s => .refl s) fun _ => by simp [Engine.get, Outcome.ending]

/-- Returning a value or failing. -/
lemma ofExcept (x : Except Error α) : Composed loose fun _ => Engine.ofExcept x := by
  cases x with
  | error e =>
    refine of_alike (fun s => .refl s) fun s => ?_
    simp [Engine.ofExcept, Engine.fail, Outcome.ending]
  | ok a => exact pure a

/-- One routine after another. -/
lemma bind {first : Routine α} {next : Exec → α → Engine β} (hfirst : Composed loose first)
    (hnext : ∀ a, Composed loose fun exec => next exec a) :
    Composed loose fun exec => first exec >>= next exec :=
  .sequence hfirst fun a _ => hnext a

/-- An isolated run. -/
lemma isolated {body : Routine α} (h : Composed loose body) :
    Composed loose fun exec => Engine.isolated (body exec) :=
  .guarded .isolation h

end Composed

/-- A regular routine is composed. -/
theorem Regular.composed {routine : Routine α} (h : Regular loose routine) :
    Composed loose routine := by
  induction h with
  | call name args => exact .call name args
  | callback callback => exact .callback callback
  | leaf change crash => exact .leaf (fun s => (change s).toStep) crash
  | sequence _ _ ihfirst ihnext => exact .sequence ihfirst ihnext
  | handle _ _ ihbody ihhandler => exact .handle ihbody ihhandler
  | guarded guard _ _ ih => exact .guarded guard ih
  | entered _ _ ih =>
    simp only [Engine.enter_eq]
    exact .bind .get fun s => .bind (.ofExcept _) fun b => .guarded .call (ih b)
  | supervised source _ ih => exact .supervised source ih
  | captured _ ih => exact .captured ih
  | job name args => exact .job name args

end Routine

/-! ### Properties of all runs -/

namespace Engine

variable {α : Type} {loose : Prop} {R : Ending → Session → Session → Prop}

/-- A relation between the sessions before and after a run that is respected by all the ways of
putting regular routines together. -/
structure Rule (loose : Prop) (R : Ending → Session → Session → Prop) : Prop where
  leaf : ∀ {e : Ending} {s t : Session}, s.Change loose t → (e = .crashed → loose) → R e s t
  trans : ∀ {e : Ending} {s t u : Session}, R .returned s t → R e t u → R e s u
  written : ∀ {e : Ending} {s t : Session} (out err : String) (jobs : JobTable),
    R e s t → R e s { t with out, err, jobs }
  guarded : ∀ {e : Ending} {s t u : Session} {guard : Guard} {close : Session → Session},
    guard.opens s = .ok (t, close) → (guard = .call → s.depth < s.maxDepth) → R e t u →
      R e s (if e = .returned then close u else u)
  contained : ∀ {s t : Session}, R .crashed s t → R .returned s (t.restore s.checkpoint)

namespace Rule

/-- A run that leaves the session as it was, up to output and the like. -/
lemma of_kin (rule : Rule loose R) {e : Ending} {s t : Session} (h : s.Kin t)
    (he : e ≠ .crashed) : R e s t :=
  rule.leaf h.change fun hc => absurd hc he

/-- A run that changes nothing but the output and the jobs. -/
lemma output (rule : Rule loose R) {e : Ending} (s : Session) (out err : String) (jobs : JobTable)
    (he : e ≠ .crashed) : R e s { s with out, err, jobs } :=
  rule.of_kin ⟨⟨rfl, rfl, rfl, rfl, rfl⟩, rfl⟩ he

/-- After a run its failure may be reported. -/
lemma report (rule : Rule loose R) {e : Ending} {s t : Session} (text : String) (h : R e s t) :
    R e s (t.errorLine text) := by
  unfold Session.errorLine
  split
  · exact rule.written t.out _ t.jobs h
  · exact h

end Rule

/-- An action as one more active call, if it is accepted. -/
lemma Satisfies.entered {β : Type} (rule : Rule loose R) {accept : Session → Except Error β}
    (haccept : ∀ s b, accept s = .ok b → s.depth < s.maxDepth) {body : β → Engine α}
    (hbody : ∀ b, (body b).Satisfies R) : (enter accept body).Satisfies R := by
  intro s
  unfold enter
  cases hs : accept s with
  | error e => exact rule.of_kin (.refl s) (by simp [Outcome.ending])
  | ok b =>
    dsimp only
    rw [Guard.run_of_opens (Guard.call_opens s)]
    exact rule.guarded (Guard.call_opens s) (fun _ => haccept s b hs) (hbody b _)

end Engine

namespace Routine

variable {α : Type} {loose : Prop} {R : Ending → Session → Session → Prop}

/-- If all calls have a property that is respected by all ways of putting regular routines together,
then all regular routines have it. -/
theorem Regular.satisfies (rule : Engine.Rule loose R) {exec : Exec}
    (hexec : exec.Every (Engine.Satisfies R)) {routine : Routine α}
    (h : Regular loose routine) : (routine exec).Satisfies R := by
  induction h with
  | call name args => exact hexec.command name args
  | callback callback => exact hexec.callback callback
  | leaf change crash =>
    intro s
    refine rule.leaf (change s) fun hc => ?_
    rcases crash with hl | hne
    · exact hl
    · exact absurd hc (hne s)
  | sequence _ _ ihfirst ihnext =>
    refine ihfirst.bind rule.trans fun a ha => ihnext a ?_
    obtain ⟨s, t, hrun⟩ := ha
    exact ⟨exec, s, t, hrun⟩
  | handle _ _ ihbody ihhandler => exact ihbody.handle rule.trans ihhandler
  | guarded guard hguard _ ih =>
    refine ih.guarded guard (fun s => rule.of_kin (.refl s) (by decide)) fun hopen h => ?_
    exact rule.guarded hopen (fun hcall => absurd hcall hguard) h
  | entered haccept _ ih => exact Engine.Satisfies.entered rule haccept ih
  | supervised source _ ih => exact ih.supervised rule.report rule.contained source
  | captured _ ih => exact ih.captured rule.trans rule.output rule.written
  | job name args => exact Engine.Satisfies.job rule.output exec name args

end Routine

end LineShell
