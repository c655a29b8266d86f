import LineShell.Proofs.Stock

/-!
# What commands make use of

Most commands make single steps and call other commands, one after the other; if an inner call
fails, so do they.  A few do more: they make rounds without a bound, go on after a failure, run a
job in a copy of the session, or crash.  `Body.uses` says which of these features a body makes use
of.

`Routine.Permitted` is the class of routines that use no features other than the permitted ones.
Its single steps (`Engine.Plain`) always return, provided that all files can be read, and do not
depend on the limit on active calls.  Two rules are derived from that: a property of single runs
follows if it is respected by the ways of putting routines together (`Routine.Permitted.satisfies`),
and so does the likeness of two runs with different ways of calling commands and different limits
(`Routine.Permitted.mirrors`).
-/

namespace LineShell

/-! ### Features -/

/-- What a body can do beyond single steps and calls of other commands. -/
inductive Feature
  /-- Make rounds without a bound. -/
  | loop
  /-- Go on after a failure or a crash. -/
  | containment
  /-- Run a command in a copy of the session. -/
  | job
  /-- End abruptly. -/
  | crash
  deriving DecidableEq, Repr

/-- The feature that a command which runs other commands makes use of. -/
def ControlCommand.feature? : ControlCommand → Option Feature
  | .whileTrue => some .loop
  | .catching => some .containment
  | .async => some .job
  | _ => none

/-- Whether an instruction is a crash. -/
def Instruction.isCrash : Instruction → Bool
  | .crash _ => true
  | _ => false

/-- Whether a body makes use of a feature. -/
def Body.uses : Body → Feature → Bool
  | .builtin (.control command), feature => command.feature? == some feature
  | .program instructions, .crash => instructions.any Instruction.isCrash
  | _, _ => false

/-! ### Single steps on the jobs -/

/-- What a single step can do to the table of jobs, beside starting one. -/
inductive JobTable.Step (table : JobTable) : JobTable → Prop
  | same : Step table table
  | waited : Step table table.wait.2
  | looked : Step table table.look.2

/-- The table may stay as it is. -/
lemma JobTable.Step.of_eq {table next : JobTable} (h : next = table) : table.Step next :=
  h ▸ .same

/-! ### Single steps on the macros -/

/-- What a single step can do to the table of macros. -/
inductive Macro.TableStep (table : NameMap Macro) : NameMap Macro → Prop
  | same : TableStep table table
  | defined {name : String} (h : Macro.checkName name = .ok ()) (body : Macro) :
      TableStep table (table.insert name body)
  | removed (name : String) : TableStep table (table.erase name)

/-- The table may stay as it is. -/
lemma Macro.TableStep.of_eq {table next : NameMap Macro} (h : next = table) :
    Macro.TableStep table next :=
  h ▸ .same

namespace Session

/-- Writing leaves the jobs alone. -/
@[simp] lemma jobs_say (s : Session) (text : String) : (s.say text).jobs = s.jobs := by
  unfold say
  split <;> rfl

/-- So does writing line after line. -/
@[simp] lemma jobs_foldl_sayLine {α : Type} (line : α → String) (entries : List α) (s : Session) :
    (entries.foldl (fun s entry => s.sayLine (line entry)) s).jobs = s.jobs := by
  induction entries generalizing s with
  | nil => rfl
  | cons entry rest ih => exact (ih _).trans (s.jobs_say _)

/-- So does the report of a failure. -/
@[simp] lemma jobs_errorLine (s : Session) (text : String) : (s.errorLine text).jobs = s.jobs := by
  unfold errorLine
  split <;> rfl

/-- Writing leaves the macros alone. -/
@[simp] lemma macros_say (s : Session) (text : String) : (s.say text).macros = s.macros := by
  unfold say
  split <;> rfl

/-- So does writing line after line. -/
@[simp] lemma macros_foldl_sayLine {α : Type} (line : α → String) (entries : List α)
    (s : Session) :
    (entries.foldl (fun s entry => s.sayLine (line entry)) s).macros = s.macros := by
  induction entries generalizing s with
  | nil => rfl
  | cons entry rest ih => exact (ih _).trans (s.macros_say _)

/-- So does the report of a failure. -/
@[simp] lemma macros_errorLine (s : Session) (text : String) :
    (s.errorLine text).macros = s.macros := by
  unfold errorLine
  split <;> rfl

end Session

/-! ### Sessions under another limit -/

namespace Session

variable {s t : Session}

/-- The session with another limit on active calls. -/
def withLimit (s : Session) (limit : Nat) : Session := { s with maxDepth := limit }

/-- The limit of a session is its own. -/
lemma withLimit_maxDepth (s : Session) : s.withLimit s.maxDepth = s := rfl

/-- Writing does not depend on the limit. -/
lemma say_withLimit (s : Session) (limit : Nat) (text : String) :
    (s.withLimit limit).say text = (s.say text).withLimit limit := by
  change (if s.feedback then _ else _) = (if s.feedback then _ else _ : Session).withLimit limit
  split <;> rfl

/-- Nor does writing line after line. -/
lemma foldl_sayLine_withLimit {α : Type} (line : α → String) (entries : List α) (s : Session)
    (limit : Nat) : entries.foldl (fun s entry => s.sayLine (line entry)) (s.withLimit limit) =
      (entries.foldl (fun s entry => s.sayLine (line entry)) s).withLimit limit := by
  induction entries generalizing s with
  | nil => rfl
  | cons entry rest ih =>
    simp only [List.foldl_cons, sayLine, say_withLimit]
    exact ih _

/-- Nor does the report of a failure. -/
lemma errorLine_withLimit (s : Session) (limit : Nat) (text : String) :
    (s.withLimit limit).errorLine text = (s.errorLine text).withLimit limit := by
  change (if s.errorFeedback then _ else _) =
    (if s.errorFeedback then _ else _ : Session).withLimit limit
  split <;> rfl

/-- A change that leaves the settings alone, and does to the packages, to the jobs and to the macros
what steps can do. -/
structure Turn (s t : Session) : Prop extends s.Change True t where
  stocks : s.Stocks t
  jobs : s.jobs.Step t.jobs
  macros : Macro.TableStep s.macros t.macros

/-- What leads to a kin session is a turn. -/
lemma Kin.turn (h : s.Kin t) (hjobs : s.jobs.Step t.jobs)
    (hmacros : Macro.TableStep s.macros t.macros) : s.Turn t :=
  ⟨h.change, .of_kin h, hjobs, hmacros⟩

/-- Writing is a turn. -/
lemma turn_say (s : Session) (text : String) : s.Turn (s.say text) :=
  (s.kin_say text).turn (.of_eq (s.jobs_say text)) (.of_eq (s.macros_say text))

/-- A change that leaves the packages alone is a turn. -/
lemma Change.turn (h : s.Change True t) (hpackages : t.packages = s.packages)
    (hregistry : t.registry = s.registry) (hjobs : t.jobs = s.jobs)
    (hmacros : t.macros = s.macros) : s.Turn t :=
  ⟨h, .of_eq hpackages hregistry, .of_eq hjobs, .of_eq hmacros⟩

/-- A change of the packages by steps is a turn. -/
lemma Stocks.turn (h : s.Stocks t)
    (hsame : t.memory = s.memory ∧ t.scopes = s.scopes ∧ t.depth = s.depth ∧ t.setup = s.setup)
    (hjobs : t.jobs = s.jobs) (hmacros : t.macros = s.macros) : s.Turn t := by
  refine ⟨⟨⟨?_, ?_, hsame.2.2.1, .inl trivial⟩, hsame.2.2.2⟩, h, .of_eq hjobs, .of_eq hmacros⟩
  · rw [hsame.1]
    exact .active s.memory s.memory.active
  · rw [hsame.2.1]
    exact .refl True s.scopes

end Session

/-! ### Plain actions -/

namespace Engine

variable {α β : Type}

/-- A single step that does not depend on the limit on active calls.  It returns if all files can be
read. -/
structure Plain (action : Engine α) : Prop where
  turn : ∀ s : Session, s.Turn (action s).2
  returns : ∀ s : Session, s.files.complete = true → (action s).1.ending = .returned
  unlimited : ∀ (s : Session) (limit : Nat),
    action (s.withLimit limit) = ((action s).1, (action s).2.withLimit limit)

namespace Plain

/-- An action that only looks at the session, and not at the limit. -/
lemma of_unchanged {action : Engine α} (hsame : ∀ s, (action s).2 = s)
    (hreturns : ∀ s : Session, s.files.complete = true → (action s).1.ending = .returned)
    (hlook : ∀ (s : Session) (limit : Nat), (action (s.withLimit limit)).1 = (action s).1) :
    action.Plain := by
  refine ⟨fun s => ?_, hreturns, fun s limit => ?_⟩
  · rw [hsame s]
    exact (Session.Kin.refl s).turn .same .same
  · exact Prod.ext (hlook s limit) ((hsame _).trans (by rw [hsame s]))

/-- Returning a value. -/
lemma pure (a : α) : (Pure.pure a : Engine α).Plain :=
  of_unchanged (fun _ => rfl) (fun _ _ => rfl) fun _ _ => rfl

/-- Failing. -/
lemma fail (e : Error) : (Engine.fail e : Engine α).Plain :=
  of_unchanged (fun _ => rfl) (fun _ _ => rfl) fun _ _ => rfl

/-- Returning a value or failing. -/
lemma ofExcept (x : Except Error α) : (Engine.ofExcept x).Plain := by
  cases x with
  | error e => exact fail e
  | ok a => exact pure a

/-- A change of the session. -/
lemma modify {f : Session → Session} (hturn : ∀ s : Session, s.Turn (f s))
    (hlimit : ∀ s limit, f (s.withLimit limit) = (f s).withLimit limit) :
    (Engine.modify f).Plain :=
  ⟨hturn, fun _ _ => rfl, fun s limit => congrArg (Prod.mk _) (hlimit s limit)⟩

/-- A change of the session that may be refused. -/
lemma attempt {step : Session → Except Error Session}
    (hturn : ∀ s t, step s = .ok t → s.Turn t)
    (hlimit : ∀ s limit, step (s.withLimit limit) = (step s).map (·.withLimit limit)) :
    (Engine.attempt step).Plain := by
  refine ⟨fun s => ?_, fun s _ => ?_, fun s limit => ?_⟩
  · unfold Engine.attempt
    cases hs : step s with
    | error e => exact (Session.Kin.refl s).turn .same .same
    | ok t => exact hturn s t hs
  · unfold Engine.attempt
    cases step s <;> rfl
  · unfold Engine.attempt
    rw [hlimit]
    cases step s <;> rfl

/-- Failing if something is refused. -/
lemma refuseIf (refused : Bool) (e : Error) : (Engine.refuseIf refused e).Plain := by
  cases refused with
  | false => exact pure ()
  | true => exact fail e

/-- A change of the session that gives a value. -/
lemma update {f : Session → α × Session} (hturn : ∀ s : Session, s.Turn (f s).2)
    (hlimit : ∀ s limit, f (s.withLimit limit) = ((f s).1, (f s).2.withLimit limit)) :
    (Engine.update f).Plain := by
  refine ⟨hturn, fun _ _ => rfl, fun s limit => ?_⟩
  rw [Engine.update, hlimit]
  rfl

/-- Writing. -/
lemma write (text : Session → String)
    (hlook : ∀ (s : Session) (limit : Nat), text (s.withLimit limit) = text s) :
    (Engine.modify fun s => s.say (text s)).Plain := by
  refine modify (fun s => s.turn_say _) fun s limit => ?_
  rw [hlook, s.say_withLimit]

/-- A change of the session by what is looked up in it first, which may fail. -/
lemma choose (find : Session → Except Error β) (change : Session → β → Session)
    (hfind : ∀ (s : Session) (limit : Nat), find (s.withLimit limit) = find s)
    (hturn : ∀ s b, find s = .ok b → s.Turn (change s b))
    (hchange : ∀ s limit b, change (s.withLimit limit) b = (change s b).withLimit limit) :
    (Engine.attempt fun s => do return change s (← find s)).Plain := by
  refine attempt (fun s t h => ?_) fun s limit => ?_
  · obtain ⟨b, hb, ht⟩ := exists_of_bind_eq_ok h
    cases ht
    exact hturn s b hb
  · rw [hfind]
    cases find s with
    | error e => rfl
    | ok b => exact congrArg Except.ok (hchange s limit b)

end Plain

end Engine

/-! ### Permitted routines -/

/-- The routines that are put together from plain actions and calls of commands and macros, and
otherwise use the permitted features only. -/
inductive Routine.Permitted (permits : Feature → Prop) : {α : Type} → Routine α → Prop
  | call (name : String) (args : List String) : Permitted permits fun exec => exec name args
  | callback (callback : Callback) : Permitted permits fun exec => exec.callback callback
  | plain {α : Type} {action : Engine α} (h : action.Plain) : Permitted permits fun _ => action
  | look {α : Type} {next : Exec → Session → Engine α}
      (hlook : ∀ exec (s : Session) (limit : Nat), next exec (s.withLimit limit) = next exec s)
      (hnext : ∀ s, Permitted permits fun exec => next exec s) :
      Permitted permits fun exec => Engine.get >>= next exec
  | sequence {α β : Type} {first : Routine α} {next : Exec → α → Engine β}
      (hfirst : Permitted permits first)
      (hnext : ∀ a, Routine.Returns first a → Permitted permits fun exec => next exec a) :
      Permitted permits fun exec => first exec >>= next exec
  | relabelled {α : Type} {body : Routine α} (error : Error) (hbody : Permitted permits body) :
      Permitted permits fun exec => (body exec).whenEmpty error
  | guarded (guard : Guard) (hguard : guard ≠ .call) {α : Type} {body : Routine α}
      (hbody : Permitted permits body) : Permitted permits fun exec => guard.run (body exec)
  | supervised (hpermits : permits .containment) (source : String) {body : Routine Unit}
      (hbody : Permitted permits body) :
      Permitted permits fun exec => Engine.supervise source (body exec)
  | halted (hpermits : permits .loop) {α : Type} (reason : Halt) :
      Permitted permits fun _ => (Engine.halt reason : Engine α)
  | crashed (hpermits : permits .crash) {α : Type} (payload : CrashPayload) :
      Permitted permits fun _ => (Engine.crash payload : Engine α)
  | job (hpermits : permits .job) (name : String) (args : List String) :
      Permitted permits fun exec => Engine.startJob exec name args

/-- A permitted routine is regular. -/
theorem Routine.Permitted.regular {α : Type} {permits : Feature → Prop} {routine : Routine α}
    (h : routine.Permitted permits) : routine.Regular True := by
  induction h with
  | call name args => exact .call name args
  | callback callback => exact .callback callback
  | plain h => exact .leaf (fun s => (h.turn s).toChange) (.inl trivial)
  | look _ _ ih => exact .bind .get ih
  | sequence _ _ ihfirst ihnext => exact .sequence ihfirst ihnext
  | relabelled error _ ih =>
    simp only [whenEmpty_eq_handle]
    exact .handle ih fun e => .fail _
  | guarded guard hguard _ ih => exact .guarded guard hguard ih
  | supervised _ source _ ih => exact .supervised source ih
  | halted _ reason => exact .halt reason
  | crashed _ payload => exact .crash trivial payload
  | job _ name args => exact .job name args

/-! ### Properties of single runs -/

namespace Engine

variable {α : Type} {permits : Feature → Prop} {R : Ending → Session → Session → Prop}

/-- A relation between the sessions before and after a run that is respected by all the ways of
putting permitted routines together. -/
structure Norm (permits : Feature → Prop) (R : Ending → Session → Session → Prop) : Prop where
  plain : ∀ {α : Type} {action : Engine α}, action.Plain → action.Satisfies R
  trans : ∀ {e : Ending} {s t u : Session}, R .returned s t → R e t u → R e s u
  report : ∀ {e : Ending} {s t : Session} (text : String), R e s t → R e s (t.errorLine text)
  guarded : ∀ {e : Ending} {s t u : Session} {guard : Guard} {close : Session → Session},
    guard ≠ .call → guard.opens s = .ok (t, close) → R e t u →
      R e s (if e = .returned then close u else u)
  contained : permits .containment → ∀ {s t : Session}, R .crashed s t →
    R .returned s (t.restore s.checkpoint)
  halted : permits .loop → ∀ s, R .halted s s
  crashed : permits .crash → ∀ s, R .crashed s s
  job : permits .job → ∀ (exec : Exec) (name : String) (args : List String),
    (startJob exec name args).Satisfies R

/-- An empty stack that is reported by another error. -/
lemma Satisfies.relabelled {body : Engine α} (hbody : body.Satisfies R) (error : Error) :
    (body.whenEmpty error).Satisfies R := by
  intro s
  have h := hbody s
  rw [Routine.whenEmpty_eq_handle, Engine.handle]
  rcases hrun : body s with ⟨a | e | p | r, t⟩ <;> rw [hrun] at h
  all_goals exact h

end Engine

namespace Routine

open Engine

variable {α β : Type} {permits : Feature → Prop}

/-- If the calls of commands and macros have a property that is respected by all ways of putting
permitted routines together, then all permitted routines have it. -/
theorem Permitted.satisfies {R : Ending → Session → Session → Prop} (norm : Norm permits R)
    {exec : Exec} (hexec : exec.Every (Satisfies R)) {routine : Routine α}
    (h : routine.Permitted permits) : (routine exec).Satisfies R := by
  induction h with
  | call name args => exact hexec.command name args
  | callback callback => exact hexec.callback callback
  | plain h => exact norm.plain h
  | look _ _ ih => exact fun s => ih s s
  | sequence _ _ ihfirst ihnext =>
    refine ihfirst.bind norm.trans fun a ha => ihnext a ?_
    obtain ⟨s, t, hrun⟩ := ha
    exact ⟨exec, s, t, hrun⟩
  | relabelled error _ ih => exact ih.relabelled error
  | guarded guard hguard _ ih =>
    refine ih.guarded guard (fun s => ?_) (norm.guarded hguard)
    exact norm.plain (Plain.pure ()) s
  | supervised hpermits source _ ih =>
    exact ih.supervised norm.report (norm.contained hpermits) source
  | halted hpermits reason => exact norm.halted hpermits
  | crashed hpermits payload => exact norm.crashed hpermits
  | job hpermits name args => exact norm.job hpermits exec name args

end Routine

/-! ### Two runs side by side -/

/-- An outcome after which two runs are not compared any further: no end, or an error of a kind. -/
def Outcome.Escapes {α : Type} (stuck : Error → Prop) : Outcome α → Prop
  | .failed e => stuck e
  | .halted _ => True
  | _ => False

/-- Such an outcome is no end or an error of the kind. -/
lemma Outcome.Escapes.halted_or_stuck {α : Type} {stuck : Error → Prop} {outcome : Outcome α}
    (h : outcome.Escapes stuck) :
    outcome.ending = .halted ∨ ∃ e, outcome = .failed e ∧ stuck e := by
  cases outcome with
  | done a => exact h.elim
  | failed e => exact .inr ⟨e, rfl, h⟩
  | crashed payload => exact h.elim
  | halted reason => exact .inl rfl

/-- A guard other than that of a call leaves the settings and the number of calls alone. -/
lemma Guard.steady_of_opens {guard : Guard} (hguard : guard ≠ .call) {s t : Session}
    {close : Session → Session} (h : guard.opens s = .ok (t, close)) :
    t.setup = s.setup ∧ t.depth = s.depth := by
  cases guard with
  | call => exact absurd rfl hguard
  | scope =>
    obtain ⟨mark, scopes, -, rfl, -⟩ := scope_opens_eq_ok h
    exact ⟨rfl, rfl⟩
  | isolation | global =>
    cases h
    exact ⟨rfl, rfl⟩

/-- A guard is opened and taken back in the same way under another limit. -/
lemma Guard.opens_withLimit {guard : Guard} {s t : Session} {close : Session → Session}
    (h : guard.opens s = .ok (t, close)) (limit : Nat) :
    guard.opens (s.withLimit limit) = .ok (t.withLimit limit, close) ∧
      ∀ u : Session, close (u.withLimit limit) = (close u).withLimit limit := by
  cases guard with
  | scope =>
    obtain ⟨mark, scopes, hbegin, rfl, rfl⟩ := scope_opens_eq_ok h
    refine ⟨?_, fun _ => rfl⟩
    have hsame : (s.withLimit limit).scopes.beginTemporary = .ok (mark, scopes) := hbegin
    simp only [opens, hsame]
    rfl
  | _ =>
    cases h
    exact ⟨rfl, fun _ => rfl⟩

/-- It is refused in the same way. -/
lemma Guard.opens_withLimit_of_error {guard : Guard} {s : Session} {e : Error}
    (h : guard.opens s = .error e) (limit : Nat) :
    guard.opens (s.withLimit limit) = .error e := by
  cases guard with
  | scope =>
    have hscopes : (s.withLimit limit).scopes = s.scopes := rfl
    cases hbegin : s.scopes.beginTemporary with
    | error e' =>
      simp only [opens, hbegin] at h
      simp only [opens, hscopes, hbegin]
      exact h
    | ok begun => simp [opens, hbegin] at h
  | _ => cases h

namespace Engine

variable {α β : Type} {P Q : Session → Prop} {stuck : Error → Prop} {limit : Nat}

/-- The second action does under the limit what the first one does, unless that escapes. -/
def Mirrors (P : Session → Prop) (stuck : Error → Prop) (limit : Nat) (first second : Engine α) :
    Prop :=
  ∀ s, P s → (first s).1.Escapes stuck ∨
    second (s.withLimit limit) = ((first s).1, (first s).2.withLimit limit)

/-- One action after another. -/
lemma Mirrors.bind {first second : Engine α} {next next' : α → Engine β}
    (h : first.Mirrors P stuck limit second)
    (hkeeps : ∀ s a t, P s → first s = (.done a, t) → Q t)
    (hnext : ∀ a, (∃ s t, first s = (.done a, t)) → (next a).Mirrors Q stuck limit (next' a)) :
    (first >>= next).Mirrors P stuck limit (second >>= next') := by
  intro s hs
  change (Engine.bind first next s).1.Escapes stuck ∨
    Engine.bind second next' (s.withLimit limit) = _
  change _ ∨ _ = ((Engine.bind first next s).1, (Engine.bind first next s).2.withLimit limit)
  unfold Engine.bind
  have hfirst := h s hs
  rcases hrun : first s with ⟨a | e | p | r, t⟩ <;> rw [hrun] at hfirst
  · rw [hfirst.resolve_left id]
    exact hnext a ⟨s, t, hrun⟩ t (hkeeps s a t hs hrun)
  · refine hfirst.imp id fun heq => ?_
    rw [heq]
  · rw [hfirst.resolve_left id]
    exact .inr rfl
  · exact .inl trivial

/-- An empty stack that is reported by another error, if it does not escape. -/
lemma Mirrors.relabelled (hempty : ¬ stuck .emptyStack) {first second : Engine α}
    (h : first.Mirrors P stuck limit second) (error : Error) :
    (first.whenEmpty error).Mirrors P stuck limit (second.whenEmpty error) := by
  intro s hs
  simp only [Routine.whenEmpty_eq_handle, handle]
  have hfirst := h s hs
  rcases hrun : first s with ⟨a | e | p | r, t⟩ <;> rw [hrun] at hfirst
  · rw [hfirst.resolve_left id]
    exact .inr rfl
  · by_cases he : e = .emptyStack
    · rw [hfirst.resolve_left (he ▸ hempty)]
      exact .inr rfl
    · refine hfirst.imp (fun hstuck => ?_) fun heq => ?_
      · simpa [Engine.fail, he] using hstuck
      · rw [heq]
        rfl
  · rw [hfirst.resolve_left id]
    exact .inr rfl
  · exact .inl trivial

/-- An action under a guard. -/
lemma Mirrors.guarded (guard : Guard)
    (hopened : ∀ {s t : Session} {close : Session → Session},
      guard.opens s = .ok (t, close) → P s → Q t)
    {first second : Engine α} (h : first.Mirrors Q stuck limit second) :
    (guard.run first).Mirrors P stuck limit (guard.run second) := by
  intro s hs
  cases hopen : guard.opens s with
  | error e =>
    simp only [Guard.run, hopen, Guard.opens_withLimit_of_error hopen limit]
    exact .inr trivial
  | ok opened =>
    obtain ⟨t, close⟩ := opened
    obtain ⟨hopen', hclose⟩ := Guard.opens_withLimit hopen limit
    rw [Guard.run_of_opens hopen, Guard.run_of_opens hopen']
    refine (h t (hopened hopen hs)).imp id fun heq => ?_
    rw [heq]
    refine Prod.ext rfl ?_
    dsimp only
    split
    · exact hclose _
    · rfl

/-- An action under supervision, if no error escapes. -/
lemma Mirrors.supervised (hnone : ∀ e, ¬ stuck e) (source : String) {first second : Engine Unit}
    (h : first.Mirrors P stuck limit second) :
    (supervise source first).Mirrors P stuck limit (supervise source second) := by
  intro s hs
  unfold supervise
  have hfirst := h s hs
  rcases hrun : first s with ⟨a | e | p | r, t⟩ <;> rw [hrun] at hfirst
  · rw [hfirst.resolve_left id]
    exact .inr rfl
  · rw [hfirst.resolve_left (hnone e)]
    exact .inr (congrArg (Prod.mk _) (t.errorLine_withLimit limit _))
  · rw [hfirst.resolve_left id]
    exact .inr (congrArg (Prod.mk _) ((t.restore s.checkpoint).errorLine_withLimit limit _))
  · exact .inl trivial

/-- A condition on sessions and a kind of errors under which the runs of permitted routines can be
compared: the condition depends on the settings and the number of active calls only, the errors are
not changed on their way out and not reported inside, and no job is started. -/
structure Comparison (permits : Feature → Prop) (P : Session → Prop) (stuck : Error → Prop) :
    Prop where
  steady : ∀ {s t : Session}, t.setup = s.setup → t.depth = s.depth → P s → P t
  notEmpty : ¬ stuck .emptyStack
  uncontained : permits .containment → ∀ e, ¬ stuck e
  noJob : ¬ permits .job

/-- The runs of an action leave the settings alone, and the number of active calls if they
return. -/
def Steady (e : Ending) (s t : Session) : Prop :=
  t.setup = s.setup ∧ (e = .returned → t.depth = s.depth)

/-- This is respected by all the ways of putting regular routines together. -/
lemma rule_steady : Rule True Steady where
  leaf h hc := ⟨h.setup, rule_depth.leaf h hc⟩
  trans hst htu := ⟨htu.1.trans hst.1, rule_depth.trans hst.2 htu.2⟩
  written out err jobs h := ⟨h.1, rule_depth.written out err jobs h.2⟩
  guarded {e _ _ _ _ _} hopen hcall h :=
    ⟨rule_setup.guarded (e := e) hopen hcall h.1, rule_depth.guarded hopen hcall h.2⟩
  contained h := ⟨h.1, rule_depth.contained h.2⟩

end Engine

namespace Routine

open Engine

variable {α : Type} {permits : Feature → Prop} {P : Session → Prop} {stuck : Error → Prop}

/-- Runs of a permitted routine are alike if the calls of commands and macros are. -/
theorem Permitted.mirrors (comparison : Comparison permits P stuck) {limit : Nat}
    {first second : Exec} (hsteady : first.Every (Satisfies Steady))
    (hexec : first.Pairwise (Mirrors P stuck limit) second)
    {routine : Routine α} (h : routine.Permitted permits) :
    (routine first).Mirrors P stuck limit (routine second) := by
  induction h with
  | call name args => exact hexec.command name args
  | callback callback => exact hexec.callback callback
  | plain h => exact fun s _ => .inr (h.unlimited s limit)
  | @look α next hlook _ ih =>
    intro s hs
    change (next first s s).1.Escapes stuck ∨
      next second (s.withLimit limit) (s.withLimit limit) = _
    rw [hlook]
    exact ih s s hs
  | sequence hfirst _ ihfirst ihnext =>
    refine ihfirst.bind (fun s a t hs hrun => ?_) fun a ha => ihnext a ?_
    · have hkept := hfirst.regular.satisfies rule_steady hsteady s
      rw [hrun] at hkept
      exact comparison.steady hkept.1 (hkept.2 rfl) hs
    · obtain ⟨s, t, hrun⟩ := ha
      exact ⟨first, s, t, hrun⟩
  | relabelled error _ ih => exact ih.relabelled comparison.notEmpty error
  | guarded guard hguard _ ih =>
    refine ih.guarded guard fun hopen hs => ?_
    obtain ⟨hsetup, hdepth⟩ := Guard.steady_of_opens hguard hopen
    exact comparison.steady hsetup hdepth hs
  | supervised hpermits source _ ih => exact ih.supervised (comparison.uncontained hpermits) source
  | halted _ reason => exact fun s _ => .inl trivial
  | crashed _ payload => exact fun s _ => .inr rfl
  | job hpermits name args => exact absurd hpermits comparison.noJob

end Routine

end LineShell
