import LineShell.Proofs.Refinement
import LineShell.Proofs.Feature.Interpreter

/-!
# Runs that avoid features

Whether a run makes use of a feature depends on all commands that are called in it, also by macros
and scripts that come up on the way.  A run *avoids* features if it stays the same whatever is put
in the place of the bodies that use them (`Engine.Avoids`): then no such body is run.

`Engine.executeWith` calls commands with a stand-in for those bodies.  A stand-in that comes to no
end tells whether a run avoids the features (`Engine.avoids_of_not_halted`), since no run goes on
after it.  Any other stand-in can be chosen to prove something of a run that avoids them.
-/

namespace LineShell

namespace Engine

variable {α : Type}

/-! ### Calls with other bodies -/

/-- One call, in which the body of the command is run in a given way. -/
def callWith (run : String → Arguments → Body → Engine (Option Item)) (name : String)
    (args : List String) : Engine Unit := do
  let result ← enter (fun s => resolveCall s name args) fun resolved =>
    run resolved.1.name resolved.2.2 resolved.2.1.body
  receive result

/-- Calls a command, with a stand-in for all bodies that use one of the barred features. -/
def executeWith (barred : List Feature) (standIn : Engine (Option Item)) : (fuel : Nat) → Exec
  | 0 => ⟨fun _ _ => halt .fuel, runCallback⟩
  | fuel + 1 => ⟨callWith fun package args body =>
      if barred.any body.uses then standIn
      else runBody fuel (executeWith barred standIn fuel) package args body, runCallback⟩

/-- Whether no body that uses one of the barred features is run: whatever stands in for them, the
run is the same. -/
def Avoids (barred : List Feature) (fuel : Nat) (routine : Routine α) (s : Session) : Prop :=
  ∀ standIn, routine (executeWith barred standIn fuel) s = routine (execute fuel) s

/-- A call is one in which bodies are run as they are. -/
lemma dispatch_eq_callWith (host : Host) (fuel : Nat) (exec : Exec) :
    host.dispatch fuel exec = callWith (host.runBody fuel exec) := by
  funext name args
  exact host.dispatch_eq_enter fuel exec name args

/-- So is a call with the fuel that it uses up. -/
lemma execute_succ (fuel : Nat) (name : String) (args : List String) :
    (execute (fuel + 1)).command name args = callWith (runBody fuel (execute fuel)) name args :=
  congrFun (congrFun (dispatch_eq_callWith _ fuel (execute fuel)) name) args

/-- Where nothing is barred there is no use for a stand-in. -/
lemma executeWith_nil (standIn : Engine (Option Item)) (fuel : Nat) :
    executeWith [] standIn fuel = execute fuel := by
  induction fuel with
  | zero => rfl
  | succ fuel ih =>
    simp only [executeWith, ih, List.any_nil, Bool.false_eq_true, if_false]
    exact congrArg (Exec.mk · runCallback) (dispatch_eq_callWith _ fuel _).symm

/-- The host program does what its probes and transformations say. -/
@[simp] lemma callback_executeWith (barred : List Feature) (standIn : Engine (Option Item))
    (fuel : Nat) : (executeWith barred standIn fuel).callback = runCallback := by
  cases fuel <;> rfl

/-- What is not accepted fails. -/
lemma enter_of_error {β : Type} (accept : Session → Except Error β) (body : β → Engine α)
    {s : Session} {e : Error} (h : accept s = .error e) :
    enter accept body s = (.failed e, s) := by
  simp only [enter, h]

/-- What is accepted is run as one more active call. -/
lemma enter_of_ok {β : Type} (accept : Session → Except Error β) (body : β → Engine α)
    {s : Session} {b : β} (h : accept s = .ok b) :
    enter accept body s = Guard.call.run (body b) s := by
  simp only [enter, h]

/-- A call that is not accepted fails. -/
lemma callWith_of_error (run : String → Arguments → Body → Engine (Option Item)) {s : Session}
    {name : String} {args : List String} {e : Error} (h : resolveCall s name args = .error e) :
    callWith run name args s = (.failed e, s) := by
  have hfirst := enter_of_error (fun s => resolveCall s name args)
    (fun resolved => run resolved.1.name resolved.2.2 resolved.2.1.body) h
  change Engine.bind (enter _ _) _ s = _
  rw [Engine.bind, hfirst]

/-- A call that is accepted runs the body as one more active call, and takes in its value. -/
lemma callWith_of_ok (run : String → Arguments → Body → Engine (Option Item)) {s : Session}
    {name : String} {args : List String} {package : Package} {command : Command}
    {arguments : Arguments}
    (h : resolveCall s name args = .ok (package, command, arguments)) :
    callWith run name args s =
      Engine.bind (Guard.call.run (run package.name arguments command.body)) receive s := by
  have hfirst := enter_of_ok (fun s => resolveCall s name args)
    (fun resolved => run resolved.1.name resolved.2.2 resolved.2.1.body) h
  change Engine.bind (enter _ _) _ s = _
  rw [Engine.bind, hfirst, Engine.bind]

/-! ### Properties of calls -/

/-- The call of a command has a property that is respected by all ways of putting regular routines
together, if its body has. -/
lemma Satisfies.callWith {R : Ending → Session → Session → Prop} (rule : Rule True R)
    {run : String → Arguments → Body → Engine (Option Item)}
    (hrun : ∀ package args body, (run package args body).Satisfies R) (name : String)
    (args : List String) : (Engine.callWith run name args).Satisfies R := by
  have haccept : ∀ s resolved, resolveCall s name args = .ok resolved → s.depth < s.maxDepth :=
    fun s resolved h => (resolveCall_eq_ok h).2
  have henter := Satisfies.entered rule haccept fun resolved =>
    hrun resolved.1.name resolved.2.2 resolved.2.1.body
  refine henter.bind rule.trans fun result _ => ?_
  exact (Routine.regular_receive result).satisfies rule (rule_execute rule 0)

/-- The call of a command has a property that is respected by all ways of putting permitted routines
together, if it follows from a property of the body, which is run as one more active call. -/
lemma Satisfies.callWith_deeper {permits : Feature → Prop}
    {R R' : Ending → Session → Session → Prop} (norm : Norm permits R)
    (hcall : ∀ {e : Ending} {s t : Session}, s.depth < s.maxDepth →
      R' e { s with depth := s.depth + 1 } t →
        R e s (if e = .returned then { t with depth := t.depth - 1 } else t))
    {run : String → Arguments → Body → Engine (Option Item)}
    (hrun : ∀ package args body, (run package args body).Satisfies R') (name : String)
    (args : List String) : (Engine.callWith run name args).Satisfies R := by
  have henter : (enter (fun s => resolveCall s name args) fun resolved =>
      run resolved.1.name resolved.2.2 resolved.2.1.body).Satisfies R := by
    intro s
    cases hresolve : resolveCall s name args with
    | error e =>
      rw [enter_of_error (fun s => resolveCall s name args) _ hresolve]
      exact norm.plain (.fail e : Plain (Engine.fail e : Engine Unit)) s
    | ok resolved =>
      rw [enter_of_ok (fun s => resolveCall s name args) _ hresolve,
        Guard.run_of_opens (Guard.call_opens s)]
      exact hcall (resolveCall_eq_ok hresolve).2 (hrun _ _ _ _)
  exact henter.bind norm.trans fun result _ => norm.plain (Routine.plain_receive result)

/-- Calls with a stand-in have a property that is respected by all ways of putting regular routines
together, if the stand-in has. -/
lemma rule_executeWith {R : Ending → Session → Session → Prop} (rule : Rule True R)
    {standIn : Engine (Option Item)} (hstandIn : standIn.Satisfies R) (barred : List Feature)
    (fuel : Nat) : (executeWith barred standIn fuel).Every (Satisfies R) := by
  have hcallback : ∀ callback, (runCallback callback).Satisfies R := fun callback =>
    (Routine.regular_runCallback callback).satisfies rule (rule_execute rule 0)
  induction fuel with
  | zero =>
    refine ⟨fun name args s => ?_, hcallback⟩
    exact rule.of_kin (.refl s) (by simp [executeWith, halt, Outcome.ending])
  | succ fuel ih =>
    refine ⟨Satisfies.callWith rule fun package arguments body => ?_, hcallback⟩
    split
    · exact hstandIn
    · exact (Host.Regular.standard.runBody fuel package arguments body).satisfies rule ih

/-- Calls do the same if the bodies do, unless they come to no end. -/
lemma Refines.callWith {first second : String → Arguments → Body → Engine (Option Item)}
    (h : ∀ package args body, (first package args body).Refines (second package args body))
    (name : String) (args : List String) :
    (Engine.callWith first name args).Refines (Engine.callWith second name args) := by
  intro s hended
  cases hresolve : resolveCall s name args with
  | error e => rw [callWith_of_error first hresolve, callWith_of_error second hresolve]
  | ok resolved =>
    obtain ⟨package, command, arguments⟩ := resolved
    rw [callWith_of_ok first hresolve] at hended ⊢
    rw [callWith_of_ok second hresolve]
    have hbody := (h package.name arguments command.body).guarded .call
    exact (hbody.bind fun result _ t _ => rfl) s hended

/-! ### Stand-ins that come to no end -/

/-- With a stand-in that comes to no end, calls do what they do with any other stand-in, also where
less is barred. -/
lemma refines_executeWith {barred others : List Feature} (hothers : others ⊆ barred)
    (standIn : Engine (Option Item)) (fuel : Nat) :
    (executeWith barred (halt .fuel) fuel).Pairwise Refines (executeWith others standIn fuel) := by
  induction fuel with
  | zero => exact ⟨fun _ _ s _ => rfl, fun _ s _ => rfl⟩
  | succ fuel ih =>
    refine ⟨fun name args => ?_, fun _ s _ => rfl⟩
    simp only [executeWith]
    refine Refines.callWith (fun package arguments body => ?_) name args
    by_cases hbarred : barred.any body.uses = true
    · rw [if_pos hbarred]
      exact fun s hended => absurd rfl hended
    · have hfree : ¬ others.any body.uses = true := by
        intro hsome
        obtain ⟨feature, hmem, huses⟩ := List.any_eq_true.1 hsome
        exact hbarred (List.any_eq_true.2 ⟨feature, hothers hmem, huses⟩)
      rw [if_neg hbarred, if_neg hfree]
      exact (Host.Regular.standard.runBody fuel package arguments body).composed.refines ih

/-- A run avoids features if it comes to an end where the bodies that use them, and maybe others, do
not. -/
lemma avoids_of_not_halted {barred others : List Feature} (hothers : others ⊆ barred) {fuel : Nat}
    {routine : Routine α} (hroutine : routine.Composed True) {s : Session}
    (h : (routine (executeWith barred (halt .fuel) fuel) s).1.ending ≠ .halted) :
    Avoids others fuel routine s := by
  intro standIn
  have hbarred := hroutine.refines (refines_executeWith hothers standIn fuel) s h
  have hnone := hroutine.refines (refines_executeWith (List.nil_subset barred) standIn fuel) s h
  rw [executeWith_nil] at hnone
  rw [hbarred, hnone]

/-! ### Two runs side by side -/

/-- A call that is accepted is accepted under a limit that is not lower. -/
lemma resolveCall_withLimit_of_ok {s : Session} {name : String} {args : List String}
    {resolved : Package × Command × Arguments} (h : resolveCall s name args = .ok resolved)
    {limit : Nat} (hlimit : s.maxDepth ≤ limit) :
    resolveCall (s.withLimit limit) name args = .ok resolved := by
  have hsame : (s.withLimit limit).packages = s.packages := rfl
  unfold resolveCall at h ⊢
  rw [hsame]
  cases hresolve : s.packages.resolve? name with
  | none => simp [hresolve] at h
  | some found =>
    rw [hresolve] at h
    obtain ⟨_, harity, hcoerce⟩ := exists_of_bind_eq_ok h
    obtain ⟨arguments, harguments, hdepth⟩ := exists_of_bind_eq_ok hcoerce
    dsimp only at hdepth ⊢
    rw [harity, harguments]
    by_cases hfull : s.maxDepth ≤ s.depth
    · rw [if_pos hfull] at hdepth
      cases hdepth
    · have hroom : ¬ (s.withLimit limit).maxDepth ≤ (s.withLimit limit).depth :=
        fun hle => hfull (Nat.le_trans hlimit hle)
      rw [if_neg hfull] at hdepth
      change (if _ then _ else _) = _
      rw [if_neg hroom]
      exact hdepth

/-- The error of the limit on active calls. -/
def IsLimitError (e : Error) : Prop := ∃ limit name, e = .frame (.callDepth limit name)

/-- A call that is refused is refused with the same error under another limit, unless the limit was
the reason. -/
lemma resolveCall_withLimit_of_error {s : Session} {name : String} {args : List String} {e : Error}
    (h : resolveCall s name args = .error e) (limit : Nat) :
    IsLimitError e ∨ resolveCall (s.withLimit limit) name args = .error e := by
  have hsame : (s.withLimit limit).packages = s.packages := rfl
  unfold resolveCall at h ⊢
  rw [hsame]
  cases hresolve : s.packages.resolve? name with
  | none =>
    rw [hresolve] at h
    exact .inr h
  | some found =>
    rw [hresolve] at h
    dsimp only at h ⊢
    cases harity : found.2.checkArity name args.length with
    | error e' =>
      rw [harity] at h
      exact .inr h
    | ok _ =>
      rw [harity] at h
      cases harguments : found.2.coerceAll name args with
      | error e' =>
        rw [harguments] at h
        exact .inr h
      | ok arguments =>
        rw [harguments] at h
        change (if _ then _ else _) = _ at h
        split at h
        · cases h
          exact .inl ⟨s.maxDepth, name, rfl⟩
        · cases h

variable {P Q : Session → Prop} {stuck : Error → Prop} {limit : Nat}

/-- Calls are alike if the bodies are, and if they are accepted and refused in the same way. -/
lemma Mirrors.callWith {first second : String → Arguments → Body → Engine (Option Item)}
    {name : String} {args : List String}
    (haccepted : ∀ s resolved, P s → resolveCall s name args = .ok resolved →
      resolveCall (s.withLimit limit) name args = .ok resolved ∧ Q { s with depth := s.depth + 1 })
    (hrefused : ∀ s e, P s → resolveCall s name args = .error e →
      stuck e ∨ resolveCall (s.withLimit limit) name args = .error e)
    (hbody : ∀ package args body,
      (first package args body).Mirrors Q stuck limit (second package args body)) :
    (Engine.callWith first name args).Mirrors P stuck limit (Engine.callWith second name args) := by
  intro s hs
  cases hresolve : resolveCall s name args with
  | error e =>
    rw [callWith_of_error first hresolve]
    refine (hrefused s e hs hresolve).imp id fun hsame => ?_
    rw [callWith_of_error second hsame]
  | ok resolved =>
    obtain ⟨package, command, arguments⟩ := resolved
    obtain ⟨hsame, hdeeper⟩ := haccepted s _ hs hresolve
    rw [callWith_of_ok first hresolve, callWith_of_ok second hsame]
    have hrun : (Guard.call.run (first package.name arguments command.body)).Mirrors (· = s) stuck
        limit (Guard.call.run (second package.name arguments command.body)) := by
      refine (hbody package.name arguments command.body).guarded .call fun hopen heq => ?_
      cases hopen
      rw [heq]
      exact hdeeper
    have hreceive : ∀ result : Option Item,
        (receive result).Mirrors (fun _ => True) stuck limit (receive result) :=
      fun result t _ => .inr ((Routine.plain_receive result).unlimited t limit)
    exact (hrun.bind (fun _ _ _ _ _ => trivial) fun result _ => hreceive result) s rfl

/-- A run with a stand-in that comes to no end leaves the settings and the number of active calls
alone. -/
lemma steady_executeWith (barred : List Feature) (fuel : Nat) :
    (executeWith barred (halt .fuel) fuel).Every (Satisfies Steady) := by
  refine rule_executeWith rule_steady (fun s => ?_) barred fuel
  exact rule_steady.of_kin (.refl s) (by simp [halt, Outcome.ending])

/-- What the standard host is asked for has every property that is respected by all the ways of
putting permitted routines together. -/
lemma satisfies_runCallback {permits : Feature → Prop} {R : Ending → Session → Session → Prop}
    (norm : Norm permits R) (callback : Callback) : (runCallback callback).Satisfies R := by
  -- no command is called, so it does not matter what commands do
  have hidle : Exec.Every (Satisfies R) ⟨fun _ _ => pure (), fun _ => pure ""⟩ :=
    ⟨fun _ _ => norm.plain (.pure ()), fun _ => norm.plain (.pure "")⟩
  exact (Routine.permitted_runCallback callback).satisfies norm hidle

/-- What the standard host is asked for is alike under all limits. -/
lemma mirrors_runCallback {permits : Feature → Prop} (comparison : Comparison permits P stuck)
    (callback : Callback) : (runCallback callback).Mirrors P stuck limit (runCallback callback) := by
  have hpermitted : Routine.Permitted permits fun _ => runCallback callback :=
    Routine.permitted_runCallback callback
  have hnone : Host.exhausted.Pairwise (Mirrors P stuck limit) Host.exhausted :=
    ⟨fun _ _ s _ => .inl trivial, fun _ s _ => .inl trivial⟩
  have hhalt : ∀ {α : Type}, (halt .fuel : Engine α).Satisfies Steady := fun s =>
    rule_steady.of_kin (.refl s) (by simp [halt, Outcome.ending])
  have hsteady : Host.exhausted.Every (Satisfies Steady) := ⟨fun _ _ => hhalt, fun _ => hhalt⟩
  exact hpermitted.mirrors comparison hsteady hnone

/-- Bodies for which nothing stands in are alike if calls are; the others escape. -/
lemma Mirrors.barred {barred : List Feature} (comparison : Comparison (· ∉ barred) P stuck)
    {first second : Exec} (hsteady : first.Every (Satisfies Steady))
    (hexec : first.Pairwise (Mirrors P stuck limit) second) (fuel : Nat)
    (package : String) (args : Arguments) (body : Body) :
    (if barred.any body.uses then halt .fuel else runBody fuel first package args body).Mirrors P
      stuck limit (runBody fuel second package args body) := by
  by_cases hbarred : barred.any body.uses = true
  · rw [if_pos hbarred]
    exact fun s _ => .inl trivial
  · rw [if_neg hbarred]
    refine (Routine.permitted_runBody fuel package args body fun feature huses hmem => ?_).mirrors
      comparison hsteady hexec
    exact hbarred (List.any_eq_true.2 ⟨feature, hmem, huses⟩)

end Engine

end LineShell
