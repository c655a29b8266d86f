import LineShell.Proofs.Avoidance

/-!
# The limit on active calls makes runs end

Macros, aliases, scripts and sourced files may call each other without end.  What ends a run is the
limit on active calls: a call is accepted only below it, and everything a body does besides calling
commands ends by itself, unless the body makes rounds without a bound or starts a job, which counts
its calls anew.

So fuel for the calls that are left until the limit is enough for every run that avoids these two
features (`Engine.runLine_terminates`), and more fuel changes nothing.  That no more calls are
active than the limit allows is said without the counter of the session: `Engine.executeInRoom`
comes to no end where the body of a command would be run inside too many others, and it does the
same as the interpreter.
-/

namespace LineShell

/-- There is fuel for all calls that the limit leaves, and all files can be read. -/
structure Session.Fuelled (fuel : Nat) (s : Session) : Prop where
  files : s.files.complete = true
  room : s.maxDepth - s.depth < fuel

/-- That depends on the settings and the number of active calls only. -/
lemma Session.Fuelled.of_steady {fuel : Nat} {s t : Session} (h : s.Fuelled fuel)
    (hsetup : t.setup = s.setup) (hdepth : t.depth = s.depth) : t.Fuelled fuel := by
  have hfiles : t.files = s.files := congrArg Setup.files hsetup
  refine ⟨?_, ?_⟩
  · rw [hfiles]
    exact h.files
  · rw [maxDepth_of_setup hsetup, hdepth]
    exact h.room

/-- Inside an accepted call, fuel for one call less is enough. -/
lemma Session.Fuelled.deeper {fuel : Nat} {s : Session} (h : s.Fuelled (fuel + 1))
    (hroom : s.depth < s.maxDepth) : ({ s with depth := s.depth + 1 } : Session).Fuelled fuel := by
  refine ⟨h.files, ?_⟩
  have hleft := h.room
  change s.maxDepth - (s.depth + 1) < fuel
  omega

namespace Engine

variable {α : Type} {permits : Feature → Prop} {mayCrash : Prop} {fuel : Nat}

/-! ### Runs with enough fuel end -/

/-- With enough fuel a run comes to an end, by a crash only if it may crash. -/
def Ends (mayCrash : Prop) (fuel : Nat) (e : Ending) (s t : Session) : Prop :=
  s.Fuelled fuel → e ≠ .halted ∧ (e = .crashed → mayCrash) ∧ Steady e s t

/-- This is respected by all the ways of putting routines together that use no loops and no jobs. -/
lemma norm_ends (hloop : ¬ permits .loop) (hjob : ¬ permits .job)
    (hcrash : permits .crash → mayCrash) (fuel : Nat) : Norm permits (Ends mayCrash fuel) where
  plain h s hs := by
    have hreturns := h.returns s hs.files
    rw [hreturns]
    exact ⟨by decide, by simp, (h.turn s).setup, fun _ => (h.turn s).depth⟩
  trans hst htu hs := by
    obtain ⟨-, -, hsteady⟩ := hst hs
    obtain ⟨hended, hcrashed, hsteady'⟩ := htu (hs.of_steady hsteady.1 (hsteady.2 rfl))
    exact ⟨hended, hcrashed, rule_steady.trans hsteady hsteady'⟩
  report text h hs := by
    obtain ⟨hended, hcrashed, hsteady⟩ := h hs
    exact ⟨hended, hcrashed, rule_steady.report text hsteady⟩
  guarded hguard hopen h hs := by
    obtain ⟨hsetup, hdepth⟩ := Guard.steady_of_opens hguard hopen
    obtain ⟨hended, hcrashed, hsteady⟩ := h (hs.of_steady hsetup hdepth)
    refine ⟨hended, hcrashed, rule_steady.guarded hopen (fun hcall => absurd hcall hguard) hsteady⟩
  contained _ {s t} h hs := by
    obtain ⟨-, -, hsteady⟩ := h hs
    exact ⟨by decide, by simp, rule_steady.contained hsteady⟩
  halted h := absurd h hloop
  crashed h s _ := ⟨by decide, fun _ => hcrash h, rfl, fun he => absurd he (by decide)⟩
  job h := absurd h hjob

/-- A call comes to an end with fuel for one call more than its body needs. -/
lemma ends_callWith {run : String → Arguments → Body → Engine (Option Item)}
    (hrun : ∀ package args body, (run package args body).Satisfies (Ends mayCrash fuel))
    (name : String) (args : List String) :
    (callWith run name args).Satisfies (Ends mayCrash (fuel + 1)) := by
  have norm : Norm (fun _ => False) (Ends mayCrash (fuel + 1)) :=
    norm_ends id id False.elim (fuel + 1)
  refine Satisfies.callWith_deeper norm (fun {e s t} hroom h hs => ?_) hrun name args
  obtain ⟨hended, hcrashed, hsteady⟩ := h (hs.deeper hroom)
  exact ⟨hended, hcrashed, rule_steady.guarded (Guard.call_opens s) (fun _ => hroom) hsteady⟩

/-- With enough fuel all calls come to an end, if nothing is done in place of loops and jobs. -/
lemma ends_executeWith {barred : List Feature} (hloop : .loop ∈ barred) (hjob : .job ∈ barred)
    (hcrash : .crash ∉ barred → mayCrash) (fuel : Nat) :
    (executeWith barred (pure none) fuel).Every (Satisfies (Ends mayCrash fuel)) := by
  have norm (fuel : Nat) : Norm (· ∉ barred) (Ends mayCrash fuel) :=
    norm_ends (fun h => h hloop) (fun h => h hjob) hcrash fuel
  have hcallback (fuel : Nat) (callback : Callback) :
      (runCallback callback).Satisfies (Ends mayCrash fuel) :=
    satisfies_runCallback (norm fuel) callback
  induction fuel with
  | zero => exact ⟨fun _ _ s hs => absurd hs.room (Nat.not_lt_zero _), hcallback 0⟩
  | succ fuel ih =>
    refine ⟨ends_callWith fun package arguments body => ?_, hcallback (fuel + 1)⟩
    by_cases hbarred : barred.any body.uses = true
    · rw [if_pos hbarred]
      exact (norm fuel).plain (.pure none)
    · rw [if_neg hbarred]
      refine (Routine.permitted_runBody fuel package arguments body fun feature huses hmem => ?_)
        |>.satisfies (norm fuel) ih
      exact hbarred (List.any_eq_true.2 ⟨feature, hmem, huses⟩)

/-- With enough fuel a run that avoids loops and jobs comes to an end, by a crash only if that is
not avoided. -/
lemma ends_of_avoids {barred : List Feature} (hloop : .loop ∈ barred) (hjob : .job ∈ barred)
    (hcrash : .crash ∉ barred → mayCrash) {routine : Routine α}
    (hroutine : routine.Permitted (· ∉ barred)) {s : Session} (hs : s.Fuelled fuel)
    (havoids : Avoids barred fuel routine s) :
    (routine (execute fuel) s).1.ending ≠ .halted ∧
      ((routine (execute fuel) s).1.ending = .crashed → mayCrash) := by
  have norm : Norm (· ∉ barred) (Ends mayCrash fuel) :=
    norm_ends (fun h => h hloop) (fun h => h hjob) hcrash fuel
  have hends := hroutine.satisfies norm (ends_executeWith hloop hjob hcrash fuel) s hs
  rw [havoids] at hends
  exact ⟨hends.1, hends.2.1⟩

/-! ### More fuel changes nothing -/

/-- A loop with more rounds does the same, unless its rounds are used up. -/
lemma refines_callWhile {test : Engine Bool} {call : Engine Unit} {more : Nat}
    (h : fuel ≤ more) :
    (Builtin.callWhile test call fuel).Refines (Builtin.callWhile test call more) := by
  induction fuel generalizing more with
  | zero => exact fun s hended => absurd rfl hended
  | succ fuel ih =>
    obtain ⟨more, rfl⟩ : ∃ m, more = m + 1 := ⟨more - 1, by omega⟩
    rw [Routine.callWhile_succ, Routine.callWhile_succ]
    refine Refines.bind (fun s _ => rfl) fun b _ => ?_
    cases b with
    | false => exact fun s _ => rfl
    | true => exact Refines.bind (fun s _ => rfl) fun _ _ => ih (by omega)

/-- A body with more fuel does the same, unless that is used up: only a loop takes any. -/
lemma refines_runBody {more : Nat} (h : fuel ≤ more) (exec : Exec) (package : String)
    (args : Arguments) (body : Body) :
    (runBody fuel exec package args body).Refines (runBody more exec package args body) := by
  cases body with
  | builtin command =>
    cases command with
    | control command =>
      cases command with
      | whileTrue =>
        refine Refines.bind (fun s _ => rfl) fun line _ => ?_
        refine Refines.bind (fun s _ => rfl) fun call _ => ?_
        exact (refines_callWhile h).bind fun _ _ s _ => rfl
      | _ => exact fun s _ => rfl
    | _ => exact fun s _ => rfl
  | _ => exact fun s _ => rfl

/-- A call with more fuel does the same, unless that is used up. -/
theorem refines_execute {more : Nat} (h : fuel ≤ more) :
    (execute fuel).Pairwise Refines (execute more) := by
  induction fuel generalizing more with
  | zero =>
    refine ⟨fun _ _ s hended => absurd rfl hended, fun callback s _ => ?_⟩
    rw [callback_execute, callback_execute]
  | succ fuel ih =>
    obtain ⟨more, rfl⟩ : ∃ m, more = m + 1 := ⟨more - 1, by omega⟩
    have hle : fuel ≤ more := by omega
    refine ⟨fun name args => ?_, fun callback s _ => rfl⟩
    rw [execute_succ, execute_succ]
    refine Refines.callWith (fun package arguments body s hended => ?_) name args
    have hcalls : runBody fuel (execute more) package arguments body s =
        runBody fuel (execute fuel) package arguments body s :=
      (Host.Composed.standard.runBody fuel package arguments body).refines (ih hle) s hended
    have hloops := refines_runBody hle (execute more) package arguments body s
    exact (hloops (by rwa [hcalls])).trans hcalls

/-! ### Room for active calls -/

/-- Calls a command where there is room for a number of active calls: the call comes to no end where
the body of a command would be run inside so many others. -/
def executeInRoom (room : Nat) : (fuel : Nat) → Exec
  | 0 => ⟨fun _ _ => halt .fuel, runCallback⟩
  | fuel + 1 => ⟨callWith fun package args body =>
      match room with
      | 0 => halt .fuel
      | room + 1 => runBody fuel (executeInRoom room fuel) package args body, runCallback⟩

/-- The host program does what its probes and transformations say. -/
@[simp] lemma callback_executeInRoom (room fuel : Nat) :
    (executeInRoom room fuel).callback = runCallback := by
  cases room <;> cases fuel <;> rfl

/-- There is room for all calls that the limit leaves. -/
structure Roomy (limit room : Nat) (s : Session) : Prop where
  limit_eq : s.maxDepth = limit
  le_depth : limit ≤ s.depth + room

/-- Runs that start no job can be compared where there is room. -/
lemma comparison_roomy {barred : List Feature} (hjob : .job ∈ barred) (limit room : Nat) :
    Comparison (· ∉ barred) (Roomy limit room) fun _ => False where
  steady hsetup hdepth hs :=
    ⟨(Session.maxDepth_of_setup hsetup).trans hs.limit_eq, hdepth ▸ hs.le_depth⟩
  notEmpty := id
  uncontained _ _ := id
  noJob h := h hjob

/-- Where there is room for all calls that the limit leaves, calls do the same as without a bound on
the room, as far as they use no loops and no jobs and do not run out of fuel. -/
lemma mirrors_executeInRoom {barred : List Feature} (hjob : .job ∈ barred) (limit room : Nat) :
    (executeWith barred (halt .fuel) fuel).Pairwise
      (Mirrors (Roomy limit room) (fun _ => False) limit) (executeInRoom room fuel) := by
  induction fuel generalizing room with
  | zero =>
    refine ⟨fun _ _ s _ => .inl trivial, fun callback => ?_⟩
    rw [callback_executeWith, callback_executeInRoom]
    exact mirrors_runCallback (comparison_roomy hjob limit room) callback
  | succ fuel ih =>
    refine ⟨fun name args => ?_, fun callback => ?_⟩
    case refine_2 =>
      rw [callback_executeWith, callback_executeInRoom]
      exact mirrors_runCallback (comparison_roomy hjob limit room) callback
    have hrefused : ∀ s e, Roomy limit room s → resolveCall s name args = .error e →
        False ∨ resolveCall (s.withLimit limit) name args = .error e := by
      intro s e hs hresolve
      rw [← hs.limit_eq, Session.withLimit_maxDepth]
      exact .inr hresolve
    cases room with
    | zero =>
      -- no call is accepted: the limit is reached
      simp only [executeWith, executeInRoom]
      refine Mirrors.callWith (fun s resolved hs hresolve => ?_) hrefused
        fun package arguments body s (hs : False) => hs.elim
      have hroom := (resolveCall_eq_ok hresolve).2
      have hlimit := hs.limit_eq
      have hdepth := hs.le_depth
      omega
    | succ room =>
      simp only [executeWith, executeInRoom]
      refine Mirrors.callWith (fun s resolved hs hresolve => ⟨?_, hs.limit_eq, ?_⟩) hrefused
        (Mirrors.barred (comparison_roomy hjob limit room) (steady_executeWith barred fuel)
          (ih room) fuel)
      · exact resolveCall_withLimit_of_ok hresolve (Nat.le_of_eq hs.limit_eq)
      · have hdepth := hs.le_depth
        change limit ≤ s.depth + 1 + room
        omega

/-! ### Lines end -/

/-- In every session in which all files can be read, whatever macros, aliases, scripts, packages and
limit there are: with fuel for one call more than the limit leaves, every line that avoids loops and
jobs comes to an end, and if no body crashes either, it returns or fails.  More fuel leads to the
same run, and at no time are more calls active than the limit leaves. -/
theorem runLine_terminates {s : Session} (hfiles : s.files.complete = true)
    (hfuel : s.maxDepth - s.depth < fuel) {line : String}
    (havoids : Avoids [.loop, .job] fuel (fun exec => runLine exec line) s) :
    (runLine (execute fuel) line s).1.ending ≠ .halted ∧
    (Avoids [.loop, .job, .crash] fuel (fun exec => runLine exec line) s →
      (runLine (execute fuel) line s).1.ending = .returned) ∧
    (∀ more, fuel ≤ more → runLine (execute more) line s = runLine (execute fuel) line s) ∧
    runLine (executeInRoom (s.maxDepth - s.depth) fuel) line s =
      runLine (execute fuel) line s := by
  have hs : s.Fuelled fuel := ⟨hfiles, hfuel⟩
  obtain ⟨hended, -⟩ : (runLine (execute fuel) line s).1.ending ≠ .halted ∧
      ((runLine (execute fuel) line s).1.ending = .crashed → True) :=
    ends_of_avoids (by decide) (by decide) (fun _ => trivial) (Routine.permitted_runLine line) hs
      havoids
  refine ⟨hended, fun hcrash => ?_, fun more hmore => ?_, ?_⟩
  · obtain ⟨-, hnocrash⟩ := ends_of_avoids (by decide) (by decide) (fun h => h (by decide))
      (Routine.permitted_runLine line) hs hcrash
    cases hending : (runLine (execute fuel) line s).1.ending with
    | returned => rfl
    | crashed => exact (hnocrash hending).elim
    | halted => exact absurd hending hended
  · have hcomposed : Routine.Composed True fun exec => runLine exec line :=
      Routine.composed_runLine line
    exact hcomposed.refines (refines_execute hmore) s hended
  · have hroomy : Roomy s.maxDepth (s.maxDepth - s.depth) s := ⟨rfl, by omega⟩
    have hjob : Feature.job ∈ [Feature.loop, .job] := by decide
    have hmirrors := (Routine.permitted_runLine line).mirrors (comparison_roomy hjob _ _)
      (steady_executeWith [.loop, .job] fuel) (mirrors_executeInRoom hjob _ _) s hroomy
    have hsame : runLine (executeWith [.loop, .job] (halt .fuel) fuel) line s =
        runLine (execute fuel) line s := havoids _
    have hlimit : (runLine (execute fuel) line s).2.maxDepth = s.maxDepth :=
      Session.maxDepth_of_setup ((Routine.regular_runLine line).setup_eq fuel s)
    have hback : (runLine (execute fuel) line s).2.withLimit s.maxDepth =
        (runLine (execute fuel) line s).2 := by
      rw [← hlimit]
      exact Session.withLimit_maxDepth _
    rw [hsame, hback] at hmirrors
    rcases hmirrors with hescapes | heq
    · rcases hescapes.halted_or_stuck with hhalted | ⟨e, -, hfalse⟩
      · exact absurd hhalted hended
      · exact hfalse.elim
    · exact heq

/-- A macro stands for what a line prints that holds the same macro: the limit ends the line, with
any amount of fuel. -/
theorem runLine_terminates_of_recursive_macro :
    let macros : NameMap Macro := .ofList [("again", .call "run" ["print again"])]
    let s := { Session.start { maxDepth := 3 } standardRegistry .empty with macros }
    (runLine (execute 4) "print again" s).1 = .failed (.frame (.callDepth 3 "run")) ∧
      (runLine (execute 4) "print again" s).1.ending = .returned ∧
      ∀ more, 4 ≤ more →
        runLine (execute more) "print again" s = runLine (execute 4) "print again" s := by
  intro macros s
  have hcomposed : Routine.Composed True fun exec => runLine exec "print again" :=
    Routine.composed_runLine "print again"
  -- no loop, no job and no crash is met on the way to the limit
  have hrun : (runLine (executeWith [.loop, .job, .crash] (halt .fuel) 4) "print again" s).1 =
      .failed (.frame (.callDepth 3 "run")) := by decide +kernel
  have hended : (runLine (executeWith [.loop, .job, .crash] (halt .fuel) 4) "print again"
      s).1.ending ≠ .halted := by
    rw [hrun]
    decide
  have hcrash : Avoids [.loop, .job, .crash] 4 (fun exec => runLine exec "print again") s :=
    avoids_of_not_halted (List.Subset.refl _) hcomposed hended
  have hloop : Avoids [.loop, .job] 4 (fun exec => runLine exec "print again") s :=
    avoids_of_not_halted (by simp) hcomposed hended
  have hsame : runLine (executeWith [.loop, .job, .crash] (halt .fuel) 4) "print again" s =
      runLine (execute 4) "print again" s := hcrash _
  obtain ⟨-, hreturned, hmore, -⟩ := runLine_terminates rfl (by decide) hloop
  exact ⟨hsame ▸ hrun, hreturned hcrash, hmore⟩

end Engine

end LineShell
