import LineShell.Proofs.Avoidance

/-!
# Raising the limit on active calls

The limit on active calls is looked at in one place only, when a call is accepted.  Under a higher
limit more calls are accepted, so a run can differ only after a call that the lower limit refuses.
The error of such a call comes out of the whole run as it is, provided that no supervised run
reports it and no job is started: macros, conditions and guarded runs pass it on.

Hence a run that avoids containment and jobs, and does not fail with that error, is the same under
every higher limit (`Engine.runLine_of_raised_limit`).
-/

namespace LineShell

namespace Engine

variable {barred : List Feature} {fuel limit : Nat}

/-- Runs in which no error is contained and no job is started can be compared under limits that are
not lower, up to the error of the limit. -/
lemma comparison_raised (hcontainment : .containment ∈ barred) (hjob : .job ∈ barred)
    (limit : Nat) : Comparison (· ∉ barred) (fun s => s.maxDepth ≤ limit) IsLimitError where
  steady hsetup _ hs := by
    rw [Session.maxDepth_of_setup hsetup]
    exact hs
  notEmpty := by
    rintro ⟨_, _, heq⟩
    cases heq
  uncontained h := absurd hcontainment h
  noJob h := h hjob

/-- Calls do the same under a limit that is not lower, unless they come to no end, run a barred body
or fail with the error of the limit. -/
theorem mirrors_execute (hcontainment : .containment ∈ barred) (hjob : .job ∈ barred) :
    (executeWith barred (halt .fuel) fuel).Pairwise
      (Mirrors (fun s => s.maxDepth ≤ limit) IsLimitError limit) (execute fuel) := by
  have comparison := comparison_raised hcontainment hjob limit
  induction fuel with
  | zero => exact ⟨fun _ _ s _ => .inl trivial, mirrors_runCallback comparison⟩
  | succ fuel ih =>
    refine ⟨fun name args => ?_, mirrors_runCallback comparison⟩
    rw [execute_succ]
    simp only [executeWith]
    refine Mirrors.callWith (fun s resolved hs hresolve => ⟨?_, hs⟩) (fun s e _ hresolve => ?_)
      (Mirrors.barred comparison (steady_executeWith barred fuel) ih fuel)
    · exact resolveCall_withLimit_of_ok hresolve hs
    · exact resolveCall_withLimit_of_error hresolve limit

/-- A line that avoids containment and jobs does the same under a limit that is not lower, unless it
comes to no end or fails with the error of the limit. -/
lemma runLine_mirrors {s : Session} {line : String} (hlimit : s.maxDepth ≤ limit)
    (havoids : Avoids [.containment, .job] fuel (fun exec => runLine exec line) s) :
    (runLine (execute fuel) line s).1.Escapes IsLimitError ∨
      runLine (execute fuel) line (s.withLimit limit) =
        ((runLine (execute fuel) line s).1, (runLine (execute fuel) line s).2.withLimit limit) := by
  have hcontainment : Feature.containment ∈ [Feature.containment, .job] := by decide
  have hjob : Feature.job ∈ [Feature.containment, .job] := by decide
  have hmirrors := (Routine.permitted_runLine line).mirrors
    (comparison_raised hcontainment hjob limit) (steady_executeWith _ fuel)
    (mirrors_execute hcontainment hjob) s hlimit
  have hsame : runLine (executeWith [.containment, .job] (halt .fuel) fuel) line s =
      runLine (execute fuel) line s := havoids _
  rwa [hsame] at hmirrors

/-- Two limits, the second one not lower than the first: a line that avoids containment and jobs
under the first limit, and that returns, fails with an error other than that of the limit, or
crashes, does exactly the same under the second one, and leads to the same session up to the
limit. -/
theorem runLine_of_raised_limit (s : Session) {d d' : Nat} (hle : d ≤ d') {line : String}
    (havoids : Avoids [.containment, .job] fuel (fun exec => runLine exec line) (s.withLimit d)) :
    (∀ t, runLine (execute fuel) line (s.withLimit d) = (.done (), t) →
      runLine (execute fuel) line (s.withLimit d') = (.done (), t.withLimit d')) ∧
    (∀ e t, runLine (execute fuel) line (s.withLimit d) = (.failed e, t) → ¬ IsLimitError e →
      runLine (execute fuel) line (s.withLimit d') = (.failed e, t.withLimit d')) ∧
    (∀ payload t, runLine (execute fuel) line (s.withLimit d) = (.crashed payload, t) →
      runLine (execute fuel) line (s.withLimit d') = (.crashed payload, t.withLimit d')) := by
  have hmirrors := runLine_mirrors hle havoids
  refine ⟨fun t hrun => ?_, fun e t hrun herror => ?_, fun payload t hrun => ?_⟩
  · rw [hrun] at hmirrors
    exact hmirrors.resolve_left id
  · rw [hrun] at hmirrors
    exact hmirrors.resolve_left herror
  · rw [hrun] at hmirrors
    exact hmirrors.resolve_left id

/-- An alias that needs two active calls does the same with room for seven as with room for two. -/
theorem runLine_of_raised_limit_alias :
    let custom : Package :=
      ⟨customName, .ofList [("greet", Builtin.aliasCommand "greet" "print" ["hello"])]⟩
    let s := { Session.start {} standardRegistry .empty with
      packages := ⟨nativePackage, custom, []⟩ }
    ∃ t, runLine (execute 3) "greet you" (s.withLimit 2) = (.done (), t) ∧ t.out = "hello you\n" ∧
      runLine (execute 3) "greet you" (s.withLimit 7) = (.done (), t.withLimit 7) := by
  intro custom s
  have hcomposed : Routine.Composed True fun exec => runLine exec "greet you" :=
    Routine.composed_runLine "greet you"
  let ended := runLine (executeWith [.containment, .job] (halt .fuel) 3) "greet you" (s.withLimit 2)
  have hended : ended.1 = .done () ∧ ended.2.out = "hello you\n" := by decide +kernel
  have havoids : Avoids [.containment, .job] 3 (fun exec => runLine exec "greet you")
      (s.withLimit 2) := by
    refine avoids_of_not_halted (List.Subset.refl _) hcomposed ?_
    change ended.1.ending ≠ .halted
    rw [hended.1]
    decide
  have hrun : runLine (execute 3) "greet you" (s.withLimit 2) = (.done (), ended.2) :=
    (havoids _).symm.trans (Prod.ext hended.1 rfl)
  have hraised := runLine_of_raised_limit s (by decide : 2 ≤ 7) havoids
  exact ⟨ended.2, hrun, hended.2, hraised.1 _ hrun⟩

end Engine

end LineShell
