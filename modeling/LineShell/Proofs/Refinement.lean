import LineShell.Proofs.Routine.Interpreter

/-!
# Runs that are the same as far as they come to an end

One action *refines* another if both do the same, except that the first one may come to no end
where the other one goes on.  This is respected by all ways of putting routines together
(`Routine.Composed.refines`): what is found out with calls that stop here or there holds of the
actual run, if none of them did stop.
-/

namespace LineShell

namespace Engine

variable {α β : Type}

/-- Two actions that do the same, unless the first one comes to no end. -/
def Refines (first second : Engine α) : Prop :=
  ∀ s, (first s).1.ending ≠ .halted → second s = first s

/-! ### Ways of putting routines together -/

/-- Two such actions do the same, or the first one comes to no end. -/
lemma Refines.eq_or_halted {first second : Engine α} (h : first.Refines second) (s : Session) :
    second s = first s ∨ ∃ reason t, first s = (.halted reason, t) := by
  rcases hrun : first s with ⟨a | e | p | r, t⟩
  · exact .inl (hrun ▸ h s (by simp [hrun, Outcome.ending]))
  · exact .inl (hrun ▸ h s (by simp [hrun, Outcome.ending]))
  · exact .inl (hrun ▸ h s (by simp [hrun, Outcome.ending]))
  · exact .inr ⟨r, t, rfl⟩

/-- One action after another. -/
lemma Refines.bind {first second : Engine α} {next next' : α → Engine β}
    (h : first.Refines second)
    (hnext : ∀ a, (∃ s t, first s = (.done a, t)) → (next a).Refines (next' a)) :
    (first >>= next).Refines (second >>= next') := by
  intro s hended
  change Engine.bind second next' s = Engine.bind first next s
  change (Engine.bind first next s).1.ending ≠ .halted at hended
  unfold Engine.bind at hended ⊢
  rcases h.eq_or_halted s with heq | ⟨reason, t, hhalted⟩
  · rw [heq]
    rcases hrun : first s with ⟨a | e | p | r, t⟩
    · rw [hrun] at hended
      exact hnext a ⟨s, t, hrun⟩ t hended
    all_goals rfl
  · rw [hhalted] at hended
    exact absurd rfl hended

/-- An action and what is done on its error. -/
lemma Refines.handle {first second : Engine α} {handler handler' : Error → Engine α}
    (h : first.Refines second) (hhandler : ∀ e, (handler e).Refines (handler' e)) :
    (first.handle handler).Refines (second.handle handler') := by
  intro s hended
  unfold Engine.handle at hended ⊢
  rcases h.eq_or_halted s with heq | ⟨reason, t, hhalted⟩
  · rw [heq]
    rcases hrun : first s with ⟨a | e | p | r, t⟩
    · rfl
    · rw [hrun] at hended
      exact hhandler e t hended
    all_goals rfl
  · rw [hhalted] at hended
    exact absurd rfl hended

/-- An action under a guard. -/
lemma Refines.guarded (guard : Guard) {first second : Engine α} (h : first.Refines second) :
    (guard.run first).Refines (guard.run second) := by
  intro s hended
  cases hopen : guard.opens s with
  | error e => simp [Guard.run, hopen]
  | ok opened =>
    obtain ⟨t, close⟩ := opened
    rw [Guard.run_of_opens hopen] at hended
    rw [Guard.run_of_opens hopen, Guard.run_of_opens hopen, h t hended]

/-- An action under supervision. -/
lemma Refines.supervised (source : String) {first second : Engine Unit}
    (h : first.Refines second) : (supervise source first).Refines (supervise source second) := by
  intro s hended
  rcases h.eq_or_halted s with heq | ⟨reason, t, hhalted⟩
  · simp only [supervise, heq]
  · simp [supervise, hhalted, Outcome.ending] at hended

/-- An action whose output is kept apart. -/
lemma Refines.captured {first second : Engine Bool} (h : first.Refines second) :
    (capture first).Refines (capture second) := by
  intro s hended
  rcases h.eq_or_halted { s with out := "", err := "" } with heq | ⟨reason, t, hhalted⟩
  · simp only [capture, heq]
  · simp [capture, hhalted, Outcome.ending] at hended

/-- Starting a job. -/
lemma Refines.job {first second : Exec} {name : String} {args : List String}
    (h : (first name args).Refines (second name args)) :
    (startJob first name args).Refines (startJob second name args) := by
  intro s hended
  rw [startJob] at hended
  rw [startJob, startJob]
  cases hfault : threadFault? s.maxDepth with
  | some fault => rfl
  | none =>
    rw [hfault] at hended
    rcases (h.supervised name).eq_or_halted { s.fork with out := "", err := "" } with
      heq | ⟨reason, t, hhalted⟩
    · simp only [heq]
    · simp [hhalted, Outcome.ending] at hended

end Engine

/-- Routines that are put together in the same way do the same if the calls of commands and macros
do, unless they come to no end. -/
theorem Routine.Composed.refines {α : Type} {loose : Prop} {first second : Exec}
    (hexec : first.Pairwise Engine.Refines second) {routine : Routine α}
    (h : Composed loose routine) : (routine first).Refines (routine second) := by
  induction h with
  | call name args => exact hexec.command name args
  | callback callback => exact hexec.callback callback
  | leaf step crash => exact fun s _ => rfl
  | sequence _ _ ihfirst ihnext =>
    refine ihfirst.bind fun a ha => ihnext a ?_
    obtain ⟨s, t, hrun⟩ := ha
    exact ⟨first, s, t, hrun⟩
  | handle _ _ ihbody ihhandler => exact ihbody.handle ihhandler
  | guarded guard _ ih => exact ih.guarded guard
  | supervised source _ ih => exact ih.supervised source
  | captured _ ih => exact ih.captured
  | job name args => exact (hexec.command name args).job

end LineShell
