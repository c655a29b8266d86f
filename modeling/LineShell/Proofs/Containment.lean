import LineShell.Proofs.Shelter

/-!
# What containing a crash restores

A supervised run that crashes is rolled back to a checkpoint.  The checkpoint holds the number of
frames, of local scopes, of marks and of guards, where access goes, and the number of active calls,
and rolling back takes away what is too much.  So the marks, the guards, the direction of access and
the number of calls are those of the beginning whatever the run did; frames and scopes that it
closed before the crash do not come back, and a floor that it set where frames of its caller had
stood stays.

`Engine.supervise_restores_iff` says exactly when all of this is as it was at the beginning: when at
the moment of the crash no frame and no local scope was missing, and all new floors stood above the
frames of the caller.  Otherwise it is not, as a run shows that crashes after closing what it found.
-/

namespace LineShell

/-- What guards depend on: the number of frames and the floors, the number of local scopes and the
marks, whether access goes to Global and the guards that keep it there, and the number of active
calls. -/
structure GuardState where
  frames : Nat
  floors : List Nat
  scopes : Nat
  marks : List Nat
  globalActive : Bool
  guards : Nat
  depth : Nat
  deriving DecidableEq, Repr

namespace Session

variable {s t u : Session}

/-- What guards depend on in a session. -/
def guardState (s : Session) : GuardState where
  frames := s.memory.depth
  floors := s.memory.floors
  scopes := s.scopes.depth
  marks := s.scopes.marks
  globalActive := s.scopes.globalActive
  guards := s.scopes.guards
  depth := s.depth

/-- Nothing of `s` is missing in `u`: there are as many frames and local scopes at least, and only
floors of `s` stand within the frames of `s`. -/
structure Covers (u s : Session) : Prop where
  frames : s.memory.depth ≤ u.memory.depth
  floors : ∀ floor ∈ u.memory.floors, floor ≤ s.memory.depth → floor ∈ s.memory.floors
  scopes : s.scopes.depth ≤ u.scopes.depth

/-- Rolling back leaves the smaller number of frames. -/
lemma depth_memory_restore (s u : Session) :
    (u.restore s.checkpoint).memory.depth = min u.memory.depth s.memory.depth := by
  have hlevels := congrArg Tower.levels (Memory.tower_truncate s.memory.one_le_depth u.memory)
  have hlength := congrArg List.length hlevels
  rw [Tower.length_cut] at hlength
  exact hlength

/-- Rolling back takes away the floors that are left without a frame. -/
lemma floors_restore (s u : Session) :
    (u.restore s.checkpoint).memory.floors =
      u.memory.floors.dropWhile (min u.memory.depth s.memory.depth < ·) :=
  congrArg Tower.bars (Memory.tower_truncate s.memory.one_le_depth u.memory)

/-- Rolling back leaves the smaller number of local scopes. -/
lemma depth_scopes_restore (h : s.Extends u) :
    (u.restore s.checkpoint).scopes.depth = min u.scopes.depth s.scopes.depth := by
  have hlevels := congrArg Tower.levels (Scopes.tower_restore h.scopes.bars)
  have hlength := congrArg List.length hlevels
  rw [Tower.length_cut] at hlength
  exact hlength

/-- Rolling back leaves the marks of the session that it returns to. -/
lemma marks_restore (h : s.Extends u) : (u.restore s.checkpoint).scopes.marks = s.scopes.marks :=
  congrArg Tower.bars (Scopes.tower_restore h.scopes.bars)

/-- Rolling back restores all that guards depend on exactly if nothing is missing. -/
lemma guardState_restore_eq_iff (hs : s.Sound) (h : s.Extends u) :
    (u.restore s.checkpoint).guardState = s.guardState ↔ u.Covers s := by
  have hfloors := h.memory.cut_bars_eq_iff hs.memory
  have hframes := depth_memory_restore s u
  have hscopes := depth_scopes_restore h
  constructor
  · intro heq
    have hf : (u.restore s.checkpoint).memory.depth = s.memory.depth :=
      congrArg GuardState.frames heq
    have hsc : (u.restore s.checkpoint).scopes.depth = s.scopes.depth :=
      congrArg GuardState.scopes heq
    have hfl : (u.restore s.checkpoint).memory.floors = s.memory.floors :=
      congrArg GuardState.floors heq
    rw [floors_restore] at hfl
    exact ⟨by omega, hfloors.1 hfl, by omega⟩
  · intro hcovers
    have hf := hcovers.frames
    have hsc := hcovers.scopes
    have hfl : (u.restore s.checkpoint).memory.floors = s.memory.floors := by
      rw [floors_restore]
      exact hfloors.2 hcovers.floors
    have hframes' : (u.restore s.checkpoint).memory.depth = s.memory.depth := by omega
    have hscopes' : (u.restore s.checkpoint).scopes.depth = s.scopes.depth := by omega
    simp only [guardState, hframes', hfl, hscopes', marks_restore h]
    rfl

/-- Guards do not depend on output and the like. -/
lemma Alike.guardState_eq (h : s.Alike t) : t.guardState = s.guardState := by
  simp only [guardState, h.memory, h.scopes, h.depth]

end Session

/-! ### When a barrier is in the way -/

/-- Without floors, only the last frame cannot be closed. -/
lemma Memory.depth_eq_one_of_closeFrame {m : Memory} {e : Error} (hfloors : m.floors = [])
    (h : m.closeFrame = .error e) : m.depth = 1 := by
  have hpos := m.one_le_depth
  have hfloor : m.floor = 1 := by simp [floor, hfloors]
  unfold closeFrame at h
  split at h
  · omega
  · cases hbelow : m.below with
    | nil => simp [depth, hbelow]
    | cons next below => simp [hbelow] at h

/-- Without marks, only the outermost local scope cannot be left, unless access goes to Global. -/
lemma Scopes.depth_eq_one_of_exitScope {sc : Scopes} {e : Error} (hmarks : sc.marks = [])
    (h : sc.exitScope = .error e) : sc.globalActive = true ∨ sc.depth = 1 := by
  unfold exitScope at h
  split at h
  · exact .inl ‹_›
  · cases houter : sc.outer with
    | nil => exact .inr (by simp [depth, houter])
    | cons next outer => simp [houter, hmarks] at h

namespace Engine

/-- A supervised run that crashes, in any session that can come up and at any point of anything that
is put together from steps, calls and guarded, supervised and captured runs, returns `false` with
the marks, the direction of access, the guards and the number of active calls of the beginning.  All
that guards depend on is as it was at the beginning exactly if at the moment of the crash nothing of
it was missing.  In that case, where there is no floor, only the last frame cannot be closed
afterwards; and where there is no mark, only the outermost local scope cannot be left, unless access
goes to Global. -/
theorem supervise_restores_iff {s u : Session} (hs : s.Reachable) {fuel : Nat}
    {body : Routine Unit} (hbody : body.Composed True) {payload : CrashPayload}
    (hcrash : body (execute fuel) s = (.crashed payload, u)) (source : String) :
    ∃ t, supervise source (body (execute fuel)) s = (.done false, t) ∧
      (t.guardState = s.guardState ↔ u.Covers s) ∧
      t.scopes.marks = s.scopes.marks ∧ t.scopes.globalActive = s.scopes.globalActive ∧
      t.scopes.guards = s.scopes.guards ∧ t.depth = s.depth ∧
      (s.memory.floors = [] → u.Covers s → ∀ e, t.memory.closeFrame = .error e →
        t.memory.depth = 1) ∧
      (s.scopes.marks = [] → ∀ e, t.scopes.exitScope = .error e →
        t.scopes.globalActive = true ∨ t.scopes.depth = 1) := by
  have hext : s.Extends u := by
    have hrun := hbody.extends .standard fuel hs.sound
    rwa [hcrash] at hrun
  have hmarks := Session.marks_restore hext
  have hiff := Session.guardState_restore_eq_iff hs.sound hext
  have hsupervise : supervise source (body (execute fuel)) s = (.done false,
      (u.restore s.checkpoint).errorLine
        (source ++ ": " ++ (Error.unexpected source payload.text).message)) := by
    simp only [supervise, hcrash]
  have halike := alike_errorLine (u.restore s.checkpoint)
    (source ++ ": " ++ (Error.unexpected source payload.text).message)
  refine ⟨_, hsupervise, ?_, ?_, ?_, ?_, halike.depth, ?_, ?_⟩
  · rw [halike.guardState_eq]
    exact hiff
  · rw [halike.scopes]
    exact hmarks
  · rw [halike.scopes]
    rfl
  · rw [halike.scopes]
    rfl
  · rw [halike.memory]
    intro hfloors hcovers e
    have hkept : (u.restore s.checkpoint).memory.floors = s.memory.floors :=
      congrArg GuardState.floors (hiff.2 hcovers)
    exact Memory.depth_eq_one_of_closeFrame (hkept.trans hfloors)
  · rw [halike.scopes]
    intro hnone e
    exact Scopes.depth_eq_one_of_exitScope (hmarks.trans hnone)

/-- Built-in commands, and then a crash in an isolated run. -/
def crashAfter (commands : List (Builtin × List String)) : Routine Unit := fun exec => do
  Routine.builtins commands exec
  isolated (crash .other)

/-- Such a run is put together from steps and guarded runs. -/
lemma composed_crashAfter (commands : List (Builtin × List String)) :
    (crashAfter commands).Composed True :=
  .bind (Routine.composed_builtins commands) fun _ => .isolated (.crash trivial .other)

/-- A run that opens a frame and a scope before it crashes is rolled back completely. -/
theorem supervise_restores_of_opening :
    let s := Session.start {} standardRegistry .empty
    let body := crashAfter [(.memory .pushFrame, []), (.scope .enterScope, [])]
    (body (execute 0) s).1 = .crashed .other ∧
      (supervise "run" (body (execute 0)) s).2.guardState = s.guardState := by
  intro s body
  have hcrash : body (execute 0) s = (.crashed .other, (body (execute 0) s).2) := rfl
  obtain ⟨t, hrun, hiff, -⟩ :=
    supervise_restores_iff (.start _ _ _) (composed_crashAfter _) hcrash "run"
  refine ⟨rfl, ?_⟩
  rw [hrun]
  exact hiff.2 ⟨by decide, by decide, by decide⟩

/-- A run that closes a frame and leaves a scope before it crashes is not: the scope does not come
back, and the floor that it set stays on a frame that belongs to no isolated run, so that frame
cannot be closed although it is not the last one. -/
theorem supervise_not_restoring_after_closing :
    let s := (Routine.builtins [(.memory .pushFrame, []), (.scope .enterScope, [])] (execute 0)
      (.start {} standardRegistry .empty)).2
    let body := crashAfter [(.memory .popFrame, []), (.scope .exitScope, [])]
    let ended := supervise "run" (body (execute 0)) s
    s.Reachable ∧ body.Composed True ∧ (body (execute 0) s).1 = .crashed .other ∧
      ended.1 = .done false ∧
      s.guardState = ⟨2, [], 2, [], false, 0, 0⟩ ∧
      ended.2.guardState = ⟨2, [2], 1, [], false, 0, 0⟩ ∧
      ended.2.memory.closeFrame = .error (.frame .isolated) := by
  intro s body ended
  refine ⟨?_, composed_crashAfter _, rfl, rfl, rfl, rfl, rfl⟩
  exact .run (.start _ _ _) (Routine.composed_builtins _) .standard 0

end Engine

end LineShell
