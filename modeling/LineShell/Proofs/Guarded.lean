import LineShell.Proofs.Shelter

/-!
# Guarded runs give back what they found

An isolated run leaves the frames and the floors of its caller exactly as they were, and a run in a
temporary scope the local scopes, the marks and the direction of access, whatever is run in them and
whether it succeeds or fails.  This holds in every session that can come up, and it carries over to
the commands that are made of such runs: to `isolated`, to the conditions of loops and the macros
that stand for a result, and to scripts and `scoped`.

Both are cases of `Engine.Keeps`, which also says what is left if the run crashes: everything is
still there then, only not on top.
-/

namespace LineShell

namespace Engine

variable {α β γ δ : Type} {view : Session → γ} {levels : γ → List δ} {s : Session}

/-- However an action ends, the levels that it found are still there at the bottom; and if it
returns, then all that is in view is as it was. -/
def Keeps (view : Session → γ) (levels : γ → List δ) (action : Engine α) (s : Session) : Prop :=
  levels (view s) <:+ levels (view (action s).2) ∧
    ((action s).1.ending = .returned → view (action s).2 = view s)

/-! ### Actions around a guarded run -/

/-- An action that changes nothing in view keeps it. -/
lemma keeps_of_eq {action : Engine α} (h : view (action s).2 = view s) :
    action.Keeps view levels s :=
  ⟨h ▸ List.suffix_rfl, fun _ => h⟩

/-- What comes after an action that keeps a view may not change anything in it. -/
lemma Keeps.bind {first : Engine α} {next : α → Engine β} (h : first.Keeps view levels s)
    (hnext : ∀ a t, first s = (.done a, t) → view (next a t).2 = view t) :
    (first >>= next).Keeps view levels s := by
  change (Engine.bind first next).Keeps view levels s
  obtain ⟨hlevels, hview⟩ := h
  unfold Keeps Engine.bind
  rcases hrun : first s with ⟨a | e | p | r, t⟩ <;> rw [hrun] at hlevels hview
  · have hsame : view t = view s := hview rfl
    have hlast := (hnext a t hrun).trans hsame
    exact ⟨hlast ▸ List.suffix_rfl, fun _ => hlast⟩
  all_goals exact ⟨hlevels, hview⟩

/-- What comes before an action that keeps a view may look at the session. -/
lemma keeps_bind {first : Engine α} {next : α → Engine β} (hfirst : (first s).2 = s)
    (hnext : ∀ a, first s = (.done a, s) → (next a).Keeps view levels s) :
    (first >>= next).Keeps view levels s := by
  change (Engine.bind first next).Keeps view levels s
  unfold Keeps Engine.bind
  rcases hrun : first s with ⟨a | e | p | r, t⟩ <;> rw [hrun] at hfirst <;> cases hfirst
  · exact hnext a hrun
  all_goals exact ⟨List.suffix_rfl, fun _ => rfl⟩

/-- An error may be replaced. -/
lemma Keeps.handle_fail {body : Engine α} {error : Error → Error} (h : body.Keeps view levels s) :
    (body.handle fun e => fail (error e)).Keeps view levels s := by
  obtain ⟨hlevels, hview⟩ := h
  unfold Keeps Engine.handle
  rcases hrun : body s with ⟨a | e | p | r, t⟩ <;> rw [hrun] at hlevels hview
  all_goals exact ⟨hlevels, hview⟩

/-- What returns a value or an error looks at nothing. -/
lemma ofExcept_snd (x : Except Error α) (s : Session) : (ofExcept x s).2 = s := by
  cases x <;> rfl

/-- What is returned at once is the value that was given. -/
lemma eq_ok_of_ofExcept {x : Except Error α} {a : α} {t : Session}
    (h : ofExcept x s = (.done a, t)) : x = .ok a := by
  cases x with
  | error e => simp [ofExcept, fail] at h
  | ok b =>
    have heq : Outcome.done b = .done a := congrArg Prod.fst h
    rw [Outcome.done.inj heq]

/-- The count of active calls is not in view. -/
lemma Keeps.call {body : Engine α}
    (hview : ∀ (t : Session) (n : Nat), view { t with depth := n } = view t)
    (h : body.Keeps view levels { s with depth := s.depth + 1 }) :
    (Guard.call.run body).Keeps view levels s := by
  obtain ⟨hlevels, hsame⟩ := h
  rw [hview s] at hlevels hsame
  have hlast : view (Guard.call.run body s).2 = view (body { s with depth := s.depth + 1 }).2 := by
    rw [Guard.run_of_opens rfl]
    dsimp only
    split
    · exact hview _ _
    · rfl
  unfold Keeps
  rw [hlast]
  exact ⟨hlevels, fun h => hsame (by rwa [Guard.run_of_opens rfl] at h)⟩

/-- A call keeps a view if the body of its command does so and gives no value. -/
lemma keeps_execute {name : String} {package : Package} {command : Command}
    (hview : ∀ (t : Session) (n : Nat), view { t with depth := n } = view t)
    (hresolve : s.packages.resolve? name = some (package, command))
    (hbody : ∀ fuel args, (runBody fuel (execute fuel) package.name args command.body).Keeps
      view levels { s with depth := s.depth + 1 })
    (hnone : ∀ fuel args item t,
      (runBody fuel (execute fuel) package.name args command.body t).1 = .done item → item = none)
    (fuel : Nat) (args : List String) : (execute fuel name args).Keeps view levels s := by
  cases fuel with
  | zero => exact keeps_of_eq rfl
  | succ fuel =>
    change (Host.standard.dispatch fuel (execute fuel) name args).Keeps view levels s
    rw [Host.dispatch_eq]
    refine keeps_bind rfl fun t ht => ?_
    cases ht
    refine keeps_bind (ofExcept_snd _ s) fun resolved hresolved => ?_
    obtain ⟨package', command', arguments⟩ := resolved
    have hfound := resolve?_of_resolveCall (eq_ok_of_ofExcept hresolved)
    rw [hresolve] at hfound
    cases hfound
    refine ((hbody fuel arguments).call hview).bind fun item t hrun => ?_
    have hitem : item = none := by
      rw [Guard.run_of_opens rfl] at hrun
      exact hnone fuel arguments item _ (congrArg Prod.fst hrun)
    rw [hitem]
    rfl

/-- An action that ends without a value gives none. -/
lemma eq_none_of_bind {body : Engine α} {item : Option β} {t : Session}
    (h : ((do let _ ← body; return none) t : Outcome (Option β) × Session).1 = .done item) :
    item = none := by
  obtain ⟨a, u, -, hlast⟩ := Routine.exists_of_bind_eq_done (Prod.ext h rfl)
  exact (Routine.eq_of_pure_eq_done hlast).symm

/-! ### Isolated runs -/

/-- A guarded run keeps what is given back when the guard is taken back, if it is also there in the
meantime. -/
lemma keeps_guarded {guard : Guard} {body : Engine α} {t : Session} {close : Session → Session}
    (hopen : guard.opens s = .ok (t, close)) (hclose : view (close (body t).2) = view s)
    (hlevels : levels (view s) <:+ levels (view (body t).2)) :
    (guard.run body).Keeps view levels s := by
  unfold Keeps
  rw [Guard.run_of_opens hopen]
  dsimp only
  split
  · exact ⟨by simp only [hclose, List.suffix_rfl], fun _ => hclose⟩
  · rename_i hended
    exact ⟨hlevels, fun h => absurd h hended⟩

/-- An isolated run keeps the frames and the floors. -/
lemma keeps_isolated (hs : s.Sound) (fuel : Nat) {body : Routine α} (hbody : body.Composed True) :
    (isolated (body (execute fuel))).Keeps Session.memory Memory.frames s := by
  have hopen : Guard.isolation.opens s = .ok _ := rfl
  have hext := hbody.extends .standard fuel (Session.extends_of_opens hs hopen).sound
  have hraised := (Memory.tower_enterIsolated s.memory) ▸ hext.memory
  rw [isolated_eq_run]
  exact keeps_guarded hopen (Memory.leaveIsolated_eq hs.memory hext.memory) hraised.levels_suffix

/-- In every session that can come up, an isolated run of anything that is put together from steps,
calls and guarded, supervised and captured runs leaves the frames and the floors as they were, if it
returns, with a value or an error.  So do calls of `isolated`, conditions of loops, and macros that
stand for the result of a call. -/
theorem isolated_keeps_memory {s : Session} (hs : s.Reachable) (fuel : Nat) :
    (∀ {α : Type} (body : Routine α), body.Composed True →
      (isolated (body (execute fuel))).Keeps Session.memory Memory.frames s) ∧
    (∀ name args package command, s.packages.resolve? name = some (package, command) →
      command.body = .builtin (.memory .isolated) →
      (execute fuel name args).Keeps Session.memory Memory.frames s) ∧
    (∀ line, (Builtin.condition (execute fuel) line).Keeps Session.memory Memory.frames s) ∧
    ∀ name command args,
      (produce (execute fuel) name (.call command args)).Keeps Session.memory Memory.frames s := by
  refine ⟨fun body => keeps_isolated hs.sound fuel, ?_, fun line => ?_, fun name command args => ?_⟩
  · intro name args package command hresolve hbody
    refine keeps_execute (fun _ _ => rfl) hresolve ?_ ?_ fuel args
    · intro fuel args
      rw [hbody]
      refine keeps_bind (ofExcept_snd _ _) fun call _ => ?_
      refine Keeps.bind (keeps_isolated ?_ fuel (.call call.1 call.2)) fun _ _ _ => rfl
      exact ⟨hs.sound.memory, hs.sound.scopes⟩
    · intro fuel args item t hitem
      rw [hbody] at hitem
      obtain ⟨call, u, -, hrest⟩ := Routine.exists_of_bind_eq_done (Prod.ext hitem rfl)
      exact eq_none_of_bind (congrArg Prod.fst hrest)
  · have hcondition : Routine.Composed True (fun exec => do
        runLine exec line
        popItem) :=
      .bind (Routine.composed_runLine line) fun _ => Routine.composed_popItem
    refine (keeps_isolated hs.sound fuel hcondition).bind fun item t _ => ?_
    cases item.truth? <;> rfl
  · have hresult : Routine.Composed True (fun exec => do
        exec command args
        return (← popItem).display) :=
      .bind (.call command args) fun _ => .bind Routine.composed_popItem fun item => .pure _
    simp only [produce, Routine.whenEmpty_eq_handle]
    exact (keeps_isolated hs.sound fuel hresult).handle_fail

/-- An isolated run that leaves a value and a frame behind, closes that frame, and then fails to
close the one that belongs to it: its caller has the value that it had, and no other. -/
theorem isolated_keeps_memory_of_failing_body :
    let s := (Routine.builtins [(.memory .push, ["a"])] (execute 0)
      (.start {} standardRegistry .empty)).2
    let body := Routine.builtins [(.memory .push, ["b"]), (.memory .pushFrame, []),
      (.memory .popFrame, []), (.memory .popFrame, [])]
    let ended := isolated (body (execute 0)) s
    ended.1 = .failed (.frame .isolated) ∧ ended.2.memory = ⟨⟨[.text "a"], false⟩, [], []⟩ := by
  intro s body ended
  have hs : s.Reachable := .run (.start _ _ _) (Routine.composed_builtins _) .standard 0
  have hfailed : ended.1 = .failed (.frame .isolated) := rfl
  have hkept := ((isolated_keeps_memory hs 0).1 body (Routine.composed_builtins _)).2
    (congrArg Outcome.ending hfailed)
  exact ⟨hfailed, hkept⟩

end Engine

/-! ### Temporary scopes -/

/-- What a temporary scope shelters: the local scopes, the marks, and where access goes. -/
structure Locals where
  scopes : List Scope
  marks : List Nat
  globalActive : Bool

/-- The local scopes of a session, its marks, and where access goes. -/
def Session.locals (s : Session) : Locals :=
  ⟨s.scopes.locals, s.scopes.marks, s.scopes.globalActive⟩

namespace Engine

variable {α : Type} {s : Session}

/-- A run in a temporary scope keeps the local scopes, the marks and where access goes. -/
lemma keeps_temporaryScope (hs : s.Sound) (fuel : Nat) {body : Routine α}
    (hbody : body.Composed True) :
    (temporaryScope (body (execute fuel))).Keeps Session.locals Locals.scopes s := by
  rw [temporaryScope_eq_run]
  cases hbegin : s.scopes.beginTemporary with
  | error e =>
    refine keeps_of_eq ?_
    simp [Guard.run, Guard.opens, hbegin]
  | ok begun =>
    obtain ⟨mark, scopes⟩ := begun
    have hopen : Guard.scope.opens s = .ok ({ s with scopes },
        fun t => { t with scopes := t.scopes.endTemporary mark }) := by
      simp [Guard.opens, hbegin]
    have hext := hbody.extends .standard fuel (Session.extends_of_opens hs hopen).sound
    refine keeps_guarded hopen ?_ ?_
    · obtain ⟨hlocals, hmarks, hglobal⟩ := Scopes.endTemporary_eq hs.scopes hbegin hext.scopes
      obtain ⟨hoff, -, -⟩ := Scopes.beginTemporary_eq_ok hbegin
      simp only [Session.locals, hlocals, hmarks, hglobal, hoff]
    · obtain ⟨-, -, rfl⟩ := Scopes.beginTemporary_eq_ok hbegin
      have hraised : (s.scopes.tower.raise NameMap.empty).Extends _ := hext.scopes
      exact hraised.levels_suffix

/-- A script that is run with its arguments keeps the local scopes of its caller. -/
lemma keeps_runScriptCommand (hs : s.Sound) (fuel : Nat) (text : String) (args : List String) :
    (runScriptCommand (execute fuel) text args).Keeps Session.locals Locals.scopes s := by
  refine keeps_bind rfl fun t ht => ?_
  cases ht
  split
  · exact keeps_of_eq rfl
  · have hbound := keeps_temporaryScope hs fuel (Routine.composed_boundScript text args)
    exact hbound

/-- In every session that can come up, a run in a temporary scope of anything that is put together
from steps, calls and guarded, supervised and captured runs leaves the local scopes with all their
variables, the marks and the direction of access as they were, if it returns, with a value or an
error.  So do calls of scripts and of `scoped`. -/
theorem temporaryScope_keeps_locals {s : Session} (hs : s.Reachable) (fuel : Nat) :
    (∀ {α : Type} (body : Routine α), body.Composed True →
      (temporaryScope (body (execute fuel))).Keeps Session.locals Locals.scopes s) ∧
    (∀ text args, (runScriptCommand (execute fuel) text args).Keeps
      Session.locals Locals.scopes s) ∧
    ∀ name args package command, s.packages.resolve? name = some (package, command) →
      (command.body = .builtin (.scope .scoped) ∨ ∃ text, command.body = .script text) →
      (execute fuel name args).Keeps Session.locals Locals.scopes s := by
  refine ⟨fun body => keeps_temporaryScope hs.sound fuel,
    keeps_runScriptCommand hs.sound fuel, ?_⟩
  intro name args package command hresolve hbody
  have hsound : ({ s with depth := s.depth + 1 } : Session).Sound :=
    ⟨hs.sound.memory, hs.sound.scopes⟩
  refine keeps_execute (fun _ _ => rfl) hresolve ?_ ?_ fuel args
  · intro fuel args
    rcases hbody with hscoped | ⟨text, htext⟩
    · rw [hscoped]
      refine keeps_bind (ofExcept_snd _ _) fun call _ => ?_
      exact (keeps_temporaryScope hsound fuel (.call call.1 call.2)).bind fun _ _ _ => rfl
    · rw [htext]
      exact (keeps_runScriptCommand hsound fuel text _).bind fun _ _ _ => rfl
  · intro fuel args item t hitem
    rcases hbody with hscoped | ⟨text, htext⟩
    · rw [hscoped] at hitem
      obtain ⟨call, u, -, hrest⟩ := Routine.exists_of_bind_eq_done (Prod.ext hitem rfl)
      exact eq_none_of_bind (congrArg Prod.fst hrest)
    · rw [htext] at hitem
      exact eq_none_of_bind hitem

/-- A run in a temporary scope that stores a variable, enters a scope and goes to Global, and then
fails to go there again: its caller has the variable that it had, and no other. -/
theorem temporaryScope_keeps_locals_of_failing_body :
    let s := (Routine.builtins [(.scope .set, ["v", "a"])] (execute 0)
      (.start {} standardRegistry .empty)).2
    let body := Routine.builtins [(.scope .set, ["v", "b"]), (.scope .enterScope, []),
      (.scope .enterGlobal, []), (.scope .enterGlobal, [])]
    let ended := temporaryScope (body (execute 0)) s
    ended.1 = .failed (.scope .globalActive) ∧
      ended.2.locals = ⟨[NameMap.empty.insert "v" "a"], [], false⟩ := by
  intro s body ended
  have hs : s.Reachable := .run (.start _ _ _) (Routine.composed_builtins _) .standard 0
  have hfailed : ended.1 = .failed (.scope .globalActive) := rfl
  have hkept := ((temporaryScope_keeps_locals hs 0).1 body (Routine.composed_builtins _)).2
    (congrArg Outcome.ending hfailed)
  exact ⟨hfailed, hkept⟩

end Engine

end LineShell
