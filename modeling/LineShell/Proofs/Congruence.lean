import LineShell.Proofs.Routine.Interpreter

/-!
# Congruences of sessions

Two sessions *agree* if they differ at most in the two flags that tell what is written, and in what
was written so far (`Session.Agrees`).  A *congruence* is a relation between sessions that agree; it
does not depend on what was written, and it is kept when one part of both sessions is replaced by
the same value (`Session.Congruence`).

An action *respects* a congruence if its runs in related sessions end in the same way, with the same
value or the same error, and lead to related sessions (`Engine.Respects`).  This module has the
rules for putting such actions together.  What an action looks at has to be the same in sessions
that agree, and so it must not look at the flags and the output, unless what it makes of them goes
there too.
-/

namespace LineShell

namespace Session

/-! ### Sessions that agree -/

/-- Two sessions that differ at most in what was written, and in whether anything is written. -/
inductive Agrees (s : Session) : Session → Prop
  | intro (feedback errorFeedback : Bool) (out err : String) :
      Agrees s { s with feedback, errorFeedback, out, err }

variable {s t u : Session}

/-- A session agrees with itself. -/
lemma Agrees.refl (s : Session) : s.Agrees s := .intro s.feedback s.errorFeedback s.out s.err

/-- Agreement goes both ways. -/
lemma Agrees.symm (h : s.Agrees t) : t.Agrees s := by
  obtain ⟨feedback, errorFeedback, out, err⟩ := h
  exact .intro s.feedback s.errorFeedback s.out s.err

/-- Sessions that agree with a third one agree. -/
lemma Agrees.trans (hst : s.Agrees t) (htu : t.Agrees u) : s.Agrees u := by
  obtain ⟨_, _, _, _⟩ := hst
  obtain ⟨feedback, errorFeedback, out, err⟩ := htu
  exact .intro feedback errorFeedback out err

/-- Writing leads to a session that agrees. -/
lemma agrees_say (s : Session) (text : String) : s.Agrees (s.say text) := by
  unfold say
  split
  · exact .intro s.feedback s.errorFeedback (s.out ++ text) s.err
  · exact .refl s

/-- So does writing line after line. -/
lemma agrees_foldl_sayLine {α : Type} (line : α → String) (entries : List α) (s : Session) :
    s.Agrees (entries.foldl (fun s entry => s.sayLine (line entry)) s) := by
  induction entries generalizing s with
  | nil => exact .refl s
  | cons entry rest ih => exact (agrees_say s _).trans (ih _)

/-- So does the report of a failure. -/
lemma agrees_errorLine (s : Session) (text : String) : s.Agrees (s.errorLine text) := by
  unfold errorLine
  split
  · exact .intro s.feedback s.errorFeedback s.out (s.err ++ text ++ "\n")
  · exact .refl s

/-! ### Congruences -/

/-- A relation between sessions that agree, which does not depend on what was written, and is kept
when a part of both sessions is replaced by the same value. -/
structure Congruence (R : Session → Session → Prop) : Prop where
  agrees : ∀ {s t : Session}, R s t → s.Agrees t
  written : ∀ {s t u v : Session}, R s t → s.Agrees u → t.Agrees v → R u v
  memory : ∀ {s t : Session} (memory : Memory), R s t → R { s with memory } { t with memory }
  scopes : ∀ {s t : Session} (scopes : Scopes), R s t → R { s with scopes } { t with scopes }
  macros : ∀ {s t : Session} (macros : NameMap Macro),
    R s t → R { s with macros } { t with macros }
  depth : ∀ {s t : Session} (depth : Nat), R s t → R { s with depth } { t with depth }
  running : ∀ {s t : Session} (running : Bool), R s t → R { s with running } { t with running }
  jobs : ∀ {s t : Session} (jobs : JobTable), R s t → R { s with jobs } { t with jobs }
  custom : ∀ {s t : Session} (custom : Package), R s t →
    R { s with packages := { s.packages with custom } }
      { t with packages := { t.packages with custom } }
  loaded : ∀ {s t : Session} (loaded : List Package), R s t →
    R { s with packages := { s.packages with loaded } }
      { t with packages := { t.packages with loaded } }

/-- The copy of a session in which a job runs. -/
def snapshot (s : Session) : Session := { s.fork with out := "", err := "" }

/-- Jobs of related sessions run in related sessions. -/
lemma Congruence.snapshot {R : Session → Session → Prop} (hR : Congruence R) (h : R s t) :
    R s.snapshot t.snapshot := by
  have hfork : R s.fork t.fork := by
    cases s
    cases t
    exact hR.jobs .empty (hR.running true (hR.depth 0 h))
  exact hR.written hfork (.intro _ _ _ _) (.intro _ _ _ _)

/-- To agree is a congruence. -/
lemma congruence_agrees : Congruence Agrees where
  agrees h := h
  written hst hsu htv := hsu.symm.trans (hst.trans htv)
  memory _ := fun ⟨_, _, _, _⟩ => .intro _ _ _ _
  scopes _ := fun ⟨_, _, _, _⟩ => .intro _ _ _ _
  macros _ := fun ⟨_, _, _, _⟩ => .intro _ _ _ _
  depth _ := fun ⟨_, _, _, _⟩ => .intro _ _ _ _
  running _ := fun ⟨_, _, _, _⟩ => .intro _ _ _ _
  jobs _ := fun ⟨_, _, _, _⟩ => .intro _ _ _ _
  custom _ := fun ⟨_, _, _, _⟩ => .intro _ _ _ _
  loaded _ := fun ⟨_, _, _, _⟩ => .intro _ _ _ _

end Session

/-! ### Steps that may be refused -/

/-- Two steps that are refused with the same error, or lead to related sessions. -/
inductive Session.Both (R : Session → Session → Prop) :
    Except Error Session → Except Error Session → Prop
  | error (e : Error) : Both R (.error e) (.error e)
  | ok {s t : Session} (h : R s t) : Both R (.ok s) (.ok t)

/-- What both steps ask for first has the same answer. -/
lemma Session.Both.bind {R : Session → Session → Prop} {α : Type} (x : Except Error α)
    {f g : α → Except Error Session} (h : ∀ a, Both R (f a) (g a)) :
    Both R (x >>= f) (x >>= g) := by
  cases x with
  | error e => exact .error e
  | ok a => exact h a

/-- Two outcomes of the same kind, with the same error or related values. -/
inductive Outcome.Both {α : Type} (V : α → α → Prop) : Outcome α → Outcome α → Prop
  | done {a b : α} (h : V a b) : Both V (.done a) (.done b)
  | failed (e : Error) : Both V (.failed e) (.failed e)
  | crashed (payload : CrashPayload) : Both V (.crashed payload) (.crashed payload)
  | halted (reason : Halt) : Both V (.halted reason) (.halted reason)

namespace Engine

variable {α β : Type} {R : Session → Session → Prop}

/-- What comes of a job that was run: its number and what it wrote, unless it came to no end. -/
def record (label : String) (s : Session) :
    Outcome Bool × Session → Outcome (Nat × String × String) × Session
  | (.halted reason, _) => (.halted reason, s)
  | (outcome, child) =>
    let (id, jobs) := s.jobs.start label (outcome = .done true)
    (.done (id, child.out, child.err), { s with jobs })

/-- A job is run in a copy of the session, and recorded. -/
lemma startJob_eq (exec : Exec) (name : String) (args : List String) (s : Session) :
    startJob exec name args s =
      match threadFault? s.maxDepth with
      | some fault => (.failed (.thread fault), { s with jobs := s.jobs.skip })
      | none =>
        record (Word.commandLine name args) s (supervise name (exec name args) s.snapshot) := by
  have hrecord : ∀ ran : Outcome Bool × Session,
      (match ran with
        | (.halted reason, _) => (.halted reason, s)
        | (outcome, child) =>
          let (id, jobs) := s.jobs.start (Word.commandLine name args) (outcome = .done true)
          (.done (id, child.out, child.err), { s with jobs })) =
        record (Word.commandLine name args) s ran := by
    rintro ⟨a | e | p | r, child⟩ <;> rfl
  rw [startJob]
  cases threadFault? s.maxDepth with
  | some fault => rfl
  | none => exact hrecord _

/-- The runs of an action in related sessions end in the same way and lead to related sessions. -/
def Respects (R : Session → Session → Prop) (action : Engine α) : Prop :=
  ∀ s t, R s t → (action t).1 = (action s).1 ∧ R (action s).2 (action t).2

end Engine

/-- So do the runs of all calls. -/
abbrev Exec.Respects (R : Session → Session → Prop) (exec : Exec) : Prop :=
  exec.Every (Engine.Respects R)

namespace Engine

variable {α β : Type} {R : Session → Session → Prop}

namespace Respects

/-! ### Single steps -/

/-- Returning a value. -/
lemma pure (a : α) : (Pure.pure a : Engine α).Respects R := fun _ _ h => ⟨rfl, h⟩

/-- Failing. -/
lemma fail (e : Error) : (Engine.fail e : Engine α).Respects R := fun _ _ h => ⟨rfl, h⟩

/-- Crashing. -/
lemma crash (payload : CrashPayload) : (Engine.crash payload : Engine α).Respects R :=
  fun _ _ h => ⟨rfl, h⟩

/-- Coming to no end. -/
lemma halt (reason : Halt) : (Engine.halt reason : Engine α).Respects R := fun _ _ h => ⟨rfl, h⟩

/-- Returning a value or failing. -/
lemma ofExcept (x : Except Error α) : (Engine.ofExcept x).Respects R := by
  cases x with
  | error e => exact fail e
  | ok a => exact pure a

/-- An action that only looks at what is the same in sessions that agree. -/
lemma of_unchanged (hR : Session.Congruence R) {action : Engine α} (hsame : ∀ s, (action s).2 = s)
    (hlook : ∀ s t : Session, s.Agrees t → (action t).1 = (action s).1) : action.Respects R := by
  intro s t h
  rw [hsame s, hsame t]
  exact ⟨hlook s t (hR.agrees h), h⟩

/-- A change of the session. -/
lemma modify {f : Session → Session} (h : ∀ s t, R s t → R (f s) (f t)) :
    (Engine.modify f).Respects R :=
  fun s t hst => ⟨rfl, h s t hst⟩

/-- A change that only writes. -/
lemma write (hR : Session.Congruence R) {f : Session → Session}
    (h : ∀ s : Session, s.Agrees (f s)) : (Engine.modify f).Respects R :=
  modify fun s t hst => hR.written hst (h s) (h t)

/-- A change of the session that may be refused. -/
lemma attempt {step : Session → Except Error Session}
    (h : ∀ s t, R s t → Session.Both R (step s) (step t)) : (Engine.attempt step).Respects R := by
  intro s t hst
  unfold Engine.attempt
  have hboth := h s t hst
  generalize step s = x, step t = y at hboth
  cases hboth with
  | error e => exact ⟨rfl, hst⟩
  | ok h => exact ⟨rfl, h⟩

/-- Failing if something is refused. -/
lemma refuseIf (refused : Bool) (e : Error) : (Engine.refuseIf refused e).Respects R := by
  cases refused with
  | false => exact pure ()
  | true => exact fail e

/-- A change of the session that gives a value. -/
lemma update {f : Session → α × Session}
    (h : ∀ s t, R s t → (f t).1 = (f s).1 ∧ R (f s).2 (f t).2) : (Engine.update f).Respects R :=
  fun s t hst => ⟨congrArg Outcome.done (h s t hst).1, (h s t hst).2⟩

/-! ### Ways of putting actions together -/

/-- One action after another, if the second one makes the same of values that are related. -/
lemma bind_both {first : Engine α} {next : α → Engine β} {V : α → α → Prop}
    (hfirst : ∀ s t, R s t → Outcome.Both V (first s).1 (first t).1 ∧ R (first s).2 (first t).2)
    (hnext : ∀ a b, V a b → ∀ s t, R s t →
      (next b t).1 = (next a s).1 ∧ R (next a s).2 (next b t).2) :
    (first >>= next).Respects R := by
  intro s t h
  obtain ⟨houtcome, hsession⟩ := hfirst s t h
  change (Engine.bind first next t).1 = (Engine.bind first next s).1 ∧
    R (Engine.bind first next s).2 (Engine.bind first next t).2
  unfold Engine.bind
  generalize first s = x, first t = y at houtcome hsession ⊢
  obtain ⟨outcome, s'⟩ := x
  obtain ⟨outcome', t'⟩ := y
  cases houtcome with
  | done hab => exact hnext _ _ hab s' t' hsession
  | failed e => exact ⟨rfl, hsession⟩
  | crashed payload => exact ⟨rfl, hsession⟩
  | halted reason => exact ⟨rfl, hsession⟩

/-- One action after another. -/
lemma bind {first : Engine α} {next : α → Engine β} (hfirst : first.Respects R)
    (hnext : ∀ a, (next a).Respects R) : (first >>= next).Respects R := by
  refine bind_both (V := Eq) (fun s t h => ?_) ?_
  · obtain ⟨houtcome, hsession⟩ := hfirst s t h
    rw [houtcome]
    refine ⟨?_, hsession⟩
    cases (first s).1 with
    | done a => exact .done rfl
    | failed e => exact .failed e
    | crashed p => exact .crashed p
    | halted r => exact .halted r
  · rintro a _ rfl
    exact hnext a

/-- What comes after a look at the session, if it is the same in sessions that agree. -/
lemma get_bind (hR : Session.Congruence R) {next : Session → Engine α}
    (hlook : ∀ s t : Session, s.Agrees t → next t = next s) (hnext : ∀ s, (next s).Respects R) :
    (Engine.get >>= next).Respects R := by
  intro s t h
  change (next t t).1 = (next s s).1 ∧ R (next s s).2 (next t t).2
  rw [hlook s t (hR.agrees h)]
  exact hnext s s t h

/-- One of two actions. -/
lemma ite {p : Prop} [Decidable p] {first second : Engine α} (hfirst : first.Respects R)
    (hsecond : second.Respects R) : (if p then first else second).Respects R := by
  by_cases h : p
  · rw [if_pos h]
    exact hfirst
  · rw [if_neg h]
    exact hsecond

/-- An action without its value. -/
lemma thenNone {body : Engine β} (h : body.Respects R) :
    (do let _ ← body; return (none : Option α) : Engine (Option α)).Respects R :=
  bind h fun _ => pure none

/-- An action for each entry of a list. -/
lemma mapM {f : α → Engine β} (h : ∀ a, (f a).Respects R) (entries : List α) :
    (entries.mapM f).Respects R := by
  have hloop : ∀ done, (List.mapM.loop f entries done).Respects R := by
    induction entries with
    | nil => exact fun done => pure done.reverse
    | cons a rest ih => exact fun done => bind (h a) fun b => ih (b :: done)
  exact hloop []

/-- An action and what is done on its error. -/
lemma handle {body : Engine α} {handler : Error → Engine α} (hbody : body.Respects R)
    (hhandler : ∀ e, (handler e).Respects R) : (body.handle handler).Respects R := by
  intro s t h
  obtain ⟨houtcome, hsession⟩ := hbody s t h
  unfold Engine.handle
  rcases hs : body s with ⟨a | e | p | r, s'⟩ <;> rcases ht : body t with ⟨o, t'⟩ <;>
    rw [hs, ht] at houtcome hsession <;> cases houtcome
  · exact ⟨rfl, hsession⟩
  · exact hhandler e s' t' hsession
  · exact ⟨rfl, hsession⟩
  · exact ⟨rfl, hsession⟩

/-- A guard is refused in both sessions, or it is opened in both and taken back in the same way. -/
lemma exists_opens_eq (hR : Session.Congruence R) (guard : Guard) {s t : Session} (h : R s t) :
    (∃ e, guard.opens s = .error e ∧ guard.opens t = .error e) ∨
      ∃ s' t' close close', guard.opens s = .ok (s', close) ∧ guard.opens t = .ok (t', close') ∧
        R s' t' ∧ ∀ u v, R u v → R (close u) (close' v) := by
  obtain ⟨feedback, errorFeedback, out, err⟩ := hR.agrees h
  cases guard with
  | isolation =>
    refine .inr ⟨_, _, _, _, rfl, rfl, hR.memory _ h, fun u v huv => ?_⟩
    obtain ⟨_, _, _, _⟩ := hR.agrees huv
    exact hR.memory _ huv
  | scope =>
    simp only [Guard.opens]
    cases s.scopes.beginTemporary with
    | error e => exact .inl ⟨e, rfl, rfl⟩
    | ok begun =>
      refine .inr ⟨_, _, _, _, rfl, rfl, hR.scopes _ h, fun u v huv => ?_⟩
      obtain ⟨_, _, _, _⟩ := hR.agrees huv
      exact hR.scopes _ huv
  | global =>
    refine .inr ⟨_, _, _, _, rfl, rfl, hR.scopes _ h, fun u v huv => ?_⟩
    obtain ⟨_, _, _, _⟩ := hR.agrees huv
    exact hR.scopes _ huv
  | call =>
    refine .inr ⟨_, _, _, _, rfl, rfl, hR.depth _ h, fun u v huv => ?_⟩
    obtain ⟨_, _, _, _⟩ := hR.agrees huv
    exact hR.depth _ huv

/-- An action under a guard. -/
lemma guarded (hR : Session.Congruence R) (guard : Guard) {body : Engine α}
    (hbody : body.Respects R) : (guard.run body).Respects R := by
  intro s t h
  rcases exists_opens_eq hR guard h with
    ⟨e, hs, ht⟩ | ⟨s', t', close, close', hs, ht, hopen, hclose⟩
  · simp only [Guard.run, hs, ht]
    exact ⟨trivial, h⟩
  · rw [Guard.run_of_opens hs, Guard.run_of_opens ht]
    obtain ⟨houtcome, hsession⟩ := hbody s' t' hopen
    refine ⟨houtcome, ?_⟩
    rw [houtcome]
    split
    · exact hclose _ _ hsession
    · exact hsession

/-- An isolated run. -/
lemma isolated (hR : Session.Congruence R) {body : Engine α} (h : body.Respects R) :
    (Engine.isolated body).Respects R :=
  guarded hR .isolation h

/-- A run in a temporary scope. -/
lemma temporaryScope (hR : Session.Congruence R) {body : Engine α} (h : body.Respects R) :
    (Engine.temporaryScope body).Respects R := by
  rw [temporaryScope_eq_run]
  exact guarded hR .scope h

/-- A run in Global. -/
lemma inGlobal (hR : Session.Congruence R) {body : Engine α} (h : body.Respects R) :
    (Engine.inGlobal body).Respects R :=
  guarded hR .global h

/-- A supervised run.  Its reports are written, and its return after a crash leads to the same
frames, scopes and number of calls. -/
lemma supervised (hR : Session.Congruence R) (source : String) {body : Engine Unit}
    (hbody : body.Respects R) : (supervise source body).Respects R := by
  intro s t h
  obtain ⟨houtcome, hsession⟩ := hbody s t h
  have hpoint : t.checkpoint = s.checkpoint := by
    obtain ⟨_, _, _, _⟩ := hR.agrees h
    rfl
  have hrestore : ∀ u v, R u v → R (u.restore s.checkpoint) (v.restore s.checkpoint) := by
    intro u v huv
    obtain ⟨_, _, _, _⟩ := hR.agrees huv
    exact hR.depth s.depth (hR.scopes (u.scopes.restore s.scopes.checkpoint)
      (hR.memory (u.memory.truncate s.memory.depth) huv))
  unfold supervise
  rw [hpoint]
  rcases hs : body s with ⟨a | e | p | r, s'⟩ <;> rcases ht : body t with ⟨o, t'⟩ <;>
    rw [hs, ht] at houtcome hsession <;> cases houtcome
  · exact ⟨rfl, hsession⟩
  · exact ⟨rfl, hR.written hsession (s'.agrees_errorLine _) (t'.agrees_errorLine _)⟩
  · refine ⟨rfl, hR.written (hrestore s' t' hsession) ?_ ?_⟩
    · exact Session.agrees_errorLine _ _
    · exact Session.agrees_errorLine _ _
  · exact ⟨rfl, hsession⟩

/-- Jobs that ended in the same way are recorded under the same number.  What they wrote may
differ. -/
lemma both_record (hR : Session.Congruence R) (label : String) {ran ran' : Outcome Bool × Session}
    (hran : ran'.1 = ran.1) {s t : Session} (h : R s t) :
    Outcome.Both (fun first second => second.1 = first.1) (record label s ran).1
        (record label t ran').1 ∧
      R (record label s ran).2 (record label t ran').2 := by
  have hjobs : t.jobs = s.jobs := by
    obtain ⟨_, _, _, _⟩ := hR.agrees h
    rfl
  obtain ⟨outcome, child⟩ := ran
  obtain ⟨outcome', child'⟩ := ran'
  subst hran
  cases outcome' with
  | halted reason => exact ⟨.halted reason, h⟩
  | _ =>
    simp only [record]
    rw [hjobs]
    exact ⟨.done rfl, hR.jobs _ h⟩

/-- Starting a job gives the same number, or fails in the same way. -/
lemma both_startJob (hR : Session.Congruence R) {exec : Exec} (hexec : exec.Respects R)
    (name : String) (args : List String) {s t : Session} (h : R s t) :
    Outcome.Both (fun first second => second.1 = first.1) (startJob exec name args s).1
        (startJob exec name args t).1 ∧
      R (startJob exec name args s).2 (startJob exec name args t).2 := by
  have hsame : t.maxDepth = s.maxDepth ∧ t.jobs = s.jobs := by
    obtain ⟨_, _, _, _⟩ := hR.agrees h
    exact ⟨rfl, rfl⟩
  cases hfault : threadFault? s.maxDepth with
  | some fault =>
    have hs : startJob exec name args s =
        (.failed (.thread fault), { s with jobs := s.jobs.skip }) := by
      rw [startJob_eq, hfault]
    have ht : startJob exec name args t =
        (.failed (.thread fault), { t with jobs := s.jobs.skip }) := by
      rw [startJob_eq, hsame.1, hfault, ← hsame.2]
    rw [hs, ht]
    exact ⟨.failed _, hR.jobs _ h⟩
  | none =>
    have hs : startJob exec name args s =
        record (Word.commandLine name args) s (supervise name (exec name args) s.snapshot) := by
      rw [startJob_eq, hfault]
    have ht : startJob exec name args t =
        record (Word.commandLine name args) t (supervise name (exec name args) t.snapshot) := by
      rw [startJob_eq, hsame.1, hfault]
    rw [hs, ht]
    obtain ⟨houtcome, -⟩ := supervised hR name (hexec.command name args) _ _ (hR.snapshot h)
    exact both_record hR _ houtcome h

end Respects

end Engine

end LineShell
