import LineShell.Proofs.Balance
import LineShell.Proofs.Guarded
import LineShell.Proofs.Situation

/-!
# Runs in Global freeze the local scopes

While a run in Global is active, nothing can be done to the local scopes: variables are stored in
Global and removed from there, local scopes are neither entered nor left, and the way back to them
is barred by the guard of the run.  No single check says so; it follows from the refusals together,
from what the runs inside give back when they end, and from how a crash inside is rolled back.

The run is seen as the machine of `Situation`, with the moves that are left when marks and guards
are not taken away by hand (`Situation.Move`).  `Situation.Frozen` is what holds between the
beginning of the run and its end: the local scopes are as they were, Global is active, and there is
a guard for this run besides those of the runs in Global that are active inside it.  Every move that
stays inside the run preserves this (`Situation.Frozen.within`), and what the interpreter does is
made of moves (`Engine.madeOfMoves_execute`), also where a host program crashes or begins temporary
scopes and runs in Global by hand.
-/

namespace LineShell

/-! ### The moves -/

namespace Situation

/-- One move: a step that neither ends a temporary scope nor a run in Global by hand. -/
inductive Move : Situation → Situation → Prop
  /-- Something is done to the session in one go that leaves the marks and the guards alone. -/
  | acted {s t : Session} {k : List Context} (h : s.scopes.Step False t.scopes) : Move ⟨s, k⟩ ⟨t, k⟩
  /-- A temporary scope is begun by hand. -/
  | temporaryBegun {s : Session} {k : List Context} {mark : TemporaryMark} {scopes : Scopes}
      (h : s.scopes.beginTemporary = .ok (mark, scopes)) : Move ⟨s, k⟩ ⟨{ s with scopes }, k⟩
  /-- A run in Global is begun by hand. -/
  | globalBegun (s : Session) (k : List Context) :
      Move ⟨s, k⟩ ⟨{ s with scopes := s.scopes.beginGlobal.2 }, k⟩
  /-- A run under a guard begins. -/
  | opened {s t : Session} {k : List Context} {guard : Guard} {close : Session → Session}
      (h : guard.opens s = .ok (t, close)) : Move ⟨s, k⟩ ⟨t, guard.context s :: k⟩
  /-- A supervised run begins. -/
  | supervised (s : Session) (k : List Context) : Move ⟨s, k⟩ ⟨s, .supervised s [] :: k⟩
  /-- The latest run returns. -/
  | returned (s : Session) (context : Context) (k : List Context) :
      Move ⟨s, context :: k⟩ ⟨context.close s, k⟩
  /-- A crash breaks out of the latest run. -/
  | dropped (s : Session) (context : Context) (k : List Context) : Move ⟨s, context :: k⟩ ⟨s, k⟩
  /-- A crash ends in a supervised run. -/
  | contained (s entry : Session) (own : List TemporaryMark) (k : List Context) :
      Move ⟨s, .supervised entry own :: k⟩ ⟨s.restore entry.checkpoint, k⟩

/-- A move after which the runs of `base` are still active. -/
def Within (base : List Context) (w w' : Situation) : Prop :=
  w.Move w' ∧ base <:+ w'.contexts

/-- What stays within more runs stays within fewer of them. -/
lemma within_of_suffix {base more : List Context} (hbase : base <:+ more) {w w' : Situation}
    (h : Relation.ReflTransGen (Within more) w w') : Relation.ReflTransGen (Within base) w w' :=
  Relation.ReflTransGen.mono (fun _ _ hmove => ⟨hmove.1, hbase.trans hmove.2⟩) _ _ h

end Situation

/-! ### What the interpreter does is made of moves -/

/-- Moves lead from one session to the other, in whatever runs, all of which stay active. -/
def Session.Reaches (s t : Session) : Prop :=
  ∀ k, Relation.ReflTransGen (Situation.Within k) ⟨s, k⟩ ⟨t, k⟩

namespace Session

variable {s t u : Session}

/-- No move is needed to stay. -/
lemma Reaches.refl (s : Session) : s.Reaches s := fun _ => .refl

/-- Moves after moves. -/
lemma Reaches.trans (hst : s.Reaches t) (htu : t.Reaches u) : s.Reaches u :=
  fun k => (hst k).trans (htu k)

/-- A single move that leaves the active runs alone. -/
lemma reaches_of_move (h : ∀ k, Situation.Move ⟨s, k⟩ ⟨t, k⟩) : s.Reaches t :=
  fun k => .single ⟨h k, List.suffix_rfl⟩

end Session

namespace Engine

variable {α β : Type} {exec : Exec}

/-- What is made of moves is closed under all ways of putting routines together. -/
lemma law_reaches : Law False fun _ s t => s.Reaches t where
  leaf h _ := Session.reaches_of_move fun _ => .acted h.scopes
  trans hst htu := hst.trans htu
  alike hst htu := hst.trans (Session.reaches_of_move fun _ => .acted htu.step.scopes)
  guarded {e s t u guard close} hopen htu k := by
    have hinside : k <:+ guard.context s :: k := List.suffix_cons _ k
    have hbegin : Relation.ReflTransGen (Situation.Within k) ⟨s, k⟩ ⟨t, guard.context s :: k⟩ :=
      .single ⟨.opened hopen, hinside⟩
    have hbody := hbegin.trans (Situation.within_of_suffix hinside (htu (guard.context s :: k)))
    split
    · rw [Guard.close_eq hopen]
      exact hbody.tail ⟨.returned u _ k, List.suffix_rfl⟩
    · exact hbody.tail ⟨.dropped u _ k, List.suffix_rfl⟩
  contained {s t} h k := by
    have hinside : k <:+ .supervised s [] :: k := List.suffix_cons _ k
    have hbegin : Relation.ReflTransGen (Situation.Within k) ⟨s, k⟩ ⟨s, .supervised s [] :: k⟩ :=
      .single ⟨.supervised s k, hinside⟩
    have hbody := hbegin.trans (Situation.within_of_suffix hinside (h _))
    exact hbody.tail ⟨.contained t s [] k, List.suffix_rfl⟩

/-- All runs of an action are made of moves. -/
abbrev MadeOfMoves (action : Engine α) : Prop := action.Satisfies fun _ s t => s.Reaches t

/-- One action after another. -/
lemma MadeOfMoves.bind {first : Engine α} {next : α → Engine β} (hfirst : first.MadeOfMoves)
    (hnext : ∀ a, (next a).MadeOfMoves) : (first >>= next).MadeOfMoves :=
  Satisfies.bind (fun hst htu => hst.trans htu) hfirst fun a _ => hnext a

/-- An instruction of a host program is made of moves, also if it crashes, or begins a temporary
scope or a run in Global by hand. -/
lemma madeOfMoves_perform (hexec : exec.Every MadeOfMoves) (package : String)
    (args : Arguments) (instruction : Instruction) :
    (perform exec package args instruction).MadeOfMoves := by
  cases instruction with
  | crash payload => exact fun s => .refl s
  | beginGlobal => exact fun s => Session.reaches_of_move (.globalBegun s)
  | beginTemporary =>
    intro s
    change s.Reaches (Engine.bind (attempt _) _ s).2
    cases hbegin : s.scopes.beginTemporary with
    | error e =>
      simp only [Engine.bind, attempt, hbegin]
      exact .refl s
    | ok begun =>
      simp only [Engine.bind, attempt, hbegin]
      exact Session.reaches_of_move fun _ => .temporaryBegun hbegin
  | _ =>
    exact (Routine.composed_perform package args (.inr rfl) (.inr (by simp))).satisfies law_reaches
      hexec

/-- A host program is made of moves. -/
lemma madeOfMoves_runProgram (hexec : exec.Every MadeOfMoves)
    (package : String) (args : Arguments) (instructions : List Instruction) :
    (runProgram exec package args instructions).MadeOfMoves := by
  induction instructions with
  | nil => exact fun s => .refl s
  | cons instruction rest ih =>
    rw [runProgram_cons]
    refine (madeOfMoves_perform hexec package args instruction).bind fun result => ?_
    cases result with
    | none => exact ih
    | some item => exact fun s => .refl s

/-- The body of a command is made of moves. -/
lemma madeOfMoves_runBody (hexec : exec.Every MadeOfMoves) (fuel : Nat)
    (package : String) (args : Arguments) (body : Body) :
    (runBody fuel exec package args body).MadeOfMoves := by
  rcases body.eq_program_or_ne with ⟨instructions, rfl⟩ | hne
  · exact madeOfMoves_runProgram hexec package args instructions
  · have hregular : Routine.Regular False fun exec => runBody fuel exec package args body :=
      Routine.regular_runBody_of_ne Host.standard fuel package args hne
    exact hregular.composed.satisfies law_reaches hexec

/-- A call is made of moves. -/
lemma madeOfMoves_dispatch (hexec : exec.Every MadeOfMoves) (fuel : Nat)
    (name : String) (args : List String) : (dispatch fuel exec name args).MadeOfMoves := by
  rw [Engine.dispatch_eq]
  refine MadeOfMoves.bind (fun s => .refl s) fun s => ?_
  refine MadeOfMoves.bind (fun t => ?_) fun resolved => ?_
  · rw [ofExcept_snd]
    exact .refl t
  · obtain ⟨package, command, arguments⟩ := resolved
    refine MadeOfMoves.bind ?_ fun result => ?_
    · exact (madeOfMoves_runBody hexec fuel package.name arguments command.body).guarded .call
        (fun t => .refl t) law_reaches.guarded
    · exact (Routine.composed_receive result).satisfies law_reaches hexec

/-- Every call is made of moves. -/
theorem madeOfMoves_execute (fuel : Nat) : (execute fuel).Every MadeOfMoves := by
  refine Host.every_execute (fun s => .refl s)
    (fun fuel exec hexec name args => madeOfMoves_dispatch hexec fuel name args)
    (fun fuel exec hexec callback => ?_) fuel
  exact (Routine.regular_runCallback callback).composed.satisfies law_reaches hexec

end Engine

/-- So is everything that is put together from steps and calls of commands. -/
lemma Routine.Composed.madeOfMoves {α : Type} {routine : Routine α} (h : routine.Composed False)
    (fuel : Nat) : (routine (Engine.execute fuel)).MadeOfMoves :=
  h.satisfies Engine.law_reaches (Engine.madeOfMoves_execute fuel)

/-! ### What single steps do in Global -/

/-- While Global is active under a guard, a step that leaves the marks and the guards alone leaves
the local scopes alone as well, and Global stays active. -/
lemma Scopes.Step.locals_eq {sc next : Scopes} (h : sc.Step False next)
    (hactive : sc.globalActive = true) (hguards : 0 < sc.guards) :
    next.locals = sc.locals ∧ next.globalActive = true := by
  cases h with
  | active _ f =>
    rw [modifyActive, if_pos hactive]
    exact ⟨rfl, hactive⟩
  | global _ global => exact ⟨rfl, hactive⟩
  | entered h =>
    have hoff := (enterScope_eq_ok h).1
    rw [hactive] at hoff
    cases hoff
  | exited h =>
    have hoff := (exitScope_eq_ok h).1
    rw [hactive] at hoff
    cases hoff
  | globalEntered h =>
    rw [enterGlobal, if_pos hactive] at h
    cases h
  | globalExited h =>
    rw [exitGlobal, hactive, if_neg (by decide), if_pos hguards] at h
    cases h
  | temporaryBegun hl h => exact hl.elim
  | globalBegun hl => exact hl.elim
  | globalEnded hl wasGlobal => exact hl.elim

/-- The same local scopes and marks, with access to Global. -/
def Locals.inGlobal (locals : Locals) : Locals := { locals with globalActive := true }

/-- Where access goes to Global already, it stays so. -/
lemma Locals.inGlobal_eq {locals : Locals} (h : locals.globalActive = true) :
    locals.inGlobal = locals := by
  rw [inGlobal, ← h]

namespace Session

variable {s t : Session}

/-- In Global no temporary scope is begun. -/
lemma not_beginTemporary (hactive : s.locals.globalActive = true) {mark : TemporaryMark}
    {scopes : Scopes} : s.scopes.beginTemporary ≠ .ok (mark, scopes) := by
  intro h
  have hoff := (Scopes.beginTemporary_eq_ok h).1
  rw [show s.scopes.globalActive = true from hactive] at hoff
  cases hoff

/-- While Global is active under a guard, a step that leaves the marks and the guards alone leaves
all local scopes, and where access goes, as they were. -/
lemma locals_eq_of_step (h : s.scopes.Step False t.scopes)
    (hactive : s.locals.globalActive = true) (hguards : 0 < s.scopes.guards) :
    t.locals = s.locals := by
  obtain ⟨hlocals, hglobal⟩ := h.locals_eq hactive hguards
  obtain ⟨hmarks, -⟩ := h.marks_guards_eq
  unfold locals
  rw [hlocals, hmarks, hglobal, ← hactive]
  rfl

/-- To begin a run in Global directs access to it, and leaves the local scopes alone. -/
lemma locals_beginGlobal (s : Session) :
    ({ s with scopes := s.scopes.beginGlobal.2 } : Session).locals = s.locals.inGlobal := rfl

/-- To roll back changes nothing about local scopes that are as they were. -/
lemma locals_restore (h : t.locals = s.locals) : (t.restore s.checkpoint).locals = s.locals := by
  have hscopes : t.scopes.locals = s.scopes.locals := congrArg Locals.scopes h
  have hmarks : t.scopes.marks = s.scopes.marks := congrArg Locals.marks h
  have hdepth : t.scopes.tower.height - s.scopes.depth = 0 := by
    change t.scopes.locals.length - s.scopes.depth = 0
    rw [hscopes]
    exact Nat.sub_self _
  have htower := Scopes.tower_restore (hmarks ▸ List.suffix_rfl : s.scopes.marks <:+ t.scopes.marks)
  rw [Tower.cut, hdepth, List.drop_zero] at htower
  have hkept : (t.scopes.restore s.scopes.checkpoint).locals = s.scopes.locals :=
    (congrArg Tower.levels htower).trans hscopes
  have hleft : (t.scopes.restore s.scopes.checkpoint).marks = s.scopes.marks :=
    congrArg Tower.bars htower
  change (⟨(t.scopes.restore s.scopes.checkpoint).locals,
    (t.scopes.restore s.scopes.checkpoint).marks, s.scopes.globalActive⟩ : Locals) = _
  rw [hkept, hleft]
  rfl

end Session

/-! ### Inside a run in Global -/

namespace Situation

variable {frozen : Locals} {base : List Context} {w w' : Situation}

/-- What the runs that are active inside a run in Global keep, while there are this many guards: a
run in Global has a guard of its own and returns to Global, a supervised one began with the same
local scopes and no more guards than there are, and there is no temporary scope.  Besides, there is
the guard of the outer run. -/
inductive Held (frozen : Locals) : Nat → List Context → Prop
  | outer {guards : Nat} (h : 0 < guards) : Held frozen guards []
  | isolated {guards : Nat} {k : List Context} (h : Held frozen guards k) (restoreTo : Nat) :
      Held frozen guards (.isolated restoreTo :: k)
  | call {guards : Nat} {k : List Context} (h : Held frozen guards k) :
      Held frozen guards (.call :: k)
  | global {guards more : Nat} {k : List Context} (h : Held frozen guards k)
      (hlt : guards < more) : Held frozen more (.global true :: k)
  | supervised {guards : Nat} {k : List Context} {entry : Session}
      (h : Held frozen entry.scopes.guards k) (hlocals : entry.locals = frozen)
      (hle : entry.scopes.guards ≤ guards) (own : List TemporaryMark) :
      Held frozen guards (.supervised entry own :: k)

namespace Held

variable {guards more : Nat} {context : Context} {k : List Context}

/-- More guards do no harm. -/
lemma mono (h : Held frozen guards k) (hle : guards ≤ more) : Held frozen more k := by
  induction h generalizing more with
  | outer h => exact .outer (Nat.lt_of_lt_of_le h hle)
  | isolated _ restoreTo ih => exact .isolated (ih hle) restoreTo
  | call _ ih => exact .call (ih hle)
  | global h hlt _ => exact .global h (Nat.lt_of_lt_of_le hlt hle)
  | supervised h hlocals hguards own _ => exact .supervised h hlocals (Nat.le_trans hguards hle) own

/-- There is a guard. -/
lemma guards_pos (h : Held frozen guards k) : 0 < guards := by
  induction h with
  | outer h => exact h
  | isolated _ _ ih => exact ih
  | call _ ih => exact ih
  | global _ hlt _ => exact Nat.zero_lt_of_lt hlt
  | supervised _ _ hle _ ih => exact Nat.lt_of_lt_of_le ih hle

/-- What the other runs keep is held without the latest one. -/
lemma tail (h : Held frozen guards (context :: k)) : Held frozen guards k := by
  cases h with
  | isolated h _ => exact h
  | call h => exact h
  | global h hlt => exact h.mono (Nat.le_of_lt hlt)
  | supervised h _ hle _ => exact h.mono hle

end Held

/-- Between the beginning of a run in Global, the latest one of `base`, and its end: the local
scopes are as they were, and what the runs inside it keep is held. -/
structure Frozen (frozen : Locals) (base : List Context) (w : Situation) : Prop where
  locals : w.session.locals = frozen
  held : ∃ inside, w.contexts = inside ++ base ∧ Held frozen w.session.scopes.guards inside

namespace Frozen

variable {s t : Session} {context : Context} {k : List Context}

/-- The same in another session with the same local scopes and as many guards, or more. -/
lemma of_locals_eq (h : Frozen frozen base ⟨s, k⟩) (hlocals : t.locals = s.locals)
    (hguards : s.scopes.guards ≤ t.scopes.guards) : Frozen frozen base ⟨t, k⟩ := by
  obtain ⟨inside, hk, hheld⟩ := h.held
  exact ⟨hlocals.trans h.locals, inside, hk, hheld.mono hguards⟩

/-- The latest run is inside the run in Global if this stays active without it. -/
lemma exists_inside (h : Frozen frozen base ⟨s, context :: k⟩) (hbase : base <:+ k) :
    ∃ inside, k = inside ++ base ∧ Held frozen s.scopes.guards (context :: inside) := by
  obtain ⟨inside, hk, hheld⟩ := h.held
  cases inside with
  | nil =>
    have hlength := hbase.length_le
    rw [← show context :: k = base from hk] at hlength
    exact absurd hlength (Nat.not_succ_le_self _)
  | cons first inside =>
    obtain ⟨rfl, rfl⟩ := List.cons.inj hk
    exact ⟨inside, rfl, hheld⟩

/-- A guard that is set inside. -/
lemma opened (h : Frozen frozen base ⟨s, k⟩) (hactive : frozen.globalActive = true)
    {guard : Guard} {close : Session → Session} (hopen : guard.opens s = .ok (t, close)) :
    Frozen frozen base ⟨t, guard.context s :: k⟩ := by
  have hon : s.locals.globalActive = true := h.locals ▸ hactive
  obtain ⟨inside, rfl, hheld⟩ := h.held
  cases guard with
  | isolation =>
    cases hopen
    exact ⟨h.locals, _ :: inside, rfl, .isolated hheld _⟩
  | scope =>
    obtain ⟨mark, scopes, hbegin, -, -⟩ := Guard.scope_opens_eq_ok hopen
    exact absurd hbegin (Session.not_beginTemporary hon)
  | global =>
    cases hopen
    have hcontext : Guard.global.context s = .global true := congrArg Context.global hon
    refine ⟨?_, _ :: inside, rfl, ?_⟩
    · rw [Session.locals_beginGlobal, h.locals, Locals.inGlobal_eq hactive]
    · rw [hcontext]
      exact .global hheld (Nat.lt_succ_self _)
  | call =>
    cases hopen
    exact ⟨h.locals, _ :: inside, rfl, .call hheld⟩

/-- A run inside returns. -/
lemma returned (h : Frozen frozen base ⟨s, context :: k⟩) (hactive : frozen.globalActive = true)
    (hbase : base <:+ k) : Frozen frozen base ⟨context.close s, k⟩ := by
  obtain ⟨inside, rfl, hheld⟩ := h.exists_inside hbase
  cases hheld with
  | isolated hrest restoreTo => exact ⟨h.locals, inside, rfl, hrest⟩
  | call hrest => exact ⟨h.locals, inside, rfl, hrest⟩
  | global hrest hlt =>
    refine ⟨?_, inside, rfl, hrest.mono (Nat.le_sub_one_of_lt hlt)⟩
    change s.locals.inGlobal = frozen
    rw [h.locals, Locals.inGlobal_eq hactive]
  | supervised hrest hlocals hle own => exact ⟨h.locals, inside, rfl, hrest.mono hle⟩

/-- Every move inside the run keeps the local scopes frozen. -/
theorem within (h : Frozen frozen base w) (hactive : frozen.globalActive = true)
    (hmove : Within base w w') : Frozen frozen base w' := by
  obtain ⟨hmove, hbase⟩ := hmove
  have hon : w.session.locals.globalActive = true := h.locals ▸ hactive
  cases hmove with
  | acted hstep =>
    obtain ⟨inside, -, hheld⟩ := h.held
    obtain ⟨-, hguards⟩ := hstep.marks_guards_eq
    have hlocals := Session.locals_eq_of_step hstep hon hheld.guards_pos
    exact h.of_locals_eq hlocals (Nat.le_of_eq hguards.symm)
  | temporaryBegun hbegin => exact absurd hbegin (Session.not_beginTemporary hon)
  | globalBegun s k =>
    refine h.of_locals_eq ?_ (Nat.le_succ _)
    rw [Session.locals_beginGlobal, Locals.inGlobal_eq hon]
  | opened hopen => exact h.opened hactive hopen
  | supervised s k =>
    obtain ⟨inside, rfl, hheld⟩ := h.held
    exact ⟨h.locals, _ :: inside, rfl, .supervised hheld h.locals (Nat.le_refl _) []⟩
  | returned s context k => exact h.returned hactive hbase
  | dropped s context k =>
    obtain ⟨inside, rfl, hheld⟩ := h.exists_inside hbase
    exact ⟨h.locals, inside, rfl, hheld.tail⟩
  | contained s entry own k =>
    obtain ⟨inside, rfl, hheld⟩ := h.exists_inside hbase
    cases hheld with
    | supervised hrest hlocals hle own =>
      refine ⟨?_, inside, rfl, hrest⟩
      have hsame : s.locals = entry.locals := h.locals.trans hlocals.symm
      exact (Session.locals_restore hsame).trans hlocals

/-- So do all moves inside the run. -/
theorem run (h : Frozen frozen base w) (hactive : frozen.globalActive = true)
    (hmoves : Relation.ReflTransGen (Within base) w w') : Frozen frozen base w' := by
  induction hmoves with
  | refl => exact h
  | tail _ hmove ih => exact ih.within hactive hmove

end Frozen

/-- At the beginning of a run in Global the local scopes are frozen as they are. -/
lemma frozen_beginGlobal (s : Session) (base : List Context) :
    Frozen s.locals.inGlobal base ⟨{ s with scopes := s.scopes.beginGlobal.2 }, base⟩ :=
  ⟨s.locals_beginGlobal, [], rfl, .outer (Nat.succ_pos _)⟩

end Situation

/-! ### Runs in Global -/

namespace Engine

open Situation

variable {α : Type} {s : Session}

/-- A run in Global is a run under a guard. -/
lemma inGlobal_eq_run (action : Engine α) : inGlobal action = Guard.global.run action := rfl

/-- Wherever moves lead inside a run in Global, the local scopes are as they were and Global is
active. -/
lemma locals_eq_of_within {base : List Context} {w : Situation}
    (h : Relation.ReflTransGen (Within base)
      ⟨{ s with scopes := s.scopes.beginGlobal.2 }, base⟩ w) :
    w.session.locals = s.locals.inGlobal :=
  ((frozen_beginGlobal s base).run rfl h).locals

/-- However the body of a run in Global ends, the local scopes are then as they were and Global is
active. -/
lemma MadeOfMoves.locals_eq {body : Engine α} (h : body.MadeOfMoves) (s : Session) :
    (body { s with scopes := s.scopes.beginGlobal.2 }).2.locals = s.locals.inGlobal :=
  locals_eq_of_within (h _ [])

/-- A run in Global keeps the local scopes, the marks and where access goes. -/
lemma MadeOfMoves.keeps_inGlobal {body : Engine α} (h : body.MadeOfMoves) (s : Session) :
    (inGlobal body).Keeps Session.locals Locals.scopes s := by
  have hlocals := h.locals_eq s
  have hopen : Guard.global.opens s = .ok _ := rfl
  rw [inGlobal_eq_run]
  refine keeps_guarded hopen ?_ ?_
  · change { (body { s with scopes := s.scopes.beginGlobal.2 }).2.locals with
      globalActive := s.scopes.globalActive } = s.locals
    rw [hlocals]
    rfl
  · rw [hlocals]
    exact List.suffix_rfl

end Engine

end LineShell
