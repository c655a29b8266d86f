import LineShell.Proofs.Shelter
import Mathlib.Logic.Relation

/-!
# Every situation that can come up

What happens in a session is seen here as a machine that makes single steps.  Its state is a
*situation*: the session, and the runs that are active in it, each with what it keeps until it ends.
A host may do in any situation what the interface of a session allows: change the session, begin and
end temporary scopes by hand, begin guarded and supervised runs, and end them.  A crash may come at
any time; it drops guarded runs without ending them, until a supervised run contains it.  Only two
things are ruled out: a call beyond the limit, which the interpreter refuses, and that in a
supervised run a temporary scope is ended which was begun outside it.

`Routine.Regular.steps` says that this is what the interpreter does: all its runs are made of such
steps.  `Situation.Invariant` is preserved by every step, and `Situation.Reachable.wellFormed` is
what follows from it for the session.
-/

namespace LineShell

/-! ### The machine -/

/-- A run that is active, with what it keeps until it ends.  Of a supervised run we also record
which temporary scopes were begun by hand in it. -/
inductive Context
  | isolated (restoreTo : Nat)
  | temporary (mark : TemporaryMark)
  | global (wasGlobal : Bool)
  | call
  | supervised (entry : Session) (own : List TemporaryMark)

namespace Context

/-- What is done when a run returns. -/
def close : Context → Session → Session
  | .isolated restoreTo, s => { s with memory := s.memory.leaveIsolated restoreTo }
  | .temporary mark, s => { s with scopes := s.scopes.endTemporary mark }
  | .global wasGlobal, s => { s with scopes := s.scopes.endGlobal wasGlobal }
  | .call, s => { s with depth := s.depth - 1 }
  | .supervised _ _, s => s

/-- The run with a temporary scope begun in it. -/
def record (mark : TemporaryMark) : Context → Context
  | .supervised entry own => .supervised entry (mark :: own)
  | context => context

/-- Whether a temporary scope may be ended in a run: in a supervised one only if it was begun
there. -/
def Owns (mark : TemporaryMark) : Context → Prop
  | .supervised _ own => mark ∈ own
  | _ => True

/-- Whether a run is a call. -/
def isCall : Context → Bool
  | .call => true
  | _ => false

/-- The session at the beginning of a supervised run. -/
def entry? : Context → Option Session
  | .supervised entry _ => some entry
  | _ => none

end Context

/-- The run under a guard. -/
def Guard.context : Guard → Session → Context
  | .isolation, s => .isolated s.memory.depth
  | .scope, s => .temporary ⟨s.scopes.depth, s.scopes.globalActive⟩
  | .global, s => .global s.scopes.globalActive
  | .call, _ => .call

/-- The run under a guard is closed as the guard is taken back. -/
lemma Guard.close_eq {guard : Guard} {s t : Session} {close : Session → Session}
    (h : guard.opens s = .ok (t, close)) : close = (guard.context s).close := by
  cases guard with
  | scope =>
    obtain ⟨mark, scopes, hbegin, -, rfl⟩ := scope_opens_eq_ok h
    obtain ⟨hglobal, rfl, -⟩ := Scopes.beginTemporary_eq_ok hbegin
    funext u
    simp only [context, Context.close, hglobal]
  | _ =>
    cases h
    rfl

/-- A session and the runs that are active in it, the latest first. -/
structure Situation where
  session : Session
  contexts : List Context

namespace Situation

/-- One step. -/
inductive Step : Situation → Situation → Prop
  /-- Anything that is done to the session in one go. -/
  | acted {s t : Session} {k : List Context} (h : s.Step True t)
      (hlimit : t.maxDepth = s.maxDepth) : Step ⟨s, k⟩ ⟨t, k⟩
  /-- A temporary scope is begun by hand, in all runs that are active. -/
  | begun {s : Session} {k : List Context} {mark : TemporaryMark} {scopes : Scopes}
      (h : s.scopes.beginTemporary = .ok (mark, scopes)) :
      Step ⟨s, k⟩ ⟨{ s with scopes }, k.map (Context.record mark)⟩
  /-- A temporary scope is ended by hand.  The mark may be any, if no supervised run is active. -/
  | ended {s : Session} {k : List Context} {mark : TemporaryMark}
      (h : ∀ context ∈ k, context.Owns mark) :
      Step ⟨s, k⟩ ⟨{ s with scopes := s.scopes.endTemporary mark }, k⟩
  /-- A run under a guard begins. -/
  | opened {s t : Session} {k : List Context} {guard : Guard} {close : Session → Session}
      (h : guard.opens s = .ok (t, close)) (hcall : guard = .call → s.depth < s.maxDepth) :
      Step ⟨s, k⟩ ⟨t, guard.context s :: k⟩
  /-- A supervised run begins. -/
  | supervised (s : Session) (k : List Context) : Step ⟨s, k⟩ ⟨s, .supervised s [] :: k⟩
  /-- The latest run returns. -/
  | returned (s : Session) (context : Context) (k : List Context) :
      Step ⟨s, context :: k⟩ ⟨context.close s, k⟩
  /-- A crash breaks out of the latest run. -/
  | dropped (s : Session) (context : Context) (k : List Context) : Step ⟨s, context :: k⟩ ⟨s, k⟩
  /-- A crash ends in a supervised run. -/
  | contained (s entry : Session) (own : List TemporaryMark) (k : List Context) :
      Step ⟨s, .supervised entry own :: k⟩ ⟨s.restore entry.checkpoint, k⟩

/-- The situations that can come up: a session that is built and in which no run is active, what
steps lead to, and a copy of a session, in which no run is active either. -/
inductive Reachable : Situation → Prop
  | build {options : SessionOptions} {registry : Registry} {files : FileTree}
      {packages : List Package} {macros : List (String × Macro)} {s : Session}
      (h : Session.build options registry files packages macros = .ok s) : Reachable ⟨s, []⟩
  | step {w w' : Situation} (h : Reachable w) (hstep : w.Step w') : Reachable w'
  | fork {s : Session} {k : List Context} (h : Reachable ⟨s, k⟩) : Reachable ⟨s.fork, []⟩

end Situation

/-! ### Runs of the interpreter are made of steps -/

/-- The runs that are made of steps, whatever runs are active, are closed under all the ways of
putting regular routines together. -/
lemma Engine.rule_steps :
    Rule True fun _ s t => ∀ k, Relation.ReflTransGen Situation.Step ⟨s, k⟩ ⟨t, k⟩ where
  leaf h _ _ := .single (.acted h.toStep (Session.maxDepth_of_setup h.setup))
  trans hst htu k := (hst k).trans (htu k)
  written out err jobs h k := (h k).tail (.acted (Session.Alike.step ⟨rfl, rfl, rfl, rfl, rfl⟩) rfl)
  guarded {e s t u guard close} hopen hcall htu k := by
    have hbegin : Relation.ReflTransGen Situation.Step ⟨s, k⟩ ⟨t, guard.context s :: k⟩ :=
      .single (.opened hopen hcall)
    have hbody := hbegin.trans (htu (guard.context s :: k))
    split
    · rw [Guard.close_eq hopen]
      exact hbody.tail (.returned u _ k)
    · exact hbody.tail (.dropped u _ k)
  contained {s t} h k := by
    have hbegin : Relation.ReflTransGen Situation.Step ⟨s, k⟩ ⟨s, .supervised s [] :: k⟩ :=
      .single (.supervised s k)
    exact (hbegin.trans (h _)).tail (.contained t s [] k)

/-- However the run of a regular routine ends, and whatever runs are active, it is made of steps. -/
theorem Routine.Regular.steps {α : Type} {routine : Routine α} (h : routine.Regular True)
    (fuel : Nat) (s : Session) (k : List Context) :
    Relation.ReflTransGen Situation.Step ⟨s, k⟩ ⟨(routine (Engine.execute fuel) s).2, k⟩ :=
  h.satisfies Engine.rule_steps (Engine.rule_execute Engine.rule_steps fuel) s k

namespace Situation

/-- What comes after a situation that can come up can come up. -/
lemma Reachable.trans {w w' : Situation} (h : w.Reachable)
    (hsteps : Relation.ReflTransGen Step w w') : w'.Reachable := by
  induction hsteps with
  | refl => exact h
  | tail _ hstep ih => exact ih.step hstep

/-- A situation that can come up stays one when a regular routine is run in it. -/
lemma Reachable.run {α : Type} {w : Situation} (h : w.Reachable) {routine : Routine α}
    (hr : routine.Regular True) (fuel : Nat) :
    Reachable ⟨(routine (Engine.execute fuel) w.session).2, w.contexts⟩ :=
  h.trans (hr.steps fuel w.session w.contexts)

end Situation

/-! ### What is taken away stays well-formed -/

/-- Leaving an isolated run keeps the floors on the frames, however many frames there are. -/
lemma Memory.valid_leaveIsolated {m : Memory} (hm : m.tower.Valid) {restoreTo : Nat}
    (h : 1 ≤ restoreTo) : (m.leaveIsolated restoreTo).tower.Valid := by
  have hdropped : (m.dropFloors restoreTo).tower.Valid := by
    refine ⟨hm.levels_ne_nil, hm.decreasing.sublist (List.dropWhile_suffix _).sublist, ?_⟩
    exact fun b hb => hm.bounds b ((List.dropWhile_suffix _).subset hb)
  change ((m.dropFloors restoreTo).truncate restoreTo).tower.Valid
  rw [tower_truncate h]
  exact hdropped.cut h

/-- Ending any temporary scope keeps the marks on the local scopes. -/
lemma Scopes.valid_endTemporary {sc : Scopes} (hsc : sc.tower.Valid) (mark : TemporaryMark) :
    (sc.endTemporary mark).tower.Valid := by
  have hlocals : (sc.keepScopes mark.restoreDepth).locals =
      sc.tower.cut (max mark.restoreDepth 1) := by
    have hmax : max mark.restoreDepth 1 = max (max mark.restoreDepth 1) 1 := by omega
    rw [← locals_keepScopes (Nat.le_max_right _ 1)]
    unfold keepScopes
    rw [← hmax]
  refine ⟨?_, hsc.decreasing.sublist (List.dropWhile_suffix _).sublist, fun b hb => ⟨?_, ?_⟩⟩
  · exact List.cons_ne_nil _ _
  · exact (hsc.bounds b ((List.dropWhile_suffix _).subset hb)).1
  · have hheight := (hsc.bounds b ((List.dropWhile_suffix _).subset hb)).2
    have hdepth := hsc.le_of_mem_dropWhile hb
    change b ≤ (sc.keepScopes mark.restoreDepth).locals.length
    rw [hlocals, Tower.length_cut]
    omega

namespace Session

variable {s t : Session}

/-- Rolling back after a crash keeps a session sound, as long as the marks of the beginning are
there. -/
lemma Sound.restore (hs : s.Sound) (ht : t.Sound) (hmarks : s.scopes.marks <:+ t.scopes.marks) :
    (t.restore s.checkpoint).Sound := by
  constructor
  · change (t.memory.truncate s.memory.depth).tower.Valid
    rw [Memory.tower_truncate s.memory.one_le_depth]
    exact ht.memory.cut s.memory.one_le_depth
  · change (t.scopes.restore s.scopes.checkpoint).tower.Valid
    rw [Scopes.tower_restore hmarks]
    exact hs.scopes.recall ht.scopes hmarks

end Session

/-! ### The invariant -/

namespace Situation

/-- The sessions at the beginnings of the supervised runs. -/
def entries (k : List Context) : List Session := k.filterMap Context.entry?

/-- The number of calls among the active runs. -/
def calls (k : List Context) : Nat := k.countP Context.isCall

/-- A call is one more. -/
lemma calls_call (k : List Context) : calls (.call :: k) = calls k + 1 :=
  List.countP_cons_of_pos rfl

/-- Without the latest run there are no more calls. -/
lemma calls_le_cons (context : Context) (k : List Context) : calls k ≤ calls (context :: k) :=
  (List.sublist_cons_self context k).countP_le

/-- Recording a temporary scope does not change where the supervised runs began. -/
lemma entries_record (mark : TemporaryMark) (k : List Context) :
    entries (k.map (Context.record mark)) = entries k := by
  rw [entries, List.filterMap_map]
  congr 1
  funext context
  cases context <;> rfl

/-- Recording a temporary scope does not change the number of calls. -/
lemma calls_record (mark : TemporaryMark) (k : List Context) :
    calls (k.map (Context.record mark)) = calls k := by
  rw [calls, List.countP_map]
  congr 1
  funext context
  cases context <;> rfl

/-- Ending a temporary scope takes away none of the marks with which the supervised runs began. -/
def Spares (k : List Context) (mark : TemporaryMark) : Prop :=
  ∀ entry ∈ entries k, ∀ b ∈ entry.scopes.marks, b ≤ mark.restoreDepth

/-- A run that is not supervised fits on those before it: an isolated one leaves a frame when it
ends, and one in a temporary scope spares the marks. -/
def Fits (k : List Context) : Context → Prop
  | .isolated restoreTo => 1 ≤ restoreTo
  | .temporary mark => Spares k mark
  | .supervised _ _ => False
  | _ => True

/-- A run that fits and is not supervised adds no beginning. -/
lemma entries_of_fits {context : Context} {k : List Context} (h : Fits k context) :
    entries (context :: k) = entries k := by
  cases context with
  | supervised entry own => exact h.elim
  | _ => rfl

/-- What the active runs keep fits the marks that there are: a supervised run began with some of
them, and neither the temporary scopes inside it nor those that were begun by hand in it reach down
to these. -/
inductive Nested (limit : Nat) : List Nat → List Context → Prop
  | nil (marks : List Nat) : Nested limit marks []
  | guarded {marks : List Nat} {context : Context} {k : List Context} (h : Nested limit marks k)
      (hfits : Fits k context) : Nested limit marks (context :: k)
  | supervised {marks : List Nat} {k : List Context} {entry : Session}
      (h : Nested limit entry.scopes.marks k) (hmarks : entry.scopes.marks <:+ marks)
      (hsound : entry.Sound) (hdepth : entry.depth ≤ limit) (hcalls : calls k ≤ entry.depth)
      {own : List TemporaryMark}
      (hown : ∀ mark ∈ own, ∀ b ∈ entry.scopes.marks, b ≤ mark.restoreDepth) :
      Nested limit marks (.supervised entry own :: k)

namespace Nested

variable {limit : Nat} {marks marks' : List Nat} {context : Context} {k : List Context}

/-- The marks with which a supervised run began are there. -/
lemma suffix (h : Nested limit marks k) : ∀ entry ∈ entries k, entry.scopes.marks <:+ marks := by
  induction h with
  | nil marks => simp [entries]
  | guarded _ hfits ih =>
    rw [entries_of_fits hfits]
    exact ih
  | supervised _ hmarks _ _ _ _ ih =>
    intro entry hentry
    rcases List.mem_cons.1 hentry with rfl | hmem
    · exact hmarks
    · exact (ih entry hmem).trans hmarks

/-- Only the marks with which supervised runs began matter. -/
lemma of_suffix (h : Nested limit marks k)
    (hsuffix : ∀ entry ∈ entries k, entry.scopes.marks <:+ marks') : Nested limit marks' k := by
  induction h with
  | nil marks => exact .nil marks'
  | guarded _ hfits ih =>
    rw [entries_of_fits hfits] at hsuffix
    exact .guarded (ih hsuffix) hfits
  | supervised h _ hsound hdepth hcalls hown _ =>
    exact .supervised h (hsuffix _ List.mem_cons_self) hsound hdepth hcalls hown

/-- More marks do no harm. -/
lemma mono (h : Nested limit marks k) (hmarks : marks <:+ marks') : Nested limit marks' k :=
  h.of_suffix fun entry hentry => (h.suffix entry hentry).trans hmarks

/-- What the other runs keep fits without the latest one. -/
lemma tail (h : Nested limit marks (context :: k)) : Nested limit marks k := by
  cases h with
  | guarded hrest _ => exact hrest
  | supervised hrest hmarks _ _ _ _ => exact hrest.mono hmarks

/-- A temporary scope that may be ended in all active runs spares the marks of their beginnings. -/
lemma spares_of_owns (h : Nested limit marks k) {mark : TemporaryMark}
    (howns : ∀ context ∈ k, context.Owns mark) : Spares k mark := by
  induction h with
  | nil marks => simp [Spares, entries]
  | guarded _ hfits ih =>
    rw [Spares, entries_of_fits hfits]
    exact ih fun context hc => howns context (List.mem_cons_of_mem _ hc)
  | supervised _ _ _ _ _ hown ih =>
    intro entry hentry
    rcases List.mem_cons.1 hentry with rfl | hmem
    · exact hown mark (howns _ List.mem_cons_self)
    · exact ih (fun context hc => howns context (List.mem_cons_of_mem _ hc)) entry hmem

/-- A temporary scope that begins above all marks spares those of the beginnings. -/
lemma spares_of_le (h : Nested limit marks k) {mark : TemporaryMark}
    (hle : ∀ b ∈ marks, b ≤ mark.restoreDepth) : Spares k mark :=
  fun entry hentry b hb => hle b ((h.suffix entry hentry).subset hb)

/-- After the end of a temporary scope that spares them, the marks of the beginnings are there. -/
lemma of_spares (h : Nested limit marks k) {mark : TemporaryMark} (hspares : Spares k mark) :
    Nested limit (marks.dropWhile (mark.restoreDepth < ·)) k :=
  h.of_suffix fun entry hentry =>
    Tower.suffix_dropWhile_of_le (h.suffix entry hentry) (hspares entry hentry)

/-- A run that fits is not changed by recording a temporary scope, and still fits. -/
lemma fits_record (mark : TemporaryMark) (h : Fits k context) :
    context.record mark = context ∧ Fits (k.map (Context.record mark)) context := by
  cases context with
  | temporary other =>
    refine ⟨rfl, ?_⟩
    rw [Fits, Spares, entries_record]
    exact h
  | supervised entry own => exact h.elim
  | _ => exact ⟨rfl, h⟩

/-- A temporary scope that spares the marks of the beginnings may be recorded. -/
lemma record (h : Nested limit marks k) {mark : TemporaryMark} (hspares : Spares k mark) :
    Nested limit marks (k.map (Context.record mark)) := by
  induction h with
  | nil marks => exact .nil marks
  | guarded _ hfits ih =>
    rw [Spares, entries_of_fits hfits] at hspares
    obtain ⟨hsame, hstill⟩ := fits_record mark hfits
    rw [List.map_cons, hsame]
    exact .guarded (ih hspares) hstill
  | supervised _ hmarks hsound hdepth hcalls hown ih =>
    have hrest := ih fun entry hentry => hspares entry (List.mem_cons_of_mem _ hentry)
    refine .supervised hrest hmarks hsound hdepth (by rwa [calls_record]) fun other hother => ?_
    rcases List.mem_cons.1 hother with rfl | hmem
    · exact hspares _ List.mem_cons_self
    · exact hown other hmem

end Nested

/-- The session is sound, the calls that are active are counted and within the limit, and what the
active runs keep fits. -/
structure Invariant (w : Situation) : Prop where
  sound : w.session.Sound
  depth_le : w.session.depth ≤ w.session.maxDepth
  calls_le : calls w.contexts ≤ w.session.depth
  nested : Nested w.session.maxDepth w.session.scopes.marks w.contexts

namespace Invariant

variable {s t : Session} {k : List Context}

/-- The marks are within the number of local scopes. -/
lemma mark_le (h : Invariant ⟨s, k⟩) : ∀ b ∈ s.scopes.marks, b ≤ s.scopes.depth :=
  fun b hb => (h.sound.scopes.bounds b hb).2

/-- An active call is counted. -/
lemma depth_pos {w : Situation} (h : w.Invariant) (hcall : w.contexts = .call :: k) :
    0 < w.session.depth := by
  have hcalls := h.calls_le
  rw [hcall, calls_call] at hcalls
  exact Nat.lt_of_lt_of_le (Nat.succ_pos _) hcalls

/-- What extends the session of a situation, with the same calls, keeps the invariant. -/
lemma of_extends (h : Invariant ⟨s, k⟩) (hext : s.Extends t) (hdepth : t.depth = s.depth)
    (hlimit : t.maxDepth = s.maxDepth) : Invariant ⟨t, k⟩ where
  sound := hext.sound
  depth_le := by
    have hle := h.depth_le
    simp only [hdepth, hlimit] at hle ⊢
    exact hle
  calls_le := by
    simp only [hdepth]
    exact h.calls_le
  nested := by
    simp only [hlimit]
    exact h.nested.mono hext.scopes.bars

/-- A guard that is set keeps the invariant. -/
lemma opened (h : Invariant ⟨s, k⟩) {guard : Guard} {close : Session → Session}
    (hopen : guard.opens s = .ok (t, close)) (hcall : guard = .call → s.depth < s.maxDepth) :
    Invariant ⟨t, guard.context s :: k⟩ := by
  have hext := Session.extends_of_opens h.sound hopen
  cases guard with
  | isolation =>
    cases hopen
    have hsame := h.of_extends hext rfl rfl
    exact ⟨hsame.sound, hsame.depth_le, hsame.calls_le,
      .guarded hsame.nested s.memory.one_le_depth⟩
  | scope =>
    obtain ⟨mark, scopes, -, rfl, -⟩ := Guard.scope_opens_eq_ok hopen
    have hsame := h.of_extends hext rfl rfl
    exact ⟨hsame.sound, hsame.depth_le, hsame.calls_le,
      .guarded hsame.nested (h.nested.spares_of_le h.mark_le)⟩
  | global =>
    cases hopen
    have hsame := h.of_extends hext rfl rfl
    exact ⟨hsame.sound, hsame.depth_le, hsame.calls_le, .guarded hsame.nested trivial⟩
  | call =>
    cases hopen
    refine ⟨hext.sound, hcall rfl, ?_, .guarded h.nested trivial⟩
    rw [Guard.context, calls_call]
    exact Nat.succ_le_succ h.calls_le

/-- A run that returns keeps the invariant. -/
lemma returned {context : Context} (h : Invariant ⟨s, context :: k⟩) :
    Invariant ⟨context.close s, k⟩ := by
  obtain ⟨hsound, hdepth, hcalls, hnested⟩ := h
  have hrest := hnested.tail
  cases context with
  | isolated restoreTo =>
    cases hnested with
    | guarded _ hpos =>
      exact ⟨⟨Memory.valid_leaveIsolated hsound.memory hpos, hsound.scopes⟩, hdepth, hcalls, hrest⟩
  | temporary mark =>
    cases hnested with
    | guarded _ hspares =>
      exact ⟨⟨hsound.memory, Scopes.valid_endTemporary hsound.scopes mark⟩, hdepth, hcalls,
        hrest.of_spares hspares⟩
  | global wasGlobal => exact ⟨⟨hsound.memory, hsound.scopes⟩, hdepth, hcalls, hrest⟩
  | call =>
    have hcounted : calls k + 1 ≤ s.depth := calls_call k ▸ hcalls
    exact ⟨⟨hsound.memory, hsound.scopes⟩, Nat.le_trans (Nat.sub_le _ 1) hdepth,
      Nat.le_sub_one_of_lt hcounted, hrest⟩
  | supervised entry own => exact ⟨hsound, hdepth, hcalls, hrest⟩

/-- A run that is dropped keeps the invariant. -/
lemma dropped {context : Context} (h : Invariant ⟨s, context :: k⟩) : Invariant ⟨s, k⟩ :=
  ⟨h.sound, h.depth_le, Nat.le_trans (calls_le_cons context k) h.calls_le, h.nested.tail⟩

end Invariant

/-- Every step keeps the invariant. -/
theorem Step.invariant {w w' : Situation} (hstep : w.Step w') (h : w.Invariant) :
    w'.Invariant := by
  cases hstep with
  | acted hact hlimit =>
    refine h.of_extends ?_ hact.depth hlimit
    exact ⟨hact.memory.extends h.sound.memory, hact.scopes.extends h.sound.scopes⟩
  | @begun s k mark scopes hbegin =>
    have hext : s.Extends { s with scopes } :=
      ⟨h.sound.memory.extends_self, (Scopes.Step.temporaryBegun trivial hbegin).extends
        h.sound.scopes⟩
    have hsame := h.of_extends hext rfl rfl
    obtain ⟨-, hmark, -⟩ := Scopes.beginTemporary_eq_ok hbegin
    have hspares : Spares k mark := h.nested.spares_of_le (hmark ▸ h.mark_le)
    refine ⟨hsame.sound, hsame.depth_le, ?_, hsame.nested.record hspares⟩
    rw [calls_record]
    exact hsame.calls_le
  | @ended s k mark howns =>
    exact ⟨⟨h.sound.memory, Scopes.valid_endTemporary h.sound.scopes mark⟩, h.depth_le, h.calls_le,
      h.nested.of_spares (h.nested.spares_of_owns howns)⟩
  | opened hopen hcall => exact h.opened hopen hcall
  | supervised s k =>
    exact ⟨h.sound, h.depth_le, h.calls_le,
      .supervised h.nested List.suffix_rfl h.sound h.depth_le h.calls_le (by simp)⟩
  | returned s context k => exact h.returned
  | dropped s context k => exact h.dropped
  | contained s entry own k =>
    cases h.nested with
    | guarded _ hfits => exact hfits.elim
    | supervised hrest hmarks hsound hdepth hcalls _ =>
      refine ⟨hsound.restore h.sound hmarks, hdepth, hcalls, ?_⟩
      have hkept : (s.scopes.restore entry.scopes.checkpoint).tower.bars = entry.scopes.marks := by
        rw [Scopes.tower_restore hmarks]
      exact hrest.mono (hkept ▸ List.suffix_rfl)

/-- Every situation that can come up has the invariant. -/
theorem Reachable.invariant {w : Situation} (h : w.Reachable) : w.Invariant := by
  induction h with
  | build h =>
    have hdepth := (Session.build_eq_ok h).2.2
    exact ⟨(Session.Reachable.build h).sound, hdepth ▸ Nat.zero_le _, Nat.zero_le _, .nil _⟩
  | step _ hstep ih => exact hstep.invariant ih
  | fork _ ih =>
    exact ⟨⟨ih.sound.memory, ih.sound.scopes⟩, Nat.zero_le _, Nat.le_refl 0, .nil _⟩

end Situation

/-! ### What follows for the session -/

/-- What is expected of the representation of a session: there are frames and local scopes, the
floors stand one above the other on the frames, so do the marks on the local scopes, and the calls
are within the limit. -/
structure Session.WellFormed (s : Session) : Prop where
  frames_pos : 0 < s.memory.frames.length
  locals_pos : 0 < s.scopes.locals.length
  floors_increasing : s.memory.floors.reverse.Pairwise (· < ·)
  floors_bounds : ∀ floor ∈ s.memory.floors, 2 ≤ floor ∧ floor ≤ s.memory.frames.length
  marks_increasing : s.scopes.marks.reverse.Pairwise (· < ·)
  marks_bounds : ∀ mark ∈ s.scopes.marks, 2 ≤ mark ∧ mark ≤ s.scopes.locals.length
  depth_le : s.depth ≤ s.maxDepth

/-- Closing a frame is refused only where a floor or the base is reached, never for want of one. -/
lemma Memory.depth_le_floor_of_closeFrame {m : Memory} (hm : m.tower.Valid) {e : Error}
    (h : m.closeFrame = .error e) : m.depth ≤ m.floor := by
  unfold closeFrame at h
  split at h
  · assumption
  · cases hbelow : m.below with
    | nil =>
      have hpos : 1 ≤ m.floor := hm.bar_bounds.1
      have hdepth : m.depth = 1 := by simp [depth, hbelow]
      omega
    | cons next below => simp [hbelow] at h

namespace Situation

open Engine

/-- In every situation that can come up, after crashes that were contained as well, the session is
well-formed; a frame is never missing when one is closed, and a call that returns, at any time or
after its body, was counted.  What regular routines, supervised lines and supervised scripts lead to
can come up, too. -/
theorem Reachable.wellFormed {w : Situation} (h : w.Reachable) :
    w.session.WellFormed ∧
      (∀ e, w.session.memory.closeFrame = .error e →
        w.session.memory.depth ≤ w.session.memory.floor) ∧
      (∀ k, w.contexts = .call :: k → 0 < w.session.depth) ∧
      (∀ name args package command arguments,
        resolveCall w.session name args = .ok (package, command, arguments) → ∀ fuel,
          0 < (runBody fuel (execute fuel) package.name arguments command.body
            { w.session with depth := w.session.depth + 1 }).2.depth) ∧
      (∀ {α : Type} {routine : Routine α}, routine.Regular True → ∀ fuel,
        Reachable ⟨(routine (execute fuel) w.session).2, w.contexts⟩) ∧
      (∀ line fuel, Reachable ⟨(superviseLine (execute fuel) line w.session).2, w.contexts⟩) ∧
      ∀ origin text fuel,
        Reachable ⟨(superviseScript (execute fuel) origin text w.session).2, w.contexts⟩ := by
  have hinv := h.invariant
  refine ⟨?_, ?_, ?_, ?_, fun hr fuel => h.run hr fuel, fun line fuel => ?_,
    fun origin text fuel => ?_⟩
  · exact ⟨List.length_pos_of_ne_nil hinv.sound.memory.levels_ne_nil,
      List.length_pos_of_ne_nil hinv.sound.scopes.levels_ne_nil,
      List.pairwise_reverse.2 hinv.sound.memory.decreasing, hinv.sound.memory.bounds,
      List.pairwise_reverse.2 hinv.sound.scopes.decreasing, hinv.sound.scopes.bounds,
      hinv.depth_le⟩
  · exact fun e => Memory.depth_le_floor_of_closeFrame hinv.sound.memory
  · exact fun k hk => hinv.depth_pos hk
  · intro name args package command arguments hresolve fuel
    have hcall : Reachable ⟨{ w.session with depth := w.session.depth + 1 }, .call :: w.contexts⟩ :=
      h.step (.opened (show Guard.call.opens w.session = .ok (_, _) from rfl) fun _ =>
        (resolveCall_eq_ok hresolve).2)
    have hbody := Host.Regular.standard.runBody fuel package.name arguments command.body
    exact (hcall.run hbody fuel).invariant.depth_pos rfl
  · exact h.run (Routine.regular_superviseLine line) fuel
  · exact h.run (Routine.regular_superviseScript origin text) fuel

/-- In a temporary scope in an isolated run, after a crash in another isolated run was contained,
the session is well-formed. -/
theorem wellFormed_after_contained_crash :
    let start := Session.start {} standardRegistry .empty
    let inside : Session :=
      { start with
        memory := start.memory.enterIsolated.2
        scopes := ⟨.empty, [.empty], .empty, false, [2], 0⟩ }
    let s := (supervise "run" (isolated (crash .other)) inside).2
    s.WellFormed ∧ s.memory.floors = [2] ∧ s.scopes.marks = [2] ∧
      s.err = "run: unexpected failure in 'run': command panicked\n" := by
  intro start inside s
  have hstart : Reachable ⟨start, []⟩ :=
    .build (show Session.build {} standardRegistry .empty [] [] = .ok start from rfl)
  have hisolated := hstart.step (.opened (show Guard.isolation.opens start = .ok (_, _) from rfl)
    (by simp))
  have hinside := hisolated.step (.opened
    (show Guard.scope.opens { start with memory := start.memory.enterIsolated.2 } =
      .ok (inside, _) from rfl) (by simp))
  have hrun := hinside.run (.supervised "run" (.isolated (.crash trivial .other))) 0
  exact ⟨hrun.wellFormed.1, rfl, rfl, by decide⟩

end Situation

end LineShell
