import LineShell.Proofs.Routine.Interpreter
import LineShell.Proofs.Tower

/-!
# What guarded runs shelter

The frames with their floors and the local scopes with their marks are towers with barriers.  In
every session that can be reached both towers are valid (`Session.Reachable.sound`), and a run of
any composed routine only extends them (`Routine.Composed.extends`), however it ends.  Therefore a
guarded run gives them back as they were: an isolated run the frames and the floors, a temporary
scope the local scopes and the marks.
-/

namespace LineShell

/-! ### Frames -/

namespace Memory

variable {m n : Memory}

/-- The frames, with the floors as barriers. -/
def tower (memory : Memory) : Tower Stack := ⟨memory.frames, memory.floors⟩

/-- There is a frame. -/
lemma one_le_depth (memory : Memory) : 1 ≤ memory.depth := Nat.le_add_left 1 _

/-- The tower tells all about the frames. -/
lemma eq_of_tower (hlevels : m.frames = n.frames) (hbars : m.floors = n.floors) : m = n := by
  obtain ⟨active, below, floors⟩ := m
  obtain ⟨active', below', floors'⟩ := n
  obtain ⟨rfl, rfl⟩ := List.cons.inj hlevels
  cases hbars
  rfl

/-- A step extends the tower of the frames. -/
lemma Step.extends (hm : m.tower.Valid) (h : m.Step n) : m.tower.Extends n.tower := by
  cases h with
  | active active => exact hm.extends_top active
  | opened => exact hm.extends_open Stack.empty
  | closed h =>
    unfold closeFrame at h
    split at h
    · exact absurd h (by simp)
    · rename_i hfloor
      cases hbelow : m.below with
      | nil => simp [hbelow] at h
      | cons next below =>
        rw [hbelow] at h
        cases h
        have htail : m.tower.levels.tail = next :: below := hbelow
        have hext := hm.extends_close (Nat.lt_of_not_le hfloor)
        rwa [htail] at hext

/-- The frames of an isolated run stand on a barrier. -/
lemma tower_enterIsolated (m : Memory) : m.enterIsolated.2.tower = m.tower.raise .empty := rfl

/-- Keeping frames cuts the tower. -/
lemma frames_keepFrames {depth : Nat} (h : 1 ≤ depth) (m : Memory) :
    (m.keepFrames depth).frames = m.tower.cut depth := by
  have hcut : m.frames.drop (m.depth - max depth 1) = m.tower.cut depth := by
    rw [Nat.max_eq_left h]
    rfl
  have hlen : (m.tower.cut depth).length = min m.depth depth := m.tower.length_cut depth
  have hpos := m.one_le_depth
  unfold keepFrames
  rw [hcut]
  cases hkept : m.tower.cut depth with
  | nil =>
    rw [hkept] at hlen
    simp only [List.length_nil] at hlen
    omega
  | cons active below => rfl

/-- Keeping frames leaves the floors alone. -/
lemma floors_keepFrames (m : Memory) (depth : Nat) : (m.keepFrames depth).floors = m.floors := by
  unfold keepFrames
  split <;> rfl

/-- Dropping frames cuts the tower, and takes away the barriers that are left without a level. -/
lemma tower_truncate {depth : Nat} (h : 1 ≤ depth) (m : Memory) :
    (m.truncate depth).tower =
      ⟨m.tower.cut depth, m.floors.dropWhile (min m.depth depth < ·)⟩ := by
  have hframes := frames_keepFrames h m
  have hdepth : (m.keepFrames depth).depth = min m.depth depth := by
    have hlen := congrArg List.length hframes
    rw [Tower.length_cut] at hlen
    exact hlen
  have hfloors := floors_keepFrames m depth
  change (⟨(m.keepFrames depth).frames, (m.keepFrames depth).floors.dropWhile
    ((m.keepFrames depth).depth < ·)⟩ : Tower Stack) = _
  rw [hframes, hdepth, hfloors]

/-- Leaving an isolated run gives back the frames and the floors that there were before it. -/
lemma leaveIsolated_eq (hm : m.tower.Valid) (h : m.enterIsolated.2.tower.Extends n.tower) :
    n.leaveIsolated m.depth = m := by
  rw [tower_enterIsolated] at h
  obtain ⟨hlevels, hbars⟩ := h.unraise hm
  have htower := tower_truncate m.one_le_depth (n.dropFloors m.depth)
  have hfloors : (n.dropFloors m.depth).floors = m.floors := hbars
  have hmin : min n.depth m.depth = m.depth := Nat.min_eq_right (Nat.le_of_lt h.height_lt)
  refine eq_of_tower ?_ ?_
  · exact (congrArg Tower.levels htower).trans hlevels
  · have hkept := congrArg Tower.bars htower
    change (n.leaveIsolated m.depth).floors =
      (n.dropFloors m.depth).floors.dropWhile (min n.depth m.depth < ·) at hkept
    rw [hkept, hfloors, hmin]
    exact Tower.dropWhile_of_le fun b hb => (hm.bounds b hb).2

end Memory

/-! ### Local scopes -/

namespace Scopes

variable {sc next : Scopes}

/-- The local scopes, the innermost one first. -/
def locals (scopes : Scopes) : List Scope := scopes.inner :: scopes.outer

/-- The local scopes, with the marks of temporary scopes as barriers. -/
def tower (scopes : Scopes) : Tower Scope := ⟨scopes.locals, scopes.marks⟩

/-- There is a local scope. -/
lemma one_le_depth (scopes : Scopes) : 1 ≤ scopes.depth := Nat.le_add_left 1 _

/-- Opening a local scope. -/
lemma enterScope_eq_ok (h : sc.enterScope = .ok next) :
    sc.globalActive = false ∧
      next = { sc with inner := .empty, outer := sc.inner :: sc.outer } := by
  unfold enterScope at h
  split at h
  · cases h
  · rename_i hglobal
    cases h
    exact ⟨by simpa using hglobal, rfl⟩

/-- Closing a local scope. -/
lemma exitScope_eq_ok (h : sc.exitScope = .ok next) :
    sc.globalActive = false ∧ sc.tower.bar < sc.depth ∧
      ∃ inner outer, sc.outer = inner :: outer ∧ next = { sc with inner, outer } := by
  unfold exitScope at h
  split at h
  · cases h
  · rename_i hglobal
    cases houter : sc.outer with
    | nil => simp [houter] at h
    | cons inner outer =>
      rw [houter] at h
      dsimp only at h
      split at h
      · cases h
      · rename_i hmark
        cases h
        refine ⟨by simpa using hglobal, ?_, inner, outer, rfl, rfl⟩
        have hdepth : 1 < sc.depth := by simp [depth, houter]
        cases hmarks : sc.marks with
        | nil => simpa [Tower.bar, tower, hmarks] using hdepth
        | cons mark rest => simpa [Tower.bar, tower, hmarks] using hmark

/-- Opening a temporary scope. -/
lemma beginTemporary_eq_ok {mark : TemporaryMark} (h : sc.beginTemporary = .ok (mark, next)) :
    sc.globalActive = false ∧ mark = ⟨sc.depth, false⟩ ∧
      next = { sc with
        inner := .empty, outer := sc.inner :: sc.outer, marks := (sc.depth + 1) :: sc.marks } := by
  obtain ⟨opened, hopened, hnext⟩ := exists_of_bind_eq_ok h
  obtain ⟨hglobal, rfl⟩ := enterScope_eq_ok hopened
  cases hnext
  exact ⟨hglobal, by rw [hglobal], rfl⟩

/-- Changing the variables of the active scope changes the top level at most. -/
lemma extends_modifyActive (hsc : sc.tower.Valid) (f : Scope → Scope) :
    sc.tower.Extends (sc.modifyActive f).tower := by
  unfold modifyActive
  split
  · exact hsc.extends_self
  · exact hsc.extends_top (f sc.inner)

/-- A step extends the tower of the local scopes. -/
lemma Step.extends {loose : Prop} (hsc : sc.tower.Valid) (h : sc.Step loose next) :
    sc.tower.Extends next.tower := by
  cases h with
  | active _ f => exact extends_modifyActive hsc f
  | global global => exact hsc.extends_self
  | entered h =>
    obtain ⟨-, rfl⟩ := enterScope_eq_ok h
    exact hsc.extends_open NameMap.empty
  | exited h =>
    obtain ⟨-, hbar, inner, outer, houter, rfl⟩ := exitScope_eq_ok h
    have hext := hsc.extends_close hbar
    have htail : sc.tower.levels.tail = inner :: outer := houter
    rwa [htail] at hext
  | globalEntered h =>
    unfold enterGlobal at h
    split at h <;> cases h
    exact hsc.extends_self
  | globalExited h =>
    unfold exitGlobal at h
    split at h
    · cases h
    · split at h <;> cases h
      exact hsc.extends_self
  | temporaryBegun hl h =>
    obtain ⟨-, -, rfl⟩ := beginTemporary_eq_ok h
    exact hsc.extends_raise NameMap.empty
  | globalBegun hl => exact hsc.extends_self
  | globalEnded hl wasGlobal => exact hsc.extends_self

/-- Keeping scopes cuts the tower. -/
lemma locals_keepScopes {depth : Nat} (h : 1 ≤ depth) (sc : Scopes) :
    (sc.keepScopes depth).locals = sc.tower.cut depth := by
  have hcut : (sc.inner :: sc.outer).drop (sc.depth - max depth 1) = sc.tower.cut depth := by
    rw [Nat.max_eq_left h]
    rfl
  have hlen : (sc.tower.cut depth).length = min sc.depth depth := sc.tower.length_cut depth
  have hpos := sc.one_le_depth
  unfold keepScopes
  rw [hcut]
  cases hkept : sc.tower.cut depth with
  | nil =>
    rw [hkept] at hlen
    simp only [List.length_nil] at hlen
    omega
  | cons inner outer => rfl

/-- Leaving a temporary scope gives back the local scopes and the marks that there were before it,
and turns Global off. -/
lemma endTemporary_eq {opened : Scopes} {mark : TemporaryMark} (hsc : sc.tower.Valid)
    (hbegin : sc.beginTemporary = .ok (mark, opened)) (h : opened.tower.Extends next.tower) :
    (next.endTemporary mark).locals = sc.locals ∧ (next.endTemporary mark).marks = sc.marks ∧
      (next.endTemporary mark).globalActive = false := by
  obtain ⟨-, rfl, rfl⟩ := beginTemporary_eq_ok hbegin
  have hraise : (sc.tower.raise NameMap.empty).Extends next.tower := h
  obtain ⟨hlevels, hbars⟩ := hraise.unraise hsc
  refine ⟨?_, hbars, rfl⟩
  exact (locals_keepScopes sc.one_le_depth next).trans hlevels

/-- Leaving a temporary scope leaves the guards alone. -/
lemma guards_endTemporary (sc : Scopes) (mark : TemporaryMark) :
    (sc.endTemporary mark).guards = sc.guards := by
  unfold endTemporary keepScopes
  split <;> rfl

/-- Returning to a recorded state cuts the tower, and leaves as many marks as there were. -/
lemma tower_restore (h : sc.marks <:+ next.marks) :
    (next.restore sc.checkpoint).tower = ⟨next.tower.cut sc.depth, sc.marks⟩ := by
  have hlocals := locals_keepScopes sc.one_le_depth next
  have hmarks : next.marks.drop (next.marks.length - sc.marks.length) = sc.marks :=
    (List.suffix_iff_eq_drop.1 h).symm
  change (⟨(next.keepScopes sc.depth).locals,
    next.marks.drop (next.marks.length - sc.marks.length)⟩ : Tower Scope) = _
  rw [hlocals, hmarks]

end Scopes

/-! ### Sessions -/

namespace Session

variable {s t u : Session}

/-- The floors stand on the frames, and the marks on the local scopes. -/
structure Sound (s : Session) : Prop where
  memory : s.memory.tower.Valid
  scopes : s.scopes.tower.Valid

/-- Everything that `s` shelters is there in `t`, and so are its floors and its marks. -/
structure Extends (s t : Session) : Prop where
  memory : s.memory.tower.Extends t.memory.tower
  scopes : s.scopes.tower.Extends t.scopes.tower

/-- What extends a session is sound. -/
lemma Extends.sound (h : s.Extends t) : t.Sound := ⟨h.memory.valid, h.scopes.valid⟩

/-- Extensions of extensions are extensions. -/
lemma Extends.trans (h : s.Extends t) (h' : t.Extends u) : s.Extends u :=
  ⟨h.memory.trans h'.memory, h.scopes.trans h'.scopes⟩

/-- Sessions with the same frames and scopes extend the same ones. -/
lemma Extends.of_eq (h : s.Extends t) (hm : u.memory = t.memory) (hs : u.scopes = t.scopes) :
    s.Extends u :=
  ⟨hm ▸ h.memory, hs ▸ h.scopes⟩

/-- A guard extends the session in which it is set. -/
lemma extends_of_opens {guard : Guard} {close : Session → Session} (hs : s.Sound)
    (h : guard.opens s = .ok (t, close)) : s.Extends t := by
  cases guard with
  | isolation =>
    cases h
    exact ⟨hs.memory.extends_raise Stack.empty, hs.scopes.extends_self⟩
  | scope =>
    obtain ⟨mark, scopes, hbegin, rfl, -⟩ := Guard.scope_opens_eq_ok h
    obtain ⟨-, -, rfl⟩ := Scopes.beginTemporary_eq_ok hbegin
    exact ⟨hs.memory.extends_self, hs.scopes.extends_raise NameMap.empty⟩
  | global =>
    cases h
    exact ⟨hs.memory.extends_self, hs.scopes.extends_self⟩
  | call =>
    cases h
    exact ⟨hs.memory.extends_self, hs.scopes.extends_self⟩

/-- A guard that is taken back leaves an extension of the session in which it was set. -/
lemma extends_close {guard : Guard} {close : Session → Session} (hs : s.Sound)
    (h : guard.opens s = .ok (t, close)) (hext : t.Extends u) : s.Extends (close u) := by
  have hthrough := (extends_of_opens hs h).trans hext
  cases guard with
  | isolation =>
    cases h
    refine ⟨?_, hthrough.scopes⟩
    have hback : u.memory.leaveIsolated s.memory.depth = s.memory :=
      Memory.leaveIsolated_eq hs.memory hext.memory
    change s.memory.tower.Extends (u.memory.leaveIsolated s.memory.depth).tower
    rw [hback]
    exact hs.memory.extends_self
  | scope =>
    obtain ⟨mark, scopes, hbegin, rfl, rfl⟩ := Guard.scope_opens_eq_ok h
    refine ⟨hthrough.memory, ?_⟩
    obtain ⟨hlocals, hmarks, -⟩ := Scopes.endTemporary_eq hs.scopes hbegin hext.scopes
    change s.scopes.tower.Extends
      ⟨(u.scopes.endTemporary mark).locals, (u.scopes.endTemporary mark).marks⟩
    rw [hlocals, hmarks]
    exact hs.scopes.extends_self
  | global =>
    cases h
    exact ⟨hthrough.memory, hthrough.scopes⟩
  | call =>
    cases h
    exact ⟨hthrough.memory, hthrough.scopes⟩

/-- Rolling back after a crash leaves an extension of the session to which it returns. -/
lemma Extends.restore (hs : s.Sound) (h : s.Extends t) : s.Extends (t.restore s.checkpoint) := by
  constructor
  · change s.memory.tower.Extends (t.memory.truncate s.memory.depth).tower
    rw [Memory.tower_truncate s.memory.one_le_depth]
    exact h.memory.cut hs.memory
  · change s.scopes.tower.Extends (t.scopes.restore s.scopes.checkpoint).tower
    rw [Scopes.tower_restore h.scopes.bars]
    exact h.scopes.recall hs.scopes

end Session

/-! ### Runs -/

/-- A run in a sound session only extends it. -/
lemma Engine.law_extends : Engine.Law True fun _ s t => s.Sound → s.Extends t where
  leaf hstep _ hs := ⟨hstep.memory.extends hs.memory, hstep.scopes.extends hs.scopes⟩
  trans hst htu hs := (hst hs).trans (htu (hst hs).sound)
  alike hst htu hs := (hst hs).of_eq htu.memory htu.scopes
  guarded {e s t u guard close} hopen htu hs := by
    have hst := Session.extends_of_opens hs hopen
    have hext := htu hst.sound
    split
    · exact Session.extends_close hs hopen hext
    · exact hst.trans hext
  contained hst hs := (hst hs).restore hs

/-- However the run of a composed routine in a sound session ends, it has only extended it. -/
theorem Routine.Composed.extends {α : Type} {routine : Routine α} (h : routine.Composed True)
    {host : Host} (hhost : host.Composed) (fuel : Nat) {s : Session} (hs : s.Sound) :
    s.Extends (routine (host.execute fuel) s).2 :=
  h.satisfies Engine.law_extends (hhost.satisfies Engine.law_extends fuel) s hs

/-! ### Reachable sessions -/

namespace Session

/-- The sessions that can come up: those that are built, those that a run of a composed routine
leaves, with any composed host and however it ends, those in which a guarded run begins, and
copies. -/
inductive Reachable : Session → Prop
  | build {options : SessionOptions} {registry : Registry} {files : FileTree}
      {packages : List Package} {macros : List (String × Macro)} {s : Session}
      (h : Session.build options registry files packages macros = .ok s) : Reachable s
  | run {α : Type} {routine : Routine α} {host : Host} {s : Session} (h : Reachable s)
      (hr : routine.Composed True) (hhost : host.Composed) (fuel : Nat) :
      Reachable (routine (host.execute fuel) s).2
  | opened {guard : Guard} {s t : Session} {close : Session → Session} (h : Reachable s)
      (hopen : guard.opens s = .ok (t, close)) : Reachable t
  | fork {s : Session} (h : Reachable s) : Reachable s.fork

/-- Defining macros one after the other touches nothing but the macros. -/
lemma alike_of_defineMacros {macros : List (String × Macro)} {s t : Session}
    (h : macros.foldlM (fun s (name, body) => s.defineMacro name body) s = .ok t) : s.Alike t := by
  induction macros generalizing s with
  | nil =>
    cases h
    exact .refl _
  | cons entry rest ih =>
    rw [List.foldlM_cons] at h
    obtain ⟨next, hnext, hrest⟩ := exists_of_bind_eq_ok h
    exact (Routine.kin_of_defineMacro hnext).toAlike.trans (ih hrest)

/-- A session is built with one frame, one local scope and no active call. -/
lemma build_eq_ok {options : SessionOptions} {registry : Registry} {files : FileTree}
    {packages : List Package} {macros : List (String × Macro)} {s : Session}
    (h : Session.build options registry files packages macros = .ok s) :
    s.memory = .initial ∧ s.scopes = .initial ∧ s.depth = 0 := by
  obtain ⟨added, hadded, hmacros⟩ := exists_of_bind_eq_ok h
  have halike := alike_of_defineMacros hmacros
  obtain ⟨set, rfl⟩ := exists_of_addPackages hadded
  exact ⟨halike.memory, halike.scopes, halike.depth⟩

/-- A session that is built of disciplined packages, with a disciplined registry, is disciplined. -/
lemma disciplined_of_build {options : SessionOptions} {registry : Registry} {files : FileTree}
    {packages : List Package} {macros : List (String × Macro)} {s : Session}
    (h : Session.build options registry files packages macros = .ok s)
    (hregistry : registry.Disciplined) (hpackages : ∀ package ∈ packages, package.Disciplined) :
    s.Disciplined := by
  obtain ⟨added, hadded, hmacros⟩ := exists_of_bind_eq_ok h
  have hdisc := (Disciplined.start options hregistry files).addPackages hpackages hadded
  have halike := alike_of_defineMacros hmacros
  exact hdisc.of_eq halike.packages halike.registry

/-- A session at its start can come up. -/
lemma Reachable.start (options : SessionOptions) (registry : Registry) (files : FileTree) :
    (Session.start options registry files).Reachable := by
  have hbuild : Session.build options registry files [] [] = .ok (.start options registry files) :=
    rfl
  exact .build hbuild

/-- Every session that can come up is sound. -/
theorem Reachable.sound {s : Session} (h : s.Reachable) : s.Sound := by
  induction h with
  | build h =>
    obtain ⟨hm, hs, -⟩ := build_eq_ok h
    constructor
    · rw [hm]
      exact ⟨by simp [Memory.tower, Memory.frames], .nil, by simp [Memory.tower, Memory.initial]⟩
    · rw [hs]
      exact ⟨by simp [Scopes.tower, Scopes.locals], .nil, by simp [Scopes.tower, Scopes.initial]⟩
  | run _ hr hhost fuel ih => exact (hr.extends hhost fuel ih).sound
  | opened _ hopen ih => exact (extends_of_opens ih hopen).sound
  | fork _ ih => exact ⟨ih.memory, ih.scopes⟩

end Session

end LineShell
