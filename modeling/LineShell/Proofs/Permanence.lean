import LineShell.Proofs.Definition
import LineShell.Proofs.Event
import LineShell.Proofs.Lookup

/-!
# Built-in commands are permanent

Commands bring in other commands while a session runs: aliases, scripts, and packages of scripts and
of the registry.  None of them gets in the way of a built-in command.  The native package is never
changed, and it is looked into first, so a built-in name stands for the built-in command in every
session that a host can come to without touching the native package (`Session.Untouched`,
`Session.Untouched.builtins_are_permanent`).

A call looks at the packages only to find its command.  So its meaning is told by the command and by
the name of the package (`PackageSet.meaning?`), and the command is then run without a further look
(`Engine.invoke`).  An alias or a script under a built-in name is put among the custom commands,
where it changes the meaning of no name at all (`PackageSet.Redefined.meaning?_eq`).
-/

namespace LineShell

/-! ### What names stand for -/

namespace PackageSet

variable {set next : PackageSet} {name : String}

/-- What a call takes from the packages: the command that its name stands for, and the name of the
package that has it. -/
def meaning? (set : PackageSet) (name : String) : Option (String × Command) :=
  (set.resolve? name).map fun found => (found.1.name, found.2)

/-- What has become of the packages when a command may have been put among the custom ones under the
name. -/
def Redefined (name : String) (set next : PackageSet) : Prop :=
  next = set ∨ ∃ command, set.registerCustom name command = .ok next

/-- A command that is put among the custom ones under a name of the native package leaves the
meanings of all names alone. -/
lemma Redefined.meaning?_eq (h : Redefined name set next)
    (hnative : (set.native.commands.find? name).isSome = true) (other : String) :
    next.meaning? other = set.meaning? other := by
  rcases h with rfl | ⟨command, hregister⟩
  · rfl
  · obtain ⟨custom, hcustom, hnext⟩ := exists_of_bind_eq_ok hregister
    obtain ⟨_, -, hmade⟩ := exists_of_bind_eq_ok hcustom
    cases hnext
    cases hmade
    unfold meaning? resolve? toList
    simp only [List.findSome?_cons]
    cases hfind : set.native.commands.find? other with
    | some found => rfl
    | none =>
      -- a name that is not native is another one, and is looked up behind the native package
      have hne : other ≠ name := by
        rintro rfl
        simp [hfind] at hnative
      simp only [Option.map_none, NameMap.find?_insert_of_ne hne]
      cases set.custom.commands.find? other with
      | some found => rfl
      | none => rfl

end PackageSet

/-! ### Calls of a given command -/

namespace Engine

variable {α β : Type} {s : Session} {name : String} {args : List String}

/-- The arguments of a call of the command, if all is well with them and the limit on active calls
is not reached. -/
def accept (command : Command) (name : String) (args : List String) (s : Session) :
    Except Error Arguments := do
  command.checkArity name args.length
  let arguments ← command.coerceAll name args
  if s.maxDepth ≤ s.depth then throw (.frame (.callDepth s.maxDepth name))
  return arguments

/-- The call of a command of a package.  The packages of the session are not looked at. -/
def invoke (fuel : Nat) (exec : Exec) (package : String) (command : Command) (name : String)
    (args : List String) : Engine Unit := do
  let result ← enter (accept command name args) fun arguments =>
    runBody fuel exec package arguments command.body
  receive result

/-- A call is judged by the command that its name stands for. -/
lemma resolveCall_of_resolve? {package : Package} {command : Command}
    (h : s.packages.resolve? name = some (package, command)) (args : List String) :
    resolveCall s name args =
      (accept command name args s).map fun arguments => (package, command, arguments) := by
  unfold resolveCall accept
  rw [h]
  dsimp only
  cases command.checkArity name args.length with
  | error e => rfl
  | ok _ =>
    cases command.coerceAll name args with
    | error e => rfl
    | ok arguments =>
      by_cases hfull : s.maxDepth ≤ s.depth
      · change (if _ then _ else _) = Except.map _ (if _ then _ else _)
        rw [if_pos hfull, if_pos hfull]
        rfl
      · change (if _ then _ else _) = Except.map _ (if _ then _ else _)
        rw [if_neg hfull, if_neg hfull]
        rfl

/-- Texts are accepted as they are by a command that declares no kinds. -/
lemma eq_of_accept {command : Command} (hkinds : command.kinds = []) {arguments : Arguments}
    (h : accept command name args s = .ok arguments) : arguments = ⟨name, args.map .text⟩ := by
  obtain ⟨_, -, hcoerce⟩ := exists_of_bind_eq_ok h
  obtain ⟨coerced, hcoerced, hdepth⟩ := exists_of_bind_eq_ok hcoerce
  rw [Command.coerceAll_of_kinds_eq_nil hkinds] at hcoerced
  cases hcoerced
  dsimp only at hdepth
  split at hdepth
  · cases hdepth
  · cases hdepth
    rfl

/-- A call of a name that stands for a command is the call of this command. -/
lemma dispatch_of_meaning? {package : String} {command : Command}
    (h : s.packages.meaning? name = some (package, command)) (fuel : Nat) (exec : Exec)
    (args : List String) :
    dispatch fuel exec name args s = invoke fuel exec package command name args s := by
  obtain ⟨found, hfound, heq⟩ := Option.map_eq_some_iff.1 h
  cases heq
  have hresolve := resolveCall_of_resolve? hfound args
  rw [dispatch, dispatch_eq_callWith]
  change _ = Engine.bind (enter _ _) _ s
  cases haccept : accept found.2 name args s with
  | error e =>
    rw [haccept] at hresolve
    rw [callWith_of_error _ hresolve, Engine.bind, enter_of_error _ _ haccept]
  | ok arguments =>
    rw [haccept] at hresolve
    rw [callWith_of_ok _ hresolve, Engine.bind, Engine.bind, enter_of_ok _ _ haccept]

/-! ### Calls that put commands among the custom ones -/

/-- The session is left as it is. -/
def Reads (action : Engine α) : Prop := action.Satisfies fun _ s t => t = s

/-- A command may be put among the custom ones under the name, and no more is done to the
packages. -/
def Redefines (name : String) (action : Engine α) : Prop :=
  action.Satisfies fun _ s t => s.packages.Redefined name t.packages

/-- To read one thing after the other is to read. -/
lemma Reads.bind {first : Engine α} {next : α → Engine β} (hfirst : first.Reads)
    (hnext : ∀ a, (next a).Reads) : (first >>= next).Reads :=
  Satisfies.bind (fun hst htu => htu.trans hst) hfirst fun a _ => hnext a

/-- This goes for several things, too. -/
lemma Reads.mapM {read : β → Engine α} (hread : ∀ b, (read b).Reads) (bs : List β) :
    (bs.mapM read).Reads := by
  induction bs with
  | nil => exact fun s => rfl
  | cons b rest ih =>
    rw [List.mapM_cons]
    exact (hread b).bind fun a => ih.bind fun _ _ => rfl

/-- A script file is made into a command without a change of the session. -/
lemma reads_loadScript (path : String) (given : Option String) : (loadScript path given).Reads := by
  refine Reads.bind (fun s => (Routine.readFile_unchanged path s).1) fun text => ?_
  cases given.or (Path.stem? path) with
  | none => exact fun s => rfl
  | some name => exact fun s => rfl

/-- So are the scripts of a directory. -/
lemma reads_compileDirectory (dir name : String) : (compileDirectory dir name).Reads := by
  refine Reads.bind (fun s => (Routine.scriptFiles_unchanged dir s).1) fun paths => ?_
  cases paths with
  | nil => exact fun s => rfl
  | cons path rest =>
    have hread : ∀ path, (readFile path).Reads :=
      fun path s => (Routine.readFile_unchanged path s).1
    exact (Reads.mapM hread _).bind fun texts _ => rfl

/-- The command of a script file is named as asked for, or else after the file. -/
lemma eq_of_loadScript {path : String} {given : Option String}
    (hname : given.or (Path.stem? path) = some name) {loaded : String × Command} {t : Session}
    (h : loadScript path given s = (.done loaded, t)) : loaded.1 = name := by
  obtain ⟨text, u, -, hnext⟩ := Routine.exists_of_bind_eq_done h
  rw [hname] at hnext
  rw [← Routine.eq_of_pure_eq_done hnext]

/-- Putting a command among the custom ones. -/
lemma redefines_registerCustom (name : String) (command : Command) :
    (registerCustom name command).Redefines name := by
  intro s
  rw [registerCustom_eq, attempt_apply]
  cases hregister : s.packages.registerCustom name command with
  | error e => exact .inl rfl
  | ok packages => exact .inr ⟨command, hregister⟩

/-- Something may be read before. -/
lemma Redefines.after {first : Engine α} {next : α → Engine β} (hfirst : first.Reads)
    (hnext : ∀ a, (∃ s t, first s = (.done a, t)) → (next a).Redefines name) :
    (first >>= next).Redefines name := by
  intro s
  have hsame := hfirst s
  change s.packages.Redefined name (Engine.bind first next s).2.packages
  unfold Engine.bind
  rcases hrun : first s with ⟨a | e | p | r, t⟩ <;> rw [hrun] at hsame
  · subst hsame
    exact hnext a ⟨_, _, hrun⟩ _
  all_goals exact .inl (congrArg Session.packages hsame)

/-- The packages may be left alone afterwards. -/
lemma Redefines.before {first : Engine α} {next : α → Engine β} (hfirst : first.Redefines name)
    (hnext : ∀ a s, (next a s).2.packages = s.packages) : (first >>= next).Redefines name := by
  intro s
  have hdone := hfirst s
  change s.packages.Redefined name (Engine.bind first next s).2.packages
  unfold Engine.bind
  rcases hrun : first s with ⟨a | e | p | r, t⟩ <;> rw [hrun] at hdone
  · dsimp only
    rw [hnext a t]
    exact hdone
  all_goals exact hdone

/-- A script file is made into a custom command. -/
lemma redefines_load (path : String) (given : Option String)
    (hname : given.or (Path.stem? path) = some name) :
    (do let loaded ← loadScript path given
        registerCustom loaded.1 loaded.2).Redefines name := by
  refine Redefines.after (reads_loadScript path given) fun loaded hreturn => ?_
  obtain ⟨s, t, hrun⟩ := hreturn
  rw [← eq_of_loadScript hname hrun]
  exact redefines_registerCustom loaded.1 loaded.2

/-- The scripts of a directory are made into a custom command. -/
lemma redefines_compile (dir name : String) :
    (do let compiled ← compileDirectory dir name
        registerCustom name compiled).Redefines name :=
  Redefines.after (reads_compileDirectory dir name) fun compiled _ =>
    redefines_registerCustom name compiled

/-- The call of a command that takes texts does to the packages what its body does. -/
lemma Redefines.invoke {fuel : Nat} {exec : Exec} {package call : String} {command : Command}
    (hkinds : command.kinds = [])
    (h : (runBody fuel exec package ⟨call, args.map .text⟩ command.body).Redefines name) :
    (Engine.invoke fuel exec package command call args).Redefines name := by
  have henter : (enter (accept command call args) fun arguments =>
      runBody fuel exec package arguments command.body).Redefines name := by
    intro s
    cases haccept : accept command call args s with
    | error e =>
      rw [enter_of_error _ _ haccept]
      exact .inl rfl
    | ok arguments =>
      obtain rfl := eq_of_accept hkinds haccept
      have hbody := h { s with depth := s.depth + 1 }
      rw [enter_of_ok _ _ haccept, Guard.run_of_opens (Guard.call_opens s)]
      split
      · exact hbody
      · exact hbody
  refine henter.before fun result s => ?_
  cases result with
  | none => rfl
  | some item => rfl

/-- The calls that make a custom command of the name. -/
inductive Redefinition (name : String) : String → List String → Prop
  | aliased (target : String) (fixed : List String) :
      Redefinition name "alias" (name :: target :: fixed)
  | loaded (path : String) : Redefinition name "load" [path, name]
  | loadedByStem {path : String} (h : Path.stem? path = some name) :
      Redefinition name "load" [path]
  | compiled (dir : String) : Redefinition name "compile" [dir, name]

/-- They are calls of built-in commands, which make a custom command of the name and do no more to
the packages. -/
lemma Redefinition.exists_command {call : String} (h : Redefinition name call args) :
    ∃ command, nativePackage.commands.find? call = some command ∧
      ∀ fuel exec package, (Engine.invoke fuel exec package command call args).Redefines name := by
  have hscripts : ∀ entry ∈ Builtin.scriptCommands,
      nativePackage.commands.find? entry.1 = some entry.2 := by decide +kernel
  cases h with
  | aliased target fixed =>
    have halias : Builtin.macroCommands[5] ∈ Builtin.macroCommands := List.getElem_mem _
    refine ⟨_, Session.find?_macroCommands halias, fun _ _ _ => .invoke rfl ?_⟩
    exact (redefines_registerCustom name _).before fun _ _ => rfl
  | loaded path =>
    refine ⟨_, hscripts _ (.head _), fun _ _ _ => .invoke rfl ?_⟩
    exact (redefines_load path (some name) rfl).before fun _ _ => rfl
  | loadedByStem hstem =>
    refine ⟨_, hscripts _ (.head _), fun _ _ _ => .invoke rfl ?_⟩
    exact (redefines_load _ none hstem).before fun _ _ => rfl
  | compiled dir =>
    refine ⟨_, hscripts _ (.tail _ (.head _)), fun _ _ _ => .invoke rfl ?_⟩
    exact (redefines_compile dir name).before fun _ _ => rfl

/-- So they do no more to the packages of a session with the built-in commands. -/
lemma Redefinition.redefined {call : String} (h : Redefinition name call args)
    (hnative : s.packages.native = nativePackage) (fuel : Nat) :
    s.packages.Redefined name (execute fuel call args s).2.packages := by
  cases fuel with
  | zero => exact .inl rfl
  | succ fuel =>
    obtain ⟨command, hfind, hredefines⟩ := h.exists_command
    rw [← hnative] at hfind
    have hmeaning : s.packages.meaning? call = some (s.packages.native.name, command) := by
      rw [PackageSet.meaning?, PackageSet.resolve?_of_native hfind]
      rfl
    change s.packages.Redefined name (dispatch fuel (execute fuel) call args s).2.packages
    rw [dispatch_of_meaning? hmeaning]
    exact hredefines _ _ _ s

end Engine

/-! ### Sessions with an untouched native package -/

namespace Session

/-- The sessions that a host can come to without touching the native package.  It builds one with
packages and macros of its own, adds and removes packages, has the custom package at its disposal,
runs whatever it likes, and may change everything but the packages. -/
inductive Untouched : Session → Prop
  | built {options : SessionOptions} {registry : Registry} {files : FileTree}
      {packages : List Package} {macros : List (String × Macro)} {s : Session}
      (h : Session.build options registry files packages macros = .ok s) : Untouched s
  | added {s t : Session} {package : Package} (h : Untouched s)
      (hadd : s.addPackage package = .ok t) : Untouched t
  | removed {s : Session} (h : Untouched s) (name : String) :
      Untouched { s with packages := (s.packages.remove name).2 }
  | customized {s : Session} (h : Untouched s) (custom : Package) :
      Untouched { s with packages := { s.packages with custom } }
  | ran {s t : Session} (h : Untouched s) (hevent : s.Event t) : Untouched t
  | configured {s t : Session} (h : Untouched s) (hpackages : t.packages = s.packages) :
      Untouched t

/-- Its built-in commands are those of the interpreter. -/
theorem Untouched.native_eq {s : Session} (h : s.Untouched) :
    s.packages.native = nativePackage := by
  induction h with
  | built h => exact (Standard.build h).native
  | added _ hadd ih =>
    unfold addPackage at hadd
    split at hadd
    · cases hadd
    · cases hadd
      exact ih
  | removed _ name ih => exact ih
  | customized _ custom ih => exact ih
  | ran _ hevent ih => exact hevent.stocks.native_eq.trans ih
  | configured _ hpackages ih =>
    rw [hpackages]
    exact ih

/-- In every session that a host can come to without touching the native package, whatever was run
in it, and however that ended: the native package is the one of the built-in commands, a built-in
name stands for the built-in command, and a call of it is the call of this command.  A call that
makes a custom command of the name, as an alias, from a script or from the scripts of a directory,
leaves the meanings of all names alone, and calls of the built-in name are what they were. -/
theorem Untouched.builtins_are_permanent {s : Session} (h : s.Untouched) :
    s.packages.native = nativePackage ∧
    ∀ name command, nativePackage.commands.find? name = some command →
      s.packages.resolve? name = some (nativePackage, command) ∧
      (∀ fuel args, Engine.execute (fuel + 1) name args s =
        Engine.invoke fuel (Engine.execute fuel) nativeName command name args s) ∧
      ∀ fuel call callArgs, Engine.Redefinition name call callArgs →
        let t := (Engine.execute fuel call callArgs s).2
        (∀ other, t.packages.meaning? other = s.packages.meaning? other) ∧
        ∀ fuel args, Engine.execute (fuel + 1) name args t =
          Engine.invoke fuel (Engine.execute fuel) nativeName command name args t := by
  refine ⟨h.native_eq, fun name command hfind => ?_⟩
  have hresolve : ∀ {t : Session}, t.Untouched →
      t.packages.resolve? name = some (nativePackage, command) := by
    intro t ht
    rw [← ht.native_eq] at hfind ⊢
    exact PackageSet.resolve?_of_native hfind
  have hcalls : ∀ {t : Session}, t.Untouched → ∀ fuel args, Engine.execute (fuel + 1) name args t =
      Engine.invoke fuel (Engine.execute fuel) nativeName command name args t := by
    intro t ht fuel args
    refine Engine.dispatch_of_meaning? ?_ fuel (Engine.execute fuel) args
    rw [PackageSet.meaning?, hresolve ht]
    rfl
  refine ⟨hresolve h, hcalls h, fun fuel call callArgs hcall => ⟨?_, ?_⟩⟩
  · have hbuiltin : (s.packages.native.commands.find? name).isSome = true := by
      rw [h.native_eq, hfind]
      rfl
    exact (hcall.redefined h.native_eq fuel).meaning?_eq hbuiltin
  · exact hcalls (h.ran (.command fuel call callArgs))

/-- After a line that asks for an alias by the name of a built-in command, the alias is there, and
the name still stands for the built-in command. -/
theorem Untouched.builtins_are_permanent_under_alias :
    let s := (Engine.superviseLine (Engine.execute 2) "alias print quit"
      (Session.start {} standardRegistry .empty)).2
    s.packages.custom.commands.names = ["print"] ∧
    ∃ command, nativePackage.commands.find? "print" = some command ∧
      s.packages.resolve? "print" = some (nativePackage, command) ∧
      ∀ fuel args, Engine.execute (fuel + 1) "print" args s =
        Engine.invoke fuel (Engine.execute fuel) nativeName command "print" args s := by
  intro s
  have hstart : (Session.start {} standardRegistry .empty).Untouched :=
    .built (show Session.build {} standardRegistry .empty [] [] = .ok _ from rfl)
  have hs : s.Untouched := hstart.ran (.supervisedLine 2 "alias print quit")
  have hfound : (nativePackage.commands.find? "print").isSome = true := by decide +kernel
  obtain ⟨command, hfind⟩ := Option.isSome_iff_exists.1 hfound
  have hprint := hs.builtins_are_permanent.2 "print" command hfind
  exact ⟨by decide +kernel, command, hfind, hprint.1, hprint.2.1⟩

end Session

end LineShell
