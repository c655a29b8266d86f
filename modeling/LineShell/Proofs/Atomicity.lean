import LineShell.Proofs.Permanence

/-!
# Commands that fail leave no trace

A built-in command that calls other commands may fail when a part of its work is done already.  The
other ones are *leaves*, and a leaf that fails has done nothing: whatever is wrong with the call,
the session is the one from before it (`Session.leaf_builtins_fail_without_trace`).

The leaves change the session step by step, and nothing takes back what was changed before a
failure, so this depends on the order of their steps.  Most of them look and check first, and change
something when nothing can go wrong any more (`Engine.Atomic.after`, `Engine.Atomic.before`).  Some
check late: two values are exchanged by taking off one after the other, and what is to be removed is
removed before it is known whether it was there.  There the check fails only where nothing was
changed (`Engine.atomic_swapItems`, `Engine.Atomic.checked`).
-/

namespace LineShell

/-! ### Commands that call other commands -/

/-- Whether a built-in command runs lines, scripts or other commands. -/
def Builtin.isReentrant : Builtin → Bool
  | .control .run | .control .chain | .control .repeatTimes | .control .whileTrue
  | .control .ifTrue | .control .unlessTrue | .control .ifElse | .control .catching
  | .control .async => true
  | .memory .isolated => true
  | .scope .scoped | .scope .globally => true
  | .script .source => true
  | _ => false

/-- The names of the built-in commands that do so. -/
def reentrantNames : List String :=
  ["run", "chain", "repeat", "while", "if", "unless", "if-else", "catch", "async", "isolated",
   "scoped", "globally", "source"]

/-- A command of the native package is a built-in one, and re-entrant if it has one of these
names. -/
lemma exists_builtin_of_native {name : String} {command : Command}
    (h : nativePackage.commands.find? name = some command) :
    ∃ builtin, command.body = .builtin builtin ∧
      builtin.isReentrant = reentrantNames.contains name := by
  have hall : ∀ entry ∈ nativePackage.commands.entries, ∃ builtin ∈ (match entry.2.body with
      | .builtin builtin => some builtin
      | _ => none), builtin.isReentrant = reentrantNames.contains entry.1 := by
    decide +kernel
  obtain ⟨builtin, hbody, hnames⟩ := hall _ (NameMap.mem_of_find? h)
  refine ⟨builtin, ?_, hnames⟩
  revert hbody
  cases command.body with
  | builtin found => simp
  | _ => simp

/-! ### Atomic actions -/

namespace Engine

variable {α β : Type}

/-- An action that leaves the session as it was unless it returns. -/
def Atomic (action : Engine α) : Prop :=
  ∀ s, (∃ a, (action s).1 = .done a) ∨ (action s).2 = s

/-- A value or an error can be found without a change of the session. -/
lemma reads_ofExcept (x : Except Error α) : (ofExcept x).Reads := by
  cases x with
  | error e => exact fun s => rfl
  | ok a => exact fun s => rfl

/-- Something can be refused without a change of the session. -/
lemma reads_refuseIf (refused : Bool) (e : Error) : (refuseIf refused e).Reads := by
  cases refused with
  | false => exact fun s => rfl
  | true => exact fun s => rfl

namespace Atomic

/-- What only reads is atomic. -/
lemma of_reads {action : Engine α} (h : action.Reads) : action.Atomic := fun s => .inr (h s)

/-- So is a change that is not refused. -/
lemma modify (f : Session → Session) : (Engine.modify f).Atomic := fun _ => .inl ⟨(), rfl⟩

/-- Something may be read before. -/
lemma sequence {first : Engine α} {next : α → Engine β} (hfirst : first.Reads)
    (hnext : ∀ a, (∃ s t, first s = (.done a, t)) → (next a).Atomic) : (first >>= next).Atomic := by
  intro s
  have hsame := hfirst s
  change (∃ b, (Engine.bind first next s).1 = .done b) ∨ (Engine.bind first next s).2 = s
  unfold Engine.bind
  rcases hrun : first s with ⟨a | e | p | r, t⟩ <;> rw [hrun] at hsame
  · subst hsame
    exact hnext a ⟨_, _, hrun⟩ _
  all_goals exact .inr hsame

/-- Something may be read before, whatever it is. -/
lemma after {first : Engine α} {next : α → Engine β} (hfirst : first.Reads)
    (hnext : ∀ a, (next a).Atomic) : (first >>= next).Atomic :=
  sequence hfirst fun a _ => hnext a

/-- What cannot go wrong may be done afterwards. -/
lemma before {first : Engine α} {next : α → Engine β} (hfirst : first.Atomic)
    (hnext : ∀ a s, ∃ b, (next a s).1 = .done b) : (first >>= next).Atomic := by
  intro s
  have hdone := hfirst s
  change (∃ b, (Engine.bind first next s).1 = .done b) ∨ (Engine.bind first next s).2 = s
  unfold Engine.bind
  rcases hrun : first s with ⟨a | e | p | r, t⟩ <;> rw [hrun] at hdone
  · exact .inl (hnext a t)
  all_goals exact .inr (hdone.resolve_left (by simp))

/-- A removal may be checked afterwards, if nothing is removed where nothing was found. -/
lemma checked {remove : Session → Bool × Session}
    (hremove : ∀ s, (remove s).1 = false → (remove s).2 = s) (e : Error) :
    (do refuseIf (!(← update remove)) e).Atomic := by
  intro s
  change (∃ b, (Engine.bind (update remove) _ s).1 = .done b) ∨
    (Engine.bind (update remove) _ s).2 = s
  simp only [Engine.bind, update]
  cases hfound : (remove s).1 with
  | false => exact .inr (hremove s hfound)
  | true => exact .inl ⟨(), rfl⟩

/-- An action without its value. -/
lemma thenNone {action : Engine β} (h : action.Atomic) :
    (do let _ ← action; return (none : Option α)).Atomic :=
  h.before fun _ _ => ⟨none, rfl⟩

end Atomic

/-! ### Changes that may be refused -/

/-- Taking a value off the stack. -/
lemma atomic_popItem : popItem.Atomic := by
  intro s
  unfold popItem
  cases s.memory.pop with
  | error e => exact .inr rfl
  | ok popped => exact .inl ⟨popped.1, rfl⟩

/-- Exchanging two values.  If there are two, then both can be taken off. -/
lemma atomic_swapItems : swapItems.Atomic := by
  intro s
  rcases hitems : s.memory.active.items with _ | ⟨first, _ | ⟨second, rest⟩⟩
  · refine .inr ?_
    rw [swapItems, get_bind_apply, hitems, refuseIf_bind_apply, if_pos (by simp)]
  · refine .inr ?_
    rw [swapItems, get_bind_apply, hitems, refuseIf_bind_apply, if_pos (by simp)]
  · refine .inl ⟨(), ?_⟩
    rw [swapItems, get_bind_apply, hitems, refuseIf_bind_apply, if_neg (by simp),
      bind_of_done (popItem_of_cons hitems), bind_of_done (popItem_of_cons rfl)]
    rfl

/-- Discarding the active frame. -/
lemma atomic_closeFrame : closeFrame.Atomic := by
  refine .after (fun _ => rfl) fun s => .after (reads_refuseIf _ _) fun _ => ?_
  cases s.memory.below with
  | nil => exact .of_reads fun s => rfl
  | cons active below => exact .modify _

/-- Opening a local scope. -/
lemma atomic_enterScope : enterScope.Atomic :=
  .after (fun _ => rfl) fun _ => .after (reads_refuseIf _ _) fun _ => .modify _

/-- Closing the innermost local scope. -/
lemma atomic_exitScope : exitScope.Atomic := by
  refine .after (fun _ => rfl) fun s => .after (reads_refuseIf _ _) fun _ => ?_
  cases s.scopes.outer with
  | nil => exact .of_reads fun s => rfl
  | cons inner outer => exact .after (reads_refuseIf _ _) fun _ => .modify _

/-- Directing access to Global. -/
lemma atomic_enterGlobal : enterGlobal.Atomic :=
  .after (fun _ => rfl) fun _ => .after (reads_refuseIf _ _) fun _ => .modify _

/-- Directing access to the local scopes. -/
lemma atomic_exitGlobal : exitGlobal.Atomic :=
  .after (fun _ => rfl) fun _ => .after (reads_refuseIf _ _) fun _ =>
    .after (reads_refuseIf _ _) fun _ => .modify _

/-- Removing a variable, which has to be there. -/
lemma atomic_removeVariable (name : String) (e : Error) :
    (do refuseIf (!(← removeVariable name)) e).Atomic := by
  refine .checked (fun s hfound => ?_) e
  have herase : s.scopes.active.erase name = s.scopes.active :=
    NameMap.erase_of_contains_eq_false hfound
  have hsame : s.scopes.modifyActive (·.erase name) = s.scopes := by
    unfold Scopes.active at herase
    unfold Scopes.modifyActive
    split at herase
    · next hglobal =>
      rw [if_pos hglobal]
      exact congrArg (fun global => { s.scopes with global }) herase
    · next hglobal =>
      rw [if_neg hglobal]
      exact congrArg (fun inner => { s.scopes with inner }) herase
  exact congrArg (fun scopes => { s with scopes }) hsame

/-- Defining a macro. -/
lemma atomic_defineMacro (name : String) (body : Macro) : (defineMacro name body).Atomic :=
  .after (reads_ofExcept _) fun _ => .modify _

/-- Removing a macro, which has to be there. -/
lemma atomic_undefineMacro (name : String) (e : Error) :
    (do refuseIf (!(← undefineMacro name)) e).Atomic := by
  refine .checked (fun s hfound => ?_) e
  have hsame : s.macros.erase name = s.macros := NameMap.erase_of_contains_eq_false hfound
  exact congrArg (fun macros => { s with macros }) hsame

/-- Putting a command among the custom ones. -/
lemma atomic_registerCustom (name : String) (command : Command) :
    (registerCustom name command).Atomic :=
  .after (reads_ofExcept _) fun _ => .modify _

/-- Removing a custom command, which has to be there. -/
lemma atomic_removeCustom (name : String) (e : Error) :
    (do refuseIf (!(← removeCustom name)) e).Atomic := by
  refine .checked (fun s hfound => ?_) e
  have hsame : s.packages.custom.commands.erase name = s.packages.custom.commands :=
    NameMap.erase_of_contains_eq_false hfound
  dsimp only
  rw [hsame]

/-- Adding a package. -/
lemma atomic_addPackage (package : Package) : (addPackage package).Atomic :=
  .after (reads_refuseIf _ _) fun _ => .modify _

/-- Adding one package at most.  Of several ones, those before a refused one would stay. -/
lemma atomic_addPackages {packages : List Package} (h : packages.length ≤ 1) :
    (addPackages packages).Atomic := by
  match packages with
  | [] => exact .of_reads fun s => rfl
  | [package] => exact (atomic_addPackage package).before fun _ _ => ⟨(), rfl⟩

/-- Adding a package of the registry. -/
lemma atomic_usePackage (name : String) : (usePackage name).Atomic :=
  .after (fun _ => rfl) fun _ => .after (reads_ofExcept _) atomic_addPackage

/-! ### Leaves -/

/-- The commands about the interpreter. -/
lemma atomic_runInfo (command : InfoCommand) (args : Arguments) :
    (Builtin.runInfo command args).Atomic := by
  cases command with
  | help =>
    exact .after (fun s => rfl) fun s => .after (reads_ofExcept _) fun text => .modify _
  | feedback | errors => exact .after (reads_ofExcept _) fun flag => .modify _
  | packages | quit | print => exact .modify _
  | raise => exact .of_reads fun s => rfl

/-- The commands that give conditions, and those on jobs. -/
lemma atomic_runControl (fuel : Nat) (exec : Exec) {command : ControlCommand}
    (h : (Builtin.control command).isReentrant = false) (args : Arguments) :
    (Builtin.runControl fuel exec command args).Atomic := by
  cases command with
  | jobs | wait => exact .thenNone (.modify _)
  | equals =>
    exact .after (reads_ofExcept _) fun a => .after (reads_ofExcept _) fun b =>
      .of_reads fun s => rfl
  | negate | matchesPattern => exact .after (reads_ofExcept _) fun b => .of_reads fun s => rfl
  | _ => cases h

/-- The commands on the memory stacks. -/
lemma atomic_runMemory (exec : Exec) {command : MemoryCommand}
    (h : (Builtin.memory command).isReentrant = false) (args : Arguments) :
    (Builtin.runMemory exec command args).Atomic := by
  cases command with
  | push => exact .after (reads_ofExcept _) fun item => .thenNone (.modify _)
  | pop => exact atomic_popItem.before fun _ _ => ⟨none, rfl⟩
  | peek | dup | stack =>
    exact .after (fun s => rfl) fun s => .after (reads_ofExcept _) fun _ => .thenNone (.modify _)
  | swap => exact atomic_swapItems.thenNone
  | clear | lock | unlock | pushFrame | frames => exact .thenNone (.modify _)
  | popFrame => exact atomic_closeFrame.thenNone
  | count => exact .after (fun s => rfl) fun _ => .of_reads fun s => rfl
  | isolated => cases h

/-- The commands on variables and scopes. -/
lemma atomic_runScope (exec : Exec) {command : ScopeCommand}
    (h : (Builtin.scope command).isReentrant = false) (args : Arguments) :
    (Builtin.runScope exec command args).Atomic := by
  cases command with
  | set =>
    exact .after (reads_ofExcept _) fun name => .after (reads_refuseIf _ _) fun _ =>
      .thenNone (.modify _)
  | get =>
    exact .after (fun s => rfl) fun s => .after (reads_ofExcept _) fun value =>
      .of_reads fun s => rfl
  | unset => exact .after (reads_ofExcept _) fun name => (atomic_removeVariable name _).thenNone
  | vars => exact .thenNone (.modify _)
  | enterScope => exact atomic_enterScope.thenNone
  | exitScope => exact atomic_exitScope.thenNone
  | enterGlobal => exact atomic_enterGlobal.thenNone
  | exitGlobal => exact atomic_exitGlobal.thenNone
  | «scoped» | globally => cases h

/-- The commands that define macros and aliases. -/
lemma atomic_runMacros (command : MacroCommand) (args : Arguments) :
    (Builtin.runMacros command args).Atomic := by
  cases command with
  | define => exact .after (reads_ofExcept _) fun name => atomic_defineMacro name _
  | call | action =>
    exact .after (reads_ofExcept _) fun target => .after (reads_ofExcept _) fun name =>
      atomic_defineMacro name _
  | undefine => exact .after (reads_ofExcept _) fun name => atomic_undefineMacro name _
  | macros => exact .modify _
  | «alias» =>
    exact .after (reads_ofExcept _) fun name => .after (reads_ofExcept _) fun target =>
      atomic_registerCustom name _
  | unalias => exact .after (reads_ofExcept _) fun name => atomic_removeCustom name _

/-- Scripts are put into a package without a change of the session. -/
lemma reads_registerScripts (package : Package) (paths : List String) :
    (discoverPackages.registerScripts package paths).Reads := by
  induction paths generalizing package with
  | nil => exact fun s => rfl
  | cons path rest ih =>
    exact (reads_loadScript path none).bind fun loaded => (reads_ofExcept _).bind ih

/-- So the package of the scripts in a directory is made. -/
lemma reads_discoverPackages (dir : String) : (discoverPackages dir).Reads := by
  refine Reads.bind (fun s => (Routine.scriptFiles_unchanged dir s).1) fun paths => ?_
  cases paths with
  | nil => exact fun s => rfl
  | cons path rest => exact (reads_registerScripts _ _).bind fun commands s => rfl

/-- There is one such package at most. -/
lemma length_of_discoverPackages {dir : String} {packages : List Package} {s t : Session}
    (h : discoverPackages dir s = (.done packages, t)) : packages.length ≤ 1 := by
  obtain ⟨paths, u, -, hnext⟩ := Routine.exists_of_bind_eq_done h
  cases paths with
  | nil => simp [← Routine.eq_of_pure_eq_done hnext]
  | cons path rest =>
    obtain ⟨made, v, -, hlast⟩ := Routine.exists_of_bind_eq_done hnext
    simp [← Routine.eq_of_pure_eq_done hlast]

/-- Adding the package of the scripts in a directory. -/
lemma atomic_loadPackages (dir : String) : (loadPackages dir).Atomic := by
  refine .sequence (reads_discoverPackages dir) fun packages hreturn => ?_
  obtain ⟨s, t, hrun⟩ := hreturn
  exact (atomic_addPackages (length_of_discoverPackages hrun)).before fun _ _ =>
    ⟨packages.length, rfl⟩

/-- The commands that read scripts and packages. -/
lemma atomic_runScripts (exec : Exec) {command : ScriptCommand}
    (h : (Builtin.script command).isReentrant = false) (args : Arguments) :
    (Builtin.runScripts exec command args).Atomic := by
  refine .after (reads_ofExcept _) fun first => ?_
  cases command with
  | load => exact .after (reads_loadScript first _) fun loaded => atomic_registerCustom loaded.1 _
  | compile =>
    exact .after (reads_ofExcept _) fun name => .after (reads_compileDirectory first name)
      fun compiled => atomic_registerCustom name compiled
  | source => cases h
  | importDir => exact (atomic_loadPackages first).before fun _ _ => ⟨(), rfl⟩
  | use => exact atomic_usePackage first

/-- A built-in command that calls no other ones is atomic. -/
lemma atomic_runBuiltin (fuel : Nat) (exec : Exec) (args : Arguments) {command : Builtin}
    (h : command.isReentrant = false) : (runBuiltin fuel exec args command).Atomic := by
  cases command with
  | info command => exact .thenNone (atomic_runInfo command args)
  | control command => exact atomic_runControl fuel exec h args
  | memory command => exact atomic_runMemory exec h args
  | scope command => exact atomic_runScope exec h args
  | macros command => exact .thenNone (atomic_runMacros command args)
  | script command => exact .thenNone (atomic_runScripts exec h args)
  | text command => exact .of_reads (reads_ofExcept _)

/-- A call whose body is atomic leaves the session as it was if it fails. -/
lemma Atomic.eq_of_failed_call {body : Engine (Option Item)} (h : body.Atomic) {s t : Session}
    {e : Error} (hrun : Engine.bind (Guard.call.run body) receive s = (.failed e, t)) : t = s := by
  have hbody := h { s with depth := s.depth + 1 }
  rw [Engine.bind, Guard.run_of_opens (Guard.call_opens s)] at hrun
  rcases hinner : body { s with depth := s.depth + 1 } with ⟨a | e | p | r, u⟩ <;>
    rw [hinner] at hbody hrun
  · cases a <;> cases hrun
  · obtain rfl := hbody.resolve_left (by simp)
    cases hrun
    rfl
  · cases hrun
  · cases hrun

/-- A call of a name that stands for a built-in command which calls no other ones leaves the session
as it was if it fails. -/
lemma eq_of_failed_leaf {s t : Session} {name : String} {package : Package} {command : Command}
    (hresolve : s.packages.resolve? name = some (package, command)) {builtin : Builtin}
    (hbody : command.body = .builtin builtin) (hleaf : builtin.isReentrant = false) {host : Host}
    {fuel : Nat} {args : List String} {e : Error}
    (h : host.execute fuel name args s = (.failed e, t)) : t = s := by
  cases fuel with
  | zero => cases h
  | succ fuel =>
    change host.dispatch fuel (host.execute fuel) name args s = _ at h
    rw [dispatch_eq_callWith] at h
    cases hcall : resolveCall s name args with
    | error e =>
      -- the name, the number of arguments, their kinds or the limit
      rw [callWith_of_error _ hcall] at h
      cases h
      rfl
    | ok resolved =>
      obtain ⟨found, foundCommand, arguments⟩ := resolved
      have hfound := resolve?_of_resolveCall hcall
      rw [hresolve] at hfound
      cases hfound
      rw [callWith_of_ok _ hcall, hbody] at h
      have hatomic := atomic_runBuiltin fuel (host.execute fuel) arguments hleaf
      exact hatomic.eq_of_failed_call h

end Engine

/-! ### Calls of built-in names -/

namespace Session

open Engine (execute)

/-- In a session with the built-in commands, which is every one that a host comes to without
touching the native package (`Untouched.native_eq`), and whatever the commands, macros and passes of
the host do: a call of a built-in name other than the re-entrant ones that fails, whether the number
or the kinds of its arguments are wrong, the limit on active calls is reached, or the command itself
refuses, leaves the whole session as it was before the call. -/
theorem leaf_builtins_fail_without_trace {s : Session} (hnative : s.packages.native = nativePackage)
    {name : String} (hname : name ∈ nativePackage.commands.names) (hleaf : name ∉ reentrantNames)
    (host : Host) (fuel : Nat) (args : List String) {e : Error} {t : Session}
    (h : host.execute fuel name args s = (.failed e, t)) : t = s := by
  obtain ⟨command, hfind⟩ := Option.isSome_iff_exists.1 (NameMap.isSome_find?_iff.2 hname)
  obtain ⟨builtin, hbody, hnames⟩ := exists_builtin_of_native hfind
  have hcalls : builtin.isReentrant = false := by
    rw [hnames, List.contains_eq_mem, decide_eq_false hleaf]
  rw [← hnative] at hfind
  exact Engine.eq_of_failed_leaf (PackageSet.resolve?_of_native hfind) hbody hcalls h

/-- Two values cannot be exchanged where there is one: the value stays where it is. -/
theorem leaf_builtins_fail_without_trace_on_swap :
    let s := (execute 1 "push" ["a"] (Session.start {} standardRegistry .empty)).2
    s.memory.active.items = [.text "a"] ∧
      ∃ t, execute 1 "swap" [] s = (.failed .emptyStack, t) ∧ t = s := by
  intro s
  have heval : s.memory.active.items = [.text "a"] ∧
      (execute 1 "swap" [] s).1 = .failed .emptyStack := by decide +kernel
  obtain ⟨hitems, hfailed⟩ := heval
  have hrun : execute 1 "swap" [] s = (.failed .emptyStack, (execute 1 "swap" [] s).2) := by
    rw [← hfailed]
  have hstart : (Session.start {} standardRegistry .empty).Untouched :=
    .built (show Session.build {} standardRegistry .empty [] [] = .ok _ from rfl)
  have hs : s.Untouched := hstart.ran (.command 1 "push" ["a"])
  refine ⟨hitems, (execute 1 "swap" [] s).2, hrun, ?_⟩
  exact leaf_builtins_fail_without_trace hs.native_eq (by decide +kernel) (by decide) .standard 1 []
    hrun

end Session

end LineShell
