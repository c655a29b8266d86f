import LineShell.Proofs.Routine.Regular

/-!
# Lines and scripts are regular

The single steps of the interpreter, and the lemmas that its parts are regular routines
(`Routine.Regular`): expanding a line, running it, running the lines of a script, and making
scripts into commands.  None of them is `loose`, so they hold for every `loose`.
-/

namespace LineShell

namespace Scopes

/-- No change of the active scope is no change. -/
lemma modifyActive_id (scopes : Scopes) : scopes.modifyActive id = scopes := by
  unfold modifyActive
  split <;> rfl

/-- Two changes of the active scope are one. -/
lemma modifyActive_modifyActive (scopes : Scopes) (f g : Scope → Scope) :
    (scopes.modifyActive f).modifyActive g = scopes.modifyActive (g ∘ f) := by
  unfold modifyActive
  by_cases h : scopes.globalActive <;> simp [h]

end Scopes

namespace Session

variable {loose : Prop}

/-! ### Steps of the interpreter -/

/-- Writing changes nothing but the output. -/
lemma kin_say (s : Session) (text : String) : s.Kin (s.say text) := by
  unfold say
  split
  · exact ⟨⟨rfl, rfl, rfl, rfl, rfl⟩, rfl⟩
  · exact .refl s

/-- A session is like a third one if it is like a second one that is. -/
lemma Alike.trans {s t u : Session} (h : s.Alike t) (h' : t.Alike u) : s.Alike u :=
  ⟨h'.memory.trans h.memory, h'.scopes.trans h.scopes, h'.depth.trans h.depth,
    h'.packages.trans h.packages, h'.registry.trans h.registry⟩

/-- A session is kin to a third one if it is kin to a second one that is. -/
lemma Kin.trans {s t u : Session} (h : s.Kin t) (h' : t.Kin u) : s.Kin u :=
  ⟨h.toAlike.trans h'.toAlike, h'.setup.trans h.setup⟩

/-- Writing line after line changes nothing but the output. -/
lemma kin_foldl_sayLine {α : Type} (line : α → String) (entries : List α) (s : Session) :
    s.Kin (entries.foldl (fun s entry => s.sayLine (line entry)) s) := by
  induction entries generalizing s with
  | nil => exact .refl s
  | cons entry rest ih => exact (kin_say s _).trans (ih _)

/-- A change of the frames only. -/
lemma change_memory {s : Session} {memory : Memory} (h : s.memory.Step memory) :
    s.Change loose { s with memory } :=
  ⟨.of_packages h (.refl loose s.scopes) rfl rfl rfl, rfl⟩

/-- A change of the scopes only. -/
lemma change_scopes {s : Session} {scopes : Scopes} (h : s.scopes.Step loose scopes) :
    s.Change loose { s with scopes } :=
  ⟨.of_packages (.active s.memory s.memory.active) h rfl rfl rfl, rfl⟩

/-- A change of the packages only. -/
lemma change_packages {s t : Session}
    (h : t.memory = s.memory ∧ t.scopes = s.scopes ∧ t.depth = s.depth ∧ t.setup = s.setup)
    (hd : s.Disciplined → t.Disciplined) : s.Change loose t := by
  refine ⟨⟨?_, ?_, h.2.2.1, .inr hd⟩, h.2.2.2⟩
  · rw [h.1]
    exact .active s.memory s.memory.active
  · rw [h.2.1]
    exact .refl loose s.scopes

end Session

namespace Routine

open Engine

variable {α β : Type} {loose : Prop}

namespace Regular

/-! ### Single steps as routines -/

/-- An action that changes nothing but output, macros, jobs and the like, and does not crash. -/
lemma of_kin {action : Engine α} (h : ∀ s : Session, s.Kin (action s).2)
    (hc : ∀ s, (action s).1.ending ≠ .crashed) : Regular loose fun _ => action :=
  .leaf (fun s => (h s).change) (.inr hc)

/-- Returning a value. -/
lemma pure (a : α) : Regular loose fun _ => (Pure.pure a : Engine α) :=
  of_kin (fun s => .refl s) fun _ => by simp [Pure.pure, Outcome.ending]

/-- Failing. -/
lemma fail (e : Error) : Regular loose fun _ => (Engine.fail e : Engine α) :=
  of_kin (fun s => .refl s) fun _ => by simp [Engine.fail, Outcome.ending]

/-- Coming to no end. -/
lemma halt (reason : Halt) : Regular loose fun _ => (Engine.halt reason : Engine α) :=
  of_kin (fun s => .refl s) fun _ => by simp [Engine.halt, Outcome.ending]

/-- Crashing is `loose`. -/
lemma crash (hl : loose) (payload : CrashPayload) :
    Regular loose fun _ => (Engine.crash payload : Engine α) :=
  .leaf (fun s => (Session.Kin.refl s).change) (.inl hl)

/-- Looking at the session. -/
lemma get : Regular loose fun _ => Engine.get :=
  of_kin (fun s => .refl s) fun _ => by simp [Engine.get, Outcome.ending]

/-- Returning a value or failing. -/
lemma ofExcept (x : Except Error α) : Regular loose fun _ => Engine.ofExcept x := by
  cases x with
  | error e => exact fail e
  | ok a => exact pure a

/-- Changing the session by a step. -/
lemma modify {f : Session → Session} (h : ∀ s : Session, s.Change loose (f s)) :
    Regular loose fun _ => Engine.modify f :=
  .leaf h (.inr fun _ => by simp [Engine.modify, Outcome.ending])

/-- Changing the session by a step that may be refused. -/
lemma attempt {step : Session → Except Error Session}
    (h : ∀ s t, step s = .ok t → s.Change loose t) :
    Regular loose fun _ => Engine.attempt step := by
  refine .leaf (fun s => ?_) (.inr fun s => ?_)
  · unfold Engine.attempt
    cases hs : step s with
    | error e => exact (Session.Kin.refl s).change
    | ok t => exact h s t hs
  · unfold Engine.attempt
    cases step s <;> simp [Outcome.ending]

/-- Failing if something is refused. -/
lemma refuseIf (refused : Bool) (e : Error) : Regular loose fun _ => Engine.refuseIf refused e := by
  cases refused with
  | false => exact pure ()
  | true => exact fail e

/-- Changing the session by a step that gives a value. -/
lemma update {f : Session → α × Session} (h : ∀ s : Session, s.Change loose (f s).2) :
    Regular loose fun _ => Engine.update f :=
  .leaf h (.inr fun _ => by simp [Engine.update, Outcome.ending])

/-! ### More ways of putting routines together -/

/-- One routine after another. -/
lemma bind {first : Routine α} {next : Exec → α → Engine β} (hfirst : Regular loose first)
    (hnext : ∀ a, Regular loose fun exec => next exec a) :
    Regular loose fun exec => first exec >>= next exec :=
  .sequence hfirst fun a _ => hnext a

/-- One of two routines. -/
lemma ite {p : Prop} [Decidable p] {first second : Routine α} (hfirst : Regular loose first)
    (hsecond : Regular loose second) :
    Regular loose fun exec => if p then first exec else second exec := by
  by_cases h : p
  · simpa only [h, if_true] using hfirst
  · simpa only [h, if_false] using hsecond

/-- A routine without its value. -/
lemma thenNone {body : Routine β} (h : Regular loose body) :
    Regular loose fun exec => do
      let _ ← body exec
      return (none : Option α) :=
  .bind h fun _ => pure none

/-- An isolated run. -/
lemma isolated {body : Routine α} (h : Regular loose body) :
    Regular loose fun exec => Engine.isolated (body exec) :=
  .guarded .isolation (by decide) h

/-- A run in a temporary scope. -/
lemma temporaryScope {body : Routine α} (h : Regular loose body) :
    Regular loose fun exec => Engine.temporaryScope (body exec) := by
  simp only [temporaryScope_eq_run]
  exact .guarded .scope (by decide) h

/-- A run in Global. -/
lemma inGlobal {body : Routine α} (h : Regular loose body) :
    Regular loose fun exec => Engine.inGlobal (body exec) :=
  .guarded .global (by decide) h

/-- A routine for each entry of a list. -/
lemma mapM {f : Exec → α → Engine β} (h : ∀ a, Regular loose fun exec => f exec a)
    (entries : List α) : Regular loose fun exec => entries.mapM (f exec) := by
  have hloop : ∀ done, Regular loose fun exec => List.mapM.loop (f exec) entries done := by
    induction entries with
    | nil => exact fun done => pure done.reverse
    | cons a rest ih => exact fun done => .bind (h a) fun b => ih (b :: done)
  exact hloop []

end Regular

/-! ### Expanding a line -/

/-- Taking a value off the active stack. -/
lemma regular_popItem : Regular loose fun _ => popItem := by
  refine .leaf (fun s => ?_) (.inr fun s => ?_)
  · unfold popItem Memory.pop
    cases s.memory.active.pop with
    | error e => exact (Session.Kin.refl s).change
    | ok popped => exact Session.change_memory (.active s.memory popped.2)
  · unfold popItem
    cases s.memory.pop <;> simp [Outcome.ending]

/-- What a probe does. -/
lemma regular_runProbe (probe : Probe) : Regular loose fun _ => runProbe probe := by
  cases probe with
  | frameCount => exact .bind .get fun _ => .pure _
  | itemCount => exact .bind .get fun _ => .pure _
  | callDepth => exact .bind .get fun _ => .pure _
  | popItem => exact .bind regular_popItem fun _ => .pure _
  | failure message => exact .fail _

/-- What the standard host is asked for. -/
lemma regular_runCallback (callback : Callback) : Regular loose fun _ => runCallback callback := by
  cases callback with
  | probe probe => exact regular_runProbe probe
  | pass pass text => exact .ofExcept _

/-- An error in place of that of the empty stack is a case of handling errors. -/
lemma whenEmpty_eq_handle (action : Engine α) (error : Error) :
    action.whenEmpty error =
      action.handle fun e => Engine.fail (if e = .emptyStack then error else e) := by
  funext s
  unfold whenEmpty Engine.handle
  rcases action s with ⟨a | e | p | r, t⟩
  · rfl
  · cases e <;> rfl
  · rfl
  · rfl

/-- The text of a macro. -/
lemma regular_produce (name : String) (body : Macro) :
    Regular loose fun exec => produce exec name body := by
  cases body with
  | text value => exact .pure value
  | call command args =>
    simp only [produce, whenEmpty_eq_handle]
    refine .handle (.isolated ?_) fun e => .fail _
    exact .bind (.call command args) fun _ => .bind regular_popItem fun item => .pure _
  | action command args => exact .bind (.call command args) fun _ => .pure _
  | probe probe => exact .callback (.probe probe)

/-- Live text with its macros replaced. -/
lemma regular_expandMacros (table : List (String × Macro)) (skip : Nat) (cs : List Char) :
    Regular loose fun exec => expandMacros exec table skip cs := by
  induction cs generalizing skip with
  | nil => exact .pure []
  | cons c rest ih =>
    cases skip with
    | succ skip => exact ih skip
    | zero =>
      simp only [expandMacros]
      cases firstEntry? table (c :: rest) with
      | none => exact .bind (ih 0) fun more => .pure _
      | some entry =>
        exact .bind (regular_produce entry.1 entry.2) fun out =>
          .bind (ih (entry.1.length - 1)) fun more => .pure _

/-- A text with its live segments expanded. -/
lemma regular_mapLive {expand : Exec → List Char → Engine (List Char)}
    (h : ∀ text, Regular loose fun exec => expand exec text) (cs : List Char) :
    Regular loose fun exec => Marked.mapLive (expand exec) cs := by
  refine .bind (.mapM (fun segment => ?_) _) fun pieces => .pure _
  cases segment with
  | live text => exact h text
  | ignored body closed => exact .pure _

/-- One text expanded by one pass. -/
lemma regular_applyPass (pass : Pass) (cs : List Char) :
    Regular loose fun exec => applyPass exec pass cs := by
  refine .bind .get fun s => ?_
  cases pass with
  | builtin => exact regular_mapLive (fun text => .pure _) cs
  | macros => exact .ite (.pure cs) (regular_mapLive (regular_expandMacros _ 0) cs)
  | «variables» => exact .ofExcept _
  | memory =>
    refine .leaf (fun s => ?_) (.inr fun s => ?_)
    · rcases Escape.expand s.memory.active cs with ⟨_ | out, active⟩
      all_goals exact Session.change_memory (.active s.memory active)
    · rcases Escape.expand s.memory.active cs with ⟨_ | out, active⟩ <;> simp [Outcome.ending]
  | custom pass => exact .bind (.callback (.pass pass _)) fun out => .pure _

/-- The texts of a line expanded by the passes. -/
lemma regular_applyPasses (passes : List Pass) (texts : List (List Char)) :
    Regular loose fun exec => applyPasses exec passes texts := by
  induction passes generalizing texts with
  | nil => exact .pure texts
  | cons pass rest ih => exact .bind (.mapM (regular_applyPass pass) texts) ih

/-- A command name and its arguments expanded. -/
lemma regular_expandCall (name : String) (args : List String) :
    Regular loose fun exec => expandCall exec name args := by
  refine .bind .get fun s => .bind (regular_applyPasses _ _) fun texts => ?_
  cases texts with
  | nil => exact .pure _
  | cons first rest => exact .bind .get fun t => .pure _

/-- A line. -/
lemma regular_runLine (line : String) : Regular loose fun exec => runLine exec line := by
  unfold runLine
  cases Word.split line with
  | nil => exact .pure ()
  | cons name args =>
    exact .ite (.pure ()) (.bind (regular_expandCall name args) fun call => .call call.1 call.2)

/-! ### Scripts -/

/-- Reading a file changes nothing, and does not crash. -/
lemma readFile_unchanged (path : String) (s : Session) :
    (readFile path s).2 = s ∧ (readFile path s).1.ending ≠ .crashed := by
  unfold readFile
  rcases s.files.readText? path with _ | _ | text
  all_goals exact ⟨rfl, by simp [Outcome.ending]⟩

/-- Reading a file. -/
lemma regular_readFile (path : String) : Regular loose fun _ => readFile path := by
  refine .of_kin (fun s => ?_) fun s => (readFile_unchanged path s).2
  rw [(readFile_unchanged path s).1]
  exact .refl s

/-- Looking for the scripts of a directory changes nothing, and does not crash. -/
lemma scriptFiles_unchanged (dir : String) (s : Session) :
    (scriptFiles dir s).2 = s ∧ (scriptFiles dir s).1.ending ≠ .crashed := by
  unfold scriptFiles
  rcases s.files.fileNames? dir with _ | _ | names
  all_goals exact ⟨rfl, by simp [Outcome.ending]⟩

/-- Listing the scripts of a directory. -/
lemma regular_scriptFiles (dir : String) : Regular loose fun _ => scriptFiles dir := by
  refine .of_kin (fun s => ?_) fun s => (scriptFiles_unchanged dir s).2
  rw [(scriptFiles_unchanged dir s).1]
  exact .refl s

/-- Lines one after the other. -/
lemma regular_runLines (lines : List String) : Regular loose fun exec => runLines exec lines := by
  induction lines with
  | nil => exact .pure ()
  | cons line rest ih =>
    exact .bind .get fun s => .ite (.bind (regular_runLine line) fun _ => ih) (.pure ())

/-- The lines of a script. -/
lemma regular_runScript (text : String) : Regular loose fun exec => runScript exec text :=
  regular_runLines (Text.lines text)

/-- A line under supervision. -/
lemma regular_superviseLine (line : String) :
    Regular loose fun exec => superviseLine exec line :=
  .supervised _ (regular_runLine line)

/-- Lines, each of them under supervision. -/
lemma regular_superviseLines (origin : String) (number : Nat) (lines : List String) :
    Regular loose fun exec => superviseLines exec origin number lines := by
  induction lines generalizing number with
  | nil => exact .pure true
  | cons line rest ih =>
    refine .bind .get fun s => .ite (.bind (.supervised _ (regular_runLine line)) fun ok => ?_)
      (.pure true)
    exact .ite (ih (number + 1)) (.pure false)

/-- The lines of a script, each of them under supervision. -/
lemma regular_superviseScript (origin text : String) :
    Regular loose fun exec => superviseScript exec origin text :=
  regular_superviseLines origin 1 (Text.lines text)

/-- Variables stored one after the other are one change of the active scope. -/
lemma exists_foldl_store_eq (entries : List (String × Nat)) (scopes : Scopes) :
    ∃ f, entries.foldl (fun scopes (value, index) =>
      scopes.store (Text.decimal index) value) scopes = scopes.modifyActive f := by
  induction entries generalizing scopes with
  | nil => exact ⟨id, scopes.modifyActive_id.symm⟩
  | cons entry rest ih =>
    obtain ⟨f, hf⟩ := ih (scopes.store (Text.decimal entry.2) entry.1)
    refine ⟨f ∘ fun scope => scope.insert (Text.decimal entry.2) entry.1, ?_⟩
    rw [← Scopes.modifyActive_modifyActive]
    exact hf

/-- Binding the arguments of a script is one change of the active scope. -/
lemma exists_bindPositional_eq (scopes : Scopes) (args : List String) :
    ∃ f, bindPositional scopes args = scopes.modifyActive f := by
  obtain ⟨f, hf⟩ := exists_foldl_store_eq (args.zipIdx 1) scopes
  refine ⟨(fun scope => scope.insert "argc" (Text.decimal args.length)) ∘ f, ?_⟩
  rw [← Scopes.modifyActive_modifyActive, ← hf]
  rfl

/-- The lines of a script, once its arguments are bound. -/
lemma regular_boundScript (text : String) (args : List String) :
    Regular loose (fun exec => do
      Engine.modify fun s => { s with scopes := bindPositional s.scopes args }
      runScript exec text) := by
  refine .bind (.modify fun s => ?_) fun _ => regular_runScript text
  obtain ⟨f, hf⟩ := exists_bindPositional_eq s.scopes args
  rw [hf]
  exact Session.change_scopes (.active s.scopes f)

/-- A script in a temporary scope of its own. -/
lemma regular_runScriptCommand (text : String) (args : List String) :
    Regular loose fun exec => runScriptCommand exec text args :=
  .bind .get fun _ => .ite (.fail _) (.temporaryScope (regular_boundScript text args))

/-- A script file made into a command. -/
lemma regular_loadScript (path : String) (name : Option String) :
    Regular loose fun _ => loadScript path name := by
  refine .bind (regular_readFile path) fun text => ?_
  cases name.or (Path.stem? path) with
  | none => exact .fail _
  | some name => exact .pure _

/-- The scripts of a directory made into one command. -/
lemma regular_compileDirectory (dir name : String) :
    Regular loose fun _ => compileDirectory dir name := by
  refine .bind (regular_scriptFiles dir) fun paths => ?_
  cases paths with
  | nil => exact .fail _
  | cons path rest => exact .bind (.mapM regular_readFile _) fun texts => .pure _

/-- Scripts put into a package. -/
lemma regular_registerScripts (package : Package) (paths : List String) :
    Regular loose fun _ => discoverPackages.registerScripts package paths := by
  induction paths generalizing package with
  | nil => exact .pure package
  | cons path rest ih =>
    exact .bind (regular_loadScript path none) fun loaded => .bind (.ofExcept _) ih

/-- The scripts of a directory made into a package. -/
lemma regular_discoverPackages (dir : String) : Regular loose fun _ => discoverPackages dir := by
  refine .bind (regular_scriptFiles dir) fun paths => ?_
  cases paths with
  | nil => exact .pure []
  | cons path rest => exact .bind (regular_registerScripts _ _) fun commands => .pure _

/-- An action that returns after another one has a first part that returns. -/
lemma exists_of_bind_eq_done {first : Engine α} {next : α → Engine β} {b : β} {s u : Session}
    (h : (first >>= next) s = (.done b, u)) :
    ∃ a t, first s = (.done a, t) ∧ next a t = (.done b, u) := by
  change Engine.bind first next s = _ at h
  unfold Engine.bind at h
  rcases hrun : first s with ⟨a | e | p | r, t⟩ <;> rw [hrun] at h
  · exact ⟨a, t, rfl, h⟩
  all_goals exact absurd (congrArg Prod.fst h) (by simp)

/-- What is returned at once is the value that comes out. -/
lemma eq_of_pure_eq_done {a b : α} {s t : Session}
    (h : (Pure.pure a : Engine α) s = (.done b, t)) : a = b := by
  have heq : Outcome.done a = .done b := congrArg Prod.fst h
  exact Outcome.done.inj heq

/-- A script file is made into a disciplined command. -/
lemma isDisciplined_of_loadScript {path : String} {name : Option String}
    {loaded : String × Command} {s t : Session} (h : loadScript path name s = (.done loaded, t)) :
    loaded.2.body.isDisciplined = true := by
  obtain ⟨text, u, -, hnext⟩ := exists_of_bind_eq_done h
  cases hname : name.or (Path.stem? path) with
  | none => simp [hname, Engine.fail] at hnext
  | some name =>
    rw [hname] at hnext
    rw [← eq_of_pure_eq_done hnext]
    rfl

/-- The scripts of a directory are made into a disciplined command. -/
lemma isDisciplined_of_compileDirectory {dir name : String} {command : Command} {s t : Session}
    (h : compileDirectory dir name s = (.done command, t)) :
    command.body.isDisciplined = true := by
  obtain ⟨paths, u, -, hnext⟩ := exists_of_bind_eq_done h
  cases paths with
  | nil => simp [Engine.fail] at hnext
  | cons path rest =>
    obtain ⟨texts, v, -, hlast⟩ := exists_of_bind_eq_done hnext
    rw [← eq_of_pure_eq_done hlast]
    rfl

/-- Scripts keep a package disciplined. -/
lemma disciplined_of_registerScripts {package next : Package} {paths : List String} {s t : Session}
    (hp : package.Disciplined)
    (h : discoverPackages.registerScripts package paths s = (.done next, t)) :
    next.Disciplined := by
  induction paths generalizing package s with
  | nil => exact eq_of_pure_eq_done h ▸ hp
  | cons path rest ih =>
    obtain ⟨loaded, u, hload, hnext⟩ := exists_of_bind_eq_done h
    obtain ⟨registered, v, hregister, hrest⟩ := exists_of_bind_eq_done hnext
    refine ih ?_ hrest
    cases hr : package.register loaded.1 loaded.2 with
    | error e => simp [hr, Engine.ofExcept, Engine.fail] at hregister
    | ok registered' =>
      rw [hr] at hregister
      have heq := eq_of_pure_eq_done hregister
      exact heq ▸ hp.register (isDisciplined_of_loadScript hload) hr

/-- The scripts of a directory are made into disciplined packages. -/
lemma disciplined_of_discoverPackages {dir : String} {packages : List Package} {s t : Session}
    (h : discoverPackages dir s = (.done packages, t)) :
    ∀ package ∈ packages, package.Disciplined := by
  obtain ⟨paths, u, -, hnext⟩ := exists_of_bind_eq_done h
  cases paths with
  | nil =>
    have heq := eq_of_pure_eq_done hnext
    simp [← heq]
  | cons path rest =>
    obtain ⟨made, v, hmade, hlast⟩ := exists_of_bind_eq_done hnext
    intro package hmem
    rw [← eq_of_pure_eq_done hlast, List.mem_singleton] at hmem
    rw [hmem]
    exact disciplined_of_registerScripts (.empty _) hmade

/-- Adding a package touches nothing but the packages. -/
lemma alike_addPackage {package : Package} {s t : Session} (h : s.addPackage package = .ok t) :
    t.memory = s.memory ∧ t.scopes = s.scopes ∧ t.depth = s.depth ∧ t.setup = s.setup := by
  rw [Session.addPackage_eq_ok h]
  exact ⟨rfl, rfl, rfl, rfl⟩

/-- A disciplined package added. -/
lemma regular_addPackage {package : Package} (hp : package.Disciplined) :
    Regular loose fun _ => addPackage package := by
  rw [addPackage_eq]
  exact .attempt fun s t hadd =>
    Session.change_packages (alike_addPackage hadd) fun h => h.addPackage hp hadd

/-- Disciplined packages added one after the other. -/
lemma regular_addPackages {packages : List Package}
    (hp : ∀ package ∈ packages, package.Disciplined) :
    Regular loose fun _ => addPackages packages := by
  induction packages with
  | nil => exact .pure ()
  | cons package rest ih =>
    exact .bind (regular_addPackage (hp package List.mem_cons_self)) fun _ =>
      ih fun p hmem => hp p (List.mem_cons_of_mem _ hmem)

/-- The scripts of a directory added as a package. -/
lemma regular_loadPackages (dir : String) : Regular loose fun _ => loadPackages dir := by
  refine .sequence (regular_discoverPackages dir) fun packages hreturn => ?_
  obtain ⟨_, s, t, hrun⟩ := hreturn
  exact .bind (regular_addPackages (disciplined_of_discoverPackages hrun)) fun _ => .pure _

/-- A disciplined command put among the custom ones. -/
lemma regular_registerCustom (name : String) {command : Command}
    (hc : command.body.isDisciplined = true) :
    Regular loose fun _ => registerCustom name command := by
  rw [registerCustom_eq]
  refine .attempt fun s t h => ?_
  obtain ⟨packages, hpackages, ht⟩ := exists_of_bind_eq_ok h
  obtain ⟨custom, hcustom, hset⟩ := exists_of_bind_eq_ok hpackages
  cases hset
  cases ht
  refine Session.change_packages ⟨rfl, rfl, rfl, rfl⟩ fun h => ?_
  exact h.withCustom (h.custom.register hc hcustom)

/-! ### What is used of composed routines -/

/-- Taking a value off the active stack. -/
lemma composed_popItem : Composed loose fun _ => popItem := regular_popItem.composed

/-- A line. -/
lemma composed_runLine (line : String) : Composed loose fun exec => runLine exec line :=
  (regular_runLine line).composed

/-- The lines of a script, once its arguments are bound. -/
lemma composed_boundScript (text : String) (args : List String) :
    Composed loose (fun exec => do
      Engine.modify fun s => { s with scopes := bindPositional s.scopes args }
      runScript exec text) :=
  (regular_boundScript text args).composed

end Routine

end LineShell
