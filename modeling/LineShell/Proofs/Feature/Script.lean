import LineShell.Proofs.Feature

/-!
# Lines and scripts use no features

The parts of the interpreter that expand a line, run the lines of a script and make scripts into
commands are permitted routines, whatever is permitted.  Only supervision makes use of a feature:
it goes on after a failure.

Reading a file is a plain action, since a tree that is complete tells what stands at every path.
-/

namespace LineShell

/-! ### Complete trees -/

namespace FileTree

variable {tree : FileTree}

/-- A complete tree tells what stands at a place. -/
lemma isSome_recorded? (h : tree.complete = true) (place : List String) :
    (tree.recorded? place).isSome = true := by
  unfold recorded?
  split
  · rfl
  · split
    · rfl
    · rfl

/-- It tells where components lead to. -/
lemma isSome_follow? (h : tree.complete = true) (place components : List String) :
    (tree.follow? place components).isSome = true := by
  induction components generalizing place with
  | nil => rfl
  | cons name rest ih =>
    have hrecorded := isSome_recorded? h place
    unfold follow?
    split
    · split
      · rfl
      · exact ih _
    · rfl
    · rfl
    · next hnone =>
      rw [hnone] at hrecorded
      cases hrecorded

/-- It tells where a path leads to. -/
lemma isSome_place? (h : tree.complete = true) (path : String) :
    (tree.place? path).isSome = true := by
  unfold place?
  split
  · rfl
  · split
    · rfl
    · split
      · rfl
      · exact isSome_follow? h _ _

/-- It tells what stands at a path. -/
lemma isSome_node? (h : tree.complete = true) (path : String) :
    (tree.node? path).isSome = true := by
  have hplace := isSome_place? h path
  unfold node?
  split
  · next hnone =>
    rw [hnone] at hplace
    cases hplace
  · rfl
  · next place _ =>
    have hrecorded := isSome_recorded? h place
    split
    · split <;> rfl
    · exact hrecorded

/-- It gives the text of a file, or says why there is none. -/
lemma isSome_readText? (h : tree.complete = true) (path : String) :
    (tree.readText? path).isSome = true := by
  rw [readText?, Option.isSome_map]
  exact isSome_node? h path

/-- It gives the names of the files in a directory, or says why there are none. -/
lemma isSome_fileNames? (h : tree.complete = true) (path : String) :
    (tree.fileNames? path).isSome = true := by
  have hnode := isSome_node? h path
  unfold fileNames?
  split
  · rw [Option.isSome_map, listing?]
    split
    · rfl
    · rw [if_pos h]
      rfl
  · rfl
  · rfl
  · next hnone =>
    rw [hnone] at hnode
    cases hnode

end FileTree

namespace Routine

open Engine

variable {α β : Type} {permits : Feature → Prop}

/-! ### More ways of putting routines together -/

namespace Permitted

/-- Returning a value. -/
lemma pure (a : α) : Permitted permits fun _ => (Pure.pure a : Engine α) := .plain (.pure a)

/-- Failing. -/
lemma fail (e : Error) : Permitted permits fun _ => (Engine.fail e : Engine α) := .plain (.fail e)

/-- Returning a value or failing. -/
lemma ofExcept (x : Except Error α) : Permitted permits fun _ => Engine.ofExcept x :=
  .plain (.ofExcept x)

/-- One routine after another. -/
lemma bind {first : Routine α} {next : Exec → α → Engine β} (hfirst : Permitted permits first)
    (hnext : ∀ a, Permitted permits fun exec => next exec a) :
    Permitted permits fun exec => first exec >>= next exec :=
  .sequence hfirst fun a _ => hnext a

/-- One of two routines. -/
lemma ite {p : Prop} [Decidable p] {first second : Routine α} (hfirst : Permitted permits first)
    (hsecond : Permitted permits second) :
    Permitted permits fun exec => if p then first exec else second exec := by
  by_cases h : p
  · simpa only [h, if_true] using hfirst
  · simpa only [h, if_false] using hsecond

/-- A routine without its value. -/
lemma thenNone {body : Routine β} (h : Permitted permits body) :
    Permitted permits fun exec => do
      let _ ← body exec
      return (none : Option α) :=
  .bind h fun _ => pure none

/-- An isolated run. -/
lemma isolated {body : Routine α} (h : Permitted permits body) :
    Permitted permits fun exec => Engine.isolated (body exec) :=
  .guarded .isolation (by decide) h

/-- A run in a temporary scope. -/
lemma temporaryScope {body : Routine α} (h : Permitted permits body) :
    Permitted permits fun exec => Engine.temporaryScope (body exec) := by
  simp only [temporaryScope_eq_run]
  exact .guarded .scope (by decide) h

/-- A run in Global. -/
lemma inGlobal {body : Routine α} (h : Permitted permits body) :
    Permitted permits fun exec => Engine.inGlobal (body exec) :=
  .guarded .global (by decide) h

/-- A routine for each entry of a list. -/
lemma mapM {f : Exec → α → Engine β} (h : ∀ a, Permitted permits fun exec => f exec a)
    (entries : List α) : Permitted permits fun exec => entries.mapM (f exec) := by
  have hloop : ∀ done, Permitted permits fun exec => List.mapM.loop (f exec) entries done := by
    induction entries with
    | nil => exact fun done => pure done.reverse
    | cons a rest ih => exact fun done => .bind (h a) fun b => ih (b :: done)
  exact hloop []

end Permitted

/-! ### Expanding a line -/

/-- Taking a value off the active stack. -/
lemma plain_popItem : popItem.Plain := by
  refine ⟨fun s => ?_, fun s _ => ?_, fun s limit => ?_⟩
  · unfold popItem Memory.pop
    cases s.memory.active.pop with
    | error e => exact (Session.Kin.refl s).turn .same .same
    | ok popped => exact (Session.change_memory (.active s.memory popped.2)).turn rfl rfl rfl rfl
  · unfold popItem
    cases s.memory.pop <;> rfl
  · have hsame : (s.withLimit limit).memory.pop = s.memory.pop := rfl
    unfold popItem
    rw [hsame]
    cases s.memory.pop <;> rfl

/-- What the standard host is asked for. -/
lemma permitted_runCallback (callback : Callback) :
    Permitted permits fun _ => runCallback callback := by
  cases callback with
  | pass pass text => exact .ofExcept _
  | probe probe =>
    cases probe with
    | frameCount => exact .look (fun _ _ _ => rfl) fun _ => .pure _
    | itemCount => exact .look (fun _ _ _ => rfl) fun _ => .pure _
    | callDepth => exact .look (fun _ _ _ => rfl) fun _ => .pure _
    | popItem => exact .bind (.plain plain_popItem) fun _ => .pure _
    | failure message => exact .fail _

/-- The text of a macro. -/
lemma permitted_produce (name : String) (body : Macro) :
    Permitted permits fun exec => produce exec name body := by
  cases body with
  | text value => exact .pure value
  | call command args =>
    refine .relabelled _ (.isolated (.bind (.call command args) fun _ => ?_))
    exact .bind (.plain plain_popItem) fun item => .pure _
  | action command args => exact .bind (.call command args) fun _ => .pure _
  | probe probe => exact .callback (.probe probe)

/-- Live text with its macros replaced. -/
lemma permitted_expandMacros (table : List (String × Macro)) (skip : Nat) (cs : List Char) :
    Permitted permits fun exec => expandMacros exec table skip cs := by
  induction cs generalizing skip with
  | nil => exact .pure []
  | cons c rest ih =>
    cases skip with
    | succ skip => exact ih skip
    | zero =>
      simp only [expandMacros]
      cases firstEntry? table (c :: rest) with
      | none => exact .bind (ih 0) fun more => .pure _
      | some entry =>
        exact .bind (permitted_produce entry.1 entry.2) fun out =>
          .bind (ih (entry.1.length - 1)) fun more => .pure _

/-- A text with its live segments expanded. -/
lemma permitted_mapLive {expand : Exec → List Char → Engine (List Char)}
    (h : ∀ text, Permitted permits fun exec => expand exec text) (cs : List Char) :
    Permitted permits fun exec => Marked.mapLive (expand exec) cs := by
  refine .bind (.mapM (fun segment => ?_) _) fun pieces => .pure _
  cases segment with
  | live text => exact h text
  | ignored body closed => exact .pure _

/-- One text expanded by one pass. -/
lemma permitted_applyPass (pass : Pass) (cs : List Char) :
    Permitted permits fun exec => applyPass exec pass cs := by
  refine .look (fun _ _ _ => rfl) fun s => ?_
  cases pass with
  | builtin => exact permitted_mapLive (fun text => .pure _) cs
  | macros => exact .ite (.pure cs) (permitted_mapLive (permitted_expandMacros _ 0) cs)
  | «variables» => exact .ofExcept _
  | memory =>
    refine .plain ⟨fun s => ?_, fun s _ => ?_, fun s limit => ?_⟩
    · rcases Escape.expand s.memory.active cs with ⟨_ | out, active⟩
      all_goals exact (Session.change_memory (.active s.memory active)).turn rfl rfl rfl rfl
    · rcases Escape.expand s.memory.active cs with ⟨_ | out, active⟩ <;> rfl
    · have hsame : (s.withLimit limit).memory = s.memory := rfl
      simp only [hsame]
      rcases Escape.expand s.memory.active cs with ⟨_ | out, active⟩ <;> rfl
  | custom pass => exact .bind (.callback (.pass pass _)) fun out => .pure _

/-- The texts of a line expanded by the passes. -/
lemma permitted_applyPasses (passes : List Pass) (texts : List (List Char)) :
    Permitted permits fun exec => applyPasses exec passes texts := by
  induction passes generalizing texts with
  | nil => exact .pure texts
  | cons pass rest ih => exact .bind (.mapM (permitted_applyPass pass) texts) ih

/-- A command name and its arguments expanded. -/
lemma permitted_expandCall (name : String) (args : List String) :
    Permitted permits fun exec => expandCall exec name args := by
  refine .look (fun _ _ _ => rfl) fun s => .bind (permitted_applyPasses _ _) fun texts => ?_
  cases texts with
  | nil => exact .pure _
  | cons first rest => exact .look (fun _ _ _ => rfl) fun t => .pure _

/-- A line. -/
lemma permitted_runLine (line : String) : Permitted permits fun exec => runLine exec line := by
  unfold runLine
  cases Word.split line with
  | nil => exact .pure ()
  | cons name args =>
    exact .ite (.pure ()) (.bind (permitted_expandCall name args) fun call => .call call.1 call.2)

/-! ### Scripts -/

/-- Reading a file. -/
lemma plain_readFile (path : String) : (readFile path).Plain := by
  refine .of_unchanged (fun s => (readFile_unchanged path s).1) (fun s hs => ?_) fun s limit => ?_
  · have htold := FileTree.isSome_readText? hs path
    unfold readFile
    rcases hread : s.files.readText? path with _ | _ | text
    · rw [hread] at htold
      cases htold
    all_goals rfl
  · have hsame : (s.withLimit limit).files = s.files := rfl
    unfold readFile
    rw [hsame]
    rcases s.files.readText? path with _ | _ | text <;> rfl

/-- Listing the scripts of a directory. -/
lemma plain_scriptFiles (dir : String) : (scriptFiles dir).Plain := by
  refine .of_unchanged (fun s => (scriptFiles_unchanged dir s).1) (fun s hs => ?_) fun s limit => ?_
  · have htold := FileTree.isSome_fileNames? hs dir
    unfold scriptFiles
    rcases hlist : s.files.fileNames? dir with _ | _ | names
    · rw [hlist] at htold
      cases htold
    all_goals rfl
  · have hsame : (s.withLimit limit).files = s.files := rfl
    unfold scriptFiles
    rw [hsame]
    rcases s.files.fileNames? dir with _ | _ | names <;> rfl

/-- Lines one after the other. -/
lemma permitted_runLines (lines : List String) :
    Permitted permits fun exec => runLines exec lines := by
  induction lines with
  | nil => exact .pure ()
  | cons line rest ih =>
    refine .look (fun _ _ _ => rfl) fun s => ?_
    exact .ite (.bind (permitted_runLine line) fun _ => ih) (.pure ())

/-- The lines of a script. -/
lemma permitted_runScript (text : String) : Permitted permits fun exec => runScript exec text :=
  permitted_runLines (Text.lines text)

/-- A line under supervision. -/
lemma permitted_superviseLine (hpermits : permits .containment) (line : String) :
    Permitted permits fun exec => superviseLine exec line :=
  .supervised hpermits _ (permitted_runLine line)

/-- Lines, each of them under supervision. -/
lemma permitted_superviseLines (hpermits : permits .containment) (origin : String) (number : Nat)
    (lines : List String) :
    Permitted permits fun exec => superviseLines exec origin number lines := by
  induction lines generalizing number with
  | nil => exact .pure true
  | cons line rest ih =>
    refine .look (fun _ _ _ => rfl) fun s => .ite ?_ (.pure true)
    refine .bind (.supervised hpermits _ (permitted_runLine line)) fun ok => ?_
    exact .ite (ih (number + 1)) (.pure false)

/-- The lines of a script, each of them under supervision. -/
lemma permitted_superviseScript (hpermits : permits .containment) (origin text : String) :
    Permitted permits fun exec => superviseScript exec origin text :=
  permitted_superviseLines hpermits origin 1 (Text.lines text)

/-- A script in a temporary scope of its own. -/
lemma permitted_runScriptCommand (text : String) (args : List String) :
    Permitted permits fun exec => runScriptCommand exec text args := by
  refine .look (fun _ _ _ => rfl) fun s => .ite (.fail _) (.temporaryScope ?_)
  refine .bind (.plain (.modify (fun s => ?_) fun _ _ => rfl)) fun _ => permitted_runScript text
  obtain ⟨f, hf⟩ := exists_bindPositional_eq s.scopes args
  rw [hf]
  exact (Session.change_scopes (.active s.scopes f)).turn rfl rfl rfl rfl

/-- A script file made into a command. -/
lemma permitted_loadScript (path : String) (name : Option String) :
    Permitted permits fun _ => loadScript path name := by
  refine .bind (.plain (plain_readFile path)) fun text => ?_
  cases name.or (Path.stem? path) with
  | none => exact .fail _
  | some name => exact .pure _

/-- The scripts of a directory made into one command. -/
lemma permitted_compileDirectory (dir name : String) :
    Permitted permits fun _ => compileDirectory dir name := by
  refine .bind (.plain (plain_scriptFiles dir)) fun paths => ?_
  cases paths with
  | nil => exact .fail _
  | cons path rest =>
    have hread : ∀ path, Permitted permits fun _ => readFile path :=
      fun path => .plain (plain_readFile path)
    exact .bind (.mapM hread _) fun texts => .pure _

/-- Scripts put into a package. -/
lemma permitted_registerScripts (package : Package) (paths : List String) :
    Permitted permits fun _ => discoverPackages.registerScripts package paths := by
  induction paths generalizing package with
  | nil => exact .pure package
  | cons path rest ih =>
    exact .bind (permitted_loadScript path none) fun loaded => .bind (.ofExcept _) ih

/-- The scripts of a directory made into a package. -/
lemma permitted_discoverPackages (dir : String) :
    Permitted permits fun _ => discoverPackages dir := by
  refine .bind (.plain (plain_scriptFiles dir)) fun paths => ?_
  cases paths with
  | nil => exact .pure []
  | cons path rest => exact .bind (permitted_registerScripts _ _) fun commands => .pure _

/-- Adding a package does not depend on the limit. -/
lemma addPackage_withLimit (package : Package) (s : Session) (limit : Nat) :
    (s.withLimit limit).addPackage package = (s.addPackage package).map (·.withLimit limit) := by
  unfold Session.addPackage
  split <;> rfl

/-- Adding a package that can be made. -/
lemma plain_addPackage {package : Package} (hmade : package.Made) :
    (addPackage package).Plain := by
  rw [addPackage_eq]
  refine .attempt (fun s t hadd => ?_) (addPackage_withLimit package)
  have hstocks := Session.Stocks.addPackage (.inl hmade) hadd
  rw [Session.addPackage_eq_ok hadd] at hstocks ⊢
  exact hstocks.turn ⟨rfl, rfl, rfl, rfl⟩ rfl rfl

/-- Adding such packages one after the other. -/
lemma permitted_addPackages {packages : List Package} (hmade : ∀ package ∈ packages, package.Made) :
    Permitted permits fun _ => addPackages packages := by
  induction packages with
  | nil => exact .pure ()
  | cons package rest ih =>
    exact .bind (.plain (plain_addPackage (hmade package List.mem_cons_self))) fun _ =>
      ih fun p hmem => hmade p (List.mem_cons_of_mem _ hmem)

/-- The scripts of a directory added as a package. -/
lemma permitted_loadPackages (dir : String) : Permitted permits fun _ => loadPackages dir := by
  refine .sequence (permitted_discoverPackages dir) fun packages hreturn => ?_
  obtain ⟨_, s, t, hrun⟩ := hreturn
  exact .bind (permitted_addPackages (made_of_discoverPackages hrun)) fun _ => .pure _

/-- A command put among the custom ones. -/
lemma plain_registerCustom (name : String) (command : Command) :
    (registerCustom name command).Plain := by
  rw [registerCustom_eq]
  refine .attempt (fun s t h => ?_) fun s limit => ?_
  · obtain ⟨packages, hpackages, ht⟩ := exists_of_bind_eq_ok h
    cases ht
    exact (Session.Stocks.single (.registered hpackages)).turn ⟨rfl, rfl, rfl, rfl⟩ rfl rfl
  · have hsame : (s.withLimit limit).packages = s.packages := rfl
    rw [hsame]
    cases s.packages.registerCustom name command <;> rfl

end Routine

end LineShell
