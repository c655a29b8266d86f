import LineShell.Proofs.Congruence

/-!
# Lines and scripts respect congruences

Expanding a line, running it, running the lines of a script and making scripts into commands respect
every congruence that the calls of commands respect.  The order of the lemmas is that of the
definitions they are about.
-/

namespace LineShell.Engine

variable {α : Type} {R : Session → Session → Prop} {exec : Exec}

/-! ### Expanding a line -/

/-- Taking a value off the active stack. -/
lemma respects_popItem (hR : Session.Congruence R) : Respects R popItem := by
  intro s t h
  obtain ⟨_, _, _, _⟩ := hR.agrees h
  simp only [popItem]
  cases s.memory.pop with
  | error e => exact ⟨rfl, h⟩
  | ok popped => exact ⟨rfl, hR.memory _ h⟩

/-- What a probe does. -/
lemma respects_runProbe (hR : Session.Congruence R) (probe : Probe) :
    (runProbe probe).Respects R := by
  cases probe with
  | frameCount => exact .get_bind hR (fun _ _ ⟨_, _, _, _⟩ => rfl) fun _ => .pure _
  | itemCount => exact .get_bind hR (fun _ _ ⟨_, _, _, _⟩ => rfl) fun _ => .pure _
  | callDepth => exact .get_bind hR (fun _ _ ⟨_, _, _, _⟩ => rfl) fun _ => .pure _
  | popItem => exact .bind (respects_popItem hR) fun _ => .pure _
  | failure message => exact .fail _

/-- What the standard host is asked for. -/
lemma respects_runCallback (hR : Session.Congruence R) (callback : Callback) :
    (runCallback callback).Respects R := by
  cases callback with
  | probe probe => exact respects_runProbe hR probe
  | pass pass text => exact .ofExcept _

/-- The text of a macro. -/
lemma respects_produce (hR : Session.Congruence R) (hexec : exec.Respects R) (name : String)
    (body : Macro) : (produce exec name body).Respects R := by
  cases body with
  | text value => exact .pure value
  | call command args =>
    simp only [produce, Routine.whenEmpty_eq_handle]
    refine .handle (.isolated hR ?_) fun e => .fail _
    exact .bind (hexec.command command args) fun _ => .bind (respects_popItem hR) fun item => .pure _
  | action command args => exact .bind (hexec.command command args) fun _ => .pure _
  | probe probe => exact hexec.callback (.probe probe)

/-- Live text with its macros replaced. -/
lemma respects_expandMacros (hR : Session.Congruence R) (hexec : exec.Respects R)
    (table : List (String × Macro)) (skip : Nat) (cs : List Char) :
    (expandMacros exec table skip cs).Respects R := by
  induction cs generalizing skip with
  | nil => exact .pure []
  | cons c rest ih =>
    cases skip with
    | succ skip => exact ih skip
    | zero =>
      simp only [expandMacros]
      cases firstEntry? table (c :: rest) with
      | none => exact .bind (ih 0) fun more => .pure _
      | some entry =>
        exact .bind (respects_produce hR hexec entry.1 entry.2) fun out =>
          .bind (ih (entry.1.length - 1)) fun more => .pure _

/-- A text with its live segments expanded. -/
lemma respects_mapLive {expand : List Char → Engine (List Char)}
    (h : ∀ text, (expand text).Respects R) (cs : List Char) :
    (Marked.mapLive expand cs).Respects R := by
  refine .bind (.mapM (fun segment => ?_) _) fun pieces => .pure _
  cases segment with
  | live text => exact h text
  | ignored body closed => exact .pure _

/-- One text expanded by one pass. -/
lemma respects_applyPass (hR : Session.Congruence R) (hexec : exec.Respects R) (pass : Pass)
    (cs : List Char) : (applyPass exec pass cs).Respects R := by
  refine .get_bind hR (fun _ _ ⟨_, _, _, _⟩ => rfl) fun u => ?_
  cases pass with
  | builtin => exact respects_mapLive (fun text => .pure _) cs
  | macros =>
    exact .ite (.pure cs)
      (respects_mapLive (fun text => respects_expandMacros hR hexec _ 0 text) cs)
  | «variables» => exact .ofExcept _
  | memory =>
    intro s t h
    obtain ⟨_, _, _, _⟩ := hR.agrees h
    dsimp only
    rcases Escape.expand s.memory.active cs with ⟨e | out, active⟩
    · exact ⟨rfl, hR.memory _ h⟩
    · exact ⟨rfl, hR.memory _ h⟩
  | custom pass => exact .bind (hexec.callback (.pass pass _)) fun out => .pure _

/-- The texts of a line expanded by the passes. -/
lemma respects_applyPasses (hR : Session.Congruence R) (hexec : exec.Respects R)
    (passes : List Pass) (texts : List (List Char)) :
    (applyPasses exec passes texts).Respects R := by
  induction passes generalizing texts with
  | nil => exact .pure texts
  | cons pass rest ih => exact .bind (.mapM (respects_applyPass hR hexec pass) texts) ih

/-- A command name and its arguments expanded. -/
lemma respects_expandCall (hR : Session.Congruence R) (hexec : exec.Respects R) (name : String)
    (args : List String) : (expandCall exec name args).Respects R := by
  refine .get_bind hR (fun _ _ ⟨_, _, _, _⟩ => rfl) fun s => ?_
  refine .bind (respects_applyPasses hR hexec _ _) fun texts => ?_
  cases texts with
  | nil => exact .pure _
  | cons first rest => exact .get_bind hR (fun _ _ ⟨_, _, _, _⟩ => rfl) fun t => .pure _

/-- A line. -/
lemma respects_runLine (hR : Session.Congruence R) (hexec : exec.Respects R) (line : String) :
    (runLine exec line).Respects R := by
  unfold runLine
  cases Word.split line with
  | nil => exact .pure ()
  | cons name args =>
    refine .ite (.pure ()) (.bind (respects_expandCall hR hexec name args) fun call => ?_)
    exact hexec.command call.1 call.2

/-! ### Scripts -/

/-- Reading a file. -/
lemma respects_readFile (hR : Session.Congruence R) (path : String) :
    (readFile path).Respects R := by
  refine .of_unchanged hR (fun s => (Routine.readFile_unchanged path s).1) ?_
  rintro s _ ⟨_, _, _, _⟩
  simp only [readFile]
  rcases s.files.readText? path with _ | _ | text
  all_goals rfl

/-- Listing the scripts of a directory. -/
lemma respects_scriptFiles (hR : Session.Congruence R) (dir : String) :
    (scriptFiles dir).Respects R := by
  refine .of_unchanged hR (fun s => (Routine.scriptFiles_unchanged dir s).1) ?_
  rintro s _ ⟨_, _, _, _⟩
  simp only [scriptFiles]
  rcases s.files.fileNames? dir with _ | _ | names
  all_goals rfl

/-- Lines one after the other. -/
lemma respects_runLines (hR : Session.Congruence R) (hexec : exec.Respects R)
    (lines : List String) : (runLines exec lines).Respects R := by
  induction lines with
  | nil => exact .pure ()
  | cons line rest ih =>
    refine .get_bind hR (fun _ _ ⟨_, _, _, _⟩ => rfl) fun s => ?_
    exact .ite (.bind (respects_runLine hR hexec line) fun _ => ih) (.pure ())

/-- The lines of a script. -/
lemma respects_runScript (hR : Session.Congruence R) (hexec : exec.Respects R) (text : String) :
    (runScript exec text).Respects R :=
  respects_runLines hR hexec (Text.lines text)

/-- A line under supervision. -/
lemma respects_superviseLine (hR : Session.Congruence R) (hexec : exec.Respects R) (line : String) :
    (superviseLine exec line).Respects R :=
  .supervised hR _ (respects_runLine hR hexec line)

/-- Lines, each of them under supervision. -/
lemma respects_superviseLines (hR : Session.Congruence R) (hexec : exec.Respects R)
    (origin : String) (number : Nat) (lines : List String) :
    (superviseLines exec origin number lines).Respects R := by
  induction lines generalizing number with
  | nil => exact .pure true
  | cons line rest ih =>
    refine .get_bind hR (fun _ _ ⟨_, _, _, _⟩ => rfl) fun s => .ite ?_ (.pure true)
    refine .bind (.supervised hR _ (respects_runLine hR hexec line)) fun ok => ?_
    exact .ite (ih (number + 1)) (.pure false)

/-- The lines of a script, each of them under supervision. -/
lemma respects_superviseScript (hR : Session.Congruence R) (hexec : exec.Respects R)
    (origin text : String) : (superviseScript exec origin text).Respects R :=
  respects_superviseLines hR hexec origin 1 (Text.lines text)

/-- A script in a temporary scope of its own. -/
lemma respects_runScriptCommand (hR : Session.Congruence R) (hexec : exec.Respects R)
    (text : String) (args : List String) : (runScriptCommand exec text args).Respects R := by
  refine .get_bind hR (fun _ _ ⟨_, _, _, _⟩ => rfl) fun s => .ite (.fail _) ?_
  refine .temporaryScope hR (.bind (.modify fun u v huv => ?_) fun _ =>
    respects_runScript hR hexec text)
  obtain ⟨_, _, _, _⟩ := hR.agrees huv
  exact hR.scopes _ huv

/-- A script file made into a command. -/
lemma respects_loadScript (hR : Session.Congruence R) (path : String) (name : Option String) :
    (loadScript path name).Respects R := by
  refine .bind (respects_readFile hR path) fun text => ?_
  cases name.or (Path.stem? path) with
  | none => exact .fail _
  | some name => exact .pure _

/-- The scripts of a directory made into one command. -/
lemma respects_compileDirectory (hR : Session.Congruence R) (dir name : String) :
    (compileDirectory dir name).Respects R := by
  refine .bind (respects_scriptFiles hR dir) fun paths => ?_
  cases paths with
  | nil => exact .fail _
  | cons path rest => exact .bind (.mapM (respects_readFile hR) _) fun texts => .pure _

/-- Scripts put into a package. -/
lemma respects_registerScripts (hR : Session.Congruence R) (package : Package)
    (paths : List String) : (discoverPackages.registerScripts package paths).Respects R := by
  induction paths generalizing package with
  | nil => exact .pure package
  | cons path rest ih =>
    exact .bind (respects_loadScript hR path none) fun loaded => .bind (.ofExcept _) ih

/-- The scripts of a directory made into a package. -/
lemma respects_discoverPackages (hR : Session.Congruence R) (dir : String) :
    (discoverPackages dir).Respects R := by
  refine .bind (respects_scriptFiles hR dir) fun paths => ?_
  cases paths with
  | nil => exact .pure []
  | cons path rest => exact .bind (respects_registerScripts hR _ _) fun commands => .pure _

/-- A package added. -/
lemma respects_addPackage (hR : Session.Congruence R) (package : Package) :
    (addPackage package).Respects R := by
  refine .bind (.refuseIf _ _) fun _ => .modify fun s t h => ?_
  obtain ⟨_, _, _, _⟩ := hR.agrees h
  exact hR.loaded _ h

/-- Packages added one after the other. -/
lemma respects_addPackages (hR : Session.Congruence R) (packages : List Package) :
    (addPackages packages).Respects R := by
  induction packages with
  | nil => exact .pure ()
  | cons package rest ih => exact .bind (respects_addPackage hR package) fun _ => ih

/-- The scripts of a directory added as a package. -/
lemma respects_loadPackages (hR : Session.Congruence R) (dir : String) :
    (loadPackages dir).Respects R := by
  refine .bind (respects_discoverPackages hR dir) fun packages => ?_
  exact .bind (respects_addPackages hR packages) fun _ => .pure _

/-- A command put among the custom ones. -/
lemma respects_registerCustom (hR : Session.Congruence R) (name : String) (command : Command) :
    (registerCustom name command).Respects R := by
  refine .bind (.ofExcept _) fun _ => .modify fun s t h => ?_
  obtain ⟨_, _, _, _⟩ := hR.agrees h
  exact hR.custom _ h

end LineShell.Engine
