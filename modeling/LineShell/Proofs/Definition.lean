import LineShell.Proofs.Congruence.Interpreter
import LineShell.Proofs.Passes

/-!
# Lines that define macros

The commands that define and remove macros are called by lines that are expanded like all others, so
a macro might get in the way of its own removal, or one macro in the way of the definition of
another.  Nothing checks that this does not happen; it follows from how the passes work together.
The first pass puts the reserved name in an ignore span, and the name of the macro is put in one
before; the other passes copy both spans; and in the end exactly these two are stripped, whether
markers are stripped or not.  So the two names come through every expansion, and the rest of the
line is expanded as if they were not there (`Engine.expandCall_definition`).

What is expanded may call commands.  They bring in aliases, scripts and packages, but never touch
the native package (`Session.congruence_native`), and so the reserved name stands for the built-in
command also after the expansion.
-/

namespace LineShell

/-! ### Reserved names -/

namespace Marked

variable {name : List Char}

/-- A reserved name is live text, and holds no end marker. -/
lemma occurs_of_mem_reservedNames (h : name ∈ reservedNames) :
    Text.occurs startMarker name = false ∧ Text.occurs endMarker name = false := by
  simp only [reservedNames, List.mem_cons, List.not_mem_nil, or_false] at h
  rcases h with rfl | rfl | rfl | rfl <;> decide

/-- The reserved name with which a text begins: none of them begins with another. -/
lemma firstName?_of_mem_reservedNames (h : name ∈ reservedNames) (rest : List Char) :
    firstName? reservedNames (name ++ rest) = some (name, rest) := by
  simp only [reservedNames, List.mem_cons, List.not_mem_nil, or_false] at h
  rcases h with rfl | rfl | rfl | rfl <;> rfl

/-- What is masked in a text, by what stands at its beginning. -/
lemma mask_eq (macroNames : List (List Char)) (cs : List Char) :
    mask macroNames cs = match firstName? reservedNames cs with
      | some (name, rest) => ignoreChars name ++ mask macroNames rest
      | none =>
        match Text.after? suppressMarker cs with
        | some after =>
          match firstName? macroNames after with
          | some (name, rest) => ignoreChars name ++ mask macroNames rest
          | none => suppressMarker ++ mask macroNames after
        | none =>
          match cs with
          | [] => []
          | c :: rest => c :: mask macroNames rest := by
  rw [mask]
  split
  · simp_all
  · split
    · split <;> simp_all
    · cases cs <;> simp_all

/-- A reserved name is masked as a whole, whatever macros there are. -/
lemma mask_of_mem_reservedNames (h : name ∈ reservedNames) (macroNames : List (List Char)) :
    mask macroNames name = ignoreChars name := by
  have hfirst := firstName?_of_mem_reservedNames h []
  have hempty : mask macroNames [] = [] := by
    rw [mask_eq]
    rfl
  rw [List.append_nil] at hfirst
  rw [mask_eq, hfirst]
  dsimp only
  rw [hempty, List.append_nil]

end Marked

/-- The name of a macro holds no end marker. -/
lemma Macro.occurs_endMarker_of_checkName {name : String} (h : Macro.checkName name = .ok ()) :
    Text.occurs Marked.endMarker name.toList = false := by
  unfold Macro.checkName at h
  cases hfault : Macro.nameFault? name with
  | some fault => simp [hfault] at h
  | none =>
    unfold Macro.nameFault? at hfault
    dsimp only at hfault
    split at hfault
    · cases hfault
    · split at hfault
      · cases hfault
      · split at hfault
        · cases hfault
        · next hmarkers =>
          rw [Bool.or_eq_true, Bool.or_eq_true, not_or, not_or] at hmarkers
          simpa using hmarkers.1.2

/-! ### The two names come through the passes -/

namespace Engine

variable {exec : Exec} {s t : Session} {name : String}

/-- The first pass puts a reserved name in an ignore span. -/
lemma applyPass_builtin_of_reserved (exec : Exec) {cs : List Char}
    (h : cs ∈ Marked.reservedNames) :
    applyPass exec .builtin cs = pure (Marked.ignoreChars cs) := by
  have hsegments : Marked.segments cs = [.live cs] := by
    rw [Marked.segments_of_not_occurs (Marked.occurs_of_mem_reservedNames h).1, Marked.liveSegment,
      if_neg]
    intro hempty
    have hpos := Marked.length_pos_of_mem_reservedNames h
    rw [List.isEmpty_iff.1 hempty] at hpos
    exact absurd hpos (by decide)
  rw [applyPass_eq exec (by simp [passes_standard])]
  simp only [hsegments, rewriteSegments, rewriteLive, Marked.mask_of_mem_reservedNames h]
  funext s
  change (Outcome.done (Marked.ignoreChars cs ++ []), s) = (.done (Marked.ignoreChars cs), s)
  rw [List.append_nil]

/-- Texts in ignore spans come through the passes, and those after them are expanded as if they were
alone. -/
lemma applyPasses_ignoreChars_append (exec : Exec) {passes : List Pass}
    (hpasses : passes ⊆ Pipeline.standard.passes) {words : List (List Char)}
    (hwords : ∀ w ∈ words, Text.occurs Marked.endMarker w = false)
    (others : List (List Char)) :
    applyPasses exec passes (words.map Marked.ignoreChars ++ others) =
      (words.map Marked.ignoreChars ++ ·) <$> applyPasses exec passes others := by
  induction passes generalizing others with
  | nil => rfl
  | cons pass rest ih =>
    have hpass : (words.map Marked.ignoreChars).mapM (applyPass exec pass) =
        pure (words.map Marked.ignoreChars) := by
      refine mapM_eq_pure fun text htext => ?_
      obtain ⟨w, hw, rfl⟩ := List.mem_map.1 htext
      exact applyPass_ignoreChars exec (hpasses List.mem_cons_self) (hwords w hw)
    have hrest := ih fun other hother => hpasses (List.mem_cons_of_mem pass hother)
    simp only [applyPasses, List.mapM_append, hpass, pure_bind, bind_assoc, hrest, map_bind]

/-- A reserved name and the name of a macro in an ignore span come through the passes, in two ignore
spans. -/
lemma applyPasses_definition (exec : Exec) {cs n : List Char} (hcs : cs ∈ Marked.reservedNames)
    (hn : Text.occurs Marked.endMarker n = false) (others : List (List Char)) :
    applyPasses exec Pipeline.standard.passes (cs :: Marked.ignoreChars n :: others) =
      (Marked.ignoreChars cs :: Marked.ignoreChars n :: ·) <$>
        applyPasses exec Pipeline.standard.passes others := by
  have hwords : ∀ w ∈ [cs, n], Text.occurs Marked.endMarker w = false := by
    intro w hw
    rcases List.mem_pair.1 hw with rfl | rfl
    · exact (Marked.occurs_of_mem_reservedNames hcs).2
    · exact hn
  have hbuiltin : Pass.builtin ∈ Pipeline.standard.passes := by simp [passes_standard]
  have hothers : [.macros, .variables, .memory] ⊆ Pipeline.standard.passes := by
    simp [passes_standard]
  have hrest : ∀ texts, applyPasses exec [.macros, .variables, .memory]
      (Marked.ignoreChars cs :: Marked.ignoreChars n :: texts) =
        (Marked.ignoreChars cs :: Marked.ignoreChars n :: ·) <$>
          applyPasses exec [.macros, .variables, .memory] texts :=
    applyPasses_ignoreChars_append exec hothers hwords
  -- only the first pass changes anything about the two names
  rw [passes_standard, applyPasses, applyPasses]
  simp only [List.mapM_cons, applyPass_builtin_of_reserved exec hcs,
    applyPass_ignoreChars exec hbuiltin hn, pure_bind, bind_assoc, hrest, map_bind]

/-- A line that defines or removes a macro is expanded to a line with the same two names, and the
texts after them are expanded as if they were alone. -/
theorem expandCall_definition (exec : Exec) (hpipeline : s.pipeline = .standard)
    (hname : Marked.isReserved name = true) {macroName : String}
    (hvalid : Text.occurs Marked.endMarker macroName.toList = false) (rest : List String) :
    expandCall exec name (macroName :: rest) s =
      Engine.bind (applyPasses exec Pipeline.standard.passes (rest.map String.toList))
        (fun others => do
          let shown := if (← get).stripMarkers then others.map Marked.stripChars else others
          return (name, macroName :: shown.map String.ofList)) s := by
  have hmem : name.toList ∈ Marked.reservedNames := List.contains_iff_mem.1 hname
  have hstripName : Marked.stripChars (Marked.ignoreChars name.toList) = name.toList :=
    Marked.stripChars_ignoreChars (Marked.occurs_of_mem_reservedNames hmem).2
  have hpasses := applyPasses_definition exec hmem hvalid (rest.map String.toList)
  unfold expandCall
  change Engine.bind get _ s = _
  simp only [Engine.bind, get, hname, if_true, ignoreFirst, List.map_cons, hpipeline, hpasses]
  change Engine.bind (Engine.bind _ _) _ s = _
  simp only [Engine.bind]
  rcases applyPasses exec Pipeline.standard.passes (rest.map String.toList) s with
    ⟨others | e | p | r, t⟩
  · change Engine.bind get _ t = Engine.bind get _ t
    simp only [Engine.bind, get, stripArguments, if_true, hstripName, String.ofList_toList]
    by_cases hstrip : t.stripMarkers = true
    · simp [hstrip, Marked.stripChars_ignoreChars hvalid]
    · simp [hstrip, Marked.stripChars_ignoreChars hvalid]
  all_goals rfl

/-- If it is expanded, the two names come out as they were. -/
lemma eq_of_expandCall_definition (hpipeline : s.pipeline = .standard)
    (hname : Marked.isReserved name = true) {macroName : String}
    (hvalid : Text.occurs Marked.endMarker macroName.toList = false) {rest args : List String}
    {name' : String} (h : expandCall exec name (macroName :: rest) s = (.done (name', args), t)) :
    name' = name ∧ ∃ others, args = macroName :: others := by
  rw [expandCall_definition exec hpipeline hname hvalid] at h
  obtain ⟨others, u, -, hlast⟩ := Routine.exists_of_bind_eq_done h
  cases hlast
  exact ⟨rfl, _, rfl⟩

/-- Without further texts the line is left as it is. -/
lemma expandCall_definition_nil (exec : Exec) (hpipeline : s.pipeline = .standard)
    (hname : Marked.isReserved name = true) {macroName : String}
    (hvalid : Text.occurs Marked.endMarker macroName.toList = false) :
    expandCall exec name [macroName] s = (.done (name, [macroName]), s) := by
  have hnothing : applyPasses exec Pipeline.standard.passes [] = pure [] := by
    simp only [passes_standard, applyPasses, List.mapM_nil, pure_bind]
  rw [expandCall_definition exec hpipeline hname hvalid, List.map_nil, hnothing]
  change (Outcome.done (name, macroName :: (if s.stripMarkers then [] else []).map _), s) = _
  rw [ite_self]
  rfl

/-- A line that begins with a reserved name is not a comment. -/
lemma beginsWith_commentStart_of_reserved (hname : Marked.isReserved name = true) :
    Text.beginsWith name commentStart = false := by
  have hall : ∀ cs ∈ Marked.reservedNames,
      (Text.after? commentStart.toList cs).isSome = false := by decide
  exact hall _ (List.contains_iff_mem.1 hname)

end Engine

/-! ### Standard sessions -/

namespace Session

variable {s t : Session}

/-- A session with the passes of the interpreter and its own built-in commands.  The macros, the
variables, the stacks, the other packages and the settings are arbitrary.  Every session that is
built is standard (`Standard.build`), and lines leave it so (`Standard.runLine`). -/
structure Standard (s : Session) : Prop where
  pipeline : s.pipeline = .standard
  native : s.packages.native = nativePackage

/-- To agree and to have a given native package is a congruence. -/
lemma congruence_native (native : Package) :
    Congruence fun s t => s.Agrees t ∧ s.packages.native = native where
  agrees h := h.1
  written hst hsu htv := by
    refine ⟨congruence_agrees.written hst.1 hsu htv, ?_⟩
    obtain ⟨_, _, _, _⟩ := hsu
    exact hst.2
  memory memory h := ⟨congruence_agrees.memory memory h.1, h.2⟩
  scopes scopes h := ⟨congruence_agrees.scopes scopes h.1, h.2⟩
  macros macros h := ⟨congruence_agrees.macros macros h.1, h.2⟩
  depth depth h := ⟨congruence_agrees.depth depth h.1, h.2⟩
  running running h := ⟨congruence_agrees.running running h.1, h.2⟩
  jobs jobs h := ⟨congruence_agrees.jobs jobs h.1, h.2⟩
  custom custom h := ⟨congruence_agrees.custom custom h.1, h.2⟩
  loaded loaded h := ⟨congruence_agrees.loaded loaded h.1, h.2⟩

/-- Packages of the host leave a session standard. -/
lemma Standard.addPackages {packages : List Package} (hs : s.Standard)
    (h : s.addPackages packages = .ok t) : t.Standard := by
  induction packages generalizing s with
  | nil =>
    cases h
    exact hs
  | cons package rest ih =>
    obtain ⟨next, hnext, hrest⟩ := exists_of_bind_eq_ok h
    refine ih ?_ hrest
    unfold addPackage at hnext
    split at hnext
    · cases hnext
    · cases hnext
      exact ⟨hs.pipeline, hs.native⟩

/-- So do its macros. -/
lemma Standard.defineMacros {macros : List (String × Macro)} (hs : s.Standard)
    (h : macros.foldlM (fun s (name, body) => s.defineMacro name body) s = .ok t) :
    t.Standard := by
  induction macros generalizing s with
  | nil =>
    cases h
    exact hs
  | cons entry rest ih =>
    rw [List.foldlM_cons] at h
    obtain ⟨next, hnext, hrest⟩ := exists_of_bind_eq_ok h
    refine ih ?_ hrest
    obtain ⟨_, -, hdefined⟩ := exists_of_bind_eq_ok hnext
    cases hdefined
    exact ⟨hs.pipeline, hs.native⟩

/-- A session that is built is standard. -/
lemma Standard.build {options : SessionOptions} {registry : Registry} {files : FileTree}
    {packages : List Package} {macros : List (String × Macro)}
    (h : Session.build options registry files packages macros = .ok s) : s.Standard := by
  obtain ⟨added, hadded, hmacros⟩ := exists_of_bind_eq_ok h
  have hstart : (Session.start options registry files).Standard := ⟨rfl, rfl⟩
  exact (hstart.addPackages hadded).defineMacros hmacros

/-- A regular routine that respects congruences leads from a standard session to a standard one. -/
lemma Standard.run {α : Type} {routine : Routine α} (hregular : routine.Regular True) {fuel : Nat}
    (hrespects : ∀ R, Congruence R → (routine (Engine.execute fuel)).Respects R)
    (h : s.Standard) : (routine (Engine.execute fuel) s).2.Standard := by
  have hsetup := congrArg Setup.pipeline (hregular.setup_eq fuel s)
  obtain ⟨-, -, hnative⟩ := hrespects _ (congruence_native nativePackage) s s ⟨.refl s, h.native⟩
  exact ⟨hsetup.trans h.pipeline, hnative⟩

/-- Lines lead from a standard session to standard ones. -/
lemma Standard.runLine (h : s.Standard) (fuel : Nat) (line : String) :
    (Engine.runLine (Engine.execute fuel) line s).2.Standard :=
  h.run (Routine.regular_runLine line) fun _ hR =>
    Engine.respects_runLine hR (Engine.respects_execute hR fuel) line

/-- So does the expansion of a line. -/
lemma Standard.expandCall (h : s.Standard) (fuel : Nat) (name : String) (args : List String) :
    (Engine.expandCall (Engine.execute fuel) name args s).2.Standard :=
  h.run (Routine.regular_expandCall name args) fun _ hR =>
    Engine.respects_expandCall hR (Engine.respects_execute hR fuel) name args

/-- In the native package, the commands that define macros and aliases stand under their names. -/
lemma find?_macroCommands {name : String} {command : Command}
    (h : (name, command) ∈ Builtin.macroCommands) :
    nativePackage.commands.find? name = some command := by
  have hall : ∀ entry ∈ Builtin.macroCommands,
      nativePackage.commands.find? entry.1 = some entry.2 := by
    decide +kernel
  exact hall _ h

/-- In a standard session they are what their names stand for. -/
lemma Standard.resolve?_eq (h : s.Standard) {name : String} {command : Command}
    (hcommand : (name, command) ∈ Builtin.macroCommands) :
    s.packages.resolve? name = some (nativePackage, command) := by
  rw [← h.native]
  apply PackageSet.resolve?_of_native
  rw [h.native]
  exact find?_macroCommands hcommand

/-- A reserved name is the name of one of these commands. -/
lemma exists_mem_macroCommands {name : String} (h : Marked.isReserved name = true) :
    ∃ command, (name, command) ∈ Builtin.macroCommands := by
  have hname : ∀ reserved : String, name.toList = reserved.toList → name = reserved :=
    fun _ => String.toList_inj.1
  simp only [Marked.isReserved, Marked.reservedNames, List.contains_iff_mem, List.mem_cons,
    List.not_mem_nil, or_false] at h
  rcases h with h | h | h | h
  all_goals
    rw [hname _ h]
    simp [Builtin.macroCommands]

end Session

/-! ### What the lines do -/

/-- Where no kinds are declared, texts are arguments as they are. -/
lemma Command.coerceFrom_nil (name : String) (position : Nat) (raw : List String) :
    coerceFrom name position [] raw = .ok (raw.map .text) := by
  induction raw generalizing position with
  | nil => rfl
  | cons value rest ih =>
    simp only [coerceFrom, List.headD_nil, Kind.coerce, List.tail_nil, ih (position + 1)]
    rfl

/-- Texts are arguments of a command that declares no kinds. -/
lemma Command.coerceAll_of_kinds_eq_nil {command : Command} (h : command.kinds = [])
    (name : String) (raw : List String) :
    command.coerceAll name raw = .ok ⟨name, raw.map .text⟩ := by
  rw [coerceAll, h, coerceFrom_nil]
  rfl

/-- The macro that the call of a command with these texts after the name of the macro defines. -/
def Macro.ofDefinition? : String → List String → Option Macro
  | "#define", texts => some (.text (Text.unwords texts))
  | "#call", target :: args => some (.call target args)
  | "#action", target :: args => some (.action target args)
  | _, _ => none

namespace Engine

variable {s t : Session} {macroName : String}

/-- A call of a command that defines or removes macros, below the limit on calls and with an
accepted number of arguments, runs that command on the texts it is given. -/
lemma execute_macroCommand (fuel : Nat) (hs : s.Standard) (hdepth : s.depth < s.maxDepth)
    {name : String} {command : Command} (hcommand : (name, command) ∈ Builtin.macroCommands)
    {kind : MacroCommand} (hbody : command.body = .builtin (.macros kind)) {args : List String}
    (harity : command.checkArity name args.length = .ok ()) {macros : NameMap Macro}
    (hrun : Builtin.runMacros kind ⟨name, args.map .text⟩ { s with depth := s.depth + 1 } =
      (.done (), { s with depth := s.depth + 1, macros })) :
    execute (fuel + 1) name args s = (.done (), { s with macros }) := by
  have hkinds : command.kinds = [] := by
    have hall : ∀ entry ∈ Builtin.macroCommands, entry.2.kinds = [] := by decide
    exact hall _ hcommand
  have hresolve : resolveCall s name args =
      .ok (nativePackage, command, ⟨name, args.map .text⟩) := by
    unfold resolveCall
    rw [hs.resolve?_eq hcommand]
    simp only [harity, Command.coerceAll_of_kinds_eq_nil hkinds, Nat.not_le.2 hdepth, if_false]
    rfl
  change dispatch fuel (execute fuel) name args s = _
  unfold dispatch Host.dispatch
  rw [hresolve]
  dsimp only
  rw [hbody]
  change Engine.bind (cleanup (Engine.bind (Builtin.runMacros kind _) _) _) _ _ = _
  simp only [Engine.bind, cleanup, hrun]
  rfl

/-- A macro is defined, in place of one of the same name. -/
lemma execute_defining (fuel : Nat) (hs : s.Standard) (hdepth : s.depth < s.maxDepth)
    (hvalid : Macro.checkName macroName = .ok ()) {name : String} {texts : List String}
    {body : Macro} (hbody : Macro.ofDefinition? name texts = some body) :
    execute (fuel + 1) name (macroName :: texts) s =
      (.done (), { s with macros := s.macros.insert macroName body }) := by
  have hdefine : ∀ u : Session, Engine.defineMacro macroName body u =
      (.done (), { u with macros := u.macros.insert macroName body }) := by
    intro u
    rw [Engine.defineMacro, hvalid]
    rfl
  have htexts : ∀ texts : List String, (texts.map Argument.text).map Argument.display = texts := by
    intro texts
    rw [List.map_map]
    exact List.map_id texts
  unfold Macro.ofDefinition? at hbody
  split at hbody
  · cases hbody
    have hrun : Builtin.runMacros .define ⟨"#define", (macroName :: texts).map .text⟩ =
        Engine.defineMacro macroName
          (.text (Text.unwords ((texts.map Argument.text).map Argument.display))) := rfl
    rw [htexts] at hrun
    refine execute_macroCommand fuel hs hdepth (.head _) rfl ?_ ?_
    · simp [Command.checkArity]
    · rw [hrun, hdefine]
  · next target args =>
    cases hbody
    have hrun : Builtin.runMacros .call ⟨"#call", (macroName :: target :: args).map .text⟩ =
        Engine.defineMacro macroName
          (.call target ((args.map Argument.text).map Argument.display)) := rfl
    rw [htexts] at hrun
    refine execute_macroCommand fuel hs hdepth (.tail _ (.head _)) rfl ?_ ?_
    · simp [Command.checkArity]
    · rw [hrun, hdefine]
  · next target args =>
    cases hbody
    have hrun : Builtin.runMacros .action ⟨"#action", (macroName :: target :: args).map .text⟩ =
        Engine.defineMacro macroName
          (.action target ((args.map Argument.text).map Argument.display)) := rfl
    rw [htexts] at hrun
    refine execute_macroCommand fuel hs hdepth (.tail _ (.tail _ (.head _))) rfl ?_ ?_
    · simp [Command.checkArity]
    · rw [hrun, hdefine]
  · cases hbody

/-- A macro that is there is removed. -/
lemma execute_undefine (fuel : Nat) (hs : s.Standard) (hdepth : s.depth < s.maxDepth)
    (hdefined : s.macros.contains macroName = true) :
    execute (fuel + 1) "#undef" [macroName] s =
      (.done (), { s with macros := s.macros.erase macroName }) := by
  refine execute_macroCommand fuel hs hdepth (.tail _ (.tail _ (.tail _ (.head _)))) rfl rfl ?_
  have hrun : ∀ u : Session, u.macros.contains macroName = true →
      Builtin.runMacros .undefine ⟨"#undef", [macroName].map .text⟩ u =
        (.done (), { u with macros := u.macros.erase macroName }) := by
    intro u hu
    have htext : Arguments.text ⟨"#undef", [macroName].map .text⟩ 0 = pure macroName := rfl
    have hfound : Engine.undefineMacro macroName u =
        (.done true, { u with macros := u.macros.erase macroName }) := by
      simp only [Engine.undefineMacro, Engine.update, Session.undefineMacro, hu]
    simp only [Builtin.runMacros, htext]
    exact (bind_of_done rfl _).trans (bind_of_done hfound _)
  exact hrun _ hdefined

/-- An expansion that succeeds leaves room for as many calls as there was. -/
lemma room_of_expandCall (hroom : s.depth < s.maxDepth) {fuel : Nat} {name : String}
    {args : List String} {expanded : String × List String}
    (h : expandCall (execute fuel) name args s = (.done expanded, t)) : t.depth < t.maxDepth := by
  have hregular : Routine.Regular True fun exec => expandCall exec name args :=
    Routine.regular_expandCall name args
  have hdepth := hregular.satisfies rule_depth (rule_execute rule_depth fuel) s
  have hlimit := Session.maxDepth_of_setup (hregular.setup_eq fuel s)
  rw [h] at hdepth hlimit
  rw [hdepth rfl, hlimit]
  exact hroom

/-- A line that is not a comment is expanded and its command called. -/
lemma runLine_of_expandCall {exec : Exec} {line name : String} {args : List String}
    (hline : Word.split line = name :: args) (hcomment : Text.beginsWith name commentStart = false)
    {expanded : String × List String} (h : expandCall exec name args s = (.done expanded, t)) :
    runLine exec line s = exec expanded.1 expanded.2 t := by
  unfold runLine
  rw [hline]
  dsimp only
  rw [hcomment]
  change Engine.bind (expandCall exec name args) _ s = _
  rw [Engine.bind, h]

/-- In every standard session, whatever macros, variables and stacks there are, and whether markers
are stripped or not: if a line that begins with a reserved name and a name that a macro can have is
expanded, then these two come out as they were, and the reserved name then stands for the built-in
command.  So a macro can be redefined and removed under its own name: without further texts the line
is left as it is, a line that defines puts the new macro in place of the old one, and a line that
removes takes it away. -/
theorem definition_expands_to_itself (hs : s.Standard) (fuel : Nat) {name : String}
    (hname : Marked.isReserved name = true) (hvalid : Macro.checkName macroName = .ok ()) :
    (∀ rest name' args t,
      expandCall (execute fuel) name (macroName :: rest) s = (.done (name', args), t) →
        name' = name ∧ (∃ others, args = macroName :: others) ∧
          ∃ command, (name, command) ∈ Builtin.macroCommands ∧
            t.packages.resolve? name = some (nativePackage, command)) ∧
    expandCall (execute fuel) name [macroName] s = (.done (name, [macroName]), s) ∧
    (s.depth < s.maxDepth →
      (∀ line rest texts body t, Word.split line = name :: macroName :: rest →
        expandCall (execute (fuel + 1)) name (macroName :: rest) s =
          (.done (name, macroName :: texts), t) →
        Macro.ofDefinition? name texts = some body →
        runLine (execute (fuel + 1)) line s =
          (.done (), { t with macros := t.macros.insert macroName body })) ∧
      ∀ line, Word.split line = ["#undef", macroName] → s.macros.contains macroName = true →
        runLine (execute (fuel + 1)) line s =
          (.done (), { s with macros := s.macros.erase macroName })) := by
  have hmarker := Macro.occurs_endMarker_of_checkName hvalid
  refine ⟨fun rest name' args t h => ?_, ?_, fun hroom => ⟨?_, ?_⟩⟩
  · have ht := hs.expandCall fuel name (macroName :: rest)
    rw [h] at ht
    obtain ⟨hsame, hfirst⟩ := eq_of_expandCall_definition hs.pipeline hname hmarker h
    obtain ⟨command, hcommand⟩ := Session.exists_mem_macroCommands hname
    exact ⟨hsame, hfirst, command, hcommand, ht.resolve?_eq hcommand⟩
  · exact expandCall_definition_nil _ hs.pipeline hname hmarker
  · intro line rest texts body t hline hexpand hbody
    have hstandard := hs.expandCall (fuel + 1) name (macroName :: rest)
    rw [hexpand] at hstandard
    rw [runLine_of_expandCall hline (beginsWith_commentStart_of_reserved hname) hexpand]
    exact execute_defining fuel hstandard (room_of_expandCall hroom hexpand) hvalid hbody
  · intro line hline hdefined
    have hundef : Marked.isReserved "#undef" = true := by decide
    have hexpand := expandCall_definition_nil (execute (fuel + 1)) hs.pipeline hundef hmarker
    rw [runLine_of_expandCall hline (beginsWith_commentStart_of_reserved hundef) hexpand]
    exact execute_undefine fuel hs hroom hdefined

/-- A macro that stands for a part of the command by which it is removed, next to one that occurs in
both, is removed. -/
theorem undefine_of_overlapping_macros :
    let macros : NameMap Macro :=
      .ofList [("undef", .text "define"), ("de", .text "]#"), ("f", .action "quit" [])]
    let s := { Session.start {} standardRegistry .empty with macros }
    let ended := runLine (execute 1) (Word.quotedLine ["#undef", "undef"]) s
    ended.1 = .done () ∧ ended.2.macros.names = ["de", "f"] := by
  intro macros s ended
  have hs : s.Standard := ⟨rfl, rfl⟩
  have hline : Word.split (Word.quotedLine ["#undef", "undef"]) = ["#undef", "undef"] :=
    (Word.split_quotedLine_eq _).2 (by decide)
  have hundef : Marked.isReserved "#undef" = true := by decide
  have hvalid : Macro.checkName "undef" = .ok () := by decide
  have hremoves := (definition_expands_to_itself hs 0 hundef hvalid).2.2 (by decide)
  have hended : ended = (.done (), { s with macros := s.macros.erase "undef" }) :=
    hremoves.2 _ hline (by decide)
  rw [hended]
  exact ⟨rfl, by decide⟩

end Engine

end LineShell
