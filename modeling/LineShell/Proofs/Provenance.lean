import LineShell.Proofs.Precedence
import LineShell.Proofs.Substitution
import LineShell.Shell

/-!
# Where the settings of a given file come from

Settings that are loaded from a given file depend on one file only, but this need not be the given
one: a file that the environment names is read in its place (`Settings.chosenFile`).  What comes of
it is determined by what is read there (`Settings.ofReading`) and by the values of the variables.

So what is loaded is determined by the given file just when that file fixes what is read of the
chosen one (`FileTree.Fixes`).  For the one direction, what was read has to be seen from what is
loaded.  Two texts may give the same settings, but a file that is no text gives a fault that no text
gives, and to put it in the place of the chosen file changes no other (`FileTree.exists_spoilt`).
-/

namespace LineShell

/-! ### Environments with the same values -/

/-- All variables have the same values. -/
def Environment.SameValues (env env' : Environment) : Prop :=
  ∀ name, env.value? name = env'.value? name

variable {env env' : Environment} {files : FileTree} {path given other : String}
  {fault : FileFault}

/-- References are replaced alike. -/
lemma Environment.SameValues.expand_eq (h : env.SameValues env') (text : String) :
    env.expand text = env'.expand text := by
  obtain ⟨pieces, hpieces⟩ := lawful_references.exists_reading text.toList
  have hvalues : env.valueOrEmpty = env'.valueOrEmpty := by
    funext name
    rw [valueOrEmpty, valueOrEmpty, h]
  rw [expand, expand, env.expandReferences_of_reading hpieces,
    env'.expandReferences_of_reading hpieces, hvalues]

namespace Settings

/-- The text of a file is read alike. -/
lemma parse_congr (h : env.SameValues env') (text : String) : parse env text = parse env' text := by
  rw [parse, parse, h.expand_eq]

/-- The same settings are changed. -/
lemma override_congr (h : env.SameValues env') (settings : Settings) :
    override env settings = override env' settings := by
  simp only [override, overrideFlag, overrideLimit, overrideLevel, nonEmptyValue?, h _]

/-! ### What is loaded, and what was read -/

/-- The file that is read when one is given: the one that the environment names, if it names one. -/
def chosenFile (env : Environment) (given : String) : String :=
  (env.value? "CMD9_CONFIG").getD given

lemma chosenFile_of_none (h : env.value? "CMD9_CONFIG" = none) : chosenFile env given = given := by
  rw [chosenFile, h, Option.getD_none]

lemma chosenFile_of_some (h : env.value? "CMD9_CONFIG" = some other) :
    chosenFile env given = other := by
  rw [chosenFile, h, Option.getD_some]

/-- What comes of what is read at a path. -/
def ofReading (env : Environment) (path : String) :
    Option (Except FileFault String) → Load Settings
  | none => ExceptT.mk (.error ⟨path⟩)
  | some (.error fault) => ExceptT.mk (.ok (.error (.unreadable path fault)))
  | some (.ok text) => ExceptT.mk (.ok (parse env text >>= override env))

/-- A file that is a text is parsed. -/
lemma ofFile_of_text {text : String} (h : files.readText? path = some (.ok text)) :
    ofFile env files path = ExceptT.mk (.ok (parse env text)) := by
  rw [ofFile, fileText, h]
  rfl

/-- Of all files only the chosen one counts. -/
lemma load_file_eq (env : Environment) (files : FileTree) (given : String) :
    load env files (.file given) =
      ofReading env (chosenFile env given) (files.readText? (chosenFile env given)) := by
  have hload : load env files (.file given) =
      ofFile env files (chosenFile env given) >>= fun settings =>
        ExceptT.mk (.ok (override env settings)) := by
    unfold load chosenFile
    cases env.value? "CMD9_CONFIG"
    all_goals
      refine bind_congr fun settings => ?_
      cases hover : override env settings <;> simp only [hover] <;> rfl
  rw [hload]
  rcases hread : files.readText? (chosenFile env given) with _ | fault | text
  · rw [ofFile, fileText, hread]
    rfl
  · rw [ofFile, fileText, hread]
    rfl
  · rw [ofFile_of_text hread, ofReading]
    cases parse env text <;> rfl

/-- What comes of it depends on nothing but the values of the variables. -/
lemma ofReading_congr (h : env.SameValues env') (path : String)
    (reading : Option (Except FileFault String)) :
    ofReading env path reading = ofReading env' path reading := by
  rcases reading with _ | _ | text
  · rfl
  · rfl
  · simp only [ofReading, parse_congr h, funext (override_congr h)]

/-- A failure of two steps is that of one of them. -/
lemma bind_ne_error {α β : Type} {first : Except SettingsFault α}
    {next : α → Except SettingsFault β} {e : SettingsFault} (hfirst : first ≠ .error e)
    (hnext : ∀ value, next value ≠ .error e) : (first >>= next) ≠ .error e := by
  cases first with
  | error e' => exact fun h => hfirst (congrArg Except.error (Except.error.inj h))
  | ok value => exact hnext value

/-- A value that is no truth value is not called unreadable. -/
lemma overrideFlag_ne_unreadable (name : String) (value : Bool) :
    overrideFlag env name value ≠ .error (.unreadable path fault) := by
  unfold overrideFlag flag
  grind

/-- Nor is a value that is no number. -/
lemma overrideLimit_ne_unreadable (value : Option Nat) :
    overrideLimit env value ≠ .error (.unreadable path fault) := by
  unfold overrideLimit limit
  cases env.value? "CMD9_INTERPOLATION_LIMIT" with
  | none => simp
  | some text =>
    dsimp only
    split
    · split <;> simp [Except.map]
    · simp [Except.map]

/-- So no variable makes a file unreadable. -/
lemma override_ne_unreadable (settings : Settings) :
    override env settings ≠ .error (.unreadable path fault) := by
  refine bind_ne_error (overrideFlag_ne_unreadable _ _) fun feedback => ?_
  refine bind_ne_error (overrideFlag_ne_unreadable _ _) fun errorFeedback => ?_
  refine bind_ne_error (overrideLimit_ne_unreadable _) fun interpolationLimit h => ?_
  cases h

/-- A text is not called unreadable, whatever stands in it. -/
lemma parse_override_ne_unreadable (text : String) :
    (parse env text >>= override env) ≠ .error (.unreadable path fault) := by
  refine bind_ne_error (fun h => ?_) override_ne_unreadable
  unfold parse at h
  cases hread : read? (env.expand text) <;> rw [hread] at h <;> cases h

/-- What is loaded tells what was read, unless this was a text. -/
lemma eq_or_texts_of_ofReading_eq {reading reading' : Option (Except FileFault String)}
    (h : ofReading env path reading = ofReading env path reading') :
    reading = reading' ∨
      ∃ text text', reading = some (.ok text) ∧ reading' = some (.ok text') := by
  rcases reading with _ | fault | text <;> rcases reading' with _ | fault' | text'
  · exact .inl rfl
  · cases h
  · cases h
  · cases h
  · cases h
    exact .inl rfl
  · exact absurd (Except.ok.inj h).symm (parse_override_ne_unreadable text')
  · cases h
  · exact absurd (Except.ok.inj h) (parse_override_ne_unreadable text)
  · exact .inr ⟨text, text', rfl, rfl⟩

end Settings

/-! ### A file in place of another one -/

namespace FileTree

variable {place : List String} {content : ByteArray}

/-- What was recorded under other components is still found. -/
lemma lookup_filter_of_ne {parts parts' : List String} (h : parts' ≠ parts)
    (nodes : List (List String × FileNode)) :
    (nodes.filter fun (p, _) => p ≠ parts).lookup parts' = nodes.lookup parts' := by
  induction nodes with
  | nil => rfl
  | cons entry rest ih =>
    by_cases hentry : entry.1 = parts
    · have hother : (parts' == entry.1) = false := by simpa [hentry] using h
      rw [List.filter_cons_of_neg (by simpa using hentry), ih, List.lookup_cons, hother]
    · rw [List.filter_cons_of_pos (by simpa using hentry), List.lookup_cons, List.lookup_cons, ih]

/-- To record something at one place changes nothing at the others. -/
lemma recorded?_record_of_ne {place' : List String} (h : place' ≠ place) (node : FileNode) :
    (files.record place.reverse node).recorded? place' = files.recorded? place' := by
  have hne : place'.reverse ≠ place.reverse := fun hsame => h (List.reverse_injective hsame)
  have hother : (place'.reverse == place.reverse) = false := by simpa using hne
  simp only [recorded?, record, List.lookup_cons, hother, lookup_filter_of_ne hne]
  rfl

/-- What is recorded in place of a file stands there. -/
lemma recorded?_record (h : files.recorded? place = some (.file content)) (node : FileNode) :
    (files.record place.reverse node).recorded? place = some node := by
  unfold recorded? at h ⊢
  split at h
  · cases h
  · next hfree => simp [record, hfree]

/-- Where components lead to does not depend on what a file holds. -/
lemma follow?_record (h : files.recorded? place = some (.file content)) (start : List String)
    (names : List String) (content' : ByteArray) :
    (files.record place.reverse (.file content')).follow? start names =
      files.follow? start names := by
  induction names generalizing start with
  | nil => rfl
  | cons name rest ih =>
    rw [follow?, follow?]
    by_cases hstart : start = place
    · rw [hstart, recorded?_record h, h]
    · simp only [recorded?_record_of_ne hstart, ih]

/-- Nor does where a path leads to. -/
lemma place?_record (h : files.recorded? place = some (.file content)) (content' : ByteArray)
    (path : String) :
    (files.record place.reverse (.file content')).place? path = files.place? path := by
  simp only [place?, follow?_record h]

/-- What is read of a file that stands where a path leads to. -/
lemma readText?_of_place? (hplace : files.place? path = some (.ok place))
    (h : files.recorded? place = some (.file content)) :
    files.readText? path = some (if Path.namesDirectory path then .error .notDirectory
      else (String.fromUTF8? content).elim (.error .notText) .ok) := by
  cases hfile : Path.namesDirectory path with
  | true => simp [readText?, node?, hplace, h, hfile]
  | false =>
    cases htext : String.fromUTF8? content with
    | none => simp [readText?, node?, hplace, h, hfile, htext]
    | some text => simp [readText?, node?, hplace, h, hfile, htext]

/-- A path that leads elsewhere is read as before. -/
lemma readText?_record_of_ne (h : files.recorded? place = some (.file content))
    (hplace : files.place? path ≠ some (.ok place)) (content' : ByteArray) :
    (files.record place.reverse (.file content')).readText? path = files.readText? path := by
  simp only [readText?, node?, place?_record h]
  rcases hpath : files.place? path with _ | _ | place'
  · rfl
  · rfl
  · have hne : place' ≠ place := fun hsame => hplace (by rw [hpath, hsame])
    simp only [recorded?_record_of_ne hne]

/-- A text is read where there is a file, and it is what the file holds. -/
lemma exists_place_of_readText? {text : String} (h : files.readText? path = some (.ok text)) :
    ∃ place content, files.place? path = some (.ok place) ∧
      files.recorded? place = some (.file content) ∧ Path.namesDirectory path = false ∧
      String.fromUTF8? content = some text := by
  rcases hplace : files.place? path with _ | _ | place
  · simp [readText?, node?, hplace] at h
  · simp [readText?, node?, hplace] at h
  · cases hrecorded : files.recorded? place with
    | none => simp [readText?, node?, hplace, hrecorded] at h
    | some node =>
      cases node with
      | directory => simp [readText?, node?, hplace, hrecorded] at h
      | absent fault => simp [readText?, node?, hplace, hrecorded] at h
      | file content =>
        rw [readText?_of_place? hplace hrecorded] at h
        cases hfile : Path.namesDirectory path with
        | true => simp [hfile] at h
        | false =>
          cases htext : String.fromUTF8? content with
          | none => simp [hfile, htext] at h
          | some text' =>
            have hsame : text' = text := by simpa [hfile, htext] using h
            exact ⟨place, content, rfl, hrecorded, rfl, by rw [htext, hsame]⟩

/-- When a text is read at a path, the file can be one that is no text.  This changes nothing at
other paths but those where the same file is read. -/
lemma exists_spoilt {text : String} (h : files.readText? other = some (.ok text)) :
    ∃ spoilt : FileTree, spoilt.complete = files.complete ∧
      spoilt.readText? other = some (.error .notText) ∧
      ∀ path, spoilt.readText? path = files.readText? path ∨
        files.place? path = files.place? other ∧ files.readText? path = some (.ok text) := by
  obtain ⟨place, content, hplace, hrecorded, hfile, htext⟩ := exists_place_of_readText? h
  have hspoilt := recorded?_record hrecorded (.file ⟨#[255]⟩)
  have hnotText : String.fromUTF8? ⟨#[255]⟩ = none := by decide
  refine ⟨files.record place.reverse (.file ⟨#[255]⟩), rfl, ?_, fun path => ?_⟩
  · rw [readText?_of_place? (by rw [place?_record hrecorded, hplace]) hspoilt, hfile, hnotText]
    rfl
  · by_cases hpath : files.place? path = some (.ok place)
    · rw [readText?_of_place? (by rw [place?_record hrecorded, hpath]) hspoilt,
        readText?_of_place? hpath hrecorded, htext]
      cases Path.namesDirectory path with
      | true => exact .inl rfl
      | false => exact .inr ⟨hpath.trans hplace.symm, rfl⟩
    · exact .inl (readText?_record_of_ne hrecorded hpath _)

/-- What is read at a path fixes what is read at another one, whatever else there is. -/
def Fixes (files : FileTree) (path other : String) : Prop :=
  ∀ files' : FileTree, files'.complete → files'.readText? path = files.readText? path →
    files'.readText? other = files.readText? other

/-- A text is fixed by nothing but the file that it is read of. -/
lemma Fixes.place?_eq {text : String} (h : files.Fixes path other) (hcomplete : files.complete)
    (htext : files.readText? other = some (.ok text)) : files.place? path = files.place? other := by
  obtain ⟨spoilt, hspoilt, hnotText, hothers⟩ := exists_spoilt htext
  rcases hothers path with hsame | ⟨hplace, -⟩
  · have hother := h spoilt (hspoilt.trans hcomplete) hsame
    rw [hnotText, htext] at hother
    cases hother
  · exact hplace

end FileTree

namespace Settings

/-! ### What is determined by the given file -/

/-- What is loaded from a given file is the same with any other files. -/
def Determined (env : Environment) (files : FileTree) (given : String) : Prop :=
  ∀ files' : FileTree, files'.complete → files'.readText? given = files.readText? given →
    load env files' (.file given) = load env files (.file given)

/-- If the file that the environment names is a text, and nothing but the given one counts, then the
given one has the same text: otherwise the other one could be spoilt. -/
lemma Determined.readText?_eq {text : String} (h : Determined env files given)
    (hconfig : env.value? "CMD9_CONFIG" = some other) (hcomplete : files.complete)
    (htext : files.readText? other = some (.ok text)) :
    files.readText? given = some (.ok text) := by
  obtain ⟨spoilt, hspoilt, hnotText, hothers⟩ := FileTree.exists_spoilt htext
  rcases hothers given with hsame | ⟨-, hgiven⟩
  · have hload := h spoilt (hspoilt.trans hcomplete) hsame
    rw [load_file_eq, load_file_eq, chosenFile_of_some hconfig, hnotText, htext] at hload
    rcases eq_or_texts_of_ofReading_eq hload with hsame | ⟨text, -, hsame, -⟩
    · cases hsame
    · cases hsame
  · exact hgiven

/-- Nothing but the given file counts just when it fixes what is read of the one that the environment
names. -/
lemma determined_iff (hcomplete : files.complete) :
    Determined env files given ↔
      ∀ other, env.value? "CMD9_CONFIG" = some other → files.Fixes given other := by
  constructor
  · intro h other hconfig files' hcomplete' hgiven
    have hload := h files' hcomplete' hgiven
    rw [load_file_eq, load_file_eq, chosenFile_of_some hconfig] at hload
    rcases eq_or_texts_of_ofReading_eq hload with hsame | ⟨text', text, htext', htext⟩
    · exact hsame
    · -- two texts may give the same settings, but each of them is that of the given file
      have h' : Determined env files' given := fun files'' hcomplete'' hgiven'' =>
        (h files'' hcomplete'' (hgiven''.trans hgiven)).trans (h files' hcomplete' hgiven).symm
      have hfiles := h.readText?_eq hconfig hcomplete htext
      have hfiles' := h'.readText?_eq hconfig hcomplete' htext'
      rw [htext, htext', ← hfiles, ← hfiles', hgiven]
  · intro hfixes files' hcomplete' hgiven
    rw [load_file_eq, load_file_eq]
    cases hconfig : env.value? "CMD9_CONFIG" with
    | none => rw [chosenFile_of_none hconfig, hgiven]
    | some other =>
      rw [chosenFile_of_some hconfig, hfixes other hconfig files' hcomplete' hgiven]

/-- Settings are loaded from a given file, by the program if it is named in the arguments.  Then the
result, settings or a fault, is the same for all files and environments in which the same is read of
the chosen file and the variables have the same values.  The chosen file is the given one unless the
environment names another, which goes before it.  So the result is determined by the given file if
and only if this file fixes what is read of the one that the environment names; when that is a text,
both paths have to lead to the same place. -/
theorem load_file_of_chosen (env : Environment) (given : String) :
    (∀ env' files files', env.SameValues env' →
      files.readText? (chosenFile env given) = files'.readText? (chosenFile env given) →
      load env files (.file given) = load env' files' (.file given) ∧
        ∀ invocation : Invocation, invocation.config = some given →
          Shell.loadSettings env files invocation = Shell.loadSettings env' files' invocation) ∧
    ∀ files : FileTree, files.complete →
      (Determined env files given ↔
        ∀ other, env.value? "CMD9_CONFIG" = some other → files.Fixes given other) ∧
      ∀ other text, files.readText? other = some (.ok text) → files.Fixes given other →
        files.place? given = files.place? other := by
  refine ⟨fun env' files files' hvalues hchosen => ?_, fun files hcomplete =>
    ⟨determined_iff hcomplete, fun other text htext hfixes => hfixes.place?_eq hcomplete htext⟩⟩
  have hload : load env files (.file given) = load env' files' (.file given) := by
    have hsame : chosenFile env given = chosenFile env' given := by
      rw [chosenFile, chosenFile, hvalues]
    rw [load_file_eq, load_file_eq, hchosen, ← hsame, ofReading_congr hvalues]
  refine ⟨hload, fun invocation hconfig => ?_⟩
  simp only [Shell.loadSettings, hconfig, hload]

/-- When the environment names no file, another file does not count, nor does the home directory of
the account. -/
theorem load_file_of_unset_variable :
    let text := "shell:\n  prompt: \"a> \"\n"
    let files := FileTree.empty.insert "a.yaml" (.file text.toUTF8)
    let files' := files.insert "b.yaml" (.file "shell: []\n".toUTF8)
    let env := Environment.ofList []
    let env' : Environment := { env with accountHome := "/home" }
    (env.SameValues env' ∧
      files.readText? (chosenFile env "a.yaml") = files'.readText? (chosenFile env "a.yaml")) ∧
      load env files (.file "a.yaml") = load env' files' (.file "a.yaml") ∧
      files.complete ∧ Determined env files "a.yaml" := by
  intro text files files' env env'
  have hconfig : env.value? "CMD9_CONFIG" = none := value?_ofList_nil _
  have hvalues : env.SameValues env' := fun _ => rfl
  have hread : files.readText? (chosenFile env "a.yaml") =
      files'.readText? (chosenFile env "a.yaml") := by
    rw [chosenFile_of_none hconfig, readText?_of_node? text rfl, readText?_of_node? text rfl]
  obtain ⟨hload, hgiven⟩ := load_file_of_chosen env "a.yaml"
  refine ⟨⟨hvalues, hread⟩, (hload env' files files' hvalues hread).1, rfl, ?_⟩
  exact (hgiven files rfl).1.2 fun other hother => by cases hconfig.symm.trans hother

/-- A given file need not be the one that is used.  Here the environment names another one: without
it there is a fault, and with it the prompt is that of the other file, the given one being the same.
-/
theorem load_file_of_other_file :
    let first := "shell:\n  prompt: \"a> \"\n"
    let second := "shell:\n  prompt: \"b> \"\n"
    let files := FileTree.empty.insert "a.yaml" (.file first.toUTF8)
    let files' := files.insert "b.yaml" (.file second.toUTF8)
    let env := Environment.ofList [("CMD9_CONFIG", "b.yaml")]
    (files.complete ∧ files'.complete) ∧
      (files.readText? "a.yaml" = some (.ok first) ∧
        files'.readText? "a.yaml" = some (.ok first)) ∧
      load env files (.file "a.yaml") = .ok (.error (.unreadable "b.yaml" .notFound)) ∧
      (∃ settings, load env files' (.file "a.yaml") = .ok (.ok settings) ∧
        settings.shell.prompt = "b> ") ∧
      load env files (.file "a.yaml") ≠ load env files' (.file "a.yaml") := by
  intro first second files files' env
  have hchosen : chosenFile env "a.yaml" = "b.yaml" := by decide
  have hmissing : files.readText? "b.yaml" = some (.error .notFound) := rfl
  have hother : files'.readText? "b.yaml" = some (.ok second) := readText?_of_node? second rfl
  have hprompt : ((parse env second >>= override env).toOption.map (·.shell.prompt)) =
      some "b> " := by decide +kernel
  have hfault : load env files (.file "a.yaml") = .ok (.error (.unreadable "b.yaml" .notFound)) := by
    rw [load_file_eq, hchosen, hmissing]
    rfl
  obtain ⟨settings, hload, hsettings⟩ : ∃ settings,
      load env files' (.file "a.yaml") = .ok (.ok settings) ∧ settings.shell.prompt = "b> " := by
    rw [load_file_eq, hchosen, hother]
    simp only [ofReading]
    cases hparse : parse env second >>= override env with
    | error fault =>
      rw [hparse] at hprompt
      cases hprompt
    | ok settings =>
      rw [hparse] at hprompt
      exact ⟨settings, rfl, Option.some.inj hprompt⟩
  refine ⟨⟨rfl, rfl⟩, ⟨readText?_of_node? first rfl, readText?_of_node? first rfl⟩, hfault,
    ⟨settings, hload, hsettings⟩, ?_⟩
  rw [hfault, hload]
  exact fun hsame => by cases hsame

end Settings

end LineShell
