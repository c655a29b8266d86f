import LineShell.Proofs.Precedence

/-!
# Putting settings on top of one another

Settings are merged group by group, and in each group the settings of the file on top count unless
they are the defaults (`SettingGroup.value_merge`).  What merging is like can so be seen on one
group, where it is `Settings.overlay`.  Overlaying is associative and idempotent, the default is a
unit on both sides, and of a list of values the last one is left that is not the default
(`Settings.foldl_overlay`).

The files of a search path that can be read are merged from the left, beginning with the defaults
(`Settings.ofSearch_eq_foldl_merge`).
-/

namespace LineShell

namespace SettingGroup

/-! ### Groups of settings -/

/-- What the settings of a group are kept in. -/
def Value : SettingGroup → Type
  | .interpreter => InterpreterSettings
  | .prompt => String
  | .history => HistorySettings
  | .preload => List String
  | .scriptDirs => List String
  | .startup => List String
  | .logging => LoggingSettings

instance decidableEqValue : (group : SettingGroup) → DecidableEq group.Value
  | .interpreter => inferInstanceAs (DecidableEq InterpreterSettings)
  | .prompt => inferInstanceAs (DecidableEq String)
  | .history => inferInstanceAs (DecidableEq HistorySettings)
  | .preload => inferInstanceAs (DecidableEq (List String))
  | .scriptDirs => inferInstanceAs (DecidableEq (List String))
  | .startup => inferInstanceAs (DecidableEq (List String))
  | .logging => inferInstanceAs (DecidableEq LoggingSettings)

/-- The settings of a group. -/
def value : (group : SettingGroup) → Settings → group.Value
  | .interpreter, settings => settings.interpreter
  | .prompt, settings => settings.shell.prompt
  | .history, settings => settings.shell.history
  | .preload, settings => settings.packages.preload
  | .scriptDirs, settings => settings.packages.scriptDirs
  | .startup, settings => settings.packages.startup
  | .logging, settings => settings.logging

/-- Every setting is in one of the groups. -/
lemma ext_value {a b : Settings} (h : ∀ group : SettingGroup, group.value a = group.value b) :
    a = b := by
  obtain ⟨ai, ⟨ap, ah⟩, ⟨al, ad, as⟩, ag⟩ := a
  obtain ⟨bi, ⟨bp, bh⟩, ⟨bl, bd, bs⟩, bg⟩ := b
  obtain rfl : ai = bi := h .interpreter
  obtain rfl : ap = bp := h .prompt
  obtain rfl : ah = bh := h .history
  obtain rfl : al = bl := h .preload
  obtain rfl : ad = bd := h .scriptDirs
  obtain rfl : as = bs := h .startup
  obtain rfl : ag = bg := h .logging
  rfl

/-- Settings are merged group by group. -/
lemma value_merge (group : SettingGroup) (base top : Settings) :
    group.value (base.merge top) =
      Settings.overlay (group.value {}) (group.value base) (group.value top) := by
  cases group <;> rfl

end SettingGroup

namespace Settings

/-! ### One group -/

section Overlay

variable {α : Type} [DecidableEq α] (default a b c : α)

@[simp] lemma default_overlay : overlay default default a = a := by
  unfold overlay
  split
  · next h => exact h.symm
  · rfl

@[simp] lemma overlay_default : overlay default a default = a := if_pos rfl

@[simp] lemma overlay_self : overlay default a a = a := ite_self a

/-- A value other than the default counts, whatever is below. -/
lemma overlay_of_ne {top : α} (h : top ≠ default) : overlay default a top = top := if_neg h

lemma overlay_assoc :
    overlay default (overlay default a b) c = overlay default a (overlay default b c) := by
  by_cases h : c = default
  · rw [h, overlay_default, overlay_default]
  · rw [overlay_of_ne default _ h, overlay_of_ne default b h, overlay_of_ne default a h]

/-- Of values on top of one another the last one is left that is not the default, and the first one
of all if there is none. -/
lemma foldl_overlay (values : List α) :
    values.foldl (overlay default) a = (values.filter (· ≠ default)).getLastD a := by
  induction values generalizing a with
  | nil => rfl
  | cons value rest ih =>
    rw [List.foldl_cons, ih]
    by_cases h : value = default
    · rw [h, overlay_default, List.filter_cons_of_neg (by simp)]
    · rw [overlay_of_ne default a h, List.filter_cons_of_pos (by simpa using h), List.getLastD_cons]

end Overlay

/-! ### All groups -/

/-- The settings of a group in merged files come from the last file that changes the group. -/
lemma value_foldl_merge (group : SettingGroup) (files : List Settings) (base : Settings) :
    group.value (files.foldl merge base) =
      ((files.map group.value).filter (· ≠ group.value {})).getLastD (group.value base) := by
  rw [← foldl_overlay]
  induction files generalizing base with
  | nil => rfl
  | cons file rest ih => rw [List.foldl_cons, ih, group.value_merge, List.map_cons, List.foldl_cons]

lemma merge_assoc (a b c : Settings) : (a.merge b).merge c = a.merge (b.merge c) := by
  refine SettingGroup.ext_value fun group => ?_
  simp only [group.value_merge, overlay_assoc]

@[simp] lemma default_merge (a : Settings) : merge {} a = a := by
  refine SettingGroup.ext_value fun group => ?_
  rw [group.value_merge, default_overlay]

@[simp] lemma merge_default (a : Settings) : a.merge {} = a := by
  refine SettingGroup.ext_value fun group => ?_
  rw [group.value_merge, overlay_default]

@[simp] lemma merge_self (a : Settings) : a.merge a = a := by
  refine SettingGroup.ext_value fun group => ?_
  rw [group.value_merge, overlay_self]

/-! ### The files of a search path -/

/-- The texts of those files that can be read. -/
def readableTexts (tree : FileTree) (paths : List String) : List String :=
  paths.filterMap fun path => (tree.readText? path).bind Except.toOption

section Search

variable {env : Environment} {tree : FileTree} {path : String}

/-- A file that cannot be read is passed over. -/
lemma ofSearch_cons_of_unreadable {fault : FileFault}
    (h : tree.readText? path = some (.error fault)) (base : Settings) (rest : List String) :
    ofSearch env tree base (path :: rest) = ofSearch env tree base rest := by
  have hfile : fileText tree path = .ok (.error fault) := by rw [fileText, h]
  simp only [ofSearch, hfile]
  rfl

/-- A file that can be read is put on top of those before it, unless it is malformed. -/
lemma ofSearch_cons_of_readable {text : String} (h : tree.readText? path = some (.ok text))
    (base : Settings) (rest : List String) :
    ofSearch env tree base (path :: rest) =
      match parse env text with
      | .ok top => ofSearch env tree (base.merge top) rest
      | .error fault => .ok (.error fault) := by
  have hfile : fileText tree path = .ok (.ok text) := by rw [fileText, h]
  simp only [ofSearch, hfile]
  rfl

/-- The settings of the files that can be read are merged one after the other, unless one of them is
malformed. -/
lemma ofSearch_eq_foldl_merge {paths : List String}
    (h : ∀ path ∈ paths, (tree.readText? path).isSome = true) (base : Settings) :
    ofSearch env tree base paths =
      .ok (((readableTexts tree paths).mapM (parse env)).map (List.foldl merge base)) := by
  induction paths generalizing base with
  | nil => rfl
  | cons path rest ih =>
    obtain ⟨hpath, hrest⟩ := List.forall_mem_cons.1 h
    obtain ⟨content, hcontent⟩ := Option.isSome_iff_exists.1 hpath
    cases content with
    | error fault =>
      have htexts : readableTexts tree (path :: rest) = readableTexts tree rest :=
        List.filterMap_cons_none (by rw [hcontent]; rfl)
      rw [ofSearch_cons_of_unreadable hcontent, htexts, ih hrest]
    | ok text =>
      have htexts : readableTexts tree (path :: rest) = text :: readableTexts tree rest :=
        List.filterMap_cons_some (by rw [hcontent]; rfl)
      rw [ofSearch_cons_of_readable hcontent, htexts, List.mapM_cons]
      cases parse env text with
      | error fault => rfl
      | ok top =>
        simp only [ih hrest]
        cases (readableTexts tree rest).mapM (parse env) <;> rfl

end Search

/-- Merging is associative, the defaults are its unit on both sides, and merging settings with
themselves changes nothing.

When any number of files are merged, beginning with the defaults, each group has the settings of the
last file in which they are not the defaults, and the defaults if there is none; what the files say
about other groups does not matter.  This is how the files of a search path are put together: those
that can be read are parsed and then merged. -/
theorem merged_files_keep_last_changes :
    (∀ a b c : Settings, (a.merge b).merge c = a.merge (b.merge c)) ∧
    (∀ a : Settings, merge {} a = a ∧ a.merge {} = a ∧ a.merge a = a) ∧
    (∀ (files : List Settings) (group : SettingGroup),
      group.value (files.foldl merge {}) =
        ((files.map group.value).filter (· ≠ group.value {})).getLastD (group.value {})) ∧
    ∀ (env : Environment) (tree : FileTree) (paths : List String),
      (∀ path ∈ paths, (tree.readText? path).isSome = true) →
        ofSearch env tree {} paths =
          .ok (((readableTexts tree paths).mapM (parse env)).map (List.foldl merge {})) := by
  refine ⟨merge_assoc, fun a => ⟨default_merge a, merge_default a, merge_self a⟩, ?_, ?_⟩
  · intro files group
    exact value_foldl_merge group files {}
  · intro env tree paths hknown
    exact ofSearch_eq_foldl_merge hknown {}

/-- Two files and a missing one between them.  Both set the prompt, and the second one decides; only
the first one sets what is loaded, and the second one leaves it as it is. -/
theorem merged_files_keep_last_changes_of_two :
    let first := "shell:\n  prompt: \"a> \"\npackages:\n  preload: [math]\n"
    let second := "shell:\n  prompt: \"b> \"\n"
    let tree := (FileTree.empty.insert "a.yaml" (.file first.toUTF8)).insert "b.yaml"
      (.file second.toUTF8)
    let paths := ["a.yaml", "absent.yaml", "b.yaml"]
    (∀ path ∈ paths, (tree.readText? path).isSome = true) ∧
      readableTexts tree paths = [first, second] ∧
      ∃ settings, ofSearch (.ofList []) tree {} paths = .ok (.ok settings) ∧
        settings.shell.prompt = "b> " ∧ settings.packages.preload = ["math"] := by
  intro first second tree paths
  have hfirst : tree.readText? "a.yaml" = some (.ok first) := readText?_of_node? first rfl
  have hsecond : tree.readText? "b.yaml" = some (.ok second) := readText?_of_node? second rfl
  have habsent : tree.readText? "absent.yaml" = some (.error .notFound) := rfl
  have hknown : ∀ path ∈ paths, (tree.readText? path).isSome = true := by
    simp [paths, hfirst, hsecond, habsent]
  have htexts : readableTexts tree paths = [first, second] := by
    simp [readableTexts, paths, hfirst, hsecond, habsent, Except.toOption]
  have hparse : ∀ text ∈ [first, second],
      parse (.ofList []) text = .ok (ofText (.ofList []) text) :=
    parse_eq_ok_of_isSome (by decide +kernel)
  obtain ⟨files, hfiles⟩ : ∃ files, files = [first, second].map (ofText (.ofList [])) := ⟨_, rfl⟩
  have hparsed : [first, second].mapM (parse (.ofList [])) = .ok files := by
    rw [List.mapM_cons, hparse first (by simp), List.mapM_cons, hparse second (by simp), hfiles]
    rfl
  obtain ⟨-, -, hgroups, hsearch⟩ := merged_files_keep_last_changes
  refine ⟨hknown, htexts, files.foldl merge {}, ?_, ?_, ?_⟩
  · rw [hsearch _ _ _ hknown, htexts, hparsed]
    rfl
  · have hprompt : (files.foldl merge {}).shell.prompt =
        ((files.map (·.shell.prompt)).filter (· ≠ ({} : ShellSettings).prompt)).getLastD
          ({} : ShellSettings).prompt := hgroups files .prompt
    rw [hprompt, hfiles]
    decide +kernel
  · have hpreload : (files.foldl merge {}).packages.preload =
        ((files.map (·.packages.preload)).filter (· ≠ [])).getLastD [] := hgroups files .preload
    rw [hpreload, hfiles]
    decide +kernel

end Settings

end LineShell
