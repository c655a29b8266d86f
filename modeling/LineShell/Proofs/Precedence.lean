import LineShell.Settings.Loading
import Mathlib.Tactic.Common

/-!
# Which file decides a setting

A settings file gives values to some of the settings (`SettingKey.given?`); the others have their
defaults in it.  When the files of a search path are put together, settings are not taken one by
one: those of a group (`SettingKey.group`) come from the same file, the last one that gives some
setting of the group a value other than its default (`SettingGroup.Changed`).

So a setting need not have the value that the last file to mention it gives it
(`SettingKey.lastGiven`).  `Settings.load_search_eq_lastGiven_iff` says what it has instead, and
when this is the same.
-/

namespace LineShell

open Yaml (Node Document)

/-! ### Settings one by one -/

/-- The settings that are taken from one file together. -/
inductive SettingGroup
  | interpreter
  | prompt
  | history
  | preload
  | scriptDirs
  | startup
  | logging
  deriving DecidableEq, Repr

/-- The single settings, by the types of their values. -/
inductive SettingKey : Type → Type
  | feedback : SettingKey Bool
  | errorFeedback : SettingKey Bool
  | interpolationLimit : SettingKey (Option Nat)
  | maxCallDepth : SettingKey Nat
  | stripMarkers : SettingKey Bool
  | prompt : SettingKey String
  | historyEnabled : SettingKey Bool
  | historyFile : SettingKey String
  | historyMaxEntries : SettingKey Nat
  | preload : SettingKey (List String)
  | scriptDirs : SettingKey (List String)
  | startup : SettingKey (List String)
  | logLevel : SettingKey LogLevel
  | logFormat : SettingKey LogFormat
  | logFilter : SettingKey String

namespace SettingKey

variable {α : Type}

/-- The value of a setting. -/
def get : SettingKey α → Settings → α
  | .feedback, settings => settings.interpreter.feedback
  | .errorFeedback, settings => settings.interpreter.errorFeedback
  | .interpolationLimit, settings => settings.interpreter.interpolationLimit
  | .maxCallDepth, settings => settings.interpreter.maxCallDepth
  | .stripMarkers, settings => settings.interpreter.stripMarkers
  | .prompt, settings => settings.shell.prompt
  | .historyEnabled, settings => settings.shell.history.enabled
  | .historyFile, settings => settings.shell.history.file
  | .historyMaxEntries, settings => settings.shell.history.maxEntries
  | .preload, settings => settings.packages.preload
  | .scriptDirs, settings => settings.packages.scriptDirs
  | .startup, settings => settings.packages.startup
  | .logLevel, settings => settings.logging.level
  | .logFormat, settings => settings.logging.format
  | .logFilter, settings => settings.logging.filter

/-- The default of a setting. -/
def default (key : SettingKey α) : α := key.get {}

/-- The group that a setting belongs to. -/
def group : SettingKey α → SettingGroup
  | .feedback | .errorFeedback | .interpolationLimit | .maxCallDepth | .stripMarkers => .interpreter
  | .prompt => .prompt
  | .historyEnabled | .historyFile | .historyMaxEntries => .history
  | .preload => .preload
  | .scriptDirs => .scriptDirs
  | .startup => .startup
  | .logLevel | .logFormat | .logFilter => .logging

/-- The names of the sections that a setting stands in, and its own name. -/
def path : SettingKey α → List String
  | .feedback => ["interpreter", "feedback"]
  | .errorFeedback => ["interpreter", "error_feedback"]
  | .interpolationLimit => ["interpreter", "interpolation_limit"]
  | .maxCallDepth => ["interpreter", "max_call_depth"]
  | .stripMarkers => ["interpreter", "strip_markers"]
  | .prompt => ["shell", "prompt"]
  | .historyEnabled => ["shell", "history", "enabled"]
  | .historyFile => ["shell", "history", "file"]
  | .historyMaxEntries => ["shell", "history", "max_entries"]
  | .preload => ["packages", "preload"]
  | .scriptDirs => ["packages", "script_dirs"]
  | .startup => ["packages", "startup"]
  | .logLevel => ["logging", "level"]
  | .logFormat => ["logging", "format"]
  | .logFilter => ["logging", "filter"]

/-- The value that a node holds for a setting. -/
def ofNode? (document : Document) : SettingKey α → Node → Option α
  | .feedback | .errorFeedback | .stripMarkers | .historyEnabled => Settings.bool?
  | .interpolationLimit => Settings.optionalCount?
  | .maxCallDepth | .historyMaxEntries => Settings.count?
  | .prompt | .historyFile | .logFilter => Settings.text?
  | .preload | .scriptDirs | .startup => Settings.texts? document
  | .logLevel => Settings.named? LogLevel.ofName?
  | .logFormat => Settings.named? LogFormat.ofName?

end SettingKey

/-! ### Explicit values -/

namespace Settings

/-- What a node holds under a name. -/
def child? (document : Document) (node : Node) (name : String) : Option Node :=
  match node with
  | .mapping _ entries => entries.findSome? fun (key, value) =>
      if text? (document.follow key) = some name then some (document.follow value) else none
  | _ => none

/-- What a node holds under names inside one another. -/
def nodeBelow? (document : Document) (node : Node) (path : List String) : Option Node :=
  path.foldlM (child? document) node

end Settings

namespace SettingKey

variable {α : Type}

/-- The value that the text of a file gives a setting explicitly. -/
def given? (env : Environment) (text : String) (key : SettingKey α) : Option α := do
  let document ← Document.read? (env.expand text)
  key.ofNode? document (← Settings.nodeBelow? document document.root key.path)

/-- The value that the last of several texts to mention a setting gives it, or the default. -/
def lastGiven (env : Environment) (texts : List String) (key : SettingKey α) : α :=
  (texts.reverse.findSome? fun text => key.given? env text).getD key.default

end SettingKey

/-- The text of a file gives some setting of a group a value other than its default. -/
def SettingGroup.Changed (env : Environment) (text : String) (group : SettingGroup) : Prop :=
  ∃ (β : Type) (key : SettingKey β) (value : β),
    key.group = group ∧ key.given? env text = some value ∧ value ≠ key.default

/-! ### Reading is reading setting by setting -/

namespace Settings

variable {α β : Type} {document : Document} {node : Node} {known : List String}
  {fields : List (String × Node)} {name : String}

/-- What is found among the values of a section is what the node holds under the name. -/
lemma lookup_of_fields? (h : fields? document known node = some fields) (hname : name ∈ known) :
    fields.lookup name = child? document node name := by
  cases node with
  | mapping anchor entries =>
    obtain ⟨named, hnamed, hfields⟩ := Option.bind_eq_some_iff.1 h
    replace hfields : named.filter (fun field => known.contains field.1) = fields := by
      dsimp only at hfields
      split at hfields
      · exact Option.some.inj hfields
      · cases hfields
    subst hfields
    clear h
    simp only [child?]
    induction entries generalizing named with
    | nil =>
      cases hnamed
      rfl
    | cons entry rest ih =>
      rw [List.mapM_cons] at hnamed
      obtain ⟨field, hfield, hrest⟩ := Option.bind_eq_some_iff.1 hnamed
      obtain ⟨more, hmore, hcons⟩ := Option.bind_eq_some_iff.1 hrest
      obtain ⟨text, htext, hpair⟩ := Option.bind_eq_some_iff.1 hfield
      cases hcons
      cases hpair
      rw [List.findSome?_cons, ← ih more hmore, htext]
      by_cases hsame : text = name
      · simp [hsame, hname]
      · have hother : (name == text) = false := by simpa using Ne.symm hsame
        by_cases hknown : text ∈ known
        · simp [hsame, hknown, List.lookup_cons, hother]
        · simp [hsame, hknown]
  | «alias» | scalar | sequence =>
    simp only [fields?] at h
    split at h
    · cases h
      rfl
    · cases h

/-- The value of a setting or of a section: it is left out and has its default, or it is read from
what the node holds under its name. -/
lemma field?_cases {read : Node → Option α} {default value : α}
    (hfields : fields? document known node = some fields) (hname : name ∈ known)
    (h : field? fields name default read = some value) :
    child? document node name = none ∧ value = default ∨
      ∃ below, child? document node name = some below ∧ read below = some value := by
  rw [field?, lookup_of_fields? hfields hname] at h
  cases hchild : child? document node name with
  | none =>
    rw [hchild] at h
    cases h
    exact .inl ⟨rfl, rfl⟩
  | some below =>
    rw [hchild] at h
    exact .inr ⟨below, rfl, h⟩

/-- One of several values is what a node holds at the end of a path, or its default if the node
holds nothing there. -/
def ReadAt (document : Document) (node : Node) (path : List String) (read : Node → Option α)
    (get : β → α) (defaults values : β) : Prop :=
  get values = ((nodeBelow? document node path).bind read).getD (get defaults)

/-- A setting stands under its name. -/
lemma readAt_field {read : Node → Option α} {get : β → α} {defaults values : β}
    (hfields : fields? document known node = some fields) (hname : name ∈ known)
    (h : field? fields name (get defaults) read = some (get values)) :
    ReadAt document node [name] read get defaults values := by
  obtain ⟨hchild, hvalue⟩ | ⟨below, hchild, hread⟩ := field?_cases hfields hname h
  · simp [ReadAt, nodeBelow?, hchild, hvalue]
  · simp [ReadAt, nodeBelow?, hchild, hread]

/-- The settings of a section stand under the name of the section. -/
lemma readAt_section {readSection : Node → Option β} {path : List String}
    {read : Node → Option α} {get : β → α} {defaults values : β}
    (hfields : fields? document known node = some fields) (hname : name ∈ known)
    (h : field? fields name defaults readSection = some values)
    (hsection : ∀ below, readSection below = some values →
      ReadAt document below path read get defaults values) :
    ReadAt document node (name :: path) read get defaults values := by
  obtain ⟨hchild, hvalue⟩ | ⟨below, hchild, hread⟩ := field?_cases hfields hname h
  · simp [ReadAt, nodeBelow?, hchild, hvalue]
  · have hbelow := hsection below hread
    simp only [ReadAt, nodeBelow?, List.foldlM_cons, hchild] at hbelow ⊢
    exact hbelow

/-- The settings of the interpreter. -/
lemma readAt_interpreter {values : InterpreterSettings}
    (h : interpreter? document node = some values) :
    ReadAt document node ["feedback"] bool? InterpreterSettings.feedback {} values ∧
    ReadAt document node ["error_feedback"] bool? InterpreterSettings.errorFeedback {} values ∧
    ReadAt document node ["interpolation_limit"] optionalCount?
      InterpreterSettings.interpolationLimit {} values ∧
    ReadAt document node ["max_call_depth"] count? InterpreterSettings.maxCallDepth {} values ∧
    ReadAt document node ["strip_markers"] bool? InterpreterSettings.stripMarkers {} values := by
  simp only [interpreter?, Option.bind_eq_bind, Option.bind_eq_some_iff] at h
  obtain ⟨fields, hfields, a, ha, b, hb, c, hc, d, hd, e, he, hvalues⟩ := h
  cases hvalues
  exact ⟨readAt_field hfields (by simp) ha, readAt_field hfields (by simp) hb,
    readAt_field hfields (by simp) hc, readAt_field hfields (by simp) hd,
    readAt_field hfields (by simp) he⟩

/-- The settings of the history. -/
lemma readAt_history {values : HistorySettings} (h : history? document node = some values) :
    ReadAt document node ["enabled"] bool? HistorySettings.enabled {} values ∧
    ReadAt document node ["file"] text? HistorySettings.file {} values ∧
    ReadAt document node ["max_entries"] count? HistorySettings.maxEntries {} values := by
  simp only [history?, Option.bind_eq_bind, Option.bind_eq_some_iff] at h
  obtain ⟨fields, hfields, a, ha, b, hb, c, hc, hvalues⟩ := h
  cases hvalues
  exact ⟨readAt_field hfields (by simp) ha, readAt_field hfields (by simp) hb,
    readAt_field hfields (by simp) hc⟩

/-- The settings of the shell, among them those of the history. -/
lemma readAt_shell {values : ShellSettings} (h : shell? document node = some values) :
    ReadAt document node ["prompt"] text? ShellSettings.prompt {} values ∧
    ReadAt document node ["history", "enabled"] bool? (fun x => x.history.enabled) {} values ∧
    ReadAt document node ["history", "file"] text? (fun x => x.history.file) {} values ∧
    ReadAt document node ["history", "max_entries"] count? (fun x => x.history.maxEntries) {}
      values := by
  simp only [shell?, Option.bind_eq_bind, Option.bind_eq_some_iff] at h
  obtain ⟨fields, hfields, a, ha, b, hb, hvalues⟩ := h
  cases hvalues
  refine ⟨readAt_field hfields (by simp) ha, ?_, ?_, ?_⟩
  · exact (readAt_section hfields (by simp) hb fun _ h => (readAt_history h).1 :)
  · exact (readAt_section hfields (by simp) hb fun _ h => (readAt_history h).2.1 :)
  · exact (readAt_section hfields (by simp) hb fun _ h => (readAt_history h).2.2 :)

/-- The settings of the packages. -/
lemma readAt_packages {values : PackageSettings} (h : packages? document node = some values) :
    ReadAt document node ["preload"] (texts? document) PackageSettings.preload {} values ∧
    ReadAt document node ["script_dirs"] (texts? document) PackageSettings.scriptDirs {} values ∧
    ReadAt document node ["startup"] (texts? document) PackageSettings.startup {} values := by
  simp only [packages?, Option.bind_eq_bind, Option.bind_eq_some_iff] at h
  obtain ⟨fields, hfields, a, ha, b, hb, c, hc, hvalues⟩ := h
  cases hvalues
  exact ⟨readAt_field hfields (by simp) ha, readAt_field hfields (by simp) hb,
    readAt_field hfields (by simp) hc⟩

/-- The settings of logging. -/
lemma readAt_logging {values : LoggingSettings} (h : logging? document node = some values) :
    ReadAt document node ["level"] (named? LogLevel.ofName?) LoggingSettings.level {} values ∧
    ReadAt document node ["format"] (named? LogFormat.ofName?) LoggingSettings.format {} values ∧
    ReadAt document node ["filter"] text? LoggingSettings.filter {} values := by
  simp only [logging?, Option.bind_eq_bind, Option.bind_eq_some_iff] at h
  obtain ⟨fields, hfields, a, ha, b, hb, c, hc, hvalues⟩ := h
  cases hvalues
  exact ⟨readAt_field hfields (by simp) ha, readAt_field hfields (by simp) hb,
    readAt_field hfields (by simp) hc⟩

/-- All settings of a document. -/
lemma readAt_ofDocument {settings : Settings} (h : ofDocument? document = some settings)
    (key : SettingKey α) :
    ReadAt document document.root key.path (key.ofNode? document) key.get {} settings := by
  simp only [ofDocument?, Option.bind_eq_bind, Option.bind_eq_some_iff] at h
  obtain ⟨fields, hfields, a, ha, b, hb, c, hc, d, hd, hsettings⟩ := h
  cases hsettings
  cases key with
  | feedback =>
    exact (readAt_section hfields (by simp) ha fun _ h => (readAt_interpreter h).1 :)
  | errorFeedback =>
    exact (readAt_section hfields (by simp) ha fun _ h => (readAt_interpreter h).2.1 :)
  | interpolationLimit =>
    exact (readAt_section hfields (by simp) ha fun _ h => (readAt_interpreter h).2.2.1 :)
  | maxCallDepth =>
    exact (readAt_section hfields (by simp) ha fun _ h => (readAt_interpreter h).2.2.2.1 :)
  | stripMarkers =>
    exact (readAt_section hfields (by simp) ha fun _ h => (readAt_interpreter h).2.2.2.2 :)
  | prompt =>
    exact (readAt_section hfields (by simp) hb fun _ h => (readAt_shell h).1 :)
  | historyEnabled =>
    exact (readAt_section hfields (by simp) hb fun _ h => (readAt_shell h).2.1 :)
  | historyFile =>
    exact (readAt_section hfields (by simp) hb fun _ h => (readAt_shell h).2.2.1 :)
  | historyMaxEntries =>
    exact (readAt_section hfields (by simp) hb fun _ h => (readAt_shell h).2.2.2 :)
  | preload =>
    exact (readAt_section hfields (by simp) hc fun _ h => (readAt_packages h).1 :)
  | scriptDirs =>
    exact (readAt_section hfields (by simp) hc fun _ h => (readAt_packages h).2.1 :)
  | startup =>
    exact (readAt_section hfields (by simp) hc fun _ h => (readAt_packages h).2.2 :)
  | logLevel =>
    exact (readAt_section hfields (by simp) hd fun _ h => (readAt_logging h).1 :)
  | logFormat =>
    exact (readAt_section hfields (by simp) hd fun _ h => (readAt_logging h).2.1 :)
  | logFilter =>
    exact (readAt_section hfields (by simp) hd fun _ h => (readAt_logging h).2.2 :)

variable {env : Environment} {text : String} {settings : Settings}

/-- A file that can be read gives every setting the value that it gives it explicitly, or else its
default. -/
lemma get_of_parse (h : parse env text = .ok settings) (key : SettingKey α) :
    key.get settings = (key.given? env text).getD key.default := by
  unfold parse at h
  cases hread : read? (env.expand text) with
  | none =>
    rw [hread] at h
    cases h
  | some found =>
    rw [hread] at h
    cases h
    obtain ⟨document, hdocument, hsettings⟩ := Option.bind_eq_some_iff.1 hread
    rw [SettingKey.given?, hdocument]
    exact readAt_ofDocument hsettings key

end Settings

/-! ### Groups -/

/-- Whether all settings of a group have their defaults. -/
def SettingGroup.isDefault (settings : Settings) : SettingGroup → Bool
  | .interpreter => settings.interpreter = {}
  | .prompt => settings.shell.prompt = ({} : ShellSettings).prompt
  | .history => settings.shell.history = {}
  | .preload => settings.packages.preload = []
  | .scriptDirs => settings.packages.scriptDirs = []
  | .startup => settings.packages.startup = []
  | .logging => settings.logging = {}

namespace SettingKey

variable {α : Type} {settings : Settings}

/-- A group has its defaults if each of its settings has. -/
lemma isDefault_iff (group : SettingGroup) : group.isDefault settings = true ↔
    ∀ (β : Type) (key : SettingKey β), key.group = group → key.get settings = key.default := by
  constructor
  · intro h β key hgroup
    subst hgroup
    cases key
    all_goals
      simp only [SettingKey.group, SettingGroup.isDefault, decide_eq_true_eq] at h
      simp only [get, default, h]
  · intro h
    obtain ⟨⟨a, b, c, d, e⟩, ⟨prompt, ⟨f, g, i⟩⟩, packages, ⟨j, k, l⟩⟩ := settings
    cases group with
    | interpreter =>
      simp only [SettingGroup.isDefault, InterpreterSettings.mk.injEq, decide_eq_true_eq]
      exact ⟨h _ .feedback rfl, h _ .errorFeedback rfl, h _ .interpolationLimit rfl,
        h _ .maxCallDepth rfl, h _ .stripMarkers rfl⟩
    | history =>
      simp only [SettingGroup.isDefault, HistorySettings.mk.injEq, decide_eq_true_eq]
      exact ⟨h _ .historyEnabled rfl, h _ .historyFile rfl, h _ .historyMaxEntries rfl⟩
    | logging =>
      simp only [SettingGroup.isDefault, LoggingSettings.mk.injEq, decide_eq_true_eq]
      exact ⟨h _ .logLevel rfl, h _ .logFormat rfl, h _ .logFilter rfl⟩
    | prompt => exact decide_eq_true (h _ .prompt rfl)
    | preload => exact decide_eq_true (h _ .preload rfl)
    | scriptDirs => exact decide_eq_true (h _ .scriptDirs rfl)
    | startup => exact decide_eq_true (h _ .startup rfl)

/-- A file changes a group if not all settings of the group have their defaults in it. -/
lemma changed_iff {env : Environment} {text : String} (h : Settings.parse env text = .ok settings)
    (group : SettingGroup) : group.Changed env text ↔ group.isDefault settings = false := by
  rw [← Bool.not_eq_true, isDefault_iff]
  constructor
  · rintro ⟨β, key, value, hgroup, hgiven, hvalue⟩ hdefault
    have hget := Settings.get_of_parse h key
    rw [hgiven, hdefault β key hgroup] at hget
    exact hvalue hget.symm
  · intro hdefault
    simp only [not_forall] at hdefault
    obtain ⟨β, key, hgroup, hvalue⟩ := hdefault
    have hget := Settings.get_of_parse h key
    cases hgiven : key.given? env text with
    | none =>
      rw [hgiven] at hget
      exact absurd hget hvalue
    | some value =>
      rw [hgiven] at hget
      exact ⟨β, key, value, hgroup, hgiven, fun heq => hvalue (hget.trans heq)⟩

/-- Of two files the second one decides on the groups that it changes, and the first one on the
others. -/
lemma get_merge (key : SettingKey α) (base top : Settings) :
    key.get (base.merge top) =
      if key.group.isDefault top = true then key.get base else key.get top := by
  cases key with
  | prompt | preload | scriptDirs | startup =>
    simp only [get, group, SettingGroup.isDefault, Settings.merge, Settings.overlay,
      decide_eq_true_eq]
  | _ =>
    simp only [get, group, SettingGroup.isDefault, Settings.merge, Settings.overlay,
      decide_eq_true_eq]
    split <;> rfl

end SettingKey

/-! ### The files of a search path -/

namespace Settings

variable {α : Type} {env : Environment} {texts : List String}

/-- The settings in the text of a file, or the defaults if it cannot be read. -/
def ofText (env : Environment) (text : String) : Settings := (parse env text).toOption.getD {}

/-- The settings of several files, one on top of the other. -/
def stacked (env : Environment) (base : Settings) (texts : List String) : Settings :=
  texts.foldl (fun settings text => settings.merge (ofText env text)) base

/-- The files of a search path are put on top of one another. -/
lemma ofSearch_eq {files : FileTree} {paths : List String}
    (hread : paths.map files.readText? = texts.map fun text => some (.ok text))
    (hparse : ∀ text ∈ texts, parse env text = .ok (ofText env text)) (base : Settings) :
    ofSearch env files base paths = .ok (.ok (stacked env base texts)) := by
  induction paths generalizing texts base with
  | nil =>
    cases texts with
    | nil => rfl
    | cons text rest => cases hread
  | cons path paths ih =>
    cases texts with
    | nil => cases hread
    | cons text rest =>
      obtain ⟨htext, hrest⟩ := List.cons.inj hread
      have hparsed := hparse text (List.mem_cons_self ..)
      have hmore := ih hrest (fun later hlater => hparse later (List.mem_cons_of_mem _ hlater))
        (base.merge (ofText env text))
      have hfile : fileText files path = .ok (.ok text) := by rw [fileText, htext]
      simp only [ofSearch, hfile, bind, ExceptT.bind, ExceptT.mk, ExceptT.lift, Except.bind,
        Functor.map, Except.map, ExceptT.bindCont, hparsed]
      exact hmore

/-- Files that do not change the group of a setting do not change the setting. -/
lemma get_stacked_of_not_changed (key : SettingKey α)
    (hparse : ∀ text ∈ texts, parse env text = .ok (ofText env text))
    (h : ∀ text ∈ texts, ¬ key.group.Changed env text) (base : Settings) :
    key.get (stacked env base texts) = key.get base := by
  induction texts generalizing base with
  | nil => rfl
  | cons text rest ih =>
    have hmem : text ∈ text :: rest := List.mem_cons_self ..
    have hdefault : key.group.isDefault (ofText env text) = true := by
      have hsame := h text hmem
      rw [SettingKey.changed_iff (hparse text hmem)] at hsame
      simpa using hsame
    calc key.get (stacked env base (text :: rest))
      _ = key.get (base.merge (ofText env text)) :=
        ih (fun later hlater => hparse later (List.mem_cons_of_mem _ hlater))
          (fun later hlater => h later (List.mem_cons_of_mem _ hlater)) _
      _ = key.get base := by rw [key.get_merge, if_pos hdefault]

/-- The last file that changes the group of a setting decides on the setting. -/
lemma get_stacked_of_changed (key : SettingKey α) {before after : List String} {text : String}
    (hparse : ∀ other ∈ before ++ text :: after, parse env other = .ok (ofText env other))
    (h : key.group.Changed env text) (hafter : ∀ later ∈ after, ¬ key.group.Changed env later)
    (base : Settings) :
    key.get (stacked env base (before ++ text :: after)) =
      (key.given? env text).getD key.default := by
  have hparsed := hparse text (by simp)
  have hchanged : ¬ key.group.isDefault (ofText env text) = true := by
    rw [SettingKey.changed_iff hparsed] at h
    simpa using h
  calc key.get (stacked env base (before ++ text :: after))
    _ = key.get (stacked env ((stacked env base before).merge (ofText env text)) after) := by
      rw [stacked, List.foldl_append]
      rfl
    _ = key.get ((stacked env base before).merge (ofText env text)) :=
      get_stacked_of_not_changed key (fun later hlater => hparse later (by simp [hlater])) hafter _
    _ = key.get (ofText env text) := by rw [key.get_merge, if_neg hchanged]
    _ = (key.given? env text).getD key.default := get_of_parse hparsed key

end Settings

/-! ### The last file that mentions a setting -/

namespace SettingKey

variable {α : Type} {env : Environment} {texts before after : List String} {text : String}

/-- A property holds of no entry of a list, or there is a last entry that has it. -/
lemma exists_last {β : Type} (P : β → Prop) (entries : List β) :
    (∀ entry ∈ entries, ¬ P entry) ∨ ∃ before entry after, entries = before ++ entry :: after ∧
      P entry ∧ ∀ later ∈ after, ¬ P later := by
  induction entries with
  | nil => exact .inl (by simp)
  | cons entry rest ih =>
    rcases ih with hnone | ⟨before, last, after, rfl, hlast, hafter⟩
    · by_cases hentry : P entry
      · exact .inr ⟨[], entry, rest, rfl, hentry, hnone⟩
      · refine .inl fun other hother => ?_
        rcases List.mem_cons.1 hother with rfl | hrest
        · exact hentry
        · exact hnone other hrest
    · exact .inr ⟨entry :: before, last, after, rfl, hlast, hafter⟩

/-- A setting that no file mentions has its default. -/
lemma lastGiven_of_none (key : SettingKey α) (h : ∀ text ∈ texts, key.given? env text = none) :
    key.lastGiven env texts = key.default := by
  have hnone : (texts.reverse.findSome? fun text => key.given? env text) = none :=
    List.findSome?_eq_none_iff.2 fun text htext => h text (List.mem_reverse.1 htext)
  rw [lastGiven, hnone, Option.getD_none]

/-- The last file that mentions a setting gives it its value. -/
lemma lastGiven_of_some (key : SettingKey α) {value : α} (h : key.given? env text = some value)
    (hafter : ∀ later ∈ after, key.given? env later = none) :
    key.lastGiven env (before ++ text :: after) = value := by
  have hnone : (after.reverse.findSome? fun text => key.given? env text) = none :=
    List.findSome?_eq_none_iff.2 fun text htext => hafter text (List.mem_reverse.1 htext)
  rw [lastGiven]
  simp [List.findSome?_append, hnone, h]

/-- A file that gives a setting a value other than its default changes its group. -/
lemma changed_of_given (key : SettingKey α) {value : α} (h : key.given? env text = some value)
    (hvalue : value ≠ key.default) : key.group.Changed env text :=
  ⟨α, key, value, rfl, h, hvalue⟩

/-- A setting is mentioned by no file, or by a last one. -/
lemma exists_last_given (key : SettingKey α) (env : Environment) (texts : List String) :
    (∀ text ∈ texts, key.given? env text = none) ∨
      ∃ before text after value, texts = before ++ text :: after ∧
        key.given? env text = some value ∧ ∀ later ∈ after, key.given? env later = none := by
  obtain hnone | ⟨before, text, after, rfl, hgiven, hafter⟩ :=
    exists_last (fun text => key.given? env text ≠ none) texts
  · exact .inl fun text htext => not_not.1 (hnone text htext)
  · obtain ⟨value, hvalue⟩ := Option.ne_none_iff_exists'.1 hgiven
    exact .inr ⟨before, text, after, value, rfl, hvalue,
      fun later hlater => not_not.1 (hafter later hlater)⟩

end SettingKey

namespace Settings

variable {α : Type} {env : Environment} {texts before after : List String} {text : String}

/-- If a setting has the value that the last file to mention it gives it, then a file that gives it
a value other than the default is followed by one that mentions it just when it is followed by one
that changes its group. -/
lemma given_later_iff_of_eq_lastGiven (key : SettingKey α) {value : α}
    (hparse : ∀ other ∈ before ++ text :: after, parse env other = .ok (ofText env other))
    (hsame : key.get (stacked env {} (before ++ text :: after)) =
      key.lastGiven env (before ++ text :: after))
    (hgiven : key.given? env text = some value) (hvalue : value ≠ key.default) :
    (∀ later ∈ after, key.given? env later = none) ↔
      ∀ later ∈ after, ¬ key.group.Changed env later := by
  constructor
  · intro hlast
    rw [key.lastGiven_of_some hgiven hlast] at hsame
    refine (SettingKey.exists_last _ after).resolve_right ?_
    rintro ⟨between, last, rest, rfl, hchanged, hrest⟩
    -- The last file that changes the group decides, and it does not mention the setting.
    have hdecides : key.get (stacked env {} ((before ++ text :: between) ++ last :: rest)) =
        (key.given? env last).getD key.default :=
      get_stacked_of_changed key (by simpa using hparse) hchanged hrest {}
    rw [hlast last (by simp), Option.getD_none, List.append_assoc, List.cons_append] at hdecides
    exact hvalue (hsame.symm.trans hdecides)
  · intro hlast
    have hchanged := key.changed_of_given hgiven hvalue
    rw [get_stacked_of_changed key hparse hchanged hlast, hgiven, Option.getD_some] at hsame
    refine (key.exists_last_given env after).resolve_right ?_
    rintro ⟨between, last, rest, other, rfl, hother, hrest⟩
    -- The last file that mentions the setting does not change the group, so it gives the default.
    have hlastGiven : key.lastGiven env ((before ++ text :: between) ++ last :: rest) = other :=
      key.lastGiven_of_some hother hrest
    rw [List.append_assoc, List.cons_append, ← hsame] at hlastGiven
    exact hlast last (by simp) (key.changed_of_given hother (hlastGiven ▸ hvalue))

/-- A setting has the value that the last file to mention it gives it, if and only if each file that
gives it a value other than the default is followed by one that mentions it just when it is followed
by one that changes its group. -/
lemma get_stacked_eq_lastGiven_iff (key : SettingKey α)
    (hparse : ∀ text ∈ texts, parse env text = .ok (ofText env text)) :
    key.get (stacked env {} texts) = key.lastGiven env texts ↔
      ∀ before text after value, texts = before ++ text :: after →
        key.given? env text = some value → value ≠ key.default →
        ((∀ later ∈ after, key.given? env later = none) ↔
          ∀ later ∈ after, ¬ key.group.Changed env later) := by
  constructor
  · rintro hsame before text after value rfl hgiven hvalue
    exact given_later_iff_of_eq_lastGiven key hparse hsame hgiven hvalue
  · intro h
    -- If nothing else is mentioned last, the file that decides gives the default as well.
    have hdefault : key.lastGiven env texts = key.default →
        key.get (stacked env {} texts) = key.default := by
      intro hlast
      obtain hnone | ⟨before, text, after, rfl, hchanged, hafter⟩ :=
        SettingKey.exists_last (key.group.Changed env ·) texts
      · exact get_stacked_of_not_changed key hparse hnone {}
      · rw [get_stacked_of_changed key hparse hchanged hafter]
        cases hgiven : key.given? env text with
        | none => rfl
        | some value =>
          by_contra hvalue
          have hlater := (h before text after value rfl hgiven hvalue).2 hafter
          rw [key.lastGiven_of_some hgiven hlater] at hlast
          exact hvalue hlast
    obtain hnone | ⟨before, text, after, value, rfl, hgiven, hafter⟩ :=
      key.exists_last_given env texts
    · rw [key.lastGiven_of_none hnone]
      exact hdefault (key.lastGiven_of_none hnone)
    · have hlast : key.lastGiven env (before ++ text :: after) = value :=
        key.lastGiven_of_some hgiven hafter
      by_cases hvalue : value = key.default
      · rw [hlast, hvalue]
        exact hdefault (hlast.trans hvalue)
      · have hchanged := key.changed_of_given hgiven hvalue
        have hlater := (h before text after value rfl hgiven hvalue).1 hafter
        rw [hlast, get_stacked_of_changed key hparse hchanged hlater, hgiven, Option.getD_some]

/-! ### Loading -/

/-- Without variables of the program in the environment the settings stay as they are. -/
lemma override_eq (henv : ∀ name, "CMD9_".toList.isPrefixOf name.toList = true →
    env.value? name = none) (settings : Settings) : override env settings = .ok settings := by
  have hfeedback : env.value? "CMD9_FEEDBACK" = none := henv _ (by decide)
  have herrors : env.value? "CMD9_ERROR_FEEDBACK" = none := henv _ (by decide)
  have hlimit : env.value? "CMD9_INTERPOLATION_LIMIT" = none := henv _ (by decide)
  have hdir : env.value? "CMD9_SCRIPT_DIR" = none := henv _ (by decide)
  have hprompt : env.value? "CMD9_PROMPT" = none := henv _ (by decide)
  have hlevel : env.value? "CMD9_LOG_LEVEL" = none := henv _ (by decide)
  simp only [override, overrideFlag, overrideLimit, nonEmptyValue?, overrideLevel, hfeedback,
    herrors, hlimit, hdir, hprompt, hlevel]
  rfl

/-- What is loaded from files that can be read are their settings, one on top of the other. -/
lemma load_search_eq {files : FileTree} {paths : List String}
    (henv : ∀ name, "CMD9_".toList.isPrefixOf name.toList = true → env.value? name = none)
    (hread : paths.map files.readText? = texts.map fun text => some (.ok text))
    (hparse : ∀ text ∈ texts, parse env text = .ok (ofText env text)) :
    load env files (.search paths) = .ok (.ok (stacked env {} texts)) := by
  have hconfig : env.value? "CMD9_CONFIG" = none := henv _ (by decide)
  unfold load
  simp only [hconfig, ofSearch_eq hread hparse, bind, ExceptT.bind, ExceptT.mk, Except.bind,
    ExceptT.bindCont, override_eq henv]
  rfl

/-- Settings are loaded from files that can be read, and no variable of the program is set.  The
last file that changes the group of a setting decides on it: the setting has the value that this
file gives it, or else its default, and also has that if no file changes the group.  This is the
value that the last file to mention the setting gives it if and only if each file that gives it a
value other than the default is followed by one that mentions it just when it is followed by one
that changes its group. -/
theorem load_search_eq_lastGiven_iff {files : FileTree} {paths : List String}
    (henv : ∀ name, "CMD9_".toList.isPrefixOf name.toList = true → env.value? name = none)
    (hread : paths.map files.readText? = texts.map fun text => some (.ok text))
    (hparse : ∀ text ∈ texts, ∃ settings, parse env text = .ok settings) :
    ∃ settings, load env files (.search paths) = .ok (.ok settings) ∧
      ∀ (α : Type) (key : SettingKey α),
        ((∀ text ∈ texts, ¬ key.group.Changed env text) → key.get settings = key.default) ∧
        (∀ before text after, texts = before ++ text :: after → key.group.Changed env text →
          (∀ later ∈ after, ¬ key.group.Changed env later) →
            key.get settings = (key.given? env text).getD key.default) ∧
        (key.get settings = key.lastGiven env texts ↔
          ∀ before text after value, texts = before ++ text :: after →
            key.given? env text = some value → value ≠ key.default →
            ((∀ later ∈ after, key.given? env later = none) ↔
              ∀ later ∈ after, ¬ key.group.Changed env later)) := by
  have hparsed : ∀ text ∈ texts, parse env text = .ok (ofText env text) := by
    intro text htext
    obtain ⟨settings, hsettings⟩ := hparse text htext
    rw [ofText, hsettings]
    rfl
  refine ⟨stacked env {} texts, load_search_eq henv hread hparsed, fun α key => ⟨?_, ?_, ?_⟩⟩
  · intro hnone
    exact get_stacked_of_not_changed key hparsed hnone {}
  · rintro before text after rfl hchanged hafter
    exact get_stacked_of_changed key hparsed hchanged hafter {}
  · exact get_stacked_eq_lastGiven_iff key hparsed

/-! ### Two files -/

/-- Texts from which settings can be read. -/
lemma parse_eq_ok_of_isSome
    (h : ∀ text ∈ texts, (read? (env.expand text)).isSome = true) :
    ∀ text ∈ texts, parse env text = .ok (ofText env text) := by
  intro text htext
  obtain ⟨settings, hsettings⟩ := Option.isSome_iff_exists.1 (h text htext)
  have hparse : parse env text = .ok settings := by rw [parse, hsettings]
  rw [ofText, hparse]
  rfl

/-- Without entries no variable is set. -/
lemma value?_ofList_nil (name : String) : (Environment.ofList []).value? name = none := by
  simp [Environment.value?, Environment.ofList]

/-- The text of a file that stands at a path. -/
lemma readText?_of_node? {files : FileTree} {path : String} (text : String)
    (h : files.node? path = some (.file text.toUTF8)) :
    files.readText? path = some (.ok text) := by
  have htext : String.fromUTF8? text.toUTF8 = some text := dif_pos text.isValidUTF8
  simp only [FileTree.readText?, h, Option.map_some, htext]

/-- Two files of the working directory. -/
lemma readText?_pair (first second : String) :
    ["a.yaml", "b.yaml"].map ((FileTree.empty.insert "a.yaml" (.file first.toUTF8)).insert "b.yaml"
      (.file second.toUTF8)).readText? = [first, second].map fun text => some (.ok text) := by
  simp only [List.map_cons, List.map_nil]
  rw [readText?_of_node? first rfl, readText?_of_node? second rfl]

/-- The second of two files sets the format of logging, and the first one the level: the second one
decides on both. -/
theorem load_search_of_two_files :
    let first := "logging:\n  level: debug\n"
    let second := "logging:\n  format: json\n"
    let files := (FileTree.empty.insert "a.yaml" (.file first.toUTF8)).insert "b.yaml"
      (.file second.toUTF8)
    ["a.yaml", "b.yaml"].map files.readText? = [some (.ok first), some (.ok second)] ∧
      ∃ settings, load (.ofList []) files (.search ["a.yaml", "b.yaml"]) = .ok (.ok settings) ∧
        SettingKey.logFormat.get settings = .json ∧ SettingKey.logLevel.get settings = .warn := by
  intro first second files
  have hread := readText?_pair first second
  have heval : (∀ text ∈ [first, second],
        (read? (Environment.expand (.ofList []) text)).isSome = true) ∧
      SettingKey.logFormat.given? (.ofList []) second = some .json ∧
      SettingKey.logLevel.given? (.ofList []) second = none := by decide +kernel
  obtain ⟨hsome, hformat, hlevel⟩ := heval
  have hparse := parse_eq_ok_of_isSome hsome
  have hchanged : SettingGroup.logging.Changed (.ofList []) second :=
    ⟨_, .logFormat, .json, rfl, hformat, by decide⟩
  obtain ⟨settings, hload, hkeys⟩ := load_search_eq_lastGiven_iff
    (fun name _ => value?_ofList_nil name) hread fun text htext => ⟨_, hparse text htext⟩
  have hdecides {α : Type} (key : SettingKey α) (hgroup : key.group = .logging) :
      key.get settings = (key.given? (.ofList []) second).getD key.default :=
    (hkeys α key).2.1 [first] second [] rfl (hgroup ▸ hchanged) (by simp)
  refine ⟨hread, settings, hload, ?_, ?_⟩
  · rw [hdecides .logFormat rfl, hformat, Option.getD_some]
  · rw [hdecides .logLevel rfl, hlevel]
    rfl

/-- A setting need not have the value that the last file to mention it gives it.  The level of
logging is lost when the next file sets the format, and the feedback stays off when the next file
turns it on, as that is the default. -/
theorem load_search_ne_lastGiven :
    let first := "interpreter:\n  feedback: false\nlogging:\n  level: debug\n"
    let second := "interpreter:\n  feedback: true\nlogging:\n  format: json\n"
    let files := (FileTree.empty.insert "a.yaml" (.file first.toUTF8)).insert "b.yaml"
      (.file second.toUTF8)
    ["a.yaml", "b.yaml"].map files.readText? = [some (.ok first), some (.ok second)] ∧
      ∃ settings, load (.ofList []) files (.search ["a.yaml", "b.yaml"]) = .ok (.ok settings) ∧
        (SettingKey.logLevel.get settings = .warn ∧
          SettingKey.logLevel.lastGiven (.ofList []) [first, second] = .debug) ∧
        SettingKey.feedback.get settings = false ∧
          SettingKey.feedback.lastGiven (.ofList []) [first, second] = true := by
  intro first second files
  have hread := readText?_pair first second
  have hsome : ∀ text ∈ [first, second],
      (read? (Environment.expand (.ofList []) text)).isSome = true := by decide +kernel
  refine ⟨hread, _, load_search_eq (fun name _ => value?_ofList_nil name) hread
    (parse_eq_ok_of_isSome hsome), ?_⟩
  decide +kernel

end Settings

end LineShell
