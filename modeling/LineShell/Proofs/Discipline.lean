import LineShell.Session.Interpreter
import Mathlib.Tactic.Common

/-!
# Disciplined sessions

A host program can set the mark of a temporary scope and the guard of a run in Global without ever
taking them back.  A session is *disciplined* if no program in it does so, neither among the
commands that it has nor among those that it can take from its registry; all its marks and guards
are then set by guarded runs.

Commands are brought in as aliases, as scripts and from the registry, so a disciplined session stays
disciplined.
-/

namespace LineShell

/-- Whether an instruction leaves the marks and the guards of the scopes to guarded runs. -/
def Instruction.isDisciplined : Instruction → Bool
  | .beginTemporary => false
  | .beginGlobal => false
  | _ => true

/-- Whether a body leaves the marks and the guards of the scopes to guarded runs. -/
def Body.isDisciplined : Body → Bool
  | .program instructions => instructions.all Instruction.isDisciplined
  | _ => true

/-- A body is a program of the host, or one of the interpreter. -/
lemma Body.eq_program_or_ne (body : Body) :
    (∃ instructions, body = .program instructions) ∨
      ∀ instructions, body ≠ .program instructions := by
  cases body with
  | program instructions => exact .inl ⟨instructions, rfl⟩
  | _ => exact .inr fun instructions h => by cases h

/-- All commands of the package have disciplined bodies. -/
def Package.Disciplined (package : Package) : Prop :=
  ∀ entry ∈ package.commands.entries, entry.2.body.isDisciplined = true

/-- All commands of the packages that a registry makes have disciplined bodies. -/
def Registry.Disciplined (registry : Registry) : Prop :=
  ∀ entry ∈ registry.entries, ∀ package, entry.2 = .ok package → package.Disciplined

/-- All commands that a session has, or can take from its registry, have disciplined bodies. -/
structure Session.Disciplined (s : Session) : Prop where
  packages : ∀ package ∈ s.packages.toList, package.Disciplined
  registry : s.registry.Disciplined

/-- A computation that returns has a first part that returns. -/
lemma exists_of_bind_eq_ok {α β : Type} {x : Except Error α} {f : α → Except Error β} {b : β}
    (h : x >>= f = .ok b) : ∃ a, x = .ok a ∧ f a = .ok b := by
  cases x with
  | error e => exact absurd h (by simp [bind, Except.bind])
  | ok a => exact ⟨a, rfl, h⟩

/-- What a look-up finds is an entry. -/
lemma NameMap.mem_of_find? {α : Type} {map : NameMap α} {name : String} {a : α}
    (h : map.find? name = some a) : (name, a) ∈ map.entries := by
  obtain ⟨before, after, heq, -⟩ := List.lookup_eq_some_iff.1 h
  rw [heq]
  exact List.mem_append_right _ List.mem_cons_self

/-- What is in a map after entries are put into it is one of them, or was there before. -/
lemma NameMap.mem_of_mem_foldl_insert {α : Type} {entries : List (String × α)} {map : NameMap α}
    {entry : String × α}
    (h : entry ∈ (entries.foldl (fun map e => map.insert e.1 e.2) map).entries) :
    entry ∈ entries ∨ entry ∈ map.entries := by
  induction entries generalizing map with
  | nil => exact .inr h
  | cons first rest ih =>
    rcases ih h with hrest | hmap
    · exact .inl (List.mem_cons_of_mem _ hrest)
    · rcases NameMap.mem_insertEntry hmap with rfl | hmem
      · exact .inl List.mem_cons_self
      · exact .inr hmem

namespace Package.Disciplined

/-- A package without commands is disciplined. -/
lemma empty (name : String) : (Package.empty name).Disciplined := by
  intro entry hentry
  simp [Package.empty, NameMap.empty] at hentry

/-- A disciplined command keeps a package disciplined. -/
lemma register {package next : Package} {name : String} {command : Command}
    (h : package.Disciplined) (hc : command.body.isDisciplined = true)
    (hr : package.register name command = .ok next) : next.Disciplined := by
  obtain ⟨_, -, hnext⟩ := exists_of_bind_eq_ok hr
  cases hnext
  intro entry hentry
  rcases NameMap.mem_insertEntry hentry with rfl | hmem
  · exact hc
  · exact h entry hmem

/-- A package of disciplined commands is disciplined. -/
lemma ofList {name : String} {entries : List (String × Command)}
    (h : ∀ entry ∈ entries, entry.2.body.isDisciplined = true) :
    (⟨name, .ofList entries⟩ : Package).Disciplined := by
  intro entry hentry
  rcases NameMap.mem_of_mem_foldl_insert hentry with hmem | hempty
  · exact h entry hmem
  · simp [NameMap.empty] at hempty

/-- The built-in commands are disciplined. -/
lemma native : nativePackage.Disciplined := .ofList (by decide)

/-- The commands on texts are disciplined. -/
lemma text : textPackage.Disciplined := .ofList (by decide)

end Package.Disciplined

/-- The packages that can be used without loading them are disciplined. -/
lemma Registry.disciplined_standardRegistry : standardRegistry.Disciplined := by
  intro entry hmem package heq
  rcases NameMap.mem_insertEntry hmem with rfl | hempty
  · cases heq
    exact .text
  · simp [NameMap.empty] at hempty

/-- What is in a list of packages after one is added is that one, or was there before. -/
lemma PackageSet.mem_addTo {package p : Package} {packages : List Package}
    (h : p ∈ (addTo package packages).2) : p = package ∨ p ∈ packages := by
  induction packages with
  | nil => simpa [addTo] using h
  | cons other rest ih =>
    rw [addTo] at h
    split at h
    · rcases List.mem_cons.1 h with rfl | hmem
      · exact .inl rfl
      · exact .inr (List.mem_cons_of_mem _ hmem)
    · rcases List.mem_cons.1 h with rfl | hmem
      · exact .inr List.mem_cons_self
      · exact (ih hmem).imp_right (List.mem_cons_of_mem _)

/-- The command that a name stands for is in one of the packages. -/
lemma PackageSet.mem_of_resolve? {set : PackageSet} {name : String} {package : Package}
    {command : Command} (h : set.resolve? name = some (package, command)) :
    package ∈ set.toList ∧ (name, command) ∈ package.commands.entries := by
  obtain ⟨found, hmem, hfound⟩ := List.exists_of_findSome?_eq_some h
  obtain ⟨c, hc, heq⟩ := Option.map_eq_some_iff.1 hfound
  obtain ⟨rfl, rfl⟩ := Prod.mk.inj heq
  exact ⟨hmem, NameMap.mem_of_find? hc⟩

/-- A name of the native package stands for its command there. -/
lemma PackageSet.resolve?_of_native {set : PackageSet} {name : String} {command : Command}
    (h : set.native.commands.find? name = some command) :
    set.resolve? name = some (set.native, command) := by
  unfold resolve? toList
  rw [List.findSome?_cons, h]
  rfl

namespace Session

variable {s t : Session}

/-- Adding a package touches nothing but the packages. -/
lemma addPackage_eq_ok {package : Package} (h : s.addPackage package = .ok t) :
    t = { s with packages := (s.packages.add package).2 } := by
  unfold addPackage at h
  split at h
  · cases h
  · exact (Except.ok.inj h).symm

/-- Nor does adding packages one after the other. -/
lemma exists_of_addPackages {packages : List Package} (h : s.addPackages packages = .ok t) :
    ∃ set, t = { s with packages := set } := by
  induction packages generalizing s with
  | nil =>
    cases h
    exact ⟨_, rfl⟩
  | cons package rest ih =>
    obtain ⟨next, hnext, hrest⟩ := exists_of_bind_eq_ok h
    obtain ⟨set, rfl⟩ := ih hrest
    rw [addPackage_eq_ok hnext]
    exact ⟨set, rfl⟩

end Session

namespace Session.Disciplined

variable {s t : Session}

/-- Discipline depends on the packages and the registry only. -/
lemma of_eq (h : s.Disciplined) (hp : t.packages = s.packages) (hr : t.registry = s.registry) :
    t.Disciplined :=
  ⟨by rw [hp]; exact h.packages, by rw [hr]; exact h.registry⟩

/-- The commands that names stand for have disciplined bodies. -/
lemma body_of_resolve? (h : s.Disciplined) {name : String} {package : Package} {command : Command}
    (hr : s.packages.resolve? name = some (package, command)) :
    command.body.isDisciplined = true := by
  obtain ⟨hpackage, hcommand⟩ := PackageSet.mem_of_resolve? hr
  exact h.packages package hpackage _ hcommand

/-- Other custom commands keep a session disciplined if they are so. -/
lemma withCustom (h : s.Disciplined) {custom : Package} (hc : custom.Disciplined) :
    ({ s with packages := { s.packages with custom } } : Session).Disciplined := by
  refine ⟨fun package hmem => ?_, h.registry⟩
  simp only [PackageSet.toList, List.mem_cons] at hmem
  rcases hmem with rfl | rfl | hmem
  · exact h.packages _ (by simp [PackageSet.toList])
  · exact hc
  · exact h.packages package (by simp [PackageSet.toList, hmem])

/-- The custom commands of a disciplined session are so. -/
lemma custom (h : s.Disciplined) : s.packages.custom.Disciplined :=
  h.packages _ (by simp [PackageSet.toList])

/-- A disciplined package keeps a session disciplined. -/
lemma addPackage (h : s.Disciplined) {package : Package} (hp : package.Disciplined)
    (ha : s.addPackage package = .ok t) : t.Disciplined := by
  unfold Session.addPackage at ha
  split at ha
  · exact absurd ha (by simp)
  · cases ha
    refine ⟨fun p hmem => ?_, h.registry⟩
    simp only [PackageSet.add, PackageSet.toList, List.mem_cons] at hmem
    rcases hmem with rfl | rfl | hmem
    · exact h.packages _ (by simp [PackageSet.toList])
    · exact h.custom
    · rcases PackageSet.mem_addTo hmem with rfl | hmem
      · exact hp
      · exact h.packages p (by simp [PackageSet.toList, hmem])

/-- Disciplined packages keep a session disciplined. -/
lemma addPackages {packages : List Package} (h : s.Disciplined)
    (hp : ∀ package ∈ packages, package.Disciplined) (ha : s.addPackages packages = .ok t) :
    t.Disciplined := by
  induction packages generalizing s with
  | nil =>
    cases ha
    exact h
  | cons package rest ih =>
    obtain ⟨next, hnext, hrest⟩ := exists_of_bind_eq_ok ha
    have hdisc := h.addPackage (hp package List.mem_cons_self) hnext
    exact ih hdisc (fun p hmem => hp p (List.mem_cons_of_mem _ hmem)) hrest

/-- What the registry makes keeps a session disciplined. -/
lemma usePackage (h : s.Disciplined) {name : String} (hu : s.usePackage name = .ok t) :
    t.Disciplined := by
  obtain ⟨package, hcreate, hadd⟩ := exists_of_bind_eq_ok hu
  refine h.addPackage ?_ hadd
  unfold Registry.create at hcreate
  cases hfind : NameMap.find? s.registry name with
  | none => simp [hfind] at hcreate
  | some made =>
    rw [hfind] at hcreate
    exact h.registry _ (NameMap.mem_of_find? hfind) package hcreate

/-- A session with a disciplined registry is disciplined at its start. -/
lemma start (options : SessionOptions) {registry : Registry} (h : registry.Disciplined)
    (files : FileTree) : (Session.start options registry files).Disciplined := by
  refine ⟨fun package hmem => ?_, h⟩
  rcases List.mem_cons.1 hmem with rfl | hmem
  · exact .native
  · rw [List.mem_singleton.1 hmem]
    exact .empty customName

end Session.Disciplined

end LineShell
