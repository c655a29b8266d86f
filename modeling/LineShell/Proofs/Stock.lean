import LineShell.Proofs.Routine.Interpreter
import Mathlib.Logic.Relation

/-!
# What becomes of the packages

The packages of a session are changed in few ways.  `Package.Made` describes the packages that can
be made at all, and `PackageSet.Step` the changes that commands make: they put commands among the
custom ones, take them out again, and add packages under names that are not taken.  The native
package is left alone by all of them.

What a run does to the packages is a sequence of such steps, which is what `Session.Stocks` says of
the sessions before and after it.  That runs of the interpreter are like this is proved with the
other properties of all runs; this module has the single steps.
-/

namespace LineShell

open Relation (ReflTransGen)

/-! ### Packages that can be made -/

/-- The packages that can be made: from an empty one, by registering commands, by taking commands
out, and by taking in those of another package. -/
inductive Package.Made : Package → Prop
  | empty (name : String) : Made (.empty name)
  | registered {package next : Package} {name : String} {command : Command} (h : Made package)
      (hr : package.register name command = .ok next) : Made next
  | erased {package : Package} (h : Made package) (name : String) :
      Made { package with commands := package.commands.erase name }
  | absorbed {package other : Package} (h : Made package) (hother : Made other) :
      Made (package.absorb other)

/-- All packages that a registry makes can be made. -/
def Registry.Made (registry : Registry) : Prop :=
  ∀ name package, registry.create name = .ok package → package.Made

namespace Package

/-- Commands that are accepted under their names can be put into a package. -/
lemma Made.foldl_insert {name : String} {entries : List (String × Command)}
    (haccepted : ∀ entry ∈ entries, entry.2.check entry.1 = .ok ()) {map : NameMap Command}
    (h : Made ⟨name, map⟩) : Made ⟨name, entries.foldl (fun map e => map.insert e.1 e.2) map⟩ := by
  induction entries generalizing map with
  | nil => exact h
  | cons entry rest ih =>
    have hregister : register ⟨name, map⟩ entry.1 entry.2 =
        .ok ⟨name, map.insert entry.1 entry.2⟩ := by
      rw [register, haccepted entry List.mem_cons_self]
      rfl
    exact ih (fun e he => haccepted e (List.mem_cons_of_mem _ he)) (h.registered hregister)

/-- A package of commands that are accepted under their names can be made. -/
lemma made_ofList {name : String} {entries : List (String × Command)}
    (haccepted : ∀ entry ∈ entries, entry.2.check entry.1 = .ok ()) :
    Made ⟨name, .ofList entries⟩ :=
  .foldl_insert haccepted (.empty name)

/-- The package of the built-in commands can be made. -/
lemma made_nativePackage : nativePackage.Made := made_ofList (by decide +kernel)

/-- The package of commands on texts can be made. -/
lemma made_textPackage : textPackage.Made := made_ofList (by decide +kernel)

end Package

/-- What the standard registry makes can be made. -/
lemma Registry.made_standardRegistry : Registry.Made standardRegistry := by
  intro name package h
  unfold Registry.create at h
  cases hfind : NameMap.find? standardRegistry name with
  | none => simp [hfind] at h
  | some made =>
    rw [hfind] at h
    rcases NameMap.mem_insertEntry (NameMap.mem_of_find? hfind) with heq | hempty
    · obtain ⟨-, rfl⟩ := Prod.mk.inj heq
      cases h
      exact Package.made_textPackage
    · simp [NameMap.empty] at hempty

/-! ### Steps -/

/-- The changes that commands make to the packages. -/
inductive PackageSet.Step (registry : Registry) (set : PackageSet) : PackageSet → Prop
  /-- A command is put among the custom ones. -/
  | registered {name : String} {command : Command} {next : PackageSet}
      (h : set.registerCustom name command = .ok next) : Step registry set next
  /-- A command is taken out of the custom ones. -/
  | unregistered (name : String) : Step registry set
      { set with custom := { set.custom with commands := set.custom.commands.erase name } }
  /-- A package is added. -/
  | added {package : Package} (hmade : package.Made ∨ ∃ name, registry.create name = .ok package)
      (hnative : package.name ≠ nativeName) (hcustom : package.name ≠ customName) :
      Step registry set (set.add package).2

/-- No such change touches the native package. -/
lemma PackageSet.Step.native_eq {registry : Registry} {set next : PackageSet}
    (h : set.Step registry next) : next.native = set.native := by
  cases h with
  | registered h =>
    obtain ⟨custom, -, hnext⟩ := exists_of_bind_eq_ok h
    cases hnext
    rfl
  | unregistered name => rfl
  | added hmade hnative hcustom => rfl

/-- Nor does any number of them. -/
lemma PackageSet.native_eq_of_steps {registry : Registry} {set next : PackageSet}
    (h : ReflTransGen (PackageSet.Step registry) set next) : next.native = set.native := by
  induction h with
  | refl => rfl
  | tail _ hstep ih => exact hstep.native_eq.trans ih

namespace Session

variable {s t u : Session}

/-- The packages of the second session come from those of the first one by steps. -/
structure Stocks (s t : Session) : Prop where
  registry : t.registry = s.registry
  packages : ReflTransGen (PackageSet.Step s.registry) s.packages t.packages

namespace Stocks

/-- The packages may stay as they are. -/
lemma of_eq (hpackages : t.packages = s.packages) (hregistry : t.registry = s.registry) :
    s.Stocks t :=
  ⟨hregistry, hpackages ▸ .refl⟩

/-- Steps may be followed by others. -/
lemma trans (hst : s.Stocks t) (htu : t.Stocks u) : s.Stocks u := by
  refine ⟨htu.registry.trans hst.registry, hst.packages.trans ?_⟩
  have hsteps := htu.packages
  rwa [hst.registry] at hsteps

/-- A single step. -/
lemma single {packages : PackageSet} (h : s.packages.Step s.registry packages) :
    s.Stocks { s with packages } :=
  ⟨rfl, .single h⟩

/-- The packages of kin sessions are the same. -/
lemma of_kin (h : s.Kin t) : s.Stocks t := of_eq h.packages h.registry

/-- The native package stays as it is. -/
lemma native_eq (h : s.Stocks t) : t.packages.native = s.packages.native :=
  PackageSet.native_eq_of_steps h.packages

/-- Adding a package that can be made, or that the registry makes. -/
lemma addPackage {package : Package}
    (hmade : package.Made ∨ ∃ name, s.registry.create name = .ok package)
    (h : s.addPackage package = .ok t) : s.Stocks t := by
  unfold Session.addPackage at h
  split at h
  · cases h
  · next hname =>
    cases h
    exact single (.added hmade (fun heq => hname (.inl heq)) fun heq => hname (.inr heq))

/-- Adding a package of the registry. -/
lemma usePackage {name : String} (h : s.usePackage name = .ok t) : s.Stocks t := by
  obtain ⟨package, hcreate, hadd⟩ := exists_of_bind_eq_ok h
  exact addPackage (.inr ⟨name, hcreate⟩) hadd

end Stocks

end Session

/-! ### Packages of scripts -/

namespace Engine

open Routine (exists_of_bind_eq_done eq_of_pure_eq_done)

/-- Scripts are put into a package that can be made. -/
lemma made_of_registerScripts {package next : Package} {paths : List String} {s t : Session}
    (hp : package.Made) (h : discoverPackages.registerScripts package paths s = (.done next, t)) :
    next.Made := by
  induction paths generalizing package s with
  | nil => exact eq_of_pure_eq_done h ▸ hp
  | cons path rest ih =>
    obtain ⟨loaded, u, -, hnext⟩ := exists_of_bind_eq_done h
    obtain ⟨registered, v, hregister, hrest⟩ := exists_of_bind_eq_done hnext
    refine ih ?_ hrest
    cases hr : package.register loaded.1 loaded.2 with
    | error e => simp [hr, Engine.ofExcept, Engine.fail] at hregister
    | ok made =>
      rw [hr] at hregister
      exact eq_of_pure_eq_done hregister ▸ hp.registered hr

/-- The scripts of a directory are made into packages. -/
lemma made_of_discoverPackages {dir : String} {packages : List Package} {s t : Session}
    (h : discoverPackages dir s = (.done packages, t)) : ∀ package ∈ packages, package.Made := by
  obtain ⟨paths, u, -, hnext⟩ := exists_of_bind_eq_done h
  cases paths with
  | nil =>
    have heq := eq_of_pure_eq_done hnext
    simp [← heq]
  | cons path rest =>
    obtain ⟨made, v, hmade, hlast⟩ := exists_of_bind_eq_done hnext
    intro package hmem
    rw [← eq_of_pure_eq_done hlast, List.mem_singleton] at hmem
    rw [hmem]
    exact made_of_registerScripts (.empty _) hmade

end Engine

end LineShell
